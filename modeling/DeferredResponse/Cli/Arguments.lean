import DeferredResponse.Page

/-!
# Command-line arguments

Options are read from left to right. An option with a value takes it from the rest of its own
argument, or from the next one unless that looks like an option; each option is given at most once.
Asking for the help or the version ends the reading where it stands.
-/

namespace DeferredResponse.Cli

structure Arguments where
  format : Option Page.Format := none
  fail : Bool := false
  redirect : Option String := none
  /-- The path of a configuration. -/
  config : Option String := none
  deriving DecidableEq, Repr

/-- The request that the arguments state. -/
def Arguments.request (arguments : Arguments) : Page.Request :=
  { format := arguments.format.getD .html, fail := arguments.fail, redirect := arguments.redirect }

/-- What a command line asks for. -/
inductive Invocation where
  | run (arguments : Arguments)
  | help
  | version
  deriving DecidableEq, Repr

/-- The options that take a value. -/
inductive Valued where
  | format
  | redirect
  | config
  deriving DecidableEq, Repr

inductive Flag where
  | valued (option : Valued)
  | fail
  | help
  | version
  deriving DecidableEq, Repr

/-- The option of a long name. -/
def longFlag? : String → Option Flag
  | "format" => some (.valued .format)
  | "fail" => some .fail
  | "redirect" => some (.valued .redirect)
  | "config" => some (.valued .config)
  | "help" => some .help
  | "version" => some .version
  | _ => none

/-- The option of a short name. -/
def shortFlag? : Char → Option Flag
  | 'f' => some (.valued .format)
  | 'c' => some (.valued .config)
  | 'h' => some .help
  | 'V' => some .version
  | _ => none

/-- The representation of a name. -/
def format? : String → Option Page.Format
  | "html" => some .html
  | "json" => some .json
  | _ => none

/-- Gives an option its value, unless it has one or the value is none of its own. -/
def Arguments.set? (arguments : Arguments) (value : String) : Valued → Option Arguments
  | .format => do
    let format ← format? value
    if arguments.format.isNone then return { arguments with format } else none
  | .redirect =>
    if arguments.redirect.isNone then some { arguments with redirect := value } else none
  | .config =>
    if arguments.config.isNone ∧ value ≠ "" then some { arguments with config := value } else none

/-- An argument, by its form. -/
inductive Form where
  /-- The mark behind which no options stand. -/
  | endOfOptions
  /-- A long name, with the value that follows an equals sign. -/
  | long (name : String) (value : Option String)
  /-- A short name, with the text that follows it. -/
  | short (name : Char) (rest : List Char)
  | plain
  deriving DecidableEq, Repr

/-- The form of an argument; a single hyphen is a value. -/
def formOf (argument : String) : Form :=
  match argument.toList with
  | ['-', '-'] => .endOfOptions
  | '-' :: '-' :: rest =>
    let name := String.ofList (rest.takeWhile (· ≠ '='))
    match rest.dropWhile (· ≠ '=') with
    | [] => .long name none
    | _ :: value => .long name (some (String.ofList value))
  | '-' :: name :: rest => .short name rest
  | _ => .plain

/-- The option that an argument names, with the value that is attached to it. One equals sign may
stand between a short name and its value. -/
def Form.flag? : Form → Option (Flag × Option String)
  | long name value => do
    let flag ← longFlag? name
    match flag, value with
    | .valued _, value => return (flag, value)
    | _, none => return (flag, none)
    | _, some _ => none
  | short name rest => do
    let flag ← shortFlag? name
    let value := match rest with
      | [] => none
      | '=' :: rest => some (String.ofList rest)
      | rest => some (String.ofList rest)
    return (flag, value)
  | endOfOptions | plain => none

/-- Reads arguments; `pending` is the option that waits for its value. None stands for arguments
that cannot be used. -/
def Arguments.scan? (arguments : Arguments) (pending : Option Valued) :
    List String → Option Invocation
  | [] => if pending.isNone then some (.run arguments) else none
  | argument :: rest =>
    match pending, formOf argument with
    | some option, .plain => do
      let arguments ← arguments.set? argument option
      arguments.scan? none rest
    | some _, _ => none
    | none, .endOfOptions => if rest.isEmpty then some (.run arguments) else none
    | none, form =>
      match form.flag? with
      | some (.valued option, some value) => do
        let arguments ← arguments.set? value option
        arguments.scan? none rest
      | some (.valued option, none) => arguments.scan? (some option) rest
      | some (.fail, _) =>
        if arguments.fail then none else { arguments with fail := true }.scan? none rest
      | some (.help, _) => some .help
      | some (.version, _) => some .version
      | none => none

/-- What the arguments of a command line ask for, if they can be used. -/
def invocation? (arguments : List String) : Option Invocation := Arguments.scan? {} none arguments

end DeferredResponse.Cli
