import DeferredResponse.Toml.Entries
import DeferredResponse.Toml.Scalar

/-!
# TOML documents

A document is a sequence of statements, each on a line of its own; only strings on several lines and
arrays reach over the end of a line. It is read in two passes: first into statements, then into a
table.
-/

namespace DeferredResponse.Toml

/-- The greatest number of parts of a key, and of arrays and inline tables inside each other. -/
def maxDepth : Nat := 79

/-! ## Keys -/

def isKeyChar (c : Char) : Bool := c.isAlphanum || c = '_' || c = '-'

/-- Reads one part of a key. -/
def keyPart? : List Char → Option (String × List Char)
  | '"' :: rest => do
    let (text, rest) ← basic? rest.length rest
    return (String.ofList text, rest)
  | '\'' :: rest => do
    let (text, rest) ← literal? rest
    return (String.ofList text, rest)
  | s =>
    let part := s.takeWhile isKeyChar
    if part.isEmpty then none else some (String.ofList part, s.dropWhile isKeyChar)

/-- Reads a key of at most so many parts with points between them, and the blanks around each part.
-/
def key? : Nat → List Char → Option (List String × List Char)
  | 0, _ => none
  | parts + 1, s => do
    let (part, rest) ← keyPart? (skipBlanks s)
    match skipBlanks rest with
    | '.' :: rest =>
      let (path, rest) ← key? parts rest
      return (part :: path, rest)
    | rest => return ([part], rest)

/-! ## Values -/

section

variable (nested? : List Char → Option (Value × List Char))

/-- Reads the elements of an array and its closing bracket; `fuel` bounds their number. A comma may
follow the last element. -/
def elements? : Nat → List Char → Option (List Value × List Char)
  | 0, _ => none
  | fuel + 1, s =>
    match skipLayout false s with
    | ']' :: rest => some ([], rest)
    | s => do
      let (value, rest) ← nested? s
      match skipLayout false rest with
      | ',' :: rest =>
        let (values, rest) ← elements? fuel rest
        return (value :: values, rest)
      | ']' :: rest => return ([value], rest)
      | _ => none

/-- Reads a key, an equals sign and a value, with the blanks around them. -/
def pair? (s : List Char) : Option ((List String × Value) × List Char) := do
  let (path, rest) ← key? maxDepth s
  let (value, rest) ← nested? (skipBlanks (← expect? '=' rest))
  return ((path, value), skipBlanks rest)

/-- Reads the pairs of an inline table and its closing brace; `fuel` bounds their number. -/
def pairs? : Nat → List Char → Option (List (List String × Value) × List Char)
  | 0, _ => none
  | fuel + 1, s => do
    let (pair, rest) ← pair? nested? s
    match rest with
    | ',' :: rest =>
      let (pairs, rest) ← pairs? fuel rest
      return (pair :: pairs, rest)
    | '\x7d' :: rest => return ([pair], rest)
    | _ => none

/-- Reads an inline table behind its opening brace. -/
def inlineTable? (s : List Char) : Option (Value × List Char) := do
  let (pairs, rest) ← match skipBlanks s with
    | '\x7d' :: rest => some ([], rest)
    | _ => pairs? nested? s.length s
  return (.table .inline (← Entries.ofAssignments? pairs), rest)

end

/-- Reads a value with at most so many arrays and inline tables inside each other. -/
def value? : Nat → List Char → Option (Value × List Char)
  | depth, s =>
    match s, depth with
    | '"' :: _, _ | '\'' :: _, _ => (quoted? s).map fun (text, rest) => (.string text, rest)
    | '[' :: rest, depth + 1 =>
      (elements? (value? depth) s.length rest).map fun (values, rest) => (.array values, rest)
    | '\x7b' :: rest, depth + 1 => inlineTable? (value? depth) rest
    | _, _ => scalar? s

/-! ## Statements -/

/-- Reads the header of a table, or of an element of an array of tables. -/
def header? : List Char → Option (Statement × List Char)
  | '[' :: '[' :: rest => do
    let (path, rest) ← key? maxDepth rest
    return (.element path, ← expect? ']' (← expect? ']' rest))
  | '[' :: rest => do
    let (path, rest) ← key? maxDepth rest
    return (.table path, ← expect? ']' rest)
  | _ => none

def statement? : List Char → Option (Statement × List Char)
  | s@('[' :: _) => header? s
  | s => do
    let ((path, value), rest) ← pair? (value? maxDepth) s
    return (.assign path value, rest)

/-- Reads lines up to the end of the text; `fuel` bounds their number. -/
def statements? : Nat → List Char → Option (List Statement)
  | 0, _ => none
  | fuel + 1, s =>
    match skipBlanks s with
    | [] => some []
    | c :: rest =>
      if c = '#' || c = '\n' || c = '\r' then do
        statements? fuel (← lineEnd? (c :: rest))
      else do
        let (statement, rest) ← statement? (c :: rest)
        let statements ← statements? fuel (← lineEnd? rest)
        return statement :: statements

/-- The text without the mark of its byte order. -/
def withoutMark : List Char → List Char
  | '\ufeff' :: rest => rest
  | s => s

def parse? (text : String) : Option (List Statement) :=
  let s := withoutMark text.toList
  statements? (s.length + 1) s

def read? (text : String) : Option Entries := do
  assemble? (← parse? text)

end DeferredResponse.Toml
