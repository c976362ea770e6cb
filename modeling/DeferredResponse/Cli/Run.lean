import DeferredResponse.Cli.Arguments
import DeferredResponse.Cli.Event
import DeferredResponse.Config
import DeferredResponse.Http.Draft
import DeferredResponse.Text.Lossy

/-!
# Runs of the program

A run renders the page into a buffer, recovers from a failure of the page, commits the buffer and
shows the response. It fails if the configuration cannot be read or the response cannot be
committed, and then shows no response.
-/

namespace DeferredResponse.Cli

/-- What a run leaves behind. -/
structure Outcome where
  exitCode : UInt8 := 0
  events : List Event := []
  stdout : String := ""
  stderr : String := ""
  deriving DecidableEq, Repr

def versionText : String := "replaybuf-demo 0.1.0\n"

def helpText : String :=
  "Render a page into a response buffer, recover from failure, then commit\n\n" ++
  "Usage: replaybuf-demo [OPTIONS]\n\n" ++
  "Options:\n" ++
  "  -f, --format <FORMAT>      Representation to render [default: html] " ++
  "[possible values: html, json]\n" ++
  "      --fail                 Make the handler fail halfway through rendering\n" ++
  "      --redirect <REDIRECT>  Send a redirect instead of a page\n" ++
  "  -c, --config <CONFIG>      Buffer config file (TOML)\n" ++
  "  -h, --help                 Print help\n" ++
  "  -V, --version              Print version\n"

def usageText : String :=
  "error: the arguments cannot be used\n\n" ++
  "Usage: replaybuf-demo [OPTIONS]\n\nFor more information, try '--help'.\n"

/-! ## Errors -/

/-- The lines that list the causes of an error, each beneath the one it explains. -/
def causeLines (causes : List String) : String :=
  match causes with
  | [] => ""
  | [cause] => "\n\nCaused by:\n    " ++ cause
  | causes =>
    "\n\nCaused by:" ++
      String.join (causes.zipIdx.map fun (cause, i) => "\n    " ++ toString i ++ ": " ++ cause)

/-- The outcome of a run that fails with an error. -/
def Outcome.failed (events : List Event) (message : String) (causes : List String) : Outcome :=
  { exitCode := 1, events, stderr := "Error: " ++ message ++ causeLines causes ++ "\n" }

/-- The text of the error that ends a run without a configuration. -/
def faultText : Config.Fault → String
  | .unreadable fault => fault.message
  | .encoding => "stream did not contain valid UTF-8"
  | .document | .capacity _ => "TOML parse error"

/-! ## Responses -/

def statusLine (status : UInt16) : String :=
  let reason := match status.toNat with
    | 200 => "OK"
    | 302 => "Found"
    | 503 => "Service Unavailable"
    | _ => "<unknown status code>"
  "HTTP/1.1 " ++ toString status.toNat ++ " " ++ reason ++ "\n"

/-- The line of a header; a value that is not ASCII is not shown. -/
def headerLine (name value : String) : String :=
  name ++ ": " ++ (if Http.isShownValue value then value else "<binary>") ++ "\n"

/-- The text that shows a response. -/
def responseText (response : Http.Response) : String :=
  let headers := response.headers.fields.flatMap fun (name, values) => values.map (headerLine name)
  statusLine response.status ++ String.join headers ++ "\n" ++ Text.lossyText response.body ++ "\n"

/-! ## Runs -/

/-- The buffer to commit, and what happened while it was filled. -/
def prepare (config : Config) (request : Page.Request) (now : Instant) : Buffer × List Event :=
  match (Page.render request now).run (.new config) with
  | .ok () buffer => (buffer, [])
  | .error failure buffer =>
    let text := "handler failed, discarding buffered output error=" ++ failure.message ++
      " entries=" ++ toString buffer.size
    (Page.recover failure buffer, [⟨.warn, text⟩])

/-- The outcome of committing a buffer after some events. -/
def conclude (buffer : Buffer) (events : List Event) : Outcome :=
  let text := "committing response entries=" ++ toString buffer.size ++
    " redirect=" ++ toString buffer.log.isRedirect
  let events := events ++ [⟨.info, text⟩]
  match Http.commit buffer with
  | .ok response => { events, stdout := responseText response }
  | .error error =>
    .failed events error.message (error.cause.message :: error.cause.source?.toList)

/-- The configuration that the arguments name, or the default one. -/
def configOf (arguments : Arguments) (readFile : String → Except File.Fault ByteArray) :
    Except Config.Fault Config :=
  match arguments.config with
  | some path => Config.ofFile (readFile path)
  | none => .ok {}

/-- Serves one request at a moment; `readFile` answers the content of the file at a path. -/
def serve (arguments : Arguments) (readFile : String → Except File.Fault ByteArray)
    (now : Instant) : Outcome :=
  match configOf arguments readFile with
  | .error fault => .failed [] (faultText fault) []
  | .ok config =>
    let (buffer, events) := prepare config arguments.request now
    conclude buffer events

/-- Runs the program with the arguments of a command line. -/
def run (arguments : List String) (readFile : String → Except File.Fault ByteArray)
    (now : Instant) : Outcome :=
  match invocation? arguments with
  | none => { exitCode := 2, stderr := usageText }
  | some .help => { stdout := helpText }
  | some .version => { stdout := versionText }
  | some (.run arguments) => serve arguments readFile now

end DeferredResponse.Cli
