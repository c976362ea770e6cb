import DeferredResponse.Cli.Run
import Std.Time.DateTime.Timestamp

/-!
# The program

Reads the arguments, the clock and the configuration, and shows what the run leaves behind.
-/

open DeferredResponse

/-- The fault that the system reports; some of its calls negate the number. -/
def systemFault (code : UInt32) (text : String) : File.Fault :=
  File.Fault.ofCode (if code < 0x80000000 then code else 0 - code) text

/-- Why reading a file failed. -/
def fileFault : IO.Error → File.Fault
  | .noFileOrDirectory _ code text | .inappropriateType _ code text
  | .invalidArgument _ code text | .permissionDenied _ code text
  | .resourceExhausted _ code text | .noSuchThing _ code text | .alreadyExists _ code text
  | .interrupted _ code text | .otherError code text | .resourceBusy code text
  | .resourceVanished code text | .unsupportedOperation code text | .hardwareFault code text
  | .unsatisfiedConstraints code text | .illegalOperation code text | .protocolError code text
  | .timeExpired code text => systemFault code text
  | .unexpectedEof => .system 0 "unexpected end of file"
  | .userError text => .system 0 text

/-- The content of the file at a path. -/
def readContent (path : String) : IO (Except File.Fault ByteArray) := do
  try
    return .ok (← IO.FS.readBinFile path)
  catch error =>
    return .error (fileFault error)

/-- The content of the configuration that the arguments name. -/
def readConfig (arguments : List String) : IO (Except File.Fault ByteArray) :=
  match Cli.invocation? arguments with
  | some (.run { config := some path, .. }) => readContent path
  | _ => return .error .missing

def main (arguments : List String) : IO UInt32 := do
  let now := Instant.ofNanoseconds (← Std.Time.Timestamp.now).toNanosecondsSinceUnixEpoch.val
  let content ← readConfig arguments
  let outcome := Cli.run arguments (fun _ => content) now
  for event in outcome.events do
    IO.println (event.stampedLine now)
  IO.print outcome.stdout
  IO.eprint outcome.stderr
  return outcome.exitCode.toUInt32
