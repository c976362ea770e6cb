/-!
# Files

Why the content of a file cannot be read, and the text that tells so.
-/

namespace DeferredResponse.File

/-- Why a file cannot be read. -/
inductive Fault where
  /-- A name on the path leads to nothing. -/
  | missing
  /-- The file may not be read. -/
  | denied
  /-- The path goes on behind a file. -/
  | notDirectory
  | isDirectory
  /-- The path, or a name on it, is too long. -/
  | nameTooLong
  /-- The path follows too many links. -/
  | linkLoop
  /-- The system gives another reason. -/
  | system (code : UInt32) (text : String)
  deriving DecidableEq, Repr

/-- The number by which the system knows a fault. -/
def Fault.code : Fault → UInt32
  | missing => 2
  | denied => 13
  | notDirectory => 20
  | isDirectory => 21
  | nameTooLong => 36
  | linkLoop => 40
  | system code _ => code

def Fault.text : Fault → String
  | missing => "No such file or directory"
  | denied => "Permission denied"
  | notDirectory => "Not a directory"
  | isDirectory => "Is a directory"
  | nameTooLong => "File name too long"
  | linkLoop => "Too many levels of symbolic links"
  | system _ text => text

def Fault.message (fault : Fault) : String :=
  fault.text ++ " (os error " ++ toString fault.code.toNat ++ ")"

/-- The fault of a number; the text serves for a number without words of its own. -/
def Fault.ofCode (code : UInt32) (text : String) : Fault :=
  match code.toNat with
  | 2 => missing
  | 13 => denied
  | 20 => notDirectory
  | 21 => isDirectory
  | 36 => nameTooLong
  | 40 => linkLoop
  | _ => system code text

end DeferredResponse.File
