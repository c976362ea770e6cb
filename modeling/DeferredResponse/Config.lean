import DeferredResponse.Decimal.Shortest
import DeferredResponse.File
import DeferredResponse.Text.Quoted
import DeferredResponse.Toml.Document

/-!
# Buffer configuration

A configuration says how much room a buffer reserves in advance. It is written as a TOML document
with one line for each capacity, and read from any TOML document: keys that are missing keep their
defaults, unknown keys are ignored, and the first bad capacity in the order of the document is
reported. A document that is not TOML is refused as a whole.
-/

namespace DeferredResponse

/-- Capacities that a new buffer reserves. -/
structure Config where
  /-- Bytes reserved when a text entry is opened. -/
  textCapacity : UInt64 := 4096
  /-- Entries reserved when a buffer is created. -/
  logCapacity : UInt64 := 16
  deriving DecidableEq, Repr

/-- Why a value is no capacity. -/
inductive CapacityFault where
  /-- The value is of another type; the text describes it. -/
  | type (found : String)
  /-- The number is negative. -/
  | negative (number : Int)
  deriving DecidableEq, Repr

def CapacityFault.message : CapacityFault → String
  | type found => "invalid type: " ++ found ++ ", expected usize"
  | negative number => "invalid value: integer \x60" ++ toString number ++ "\x60, expected usize"

namespace Config

/-- Why no configuration could be read. -/
inductive Fault where
  /-- The file cannot be read. -/
  | unreadable (fault : File.Fault)
  /-- The file is not a UTF-8 text. -/
  | encoding
  /-- The text is not a TOML document. -/
  | document
  /-- A capacity is bad. -/
  | capacity (fault : CapacityFault)
  deriving DecidableEq, Repr

/-! ## Reading -/

def textKey : String := "text_capacity"

def logKey : String := "log_capacity"

/-- The capacity that a value states. -/
def capacity : Toml.Value → Except CapacityFault UInt64
  | .integer number =>
    if number < 0 then .error (.negative number) else .ok (UInt64.ofNat number.toNat)
  | .float number => .error (.type ("floating point \x60" ++ number.text ++ "\x60"))
  | .boolean truth => .error (.type ("boolean \x60" ++ toString truth ++ "\x60"))
  | .string text => .error (.type ("string " ++ Text.quote text))
  | .datetime _ | .table .. => .error (.type "map")
  | .array _ | .tables _ => .error (.type "sequence")

/-- The configuration after one entry of a document. -/
def withEntry (config : Config) : String × Toml.Value → Except CapacityFault Config
  | (key, value) => do
    if key = textKey then
      return { config with textCapacity := ← capacity value }
    else if key = logKey then
      return { config with logCapacity := ← capacity value }
    else return config

/-- The configuration that the entries of a document state. -/
def ofEntries (entries : Toml.Entries) : Except CapacityFault Config := entries.foldlM withEntry {}

/-- The configuration that a document states. -/
def ofText (text : String) : Except Fault Config :=
  match Toml.read? text with
  | none => .error .document
  | some entries => (ofEntries entries).mapError .capacity

/-- The configuration in a file, given what reading the file answers. -/
def ofFile : Except File.Fault ByteArray → Except Fault Config
  | .error fault => .error (.unreadable fault)
  | .ok bytes =>
    match String.fromUTF8? bytes with
    | none => .error .encoding
    | some text => ofText text

/-! ## Writing -/

/-- Whether a capacity can be written: integers of a document have 64 bits with a sign. -/
def isWritable (capacity : UInt64) : Bool := capacity.toNat < Toml.wordBound

/-- The line that gives a key a capacity. -/
def line (key : String) (capacity : UInt64) : String :=
  key ++ " = " ++ toString capacity.toNat ++ "\n"

/-- The document that states a configuration. -/
def toText? (config : Config) : Option String :=
  if isWritable config.textCapacity && isWritable config.logCapacity then
    some (line textKey config.textCapacity ++ line logKey config.logCapacity)
  else none

end Config

end DeferredResponse
