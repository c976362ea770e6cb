import DeferredResponse.Config
import DeferredResponse.Replay

/-!
# Response buffers

A `Buffer` records the calls of a handler instead of sending them. Adjacent body writes are merged
into one entry. The first body write since the last reset fixes whether the body is text or bytes;
a write of the other kind is refused and leaves the buffer as it was. A buffer is itself a sink.
-/

namespace DeferredResponse

/-- What a body is written as. -/
inductive BodyMode where
  | text
  | bytes
  deriving DecidableEq, Repr

namespace BodyMode

/-- The kind of the call that establishes a mode. -/
def operation : BodyMode → Kind
  | text => .writeText
  | bytes => .writeBytes

def name : BodyMode → String
  | text => "text"
  | bytes => "bytes"

end BodyMode

/-- A body write of one mode after the body was established in the other. -/
structure ModeConflict where
  established : BodyMode
  refused : BodyMode
  deriving DecidableEq, Repr

def ModeConflict.message (conflict : ModeConflict) : String :=
  let refused := conflict.refused.operation.callName
  let established := conflict.established.operation.callName
  s!"cannot call {refused} after {established} has been called"

structure Buffer where
  log : Log := {}
  /-- The mode of the body, once a body write was accepted. -/
  mode : Option BodyMode := none
  deriving Repr

namespace Buffer

/-- A new buffer. The capacities only say how much to reserve, so every configuration gives the same
buffer. -/
def new (_config : Config := {}) : Buffer := {}

/-- Adds a call that is not a body write as an entry of its own. -/
def push (buffer : Buffer) (call : Call) : Buffer :=
  { buffer with log := buffer.log.push call.toAction }

/-- Takes a body write of a mode: `extend` changes the log, and the mode is fixed. A body of the
other mode is left as it is. -/
def writeAs (requested : BodyMode) (extend : Log → Log) : EStateM ModeConflict Buffer Unit :=
  fun buffer =>
    let next : Buffer := { log := extend buffer.log, mode := some requested }
    match buffer.mode with
    | none => .ok () next
    | some established =>
      if established = requested then .ok () next
      else .error { established, refused := requested } buffer

def writeText (text : String) : EStateM ModeConflict Buffer Unit :=
  writeAs .text (·.appendText text)

/-- Writes bytes to the body, as one chunk. -/
def writeBytes (bytes : Bytes) : EStateM ModeConflict Buffer Unit :=
  writeAs .bytes (·.appendBytes bytes)

def record : Call → EStateM ModeConflict Buffer Unit
  | .writeText text => writeText text
  | .writeBytes bytes => writeBytes bytes
  | call => modify (·.push call)

instance : Sink Buffer ModeConflict := ⟨record⟩

/-- A refused body write changes nothing. -/
theorem eq_of_writeAs_error {requested : BodyMode} {extend : Log → Log} {buffer next : Buffer}
    {conflict : ModeConflict} (h : writeAs requested extend buffer = .error conflict next) :
    next = buffer := by
  simp only [writeAs] at h
  split at h
  · cases h
  · split at h <;> simp_all

instance : LawfulSink Buffer where
  eq_of_perform_error {call _ _ _} h := by
    simp only [Sink.perform, record] at h
    split at h
    · exact eq_of_writeAs_error h
    · exact eq_of_writeAs_error h
    · cases h

/-- Discards everything recorded, the mode of the body included. -/
def reset (_buffer : Buffer) : Buffer := {}

def size (buffer : Buffer) : Nat := buffer.log.size

end Buffer

end DeferredResponse
