import DeferredResponse.Replay

/-!
# Recording sink

A `Recorder` keeps the calls that it is given. It can be told to refuse the call that would be the
`n`-th: since a refused call is not kept, it then refuses every later call as well.
-/

namespace DeferredResponse

/-- The calls taken so far, and the position at which calls are refused. -/
structure Recorder where
  calls : List Call := []
  /-- The position of the call that is refused. -/
  failOn : Option Nat := none
  deriving DecidableEq, Repr

/-- A recorder refused the call at a position. -/
structure RecorderRefusal where
  position : Nat
  deriving DecidableEq, Repr

def RecorderRefusal.message (refusal : RecorderRefusal) : String :=
  s!"recording sink refused call #{refusal.position}"

namespace Recorder

/-- Keeps a call, unless its position is the one at which calls are refused. -/
def record (call : Call) : EStateM RecorderRefusal Recorder Unit := fun recorder =>
  let position := recorder.calls.length
  if recorder.failOn = some position then .error { position } recorder
  else .ok () { recorder with calls := recorder.calls ++ [call] }

instance : Sink Recorder RecorderRefusal := ⟨record⟩

instance : LawfulSink Recorder where
  eq_of_perform_error h := by
    simp only [Sink.perform, record] at h
    split at h <;> simp_all

end Recorder

end DeferredResponse
