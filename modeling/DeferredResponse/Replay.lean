import DeferredResponse.Log

/-!
# Replay

A `Sink` takes calls one at a time and may refuse any of them. Replaying a list of actions issues
one call per action, in order, and stops at the first refusal, which is reported with the position
and the kind of the action. What was applied before stays applied.
-/

namespace DeferredResponse

/-- A state of type `σ` that takes calls and refuses with causes of type `ε`. -/
class Sink (σ : Type) (ε : outParam Type) where
  perform : Call → EStateM ε σ Unit

/-- A refusal during replay. -/
structure ReplayError (ε : Type) where
  index : Nat
  kind : Kind
  /-- The cause that the sink gave. -/
  cause : ε
  deriving DecidableEq, Repr

/-- The text of a replay error; the text of its cause is not part of it. -/
def ReplayError.message {ε : Type} (error : ReplayError ε) : String :=
  s!"sink rejected {error.kind.name} at log entry {error.index}"

variable {σ ε : Type} [Sink σ ε]

/-- Replays actions, the first of which stands at position `index`. -/
def replayFrom (index : Nat) : List Action → EStateM (ReplayError ε) σ Unit
  | [] => pure ()
  | action :: rest => fun state =>
    match (Sink.perform action.toCall : EStateM ε σ Unit) state with
    | .ok () next => replayFrom (index + 1) rest next
    | .error cause next => .error { index, kind := action.kind, cause } next

/-- Replays actions onto a sink. -/
def replay (actions : List Action) : EStateM (ReplayError ε) σ Unit := replayFrom 0 actions

/-- Replays a whole log onto a sink. -/
def Log.replay (log : Log) : EStateM (ReplayError ε) σ Unit := DeferredResponse.replay log.entries

/-- A sink that a refused call leaves as it was. -/
class LawfulSink (σ : Type) {ε : Type} [Sink σ ε] : Prop where
  eq_of_perform_error {call : Call} {state next : σ} {cause : ε} :
    Sink.perform call state = .error cause next → next = state

@[simp] theorem replayFrom_nil (index : Nat) (state : σ) :
    replayFrom index [] state = .ok () state := rfl

theorem replayFrom_cons (index : Nat) (action : Action) (rest : List Action) (state : σ) :
    replayFrom index (action :: rest) state =
      match (Sink.perform action.toCall : EStateM ε σ Unit) state with
      | .ok () next => replayFrom (index + 1) rest next
      | .error cause next => .error { index, kind := action.kind, cause } next := rfl

/-- Replaying two lists is replaying the second where the first ended, if it was not refused. -/
theorem replayFrom_append (index : Nat) (xs ys : List Action) (state : σ) :
    replayFrom index (xs ++ ys) state =
      match replayFrom index xs state with
      | .ok () next => replayFrom (index + xs.length) ys next
      | .error error next => .error error next := by
  induction xs generalizing index state with
  | nil => rfl
  | cons action rest ih =>
    simp only [List.cons_append, replayFrom]
    split
    · rw [ih]
      simp only [List.length_cons, Nat.add_assoc, Nat.add_comm 1]
    · rfl

end DeferredResponse
