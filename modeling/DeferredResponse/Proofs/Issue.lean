import DeferredResponse.Replay

/-!
# Issued calls

A handler that holds the sink itself issues its calls one after another, with no log in between.
`issue` is such a run: it stops at the first refusal and reports the position of the refused call.
Replaying actions is issuing the calls that they stand for (`replay_eq_issue`), so a law about
issued calls is one about replays as well.
-/

namespace DeferredResponse

open Operation

variable {σ ε : Type} [Sink σ ε]

/-- Issues calls, the first of which stands at position `index`, up to the first that is refused. -/
def issueFrom (index : Nat) : List Call → EStateM (ReplayError ε) σ Unit
  | [] => pure ()
  | call :: rest => fun state =>
    match (Sink.perform call : EStateM ε σ Unit) state with
    | .ok () next => issueFrom (index + 1) rest next
    | .error cause next => .error { index, kind := call.kind, cause } next

/-- Issues calls on a sink. -/
def issue (calls : List Call) : EStateM (ReplayError ε) σ Unit := issueFrom 0 calls

theorem issueFrom_cons (index : Nat) (call : Call) (rest : List Call) (state : σ) :
    issueFrom index (call :: rest) state =
      match (Sink.perform call : EStateM ε σ Unit) state with
      | .ok () next => issueFrom (index + 1) rest next
      | .error cause next => .error { index, kind := call.kind, cause } next := rfl

/-! ## Replays -/

theorem replayFrom_eq_issueFrom (index : Nat) (actions : List Action) (state : σ) :
    replayFrom index actions state = issueFrom index (actions.map toCall) state := by
  induction actions generalizing index state with
  | nil => rfl
  | cons action rest ih =>
    rw [List.map_cons, issueFrom_cons, kind_toCall, replayFrom_cons]
    cases (Sink.perform action.toCall : EStateM ε σ Unit) state with
    | ok _ next => exact ih (index + 1) next
    | error cause next => rfl

/-- Replaying actions is issuing their calls. -/
theorem replay_eq_issue (actions : List Action) (state : σ) :
    replay actions state = issue (actions.map toCall) state :=
  replayFrom_eq_issueFrom 0 actions state

/-! ## One list after the other -/

theorem issueFrom_append (index : Nat) (xs ys : List Call) (state : σ) :
    issueFrom index (xs ++ ys) state =
      match issueFrom index xs state with
      | .ok () next => issueFrom (index + xs.length) ys next
      | .error error next => .error error next := by
  have h := replayFrom_append index (xs.map toAction) (ys.map toAction) state
  have hid : toCall ∘ toAction = id := funext toCall_toAction
  simp only [replayFrom_eq_issueFrom, List.map_append, List.map_map, hid, List.map_id,
    List.length_map] at h
  exact h

/-- One more call is issued on the state that the others lead to, if none of them is refused. -/
theorem issue_concat (calls : List Call) (call : Call) (state : σ) :
    issue (calls ++ [call]) state =
      match issue calls state with
      | .ok () next =>
        match (Sink.perform call : EStateM ε σ Unit) next with
        | .ok () last => .ok () last
        | .error cause last => .error { index := calls.length, kind := call.kind, cause } last
      | .error error next => .error error next := by
  unfold issue
  rw [issueFrom_append, Nat.zero_add]
  cases issueFrom 0 calls state with
  | ok _ next => rfl
  | error error next => rfl

/-- A refused call ends the run, whatever stands behind it. -/
theorem issue_eq_error {before : List Call} {call : Call} {state next last : σ} {cause : ε}
    (hbefore : issue before state = .ok () next)
    (hcall : (Sink.perform call : EStateM ε σ Unit) next = .error cause last) (after : List Call) :
    issue (before ++ call :: after) state =
      .error { index := before.length, kind := call.kind, cause } last := by
  unfold issue at hbefore ⊢
  rw [issueFrom_append, hbefore, Nat.zero_add]
  show issueFrom before.length (call :: after) next = _
  rw [issueFrom_cons, hcall]

end DeferredResponse
