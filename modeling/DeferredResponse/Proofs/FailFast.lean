import DeferredResponse.Buffer
import DeferredResponse.Proofs.Http.Program
import DeferredResponse.Recorder

/-!
# Replays that stop at a refusal

How replays onto one sink fit together, and in which state a refused one leaves it. `FailFast` puts
the laws into one statement; `failFast` proves them of every sink that a refused call leaves as it
was, and so of buffers, recorders and drafts.

1. The position at which a replay starts only shifts the position that it reports
   (`replayFrom_add`), so a list is replayed piece by piece (`replay_append`).
2. Every action is issued in the state to which those before it lead, and takes effect if it is
   accepted (`replay_accepted`).
3. A refused replay ends where the actions before the refused one lead (`replayFrom_eq_error`).
4. What stands behind a refused action is not looked at (`replay_refused`).

That a refused call leaves a sink as it was is where the sinks differ: a buffer and a recorder look
before they write, while the calls of a draft are programs that check and assign by turns
(`Http.Draft.program_eq_perform`).
-/

namespace DeferredResponse

open Operation

/-- A refusal that is reported with a number of further actions before it. -/
def ReplayError.shift {ε : Type} (count : Nat) (error : ReplayError ε) : ReplayError ε :=
  { error with index := count + error.index }

/-- Replays onto a sink compose, issue one call per action and stop at the first refusal, without a
trace of the refused action. -/
structure FailFast (σ : Type) {ε : Type} [Sink σ ε] : Prop where
  /-- A list is replayed by replaying its parts one after the other, up to the first refusal. -/
  append (xs ys : List Action) (state : σ) :
    replay (xs ++ ys) state =
      match replay xs state with
      | .ok () next =>
        match replay ys next with
        | .ok () last => .ok () last
        | .error error last => .error (error.shift xs.length) last
      | .error error next => .error error next
  /-- Replaying nothing changes nothing. -/
  nil (state : σ) : replay [] state = .ok () state
  /-- An action that is accepted in the state to which those before it lead is applied there. -/
  issues (before : List Action) (action : Action) (state next last : σ) :
    replay before state = .ok () next → Sink.perform action.toCall next = .ok () last →
      replay (before ++ [action]) state = .ok () last
  /-- An action that is refused there makes the replay fail at its position, whatever stands behind
  it. -/
  stops (before : List Action) (action : Action) (others : List Action) (state next last : σ)
    (cause : ε) :
    replay before state = .ok () next → Sink.perform action.toCall next = .error cause last →
      replay (before ++ action :: others) state =
        .error { index := before.length, kind := action.kind, cause } last
  /-- A refusal is that of the action at its position, in the state to which the actions before it
  lead; the sink stays in this state, whatever stands behind the refused action. -/
  refused (actions : List Action) (state last : σ) (error : ReplayError ε) :
    replay actions state = .error error last →
      ∃ action, actions[error.index]? = some action ∧ error.kind = action.kind ∧
        replay (actions.take error.index) state = .ok () last ∧
          Sink.perform action.toCall last = .error error.cause last ∧
            ∀ others, replay (actions.take (error.index + 1) ++ others) state = .error error last

section Laws

variable {σ ε : Type} [Sink σ ε]

/-! ## One list after the other -/

theorem replayFrom_add (count index : Nat) (actions : List Action) (state : σ) :
    replayFrom (count + index) actions state =
      match replayFrom index actions state with
      | .ok () last => .ok () last
      | .error error last => .error (error.shift count) last := by
  induction actions generalizing index state with
  | nil => rfl
  | cons action rest ih =>
    rw [replayFrom_cons, replayFrom_cons]
    cases (Sink.perform action.toCall : EStateM ε σ Unit) state with
    | ok _ next => exact ih (index + 1) next
    | error cause next => rfl

theorem replay_append (xs ys : List Action) (state : σ) :
    replay (xs ++ ys) state =
      match replay xs state with
      | .ok () next =>
        match replay ys next with
        | .ok () last => .ok () last
        | .error error last => .error (error.shift xs.length) last
      | .error error next => .error error next := by
  unfold replay
  rw [replayFrom_append, Nat.zero_add]
  cases replayFrom 0 xs state with
  | ok _ next => exact replayFrom_add xs.length 0 ys next
  | error error next => rfl

/-- What stands behind accepted actions is replayed in the state to which these lead. -/
theorem replay_append_of_ok {before : List Action} {state next : σ}
    (h : replay before state = .ok () next) (rest : List Action) :
    replay (before ++ rest) state = replayFrom before.length rest next := by
  unfold replay at h ⊢
  rw [replayFrom_append, h, Nat.zero_add]

/-- An accepted action is applied where those before it lead. -/
theorem replay_accepted {before : List Action} {action : Action} {state next last : σ}
    (hbefore : replay before state = .ok () next)
    (haction : (Sink.perform action.toCall : EStateM ε σ Unit) next = .ok () last) :
    replay (before ++ [action]) state = .ok () last := by
  rw [replay_append_of_ok hbefore, replayFrom_cons, haction]
  rfl

/-! ## The refused action -/

theorem replayFrom_eq_error [LawfulSink σ] {index : Nat} {actions : List Action} {state last : σ}
    {error : ReplayError ε} (h : replayFrom index actions state = .error error last) :
    ∃ before action after, actions = before ++ action :: after ∧
      error.index = index + before.length ∧ error.kind = action.kind ∧
        replayFrom index before state = .ok () last ∧
          Sink.perform action.toCall last = .error error.cause last := by
  induction actions generalizing index state with
  | nil => cases h
  | cons first rest ih =>
    rw [replayFrom_cons] at h
    cases hfirst : (Sink.perform first.toCall : EStateM ε σ Unit) state with
    | ok _ next =>
      rw [hfirst] at h
      obtain ⟨before, action, after, rfl, hindex, hkind, hbefore, haction⟩ := ih h
      refine ⟨first :: before, action, after, rfl, ?_, hkind, ?_, haction⟩
      · rw [hindex, List.length_cons]
        omega
      · rw [replayFrom_cons, hfirst]
        exact hbefore
    | error cause next =>
      rw [hfirst] at h
      obtain rfl := LawfulSink.eq_of_perform_error hfirst
      cases h
      exact ⟨[], first, rest, rfl, rfl, rfl, rfl, hfirst⟩

/-- A refused action ends a replay, whatever stands behind it. -/
theorem replay_refused {before : List Action} {action : Action} {state next last : σ} {cause : ε}
    (hbefore : replay before state = .ok () next)
    (haction : Sink.perform action.toCall next = .error cause last) (others : List Action) :
    replay (before ++ action :: others) state =
      .error { index := before.length, kind := action.kind, cause } last := by
  rw [replay_append_of_ok hbefore, replayFrom_cons, haction]

/-- Every sink that a refused call leaves as it was is replayed onto in this way. -/
theorem FailFast.of_lawful [LawfulSink σ] : FailFast σ where
  append := replay_append
  nil := replayFrom_nil 0
  issues _ _ _ _ _ := replay_accepted
  stops _ _ others _ _ _ _ hbefore haction := replay_refused hbefore haction others
  refused actions state last error h := by
    obtain ⟨before, action, after, rfl, hindex, hkind, hbefore, haction⟩ := replayFrom_eq_error h
    rw [Nat.zero_add] at hindex
    have htake : (before ++ action :: after).take (before.length + 1) = before ++ [action] :=
      List.take_length_add_append 1
    refine ⟨action, ?_, hkind, ?_, haction, ?_⟩
    · rw [hindex, List.getElem?_append_right (Nat.le_refl _), Nat.sub_self]
      rfl
    · rw [hindex, List.take_left]
      exact hbefore
    · intro others
      rw [hindex, htake, List.append_assoc]
      rw [List.singleton_append, replay_refused hbefore haction, ← hindex, ← hkind]

end Laws

/-- **How replays end.** Onto a buffer, onto a recorder that refuses at any position or at none, and
onto a draft, replays compose, issue one call per action and stop at the first refusal without a
trace of the refused action. A call on a draft does what its program of checks and assignments does,
and a program that is refused has assigned nothing. -/
theorem failFast :
    FailFast Buffer ∧ FailFast Recorder ∧ FailFast Http.Draft ∧
      ∀ (call : Call) (draft : Http.Draft),
        Sink.perform call draft = Http.Draft.program call draft ∧
          ∀ (refusal : Http.Refusal) (next : Http.Draft),
            Http.Draft.program call draft = .error refusal next → next = draft :=
  ⟨.of_lawful, .of_lawful, .of_lawful, fun call draft =>
    ⟨(Http.Draft.program_eq_perform draft call).symm,
      fun _ _ => Http.Draft.eq_of_program_error draft⟩⟩

end DeferredResponse
