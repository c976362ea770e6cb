import DeferredResponse.Replay

/-!
# Attempted calls

A handler need not give up when a call is refused. `attempt` makes calls on a sink one after
another, whatever becomes of each of them; the states that it leads to are those that the sink can
get into. Where a refused call changes nothing, what every accepted call keeps is kept by such a run
(`attempt_induction`), and a replay leads nowhere else (`exists_endState_replay`).
-/

namespace DeferredResponse

open Operation

/-- The state in which a program ends, whether it was refused or not. -/
def endState {σ ε α : Type} : EStateM.Result ε σ α → σ
  | .ok _ state => state
  | .error _ state => state

variable {σ ε : Type} [Sink σ ε]

/-- Makes calls on a sink, whatever becomes of each of them. -/
def attempt : List Call → σ → σ
  | [], state => state
  | call :: rest, state => attempt rest (endState ((Sink.perform call : EStateM ε σ Unit) state))

theorem attempt_cons (call : Call) (rest : List Call) (state : σ) :
    attempt (call :: rest) state =
      attempt rest (endState ((Sink.perform call : EStateM ε σ Unit) state)) := rfl

theorem attempt_append (xs ys : List Call) (state : σ) :
    attempt (xs ++ ys) state = attempt ys (attempt xs state) := by
  induction xs generalizing state with
  | nil => rfl
  | cons call rest ih => exact ih _

section Lawful

variable [LawfulSink σ]

/-- What accepted calls keep is kept by every run. -/
theorem attempt_induction {P : σ → Prop} {start : σ} (hstart : P start)
    (hstep : ∀ {call : Call} {state next : σ}, P state → Sink.perform call state = .ok () next →
      P next) (calls : List Call) : P (attempt calls start) := by
  induction calls generalizing start with
  | nil => exact hstart
  | cons call rest ih =>
    rw [attempt_cons]
    refine ih ?_
    cases hcall : (Sink.perform call : EStateM ε σ Unit) start with
    | ok _ next => exact hstep hstart hcall
    | error cause next =>
      rw [LawfulSink.eq_of_perform_error hcall]
      exact hstart

/-- A replay leads where the calls of its first actions lead. -/
theorem exists_endState_replay (actions : List Action) (state : σ) :
    ∃ before, before <+: actions ∧
      endState (replay actions state) = attempt (before.map toCall) state := by
  unfold replay
  generalize 0 = index
  induction actions generalizing state index with
  | nil => exact ⟨[], List.prefix_rfl, rfl⟩
  | cons action rest ih =>
    rw [replayFrom_cons]
    cases hcall : (Sink.perform action.toCall : EStateM ε σ Unit) state with
    | ok _ next =>
      obtain ⟨before, hbefore, hend⟩ := ih next (index + 1)
      refine ⟨action :: before, List.cons_prefix_cons.mpr ⟨rfl, hbefore⟩, ?_⟩
      rw [List.map_cons, attempt_cons, hcall]
      exact hend
    | error cause next =>
      obtain rfl := LawfulSink.eq_of_perform_error hcall
      exact ⟨[], List.nil_prefix, rfl⟩

end Lawful

end DeferredResponse
