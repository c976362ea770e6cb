import DeferredResponse.Proofs.Attempt
import DeferredResponse.Proofs.Issue
import DeferredResponse.Recorder

/-!
# Recorders that refuse a call

A recorder can be told to refuse the call that would be its `n`-th. It counts the calls that it has
kept, and not those that are made on it, so the position of the refused call in a replay depends on
what the recorder holds already.

1. As long as the position is not reached, every call is kept (`issueFrom_eq_ok`).
2. At the position, any call is refused, and nothing is kept (`perform_of_isFull`). The recorder
   therefore stays at this position and refuses for good (`attempt_of_isFull`,
   `replayFrom_of_isFull`).

`replay_breaks_at_failOn` says where a replay ends, for any recorder and any list.
-/

namespace DeferredResponse.Recorder

open Operation

/-- The recorder with more calls behind those that it holds. -/
def keep (recorder : Recorder) (calls : List Call) : Recorder :=
  { recorder with calls := recorder.calls ++ calls }

theorem keep_keep (recorder : Recorder) (xs ys : List Call) :
    (recorder.keep xs).keep ys = recorder.keep (xs ++ ys) := by
  simp only [keep, List.append_assoc]

/-- None of so many further calls is the one to be refused. -/
def Admits (recorder : Recorder) (count : Nat) : Prop :=
  ∀ position ∈ recorder.failOn,
    position < recorder.calls.length ∨ recorder.calls.length + count ≤ position

/-- The next call is the one to be refused. -/
def IsFull (recorder : Recorder) : Prop := recorder.failOn = some recorder.calls.length

instance : DecidablePred IsFull := fun recorder =>
  inferInstanceAs (Decidable (recorder.failOn = some recorder.calls.length))

theorem perform_eq (call : Call) (recorder : Recorder) :
    Sink.perform call recorder =
      if recorder.IsFull then .error { position := recorder.calls.length } recorder
      else .ok () (recorder.keep [call]) := rfl

/-! ## Before the refused call -/

theorem Admits.not_isFull {recorder : Recorder} {count : Nat} (h : recorder.Admits (count + 1)) :
    ¬ recorder.IsFull := by
  intro hfull
  have hposition := h _ hfull
  omega

theorem Admits.keep {recorder : Recorder} {count : Nat} (h : recorder.Admits (count + 1))
    (call : Call) : (recorder.keep [call]).Admits count := by
  intro position hposition
  have hlength : (recorder.keep [call]).calls.length = recorder.calls.length + 1 :=
    List.length_append
  have hfree := h position hposition
  omega

/-- Calls that do not reach the refused one are all kept. -/
theorem issueFrom_eq_ok {recorder : Recorder} {calls : List Call}
    (h : recorder.Admits calls.length) (index : Nat) :
    issueFrom index calls recorder = .ok () (recorder.keep calls) := by
  induction calls generalizing index recorder with
  | nil =>
    rw [keep, List.append_nil]
    rfl
  | cons call rest ih =>
    have hcall : Sink.perform call recorder = .ok () (recorder.keep [call]) := by
      rw [perform_eq, if_neg h.not_isFull]
    rw [issueFrom_cons, hcall]
    refine (ih (h.keep call) (index + 1)).trans ?_
    rw [keep_keep]
    rfl

/-! ## At the refused call -/

section IsFull

variable {recorder : Recorder} (h : recorder.IsFull)

include h

theorem perform_of_isFull (call : Call) :
    Sink.perform call recorder = .error { position := recorder.calls.length } recorder := by
  rw [perform_eq, if_pos h]

theorem attempt_of_isFull (calls : List Call) : attempt calls recorder = recorder := by
  induction calls with
  | nil => rfl
  | cons call rest ih =>
    rw [attempt_cons, perform_of_isFull h]
    exact ih

theorem replayFrom_of_isFull (index : Nat) (first : Action) (rest : List Action) :
    replayFrom index (first :: rest) recorder =
      .error { index, kind := first.kind, cause := { position := recorder.calls.length } }
        recorder := by
  rw [replayFrom_cons, perform_of_isFull h]

end IsFull

/-! ## Replays -/

theorem replayFrom_eq_ok {recorder : Recorder} {actions : List Action}
    (h : recorder.Admits actions.length) (index : Nat) :
    replayFrom index actions recorder = .ok () (recorder.keep (actions.map toCall)) := by
  rw [replayFrom_eq_issueFrom]
  refine issueFrom_eq_ok ?_ index
  rw [List.length_map]
  exact h

/-- The recorder after the actions before the one that is refused at a position. -/
def upTo (recorder : Recorder) (position : Nat) (actions : List Action) : Recorder :=
  recorder.keep ((actions.take (position - recorder.calls.length)).map toCall)

section Refused

variable {recorder : Recorder} {position : Nat} {actions : List Action}
  (hge : recorder.calls.length ≤ position)

include hge

theorem length_calls_upTo (hlt : position < recorder.calls.length + actions.length) :
    (recorder.upTo position actions).calls.length = position := by
  unfold upTo keep
  rw [List.length_append, List.length_map, List.length_take]
  omega

theorem isFull_upTo (hposition : recorder.failOn = some position)
    (hlt : position < recorder.calls.length + actions.length) :
    (recorder.upTo position actions).IsFull :=
  hposition.trans (congrArg some (length_calls_upTo hge hlt).symm)

/-- A replay that reaches the position ends there. -/
theorem replay_eq_error (hposition : recorder.failOn = some position) {action : Action}
    (haction : actions[position - recorder.calls.length]? = some action) :
    replay actions recorder =
      .error
        { index := position - recorder.calls.length, kind := action.kind, cause := { position } }
        (recorder.upTo position actions) := by
  obtain ⟨hbound, hget⟩ := List.getElem?_eq_some_iff.mp haction
  have hlt : position < recorder.calls.length + actions.length := by omega
  have hfull := isFull_upTo hge hposition hlt
  have hsplit : actions = actions.take (position - recorder.calls.length) ++
      action :: actions.drop (position - recorder.calls.length + 1) := by
    rw [← hget, List.getElem_cons_drop hbound, List.take_append_drop]
  have hlength : (actions.take (position - recorder.calls.length)).length =
      position - recorder.calls.length :=
    List.length_take_of_le (Nat.le_of_lt hbound)
  have hbefore : replayFrom 0 (actions.take (position - recorder.calls.length)) recorder =
      .ok () (recorder.upTo position actions) := by
    refine replayFrom_eq_ok ?_ 0
    intro other hother
    rw [hlength]
    cases hposition.symm.trans hother
    omega
  calc replay actions recorder
      = replayFrom 0 (actions.take (position - recorder.calls.length) ++
          action :: actions.drop (position - recorder.calls.length + 1)) recorder := by
        rw [← hsplit, replay]
    _ = replayFrom (position - recorder.calls.length)
          (action :: actions.drop (position - recorder.calls.length + 1))
          (recorder.upTo position actions) := by
        rw [replayFrom_append, hbefore, hlength, Nat.zero_add]
    _ = _ := by
        rw [replayFrom_of_isFull hfull, length_calls_upTo hge hlt]

end Refused

/-- A list is admitted as a whole, or the position lies among its entries. -/
theorem admits_or_exists (recorder : Recorder) (actions : List Action) :
    recorder.Admits actions.length ∨
      ∃ position action, recorder.failOn = some position ∧ recorder.calls.length ≤ position ∧
        actions[position - recorder.calls.length]? = some action := by
  cases hfail : recorder.failOn with
  | none =>
    left
    intro position hposition
    rw [hfail] at hposition
    cases hposition
  | some position =>
    by_cases hfree : position < recorder.calls.length ∨
        recorder.calls.length + actions.length ≤ position
    · left
      intro other hother
      cases hfail.symm.trans hother
      exact hfree
    · right
      have hbound : position - recorder.calls.length < actions.length := by omega
      exact ⟨position, _, rfl, by omega, List.getElem?_eq_getElem hbound⟩

/-- **Where a recorder ends a replay.** Whatever calls a recorder holds, and whichever it is to
refuse: a replay goes through exactly when the refused position lies before the next one or behind
all that the list needs, or when there is none, and the recorder then holds one more call for every
action, in order. Otherwise the replay ends at the action that would be kept at that position, is
reported with its index in the list and with the position, and leaves the calls before it. From then
on every call and every replay with an action is refused at the same position, and nothing more is
kept. -/
theorem replay_breaks_at_failOn (recorder : Recorder) (actions : List Action) :
    (∀ next, replay actions recorder = .ok () next ↔
      (∀ position, recorder.failOn = some position → position < recorder.calls.length ∨
        recorder.calls.length + actions.length ≤ position) ∧
        next = { recorder with calls := recorder.calls ++ actions.map toCall }) ∧
    (∀ error last, replay actions recorder = .error error last ↔
      ∃ position action, recorder.failOn = some position ∧ recorder.calls.length ≤ position ∧
        actions[position - recorder.calls.length]? = some action ∧
        error = { index := position - recorder.calls.length, kind := action.kind
                  cause := { position } } ∧
        last = { recorder with
          calls := recorder.calls ++
            (actions.take (position - recorder.calls.length)).map toCall }) ∧
    ∀ error last, replay actions recorder = .error error last →
      (∀ call, Sink.perform call last = .error error.cause last) ∧
        (∀ calls, attempt calls last = last) ∧
        ∀ first rest, replay (first :: rest) last =
          .error { index := 0, kind := first.kind, cause := error.cause } last := by
  rcases recorder.admits_or_exists actions with
    hadmits | ⟨position, action, hposition, hge, haction⟩
  · rw [replay, replayFrom_eq_ok hadmits]
    refine ⟨fun next => ?_, fun error last => ?_, nofun⟩
    · constructor
      · rintro ⟨⟩
        exact ⟨hadmits, rfl⟩
      · rintro ⟨-, rfl⟩
        rfl
    · refine iff_of_false nofun ?_
      rintro ⟨position, action, hposition, hge, haction, -⟩
      have hbound := (List.getElem?_eq_some_iff.mp haction).1
      have hfree := hadmits position hposition
      omega
  · have hbound := (List.getElem?_eq_some_iff.mp haction).1
    have hlt : position < recorder.calls.length + actions.length := by omega
    have hfull := isFull_upTo hge hposition hlt
    have hlength := length_calls_upTo hge hlt
    rw [replay_eq_error hge hposition haction]
    refine ⟨fun next => ?_, fun error last => ?_, fun error last h => ?_⟩
    · refine iff_of_false nofun ?_
      rintro ⟨hfree, -⟩
      have hposition := hfree position hposition
      omega
    · constructor
      · rintro ⟨⟩
        exact ⟨position, action, hposition, hge, haction, rfl, rfl⟩
      · rintro ⟨other, same, hother, -, hsame, rfl, rfl⟩
        cases hposition.symm.trans hother
        cases haction.symm.trans hsame
        rfl
    · cases h
      refine ⟨fun call => ?_, attempt_of_isFull hfull, fun first rest => ?_⟩
      · rw [perform_of_isFull hfull, hlength]
      · rw [replay, replayFrom_of_isFull hfull, hlength]

/-- A recorder that holds a call is to refuse its fourth one. Of four actions it keeps two, the
bytes in one piece, and it stays with them. -/
theorem third_action_refused :
    ∃ last : Recorder,
      replay [.setStatus 201, .writeBytes ((ByteBody.ofBytes [1]).push [2, 3]), .flush, .close]
          ({ calls := [.setStatus 200], failOn := some 3 } : Recorder) =
        .error { index := 2, kind := .flush, cause := { position := 3 } } last ∧
      last.calls = [.setStatus 200, .setStatus 201, .writeBytes [1, 2, 3]] ∧
      replay [.close] last =
        .error { index := 0, kind := .close, cause := { position := 3 } } last := by
  have hrefused :
      replay [.setStatus 201, .writeBytes ((ByteBody.ofBytes [1]).push [2, 3]), .flush, .close]
          ({ calls := [.setStatus 200], failOn := some 3 } : Recorder) =
        .error { index := 2, kind := .flush, cause := { position := 3 } }
          { calls := [.setStatus 200, .setStatus 201, .writeBytes [1, 2, 3]]
            failOn := some 3 } := rfl
  exact ⟨_, hrefused, rfl, ((replay_breaks_at_failOn _ _).2.2 _ _ hrefused).2.2 .close []⟩

end DeferredResponse.Recorder
