import DeferredResponse.Proofs.Http.Perform
import Mathlib.Data.Nat.Find

/-!
# Offending entries

Which entry of a list ends its replay, said without a draft. An entry offends when it comes too late
(`IsLate`: the head of the response, or its body, was ended by the kind of an earlier entry) or when
its arguments are bad; of the two the first is reported. The stage of a draft knows of the earlier
entries exactly what `IsLate` asks about them (`permits_iff_not_isLate`), so a replay on a new draft
goes through when no entry offends and else stops at the first that does, with its offence
(`replay_stops_at_first_offence`).
-/

namespace DeferredResponse

open Operation

namespace Kind

/-- Whether operations of this kind work on the status or the headers. -/
def isHead : Kind → Bool
  | addCookie | clearCookie | setHeader | setDateHeader | setContentLength | setContentType
  | setStatus | sendError | sendRedirect => true
  | writeText | writeBytes | flush | close => false

/-- Whether the status and the headers are final after an operation of this kind. -/
def endsHead : Kind → Bool
  | flush | close | sendError | sendRedirect => true
  | _ => false

/-- Whether the body is final after an operation of this kind. -/
def endsBody : Kind → Bool
  | close | sendError | sendRedirect => true
  | _ => false

theorem endsHead_of_endsBody {kind : Kind} (h : kind.endsBody = true) : kind.endsHead = true := by
  cases kind <;> first | rfl | cases h

end Kind

namespace Http

/-- An operation of a kind comes too late after operations of earlier kinds. -/
def IsLate (earlier : List Kind) (kind : Kind) : Prop :=
  (kind.isHead = true ∧ ∃ k ∈ earlier, k.endsHead = true) ∨
    (kind.isBodyWrite = true ∧ ∃ k ∈ earlier, k.endsBody = true)

instance (earlier : List Kind) (kind : Kind) : Decidable (IsLate earlier kind) := by
  unfold IsLate
  infer_instance

/-- What comes in time after other operations, and is no flush or close, finds the body open. -/
theorem endsBody_eq_false_of_not_isLate {earlier : List Kind} {kind : Kind}
    (h : ¬ IsLate earlier kind) (hkind : kind.isHead = true ∨ kind.isBodyWrite = true) :
    ∀ k ∈ earlier, k.endsBody = false := by
  intro k hk
  by_contra hends
  have hends : k.endsBody = true := by simpa using hends
  apply h
  rcases hkind with hhead | hwrite
  · exact .inl ⟨hhead, k, hk, Kind.endsHead_of_endsBody hends⟩
  · exact .inr ⟨hwrite, k, hk, hends⟩

/-- The offence of a call that follows others. -/
def offenceAfter? (earlier : List Call) (call : Call) : Option Refusal :=
  if IsLate (earlier.map kind) call.kind then some (.committed call.kind) else argumentFault? call

/-- The offence of the call at a position. -/
def offence? (calls : List Call) (i : Nat) : Option Refusal :=
  calls[i]?.bind (offenceAfter? (calls.take i))

/-! ## The stage -/

namespace Stage

theorem after_eq_completed_iff (stage : Stage) (kind : Kind) :
    stage.after kind = completed ↔ stage = completed ∨ kind.endsBody = true := by
  cases stage <;> cases kind <;> decide

theorem after_ne_editable_iff (stage : Stage) (kind : Kind) :
    stage.after kind ≠ editable ↔ stage ≠ editable ∨ kind.endsHead = true := by
  cases stage <;> cases kind <;> decide

theorem foldl_after_eq_completed_iff (kinds : List Kind) :
    kinds.foldl after editable = completed ↔ ∃ k ∈ kinds, k.endsBody = true := by
  induction kinds using List.reverseRecOn with
  | nil => simp
  | append_singleton kinds kind ih =>
    rw [List.foldl_append, List.foldl_cons, List.foldl_nil, after_eq_completed_iff, ih]
    simp only [List.mem_append, List.mem_singleton, or_and_right, exists_or, exists_eq_left]

theorem foldl_after_ne_editable_iff (kinds : List Kind) :
    kinds.foldl after editable ≠ editable ↔ ∃ k ∈ kinds, k.endsHead = true := by
  induction kinds using List.reverseRecOn with
  | nil => simp
  | append_singleton kinds kind ih =>
    rw [List.foldl_append, List.foldl_cons, List.foldl_nil, after_ne_editable_iff, ih]
    simp only [List.mem_append, List.mem_singleton, or_and_right, exists_or, exists_eq_left]

theorem permits_iff (stage : Stage) (kind : Kind) :
    stage.permits kind = true ↔
      ¬ ((kind.isHead = true ∧ stage ≠ editable) ∨
        (kind.isBodyWrite = true ∧ stage = completed)) := by
  cases stage <;> cases kind <;> decide

theorem permits_head_iff {stage : Stage} {kind : Kind} (h : kind.isHead = true) :
    stage.permits kind = true ↔ stage = editable := by
  revert h
  cases stage <;> cases kind <;> decide

theorem permits_bodyWrite_iff {stage : Stage} {kind : Kind} (h : kind.isBodyWrite = true) :
    stage.permits kind = true ↔ stage ≠ completed := by
  revert h
  cases stage <;> cases kind <;> decide

/-- The stage that operations lead to permits exactly the kinds that do not come too late. -/
theorem permits_iff_not_isLate (kinds : List Kind) (kind : Kind) :
    (kinds.foldl after editable).permits kind = true ↔ ¬ IsLate kinds kind := by
  rw [permits_iff, foldl_after_ne_editable_iff, foldl_after_eq_completed_iff]
  rfl

end Stage

/-! ## Replays -/

namespace Draft

theorem refusal?_eq_offenceAfter? {earlier : List Call} {draft : Draft}
    (h : issue earlier ({} : Draft) = .ok () draft) (call : Call) :
    draft.stage.refusal? call = offenceAfter? earlier call := by
  unfold Stage.refusal? offenceAfter?
  rw [stage_of_issue h]
  by_cases hlate : IsLate (earlier.map kind) call.kind
  · rw [if_pos hlate, if_neg]
    exact fun hpermits => (Stage.permits_iff_not_isLate _ _).mp hpermits hlate
  · rw [if_neg hlate, if_pos]
    exact (Stage.permits_iff_not_isLate _ _).mpr hlate

/-- Calls are issued as far as none offends. -/
theorem exists_issue_take {calls : List Call} {i : Nat} (h : ∀ j < i, offence? calls j = none) :
    ∃ draft : Draft, issue (calls.take i) ({} : Draft) = .ok () draft := by
  induction i with
  | zero => exact ⟨{}, rfl⟩
  | succ i ih =>
    obtain ⟨draft, hdraft⟩ := ih fun j hj => h j (by omega)
    rw [List.take_add_one]
    cases hcall : calls[i]? with
    | none => exact ⟨draft, by simpa using hdraft⟩
    | some call =>
      refine ⟨draft.apply call, issue_concat_eq_ok_iff.mpr ⟨draft, hdraft, ?_, rfl⟩⟩
      have hnone := h i (by omega)
      rw [offence?, hcall, Option.bind_some] at hnone
      rw [refusal?_eq_offenceAfter? hdraft, hnone]

/-- The first call that offends ends the run. -/
theorem issue_eq_error_of_offence {calls : List Call} {i : Nat} {call : Call} {refusal : Refusal}
    {draft : Draft} (hdraft : issue (calls.take i) ({} : Draft) = .ok () draft)
    (hcall : calls[i]? = some call) (h : offence? calls i = some refusal) :
    issue calls ({} : Draft) = .error { index := i, kind := call.kind, cause := refusal } draft := by
  rw [offence?, hcall, Option.bind_some] at h
  obtain ⟨hi, rfl⟩ := List.getElem?_eq_some_iff.mp hcall
  have hperform : (Sink.perform calls[i] : EStateM Refusal Draft Unit) draft =
      .error refusal draft := by
    rw [perform_eq, refusal?_eq_offenceAfter? hdraft, h]
  have hrun := issue_eq_error hdraft hperform (calls.drop (i + 1))
  rw [List.getElem_cons_drop, List.take_append_drop, List.length_take_of_le (by omega)] at hrun
  exact hrun

/-- A replay goes as far as the first action that offends. -/
theorem replay_eq_error_of_offence {actions : List Action} {i : Nat} {refusal : Refusal}
    (hi : offence? (actions.map toCall) i = some refusal)
    (hbefore : ∀ j < i, offence? (actions.map toCall) j = none) :
    ∃ (action : Action) (draft : Draft), actions[i]? = some action ∧
      replay (actions.take i) ({} : Draft) = .ok () draft ∧
        replay actions ({} : Draft) =
          .error { index := i, kind := action.kind, cause := refusal } draft := by
  obtain ⟨draft, hdraft⟩ := exists_issue_take hbefore
  obtain ⟨call, hcall, -⟩ := Option.bind_eq_some_iff.mp hi
  have hmap := hcall
  rw [List.getElem?_map] at hmap
  obtain ⟨action, haction, rfl⟩ := Option.map_eq_some_iff.mp hmap
  refine ⟨action, draft, haction, ?_, ?_⟩
  · rw [replay_eq_issue, List.map_take]
    exact hdraft
  · rw [replay_eq_issue, ← kind_toCall]
    exact issue_eq_error_of_offence hdraft hcall hi

/-- An action that offends ends a replay, if no earlier one does. -/
theorem exists_replay_eq_error {actions : List Action} {i : Nat} {refusal : Refusal}
    (hi : offence? (actions.map toCall) i = some refusal) :
    ∃ (error : ReplayError Refusal) (draft : Draft),
      replay actions ({} : Draft) = .error error draft ∧ error.index ≤ i := by
  have hoffends : ∃ j, offence? (actions.map toCall) j ≠ none := ⟨i, by simp [hi]⟩
  obtain ⟨first, hfirst⟩ := Option.ne_none_iff_exists'.mp (Nat.find_spec hoffends)
  obtain ⟨action, draft, -, -, herror⟩ := replay_eq_error_of_offence hfirst fun j hj =>
    not_not.mp (Nat.find_min hoffends hj)
  exact ⟨_, draft, herror, Nat.find_min' hoffends (by simp [hi])⟩

/-- **The outcome of a replay.** On a new draft a list of actions is replayed to its end exactly when
no entry offends. Otherwise the replay stops at the first entry that does: it reports the position,
the kind and the offence of that entry, and leaves the draft to which the entries before it lead. -/
theorem replay_stops_at_first_offence (actions : List Action) :
    ((∃ draft : Draft, replay actions ({} : Draft) = .ok () draft) ↔
        ∀ i, offence? (actions.map toCall) i = none) ∧
      ∀ (i : Nat) (refusal : Refusal), offence? (actions.map toCall) i = some refusal →
        (∀ j < i, offence? (actions.map toCall) j = none) →
          ∃ (action : Action) (draft : Draft), actions[i]? = some action ∧
            replay (actions.take i) ({} : Draft) = .ok () draft ∧
              replay actions ({} : Draft) =
                .error { index := i, kind := action.kind, cause := refusal } draft := by
  refine ⟨⟨?_, ?_⟩, fun i refusal => replay_eq_error_of_offence⟩
  · -- The least offending position would end the replay.
    rintro ⟨draft, hdraft⟩ i
    induction i using Nat.strongRecOn with
    | ind i ih =>
      cases hoffence : offence? (actions.map toCall) i with
      | none => rfl
      | some refusal =>
        obtain ⟨action, last, -, -, herror⟩ := replay_eq_error_of_offence hoffence ih
        rw [hdraft] at herror
        cases herror
  · intro hnone
    obtain ⟨draft, hdraft⟩ := exists_issue_take fun j (_ : j < actions.length) => hnone j
    refine ⟨draft, ?_⟩
    rw [replay_eq_issue]
    rw [← List.map_take, List.take_length] at hdraft
    exact hdraft

/-- A header that is set after a flush ends the replay, and the bad redirect behind it is not tried. -/
theorem late_header_ends_replay :
    ∃ (action : Action) (draft : Draft),
      ([.writeText "a", .flush, .setHeader "X-Late" "1", .sendRedirect "\n"] : List Action)[2]? =
          some action ∧
        replay [.writeText "a", .flush] ({} : Draft) = .ok () draft ∧
          replay [.writeText "a", .flush, .setHeader "X-Late" "1", .sendRedirect "\n"] ({} : Draft) =
            .error { index := 2, kind := action.kind, cause := .committed .setHeader } draft :=
  (replay_stops_at_first_offence
    [.writeText "a", .flush, .setHeader "X-Late" "1", .sendRedirect "\n"]).2 2
    (.committed .setHeader) (by decide) (by decide)

end Draft

end Http

end DeferredResponse
