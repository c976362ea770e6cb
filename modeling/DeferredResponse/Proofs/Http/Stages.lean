import DeferredResponse.Proofs.Attempt
import DeferredResponse.Proofs.Http.Offence

/-!
# The stages of a response

A draft is editable, then its headers are sent, then it is complete, and it never goes back,
whatever calls are made on it and whichever of them are refused. What is final at a stage stays as
it is: `Draft.Follows` relates a draft to those that can come after it.

1. Which refusals a kind of call can meet (`perform_eq_committed_iff`, `perform_eq_error_iff`,
   `exists_perform_eq_ok`).
2. An accepted call leads to a draft that follows (`follows_apply`), so any run does
   (`follows_attempt`).
3. The size that is kept beside the body is that of its bytes (`wellFormed_body`).
4. `final_parts_never_change` says all of this of every run from a new draft.
-/

namespace DeferredResponse.Http

open Operation

/-- The place of a stage in the order in which a response passes through them. -/
def Stage.rank : Stage → Nat
  | editable => 0
  | headersSent => 1
  | completed => 2

theorem Stage.rank_le_after (stage : Stage) (kind : Kind) :
    stage.rank ≤ (stage.after kind).rank := by
  cases stage <;> cases kind <;> decide

theorem Stage.ne_editable_iff {stage : Stage} : stage ≠ .editable ↔ 1 ≤ stage.rank := by
  cases stage <;> decide

theorem Stage.eq_completed_iff {stage : Stage} : stage = .completed ↔ 2 ≤ stage.rank := by
  cases stage <;> decide

/-- Bad arguments are never reported as a call that comes too late. -/
theorem argumentFault?_ne_committed (call : Call) (kind : Kind) :
    argumentFault? call ≠ some (.committed kind) := by
  intro h
  cases call with
  | addCookie | clearCookie =>
    obtain ⟨part, -, hpart⟩ := Option.map_eq_some_iff.mp h
    cases hpart
  | setContentLength | writeText | writeBytes | flush | close => cases h
  | _ =>
    simp only [argumentFault?] at h
    grind

namespace Draft

/-- The draft after calls on a new one, whatever became of each of them. -/
def ofCalls (calls : List Call) : Draft := attempt calls {}

/-! ## Refusals -/

theorem perform_eq_ok_iff {call : Call} {draft next : Draft} :
    Sink.perform call draft = .ok () next ↔
      draft.stage.permits call.kind = true ∧ argumentFault? call = none ∧
        next = draft.apply call := by
  rw [perform_eq, Stage.refusal?]
  cases draft.stage.permits call.kind with
  | false => simp
  | true =>
    cases argumentFault? call with
    | some refusal => simp
    | none => simp [eq_comm]

/-- A call comes too late exactly when the stage does not permit it, and it is then refused under
its own name. -/
theorem perform_eq_committed_iff {call : Call} {draft next : Draft} {kind : Kind} :
    Sink.perform call draft = .error (.committed kind) next ↔
      draft.stage.permits call.kind = false ∧ kind = call.kind ∧ next = draft := by
  rw [perform_eq, Stage.refusal?]
  cases draft.stage.permits call.kind with
  | false => simp [eq_comm]
  | true =>
    cases hfault : argumentFault? call with
    | none => simp
    | some refusal =>
      simp only [if_true, EStateM.Result.error.injEq, Bool.true_eq_false, false_and, iff_false,
        not_and]
      rintro rfl
      exact absurd hfault (argumentFault?_ne_committed call kind)

/-- A call whose arguments cannot be bad is refused only because it comes too late. -/
theorem perform_eq_error_iff {call : Call} (hcall : argumentFault? call = none) {draft next : Draft}
    {refusal : Refusal} :
    Sink.perform call draft = .error refusal next ↔
      draft.stage.permits call.kind = false ∧ refusal = .committed call.kind ∧ next = draft := by
  rw [perform_eq, Stage.refusal?, hcall]
  cases draft.stage.permits call.kind with
  | false => simp [eq_comm]
  | true => simp

theorem argumentFault?_of_isBodyWrite {call : Call} (h : call.kind.isBodyWrite = true) :
    argumentFault? call = none := by
  cases call with
  | writeText | writeBytes => rfl
  | _ => cases h

theorem exists_perform_eq_ok {call : Call} (h : call = .flush ∨ call = .close) (draft : Draft) :
    ∃ next, Sink.perform call draft = .ok () next := by
  refine ⟨draft.apply call, perform_eq_ok_iff.mpr ⟨?_, ?_, rfl⟩⟩
  · rcases h with rfl | rfl <;> cases draft.stage <;> rfl
  · rcases h with rfl | rfl <;> rfl

/-! ## What is final -/

/-- The later draft is at no earlier stage, and has all that was final in the earlier one. -/
structure Follows (earlier later : Draft) : Prop where
  rank_le : earlier.stage.rank ≤ later.stage.rank
  status_eq : earlier.stage ≠ .editable → later.status = earlier.status
  headers_eq : earlier.stage ≠ .editable → later.headers = earlier.headers
  body_prefix : earlier.stage ≠ .editable → earlier.body.toBytes <+: later.body.toBytes
  body_eq : earlier.stage = .completed → later.body = earlier.body

theorem Follows.refl (draft : Draft) : draft.Follows draft :=
  ⟨Nat.le_refl _, fun _ => rfl, fun _ => rfl, fun _ => List.prefix_rfl, fun _ => rfl⟩

theorem Follows.trans {a b c : Draft} (hab : a.Follows b) (hbc : b.Follows c) : a.Follows c := by
  have hsent : a.stage ≠ .editable → b.stage ≠ .editable := by
    rw [Stage.ne_editable_iff, Stage.ne_editable_iff]
    exact fun h => Nat.le_trans h hab.rank_le
  have hdone : a.stage = .completed → b.stage = .completed := by
    rw [Stage.eq_completed_iff, Stage.eq_completed_iff]
    exact fun h => Nat.le_trans h hab.rank_le
  refine ⟨Nat.le_trans hab.rank_le hbc.rank_le, ?_, ?_, ?_, ?_⟩
  · intro h
    rw [hbc.status_eq (hsent h), hab.status_eq h]
  · intro h
    rw [hbc.headers_eq (hsent h), hab.headers_eq h]
  · intro h
    exact (hab.body_prefix h).trans (hbc.body_prefix (hsent h))
  · intro h
    rw [hbc.body_eq (hdone h), hab.body_eq h]

/-- While a draft is editable nothing in it is final. -/
theorem Follows.of_editable {earlier : Draft} (h : earlier.stage = .editable) (later : Draft) :
    earlier.Follows later where
  rank_le := by
    rw [h]
    exact Nat.zero_le _
  status_eq hne := absurd h hne
  headers_eq hne := absurd h hne
  body_prefix hne := absurd h hne
  body_eq hdone := by
    rw [h] at hdone
    cases hdone

/-- A change of the stage alone. -/
theorem Follows.withStage {draft : Draft} {stage : Stage} (h : draft.stage.rank ≤ stage.rank) :
    draft.Follows { draft with stage } :=
  ⟨h, fun _ => rfl, fun _ => rfl, fun _ => List.prefix_rfl, fun _ => rfl⟩

theorem Follows.withBytes {draft : Draft} (h : draft.stage ≠ .completed) (bytes : Bytes) :
    draft.Follows (draft.withBytes bytes) where
  rank_le := Nat.le_refl _
  status_eq _ := rfl
  headers_eq _ := rfl
  body_prefix _ := by
    show _ <+: (draft.body.push bytes).toBytes
    rw [ByteBody.toBytes_push]
    exact List.prefix_append _ _
  body_eq hdone := absurd hdone h

/-- A call that the stage permits changes nothing that is final. -/
theorem follows_apply {draft : Draft} {call : Call} (h : draft.stage.permits call.kind = true) :
    draft.Follows (draft.apply call) := by
  by_cases hopen : draft.stage = .editable
  · exact .of_editable hopen _
  rw [Stage.permits_iff, not_or] at h
  cases call with
  | writeText text => exact .withBytes (fun hdone => h.2 ⟨rfl, hdone⟩) (utf8 text)
  | writeBytes bytes => exact .withBytes (fun hdone => h.2 ⟨rfl, hdone⟩) bytes
  | flush =>
    show draft.Follows draft.sendHeaders
    rw [sendHeaders_eq]
    exact .withStage (Stage.rank_le_after draft.stage .flush)
  | close => exact .withStage (Stage.rank_le_after draft.stage .close)
  | _ => exact absurd ⟨rfl, hopen⟩ h.1

theorem follows_attempt (calls : List Call) (draft : Draft) :
    draft.Follows (attempt calls draft) := by
  refine attempt_induction (P := draft.Follows) (Follows.refl draft) ?_ calls
  intro call state next hstate hcall
  obtain ⟨hpermits, -, rfl⟩ := perform_eq_ok_iff.mp hcall
  exact hstate.trans (follows_apply hpermits)

/-! ## The size of the body -/

theorem wellFormed_body_apply {draft : Draft} (h : draft.body.WellFormed) (call : Call) :
    (draft.apply call).body.WellFormed := by
  cases call with
  | writeText text => exact h.push (utf8 text)
  | writeBytes bytes => exact h.push bytes
  | sendError code message => exact ByteBody.WellFormed.ofBytes (utf8 message)
  | sendRedirect url => exact ByteBody.WellFormed.empty
  | flush =>
    show draft.sendHeaders.body.WellFormed
    rw [sendHeaders_eq]
    exact h
  | _ => exact h

theorem wellFormed_body (calls : List Call) : (ofCalls calls).body.WellFormed := by
  refine attempt_induction (P := fun draft : Draft => draft.body.WellFormed)
    ByteBody.WellFormed.empty ?_ calls
  intro call state next hstate hcall
  obtain ⟨-, -, rfl⟩ := perform_eq_ok_iff.mp hcall
  exact wellFormed_body_apply hstate call

/-! ## Every run -/

/-- **The commit protocol.** Let some calls have been made on a new draft, refused or not, and then
others. The stage never goes back. A call on the status or the headers is refused as too late, under
its own name, exactly when the draft is no longer editable; a body write is refused exactly when the
draft is complete, and only as too late; a flush or a close is never refused. Once the draft is not
editable, its status and headers stay and its body only grows; once it is complete, its body stays.
The size of the body is that of the response as it stands. -/
theorem final_parts_never_change (earlier later : List Call) :
    (ofCalls earlier).stage.rank ≤ (ofCalls (earlier ++ later)).stage.rank ∧
      (∀ call : Call, call.kind.isHead = true → ∀ (kind : Kind) (next : Draft),
        Sink.perform call (ofCalls earlier) = .error (.committed kind) next ↔
          (ofCalls earlier).stage ≠ .editable ∧ kind = call.kind ∧ next = ofCalls earlier) ∧
      (∀ call : Call, call.kind.isBodyWrite = true → ∀ (refusal : Refusal) (next : Draft),
        Sink.perform call (ofCalls earlier) = .error refusal next ↔
          (ofCalls earlier).stage = .completed ∧ refusal = .committed call.kind ∧
            next = ofCalls earlier) ∧
      (∀ call : Call, call = .flush ∨ call = .close →
        ∃ next, Sink.perform call (ofCalls earlier) = .ok () next) ∧
      ((ofCalls earlier).stage ≠ .editable →
        (ofCalls (earlier ++ later)).status = (ofCalls earlier).status ∧
          (ofCalls (earlier ++ later)).headers = (ofCalls earlier).headers ∧
            (ofCalls earlier).body.toBytes <+: (ofCalls (earlier ++ later)).body.toBytes) ∧
      ((ofCalls earlier).stage = .completed →
        (ofCalls (earlier ++ later)).body = (ofCalls earlier).body) ∧
      (ofCalls earlier).bodySize = (ofCalls earlier).toResponse.body.length := by
  have hfollows : (ofCalls earlier).Follows (ofCalls (earlier ++ later)) := by
    unfold ofCalls
    rw [attempt_append]
    exact follows_attempt later _
  refine ⟨hfollows.rank_le, ?_, ?_, ?_, ?_, hfollows.body_eq, (wellFormed_body earlier).1⟩
  · intro call hhead kind next
    rw [perform_eq_committed_iff, ← Bool.not_eq_true, Stage.permits_head_iff hhead]
  · intro call hwrite refusal next
    rw [perform_eq_error_iff (argumentFault?_of_isBodyWrite hwrite), ← Bool.not_eq_true,
      Stage.permits_bodyWrite_iff hwrite, not_not]
  · intro call hcall
    exact exists_perform_eq_ok hcall _
  · intro hsent
    exact ⟨hfollows.status_eq hsent, hfollows.headers_eq hsent, hfollows.body_prefix hsent⟩

/-- After a flush a status is refused, and text is added to what is there. -/
theorem flushed_head_never_changes :
    (ofCalls [.setStatus 404, .writeText "a", .flush]).stage ≠ .editable ∧
      (ofCalls ([.setStatus 404, .writeText "a", .flush] ++
          [.setStatus 500, .writeText "b", .close, .writeText "c"])).status =
        (ofCalls [.setStatus 404, .writeText "a", .flush]).status ∧
      (ofCalls [.setStatus 404, .writeText "a", .flush]).body.toBytes <+:
        (ofCalls ([.setStatus 404, .writeText "a", .flush] ++
          [.setStatus 500, .writeText "b", .close, .writeText "c"])).body.toBytes := by
  have hsent : (ofCalls [.setStatus 404, .writeText "a", .flush]).stage ≠ .editable := by decide
  obtain ⟨-, -, -, -, hfinal, -⟩ := final_parts_never_change
    [.setStatus 404, .writeText "a", .flush]
    [.setStatus 500, .writeText "b", .close, .writeText "c"]
  obtain ⟨hstatus, -, hbody⟩ := hfinal hsent
  exact ⟨hsent, hstatus, hbody⟩

end Draft

end DeferredResponse.Http
