import DeferredResponse.Proofs.Buffer.History
import DeferredResponse.Proofs.Http.Stages
import DeferredResponse.Proofs.Http.Transparency

/-!
# Flushes and closes left out

A flush or a close asks for nothing: it only says how far the response is committed. A handler that
leaves some of them out records another log, for writes can then stand side by side, and its draft
stays at earlier stages; but the response is the same.

1. Leaving out steps on a buffer leaves out accepted calls, flushes and closes among them
   (`History.Thins.of_thinned`), since no step depends on more than the mode of the body.
2. A draft that is behind another one only in its stage (`Draft.Behind`) takes all that the other
   takes, and stays behind; a flush or a close moves only the draft that takes it
   (`exists_issueFrom_of_thinned`).
3. A commit succeeds as issuing the accepted calls does, entries merged or not (`commit_eq_ok_iff`),
   and a response does not depend on the stage (`commit_of_thinned`).
-/

namespace DeferredResponse

open Operation

/-- One list is another one without some of the elements that may be left out. -/
inductive Thinned {α : Type} (idle : α → Prop) : List α → List α → Prop where
  | nil : Thinned idle [] []
  | keep {kept all : List α} (a : α) : Thinned idle kept all → Thinned idle (a :: kept) (a :: all)
  | drop {kept all : List α} {a : α} : idle a → Thinned idle kept all → Thinned idle kept (a :: all)

namespace Thinned

variable {α : Type} {idle : α → Prop}

theorem refl (all : List α) : Thinned idle all all := by
  induction all with
  | nil => exact nil
  | cons a rest ih => exact ih.keep a

theorem append {kept all kept' all' : List α} (h : Thinned idle kept all)
    (h' : Thinned idle kept' all') : Thinned idle (kept ++ kept') (all ++ all') := by
  induction h with
  | nil => exact h'
  | keep a _ ih => exact ih.keep a
  | drop ha _ ih => exact ih.drop ha

end Thinned

/-- The call is a flush or a close. -/
def Operation.IsIdle (call : Call) : Prop := call = .flush ∨ call = .close

/-! ## Steps on a buffer -/

namespace Buffer

/-- The step is a flush or a close. -/
def Step.IsIdle (step : Step) : Prop :=
  step = .call .flush ∨ step = .call .close ∨ step = .streamFlush

theorem Step.IsIdle.exists_calls_eq {step : Step} (h : step.IsIdle) :
    step.mode? = none ∧ step ≠ .reset ∧ ∃ call : Call, step.calls = [call] ∧ call.IsIdle := by
  rcases h with rfl | rfl | rfl
  · exact ⟨rfl, nofun, .flush, rfl, .inl rfl⟩
  · exact ⟨rfl, nofun, .close, rfl, .inr rfl⟩
  · exact ⟨rfl, nofun, .flush, rfl, .inl rfl⟩

theorem mode_foldl_accept {a b : Buffer} (h : a.mode = b.mode) (calls : List Call) :
    (calls.foldl accept a).mode = (calls.foldl accept b).mode := by
  induction calls generalizing a b with
  | nil => exact h
  | cons call rest ih =>
    apply ih
    rw [mode_accept, mode_accept, h]

namespace History

/-- The one history has accepted what the other one has, but for some flushes and closes. -/
structure Thins (fewer more : History) : Prop where
  mode_eq : fewer.buffer.mode = more.buffer.mode
  accepted : Thinned Operation.IsIdle fewer.accepted more.accepted

namespace Thins

variable {fewer more : History} {step : Step}

theorem refl (history : History) : history.Thins history := ⟨rfl, .refl _⟩

/-- A step that both take has the same fate in both. -/
theorem keep (h : fewer.Thins more) (step : Step) : (fewer.add step).Thins (more.add step) := by
  have hconflict : fewer.buffer.conflict? step.mode? = more.buffer.conflict? step.mode? := by
    unfold conflict?
    rw [h.mode_eq]
  rw [add_eq, add_eq, hconflict]
  cases more.buffer.conflict? step.mode? with
  | some conflict => exact h
  | none =>
    simp only
    split
    · exact refl _
    · exact ⟨mode_foldl_accept h.mode_eq step.calls, h.accepted.append (.refl step.calls)⟩

/-- A flush or a close may be left out. -/
theorem drop (h : fewer.Thins more) (hstep : step.IsIdle) : fewer.Thins (more.add step) := by
  obtain ⟨hmode, hreset, call, hcalls, hcall⟩ := hstep.exists_calls_eq
  have hcallmode : call.mode? = none := by
    rcases hcall with rfl | rfl <;> rfl
  rw [add_eq, hmode, conflict?_none]
  simp only [if_neg hreset, hcalls, List.foldl_cons, List.foldl_nil]
  refine ⟨?_, ?_⟩
  · rw [mode_accept, hcallmode, Option.none_or, h.mode_eq]
  · have hall := h.accepted.append (Thinned.nil.drop hcall)
    rwa [List.append_nil] at hall

theorem of_thinned {kept steps : List Step} (hkept : Thinned Step.IsIdle kept steps) :
    ∀ {fewer more : History}, fewer.Thins more →
      (kept.foldl add fewer).Thins (steps.foldl add more) := by
  induction hkept with
  | nil => exact id
  | keep step _ ih => exact fun h => ih (h.keep step)
  | drop hstep _ ih => exact fun h => ih (h.drop hstep)

end Thins

end History

end Buffer

namespace Http

open Buffer (History Step)

/-! ## Drafts at different stages -/

namespace Stage

variable {early late : Stage}

theorem permits_of_rank_le (h : early.rank ≤ late.rank) {kind : Kind}
    (hpermits : late.permits kind = true) : early.permits kind = true := by
  rw [permits_iff, ne_editable_iff, eq_completed_iff] at hpermits ⊢
  exact fun hlate => hpermits
    (hlate.imp (And.imp_right h.trans') (And.imp_right h.trans'))

theorem rank_after_le (h : early.rank ≤ late.rank) (kind : Kind) :
    (early.after kind).rank ≤ (late.after kind).rank := by
  cases kind with
  | flush =>
    revert h
    cases early <;> cases late <;> decide
  | close | sendError | sendRedirect => exact Nat.le_refl _
  | _ => exact h

end Stage

namespace Draft

/-- The drafts differ at most in their stages, and the second one is not at an earlier stage. -/
structure Behind (early late : Draft) : Prop where
  rank_le : early.stage.rank ≤ late.stage.rank
  eq_withStage : early = { late with stage := early.stage }

theorem Behind.refl (draft : Draft) : draft.Behind draft := ⟨Nat.le_refl _, rfl⟩

theorem Behind.toResponse_eq {early late : Draft} (h : early.Behind late) :
    early.toResponse = late.toResponse := by
  rw [h.eq_withStage]
  rfl

/-- The stage has no part in what a call does to the rest of the draft. -/
theorem apply_withStage (call : Call) (draft : Draft) (stage : Stage) :
    ({ draft with stage } : Draft).apply call =
      { draft.apply call with stage := stage.after call.kind } := by
  cases call with
  | flush =>
    show ({ draft with stage } : Draft).sendHeaders =
      { draft.sendHeaders with stage := stage.after .flush }
    rw [sendHeaders_eq, sendHeaders_eq]
  | _ => rfl

theorem Behind.apply {early late : Draft} (h : early.Behind late) (call : Call) :
    (early.apply call).Behind (late.apply call) where
  rank_le := by
    rw [stage_apply, stage_apply]
    exact Stage.rank_after_le h.rank_le call.kind
  eq_withStage := by
    rw [stage_apply, ← apply_withStage, ← h.eq_withStage]

/-- A flush or a close only moves the draft on. -/
theorem Behind.apply_idle {early late : Draft} (h : early.Behind late) {call : Call}
    (hcall : call.IsIdle) : early.Behind (late.apply call) where
  rank_le := by
    rw [stage_apply]
    exact h.rank_le.trans (Stage.rank_le_after late.stage call.kind)
  eq_withStage := by
    rcases hcall with rfl | rfl
    · show early = { late.sendHeaders with stage := early.stage }
      rw [sendHeaders_eq]
      exact h.eq_withStage
    · exact h.eq_withStage

/-- The draft that is behind takes the calls that the other one takes, with or without the flushes
and closes among them. -/
theorem exists_issueFrom_of_thinned {kept calls : List Call} (hkept : Thinned IsIdle kept calls) :
    ∀ {i j : Nat} {early late last : Draft}, early.Behind late →
      issueFrom j calls late = .ok () last →
        ∃ finish : Draft, issueFrom i kept early = .ok () finish ∧ finish.Behind last := by
  induction hkept with
  | nil =>
    intro i j early late last hbehind hrun
    cases hrun
    exact ⟨early, rfl, hbehind⟩
  | keep call _ ih =>
    intro i j early late last hbehind hrun
    rw [issueFrom_cons] at hrun
    cases hperform : (Sink.perform call : EStateM Refusal Draft Unit) late with
    | error refusal next =>
      rw [hperform] at hrun
      cases hrun
    | ok _ next =>
      obtain ⟨hpermits, hfault, rfl⟩ := perform_eq_ok_iff.mp hperform
      have hearly : Sink.perform call early = .ok () (early.apply call) :=
        perform_eq_ok_iff.mpr ⟨Stage.permits_of_rank_le hbehind.rank_le hpermits, hfault, rfl⟩
      rw [hperform] at hrun
      rw [issueFrom_cons, hearly]
      exact ih (hbehind.apply call) hrun
  | @drop _ _ call hcall _ ih =>
    intro i j early late last hbehind hrun
    obtain ⟨next, hperform⟩ := exists_perform_eq_ok hcall late
    obtain ⟨-, -, rfl⟩ := perform_eq_ok_iff.mp hperform
    rw [issueFrom_cons, hperform] at hrun
    exact ih (hbehind.apply_idle hcall) hrun

end Draft

/-! ## Commits -/

/-- The entries can be issued when the calls that went into them can, and to the same response. -/
theorem Mirrors.exists_issue_iff {entries : List Call} {accepted : List Placed}
    (h : Mirrors entries accepted) (response : Response) :
    (∃ draft : Draft, issue entries ({} : Draft) = .ok () draft ∧ draft.toResponse = response) ↔
      ∃ draft : Draft, issue (accepted.map Placed.call) ({} : Draft) = .ok () draft ∧
        draft.toResponse = response := by
  unfold Mirrors at h
  cases hdirect : issue (accepted.map Placed.call) ({} : Draft) with
  | ok _ direct =>
    rw [hdirect] at h
    obtain ⟨replayed, hreplayed, hagrees⟩ := h
    simp [hreplayed, hagrees.toResponse_eq]
  | error error direct =>
    rw [hdirect] at h
    obtain ⟨placed, replayed, -, -, hreplayed⟩ := h
    simp [hreplayed]

/-- What is coalesced mirrors what it came from, if all body writes are in one mode. -/
theorem exists_mirrors_coalesced {mode : Option BodyMode} (calls : List Call)
    (halike : ∀ call ∈ calls, ∀ requested, call.mode? = some requested → mode = some requested) :
    ∃ placed : List Placed, placed.map Placed.call = calls ∧ Mirrors (coalesced calls) placed := by
  induction calls using List.reverseRecOn with
  | nil => exact ⟨[], rfl, Mirrors.nil⟩
  | append_singleton calls call ih =>
    have hbefore := fun earlier hearlier => halike earlier (List.mem_append_left [call] hearlier)
    have hcall := halike call (List.mem_append_right calls List.mem_cons_self)
    obtain ⟨placed, hplaced, hmirrors⟩ := ih hbefore
    rw [coalesced_concat calls call fun earlier hearlier first hfirst requested hrequested =>
      Option.some.inj ((hbefore earlier hearlier first hfirst).symm.trans
        (hcall requested hrequested))]
    refine ⟨_, ?_, hmirrors.addCall call⟩
    rw [List.map_append, hplaced]
    rfl

/-- A commit succeeds as issuing the accepted calls on a new draft does. -/
theorem commit_eq_ok_iff {history : History} (h : history.Faithful) {response : Response} :
    commit history.buffer = .ok response ↔
      ∃ draft : Draft, issue history.accepted ({} : Draft) = .ok () draft ∧
        draft.toResponse = response := by
  obtain ⟨placed, hplaced, hmirrors⟩ := exists_mirrors_coalesced history.accepted h.alike
  have hissue := hmirrors.exists_issue_iff response
  rw [hplaced] at hissue
  rw [commit_eq, h.calls_eq, ← hissue]
  cases issue (coalesced history.accepted) ({} : Draft) with
  | ok _ draft => simp
  | error error draft => simp

/-- **Flushes and closes do not alter a response.** When steps on a new buffer lead to a response,
the same steps without some of the flushes and closes among them lead to the same response. -/
theorem commit_of_thinned (config : Config) {kept steps : List Step} {response : Response}
    (hkept : Thinned Step.IsIdle kept steps)
    (hcommit : commit (History.ofSteps config steps).buffer = .ok response) :
    commit (History.ofSteps config kept).buffer = .ok response := by
  have hthins : (History.ofSteps config kept).Thins (History.ofSteps config steps) :=
    History.Thins.of_thinned hkept (.refl _)
  obtain ⟨last, hissue, rfl⟩ := (commit_eq_ok_iff (.ofSteps config steps)).mp hcommit
  obtain ⟨finish, hfinish, hbehind⟩ :=
    Draft.exists_issueFrom_of_thinned hthins.accepted (.refl {}) hissue
  exact (commit_eq_ok_iff (.ofSteps config kept)).mpr
    ⟨finish, hfinish, hbehind.toResponse_eq⟩

/-- Without its first flush and its close a buffer holds one text entry where it held two, and a
slice is refused as before. -/
theorem commit_without_flush :
    ∃ (kept steps : List Step) (response : Response), Thinned Step.IsIdle kept steps ∧
      commit (History.ofSteps {} steps).buffer = .ok response ∧
        (History.ofSteps {} steps).buffer.log.size = 6 ∧
          commit (History.ofSteps {} kept).buffer = .ok response ∧
            (History.ofSteps {} kept).buffer.log.size = 3 := by
  have hkept : Thinned Step.IsIdle
      [.call (.setHeader "X-Id" "1"), .call (.writeText "a"), .slice [98], .call (.writeText "b"),
        .streamFlush]
      [.call (.setHeader "X-Id" "1"), .call (.writeText "a"), .call .flush, .slice [98],
        .call (.writeText "b"), .streamFlush, .call .close] :=
    .keep _ <| .keep _ <| .drop (.inl rfl) <| .keep _ <| .keep _ <| .keep _ <|
      .drop (.inr (.inl rfl)) .nil
  exact ⟨_, _, _, hkept, rfl, rfl, commit_of_thinned {} hkept rfl, rfl⟩

end Http

end DeferredResponse
