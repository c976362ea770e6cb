import DeferredResponse.Proofs.Buffer.Growth

/-!
# Coherent buffers

A buffer keeps the mode of its body beside the log. It is coherent when the two agree: the log has a
body write of a mode exactly when this is the mode of the body. Since a write in the mode extends a
body entry that stands last, no two body entries are neighbours. Each way into a buffer keeps it
coherent: an accepted call (`Coherent.accept`), a step (`Coherent.step`) and a replay
(`Coherent.replay`), whether it is refused or not.
-/

namespace DeferredResponse

open Operation

/-! ## Kinds and modes -/

theorem Kind.isBodyWrite_iff {kind : Kind} :
    kind.isBodyWrite = true ↔ ∃ mode : BodyMode, kind = mode.operation := by
  constructor
  · intro h
    cases kind with
    | writeText => exact ⟨.text, rfl⟩
    | writeBytes => exact ⟨.bytes, rfl⟩
    | _ => cases h
  · rintro ⟨mode, rfl⟩
    cases mode <;> rfl

theorem Operation.mode?_eq_some_iff {β : Type} {op : Operation β} {mode : BodyMode} :
    op.mode? = some mode ↔ op.kind = mode.operation := by
  cases op <;> cases mode <;> simp [mode?, kind, BodyMode.operation]

theorem Log.mem_kinds {log : Log} {kind : Kind} :
    kind ∈ log.kinds ↔ ∃ entry ∈ log.entries, entry.kind = kind := List.mem_map

namespace Buffer

/-! ## One buffer -/

/-- Log and mode agree, body entries are not neighbours, and byte bodies are well formed. -/
structure Coherent (buffer : Buffer) : Prop where
  mem_kinds_iff : ∀ mode : BodyMode, mode.operation ∈ buffer.log.kinds ↔ buffer.mode = some mode
  apart : buffer.log.kinds.IsChain fun a b => ¬ (a.isBodyWrite = true ∧ b.isBodyWrite = true)
  wellFormed : ∀ body, .writeBytes body ∈ buffer.log.entries → body.WellFormed

namespace Coherent

theorem new (config : Config) : Coherent (.new config) where
  mem_kinds_iff := by
    intro mode
    exact iff_of_false List.not_mem_nil (by rintro ⟨⟩)
  apart := List.isChain_nil
  wellFormed := by
    intro body hbody
    cases hbody

variable {buffer : Buffer}

/-- The mode of the body is that of any body entry. -/
theorem mode_of_mem (h : buffer.Coherent) {entry : Action} (hentry : entry ∈ buffer.log.entries)
    {mode : BodyMode} (hmode : entry.mode? = some mode) : buffer.mode = some mode :=
  (h.mem_kinds_iff mode).mp (Log.mem_kinds.mpr ⟨entry, hentry, mode?_eq_some_iff.mp hmode⟩)

/-- The mode is missing exactly when nothing was written to the body. -/
theorem mode_eq_none_iff (h : buffer.Coherent) :
    buffer.mode = none ↔ ∀ entry ∈ buffer.log.entries, entry.isBodyWrite = false := by
  constructor
  · intro hmode entry hentry
    by_contra hbody
    obtain ⟨mode, hkind⟩ := Kind.isBodyWrite_iff.mp (eq_true_of_ne_false hbody)
    have hsome := (h.mem_kinds_iff mode).mp (Log.mem_kinds.mpr ⟨entry, hentry, hkind⟩)
    rw [hmode] at hsome
    cases hsome
  · intro hnone
    cases hmode : buffer.mode with
    | none => rfl
    | some mode =>
      obtain ⟨entry, hentry, hkind⟩ := Log.mem_kinds.mp ((h.mem_kinds_iff mode).mpr hmode)
      have hbody : entry.isBodyWrite = true := Kind.isBodyWrite_iff.mpr ⟨mode, hkind⟩
      rw [hnone entry hentry] at hbody
      cases hbody

/-- The mode is that of all body entries, of which there is one. -/
theorem mode_eq_some_iff (h : buffer.Coherent) (mode : BodyMode) :
    buffer.mode = some mode ↔
      (∃ entry ∈ buffer.log.entries, entry.isBodyWrite = true) ∧
        ∀ entry ∈ buffer.log.entries, entry.isBodyWrite = true → entry.kind = mode.operation := by
  constructor
  · intro hmode
    obtain ⟨entry, hentry, hkind⟩ := Log.mem_kinds.mp ((h.mem_kinds_iff mode).mpr hmode)
    refine ⟨⟨entry, hentry, Kind.isBodyWrite_iff.mpr ⟨mode, hkind⟩⟩, ?_⟩
    intro other hother hbody
    obtain ⟨found, hfound⟩ := Kind.isBodyWrite_iff.mp hbody
    have hsome := (h.mem_kinds_iff found).mp (Log.mem_kinds.mpr ⟨other, hother, hfound⟩)
    rw [hmode] at hsome
    cases hsome
    exact hfound
  · rintro ⟨⟨entry, hentry, hbody⟩, hall⟩
    exact (h.mem_kinds_iff mode).mp (Log.mem_kinds.mpr ⟨entry, hentry, hall entry hentry hbody⟩)

/-! ## One call -/

/-- An entry of the same kind can stand in the place of the last one. -/
theorem replaceLast (h : buffer.Coherent) {init : List Action} {last grown : Action}
    (hlog : buffer.log.entries = init ++ [last]) (hkind : grown.kind = last.kind)
    (hgrown : ∀ body, grown = .writeBytes body → body.WellFormed) :
    Coherent { buffer with log := ⟨init ++ [grown]⟩ } := by
  have hkinds : Log.kinds ⟨init ++ [grown]⟩ = buffer.log.kinds := by
    simp [Log.kinds, hlog, hkind]
  refine ⟨?_, ?_, ?_⟩
  · rw [hkinds]
    exact h.mem_kinds_iff
  · rw [hkinds]
    exact h.apart
  · intro body hbody
    rcases List.mem_append.mp hbody with hbody | hbody
    · refine h.wellFormed body ?_
      rw [hlog]
      exact List.mem_append_left _ hbody
    · exact hgrown body (List.mem_singleton.mp hbody).symm

/-- A call that meets no conflict can become an entry, unless both it and the last entry write to
the body. -/
theorem append (h : buffer.Coherent) {call : Call}
    (hconflict : buffer.conflict? call.mode? = none)
    (hlast : ∀ last ∈ buffer.log.last?, ¬ (last.isBodyWrite = true ∧ call.isBodyWrite = true)) :
    Coherent { log := buffer.log.push call.toAction, mode := call.mode?.or buffer.mode } := by
  have hkinds : (buffer.log.push call.toAction).kinds = buffer.log.kinds ++ [call.kind] := by
    simp [Log.kinds, Log.push]
  refine ⟨?_, ?_, ?_⟩
  · intro mode
    rw [hkinds, List.mem_append, List.mem_singleton, h.mem_kinds_iff mode,
      eq_comm (a := mode.operation), ← mode?_eq_some_iff]
    cases hcall : call.mode? with
    | none => simp
    | some requested =>
      rw [hcall] at hconflict
      refine ⟨?_, .inr⟩
      rintro (hmode | hmode)
      · rw [mode_eq_of_conflict? hconflict hmode]
        rfl
      · exact hmode
  · rw [hkinds, List.isChain_append]
    refine ⟨h.apart, List.isChain_singleton _, ?_⟩
    intro kind hkind other hother
    cases hother
    rw [Log.kinds, List.getLast?_map] at hkind
    obtain ⟨last, hmem, rfl⟩ := Option.map_eq_some_iff.mp hkind
    exact hlast last hmem
  · intro body hbody
    rcases List.mem_append.mp hbody with hbody | hbody
    · exact h.wellFormed body hbody
    · cases call with
      | writeBytes bytes =>
        cases List.mem_singleton.mp hbody
        exact ByteBody.WellFormed.ofBytes bytes
      | _ => cases List.mem_singleton.mp hbody

theorem wellFormed_of_extend? {last : Action} {call : Call} {body : ByteBody}
    (hlast : ∀ body, last = .writeBytes body → body.WellFormed)
    (h : extend? last call = some (.writeBytes body)) : body.WellFormed := by
  unfold extend? at h
  split at h
  · cases h
  · cases h
    exact (hlast _ rfl).push _
  · cases h

theorem accept (h : buffer.Coherent) {call : Call}
    (hconflict : buffer.conflict? call.mode? = none) : (buffer.accept call).Coherent := by
  rcases buffer.log.add_cases call with ⟨init, last, grown, hlog, hgrown, hadd⟩ | ⟨hlast, hadd⟩
  · -- The last entry is in the mode of the call, so this is the mode already.
    obtain ⟨mode, hlastmode, hmode⟩ := exists_mode_of_extend? hgrown
    have hmem : last ∈ buffer.log.entries := by simp [hlog]
    have hbuffer : buffer.mode = some mode := h.mode_of_mem hmem hlastmode
    have haccept : buffer.accept call = { buffer with log := ⟨init ++ [grown]⟩ } := by
      unfold Buffer.accept
      rw [hmode, hbuffer, ← hadd]
      rfl
    rw [haccept]
    refine h.replaceLast hlog (extends_of_extend? hgrown).kind_eq ?_
    rintro body rfl
    refine wellFormed_of_extend? ?_ hgrown
    rintro old rfl
    exact h.wellFormed old hmem
  · have haccept : buffer.accept call =
        { log := buffer.log.push call.toAction, mode := call.mode?.or buffer.mode } := by
      unfold Buffer.accept
      exact congrArg (Buffer.mk · _) (congrArg Log.mk hadd)
    rw [haccept]
    refine h.append hconflict ?_
    rintro last hmem ⟨hl, hc⟩
    obtain ⟨mode, hmode⟩ := exists_mode? hl
    obtain ⟨requested, hrequested⟩ := exists_mode? hc
    rw [hrequested] at hconflict
    have hbuffer := h.mode_of_mem (List.mem_of_mem_getLast? hmem) hmode
    exact mode?_ne_of_extend? (hlast last hmem) hmode hrequested
      (mode_eq_of_conflict? hconflict hbuffer)

/-- Every step keeps a buffer coherent, refused steps and resets included. -/
theorem step (h : buffer.Coherent) (step : Step) : (endState (step.run buffer)).Coherent := by
  rcases step.endState_run buffer with hend | ⟨-, hend⟩ | ⟨-, call, hconflict, hend⟩
  · rw [hend]
    exact h
  · rw [hend]
    exact new {}
  · rw [hend]
    exact h.accept hconflict

/-- So does every replay, even of a list that no buffer could have recorded. -/
theorem replay (h : buffer.Coherent) (actions : List Action) :
    (endState (DeferredResponse.replay actions buffer)).Coherent :=
  replay_induction h (fun hnext hconflict => hnext.accept hconflict) actions

end Coherent

end Buffer

end DeferredResponse
