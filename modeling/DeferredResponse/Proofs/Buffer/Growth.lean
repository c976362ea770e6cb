import DeferredResponse.Proofs.Attempt
import DeferredResponse.Proofs.Buffer.History

/-!
# Growing logs

What a call that is not a reset can do to a log: nothing, one more entry, or more payload at the end
of the last entry (`Log.Grows`). Calls that follow one another leave everything in its place
(`Log.Keeps`): only the entry that stands last may have been extended, and new ones stand behind it.

1. One call adds an entry or extends the last one (`Log.add_cases`, `Log.grows_add`).
2. A step amounts to no call or to one (`Step.apply_eq`): the pieces of a formatted text are one
   write of the whole.
3. So every step but a reset lets the log grow and leaves the mode, once it is set, as it is
   (`Step.grows`, `Step.mode_eq`).
-/

namespace DeferredResponse

open Operation

namespace Operation

/-- The later entry is the earlier body write with more at the end of its payload. -/
inductive Extends : Action → Action → Prop
  | text (written more : String) : Extends (.writeText written) (.writeText (written ++ more))
  | bytes {body grown : ByteBody} (more : List Bytes) (h : grown.chunks = body.chunks ++ more) :
      Extends (.writeBytes body) (.writeBytes grown)

theorem Extends.kind_eq {earlier later : Action} (h : Extends earlier later) :
    later.kind = earlier.kind := by
  cases h <;> rfl

theorem Extends.trans {a b c : Action} (hab : Extends a b) (hbc : Extends b c) : Extends a c := by
  cases hab with
  | text written more =>
    cases hbc with
    | text _ further =>
      rw [String.append_assoc]
      exact .text written (more ++ further)
  | bytes more h =>
    cases hbc with
    | bytes further h' =>
      refine .bytes (more ++ further) ?_
      rw [h', h, List.append_assoc]

/-- The entry with the payload of a call at its end, if both write to the body in one mode. -/
def extend? : Action → Call → Option Action
  | .writeText written, .writeText text => some (.writeText (written ++ text))
  | .writeBytes body, .writeBytes bytes => some (.writeBytes (body.push bytes))
  | _, _ => none

theorem extends_of_extend? {last grown : Action} {call : Call}
    (h : extend? last call = some grown) : Extends last grown := by
  unfold extend? at h
  split at h
  · cases h
    exact .text _ _
  · next body bytes =>
    cases h
    cases bytes with
    | nil => exact .bytes [] (List.append_nil _).symm
    | cons b rest => exact .bytes [b :: rest] rfl
  · cases h

/-- An entry and a call that extends it write to the body in one mode. -/
theorem exists_mode_of_extend? {last grown : Action} {call : Call}
    (h : extend? last call = some grown) :
    ∃ mode : BodyMode, last.mode? = some mode ∧ call.mode? = some mode := by
  unfold extend? at h
  split at h
  · exact ⟨.text, rfl, rfl⟩
  · exact ⟨.bytes, rfl, rfl⟩
  · cases h

/-- A write that does not extend an entry writes in another mode than the entry, if that writes at
all. -/
theorem mode?_ne_of_extend? {last : Action} {call : Call} (h : extend? last call = none)
    {mode requested : BodyMode} (hlast : last.mode? = some mode)
    (hcall : call.mode? = some requested) : mode ≠ requested := by
  rintro rfl
  cases last with
  | writeText written =>
    cases hlast
    cases call with
    | writeText text => cases h
    | _ => cases hcall
  | writeBytes body =>
    cases hlast
    cases call with
    | writeBytes bytes => cases h
    | _ => cases hcall
  | _ => cases hlast

end Operation

namespace Log

/-- The later log is the earlier one, the earlier one with one more entry, or the earlier one with
its last entry extended. -/
inductive Grows (earlier : Log) : Log → Prop
  | same : Grows earlier earlier
  | append {later : Log} (action : Action) (h : later.entries = earlier.entries ++ [action]) :
      Grows earlier later
  | extend {later : Log} {init : List Action} {last grown : Action}
      (hearlier : earlier.entries = init ++ [last]) (hgrown : Extends last grown)
      (hlater : later.entries = init ++ [grown]) : Grows earlier later

/-- Everything in the earlier log stands in its place in the later one: all entries but the last are
the same, and the last is the same or extended. -/
def Keeps (earlier later : Log) : Prop :=
  earlier.entries = [] ∨
    ∃ init last kept rest, earlier.entries = init ++ [last] ∧ (kept = last ∨ Extends last kept) ∧
      later.entries = init ++ kept :: rest

theorem Keeps.refl (log : Log) : log.Keeps log := by
  rcases List.eq_nil_or_concat log.entries with h | ⟨init, last, h⟩
  · exact .inl h
  · rw [List.concat_eq_append] at h
    exact .inr ⟨init, last, last, [], h, .inl rfl, h⟩

theorem Keeps.trans {a b c : Log} (hab : a.Keeps b) (hbc : b.Keeps c) : a.Keeps c := by
  rcases hab with ha | ⟨init, last, kept, rest, ha, hkept, hb⟩
  · exact .inl ha
  rcases hbc with hnil | ⟨init', last', kept', rest', hb', hkept', hc⟩
  · rw [hb] at hnil
    simp at hnil
  right
  rcases List.eq_nil_or_concat rest with rfl | ⟨rest, final, rfl⟩
  · -- The entry that was last is so still, and may have been extended once more.
    obtain ⟨rfl, hlast⟩ := List.append_inj' (hb.symm.trans hb') rfl
    obtain rfl : kept = last' := by simpa using hlast
    refine ⟨init, last, kept', rest', ha, ?_, hc⟩
    rcases hkept with rfl | hkept
    · exact hkept'
    · rcases hkept' with rfl | hkept'
      · exact .inr hkept
      · exact .inr (hkept.trans hkept')
  · -- The entry that was last has others behind it, and stays as it is.
    have hsplit : (init ++ kept :: rest) ++ [final] = init' ++ [last'] := by
      rw [← hb', hb]
      simp
    obtain ⟨rfl, -⟩ := List.append_inj' hsplit rfl
    refine ⟨init, last, kept, rest ++ kept' :: rest', ha, hkept, ?_⟩
    rw [hc]
    simp

theorem Grows.keeps {earlier later : Log} (h : earlier.Grows later) : earlier.Keeps later := by
  cases h with
  | same => exact Keeps.refl earlier
  | append action h =>
    rcases List.eq_nil_or_concat earlier.entries with hnil | ⟨init, last, hlast⟩
    · exact .inl hnil
    · rw [List.concat_eq_append] at hlast
      refine .inr ⟨init, last, last, [action], hlast, .inl rfl, ?_⟩
      rw [h, hlast, List.append_assoc]
      rfl
  | extend hearlier hgrown hlater => exact .inr ⟨_, _, _, [], hearlier, .inr hgrown, hlater⟩

/-- A call extends the last entry if it can, and becomes an entry of its own otherwise. -/
theorem add_cases (log : Log) (call : Call) :
    (∃ init last grown, log.entries = init ++ [last] ∧ extend? last call = some grown ∧
        (log.add call).entries = init ++ [grown]) ∨
      (∀ last ∈ log.last?, extend? last call = none) ∧
        (log.add call).entries = log.entries ++ [call.toAction] := by
  obtain ⟨entries⟩ := log
  rcases List.eq_nil_or_concat entries with rfl | ⟨init, last, rfl⟩
  · right
    constructor
    · intro last hlast
      cases hlast
    · cases call <;> rfl
  · rw [List.concat_eq_append]
    have hlast : (Log.mk (init ++ [last])).last? = some last := List.getLast?_concat
    cases hextend : extend? last call with
    | some grown =>
      refine .inl ⟨init, last, grown, rfl, hextend, ?_⟩
      unfold extend? at hextend
      split at hextend
      · cases hextend
        simp only [add, appendText, hlast, replaceLast, List.dropLast_concat]
      · cases hextend
        simp only [add, appendBytes, hlast, replaceLast, List.dropLast_concat]
      · cases hextend
    | none =>
      right
      constructor
      · intro other hother
        obtain rfl : last = other := Option.some.inj (hlast.symm.trans hother)
        exact hextend
      · cases call with
        | writeText text =>
          simp only [add, appendText, hlast]
          cases last with
          | writeText written => cases hextend
          | _ => rfl
        | writeBytes bytes =>
          simp only [add, appendBytes, hlast]
          cases last with
          | writeBytes body => cases hextend
          | _ => rfl
        | _ => rfl

theorem grows_add (log : Log) (call : Call) : log.Grows (log.add call) := by
  rcases log.add_cases call with ⟨init, last, grown, hlog, hgrown, hadd⟩ | ⟨-, hadd⟩
  · exact .extend hlog (extends_of_extend? hgrown) hadd
  · exact .append _ hadd

theorem appendText_append (log : Log) (s t : String) :
    log.appendText (s ++ t) = (log.appendText s).appendText t := by
  obtain ⟨entries⟩ := log
  rcases List.eq_nil_or_concat entries with rfl | ⟨init, last, rfl⟩
  · simp [appendText, last?, push, replaceLast]
  · cases last <;> simp [appendText, last?, push, replaceLast, String.append_assoc]

end Log

namespace Buffer

/-! ## Calls -/

theorem record_eq_ok_iff {call : Call} {buffer next : Buffer} :
    record call buffer = .ok () next ↔
      buffer.conflict? call.mode? = none ∧ next = buffer.accept call := by
  rw [record_eq]
  cases buffer.conflict? call.mode? with
  | some conflict => simp
  | none => simp [eq_comm]

/-- A mode that is set is not changed by a call that meets no conflict. -/
theorem mode_accept_of_conflict? {buffer : Buffer} {call : Call} {mode : BodyMode}
    (hconflict : buffer.conflict? call.mode? = none) (hmode : buffer.mode = some mode) :
    (buffer.accept call).mode = some mode := by
  rw [mode_accept]
  cases hcall : call.mode? with
  | none => exact hmode
  | some requested =>
    rw [hcall] at hconflict
    rw [mode_eq_of_conflict? hconflict hmode]
    rfl

/-! ## Steps -/

namespace Step

theorem accept_writeText_append (buffer : Buffer) (s t : String) :
    buffer.accept (.writeText (s ++ t)) = (buffer.accept (.writeText s)).accept (.writeText t) := by
  show Buffer.mk (buffer.log.appendText (s ++ t)) _ = _
  rw [Log.appendText_append]
  rfl

/-- Pieces of text that are accepted one after the other are accepted as a whole. -/
theorem foldl_accept_writeText (piece : String) (rest : List String) (buffer : Buffer) :
    ((piece :: rest).map Operation.writeText).foldl accept buffer =
      buffer.accept (.writeText (piece ++ String.join rest)) := by
  induction rest generalizing piece buffer with
  | nil => simp
  | cons next rest ih =>
    rw [List.map_cons, List.foldl_cons, ih, ← accept_writeText_append, String.join_cons]

/-- A step that is not a reset amounts to no call or to one, in the mode of the step. -/
theorem apply_eq {step : Step} (hreset : step ≠ .reset) (buffer : Buffer) :
    step.apply buffer = buffer ∨
      ∃ call : Call, call.mode? = step.mode? ∧ step.apply buffer = buffer.accept call := by
  cases step with
  | call issued => exact .inr ⟨issued, mode?_of_mem_calls List.mem_cons_self, rfl⟩
  | slice bytes | stream bytes => exact .inr ⟨.writeBytes bytes, rfl, rfl⟩
  | format pieces =>
    cases pieces with
    | nil => exact .inl rfl
    | cons piece rest =>
      exact .inr ⟨.writeText (piece ++ String.join rest), rfl,
        foldl_accept_writeText piece rest buffer⟩
  | streamAll bytes =>
    cases bytes with
    | nil => exact .inl rfl
    | cons b rest => exact .inr ⟨.writeBytes (b :: rest), rfl, rfl⟩
  | streamFlush => exact .inr ⟨.flush, rfl, rfl⟩
  | reset => exact absurd rfl hreset

/-- What a step leads to: the same buffer, a reset one, or one with one more call. -/
theorem endState_run (step : Step) (buffer : Buffer) :
    endState (step.run buffer) = buffer ∨
      step = .reset ∧ endState (step.run buffer) = {} ∨
        step ≠ .reset ∧ ∃ call : Call, buffer.conflict? call.mode? = none ∧
          endState (step.run buffer) = buffer.accept call := by
  rw [run_eq]
  cases hconflict : buffer.conflict? step.mode? with
  | some conflict => exact .inl rfl
  | none =>
    by_cases hreset : step = .reset
    · subst hreset
      exact .inr (.inl ⟨rfl, rfl⟩)
    · rcases apply_eq hreset buffer with h | ⟨call, hmode, h⟩
      · exact .inl h
      · exact .inr (.inr ⟨hreset, call, hmode ▸ hconflict, h⟩)

theorem grows {step : Step} (hreset : step ≠ .reset) (buffer : Buffer) :
    buffer.log.Grows (endState (step.run buffer)).log := by
  rcases step.endState_run buffer with h | ⟨h, -⟩ | ⟨-, call, -, h⟩
  · rw [h]
    exact .same
  · exact absurd h hreset
  · rw [h]
    exact buffer.log.grows_add call

theorem mode_eq {step : Step} (hreset : step ≠ .reset) {buffer : Buffer} {mode : BodyMode}
    (hmode : buffer.mode = some mode) : (endState (step.run buffer)).mode = some mode := by
  rcases step.endState_run buffer with h | ⟨h, -⟩ | ⟨-, call, hconflict, h⟩
  · rw [h]
    exact hmode
  · exact absurd h hreset
  · rw [h]
    exact mode_accept_of_conflict? hconflict hmode

end Step

/-! ## Replays -/

/-- A property of buffers that every accepted call keeps is kept by a replay, even one that is
refused. -/
theorem replay_induction {P : Buffer → Prop} {buffer : Buffer} (h : P buffer)
    (hstep : ∀ {buffer : Buffer} {call : Call}, P buffer → buffer.conflict? call.mode? = none →
      P (buffer.accept call)) (actions : List Action) : P (endState (replay actions buffer)) := by
  obtain ⟨before, -, hend⟩ := exists_endState_replay actions buffer
  rw [hend]
  refine attempt_induction h ?_ _
  intro call state next hstate hcall
  obtain ⟨hconflict, rfl⟩ := record_eq_ok_iff.mp hcall
  exact hstep hstate hconflict

theorem keeps_replay (actions : List Action) (buffer : Buffer) :
    buffer.log.Keeps (endState (replay actions buffer)).log := by
  refine replay_induction (P := fun next => buffer.log.Keeps next.log) (Log.Keeps.refl _) ?_ actions
  intro next call hnext _
  exact hnext.trans (next.log.grows_add call).keeps

theorem mode_replay (actions : List Action) {buffer : Buffer} {mode : BodyMode}
    (hmode : buffer.mode = some mode) :
    (endState (replay actions buffer)).mode = some mode :=
  replay_induction (P := fun next => next.mode = some mode) hmode
    (fun hnext hconflict => mode_accept_of_conflict? hconflict hnext) actions

end Buffer

end DeferredResponse
