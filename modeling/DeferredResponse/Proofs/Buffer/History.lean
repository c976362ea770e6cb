import DeferredResponse.Buffer.Step
import DeferredResponse.Proofs.Buffer.Coalesced
import Mathlib.Data.List.Induction

/-!
# Histories of a buffer

A `History` is a buffer together with the calls that it has accepted since the last reset, kept
apart from its log. Every way into a buffer is a step, and every step is settled by one question:
does it write to the body in the mode that the body is not in (`Step.run_eq`)?

The main statement is that of `log_eq_coalesced`: after any steps on a new buffer the log is the
coalesced list of the accepted calls, and a step is refused exactly when it writes in another mode
than the first accepted body write, whereupon the buffer is as it was. It follows from the invariant
`History.Faithful`, which every accepted call keeps.
-/

namespace DeferredResponse.Buffer

open Operation

/-! ## Steps -/

namespace Step

/-- The calls that a step makes on the buffer, unless it is refused. -/
def calls : Step → List Call
  | .call issued => [issued]
  | .slice bytes | .stream bytes => [.writeBytes bytes]
  | .format pieces => pieces.map .writeText
  | .streamAll bytes => if bytes.isEmpty then [] else [.writeBytes bytes]
  | .streamFlush => [.flush]
  | .reset => []

/-- The mode in which a step writes to the body, if it does. -/
def mode? (step : Step) : Option BodyMode := step.calls.findSome? Operation.mode?

/-- The form in which a step reports a conflict. -/
def fault (step : Step) (conflict : ModeConflict) : Fault :=
  match step with
  | .format _ => .format
  | .stream _ | .streamAll _ | .streamFlush => .stream conflict
  | .call _ | .slice _ | .reset => .conflict conflict

/-- What a step answers when it is not refused: the byte stream tells how many bytes it took. -/
def answer : Step → Option Nat
  | .stream bytes => some bytes.length
  | _ => none

/-- The buffer that a step leads to when it is not refused. -/
def apply (step : Step) (buffer : Buffer) : Buffer :=
  match step with
  | .reset => buffer.reset
  | _ => step.calls.foldl accept buffer

theorem refuseAs_eq {α : Type} (cause : ModeConflict → Fault) (write : EStateM ModeConflict Buffer α)
    (buffer : Buffer) :
    refuseAs cause write buffer =
      match write buffer with
      | .ok a next => .ok a next
      | .error conflict next => .error (cause conflict) next := by
  unfold refuseAs EStateM.adaptExcept
  cases write buffer <;> rfl

/-- All calls of a step write in the same mode. -/
theorem mode?_of_mem_calls {step : Step} {call : Call} (h : call ∈ step.calls) :
    call.mode? = step.mode? := by
  cases step with
  | call issued =>
    rw [List.mem_singleton.mp h]
    exact List.findSome?_singleton.symm
  | slice bytes | stream bytes =>
    rw [List.mem_singleton.mp h]
    rfl
  | format pieces =>
    obtain ⟨piece, hpiece, rfl⟩ := List.mem_map.mp h
    cases pieces with
    | nil => cases hpiece
    | cons first rest => rfl
  | streamAll bytes =>
    cases bytes with
    | nil => cases h
    | cons b rest =>
      rw [List.mem_singleton.mp h]
      rfl
  | streamFlush =>
    rw [List.mem_singleton.mp h]
    rfl
  | reset => cases h

end Step

/-- A write meets no conflict after another one of its mode. -/
theorem conflict?_accept (buffer : Buffer) (call : Call) :
    (buffer.accept call).conflict? call.mode? = none := by
  cases hmode : call.mode? with
  | none => exact conflict?_none _
  | some requested => simp [conflict?, hmode]

/-- Pieces of formatted text meet a conflict with the first one, or not at all. -/
theorem writePieces_eq (pieces : List String) (buffer : Buffer) :
    writePieces pieces buffer =
      match buffer.conflict? (Step.format pieces).mode? with
      | some conflict => .error conflict buffer
      | none => .ok () ((Step.format pieces).calls.foldl accept buffer) := by
  induction pieces generalizing buffer with
  | nil =>
    rw [show (Step.format []).mode? = none from rfl, conflict?_none]
    rfl
  | cons piece rest ih =>
    have hfirst : writeText piece buffer = _ := record_eq (.writeText piece) buffer
    show (writeText piece >>= fun _ => writePieces rest) buffer = _
    rw [show (Step.format (piece :: rest)).mode? = (Operation.writeText piece : Call).mode? from rfl]
    cases hconflict : buffer.conflict? (Operation.writeText piece : Call).mode? with
    | some conflict =>
      rw [hconflict] at hfirst
      simp only [bind, EStateM.bind, hfirst]
    | none =>
      rw [hconflict] at hfirst
      have hrest : (buffer.accept (.writeText piece)).conflict? (Step.format rest).mode? = none := by
        cases rest with
        | nil => exact conflict?_none _
        | cons next rest => exact conflict?_accept buffer (.writeText piece)
      simp only [bind, EStateM.bind, hfirst, ih, hrest]
      rfl

/-- A step is refused for its conflict, and leaves the buffer as it was, or else makes its calls. -/
theorem Step.run_eq (step : Step) (buffer : Buffer) :
    step.run buffer =
      match buffer.conflict? step.mode? with
      | some conflict => .error (step.fault conflict) buffer
      | none => .ok step.answer (step.apply buffer) := by
  have hwrite (bytes : Bytes) : writeBytes bytes buffer = _ := record_eq (.writeBytes bytes) buffer
  cases step with
  | call issued =>
    have hmode : (Step.call issued).mode? = issued.mode? :=
      (Step.mode?_of_mem_calls List.mem_cons_self).symm
    simp only [run, bind, EStateM.bind, refuseAs_eq, record_eq, hmode]
    cases buffer.conflict? issued.mode? <;> rfl
  | slice bytes =>
    simp only [run, bind, EStateM.bind, refuseAs_eq, hwrite]
    rw [show (Step.slice bytes).mode? = (Operation.writeBytes bytes : Call).mode? from rfl]
    cases buffer.conflict? (Operation.writeBytes bytes : Call).mode? <;> rfl
  | format pieces =>
    simp only [run, bind, EStateM.bind, refuseAs_eq, writePieces_eq]
    cases buffer.conflict? (Step.format pieces).mode? <;> rfl
  | stream bytes =>
    simp only [run, streamWrite, bind, EStateM.bind, refuseAs_eq, hwrite]
    rw [show (Step.stream bytes).mode? = (Operation.writeBytes bytes : Call).mode? from rfl]
    cases buffer.conflict? (Operation.writeBytes bytes : Call).mode? <;> rfl
  | streamAll bytes =>
    cases bytes with
    | nil =>
      rw [show (Step.streamAll []).mode? = none from rfl, conflict?_none]
      rfl
    | cons b rest =>
      rw [show (Step.streamAll (b :: rest)).mode? =
        (Operation.writeBytes (b :: rest) : Call).mode? from rfl]
      simp only [run, streamWriteAll, streamWrite, List.isEmpty_cons, Bool.false_eq_true, if_false,
        bind, EStateM.bind, refuseAs_eq, discard, Functor.discard, Functor.mapConst, EStateM.map,
        Function.comp, hwrite]
      cases buffer.conflict? (Operation.writeBytes (b :: rest) : Call).mode? <;> rfl
  | streamFlush =>
    rw [show Step.streamFlush.mode? = none from rfl, conflict?_none]
    rfl
  | reset =>
    rw [show Step.reset.mode? = none from rfl, conflict?_none]
    rfl

/-! ## Histories -/

/-- A buffer and the calls that it has accepted since the last reset. -/
structure History where
  buffer : Buffer
  accepted : List Call

namespace History

/-- A buffer to which nothing has been done. -/
def start (config : Config) : History := { buffer := .new config, accepted := [] }

/-- The history with one more step, whether it is refused or not. -/
def add (history : History) (step : Step) : History :=
  match step.run history.buffer with
  | .ok _ next =>
    { buffer := next
      accepted := if step = .reset then [] else history.accepted ++ step.calls }
  | .error _ next => { history with buffer := next }

/-- A step that meets a conflict changes nothing; a reset starts anew; any other step makes its
calls. -/
theorem add_eq (history : History) (step : Step) :
    history.add step =
      match history.buffer.conflict? step.mode? with
      | some _ => history
      | none =>
        if step = .reset then start {}
        else
          { buffer := step.calls.foldl accept history.buffer
            accepted := history.accepted ++ step.calls } := by
  unfold add
  rw [Step.run_eq]
  cases history.buffer.conflict? step.mode? with
  | some conflict => rfl
  | none => cases step <;> rfl

/-- The history of steps on a new buffer. -/
def ofSteps (config : Config) (steps : List Step) : History := steps.foldl add (start config)

/-- The mode of the first body write among the accepted calls. -/
def established (history : History) : Option BodyMode := history.accepted.findSome? Operation.mode?

/-- The buffer holds what was accepted: the log is the coalesced list of the calls, the mode is that
of the first body write, and no other body write is in another mode. -/
structure Faithful (history : History) : Prop where
  calls_eq : history.buffer.log.calls = coalesced history.accepted
  mode_eq : history.buffer.mode = history.established
  alike : ∀ call ∈ history.accepted, ∀ mode, call.mode? = some mode →
    history.buffer.mode = some mode

theorem Faithful.start (config : Config) : (start config).Faithful where
  calls_eq := rfl
  mode_eq := rfl
  alike := by
    intro call hcall
    cases hcall

/-- One accepted call keeps the buffer faithful. -/
theorem Faithful.accept {buffer : Buffer} {accepted : List Call} {call : Call}
    (h : Faithful { buffer, accepted }) (hconflict : buffer.conflict? call.mode? = none) :
    Faithful { buffer := buffer.accept call, accepted := accepted ++ [call] } where
  calls_eq := by
    have halike : ∀ earlier ∈ accepted, ∀ mode, earlier.mode? = some mode → ∀ requested,
        call.mode? = some requested → mode = requested := by
      intro earlier hearlier mode hmode requested hrequested
      rw [hrequested] at hconflict
      exact mode_eq_of_conflict? hconflict (h.alike earlier hearlier mode hmode)
    rw [coalesced_concat accepted call halike, ← h.calls_eq]
    exact buffer.log.calls_add call
  mode_eq := by
    unfold established
    rw [List.findSome?_append, List.findSome?_singleton, mode_accept]
    have hmode : buffer.mode = accepted.findSome? Operation.mode? := h.mode_eq
    rw [← hmode]
    cases hcall : call.mode? with
    | none => simp
    | some requested =>
      cases hbuffer : buffer.mode with
      | none => rfl
      | some mode =>
        rw [hcall] at hconflict
        rw [mode_eq_of_conflict? hconflict hbuffer]
  alike := by
    intro earlier hearlier mode hmode
    rw [mode_accept]
    rcases List.mem_append.mp hearlier with hearlier | hearlier
    · have hbuffer := h.alike earlier hearlier mode hmode
      cases hcall : call.mode? with
      | none => simpa using hbuffer
      | some requested =>
        rw [hcall] at hconflict
        rw [mode_eq_of_conflict? hconflict hbuffer]
        rfl
    · rw [List.mem_singleton.mp hearlier] at hmode
      rw [hmode]
      rfl

/-- So do several calls of one mode. -/
theorem Faithful.acceptAll {requested : Option BodyMode} (calls : List Call)
    (hcalls : ∀ call ∈ calls, call.mode? = requested) :
    ∀ {buffer : Buffer} {accepted : List Call}, Faithful { buffer, accepted } →
      buffer.conflict? requested = none →
        Faithful { buffer := calls.foldl Buffer.accept buffer, accepted := accepted ++ calls } := by
  induction calls with
  | nil =>
    intro buffer accepted h _
    rw [List.append_nil]
    exact h
  | cons call rest ih =>
    intro buffer accepted h hconflict
    have hcall := hcalls call List.mem_cons_self
    rw [List.append_cons]
    refine ih (fun c hc => hcalls c (List.mem_cons_of_mem _ hc)) (h.accept (hcall ▸ hconflict)) ?_
    rw [← hcall]
    exact conflict?_accept buffer call

/-- Every step keeps the buffer faithful, refused steps and resets included. -/
theorem Faithful.add {history : History} (h : history.Faithful) (step : Step) :
    (history.add step).Faithful := by
  rw [add_eq]
  cases hconflict : history.buffer.conflict? step.mode? with
  | some conflict => exact h
  | none =>
    simp only
    split
    · exact Faithful.start {}
    · exact Faithful.acceptAll step.calls (fun _ => Step.mode?_of_mem_calls) h hconflict

theorem Faithful.ofSteps (config : Config) (steps : List Step) : (ofSteps config steps).Faithful := by
  unfold History.ofSteps
  induction steps using List.reverseRecOn with
  | nil => exact Faithful.start config
  | append_singleton steps step ih =>
    rw [List.foldl_append]
    exact ih.add step

/-- **What a buffer holds.** After any steps on a new buffer the log is the coalesced list of the
calls accepted since the last reset. A further step is refused exactly when it writes to the body in
another mode than the first body write among those calls; the fault names the two modes, and the
buffer stays as it was. -/
theorem log_eq_coalesced (config : Config) (steps : List Step) :
    (ofSteps config steps).buffer.log.calls = coalesced (ofSteps config steps).accepted ∧
      ∀ (step : Step) (fault : Fault) (next : Buffer),
        step.run (ofSteps config steps).buffer = .error fault next ↔
          ∃ conflict : ModeConflict,
            (ofSteps config steps).established = some conflict.established ∧
              step.mode? = some conflict.refused ∧ conflict.established ≠ conflict.refused ∧
                fault = step.fault conflict ∧ next = (ofSteps config steps).buffer := by
  have h := Faithful.ofSteps config steps
  refine ⟨h.calls_eq, ?_⟩
  intro step fault next
  rw [Step.run_eq, ← h.mode_eq]
  constructor
  · intro hrun
    cases hconflict : (History.ofSteps config steps).buffer.conflict? step.mode? with
    | none =>
      rw [hconflict] at hrun
      cases hrun
    | some conflict =>
      rw [hconflict] at hrun
      cases hrun
      obtain ⟨hmode, hstep, hne⟩ := conflict?_eq_some_iff.mp hconflict
      exact ⟨conflict, hmode, hstep, hne, rfl, rfl⟩
  · rintro ⟨conflict, hmode, hstep, hne, rfl, rfl⟩
    rw [conflict?_eq_some_iff.mpr ⟨hmode, hstep, hne⟩]

end History

end DeferredResponse.Buffer
