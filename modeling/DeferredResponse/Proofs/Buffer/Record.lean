import DeferredResponse.Buffer

/-!
# Recording one call

What a single call does to a buffer. A log is read through `Log.calls`, the calls that its entries
stand for. A call either joins the last entry or becomes an entry of its own (`addCall`), unless it
is a body write and the body is in the other mode (`Buffer.conflict?`); `record_eq` says that this
is all that recording does.
-/

namespace DeferredResponse

namespace Operation

variable {β : Type}

/-- The mode in which an operation writes to the body. -/
def mode? : Operation β → Option BodyMode
  | writeText _ => some .text
  | writeBytes _ => some .bytes
  | _ => none

theorem isBodyWrite_eq_isSome (op : Operation β) : op.isBodyWrite = op.mode?.isSome := by
  cases op <;> rfl

theorem exists_mode? {op : Operation β} (h : op.isBodyWrite = true) :
    ∃ mode, op.mode? = some mode := by
  rw [isBodyWrite_eq_isSome] at h
  exact Option.isSome_iff_exists.mp h

theorem isBodyWrite_of_mode? {op : Operation β} {mode : BodyMode} (h : op.mode? = some mode) :
    op.isBodyWrite = true := by
  rw [isBodyWrite_eq_isSome, h]
  rfl

/-- The one write that two adjacent writes of the same mode amount to. -/
def join? : Call → Call → Option Call
  | writeText s, writeText t => some (writeText (s ++ t))
  | writeBytes a, writeBytes b => some (writeBytes (a ++ b))
  | _, _ => none

theorem join?_eq_none_of_mode? {call : Call} (h : call.mode? = none) (last : Call) :
    join? last call = none := by
  cases call with
  | writeText text => cases h
  | writeBytes bytes => cases h
  | _ => cases last <;> rfl

theorem join?_eq_none_of_last {last : Call} (h : last.mode? = none) (call : Call) :
    join? last call = none := by
  cases last with
  | writeText text => cases h
  | writeBytes bytes => cases h
  | _ => rfl

/-- Two writes of the same mode can be joined. -/
theorem exists_join? {last call : Call} {mode : BodyMode} (hlast : last.mode? = some mode)
    (hcall : call.mode? = some mode) : ∃ joined, join? last call = some joined := by
  cases last with
  | writeText text =>
    cases hlast
    cases call with
    | writeText more => exact ⟨_, rfl⟩
    | _ => cases hcall
  | writeBytes bytes =>
    cases hlast
    cases call with
    | writeBytes more => exact ⟨_, rfl⟩
    | _ => cases hcall
  | _ => cases hlast

theorem exists_of_join?_eq_some {last call joined : Call} (h : join? last call = some joined) :
    (∃ s t, last = writeText s ∧ call = writeText t ∧ joined = writeText (s ++ t)) ∨
      ∃ a b, last = writeBytes a ∧ call = writeBytes b ∧ joined = writeBytes (a ++ b) := by
  unfold join? at h
  split at h
  · cases h
    exact .inl ⟨_, _, rfl, rfl, rfl⟩
  · cases h
    exact .inr ⟨_, _, rfl, rfl, rfl⟩
  · cases h

/-- Adds a call to those that are recorded: it extends the last one if they can be joined. -/
def addCall (calls : List Call) (call : Call) : List Call :=
  match calls.getLast?.bind (join? · call) with
  | some joined => calls.dropLast ++ [joined]
  | none => calls ++ [call]

theorem addCall_of_mode? {call : Call} (h : call.mode? = none) (calls : List Call) :
    addCall calls call = calls ++ [call] := by
  have hnone : calls.getLast?.bind (join? · call) = none := by
    cases calls.getLast? with
    | none => rfl
    | some last => exact join?_eq_none_of_mode? h last
  rw [addCall, hnone]

theorem addCall_cases (calls : List Call) (call : Call) :
    addCall calls call = calls ++ [call] ∨
      ∃ init last joined, calls = init ++ [last] ∧ join? last call = some joined ∧
        addCall calls call = init ++ [joined] := by
  unfold addCall
  cases hbind : calls.getLast?.bind (join? · call) with
  | none => exact .inl rfl
  | some joined =>
    obtain ⟨last, hlast, hjoin⟩ := Option.bind_eq_some_iff.mp hbind
    obtain ⟨init, rfl⟩ := List.getLast?_eq_some_iff.mp hlast
    refine .inr ⟨init, last, joined, rfl, hjoin, ?_⟩
    show (init ++ [last]).dropLast ++ [joined] = _
    rw [List.dropLast_concat]

end Operation

open Operation

/-! ## Logs as lists of calls -/

namespace Log

/-- The calls that the entries stand for. -/
def calls (log : Log) : List Call := log.entries.map toCall

@[simp] theorem calls_push (log : Log) (action : Action) :
    (log.push action).calls = log.calls ++ [action.toCall] := by
  simp [calls, push]

@[simp] theorem calls_replaceLast (log : Log) (action : Action) :
    (log.replaceLast action).calls = log.calls.dropLast ++ [action.toCall] := by
  simp [calls, replaceLast, List.map_dropLast]

@[simp] theorem size_eq_length_calls (log : Log) : log.size = log.calls.length := by
  simp [calls, size]

theorem getLast?_calls (log : Log) : log.calls.getLast? = log.last?.map toCall := by
  rw [calls, List.getLast?_map, last?]

theorem calls_appendText (log : Log) (text : String) :
    (log.appendText text).calls = addCall log.calls (.writeText text) := by
  unfold appendText addCall
  rw [getLast?_calls]
  cases log.last? with
  | none => simp [toCall, map]
  | some last => cases last <;> simp [toCall, map, join?]

theorem calls_appendBytes (log : Log) (chunk : Bytes) :
    (log.appendBytes chunk).calls = addCall log.calls (.writeBytes chunk) := by
  unfold appendBytes addCall
  rw [getLast?_calls]
  cases log.last? with
  | none => simp [toCall, map]
  | some last => cases last <;> simp [toCall, map, join?]

/-- Adds a call, as part of the last entry where that is possible. -/
def add (log : Log) : Call → Log
  | .writeText text => log.appendText text
  | .writeBytes bytes => log.appendBytes bytes
  | call => log.push call.toAction

theorem calls_add (log : Log) (call : Call) : (log.add call).calls = addCall log.calls call := by
  cases call with
  | writeText text => exact calls_appendText log text
  | writeBytes bytes => exact calls_appendBytes log bytes
  | _ =>
    rw [addCall_of_mode? rfl]
    exact calls_push log _

end Log

/-! ## Buffers -/

namespace Buffer

/-- The conflict that a write in a mode meets when the body is in the other one. -/
def conflict? (buffer : Buffer) (requested : Option BodyMode) : Option ModeConflict :=
  match buffer.mode, requested with
  | some established, some refused =>
    if established = refused then none else some { established, refused }
  | _, _ => none

/-- The buffer with one more call; a body write fixes the mode that it is in. -/
def accept (buffer : Buffer) (call : Call) : Buffer :=
  { log := buffer.log.add call, mode := call.mode?.or buffer.mode }

@[simp] theorem mode_accept (buffer : Buffer) (call : Call) :
    (buffer.accept call).mode = call.mode?.or buffer.mode := rfl

@[simp] theorem conflict?_none (buffer : Buffer) : buffer.conflict? none = none := by
  unfold conflict?
  cases buffer.mode <;> rfl

theorem conflict?_eq_some_iff {buffer : Buffer} {requested : Option BodyMode}
    {conflict : ModeConflict} :
    buffer.conflict? requested = some conflict ↔
      buffer.mode = some conflict.established ∧ requested = some conflict.refused ∧
        conflict.established ≠ conflict.refused := by
  obtain ⟨established, refused⟩ := conflict
  obtain ⟨log, mode⟩ := buffer
  unfold conflict?
  cases mode with
  | none => simp
  | some mode =>
    cases requested with
    | none => simp
    | some requested =>
      by_cases h : mode = requested
      · simp [h]
        grind
      · simp [h]
        grind

/-- Without a conflict a write leaves the body in the mode that it asks for. -/
theorem mode_eq_of_conflict? {buffer : Buffer} {requested mode : BodyMode}
    (h : buffer.conflict? (some requested) = none) (hmode : buffer.mode = some mode) :
    mode = requested := by
  unfold conflict? at h
  rw [hmode] at h
  by_cases heq : mode = requested
  · exact heq
  · simp [heq] at h

/-- A call is refused for its conflict, or else accepted. -/
theorem record_eq (call : Call) (buffer : Buffer) :
    record call buffer =
      match buffer.conflict? call.mode? with
      | some conflict => .error conflict buffer
      | none => .ok () (buffer.accept call) := by
  obtain ⟨log, mode⟩ := buffer
  cases call with
  | writeText text =>
    cases mode with
    | none => rfl
    | some established => cases established <;> rfl
  | writeBytes bytes =>
    cases mode with
    | none => rfl
    | some established => cases established <;> rfl
  | _ => cases mode <;> rfl

end Buffer

end DeferredResponse
