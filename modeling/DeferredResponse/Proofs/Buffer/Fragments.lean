import DeferredResponse.Proofs.Buffer.Growth
import DeferredResponse.Proofs.Equality

/-!
# Writing in fragments

A body can be handed to a buffer in one piece or in many, and by different ways: a text by calls and
as formatted text (`TextWrite`), bytes by calls, as borrowed slices and through the byte stream
(`ByteWrite`). It makes no difference.

1. Steps that write in one mode are all accepted, or else the first of them is refused and nothing
   has happened (`Step.mapM_run_eq`).
2. Accepted texts amount to one write of their concatenation (`TextWrite.foldl_apply`).
3. Accepted bytes are chunks of one body, the one that stands last in the log or a new one
   (`Log.openBody`, `ByteWrite.foldl_apply`). Their number is all that tells them from one write of
   the concatenation, and `==` does not look at it (`ByteBody.foldl_push_beq`).

`fragmentation_is_invisible` puts this together.
-/

namespace DeferredResponse

open Operation

/-! ## The body that stands last -/

namespace Log

/-- The byte body that stands last and that further bytes extend, or an empty one. -/
def openBody (log : Log) : ByteBody :=
  match log.last? with
  | some (.writeBytes body) => body
  | _ => .empty

/-- The log with another byte body in the place of the one that stands last, or else behind all
entries. -/
def withOpenBody (log : Log) (body : ByteBody) : Log :=
  match log.last? with
  | some (.writeBytes _) => log.replaceLast (.writeBytes body)
  | _ => log.push (.writeBytes body)

theorem appendBytes_eq (log : Log) (chunk : Bytes) :
    log.appendBytes chunk = log.withOpenBody (log.openBody.push chunk) := by
  unfold appendBytes withOpenBody openBody
  cases log.last? with
  | none => rfl
  | some last => cases last <;> rfl

/-- The entries before the body that stands last. -/
theorem exists_entries_withOpenBody (log : Log) :
    ∃ init, ∀ body, (log.withOpenBody body).entries = init ++ [.writeBytes body] := by
  unfold withOpenBody
  split
  · exact ⟨log.entries.dropLast, fun _ => rfl⟩
  · exact ⟨log.entries, fun _ => rfl⟩

@[simp] theorem last?_withOpenBody (log : Log) (body : ByteBody) :
    (log.withOpenBody body).last? = some (.writeBytes body) := by
  obtain ⟨init, hinit⟩ := log.exists_entries_withOpenBody
  rw [last?, hinit]
  exact List.getLast?_concat

@[simp] theorem openBody_withOpenBody (log : Log) (body : ByteBody) :
    (log.withOpenBody body).openBody = body := by
  rw [openBody, last?_withOpenBody]

@[simp] theorem withOpenBody_withOpenBody (log : Log) (body other : ByteBody) :
    (log.withOpenBody body).withOpenBody other = log.withOpenBody other := by
  obtain ⟨init, hinit⟩ := log.exists_entries_withOpenBody
  have hreplace : (log.withOpenBody body).withOpenBody other =
      (log.withOpenBody body).replaceLast (.writeBytes other) := by
    rw [withOpenBody, last?_withOpenBody]
  rw [hreplace, replaceLast, hinit, List.dropLast_concat, ← hinit]

/-- Logs that differ only in the body that stands last are equal if these bodies are. -/
theorem withOpenBody_beq (log : Log) {body other : ByteBody} (h : (body == other) = true) :
    (log.withOpenBody body == log.withOpenBody other) = true := by
  obtain ⟨init, hinit⟩ := log.exists_entries_withOpenBody
  show ((log.withOpenBody body).entries == (log.withOpenBody other).entries) = true
  rw [hinit, hinit]
  clear hinit
  induction init with
  | nil => exact Bool.and_eq_true_iff.mpr ⟨h, rfl⟩
  | cons entry rest ih => exact Bool.and_eq_true_iff.mpr ⟨beq_self_eq_true entry, ih⟩

end Log

namespace Buffer

/-! ## Steps in one mode -/

namespace Step

/-- After an accepted step its mode meets no conflict. -/
theorem conflict?_apply {step : Step} {buffer : Buffer}
    (h : buffer.conflict? step.mode? = none) :
    (step.apply buffer).conflict? step.mode? = none := by
  by_cases hreset : step = .reset
  · subst hreset
    exact conflict?_none _
  · rcases apply_eq hreset buffer with hsame | ⟨call, hmode, hcall⟩
    · rw [hsame]
      exact h
    · rw [hcall, ← hmode]
      exact conflict?_accept buffer call

/-- Steps in one mode are all accepted, or the first one is refused. -/
theorem mapM_run_eq {requested : Option BodyMode} (first : Step) (rest : List Step)
    (h : ∀ step ∈ first :: rest, step.mode? = requested) (buffer : Buffer) :
    (first :: rest).mapM run buffer =
      match buffer.conflict? requested with
      | some conflict => .error (first.fault conflict) buffer
      | none => .ok ((first :: rest).map answer)
          ((first :: rest).foldl (fun buffer step => step.apply buffer) buffer) := by
  have hfirst : first.mode? = requested := h first List.mem_cons_self
  have hrun := first.run_eq buffer
  rw [hfirst] at hrun
  rw [List.mapM_cons]
  cases hconflict : buffer.conflict? requested with
  | some conflict =>
    rw [hconflict] at hrun
    simp only [bind, EStateM.bind, hrun]
  | none =>
    rw [hconflict] at hrun
    simp only [bind, EStateM.bind, hrun]
    cases rest with
    | nil => rfl
    | cons next rest =>
      -- What was accepted first fixes the mode in which all others write.
      have hnext : (first.apply buffer).conflict? requested = none := by
        rw [← hfirst] at hconflict ⊢
        exact conflict?_apply hconflict
      rw [mapM_run_eq next rest (fun step hstep => h step (List.mem_cons_of_mem _ hstep)), hnext]
      rfl

end Step

/-- A write meets a conflict exactly when the body is in the other mode. -/
theorem conflict?_cases (buffer : Buffer) (refused established : BodyMode)
    (h : established ≠ refused) :
    (buffer.mode ≠ some established ∧ buffer.conflict? (some refused) = none) ∨
      (buffer.mode = some established ∧
        buffer.conflict? (some refused) = some { established, refused }) := by
  unfold conflict?
  cases buffer.mode with
  | none => exact .inl ⟨nofun, rfl⟩
  | some mode => cases mode <;> cases established <;> cases refused <;> simp at h ⊢

theorem writeText_eq_ok {buffer : Buffer} (h : buffer.conflict? (some .text) = none)
    (text : String) : writeText text buffer = .ok () (buffer.accept (.writeText text)) := by
  show record (.writeText text) buffer = _
  exact record_eq_ok_iff.mpr ⟨h, rfl⟩

theorem writeBytes_eq_ok {buffer : Buffer} (h : buffer.conflict? (some .bytes) = none)
    (bytes : Bytes) : writeBytes bytes buffer = .ok () (buffer.accept (.writeBytes bytes)) := by
  show record (.writeBytes bytes) buffer = _
  exact record_eq_ok_iff.mpr ⟨h, rfl⟩

/-! ## Ways to write -/

/-- A text on its way into a buffer. -/
inductive TextWrite where
  /-- By a call of its own. -/
  | whole (text : String)
  /-- As formatted text, which arrives in pieces. -/
  | pieces (first : String) (rest : List String)

/-- Bytes on their way into a buffer. -/
inductive ByteWrite where
  /-- By a call that hands them over. -/
  | owned (bytes : Bytes)
  /-- As a slice that is copied. -/
  | borrowed (bytes : Bytes)
  /-- Through the byte stream. -/
  | streamed (bytes : Bytes)

namespace TextWrite

def step : TextWrite → Step
  | whole text => .call (.writeText text)
  | pieces first rest => .format (first :: rest)

/-- All that is written. -/
def text : TextWrite → String
  | whole text => text
  | pieces first rest => first ++ String.join rest

theorem mode?_step (write : TextWrite) : write.step.mode? = some .text := by
  cases write <;> rfl

theorem answer_comp_step : Step.answer ∘ step = fun _ => none := by
  funext write
  cases write <;> rfl

theorem apply_step (write : TextWrite) (buffer : Buffer) :
    write.step.apply buffer = buffer.accept (.writeText write.text) := by
  cases write with
  | whole text => rfl
  | pieces first rest => exact Step.foldl_accept_writeText first rest buffer

/-- Texts that are accepted one after the other are accepted as a whole. -/
theorem foldl_apply (first : TextWrite) (rest : List TextWrite) (buffer : Buffer) :
    ((first :: rest).map step).foldl (fun buffer step => step.apply buffer) buffer =
      buffer.accept (.writeText (String.join ((first :: rest).map text))) := by
  have hjoin := Step.foldl_accept_writeText first.text (rest.map text) buffer
  rw [← List.map_cons, ← String.join_cons, ← List.map_cons, List.foldl_map, List.foldl_map] at hjoin
  rw [← hjoin, List.foldl_map]
  exact congrArg (fun change => (first :: rest).foldl change buffer)
    (funext fun buffer => funext fun write => write.apply_step buffer)

end TextWrite

namespace ByteWrite

def step : ByteWrite → Step
  | owned bytes => .call (.writeBytes bytes)
  | borrowed bytes => .slice bytes
  | streamed bytes => .stream bytes

/-- All that is written. -/
def bytes : ByteWrite → Bytes
  | owned bytes | borrowed bytes | streamed bytes => bytes

/-- What is answered: the byte stream tells how many bytes it took. -/
def taken : ByteWrite → Option Nat
  | streamed bytes => some bytes.length
  | _ => none

theorem mode?_step (write : ByteWrite) : write.step.mode? = some .bytes := by
  cases write <;> rfl

theorem answer_comp_step : Step.answer ∘ step = taken := by
  funext write
  cases write <;> rfl

theorem apply_step (write : ByteWrite) (buffer : Buffer) :
    write.step.apply buffer =
      { log := buffer.log.withOpenBody (buffer.log.openBody.push write.bytes)
        mode := some .bytes } := by
  have haccept : write.step.apply buffer =
      { log := buffer.log.appendBytes write.bytes, mode := some .bytes } := by
    cases write <;> rfl
  rw [haccept, Log.appendBytes_eq]

/-- Bytes that are accepted one after the other are chunks of one body. -/
theorem foldl_apply (first : ByteWrite) (rest : List ByteWrite) (buffer : Buffer) :
    ((first :: rest).map step).foldl (fun buffer step => step.apply buffer) buffer =
      { log := buffer.log.withOpenBody
          (((first :: rest).map bytes).foldl ByteBody.push buffer.log.openBody)
        mode := some .bytes } := by
  induction rest generalizing first buffer with
  | nil => exact first.apply_step buffer
  | cons next rest ih =>
    rw [List.map_cons, List.foldl_cons, ih, apply_step]
    simp only [Log.openBody_withOpenBody, Log.withOpenBody_withOpenBody]
    rfl

end ByteWrite

/-! ## Fragments -/

/-- Each step is refused for a conflict, and so is their run, with the first of them; nothing is
recorded. -/
def AllRefused (conflict : ModeConflict) (first : Step) (rest : List Step) (buffer : Buffer) :
    Prop :=
  (∀ step ∈ first :: rest, step.run buffer = .error (step.fault conflict) buffer) ∧
    (first :: rest).mapM Step.run buffer = .error (first.fault conflict) buffer

theorem allRefused {requested : BodyMode} {conflict : ModeConflict} {first : Step}
    {rest : List Step} (h : ∀ step ∈ first :: rest, step.mode? = some requested) {buffer : Buffer}
    (hconflict : buffer.conflict? (some requested) = some conflict) :
    AllRefused conflict first rest buffer := by
  constructor
  · intro step hstep
    rw [Step.run_eq, h step hstep, hconflict]
  · rw [Step.mapM_run_eq first rest h, hconflict]

theorem TextWrite.mode?_of_mem (writes : List TextWrite) {taken : Step}
    (h : taken ∈ writes.map step) : taken.mode? = some .text := by
  obtain ⟨write, -, rfl⟩ := List.mem_map.mp h
  exact write.mode?_step

theorem ByteWrite.mode?_of_mem (writes : List ByteWrite) {taken : Step}
    (h : taken ∈ writes.map step) : taken.mode? = some .bytes := by
  obtain ⟨write, -, rfl⟩ := List.mem_map.mp h
  exact write.mode?_step

/-- Texts that meet no conflict leave what one write of all of them leaves. -/
theorem TextWrite.mapM_run_eq_ok (first : TextWrite) (rest : List TextWrite) {buffer : Buffer}
    (h : buffer.conflict? (some .text) = none) :
    ((first :: rest).map step).mapM Step.run buffer =
      .ok ((first :: rest).map fun _ => none)
        (buffer.accept (.writeText (String.join ((first :: rest).map text)))) := by
  have hrun := Step.mapM_run_eq first.step (rest.map step)
    (fun _ => mode?_of_mem (first :: rest)) buffer
  rw [h, ← List.map_cons, foldl_apply, List.map_map, answer_comp_step] at hrun
  exact hrun

/-- Bytes that meet no conflict become chunks of one body. -/
theorem ByteWrite.mapM_run_eq_ok (first : ByteWrite) (rest : List ByteWrite) {buffer : Buffer}
    (h : buffer.conflict? (some .bytes) = none) :
    ((first :: rest).map step).mapM Step.run buffer =
      .ok ((first :: rest).map taken)
        { log := buffer.log.withOpenBody
            (((first :: rest).map bytes).foldl ByteBody.push buffer.log.openBody)
          mode := some .bytes } := by
  have hrun := Step.mapM_run_eq first.step (rest.map step)
    (fun _ => mode?_of_mem (first :: rest)) buffer
  rw [h, ← List.map_cons, foldl_apply, List.map_map, answer_comp_step] at hrun
  exact hrun

/-- **Fragmentation is invisible.** Text that reaches a buffer in fragments, by calls or as
formatted text, leaves what one write of the concatenation leaves, unless the body is in bytes: then
the very first fragment is refused, as the others would be, and nothing is recorded, not even half
of a formatted text. Bytes that reach it in fragments, by calls, as slices or through the byte
stream, leave a log and a mode equal to those of one write of the concatenation, unless the body is
text. The stream takes all bytes that it is offered. The entry that stands last then has as many
chunks as the one that was extended, or none, and one more for every fragment that is not empty.
Sending no bytes through the stream does nothing at all, while a slice or an offer of none sets the
mode. -/
theorem fragmentation_is_invisible (buffer : Buffer) :
    (∀ (first : TextWrite) (rest : List TextWrite),
      (buffer.mode ≠ some .bytes ∧
        ∃ next, ((first :: rest).map TextWrite.step).mapM Step.run buffer =
            .ok ((first :: rest).map fun _ => none) next ∧
          writeText (String.join ((first :: rest).map TextWrite.text)) buffer = .ok () next) ∨
      (buffer.mode = some .bytes ∧
        AllRefused { established := .bytes, refused := .text } first.step
          (rest.map TextWrite.step) buffer)) ∧
    (∀ (first : ByteWrite) (rest : List ByteWrite),
      (buffer.mode ≠ some .text ∧
        ∃ next whole body, ((first :: rest).map ByteWrite.step).mapM Step.run buffer =
            .ok ((first :: rest).map ByteWrite.taken) next ∧
          writeBytes ((first :: rest).map ByteWrite.bytes).flatten buffer = .ok () whole ∧
          (next.log == whole.log) = true ∧ next.mode = whole.mode ∧ next.mode = some .bytes ∧
          next.log.last? = some (.writeBytes body) ∧
          body.chunkCount = buffer.log.openBody.chunkCount +
            ((first :: rest).map ByteWrite.bytes).countP (· ≠ [])) ∨
      (buffer.mode = some .text ∧
        AllRefused { established := .text, refused := .bytes } first.step
          (rest.map ByteWrite.step) buffer)) ∧
    (Step.streamAll []).run buffer = .ok none buffer ∧
    (buffer.mode = some .text ∨
      ∃ next, (Step.slice []).run buffer = .ok none next ∧
        (Step.stream []).run buffer = .ok (some 0) next ∧ next.mode = some .bytes) := by
  refine ⟨fun first rest => ?_, fun first rest => ?_, rfl, ?_⟩
  · rcases buffer.conflict?_cases .text .bytes nofun with ⟨hfree, hnone⟩ | ⟨hbytes, hsome⟩
    · exact .inl ⟨hfree, _, first.mapM_run_eq_ok rest hnone, writeText_eq_ok hnone _⟩
    · exact .inr ⟨hbytes, allRefused (fun _ => TextWrite.mode?_of_mem (first :: rest)) hsome⟩
  · rcases buffer.conflict?_cases .bytes .text nofun with ⟨hfree, hnone⟩ | ⟨htext, hsome⟩
    · refine .inl ⟨hfree, _, _, _, first.mapM_run_eq_ok rest hnone, writeBytes_eq_ok hnone _, ?_,
        rfl, rfl, Log.last?_withOpenBody _ _, ByteBody.chunkCount_foldl_push _ _⟩
      show (buffer.log.withOpenBody _ == buffer.log.appendBytes _) = true
      rw [Log.appendBytes_eq]
      exact Log.withOpenBody_beq _ (ByteBody.foldl_push_beq _ _)
    · exact .inr ⟨htext, allRefused (fun _ => ByteWrite.mode?_of_mem (first :: rest)) hsome⟩
  · rcases buffer.conflict?_cases .bytes .text nofun with ⟨-, hnone⟩ | ⟨htext, -⟩
    · refine .inr ⟨buffer.accept (.writeBytes []), ?_, ?_, rfl⟩
      · rw [Step.run_eq, show (Step.slice []).mode? = some .bytes from rfl, hnone]
        rfl
      · rw [Step.run_eq, show (Step.stream []).mode? = some .bytes from rfl, hnone]
        rfl
    · exact .inl htext

end Buffer

end DeferredResponse
