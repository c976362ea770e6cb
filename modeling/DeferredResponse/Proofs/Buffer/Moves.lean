import DeferredResponse.Proofs.Buffer.Coherent
import Mathlib.Algebra.GroupWithZero.Nat

/-!
# Buffers side by side

`Move` is what can be done with several buffers that are kept in a list: one is created, takes a
step, has actions replayed into it, or is cloned, and a step or a replay may be refused on the way.

1. Where a buffer comes from (`Move.origin`) and what becomes of it (`Move.fate`) with one move.
2. So every buffer that moves lead to is coherent (`coherent_of_mem`), and a buffer that is not
   reset keeps what was recorded in it and the mode of its body (`exists_keeps`).
3. `buffers_stay_coherent` says both, and how a buffer can change with one more step.
-/

namespace DeferredResponse.Buffer

open Operation

/-- What is done with buffers that are kept side by side. -/
inductive Move where
  | create (config : Config)
  /-- Takes a step on the buffer at a place. -/
  | step (place : Nat) (step : Step)
  /-- Replays actions into the buffer at a place. -/
  | replay (place : Nat) (actions : List Action)
  /-- Adds a copy of the buffer at a place. -/
  | clone (place : Nat)

/-- The buffers after a move; a refused step or replay leaves what it has done so far. -/
def Move.run (buffers : List Buffer) : Move → List Buffer
  | create config => buffers ++ [.new config]
  | step place taken => buffers.modify place fun buffer => endState (taken.run buffer)
  | replay place actions =>
    buffers.modify place fun buffer => endState (DeferredResponse.replay actions buffer)
  | clone place => buffers ++ buffers[place]?.toList

/-- The buffers after moves. -/
def afterMoves (buffers : List Buffer) (moves : List Move) : List Buffer :=
  moves.foldl Move.run buffers

theorem afterMoves_append (buffers : List Buffer) (earlier later : List Move) :
    afterMoves buffers (earlier ++ later) = afterMoves (afterMoves buffers earlier) later :=
  List.foldl_append

/-! ## One move -/

section Modify

variable {buffers : List Buffer} {buffer : Buffer} {change : Buffer → Buffer} {place other : Nat}

theorem getElem?_modify_eq_some_iff :
    (buffers.modify place change)[other]? = some buffer ↔
      ∃ old, buffers[other]? = some old ∧ buffer = if place = other then change old else old := by
  rw [List.getElem?_modify, Option.map_eq_map, Option.map_eq_some_iff]
  simp only [eq_comm (b := buffer)]

theorem mem_modify (h : buffer ∈ buffers.modify place change) :
    buffer ∈ buffers ∨ ∃ old ∈ buffers, buffer = change old := by
  obtain ⟨other, hother⟩ := List.mem_iff_getElem?.mp h
  obtain ⟨old, hold, rfl⟩ := getElem?_modify_eq_some_iff.mp hother
  split
  · exact .inr ⟨old, List.mem_of_getElem? hold, rfl⟩
  · exact .inl (List.mem_of_getElem? hold)

theorem exists_getElem?_modify (h : buffers[other]? = some buffer) (place : Nat)
    (change : Buffer → Buffer) :
    ∃ next, (buffers.modify place change)[other]? = some next ∧
      (next = buffer ∨ place = other ∧ next = change buffer) := by
  refine ⟨_, getElem?_modify_eq_some_iff.mpr ⟨buffer, h, rfl⟩, ?_⟩
  split
  · next heq => exact .inr ⟨heq, rfl⟩
  · exact .inl rfl

end Modify

namespace Move

/-- A buffer was there before a move, or it is new, or it took a step or a replay. -/
theorem origin {buffers : List Buffer} {move : Move} {buffer : Buffer}
    (h : buffer ∈ move.run buffers) :
    buffer ∈ buffers ∨ (∃ config, buffer = .new config) ∨
      ∃ old ∈ buffers, (∃ taken : Step, buffer = endState (taken.run old)) ∨
        ∃ actions, buffer = endState (DeferredResponse.replay actions old) := by
  cases move with
  | create config =>
    rcases List.mem_append.mp h with h | h
    · exact .inl h
    · exact .inr (.inl ⟨config, List.mem_singleton.mp h⟩)
  | step place taken =>
    rcases mem_modify h with h | ⟨old, hold, rfl⟩
    · exact .inl h
    · exact .inr (.inr ⟨old, hold, .inl ⟨taken, rfl⟩⟩)
  | replay place actions =>
    rcases mem_modify h with h | ⟨old, hold, rfl⟩
    · exact .inl h
    · exact .inr (.inr ⟨old, hold, .inr ⟨actions, rfl⟩⟩)
  | clone place =>
    rcases List.mem_append.mp h with h | h
    · exact .inl h
    · exact .inl (List.mem_of_getElem? (Option.mem_toList.mp h))

/-- A buffer stays in its place, as it was or after a step or a replay. -/
theorem fate {buffers : List Buffer} {place : Nat} {buffer : Buffer}
    (h : buffers[place]? = some buffer) (move : Move) :
    ∃ next, (move.run buffers)[place]? = some next ∧
      (next = buffer ∨
        (∃ taken, move = .step place taken ∧ next = endState (taken.run buffer)) ∨
          ∃ actions, next = endState (DeferredResponse.replay actions buffer)) := by
  cases move with
  | create | clone =>
    have hbound : place < buffers.length := (List.getElem?_eq_some_iff.mp h).1
    exact ⟨buffer, (List.getElem?_append_left hbound).trans h, .inl rfl⟩
  | step other taken =>
    obtain ⟨next, hnext, hsame | ⟨rfl, hchange⟩⟩ :=
      exists_getElem?_modify h other fun buffer => endState (taken.run buffer)
    · exact ⟨next, hnext, .inl hsame⟩
    · exact ⟨next, hnext, .inr (.inl ⟨taken, rfl, hchange⟩)⟩
  | replay other actions =>
    obtain ⟨next, hnext, hsame | ⟨-, hchange⟩⟩ :=
      exists_getElem?_modify h other fun buffer => endState (DeferredResponse.replay actions buffer)
    · exact ⟨next, hnext, .inl hsame⟩
    · exact ⟨next, hnext, .inr (.inr ⟨actions, hchange⟩)⟩

theorem coherent_of_mem_run {buffers : List Buffer} (h : ∀ buffer ∈ buffers, buffer.Coherent)
    {move : Move} {buffer : Buffer} (hbuffer : buffer ∈ move.run buffers) : buffer.Coherent := by
  rcases origin hbuffer with hold | ⟨config, rfl⟩ | ⟨old, hold, ⟨taken, rfl⟩ | ⟨actions, rfl⟩⟩
  · exact h buffer hold
  · exact Coherent.new config
  · exact (h old hold).step taken
  · exact (h old hold).replay actions

end Move

/-! ## Moves -/

theorem coherent_of_mem {buffers : List Buffer} (h : ∀ buffer ∈ buffers, buffer.Coherent)
    (moves : List Move) : ∀ buffer ∈ afterMoves buffers moves, buffer.Coherent := by
  induction moves generalizing buffers with
  | nil => exact h
  | cons move rest ih => exact ih fun _ => Move.coherent_of_mem_run h

/-- A buffer that is not reset keeps what was recorded in it, and the mode of its body. -/
theorem exists_keeps {buffers : List Buffer} {moves : List Move} {place : Nat} {buffer : Buffer}
    (h : buffers[place]? = some buffer) (hreset : .step place .reset ∉ moves) :
    ∃ next, (afterMoves buffers moves)[place]? = some next ∧ buffer.log.Keeps next.log ∧
      ∀ mode, buffer.mode = some mode → next.mode = some mode := by
  induction moves generalizing buffers buffer with
  | nil => exact ⟨buffer, h, Log.Keeps.refl _, fun _ => id⟩
  | cons move rest ih =>
    rw [List.mem_cons, not_or] at hreset
    obtain ⟨middle, hmiddle, hfate⟩ := move.fate h
    obtain ⟨next, hnext, hkeeps, hmode⟩ := ih hmiddle hreset.2
    have hmove : buffer.log.Keeps middle.log ∧
        ∀ mode, buffer.mode = some mode → middle.mode = some mode := by
      rcases hfate with rfl | ⟨taken, rfl, rfl⟩ | ⟨actions, rfl⟩
      · exact ⟨Log.Keeps.refl _, fun _ => id⟩
      · have htaken : taken ≠ .reset := by
          rintro rfl
          exact hreset.1 rfl
        exact ⟨(Step.grows htaken buffer).keeps, fun _ => Step.mode_eq htaken⟩
      · exact ⟨keeps_replay actions buffer, fun _ => mode_replay actions⟩
    exact ⟨next, hnext, hmove.1.trans hkeeps, fun mode h => hmode mode (hmove.2 mode h)⟩

/-- **What holds of every buffer.** Whatever was done with buffers that started out new: the mode of
a buffer is missing exactly when nothing was written to its body, and is the mode of all body
entries otherwise; body entries are not neighbours; the size of a byte body is that of its chunks,
none of which is empty. A step that is not a reset adds an entry, extends the last one or changes
nothing, and leaves a mode that is set. Whatever is done later, a buffer that is not reset keeps all
entries in their places, and its mode. -/
theorem buffers_stay_coherent (moves : List Move) (place : Nat) (buffer : Buffer)
    (h : (afterMoves [] moves)[place]? = some buffer) :
    (buffer.mode = none ↔ ∀ entry ∈ buffer.log.entries, entry.isBodyWrite = false) ∧
      (∀ mode, buffer.mode = some mode ↔
        (∃ entry ∈ buffer.log.entries, entry.isBodyWrite = true) ∧
          ∀ entry ∈ buffer.log.entries, entry.isBodyWrite = true → entry.kind = mode.operation) ∧
      (buffer.log.entries.IsChain fun a b => ¬ (a.isBodyWrite = true ∧ b.isBodyWrite = true)) ∧
      (∀ body, .writeBytes body ∈ buffer.log.entries →
        body.size = (body.chunks.map List.length).sum ∧ ∀ chunk ∈ body.chunks, chunk ≠ []) ∧
      (∀ taken : Step, taken ≠ .reset →
        buffer.log.Grows (endState (taken.run buffer)).log ∧
          ∀ mode, buffer.mode = some mode → (endState (taken.run buffer)).mode = some mode) ∧
      ∀ later : List Move, .step place .reset ∉ later →
        ∃ next, (afterMoves [] (moves ++ later))[place]? = some next ∧
          buffer.log.Keeps next.log ∧ ∀ mode, buffer.mode = some mode → next.mode = some mode := by
  have hcoherent : buffer.Coherent :=
    coherent_of_mem (fun _ hnil => absurd hnil List.not_mem_nil) moves buffer
      (List.mem_of_getElem? h)
  refine ⟨hcoherent.mode_eq_none_iff, hcoherent.mode_eq_some_iff, ?_, ?_, ?_, ?_⟩
  · exact (List.isChain_map kind).mp hcoherent.apart
  · intro body hbody
    obtain ⟨hsize, hchunks⟩ := hcoherent.wellFormed body hbody
    exact ⟨hsize.trans List.length_flatten, hchunks⟩
  · intro taken htaken
    exact ⟨Step.grows htaken buffer, fun _ => Step.mode_eq htaken⟩
  · intro later hreset
    rw [afterMoves_append]
    exact exists_keeps h hreset

/-- Bytes are refused by a text body, and by its clone, into which more text is replayed before the
original is reset. -/
theorem clone_of_text_stays_coherent :
    ∃ buffer, (afterMoves [] [.create {}, .step 0 (.call (.writeText "a")), .step 0 (.slice [1]),
          .clone 0])[1]? = some buffer ∧
      (.step 1 .reset ∉ [Move.replay 1 [.writeText "b", .flush, .writeBytes .empty],
          .step 0 .reset]) ∧
      ∃ next, (afterMoves [] ([.create {}, .step 0 (.call (.writeText "a")), .step 0 (.slice [1]),
          .clone 0] ++ [.replay 1 [.writeText "b", .flush, .writeBytes .empty],
          .step 0 .reset]))[1]? = some next ∧
        buffer.log.Keeps next.log ∧ ∀ mode, buffer.mode = some mode → next.mode = some mode := by
  have hreset : Move.step 1 .reset ∉ [Move.replay 1 [.writeText "b", .flush, .writeBytes .empty],
      .step 0 .reset] := by simp
  exact ⟨_, rfl, hreset, (buffers_stay_coherent _ 1 _ rfl).2.2.2.2.2 _ hreset⟩

end DeferredResponse.Buffer
