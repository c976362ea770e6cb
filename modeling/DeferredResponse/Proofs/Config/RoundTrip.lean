import DeferredResponse.File.Tree
import DeferredResponse.Proofs.Config.Layout

/-!
# Configurations read back

A configuration that is written as a document is what the document is read as, whether its text is
at hand or a file with its bytes.

1. The text that is written consists of lines that give whole numbers to two bare keys
   (`line_append`), so the general reader finds the two numbers (`read?_written`).
2. The two entries state the configuration, whatever the defaults are (`ofEntries_numbers`).
3. A file with the bytes of a text is read as the text (`ofFile_toUTF8`).

The only limit is that of the numbers in a document. They have a sign, so the larger half of the
capacities cannot be written.
-/

namespace DeferredResponse.Config

/-! ## Capacities -/

/-- The largest capacity that can be written. -/
def largest : Nat := 9223372036854775807

theorem isWritable_iff {capacity : UInt64} :
    isWritable capacity = true ↔ capacity.toNat ≤ largest := by
  have hbound : Toml.wordBound = largest + 1 := rfl
  rw [isWritable, hbound, decide_eq_true_eq, Nat.lt_succ_iff]

example : isWritable 9223372036854775807 = true ∧ isWritable 9223372036854775808 = false := by
  decide

/-- A capacity that can be written is a number that a document can hold. -/
theorem isWord_of_isWritable {capacity : UInt64} (h : isWritable capacity = true) :
    Toml.isWord capacity.toNat = true := by
  have hlt : capacity.toNat < Toml.wordBound := decide_eq_true_eq.mp h
  rw [Toml.isWord, Bool.and_eq_true, decide_eq_true_eq, decide_eq_true_eq]
  omega

/-! ## Documents -/

theorem isBareKey_textKey : Toml.IsBareKey textKey := by decide

theorem isBareKey_logKey : Toml.IsBareKey logKey := by decide

theorem nodup_keys : [textKey, logKey].Nodup := by simp [textKey, logKey]

/-- The numbers that a configuration is written as. -/
def numbers (config : Config) : List (String × Int) :=
  [(textKey, config.textCapacity.toNat), (logKey, config.logCapacity.toNat)]

theorem line_append (key : String) (capacity : UInt64) (rest : List Char) :
    line key capacity ++ String.ofList rest =
      String.ofList (Toml.integerLine (key, capacity.toNat) ++ rest) := by
  have hnumber : toString (capacity.toNat : Int) = toString capacity.toNat := rfl
  apply String.toList_inj.mp
  rw [line, Toml.integerLine, hnumber]
  simp only [String.toList_append, String.toList_ofList, List.append_assoc, List.cons_append]
  rfl

/-- What is written is one line for each number. -/
theorem written_eq (config : Config) :
    line textKey config.textCapacity ++ line logKey config.logCapacity =
      String.ofList (Toml.integerLines (numbers config)) := by
  have hlast := line_append logKey config.logCapacity []
  rw [show String.ofList [] = "" from rfl, String.append_empty] at hlast
  rw [hlast, line_append]
  rfl

/-- A configuration has a text if both capacities can be written. -/
theorem toText?_eq_some_iff {config : Config} {text : String} :
    toText? config = some text ↔
      (isWritable config.textCapacity = true ∧ isWritable config.logCapacity = true) ∧
        text = String.ofList (Toml.integerLines (numbers config)) := by
  rw [toText?, written_eq, ← Bool.and_eq_true]
  split
  · next h => simp only [h, Option.some.injEq, true_and, eq_comm]
  · next h => simp only [h, reduceCtorEq, false_and]

/-- The general reader finds the two numbers in what is written. -/
theorem read?_written {config : Config} {text : String} (h : toText? config = some text) :
    Toml.read? text = some (Toml.integerEntries (numbers config)) := by
  obtain ⟨⟨htext, hlog⟩, rfl⟩ := toText?_eq_some_iff.mp h
  refine Toml.read?_integerLines ?_ nodup_keys
  rintro entry hentry
  rcases List.mem_cons.mp hentry with rfl | hentry
  · exact ⟨isBareKey_textKey, isWord_of_isWritable htext⟩
  · rcases List.mem_singleton.mp hentry with rfl
    exact ⟨isBareKey_logKey, isWord_of_isWritable hlog⟩

/-! ## Configurations -/

/-- The two numbers replace both defaults. -/
theorem ofEntries_numbers (config : Config) :
    ofEntries (Toml.integerEntries (numbers config)) = .ok config := by
  have htext (start : Config) := withEntry_textKey (Int.natCast_nonneg config.textCapacity.toNat) start
  have hlog (start : Config) := withEntry_logKey (Int.natCast_nonneg config.logCapacity.toNat) start
  rw [ofEntries, numbers, foldlM_withEntry_cons (htext _), foldlM_withEntry_cons (hlog _)]
  simp only [Int.toNat_natCast, UInt64.ofNat_toNat]
  rfl

@[simp]
theorem ofFile_toUTF8 (text : String) : ofFile (.ok text.toUTF8) = ofText text := by
  have hdecode : String.fromUTF8? text.toUTF8 = some text := dif_pos text.isValidUTF8
  rw [ofFile, hdecode]

theorem ofText_written {config : Config} {text : String} (h : toText? config = some text) :
    ofText text = .ok config := by
  rw [ofText, read?_written h]
  show (ofEntries _).mapError _ = _
  rw [ofEntries_numbers]
  rfl

/-- A configuration can be written exactly if both capacities fit into the numbers of a document,
and what is written is read as the same configuration, as a text and from a file. -/
theorem written_reads_back (config : Config) :
    ((∃ text, toText? config = some text) ↔
      config.textCapacity.toNat ≤ largest ∧ config.logCapacity.toNat ≤ largest) ∧
    ∀ text, toText? config = some text →
      ofText text = .ok config ∧
      ∀ (tree : File.Tree) (base : File.Place) (path : String),
        tree.read base path = .ok text.toUTF8 → ofFile (tree.read base path) = .ok config := by
  refine ⟨?_, fun text h => ⟨ofText_written h, fun tree base path hread => ?_⟩⟩
  · rw [← isWritable_iff, ← isWritable_iff]
    constructor
    · rintro ⟨text, h⟩
      exact (toText?_eq_some_iff.mp h).1
    · intro h
      exact ⟨_, toText?_eq_some_iff.mpr ⟨h, rfl⟩⟩
  · rw [hread, ofFile_toUTF8]
    exact ofText_written h

end DeferredResponse.Config
