import DeferredResponse.Proofs.Toml.Assignments

/-!
# Layout of documents

Documents of lines that are blank, hold a comment, or give a whole number to a bare key, with blanks
wherever they may stand and a comment at the end of any line. The reader skips all that is layout:
what it makes of such a document depends on the keys and their numbers, in the order of the lines.

1. What follows a number on its line ends the number (`Ending.endsBare_append`) and is skipped up to
   the end of the line (`Ending.lineEnd?_commentText_append`).
2. A line is read as what it binds, whether another line follows it (`statements?_line_append`) or
   not (`statements?_line`), so a document is read as its bindings (`parse?_document`).
3. The table of a document has its bindings as entries, unless a key is bound twice
   (`read?_document`).
-/

namespace DeferredResponse.Toml

/-! ## Lines -/

/-- What a line ends with: blanks, and perhaps a comment behind them. -/
structure Ending where
  blanks : List Char := []
  /-- The text of the comment, behind its number sign. -/
  comment : Option (List Char) := none
  all_blanks : blanks.all isBlank = true := by decide
  all_comment : (comment.all fun text => text.all isCommentChar) = true := by decide

/-- A whole number that is given to a bare key. -/
structure Binding where
  indent : List Char := []
  key : String
  /-- The blanks in front of the equals sign. -/
  before : List Char := [' ']
  /-- The blanks behind the equals sign. -/
  after : List Char := [' ']
  number : Int
  isBareKey_key : IsBareKey key := by decide
  all_indent : indent.all isBlank = true := by decide
  all_before : before.all isBlank = true := by decide
  all_after : after.all isBlank = true := by decide
  isWord_number : isWord number = true := by decide

/-- A line of a document, without the line feed that parts it from the next one. -/
inductive Line where
  /-- A line that binds no key: it is blank or a comment. -/
  | layout (ending : Ending)
  | binding (bound : Binding) (ending : Ending)

def Ending.commentText (ending : Ending) : List Char := ending.comment.elim [] ('#' :: ·)

def Ending.text (ending : Ending) : List Char := ending.blanks ++ ending.commentText

def Binding.text (bound : Binding) : List Char :=
  bound.indent ++ (bound.key.toList ++
    (bound.before ++ '=' :: (bound.after ++ (toString bound.number).toList)))

def Line.text : Line → List Char
  | layout ending => ending.text
  | binding bound ending => bound.text ++ ending.text

/-- The key that a line binds, with its number. -/
def Line.binding? : Line → Option (String × Int)
  | layout _ => none
  | binding bound _ => some (bound.key, bound.number)

/-- The characters of lines with line feeds between them. -/
def linesText (lines : List Line) : List Char := ['\n'].intercalate (lines.map Line.text)

/-- The document of some lines. -/
def document (lines : List Line) : String := String.ofList (linesText lines)

/-- The keys that lines bind, with their numbers, in the order of the lines. -/
def bindings (lines : List Line) : List (String × Int) := lines.filterMap Line.binding?

theorem linesText_cons_cons (line next : Line) (rest : List Line) :
    linesText (line :: next :: rest) = line.text ++ '\n' :: linesText (next :: rest) := by
  simp [linesText]

/-! ## Ends of lines -/

/-- At the end of a line nothing is left of a text, or a line feed and what follows it. -/
inductive AtLineEnd : List Char → List Char → Prop
  | last : AtLineEnd [] []
  | newline (next : List Char) : AtLineEnd ('\n' :: next) next

namespace Ending

variable (ending : Ending) {rest next : List Char}

/-- Behind its blanks an ending has a comment, or it is over. -/
theorem commentText_cases :
    (∃ text, (∀ c ∈ text, isCommentChar c = true) ∧ ending.commentText = '#' :: text) ∨
      ending.commentText = [] := by
  unfold commentText
  cases hcomment : ending.comment with
  | none => exact .inr rfl
  | some text =>
    have hall := ending.all_comment
    rw [hcomment] at hall
    exact .inl ⟨text, List.all_eq_true.mp hall, rfl⟩

variable (h : AtLineEnd rest next)

include h

theorem head_commentText_append :
    ∀ c ∈ (ending.commentText ++ rest).head?, c = '#' ∨ c = '\n' := by
  rcases ending.commentText_cases with ⟨text, -, heq⟩ | heq
  · rw [heq]
    rintro c ⟨⟩
    exact .inl rfl
  · rw [heq]
    cases h with
    | last => rintro c ⟨⟩
    | newline next =>
      rintro c ⟨⟩
      exact .inr rfl

theorem isBlank_head_commentText_append :
    ∀ c ∈ (ending.commentText ++ rest).head?, isBlank c = false := by
  intro c hc
  rcases ending.head_commentText_append h c hc with rfl | rfl
  · rfl
  · rfl

theorem skipBlanks_text_append :
    skipBlanks (ending.text ++ rest) = ending.commentText ++ rest := by
  rw [text, List.append_assoc]
  exact skipBlanks_append (List.all_eq_true.mp ending.all_blanks)
    (ending.isBlank_head_commentText_append h)

/-- A comment is skipped together with the end of its line. -/
theorem lineEnd?_commentText_append : lineEnd? (ending.commentText ++ rest) = some next := by
  have hblanks : skipBlanks ([] ++ (ending.commentText ++ rest)) = ending.commentText ++ rest :=
    skipBlanks_append (by simp) (ending.isBlank_head_commentText_append h)
  have hcomment : skipComment (ending.commentText ++ rest) = rest := by
    rcases ending.commentText_cases with ⟨text, htext, heq⟩ | heq
    · rw [heq]
      refine dropWhile_append_eq htext ?_
      cases h with
      | last => rintro c ⟨⟩
      | newline next =>
        rintro c ⟨⟩
        rfl
    · rw [heq]
      cases h with
      | last => rfl
      | newline next => rfl
  rw [List.nil_append] at hblanks
  rw [lineEnd?, hblanks, hcomment]
  cases h with
  | last => rfl
  | newline next => rfl

/-- A number ends where the ending of its line starts. What follows the blanks is no digit, so that
they do not join a date and a time. -/
theorem endsBare_text_append : endsBare (ending.text ++ rest) = true := by
  have hcomment : endsBare (ending.commentText ++ rest) = true ∧
      endsBare (' ' :: (ending.commentText ++ rest)) = true := by
    rcases ending.commentText_cases with ⟨text, -, heq⟩ | heq
    · rw [heq]
      exact ⟨rfl, rfl⟩
    · rw [heq]
      cases h with
      | last => exact ⟨rfl, rfl⟩
      | newline next => exact ⟨rfl, rfl⟩
  have hblank : ∀ c ∈ ending.blanks, c = ' ' ∨ c = '\t' := by
    intro c hc
    simpa [isBlank] using List.all_eq_true.mp ending.all_blanks c hc
  rw [text, List.append_assoc]
  match hblanks : ending.blanks with
  | [] => exact hcomment.1
  | [b] =>
    rcases hblank b (by simp [hblanks]) with rfl | rfl
    · exact hcomment.2
    · rfl
  | b :: c :: more =>
    rcases hblank b (by simp [hblanks]) with rfl | rfl
    · rcases hblank c (by simp [hblanks]) with rfl | rfl
      · rfl
      · rfl
    · rfl

end Ending

/-! ## Reading lines -/

theorem statements?_indent {indent : List Char} (h : ∀ c ∈ indent, isBlank c = true) (fuel : Nat)
    (s : List Char) : statements? (fuel + 1) (indent ++ s) = statements? (fuel + 1) s := by
  have hskip : skipBlanks (indent ++ s) = skipBlanks s := List.dropWhile_append_of_pos h
  rw [statements?, statements?, hskip]

section Line

variable {rest next : List Char} (h : AtLineEnd rest next) (ending : Ending) (fuel : Nat)

include h

theorem statements?_binding_append (bound : Binding) :
    statements? (fuel + 1) (bound.text ++ (ending.text ++ rest)) =
      (statements? fuel next).map (.assign [bound.key] (.integer bound.number) :: ·) := by
  have htext : ∀ c ∈ ((toString bound.number).toList ++ (ending.text ++ rest)).head?,
      isBlank c = false := by
    obtain ⟨c, more, hcons, hc⟩ := exists_cons_toString bound.number
    rw [hcons]
    rintro d ⟨⟩
    exact isBlank_eq_false_of_isBareChar hc
  have hvalue := value?_toString_append bound.isWord_number (ending.endsBare_text_append h) maxDepth
  have hend : lineEnd? (skipBlanks (ending.text ++ rest)) = some next := by
    rw [ending.skipBlanks_text_append h, ending.lineEnd?_commentText_append h]
  rw [Binding.text, List.append_assoc, statements?_indent (List.all_eq_true.mp bound.all_indent)]
  simp only [List.append_assoc, List.cons_append]
  exact statements?_append bound.isBareKey_key (List.all_eq_true.mp bound.all_before)
    (List.all_eq_true.mp bound.all_after) htext hvalue hend fuel

/-- A line without a binding is skipped, if it is not the blank end of the text. -/
theorem statements?_layout_append (hne : ending.commentText ++ rest ≠ []) :
    statements? (fuel + 1) (ending.text ++ rest) = statements? fuel next := by
  have hend := ending.lineEnd?_commentText_append h
  rw [statements?, ending.skipBlanks_text_append h]
  obtain ⟨c, more, hcons⟩ := List.exists_cons_of_ne_nil hne
  have hc : c = '#' ∨ c = '\n' := ending.head_commentText_append h c (by rw [hcons]; rfl)
  rw [hcons] at hend ⊢
  have hskip : (decide (c = '#') || decide (c = '\n') || decide (c = '\r')) = true := by
    rcases hc with rfl | rfl
    · rfl
    · rfl
  simp only [hskip, if_true, hend, bind, Option.bind]

end Line

/-- The table that gives whole numbers to keys. -/
def integerEntries (entries : List (String × Int)) : Entries :=
  entries.map fun (key, n) => (key, .integer n)

/-- The statement that a line is, if it binds a key. -/
def Line.statements (line : Line) : List Statement :=
  assignments (integerEntries line.binding?.toList)

/-- A line that others follow is read as what it binds. -/
theorem statements?_line_append (line : Line) (fuel : Nat) (next : List Char) :
    statements? (fuel + 1) (line.text ++ '\n' :: next) =
      (statements? fuel next).map (line.statements ++ ·) := by
  cases line with
  | layout ending =>
    have hne : ending.commentText ++ '\n' :: next ≠ [] := by simp
    refine (statements?_layout_append (.newline next) ending fuel hne).trans ?_
    cases statements? fuel next <;> rfl
  | binding bound ending =>
    rw [Line.text, List.append_assoc]
    exact statements?_binding_append (.newline next) ending fuel bound

/-- So is the last line, where blanks alone are the end of the text. -/
theorem statements?_line {line : Line} {fuel : Nat} (hfuel : line.text.length < fuel) :
    statements? fuel line.text = some line.statements := by
  obtain ⟨fuel, rfl⟩ := Nat.exists_eq_succ_of_ne_zero (Nat.ne_zero_of_lt hfuel)
  have hend {fuel : Nat} (hfuel : 0 < fuel) : statements? fuel [] = some [] := by
    obtain ⟨fuel, rfl⟩ := Nat.exists_eq_succ_of_ne_zero (Nat.ne_zero_of_lt hfuel)
    rfl
  cases line with
  | layout ending =>
    rw [Line.text] at hfuel ⊢
    rw [← List.append_nil ending.text]
    by_cases hne : ending.commentText ++ [] = []
    · rw [statements?, ending.skipBlanks_text_append .last, hne]
      rfl
    · rw [statements?_layout_append .last ending fuel hne]
      refine hend ?_
      rw [List.append_nil] at hne
      have hpos := List.length_pos_of_ne_nil hne
      rw [Ending.text, List.length_append] at hfuel
      omega
  | binding bound ending =>
    rw [Line.text] at hfuel ⊢
    rw [← List.append_nil ending.text, statements?_binding_append .last ending fuel bound, hend]
    · rfl
    · rw [List.length_append, Binding.text] at hfuel
      simp only [List.length_append, List.length_cons] at hfuel
      omega

/-! ## Reading documents -/

theorem statements?_linesText (lines : List Line) {fuel : Nat}
    (hfuel : (linesText lines).length < fuel) :
    statements? fuel (linesText lines) = some (assignments (integerEntries (bindings lines))) := by
  induction lines generalizing fuel with
  | nil =>
    obtain ⟨fuel, rfl⟩ := Nat.exists_eq_succ_of_ne_zero (Nat.ne_zero_of_lt hfuel)
    rfl
  | cons line rest ih =>
    have hsplit : assignments (integerEntries (bindings (line :: rest))) =
        line.statements ++ assignments (integerEntries (bindings rest)) := by
      rw [bindings, List.filterMap_cons, Line.statements]
      cases line.binding? <;> rfl
    cases rest with
    | nil =>
      have htext : linesText [line] = line.text := by simp [linesText]
      rw [htext] at hfuel ⊢
      rw [statements?_line hfuel, hsplit, bindings, List.filterMap_nil]
      exact congrArg some (List.append_nil _).symm
    | cons next rest =>
      obtain ⟨fuel, rfl⟩ := Nat.exists_eq_succ_of_ne_zero (Nat.ne_zero_of_lt hfuel)
      rw [linesText_cons_cons] at hfuel ⊢
      rw [statements?_line_append, ih, hsplit]
      · rfl
      · rw [List.length_append, List.length_cons] at hfuel
        omega

/-- Behind its blanks a line starts with a key or a comment, or it is over. -/
theorem head_skipBlanks_line_append {rest next : List Char} (h : AtLineEnd rest next) (line : Line) :
    ∀ c ∈ (skipBlanks (line.text ++ rest)).head?, c = '#' ∨ c = '\n' ∨ isKeyChar c = true := by
  cases line with
  | layout ending =>
    intro c hc
    rw [Line.text, ending.skipBlanks_text_append h] at hc
    exact (ending.head_commentText_append h c hc).imp_right .inl
  | binding bound ending =>
    obtain ⟨first, more, hcons, hfirst⟩ := bound.isBareKey_key.exists_cons
    have hkey : ∀ c ∈ (bound.key.toList ++ (bound.before ++ '=' :: (bound.after ++
        (toString bound.number).toList)) ++ ending.text ++ rest).head?, isKeyChar c = true := by
      rw [hcons]
      rintro c ⟨⟩
      exact hfirst
    intro c hc
    simp only [Line.text, Binding.text, List.append_assoc] at hc hkey
    rw [skipBlanks_append (List.all_eq_true.mp bound.all_indent) fun c hc =>
      isBlank_eq_false_of_isKeyChar (hkey c hc)] at hc
    exact .inr (.inr (hkey c hc))

theorem exists_linesText_cons (line : Line) (rest : List Line) :
    ∃ tail next, AtLineEnd tail next ∧ linesText (line :: rest) = line.text ++ tail := by
  cases rest with
  | nil => exact ⟨[], [], .last, by simp [linesText]⟩
  | cons next rest => exact ⟨_, _, .newline _, linesText_cons_cons line next rest⟩

/-- No line starts with the mark of a byte order. -/
theorem withoutMark_linesText (lines : List Line) :
    withoutMark (linesText lines) = linesText lines := by
  cases lines with
  | nil => rfl
  | cons line rest =>
    obtain ⟨tail, next, hend, htext⟩ := exists_linesText_cons line rest
    have hhead := head_skipBlanks_line_append hend line
    rw [htext]
    unfold withoutMark
    split
    · next more hmark =>
      rw [hmark] at hhead
      rcases hhead '\ufeff' rfl with h | h | h
      · cases h
      · cases h
      · cases h
    · rfl

theorem parse?_document (lines : List Line) :
    parse? (document lines) = some (assignments (integerEntries (bindings lines))) := by
  unfold parse? document
  rw [String.toList_ofList, withoutMark_linesText]
  exact statements?_linesText lines (Nat.lt_succ_self _)

/-- A document is read as the table of its bindings, whatever its layout, unless a key is bound
twice. -/
theorem read?_document (lines : List Line) :
    read? (document lines) =
      if ((bindings lines).map Prod.fst).Nodup then some (integerEntries (bindings lines))
      else none := by
  have hkeys : (integerEntries (bindings lines)).map Prod.fst = (bindings lines).map Prod.fst := by
    rw [integerEntries, List.map_map]
    rfl
  unfold read?
  rw [parse?_document, ← hkeys]
  exact assemble?_assignments (integerEntries (bindings lines))

/-! ## One number a line -/

/-- The line that gives a whole number to a key. -/
def integerLine : String × Int → List Char
  | (key, n) => key.toList ++ ([' '] ++ '=' :: ([' '] ++ ((toString n).toList ++ ['\n'])))

/-- The lines that give whole numbers to keys. -/
def integerLines (entries : List (String × Int)) : List Char := entries.flatMap integerLine

/-- Lines that each end with a line feed are a document whose last line is blank. -/
theorem exists_linesText_eq {entries : List (String × Int)}
    (h : ∀ entry ∈ entries, IsBareKey entry.1 ∧ isWord entry.2 = true) :
    ∃ line rest, linesText (line :: rest) = integerLines entries ∧
      bindings (line :: rest) = entries := by
  induction entries with
  | nil => exact ⟨.layout {}, [], rfl, rfl⟩
  | cons entry entries ih =>
    obtain ⟨line, rest, htext, hbindings⟩ := ih fun entry hentry =>
      h entry (List.mem_cons_of_mem _ hentry)
    obtain ⟨hkey, hn⟩ := h entry List.mem_cons_self
    let bound : Binding :=
      { key := entry.1, number := entry.2, isBareKey_key := hkey, isWord_number := hn }
    refine ⟨.binding bound {}, line :: rest, ?_, congrArg (entry :: ·) hbindings⟩
    rw [linesText_cons_cons, htext, integerLines, integerLines, List.flatMap_cons]
    simp [Line.text, Binding.text, Ending.text, Ending.commentText, integerLine, bound]

/-- Lines that give whole numbers to different keys are read as they are written. -/
theorem read?_integerLines {entries : List (String × Int)}
    (h : ∀ entry ∈ entries, IsBareKey entry.1 ∧ isWord entry.2 = true)
    (hkeys : (entries.map Prod.fst).Nodup) :
    read? (String.ofList (integerLines entries)) = some (integerEntries entries) := by
  obtain ⟨line, rest, htext, hbindings⟩ := exists_linesText_eq h
  have hread := read?_document (line :: rest)
  rw [hbindings, if_pos hkeys] at hread
  rw [← htext]
  exact hread

end DeferredResponse.Toml
