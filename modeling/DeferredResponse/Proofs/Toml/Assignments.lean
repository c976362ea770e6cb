import DeferredResponse.Proofs.Toml.Numeral
import DeferredResponse.Toml.Document

/-!
# Documents of assignments

What the reader of documents makes of lines that each give a value to a bare key.

1. A bare key ends at the first character that cannot be part of it (`keyPart?_append`), and what
   follows its equals sign is left to the reader of values (`pair?_append`).
2. Such a line is one statement (`statements?_append`).
3. Statements that give values to keys are the entries of the table, unless a key gets two values
   (`assemble?_assignments`).
-/

namespace DeferredResponse.Toml

/-! ## Keys -/

/-- A key that needs no quotes. -/
def IsBareKey (key : String) : Prop := key ≠ "" ∧ ∀ c ∈ key.toList, isKeyChar c = true

instance : DecidablePred IsBareKey := fun key =>
  decidable_of_iff (key ≠ "" ∧ key.toList.all isKeyChar = true)
    (and_congr_right fun _ => List.all_eq_true)

theorem IsBareKey.exists_cons {key : String} (h : IsBareKey key) :
    ∃ c more, key.toList = c :: more ∧ isKeyChar c = true := by
  cases hkey : key.toList with
  | nil => exact absurd (String.toList_eq_nil_iff.mp hkey) h.1
  | cons c more => exact ⟨c, more, rfl, h.2 c (hkey ▸ List.mem_cons_self)⟩

theorem isBlank_eq_false_of_isKeyChar {c : Char} (h : isKeyChar c = true) : isBlank c = false := by
  unfold isBlank
  rw [decide_eq_false (ne_of_class h rfl), decide_eq_false (ne_of_class h rfl)]
  rfl

theorem isKeyChar_eq_false_of_isBlank {c : Char} (h : isBlank c = true) : isKeyChar c = false := by
  cases hkey : isKeyChar c with
  | false => rfl
  | true =>
    rw [isBlank_eq_false_of_isKeyChar hkey] at h
    cases h

theorem skipBlanks_append {blanks rest : List Char} (hblanks : ∀ c ∈ blanks, isBlank c = true)
    (hrest : ∀ c ∈ rest.head?, isBlank c = false) : skipBlanks (blanks ++ rest) = rest :=
  dropWhile_append_eq hblanks hrest

theorem keyPart?_append {key : String} (hkey : IsBareKey key) {rest : List Char}
    (hrest : ∀ c ∈ rest.head?, isKeyChar c = false) :
    keyPart? (key.toList ++ rest) = some (key, rest) := by
  obtain ⟨c, more, hcons, hc⟩ := hkey.exists_cons
  have htake := takeWhile_append_eq hkey.2 hrest
  have hdrop := dropWhile_append_eq hkey.2 hrest
  unfold keyPart?
  split
  · next other h =>
    rw [hcons, List.cons_append, List.cons.injEq] at h
    exact absurd h.1 (ne_of_class hc rfl)
  · next other h =>
    rw [hcons, List.cons_append, List.cons.injEq] at h
    exact absurd h.1 (ne_of_class hc rfl)
  · rw [htake, hdrop, hcons]
    simp only [List.isEmpty_cons, Bool.false_eq_true, if_false]
    rw [← hcons, String.ofList_toList]

section Line

variable {key : String} (hkey : IsBareKey key) {before after : List Char}
  (hbefore : ∀ c ∈ before, isBlank c = true) (hafter : ∀ c ∈ after, isBlank c = true)

include hkey in
theorem skipBlanks_key (rest : List Char) :
    skipBlanks (key.toList ++ rest) = key.toList ++ rest := by
  obtain ⟨c, more, hcons, hc⟩ := hkey.exists_cons
  rw [hcons, List.cons_append]
  exact List.dropWhile_cons_of_neg (Bool.eq_false_iff.mp (isBlank_eq_false_of_isKeyChar hc))

include hkey hbefore in
/-- A bare key before an equals sign is read as it is. -/
theorem key?_append (parts : Nat) (rest : List Char) :
    key? (parts + 1) (key.toList ++ (before ++ '=' :: rest)) = some ([key], '=' :: rest) := by
  have hhead : ∀ c ∈ (before ++ '=' :: rest).head?, isKeyChar c = false := by
    cases before with
    | nil =>
      rintro c ⟨⟩
      rfl
    | cons b more =>
      rintro c ⟨⟩
      exact isKeyChar_eq_false_of_isBlank (hbefore b List.mem_cons_self)
  have hequals : skipBlanks (before ++ '=' :: rest) = '=' :: rest := by
    refine skipBlanks_append hbefore ?_
    rintro c ⟨⟩
    rfl
  rw [key?, skipBlanks_key hkey, keyPart?_append hkey hhead]
  simp only [bind, Option.bind, hequals]
  rfl

include hkey hbefore hafter in
/-- What follows the equals sign is left to the reader of values. -/
theorem pair?_append {nested? : List Char → Option (Value × List Char)} {value : Value}
    {text rest : List Char} (htext : ∀ c ∈ text.head?, isBlank c = false)
    (hvalue : nested? text = some (value, rest)) :
    pair? nested? (key.toList ++ (before ++ '=' :: (after ++ text))) =
      some (([key], value), skipBlanks rest) := by
  rw [pair?, maxDepth, key?_append hkey hbefore]
  simp only [bind, Option.bind, expect?, if_true, skipBlanks_append hafter htext, hvalue]
  rfl

include hkey hbefore hafter in
/-- A line that gives a value to a bare key is one statement. -/
theorem statements?_append {value : Value} {text rest next : List Char}
    (htext : ∀ c ∈ text.head?, isBlank c = false)
    (hvalue : value? maxDepth text = some (value, rest))
    (hend : lineEnd? (skipBlanks rest) = some next) (fuel : Nat) :
    statements? (fuel + 1) (key.toList ++ (before ++ '=' :: (after ++ text))) =
      (statements? fuel next).map (.assign [key] value :: ·) := by
  have hpair := pair?_append hkey hbefore hafter htext hvalue
  rw [statements?, skipBlanks_key hkey]
  obtain ⟨c, more, hcons, hc⟩ := hkey.exists_cons
  rw [hcons, List.cons_append] at hpair ⊢
  have hlayout : ¬ ((decide (c = '#') || decide (c = '\n') || decide (c = '\r')) = true) := by
    rw [decide_eq_false (ne_of_class hc rfl), decide_eq_false (ne_of_class hc rfl),
      decide_eq_false (ne_of_class hc rfl)]
    exact Bool.false_ne_true
  have hstatement : statement? (c :: (more ++ (before ++ '=' :: (after ++ text)))) =
      some (.assign [key] value, skipBlanks rest) := by
    unfold statement?
    split
    · next h => exact absurd (List.cons.inj h).1 (ne_of_class hc rfl)
    · simp only [hpair, bind, Option.bind]
      rfl
  simp only [hlayout, hstatement, bind, Option.bind, hend]
  cases statements? fuel next <;> rfl

end Line

/-! ## Whole numbers -/

theorem isBlank_eq_false_of_isBareChar {c : Char} (h : isBareChar c = true) :
    isBlank c = false := by
  unfold isBlank
  rw [decide_eq_false (ne_of_class h rfl), decide_eq_false (ne_of_class h rfl)]
  rfl

/-- A value that starts with a character of bare values is one. -/
theorem value?_of_isBareChar {c : Char} (h : isBareChar c = true) (depth : Nat) (s : List Char) :
    value? depth (c :: s) = scalar? (c :: s) := by
  unfold value?
  split
  · next heq => exact absurd (List.cons.inj heq).1 (ne_of_class h rfl)
  · next heq => exact absurd (List.cons.inj heq).1 (ne_of_class h rfl)
  · next heq => exact absurd (List.cons.inj heq).1 (ne_of_class h rfl)
  · next heq => exact absurd (List.cons.inj heq).1 (ne_of_class h rfl)
  · rfl

theorem value?_toString_append {n : Int} (hn : isWord n = true) {rest : List Char}
    (hrest : endsBare rest = true) (depth : Nat) :
    value? depth ((toString n).toList ++ rest) = some (.integer n, rest) := by
  obtain ⟨c, more, hcons, hc⟩ := exists_cons_toString n
  rw [← scalar?_toString_append hn hrest, hcons]
  exact value?_of_isBareChar hc _ _

/-! ## Tables -/

/-- The statements that give values to keys. -/
def assignments (entries : Entries) : List Statement :=
  entries.map fun (key, value) => .assign [key] value

/-- At the top of a document a key gets a value once. -/
theorem add?_assign (entries : Entries) (key : String) (value : Value) :
    Assembly.add? { entries } (.assign [key] value) =
      if (entries.lookup key).isSome then none
      else some { entries := entries ++ [(key, value)] } := by
  have hassign : entries.assign? [key] value = entries.insertNew? key value := rfl
  show (entries.assign? [key] value).bind _ = _
  rw [hassign, Entries.insertNew?]
  split <;> rfl

theorem foldlM_add?_assignments (first rest : Entries) (hfirst : (first.map Prod.fst).Nodup) :
    (assignments rest).foldlM Assembly.add? { entries := first } =
      if ((first ++ rest).map Prod.fst).Nodup then some { entries := first ++ rest } else none := by
  induction rest generalizing first with
  | nil =>
    rw [List.append_nil, if_pos hfirst]
    rfl
  | cons entry rest ih =>
    obtain ⟨key, value⟩ := entry
    have hlookup : (first.lookup key).isSome = true ↔ key ∈ first.map Prod.fst := by
      rw [List.lookup_isSome_iff, List.mem_map]
      exact exists_congr fun entry => and_congr_right fun _ => beq_iff_eq.trans eq_comm
    show (Assembly.add? { entries := first } (.assign [key] value)).bind _ = _
    rw [add?_assign]
    by_cases hkey : key ∈ first.map Prod.fst
    · have htwice : ¬ ((first ++ (key, value) :: rest).map Prod.fst).Nodup := by
        rw [List.map_append, List.nodup_append]
        exact fun h => h.2.2 key hkey key List.mem_cons_self rfl
      rw [if_pos (hlookup.mpr hkey), if_neg htwice]
      rfl
    · have hnext : ((first ++ [(key, value)]).map Prod.fst).Nodup := by
        rw [List.map_append, List.nodup_append]
        refine ⟨hfirst, List.pairwise_singleton _ key, ?_⟩
        rintro other hother _ hlast rfl
        obtain rfl : other = key := List.mem_singleton.mp hlast
        exact hkey hother
      rw [if_neg (mt hlookup.mp hkey), List.append_cons first (key, value) rest]
      exact ih _ hnext

/-- Values that are given to keys are the entries of the table, unless a key gets two of them. -/
theorem assemble?_assignments (entries : Entries) :
    assemble? (assignments entries) =
      if (entries.map Prod.fst).Nodup then some entries else none := by
  have hfold : (assignments entries).foldlM Assembly.add? {} =
      if (entries.map Prod.fst).Nodup then some { entries } else none :=
    foldlM_add?_assignments [] entries List.nodup_nil
  unfold assemble?
  rw [hfold]
  split <;> rfl

end DeferredResponse.Toml
