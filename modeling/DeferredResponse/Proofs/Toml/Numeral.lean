import DeferredResponse.Toml.Scalar
import Mathlib.Data.List.Basic

/-!
# Whole numbers in documents

A whole number is read back from its decimal text, whatever follows the text, as long as it cannot
belong to it. The reader of bare values is a general one: the text of a number could also be the
start of a number in another base, of a floating-point number or of a time, and could hold
underscores.

1. The text of a number has no leading zero (`eq_zero_of_head?_toDigits`), so its digits are read as
   they are (`decimalDigits?_toDigits`) and stand for the number (`numberOf_toDigits`).
2. With the sign, the text of a number that fits into 64 bits is read as the number
   (`integer?_toString`).
3. A bare value reaches as far as its characters do (`spanBare_append`), so the number is what a
   reader of values finds (`scalar?_toString_append`).
-/

namespace DeferredResponse.Toml

/-! ## Words -/

section Words

variable {p : Char → Bool} {word rest : List Char} (hword : ∀ c ∈ word, p c = true)
  (hrest : ∀ c ∈ rest.head?, p c = false)

include hword hrest

theorem takeWhile_append_eq : (word ++ rest).takeWhile p = word := by
  rw [List.takeWhile_append_of_pos hword]
  cases rest with
  | nil => exact List.append_nil _
  | cons c more =>
    rw [List.takeWhile_cons_of_neg (Bool.eq_false_iff.mp (hrest c rfl)), List.append_nil]

theorem dropWhile_append_eq : (word ++ rest).dropWhile p = rest := by
  rw [List.dropWhile_append_of_pos hword]
  cases rest with
  | nil => rfl
  | cons c more => exact List.dropWhile_cons_of_neg (Bool.eq_false_iff.mp (hrest c rfl))

end Words

/-- A character of a class is none that is outside of it. -/
theorem ne_of_class {p : Char → Bool} {c d : Char} (hc : p c = true) (hd : p d = false) :
    c ≠ d := by
  rintro rfl
  rw [hd] at hc
  cases hc

/-! ## Digits -/

/-- Only zero is written with a zero in front. -/
theorem eq_zero_of_head?_toDigits (n : Nat) (h : (Nat.toDigits 10 n).head? = some '0') : n = 0 := by
  induction n using Nat.strongRecOn with
  | ind n ih =>
    by_cases hlt : n < 10
    · rw [Nat.toDigits_of_lt_base hlt] at h
      have hzero : ∀ d < 10, Nat.digitChar d = '0' → d = 0 := by decide
      exact hzero n hlt (Option.some.inj h)
    · rw [Nat.toDigits_of_base_le (by decide) (by omega),
        List.head?_append_of_ne_nil _ Nat.toDigits_ne_nil] at h
      have hquotient := ih (n / 10) (by omega) h
      omega

theorem ungroup?_eq_self {isDigit : Char → Bool} (hmark : isDigit '_' = false) {digits : List Char}
    (hne : digits ≠ []) (h : ∀ c ∈ digits, isDigit c = true) :
    ungroup? isDigit digits = some digits := by
  induction digits with
  | nil => exact absurd rfl hne
  | cons c rest ih =>
    have hc := h c List.mem_cons_self
    cases rest with
    | nil => rw [ungroup?, if_pos hc]
    | cons d more =>
      have hd : d ≠ '_' := by
        rintro rfl
        rw [h '_' (List.mem_cons_of_mem _ List.mem_cons_self)] at hmark
        cases hmark
      rw [ungroup?, if_pos hc,
        ih (List.cons_ne_nil _ _) fun e he => h e (List.mem_cons_of_mem _ he)]
      · rfl
      · exact List.cons_ne_nil _ _
      · rintro other ⟨⟩
        exact hd rfl

theorem isDigit_of_mem_toDigits {n : Nat} {c : Char} (h : c ∈ Nat.toDigits 10 n) :
    c.isDigit = true :=
  Nat.isDigit_of_mem_toDigits (by decide) (by decide) h

theorem decimalDigits?_toDigits (n : Nat) :
    decimalDigits? (Nat.toDigits 10 n) = some (Nat.toDigits 10 n) := by
  unfold decimalDigits?
  rw [if_neg, ungroup?_eq_self rfl Nat.toDigits_ne_nil fun c => isDigit_of_mem_toDigits]
  rw [Bool.and_eq_true, decide_eq_true_eq, decide_eq_true_eq, not_and, not_not]
  intro hzero
  rw [eq_zero_of_head?_toDigits n hzero]
  rfl

theorem numberOf_toDigits (n : Nat) : numberOf 10 (Nat.toDigits 10 n) = n := by
  have hvalue : ∀ digits : List Char, (∀ c ∈ digits, c.isDigit = true) → ∀ start,
      digits.foldl (fun n c => 10 * n + hexValue c) start = Nat.ofDigitChars 10 digits start := by
    intro digits hdigits
    induction digits with
    | nil => exact fun _ => rfl
    | cons c rest ih =>
      intro start
      have hc : hexValue c = c.toNat - '0'.toNat := by
        rw [hexValue, if_pos (hdigits c List.mem_cons_self)]
      rw [List.foldl_cons, ih (fun d hd => hdigits d (List.mem_cons_of_mem _ hd)), hc,
        Nat.ofDigitChars_cons]
  unfold numberOf
  rw [hvalue _ fun c => isDigit_of_mem_toDigits, Nat.ofDigitChars_ten_toDigits]

/-! ## Numbers -/

theorem toList_toString_nat (n : Nat) : (toString n).toList = Nat.toDigits 10 n := by
  rw [Nat.toString_eq_ofList_toDigits, String.toList_ofList]

theorem toList_toString_negSucc (n : Nat) :
    (toString (Int.negSucc n)).toList = '-' :: Nat.toDigits 10 (n + 1) := by
  have htext : toString (Int.negSucc n) = "-" ++ toString (n + 1) := rfl
  rw [htext, String.toList_append, toList_toString_nat]
  rfl

theorem splitSign_toDigits (n : Nat) :
    splitSign (Nat.toDigits 10 n) = (false, Nat.toDigits 10 n) := by
  unfold splitSign
  split
  · next rest h =>
    have hsign : ('-' : Char).isDigit = true := isDigit_of_mem_toDigits (h ▸ List.mem_cons_self)
    cases hsign
  · next rest h =>
    have hsign : ('+' : Char).isDigit = true := isDigit_of_mem_toDigits (h ▸ List.mem_cons_self)
    cases hsign
  · rfl

theorem decimalInteger?_toString (n : Int) : decimalInteger? (toString n).toList = word? n := by
  cases n with
  | ofNat n =>
    show decimalInteger? (toString n).toList = _
    rw [toList_toString_nat, decimalInteger?, splitSign_toDigits]
    simp only [decimalDigits?_toDigits, numberOf_toDigits, Bool.false_eq_true, if_false]
    rfl
  | negSucc n =>
    rw [toList_toString_negSucc, decimalInteger?]
    simp only [splitSign, decimalDigits?_toDigits, numberOf_toDigits, if_true]
    rfl

/-- The text of a number consists of digits, behind a sign at most. -/
theorem eq_or_isDigit_of_mem_toString {n : Int} {c : Char} (h : c ∈ (toString n).toList) :
    c = '-' ∨ c.isDigit = true := by
  cases n with
  | ofNat n =>
    have hdigit : c ∈ (toString n).toList := h
    rw [toList_toString_nat] at hdigit
    exact .inr (isDigit_of_mem_toDigits hdigit)
  | negSucc n =>
    rw [toList_toString_negSucc] at h
    rcases List.mem_cons.mp h with rfl | h
    · exact .inl rfl
    · exact .inr (isDigit_of_mem_toDigits h)

theorem not_mem_toString {c : Char} (hsign : c ≠ '-') (hdigit : c.isDigit = false) (n : Int) :
    c ∉ (toString n).toList := by
  intro h
  rcases eq_or_isDigit_of_mem_toString h with rfl | h
  · exact hsign rfl
  · rw [hdigit] at h
    cases h

/-- The text of a number is no number in another base. -/
theorem integer?_toString (n : Int) : integer? (toString n).toList = word? n := by
  rw [← decimalInteger?_toString]
  have hmark {mark : Char} (hsign : mark ≠ '-') (hdigit : mark.isDigit = false) {rest : List Char} :
      (toString n).toList ≠ '0' :: mark :: rest := by
    intro h
    exact not_mem_toString hsign hdigit n (h ▸ List.mem_cons_of_mem _ List.mem_cons_self)
  unfold integer?
  split
  · next rest h => exact absurd h (hmark (by decide) rfl)
  · next rest h => exact absurd h (hmark (by decide) rfl)
  · next rest h => exact absurd h (hmark (by decide) rfl)
  · rfl

theorem bareValue?_toString {n : Int} (h : isWord n = true) :
    bareValue? (toString n).toList = some (.integer n) := by
  have hword : integer? (toString n).toList = some n := by
    rw [integer?_toString, word?, if_pos h]
  have htrue : (toString n).toList ≠ ['t', 'r', 'u', 'e'] := by
    intro htext
    exact not_mem_toString (by decide) rfl n (htext ▸ List.mem_cons_self : 't' ∈ _)
  have hfalse : (toString n).toList ≠ ['f', 'a', 'l', 's', 'e'] := by
    intro htext
    exact not_mem_toString (by decide) rfl n (htext ▸ List.mem_cons_self : 'f' ∈ _)
  rw [bareValue?, if_neg htrue, if_neg hfalse, hword]

/-! ## Bare values -/

/-- Whether a bare value ends where a text starts: not before a character of bare values, nor before
a blank and a digit, as they join a date and a time. -/
def endsBare : List Char → Bool
  | ' ' :: c :: _ => !c.isDigit
  | c :: _ => !isBareChar c
  | [] => true

theorem isBareChar_of_isDigit {c : Char} (h : c.isDigit = true) : isBareChar c = true := by
  simp [isBareChar, Char.isAlphanum, h]

theorem isBareChar_of_mem_toString {n : Int} {c : Char} (h : c ∈ (toString n).toList) :
    isBareChar c = true := by
  rcases eq_or_isDigit_of_mem_toString h with rfl | h
  · rfl
  · exact isBareChar_of_isDigit h

theorem exists_cons_toString (n : Int) :
    ∃ c more, (toString n).toList = c :: more ∧ isBareChar c = true := by
  have hne : (toString n).toList ≠ [] := by
    cases n with
    | ofNat n =>
      show (toString n).toList ≠ []
      rw [toList_toString_nat]
      exact Nat.toDigits_ne_nil
    | negSucc n =>
      rw [toList_toString_negSucc]
      exact List.cons_ne_nil _ _
  obtain ⟨c, more, hcons⟩ := List.exists_cons_of_ne_nil hne
  exact ⟨c, more, hcons, isBareChar_of_mem_toString (hcons ▸ List.mem_cons_self)⟩

theorem spanBare_append {word rest : List Char} (hword : ∀ c ∈ word, isBareChar c = true)
    (hrest : endsBare rest = true) : spanBare (word ++ rest) = (word, rest) := by
  have hhead : ∀ c ∈ rest.head?, isBareChar c = false := by
    unfold endsBare at hrest
    intro c hc
    split at hrest
    · cases hc
      rfl
    · cases hc
      simpa using hrest
    · cases hc
  unfold spanBare
  rw [takeWhile_append_eq hword hhead, dropWhile_append_eq hword hhead]
  split
  · next c more =>
    have hc : c.isDigit = false := by simpa [endsBare] using hrest
    simp [hc]
  · rfl

theorem scalar?_toString_append {n : Int} (h : isWord n = true) {rest : List Char}
    (hrest : endsBare rest = true) :
    scalar? ((toString n).toList ++ rest) = some (.integer n, rest) := by
  rw [scalar?, spanBare_append (fun _ => isBareChar_of_mem_toString) hrest]
  simp only [bareValue?_toString h, Option.map_some]

end DeferredResponse.Toml
