import DeferredResponse.Proofs.Http.Stages

/-!
# Texts of refusals

The text of a refusal may show a name that the caller chose: that of a header or of a cookie. Such a
text is shown in one piece, and no name can break it: it holds no control character.

1. Quoted names are escaped character by character, so nothing of them is left that does not show
   (`isControlFree_quote`). The other parts are words and numbers.
2. The name of a header with a bad value is not quoted. It was found to be the name of a header
   before the value was looked at (`isFieldName_of_argumentFault?`,
   `argumentFault?_of_givenName?`), and so it consists of the characters of a token.

`messages_are_control_free` puts this together.
-/

namespace DeferredResponse

namespace Text

/-! ## Control characters -/

/-- No character of the text is a control character. -/
def IsControlFree (text : String) : Prop := ∀ c ∈ text.toList, isControl c = false

instance : DecidablePred IsControlFree := fun text =>
  List.decidableBAll _ text.toList

theorem isControl_eq_false_iff {c : Char} :
    isControl c = false ↔ 0x20 ≤ c.toNat ∧ (c.toNat < 0x7f ∨ 0xa0 ≤ c.toNat) := by
  simp only [isControl, Bool.or_eq_false_iff, Bool.and_eq_false_iff, decide_eq_false_iff_not]
  omega

theorem IsControlFree.append {s t : String} (hs : IsControlFree s) (ht : IsControlFree t) :
    IsControlFree (s ++ t) := by
  unfold IsControlFree
  rw [String.toList_append]
  exact List.forall_mem_append.mpr ⟨hs, ht⟩

theorem isControlFree_ofList {chars : List Char} (h : ∀ c ∈ chars, isControl c = false) :
    IsControlFree (String.ofList chars) := by
  unfold IsControlFree
  rw [String.toList_ofList]
  exact h

/-! ## Numbers -/

theorem exists_digit_of_mem_toDigits {base n : Nat} {c : Char} (hbase : 1 < base)
    (h : c ∈ Nat.toDigits base n) : ∃ digit < base, c = Nat.digitChar digit := by
  induction n using Nat.strong_induction_on with
  | _ n ih =>
    by_cases hn : n < base
    · rw [Nat.toDigits_of_lt_base hn] at h
      exact ⟨n, hn, List.mem_singleton.mp h⟩
    · rw [Nat.toDigits_of_base_le hbase (Nat.le_of_not_lt hn), List.mem_append,
        List.mem_singleton] at h
      rcases h with h | h
      · exact ih (n / base) (Nat.div_lt_self (by omega) hbase) h
      · exact ⟨n % base, Nat.mod_lt n (by omega), h⟩

theorem isControl_of_mem_toDigits {base n : Nat} {c : Char} (hbase : 1 < base) (hle : base ≤ 16)
    (h : c ∈ Nat.toDigits base n) : isControl c = false := by
  have hdigits : ∀ digit < 16, isControl (Nat.digitChar digit) = false := by decide
  obtain ⟨digit, hdigit, rfl⟩ := exists_digit_of_mem_toDigits hbase h
  exact hdigits digit (by omega)

theorem isControlFree_nat (n : Nat) : IsControlFree (toString n) := by
  rw [Nat.toString_eq_ofList_toDigits]
  exact isControlFree_ofList fun c => isControl_of_mem_toDigits (by decide) (by decide)

/-! ## Quoted texts -/

theorem isControl_of_mem_codePointEscape {c written : Char} (h : written ∈ codePointEscape c) :
    isControl written = false := by
  have hmarks : ∀ mark ∈ ['\\', 'u', '\x7b', '\x7d'], isControl mark = false := by
    simp [isControl]
  simp only [codePointEscape, List.cons_append, List.nil_append, List.mem_cons, List.mem_append,
    List.not_mem_nil, or_false] at h
  rcases h with rfl | rfl | rfl | h | rfl
  · exact hmarks _ (by simp)
  · exact hmarks _ (by simp)
  · exact hmarks _ (by simp)
  · exact isControl_of_mem_toDigits (by decide) (by decide) h
  · exact hmarks _ (by simp)

/-- A character is written as a letter behind a backslash, as itself if it is visible, or by its code
point. -/
theorem quoteChar_cases (c : Char) :
    (∃ letter ∈ ['0', 't', 'r', 'n', '\\', '"'], quoteChar c = ['\\', letter]) ∨
      (isVisible c = true ∧ quoteChar c = [c]) ∨ quoteChar c = codePointEscape c := by
  unfold quoteChar
  split_ifs <;> simp_all

theorem isControl_of_mem_quoteChar {c written : Char} (h : written ∈ quoteChar c) :
    isControl written = false := by
  rcases quoteChar_cases c with ⟨letter, hletter, hquote⟩ | ⟨hvisible, hquote⟩ | hquote
  · have hescapes : ∀ mark ∈ ['0', 't', 'r', 'n', '\\', '"'], isControl mark = false := by
      simp [isControl]
    rw [hquote, List.mem_cons, List.mem_singleton] at h
    rcases h with rfl | rfl
    · decide
    · exact hescapes _ hletter
  · rw [hquote, List.mem_singleton] at h
    rw [h]
    simpa using (Bool.and_eq_true_iff.mp hvisible).1
  · rw [hquote] at h
    exact isControl_of_mem_codePointEscape h

theorem isControlFree_quote (text : String) : IsControlFree (quote text) := by
  refine isControlFree_ofList fun written h => ?_
  rw [List.mem_append, List.mem_cons, List.mem_singleton] at h
  rcases h with (rfl | h) | rfl
  · decide
  · obtain ⟨c, -, hwritten⟩ := List.mem_flatMap.mp h
    exact isControl_of_mem_quoteChar hwritten
  · decide

end Text

namespace Http

open Operation
open Text (IsControlFree isControlFree_quote isControlFree_nat)

/-! ## Names of headers -/

theorem isControl_of_isTokenChar {c : Char} (h : isTokenChar c = true) :
    Text.isControl c = false := by
  have hmarks : ∀ mark ∈ tokenMarks, Text.isControl mark = false := by
    simp [tokenMarks, Text.isControl]
  rcases Bool.or_eq_true_iff.mp h with hletter | hmark
  · have hrange := toNat_of_isAlphanum hletter
    rw [Text.isControl_eq_false_iff]
    omega
  · exact hmarks c (List.contains_iff_mem.mp hmark)

theorem isControlFree_of_isFieldName {name : String} (h : isFieldName name = true) :
    IsControlFree name := by
  unfold isFieldName at h
  simp only [Bool.and_eq_true, List.all_eq_true] at h
  exact fun c hc => isControl_of_isTokenChar (h.1.2 c hc)

/-- The name that a caller gives to a header. -/
def givenName? : Call → Option String
  | .setHeader name _ | .setDateHeader name _ => some name
  | _ => none

/-- A name that is none of a header is what is wrong with a call, whatever the value is. -/
theorem argumentFault?_of_givenName? {call : Call} {name : String}
    (hgiven : givenName? call = some name) (hname : isFieldName name = false) :
    argumentFault? call = some (.headerName name) := by
  cases call with
  | setHeader | setDateHeader =>
    cases hgiven
    simp [argumentFault?, hname]
  | _ => cases hgiven

/-- A bad value is reported under the name that the caller gave, or under one that the response
itself sets. -/
theorem name_of_argumentFault? {call : Call} {name : String}
    (h : argumentFault? call = some (.headerValue name)) :
    givenName? call = some name ∨ name = contentType ∨ name = location := by
  cases call with
  | addCookie | clearCookie =>
    obtain ⟨part, -, hpart⟩ := Option.map_eq_some_iff.mp h
    cases hpart
  | setContentLength | writeText | writeBytes | flush | close => cases h
  | _ =>
    simp only [argumentFault?] at h
    grind [givenName?]

/-- A value is found to be bad only under the name of a header. -/
theorem isFieldName_of_argumentFault? {call : Call} {name : String}
    (h : argumentFault? call = some (.headerValue name)) : isFieldName name = true := by
  rcases name_of_argumentFault? h with hgiven | rfl | rfl
  · -- With a bad name it would be the name that is wrong.
    by_contra hname
    rw [argumentFault?_of_givenName? hgiven (eq_false_of_ne_true hname)] at h
    cases h
  · decide
  · decide

/-! ## Texts -/

theorem isControlFree_message {refusal : Refusal}
    (h : ∀ name, refusal = .headerValue name → isFieldName name = true) :
    IsControlFree refusal.message := by
  cases refusal with
  | headerName name => exact .append (by decide) (isControlFree_quote name)
  | headerValue name => exact .append (by decide) (isControlFree_of_isFieldName (h name rfl))
  | status code => exact .append (by decide) (isControlFree_nat code.toNat)
  | cookie name part =>
    have hpart : IsControlFree part.text := by cases part <;> decide
    exact .append (.append (.append (.append (by decide) (isControlFree_quote name)) (by decide))
      hpart) (by decide)
  | committed kind =>
    have hcall : IsControlFree kind.callName := by cases kind <;> decide
    exact .append (by decide) hcall
  | date time =>
    show IsControlFree "date out of range"
    decide

namespace Draft

/-- **What refusals tell.** Whatever calls were made on a new draft, and whatever strings a call that
it refuses then has: the text of the refusal holds no control character, be it a line break, a tab
or a null character. A bad value is reported only under the name of a header, since a name that is
none is what the call is refused for, unless it comes too late. -/
theorem messages_are_control_free (calls : List Call) {call : Call} {refusal : Refusal}
    {next : Draft} (h : Sink.perform call (ofCalls calls) = .error refusal next) :
    (∀ c ∈ refusal.message.toList, 0x20 ≤ c.toNat ∧ (c.toNat < 0x7f ∨ 0xa0 ≤ c.toNat)) ∧
      (∀ name, refusal = .headerValue name → isFieldName name = true) ∧
      ∀ name, givenName? call = some name → isFieldName name = false →
        refusal = .headerName name ∨ refusal = .committed call.kind := by
  have hfield : ∀ name, refusal = .headerValue name → isFieldName name = true := by
    rintro name rfl
    rcases refused_cases h with hlate | hfault
    · cases hlate
    · exact isFieldName_of_argumentFault? hfault
  refine ⟨fun c hc => ?_, hfield, fun name hgiven hname => ?_⟩
  · exact Text.isControl_eq_false_iff.mp (isControlFree_message hfield c hc)
  · rcases refused_cases h with hlate | hfault
    · exact .inr hlate
    · rw [argumentFault?_of_givenName? hgiven hname] at hfault
      exact .inl (Option.some.inj hfault).symm

/-- A name that would start a header of its own is shown with escapes, even beside a value that is
bad as well. -/
theorem smuggled_line_is_escaped :
    ∃ call : Call, ∃ next, ∃ refusal : Refusal,
      call = .setHeader "X\r\nSet-Cookie: a\x7f" "\n" ∧
      Sink.perform call (ofCalls [.setStatus 404]) = .error refusal next ∧
      (∀ c ∈ refusal.message.toList, 0x20 ≤ c.toNat ∧ (c.toNat < 0x7f ∨ 0xa0 ≤ c.toNat)) ∧
      refusal = .headerName "X\r\nSet-Cookie: a\x7f" ∧
      refusal.message = "invalid header name \"X\\r\\nSet-Cookie: a\\u\x7b7f\x7d\"" := by
  let call : Call := .setHeader "X\r\nSet-Cookie: a\x7f" "\n"
  obtain ⟨next, hnext⟩ : ∃ next, Sink.perform call (ofCalls [.setStatus 404]) =
      .error (.headerName "X\r\nSet-Cookie: a\x7f") next := ⟨_, rfl⟩
  exact ⟨call, next, _, rfl, hnext, (messages_are_control_free _ hnext).1, rfl, by decide⟩

end Draft

end Http

end DeferredResponse
