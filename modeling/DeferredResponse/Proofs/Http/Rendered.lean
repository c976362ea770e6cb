import DeferredResponse.Http.Field
import DeferredResponse.Http.SetCookie

/-!
# Rendered header values

Cookies and dates become header values. Each part that is checked before rendering, and each part
that rendering adds, consists of printable ASCII characters, so the whole can stand in a header: the
check of a rendered value against the rule for header values never fails
(`isFieldValue_of_storeCookie`, `isFieldValue_of_dropCookie`, `isFieldValue_of_dateText?`).
-/

namespace DeferredResponse.Http

/-! ## Characters -/

theorem toNat_of_isAlphanum {c : Char} (h : c.isAlphanum = true) :
    (65 ≤ c.toNat ∧ c.toNat ≤ 90) ∨ (97 ≤ c.toNat ∧ c.toNat ≤ 122) ∨
      (48 ≤ c.toNat ∧ c.toNat ≤ 57) := by
  rcases Bool.or_eq_true_iff.mp h with halpha | hdigit
  · rcases Bool.or_eq_true_iff.mp halpha with hupper | hlower
    · exact .inl (of_decide_eq_true hupper)
    · obtain ⟨hlow, hhigh⟩ := Bool.and_eq_true_iff.mp hlower
      exact .inr (.inl ⟨of_decide_eq_true hlow, of_decide_eq_true hhigh⟩)
  · obtain ⟨hlow, hhigh⟩ := Bool.and_eq_true_iff.mp hdigit
    exact .inr (.inr ⟨of_decide_eq_true hlow, of_decide_eq_true hhigh⟩)

theorem isValueChar_of_printable {c : Char} (hlow : 0x20 ≤ c.toNat) (hhigh : c.toNat ≤ 0x7e) :
    isValueChar c = true := by
  unfold isValueChar
  have hne : c.toNat ≠ 0x7f := by omega
  simp [hlow, hne]

theorem isValueChar_of_isDigit {c : Char} (h : c.isDigit = true) : isValueChar c = true := by
  obtain ⟨hlow, hhigh⟩ : 48 ≤ c.toNat ∧ c.toNat ≤ 57 := by
    simpa [Char.isDigit, UInt32.le_iff_toNat_le] using h
  exact isValueChar_of_printable (by omega) (by omega)

theorem isValueChar_of_mem_toDigits {n : Nat} {c : Char} (h : c ∈ Nat.toDigits 10 n) :
    isValueChar c = true :=
  isValueChar_of_isDigit (Nat.isDigit_of_mem_toDigits (by decide) (by decide) h)

/-! ## Parts of a text -/

theorem isFieldValue_ofList {chars : List Char} (h : ∀ c ∈ chars, isValueChar c = true) :
    isFieldValue (String.ofList chars) = true := by
  unfold isFieldValue
  rw [String.toList_ofList]
  exact List.all_eq_true.mpr h

theorem isFieldValue_append {s t : String} (hs : isFieldValue s = true)
    (ht : isFieldValue t = true) : isFieldValue (s ++ t) = true := by
  unfold isFieldValue at *
  rw [String.toList_append, List.all_append, hs, ht]
  rfl

theorem isFieldValue_nat (n : Nat) : isFieldValue (toString n) = true := by
  rw [Nat.toString_eq_ofList_toDigits]
  exact isFieldValue_ofList fun c hc => isValueChar_of_mem_toDigits hc

theorem isFieldValue_int (n : Int) : isFieldValue (toString n) = true := by
  cases n with
  | ofNat n => exact isFieldValue_nat n
  | negSucc n => exact isFieldValue_append (s := "-") (by decide) (isFieldValue_nat (n + 1))

/-! ## Cookies -/

theorem isFieldValue_of_isCookieName {name : String} (h : isCookieName name = true) :
    isFieldValue name = true := by
  unfold isCookieName at h
  unfold isFieldValue
  rw [List.all_eq_true]
  intro c hc
  have hall := List.all_eq_true.mp (Bool.and_eq_true_iff.mp h).2 c hc
  unfold isCookieNameChar at hall
  simp only [Bool.and_eq_true, decide_eq_true_eq] at hall
  exact isValueChar_of_printable (by omega) (by omega)

theorem isValueChar_of_isCookieOctet {c : Char} (h : isCookieOctet c = true) :
    isValueChar c = true := by
  unfold isCookieOctet at h
  simp only [Bool.and_eq_true, decide_eq_true_eq] at h
  exact isValueChar_of_printable (by omega) (by omega)

/-- Quotes are taken off in pairs. -/
theorem eq_withoutQuotes_or (chars : List Char) :
    chars = withoutQuotes chars ∨ chars = '"' :: withoutQuotes chars ++ ['"'] := by
  unfold withoutQuotes
  split
  · rename_i rest
    split
    · rename_i hlast
      obtain ⟨inner, rfl⟩ := List.getLast?_eq_some_iff.mp hlast
      right
      rw [List.dropLast_concat, List.cons_append]
    · exact .inl rfl
  · exact .inl rfl

/-- The quotes around a value are the only characters that `withoutQuotes` drops. -/
theorem mem_withoutQuotes {chars : List Char} {c : Char} (h : c ∈ chars) :
    c = '"' ∨ c ∈ withoutQuotes chars := by
  rcases eq_withoutQuotes_or chars with hsame | hquoted
  · rw [hsame] at h
    exact .inr h
  · rw [hquoted] at h
    simp only [List.cons_append, List.mem_cons, List.mem_append, List.not_mem_nil, or_false] at h
    rcases h with h | h | h
    · exact .inl h
    · exact .inr h
    · exact .inl h

theorem isFieldValue_of_isCookieValue {value : String} (h : isCookieValue value = true) :
    isFieldValue value = true := by
  unfold isCookieValue at h
  unfold isFieldValue
  rw [List.all_eq_true] at h ⊢
  intro c hc
  rcases mem_withoutQuotes hc with rfl | hc
  · decide
  · exact isValueChar_of_isCookieOctet (h c hc)

theorem isFieldValue_of_isAttributeValue {value : String} (h : isAttributeValue value = true) :
    isFieldValue value = true := by
  unfold isAttributeValue at h
  unfold isFieldValue
  rw [List.all_eq_true] at h ⊢
  intro c hc
  have hall := h c hc
  simp only [Bool.and_eq_true, decide_eq_true_eq] at hall
  exact isValueChar_of_printable hall.1.1 hall.1.2

theorem scopeFault?_eq_none_iff (cookie : Cookie) :
    scopeFault? cookie = none ↔
      (∀ path ∈ cookie.path, isAttributeValue path = true) ∧
        ∀ domain ∈ cookie.domain, isAttributeValue domain = true := by
  have hany : ∀ value? : Option String, (value?.any fun value => !isAttributeValue value) = false ↔
      ∀ value ∈ value?, isAttributeValue value = true := by
    intro value?
    cases value? <;> simp
  rw [← hany, ← hany, scopeFault?]
  cases cookie.path.any _ <;> cases cookie.domain.any _ <;> simp

theorem storeFault?_eq_none_iff (cookie : Cookie) :
    storeFault? cookie = none ↔
      isCookieName cookie.name = true ∧ isCookieValue cookie.value = true ∧
        scopeFault? cookie = none := by
  cases hname : isCookieName cookie.name <;> cases hvalue : isCookieValue cookie.value <;>
    simp [storeFault?, hname, hvalue]

theorem dropFault?_eq_none_iff (cookie : Cookie) :
    dropFault? cookie = none ↔
      isCookieName cookie.name = true ∧ scopeFault? cookie = none := by
  cases hname : isCookieName cookie.name <;> simp [dropFault?, hname]

/-- The attributes of a cookie whose path and domain passed their check. -/
theorem isFieldValue_of_mem_scopeAttributes {cookie : Cookie} (h : scopeFault? cookie = none)
    {part : String} (hpart : part ∈ scopeAttributes cookie) : isFieldValue part = true := by
  obtain ⟨hpath, hdomain⟩ := (scopeFault?_eq_none_iff cookie).mp h
  unfold scopeAttributes at hpart
  rcases List.mem_append.mp hpart with hpart | hpart
  · rcases List.mem_append.mp hpart with hpart | hpart
    · rcases List.mem_append.mp hpart with hpart | hpart
      · obtain ⟨path, hp, rfl⟩ := List.mem_map.mp hpart
        exact isFieldValue_append (by decide)
          (isFieldValue_of_isAttributeValue (hpath path (Option.mem_toList.mp hp)))
      · obtain ⟨domain, hd, rfl⟩ := List.mem_map.mp hpart
        exact isFieldValue_append (by decide)
          (isFieldValue_of_isAttributeValue (hdomain domain (Option.mem_toList.mp hd)))
    · split at hpart
      · rw [List.mem_singleton.mp hpart]
        decide
      · cases hpart
  · split at hpart
    · rw [List.mem_singleton.mp hpart]
      decide
    · cases hpart

theorem isFieldValue_cookieText {name value : String} {attributes : List String}
    (hname : isFieldValue name = true) (hvalue : isFieldValue value = true)
    (hattributes : ∀ part ∈ attributes, isFieldValue part = true) :
    isFieldValue (cookieText name value attributes) = true := by
  unfold cookieText
  have hpair : isFieldValue (name ++ "=" ++ value) = true :=
    isFieldValue_append (isFieldValue_append hname (by decide)) hvalue
  generalize name ++ "=" ++ value = text at hpair
  induction attributes generalizing text with
  | nil => exact hpair
  | cons part rest ih =>
    refine ih (fun p hp => hattributes p (List.mem_cons_of_mem _ hp)) _ ?_
    exact isFieldValue_append (isFieldValue_append hpair (by decide))
      (hattributes part List.mem_cons_self)

/-- The value that stores a cookie can stand in a header. -/
theorem isFieldValue_of_storeCookie {cookie : Cookie} {text : String}
    (h : storeCookie cookie = .ok text) : isFieldValue text = true := by
  unfold storeCookie at h
  split at h
  · cases h
  rename_i hfault
  cases h
  obtain ⟨hname, hvalue, hscope⟩ := (storeFault?_eq_none_iff cookie).mp hfault
  refine isFieldValue_cookieText (isFieldValue_of_isCookieName hname)
    (isFieldValue_of_isCookieValue hvalue) fun part hpart => ?_
  rcases List.mem_append.mp hpart with hpart | hpart
  · obtain ⟨age, -, rfl⟩ := List.mem_map.mp hpart
    exact isFieldValue_append (by decide) (isFieldValue_int age.toInt)
  · exact isFieldValue_of_mem_scopeAttributes hscope hpart

/-- The value that makes a client drop a cookie can stand in a header. -/
theorem isFieldValue_of_dropCookie {cookie : Cookie} {text : String}
    (h : dropCookie cookie = .ok text) : isFieldValue text = true := by
  unfold dropCookie at h
  split at h
  · cases h
  rename_i hfault
  cases h
  obtain ⟨hname, hscope⟩ := (dropFault?_eq_none_iff cookie).mp hfault
  refine isFieldValue_cookieText (isFieldValue_of_isCookieName hname) (by decide)
    fun part hpart => ?_
  rcases List.mem_append.mp hpart with hpart | hpart
  · rcases List.mem_cons.mp hpart with rfl | hpart
    · decide
    · rw [List.mem_singleton.mp hpart]
      decide
  · exact isFieldValue_of_mem_scopeAttributes hscope hpart

/-! ## Dates -/

theorem all_padded (width n : Nat) : (Text.padded width n).all isValueChar = true := by
  unfold Text.padded List.leftpad
  rw [List.all_append, List.all_replicate, Bool.and_eq_true, List.all_eq_true]
  refine ⟨?_, fun c hc => isValueChar_of_mem_toDigits hc⟩
  split <;> decide

theorem all_weekdayName (day : Weekday) : (weekdayName day).toList.all isValueChar = true := by
  cases day <;> decide

theorem all_monthName (month : Nat) : (monthName month).toList.all isValueChar = true := by
  unfold monthName
  split <;> decide

theorem all_yearText (year : Int) : (yearText year).all isValueChar = true := by
  unfold yearText
  split
  · exact all_padded 4 _
  · rw [List.all_cons, all_padded, Bool.and_true]
    split <;> decide

theorem all_clockText (second : Nat) : (clockText second).all isValueChar = true := by
  unfold clockText
  simp only [List.all_append, List.all_cons, all_padded, Bool.and_true, Bool.true_and]
  decide

/-- The text of a date can stand in a header. -/
theorem isFieldValue_of_dateText? {time : Instant} {text : String} (h : dateText? time = some text) :
    isFieldValue text = true := by
  unfold dateText? at h
  dsimp only at h
  split at h
  · rw [← Option.some.inj h]
    unfold isFieldValue
    simp only [String.toList_ofList, List.all_append, all_weekdayName, all_padded, all_monthName,
      all_yearText, all_clockText, Bool.and_true, Bool.true_and]
    decide
  · cases h

end DeferredResponse.Http
