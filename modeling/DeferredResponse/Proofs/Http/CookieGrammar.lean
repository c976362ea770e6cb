import DeferredResponse.Proofs.Http.CookieHeader
import DeferredResponse.Proofs.Http.Sendable

/-!
# The grammar of cookies

Which cookies can be stored, said over the characters of their texts (`Cookie.Grammatical`), and
which part of any other cookie is found at fault.

1. The classes of characters are ranges of ASCII codes (`isCookieOctet_iff`,
   `isCookieNameChar_iff`).
2. A value is a run of octets or one between two quotes (`isCookieValue_iff`): a lone quote, an
   inner one or a quote on one side makes neither.
3. The first part that is not grammatical is reported (`storeFault?_eq_some_iff`).
4. The check may as well go through the bytes of the texts (`storeFault?_eq_byteFault?`): no byte of
   a character beyond ASCII is in one of the classes.
-/

namespace DeferredResponse

open Http

/-! ## Characters -/

namespace Http

/-- A visible ASCII character that does not separate tokens. -/
def IsNameChar (c : Char) : Prop :=
  0x21 ≤ c.toNat ∧ c.toNat ≤ 0x7e ∧ c ∉ "()<>@,;:\\\"/[]?=\x7b\x7d".toList

/-- A visible ASCII character that can stand in a value without further ado. -/
def IsOctet (c : Char) : Prop :=
  c.toNat = 0x21 ∨ (0x23 ≤ c.toNat ∧ c.toNat ≤ 0x2b) ∨ (0x2d ≤ c.toNat ∧ c.toNat ≤ 0x3a) ∨
    (0x3c ≤ c.toNat ∧ c.toNat ≤ 0x5b) ∨ (0x5d ≤ c.toNat ∧ c.toNat ≤ 0x7e)

/-- A printable ASCII character that does not end an attribute. -/
def IsAttributeChar (c : Char) : Prop := 0x20 ≤ c.toNat ∧ c.toNat ≤ 0x7e ∧ c ≠ ';'

instance : DecidablePred IsNameChar := fun c => by unfold IsNameChar; infer_instance

instance : DecidablePred IsOctet := fun c => by unfold IsOctet; infer_instance

instance : DecidablePred IsAttributeChar := fun c => by unfold IsAttributeChar; infer_instance

/-- Classes of ASCII characters are the same if they agree on the ASCII characters. -/
theorem class_iff_of_ascii (p q : Char → Prop)
    (hascii : ∀ n < 0x80, p (Char.ofNat n) ↔ q (Char.ofNat n))
    (hp : ∀ c, p c → c.toNat < 0x80) (hq : ∀ c, q c → c.toNat < 0x80) (c : Char) : p c ↔ q c := by
  by_cases hc : c.toNat < 0x80
  · have h := hascii c.toNat hc
    rwa [Char.ofNat_toNat] at h
  · exact ⟨fun h => absurd (hp c h) hc, fun h => absurd (hq c h) hc⟩

theorem isCookieNameChar_iff (c : Char) : isCookieNameChar c = true ↔ IsNameChar c := by
  refine class_iff_of_ascii (isCookieNameChar · = true) IsNameChar ?_ (fun c h => ?_)
    (fun c h => ?_) c
  · decide +kernel
  · simp only [isCookieNameChar, Bool.and_eq_true, decide_eq_true_eq] at h
    omega
  · exact Nat.lt_of_le_of_lt h.2.1 (by decide)

theorem isCookieOctet_iff (c : Char) : isCookieOctet c = true ↔ IsOctet c := by
  refine class_iff_of_ascii (isCookieOctet · = true) IsOctet ?_ (fun c h => ?_) (fun c h => ?_) c
  · decide +kernel
  · simp only [isCookieOctet, Bool.and_eq_true, decide_eq_true_eq] at h
    omega
  · unfold IsOctet at h
    omega

end Http

/-! ## Parts -/

/-- Whether a part of a cookie keeps to its grammar. -/
def Cookie.Grammatical (cookie : Cookie) : CookiePart → Prop
  | .name => cookie.name ≠ "" ∧ ∀ c ∈ cookie.name.toList, IsNameChar c
  | .value => ∃ octets : List Char, (∀ c ∈ octets, IsOctet c) ∧
      (cookie.value.toList = octets ∨ cookie.value.toList = '"' :: octets ++ ['"'])
  | .path => ∀ path ∈ cookie.path, ∀ c ∈ path.toList, IsAttributeChar c
  | .domain => ∀ domain ∈ cookie.domain, ∀ c ∈ domain.toList, IsAttributeChar c

namespace Http

theorem isCookieName_iff (name : String) :
    isCookieName name = true ↔ name ≠ "" ∧ ∀ c ∈ name.toList, IsNameChar c := by
  simp only [isCookieName, Bool.and_eq_true, Bool.not_eq_true', List.isEmpty_eq_false_iff,
    List.all_eq_true, isCookieNameChar_iff, ne_eq, String.toList_eq_nil_iff]

theorem isAttributeValue_iff (value : String) :
    isAttributeValue value = true ↔ ∀ c ∈ value.toList, IsAttributeChar c := by
  simp only [isAttributeValue, List.all_eq_true, Bool.and_eq_true, decide_eq_true_eq, and_assoc,
    IsAttributeChar]

theorem withoutQuotes_concat (octets : List Char) :
    withoutQuotes ('"' :: octets ++ ['"']) = octets := by
  rw [List.cons_append, withoutQuotes, List.getLast?_concat, if_pos rfl, List.dropLast_concat]

theorem withoutQuotes_eq_self {chars : List Char} (h : '"' ∉ chars) :
    withoutQuotes chars = chars := by
  unfold withoutQuotes
  split
  · exact absurd List.mem_cons_self h
  · rfl

theorem isCookieValue_iff (value : String) :
    isCookieValue value = true ↔ ∃ octets : List Char, (∀ c ∈ octets, IsOctet c) ∧
      (value.toList = octets ∨ value.toList = '"' :: octets ++ ['"']) := by
  rw [isCookieValue, List.all_eq_true]
  simp only [isCookieOctet_iff]
  constructor
  · exact fun h => ⟨withoutQuotes value.toList, h, eq_withoutQuotes_or value.toList⟩
  · rintro ⟨octets, hoctets, hvalue | hvalue⟩
    · have hquote : '"' ∉ octets := fun hmem => absurd (hoctets '"' hmem) (by decide)
      rwa [hvalue, withoutQuotes_eq_self hquote]
    · rwa [hvalue, withoutQuotes_concat]

/-! ## The first fault -/

/-- The order in which the parts are checked. -/
def CookiePart.checkOrder : List CookiePart := [.name, .value, .path, .domain]

theorem CookiePart.mem_checkOrder (part : CookiePart) : part ∈ checkOrder := by
  cases part <;> decide

/-- A part is not grammatical, and all those before it are. -/
def IsFirstFault (cookie : Cookie) (part : CookiePart) : Prop :=
  ¬ cookie.Grammatical part ∧ ∃ before after, CookiePart.checkOrder = before ++ part :: after ∧
    ∀ earlier ∈ before, cookie.Grammatical earlier

/-- Whether a part of a cookie passes its check. -/
def passes (cookie : Cookie) : CookiePart → Bool
  | .name => isCookieName cookie.name
  | .value => isCookieValue cookie.value
  | .path => !cookie.path.any fun path => !isAttributeValue path
  | .domain => !cookie.domain.any fun domain => !isAttributeValue domain

theorem passes_iff (cookie : Cookie) (part : CookiePart) :
    passes cookie part = true ↔ cookie.Grammatical part := by
  have hany : ∀ value? : Option String,
      (!value?.any fun value => !isAttributeValue value) = true ↔
        ∀ value ∈ value?, ∀ c ∈ value.toList, IsAttributeChar c := by
    intro value?
    cases value? <;> simp [isAttributeValue_iff]
  cases part with
  | name => exact isCookieName_iff cookie.name
  | value => exact isCookieValue_iff cookie.value
  | path => exact hany cookie.path
  | domain => exact hany cookie.domain

theorem storeFault?_eq_find? (cookie : Cookie) :
    storeFault? cookie = CookiePart.checkOrder.find? fun part => !passes cookie part := by
  unfold storeFault? scopeFault? CookiePart.checkOrder
  simp only [List.find?_cons, List.find?_nil, passes, Bool.not_not]
  split_ifs <;> simp_all

theorem storeFault?_eq_none_iff_grammatical (cookie : Cookie) :
    storeFault? cookie = none ↔ ∀ part, cookie.Grammatical part := by
  rw [storeFault?_eq_find?, List.find?_eq_none]
  simp only [Bool.not_eq_true', Bool.not_eq_false, passes_iff, CookiePart.mem_checkOrder,
    true_imp_iff]

theorem storeFault?_eq_some_iff (cookie : Cookie) (part : CookiePart) :
    storeFault? cookie = some part ↔ IsFirstFault cookie part := by
  rw [storeFault?_eq_find?, List.find?_eq_some_iff_append]
  simp only [Bool.not_eq_true', Bool.not_not, passes_iff, ← Bool.not_eq_true]
  rfl

/-! ## Bytes -/

/-- The bytes that stand for the characters of a name. -/
def isNameByte (byte : UInt8) : Bool :=
  0x21 ≤ byte && byte ≤ 0x7e && !(utf8 "()<>@,;:\\\"/[]?=\x7b\x7d").contains byte

def isOctetByte (byte : UInt8) : Bool :=
  byte = 0x21 || (0x23 ≤ byte && byte ≤ 0x2b) || (0x2d ≤ byte && byte ≤ 0x3a) ||
    (0x3c ≤ byte && byte ≤ 0x5b) || (0x5d ≤ byte && byte ≤ 0x7e)

/-- The bytes that stand for the characters of a path or a domain: ASCII apart from the control
characters and the semicolon. -/
def isAttributeByte (byte : UInt8) : Bool :=
  !(byte < 0x20 || byte = 0x7f) && byte ≠ 0x3b && byte < 0x80

/-- A text without a quote at its start and one at its end, if both are there. -/
def unquoted (text : String) : String :=
  String.ofList <| ((text.toList.dropPrefix? ['"']).bind (·.dropSuffix? ['"'])).getD text.toList

/-- The first part that keeps a cookie from being stored, looked for byte by byte. -/
def byteFault? (cookie : Cookie) : Option CookiePart :=
  if cookie.name.isEmpty || !(utf8 cookie.name).all isNameByte then some .name
  else if !(utf8 (unquoted cookie.value)).all isOctetByte then some .value
  else if cookie.path.any fun path => !(utf8 path).all isAttributeByte then some .path
  else if cookie.domain.any fun domain => !(utf8 domain).all isAttributeByte then some .domain
  else none

/-- A character is encoded in bytes of a class of ASCII bytes if and only if it is the ASCII
character of one of them. -/
theorem all_utf8EncodeChar_iff {class? : UInt8 → Bool}
    (hclass : ∀ byte, class? byte = true → byte.toNat < 0x80) (c : Char) :
    (String.utf8EncodeChar c).all class? = true ↔
      c.toNat < 0x80 ∧ class? (UInt8.ofNat c.toNat) = true := by
  by_cases hc : c.toNat < 0x80
  · simp [utf8EncodeChar_of_ascii hc, hc]
  · simp only [hc, false_and, iff_false]
    intro hall
    obtain ⟨byte, hbyte⟩ := List.exists_mem_of_ne_nil _ (String.utf8EncodeChar_ne_nil (c := c))
    have hlt := hclass byte (List.all_eq_true.mp hall byte hbyte)
    rcases mem_utf8EncodeChar hbyte with hsame | hhigh <;> omega

/-- The bytes of a text are of an ASCII class if and only if its characters are. -/
theorem all_utf8_iff {class? : UInt8 → Bool} {p : Char → Prop}
    (hclass : ∀ byte, class? byte = true → byte.toNat < 0x80) (hp : ∀ c, p c → c.toNat < 0x80)
    (hascii : ∀ n < 0x80, class? (UInt8.ofNat (Char.ofNat n).toNat) = true ↔ p (Char.ofNat n))
    (text : String) : (utf8 text).all class? = true ↔ ∀ c ∈ text.toList, p c := by
  have hchar : ∀ c : Char, (c.toNat < 0x80 ∧ class? (UInt8.ofNat c.toNat) = true) ↔ p c := by
    refine class_iff_of_ascii _ p (fun n hn => ?_) (fun c h => h.1) hp
    rw [← hascii n hn]
    exact ⟨fun h => h.2, fun h => ⟨hp _ ((hascii n hn).mp h), h⟩⟩
  rw [utf8_eq_flatMap, List.all_flatMap, List.all_eq_true]
  simp only [all_utf8EncodeChar_iff hclass, hchar]

theorem isCookieName_eq_bytes (name : String) :
    isCookieName name = !(name.isEmpty || !(utf8 name).all isNameByte) := by
  have hbytes : (utf8 name).all isNameByte = true ↔ ∀ c ∈ name.toList, IsNameChar c := by
    refine all_utf8_iff (fun byte h => ?_) (fun c h => ?_) (by decide +kernel) name
    · simp only [isNameByte, Bool.and_eq_true, decide_eq_true_eq, UInt8.le_iff_toNat_le] at h
      exact Nat.lt_of_le_of_lt h.1.2 (by decide)
    · exact Nat.lt_of_le_of_lt h.2.1 (by decide)
  rw [Bool.eq_iff_iff, isCookieName_iff]
  simp [hbytes]

theorem isAttributeValue_eq_bytes (value : String) :
    isAttributeValue value = (utf8 value).all isAttributeByte := by
  have hbytes : (utf8 value).all isAttributeByte = true ↔
      ∀ c ∈ value.toList, IsAttributeChar c := by
    refine all_utf8_iff (fun byte h => ?_) (fun c h => ?_) (by decide +kernel) value
    · simp only [isAttributeByte, Bool.and_eq_true, decide_eq_true_eq, UInt8.lt_iff_toNat_lt] at h
      exact h.2
    · exact Nat.lt_of_le_of_lt h.2.1 (by decide)
  rw [Bool.eq_iff_iff, isAttributeValue_iff, hbytes]

theorem unquoted_eq (text : String) :
    unquoted text = String.ofList (withoutQuotes text.toList) := by
  unfold unquoted withoutQuotes
  congr 1
  split
  · rename_i rest htext
    have hstart : ('"' :: rest).dropPrefix? ['"'] = some rest := by simp [List.dropPrefix?]
    rw [htext, hstart, Option.bind_some]
    split
    · rename_i hlast
      obtain ⟨inner, rfl⟩ := List.getLast?_eq_some_iff.mp hlast
      have hend : (inner ++ ['"']).dropSuffix? ['"'] = some inner :=
        List.dropSuffix?_eq_some_iff.mpr ⟨_, rfl, by decide⟩
      rw [hend, Option.getD_some, List.dropLast_concat]
    · rename_i hlast
      have hend : rest.dropSuffix? ['"'] = none := by
        rw [Option.eq_none_iff_forall_ne_some]
        intro inner hdrop
        obtain ⟨quote, rfl, hquote⟩ := List.dropSuffix?_eq_some_iff.mp hdrop
        rw [beq_iff_eq.mp hquote] at hlast
        exact hlast (List.getLast?_concat)
      rw [hend, Option.getD_none]
  · rename_i htext
    have hstart : text.toList.dropPrefix? ['"'] = none := by
      rw [Option.eq_none_iff_forall_ne_some]
      intro rest hdrop
      obtain ⟨quote, hchars, hquote⟩ := List.dropPrefix?_eq_some_iff.mp hdrop
      rw [beq_iff_eq.mp hquote] at hchars
      exact htext rest hchars
    rw [hstart, Option.bind_none, Option.getD_none]

theorem isCookieValue_eq_bytes (value : String) :
    isCookieValue value = (utf8 (unquoted value)).all isOctetByte := by
  have hbytes : ∀ text : String,
      (utf8 text).all isOctetByte = true ↔ ∀ c ∈ text.toList, IsOctet c := by
    refine all_utf8_iff (fun byte h => ?_) (fun c h => ?_) (by decide +kernel)
    · simp only [isOctetByte, Bool.or_eq_true, Bool.and_eq_true, decide_eq_true_eq,
        UInt8.le_iff_toNat_le, ← UInt8.toNat_inj, UInt8.reduceToNat] at h
      omega
    · unfold IsOctet at h
      omega
  rw [Bool.eq_iff_iff, hbytes, unquoted_eq, String.toList_ofList, isCookieValue, List.all_eq_true]
  simp only [isCookieOctet_iff]

/-- Looking for a fault byte by byte finds the same. -/
theorem storeFault?_eq_byteFault? (cookie : Cookie) : storeFault? cookie = byteFault? cookie := by
  unfold storeFault? scopeFault? byteFault?
  simp only [isCookieName_eq_bytes, isCookieValue_eq_bytes, isAttributeValue_eq_bytes, Bool.not_not]

/-! ## Storing -/

/-- **Cookies are checked against their grammar.** A cookie can be stored if and only if each of its
parts is grammatical; otherwise the refusal names the cookie and its first part that is not. The
check finds the same whether it goes through characters or through bytes. -/
theorem storeCookie_checks_grammar (cookie : Cookie) :
    ((∃ text, storeCookie cookie = .ok text) ↔ ∀ part, cookie.Grammatical part) ∧
      (∀ refusal, storeCookie cookie = .error refusal ↔
        ∃ part, refusal = .cookie cookie.name part ∧ IsFirstFault cookie part) ∧
      storeFault? cookie = byteFault? cookie := by
  refine ⟨?_, fun refusal => ?_, storeFault?_eq_byteFault? cookie⟩
  · simp only [storeCookie_eq_ok_iff, exists_and_left, exists_eq, and_true,
      storeFault?_eq_none_iff_grammatical]
  · simp only [← storeFault?_eq_some_iff]
    rw [Draft.storeCookie_eq]
    cases storeFault? cookie with
    | none => simp
    | some part => simp [eq_comm]

/-- A lone quote is no value, two quotes are an empty one. -/
example : storeFault? { name := "a", value := "\"" } = some .value ∧
    storeFault? { name := "a", value := "\"\"" } = none := by decide

end Http

end DeferredResponse
