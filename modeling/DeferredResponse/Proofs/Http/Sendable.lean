import DeferredResponse.Proofs.Http.Stages

/-!
# Heads that can be sent

Whatever strings a handler passes to a draft, its status and headers can be written out as they are
without one header ending another or the head. `Headers.Sendable` says what this takes of the
headers, and `Draft.Sendable` adds the status.

1. Names are kept in lower case (`isKeptName_canonicalName`), and the characters of a value bound
   its bytes (`isValueByte_of_mem_utf8`): no byte of a character beyond ASCII looks like a control
   character.
2. Each change of the headers keeps them sendable (`Headers.Sendable.insert`, `append`, `erase`).
3. So does every accepted call (`Sendable.apply`), since its arguments were checked, and so any run
   (`head_cannot_be_split`).
-/

namespace DeferredResponse.Http

open Operation

/-! ## Names -/

/-- The form of the names that are kept: tokens in lower case. -/
def IsKeptName (name : String) : Prop :=
  name ≠ "" ∧ ∀ c ∈ name.toList, isTokenChar c = true ∧ c.isUpper = false

/-- Lower case turns the 26 letters that are in upper case into letters that are not. -/
theorem isKept_toLower {c : Char} (h : isTokenChar c = true) :
    isTokenChar c.toLower = true ∧ c.toLower.isUpper = false := by
  by_cases hupper : c.val ≥ 'A'.val ∧ c.val ≤ 'Z'.val
  · have hletters : ∀ n < 91, 65 ≤ n → isTokenChar (Char.ofNat n).toLower = true ∧
        (Char.ofNat n).toLower.isUpper = false := by decide
    have hletter := hletters c.toNat (Nat.lt_succ_of_le hupper.2) hupper.1
    rwa [Char.ofNat_toNat] at hletter
  · have hsame : c.toLower = c := dif_neg hupper
    rw [hsame]
    exact ⟨h, decide_eq_false hupper⟩

theorem isKeptName_canonicalName {name : String} (h : isFieldName name = true) :
    IsKeptName (canonicalName name) := by
  unfold isFieldName at h
  simp only [Bool.and_eq_true, Bool.not_eq_true', List.all_eq_true] at h
  obtain ⟨⟨hne, hchars⟩, -⟩ := h
  unfold canonicalName
  constructor
  · intro hempty
    have hnil : name.toList = [] := by simpa using congrArg String.toList hempty
    rw [hnil] at hne
    cases hne
  · intro c hc
    rw [String.toList_ofList] at hc
    obtain ⟨d, hd, rfl⟩ := List.mem_map.mp hc
    exact isKept_toLower (hchars d hd)

/-- The names that the response itself sets are in their kept form. -/
theorem isKeptName_of_mem {name : String}
    (h : name ∈ [setCookie, contentLength, contentType, location]) : IsKeptName name := by
  have hown : ∀ own ∈ [setCookie, contentLength, contentType, location],
      isFieldName own = true ∧ canonicalName own = own := by decide
  obtain ⟨hname, hkept⟩ := hown name h
  rw [← hkept]
  exact isKeptName_canonicalName hname

/-! ## Values -/

/-- Whether a byte may stand in a header value: a tab, or no ASCII control character. -/
def isValueByte (byte : UInt8) : Bool := byte = 9 || (0x20 ≤ byte && byte ≠ 0x7f)

theorem utf8EncodeChar_of_ascii {c : Char} (h : c.toNat < 0x80) :
    String.utf8EncodeChar c = [UInt8.ofNat c.toNat] := by
  have hval : c.val.toNat ≤ 127 := Nat.le_of_lt_succ h
  rw [String.utf8EncodeChar, if_pos hval]
  rfl

/-- A text of ASCII characters has a byte for each of them. -/
theorem length_utf8_of_ascii {text : String} (h : ∀ c ∈ text.toList, c.toNat < 0x80) :
    (utf8 text).length = text.toList.length := by
  have hone : ∀ c ∈ text.toList, (String.utf8EncodeChar c).length = 1 := by
    intro c hc
    rw [utf8EncodeChar_of_ascii (h c hc), List.length_singleton]
  rw [utf8_eq_flatMap, List.length_flatMap, List.map_congr_left hone, List.map_const',
    List.sum_replicate_nat, Nat.mul_one]

/-- An ASCII character is one byte, its number; the bytes of any other character are not ASCII. -/
theorem mem_utf8EncodeChar {c : Char} {byte : UInt8} (h : byte ∈ String.utf8EncodeChar c) :
    byte.toNat = c.toNat ∨ 0x80 ≤ byte.toNat := by
  have hval : c.val.toNat = c.toNat := rfl
  unfold String.utf8EncodeChar at h
  simp only [hval] at h
  split at h
  · left
    rw [List.mem_singleton.mp h, UInt8.toNat_ofNat']
    omega
  · right
    split at h
    · simp only [List.mem_cons, List.not_mem_nil, or_false] at h
      rcases h with rfl | rfl <;> rw [UInt8.toNat_ofNat'] <;> omega
    · split at h
      · simp only [List.mem_cons, List.not_mem_nil, or_false] at h
        rcases h with rfl | rfl | rfl <;> rw [UInt8.toNat_ofNat'] <;> omega
      · simp only [List.mem_cons, List.not_mem_nil, or_false] at h
        rcases h with rfl | rfl | rfl | rfl <;> rw [UInt8.toNat_ofNat'] <;> omega

theorem isValueByte_iff (byte : UInt8) :
    isValueByte byte = true ↔ byte.toNat = 9 ∨ 0x20 ≤ byte.toNat ∧ byte.toNat ≠ 0x7f := by
  unfold isValueByte
  simp only [Bool.or_eq_true, Bool.and_eq_true, decide_eq_true_eq, UInt8.le_iff_toNat_le, ne_eq,
    ← UInt8.toNat_inj]
  rfl

/-- The bytes of a header value are free of control characters. -/
theorem isValueByte_of_mem_utf8 {value : String} (h : isFieldValue value = true) {byte : UInt8}
    (hbyte : byte ∈ utf8 value) : isValueByte byte = true := by
  rw [utf8_eq_flatMap] at hbyte
  obtain ⟨c, hc, hbyte⟩ := List.mem_flatMap.mp hbyte
  have hchar : isValueChar c = true := List.all_eq_true.mp h c hc
  unfold isValueChar at hchar
  simp only [Bool.or_eq_true, Bool.and_eq_true, decide_eq_true_eq] at hchar
  rw [isValueByte_iff]
  rcases mem_utf8EncodeChar hbyte with hsame | hhigh
  · rw [hsame]
    rcases hchar with rfl | hchar
    · exact .inl rfl
    · exact .inr hchar
  · omega

/-! ## Headers -/

namespace Headers

/-- Every name is listed once, in its kept form, and with good values: several for the cookie header
and one for any other. -/
structure Sendable (headers : Headers) : Prop extends headers.WellFormed where
  isKeptName : ∀ field ∈ headers.fields, IsKeptName field.1
  length_eq : ∀ field ∈ headers.fields, field.1 ≠ setCookie → field.2.length = 1
  isFieldValue : ∀ field ∈ headers.fields, ∀ value ∈ field.2, isFieldValue value = true

namespace Sendable

theorem empty : Sendable {} where
  toWellFormed := .empty
  isKeptName := by simp
  length_eq := by simp
  isFieldValue := by simp

variable {headers : Headers}

theorem insert (h : headers.Sendable) {name value : String} (hname : IsKeptName name)
    (hvalue : Http.isFieldValue value = true) : (headers.insert name value).Sendable where
  toWellFormed := h.toWellFormed.insert name value
  isKeptName := by
    intro field hfield
    rcases mem_update hfield with hold | ⟨values, -, rfl⟩
    · exact h.isKeptName field hold
    · exact hname
  length_eq := by
    intro field hfield hother
    rcases mem_update hfield with hold | ⟨values, -, rfl⟩
    · exact h.length_eq field hold hother
    · rfl
  isFieldValue := by
    intro field hfield other hother
    rcases mem_update hfield with hold | ⟨values, -, rfl⟩
    · exact h.isFieldValue field hold other hother
    · rw [List.mem_singleton.mp hother]
      exact hvalue

/-- Only the cookie header gets further values. -/
theorem append (h : headers.Sendable) {value : String} (hvalue : Http.isFieldValue value = true) :
    (headers.append setCookie value).Sendable where
  toWellFormed := h.toWellFormed.append setCookie value
  isKeptName := by
    intro field hfield
    rcases mem_update hfield with hold | ⟨values, -, rfl⟩
    · exact h.isKeptName field hold
    · exact isKeptName_of_mem (by simp)
  length_eq := by
    intro field hfield hother
    rcases mem_update hfield with hold | ⟨values, -, rfl⟩
    · exact h.length_eq field hold hother
    · exact absurd rfl hother
  isFieldValue := by
    intro field hfield other hother
    rcases mem_update hfield with hold | ⟨values, hvalues, rfl⟩
    · exact h.isFieldValue field hold other hother
    · rcases List.mem_append.mp hother with hother | hother
      · rcases hvalues with hvalues | rfl
        · exact h.isFieldValue _ hvalues other hother
        · cases hother
      · rw [List.mem_singleton.mp hother]
        exact hvalue

theorem erase (h : headers.Sendable) (name : String) : (headers.erase name).Sendable where
  toWellFormed := h.toWellFormed.erase name
  isKeptName := fun field hfield => h.isKeptName field (List.mem_filter.mp hfield).1
  length_eq := fun field hfield => h.length_eq field (List.mem_filter.mp hfield).1
  isFieldValue := fun field hfield => h.isFieldValue field (List.mem_filter.mp hfield).1

end Sendable

end Headers

/-! ## Drafts -/

namespace Draft

/-- The status has three digits, and the headers can be sent. -/
structure Sendable (draft : Draft) : Prop where
  status_ge : 100 ≤ draft.status
  status_le : draft.status ≤ 999
  headers : draft.headers.Sendable

namespace Sendable

theorem empty : Sendable {} where
  status_ge := by decide
  status_le := by decide
  headers := .empty

variable {draft : Draft}

theorem withHeader (h : draft.Sendable) {name value : String} (hname : IsKeptName name)
    (hvalue : isFieldValue value = true) : (draft.withHeader name value).Sendable :=
  ⟨h.status_ge, h.status_le, h.headers.insert hname hvalue⟩

theorem withCookie (h : draft.Sendable) {value : String} (hvalue : isFieldValue value = true) :
    (draft.withCookie value).Sendable :=
  ⟨h.status_ge, h.status_le, h.headers.append hvalue⟩

theorem withStatus (h : draft.Sendable) {code : UInt16} (hcode : 100 ≤ code ∧ code ≤ 999) :
    Sendable { draft with status := code } :=
  ⟨hcode.1, hcode.2, h.headers⟩

theorem withError (h : draft.Sendable) {code : UInt16} (hcode : 100 ≤ code ∧ code ≤ 999)
    (message : String) : (draft.withError code message).Sendable :=
  ⟨hcode.1, hcode.2,
    (h.headers.erase contentLength).insert (isKeptName_of_mem (by simp)) (by decide)⟩

theorem withRedirect (h : draft.Sendable) {url : String} (hurl : isFieldValue url = true) :
    (draft.withRedirect url).Sendable :=
  ⟨(by decide : (100 : UInt16) ≤ 302), (by decide : (302 : UInt16) ≤ 999),
    (h.headers.insert (isKeptName_of_mem (by simp)) hurl).erase contentLength⟩

/-- A call with good arguments keeps the head sendable. -/
theorem apply (h : draft.Sendable) {call : Call} (hcall : argumentFault? call = none) :
    (draft.apply call).Sendable := by
  cases call with
  | addCookie cookie =>
    have hstore : storeCookie cookie = .ok (storeText cookie) := by
      rw [storeCookie_eq, Option.map_eq_none_iff.mp hcall]
    exact h.withCookie (isFieldValue_of_storeCookie hstore)
  | clearCookie cookie =>
    have hdrop : dropCookie cookie = .ok (dropText cookie) := by
      rw [dropCookie_eq, Option.map_eq_none_iff.mp hcall]
    exact h.withCookie (isFieldValue_of_dropCookie hdrop)
  | setHeader name value =>
    obtain ⟨hname, hvalue⟩ : isFieldName name = true ∧ isFieldValue value = true := by
      cases hname : isFieldName name <;> cases hvalue : isFieldValue value <;>
        simp [argumentFault?, hname, hvalue] at hcall ⊢
    exact h.withHeader (isKeptName_canonicalName hname) hvalue
  | setDateHeader name date =>
    obtain ⟨text, htext⟩ := exists_dateText?_of_argumentFault? hcall
    have hname : isFieldName name = true := by
      cases hname : isFieldName name <;> simp [argumentFault?, hname] at hcall ⊢
    show (draft.withHeader (canonicalName name) ((dateText? date).getD "")).Sendable
    rw [htext]
    exact h.withHeader (isKeptName_canonicalName hname) (isFieldValue_of_dateText? htext)
  | setContentLength length =>
    exact h.withHeader (isKeptName_of_mem (by simp)) (isFieldValue_nat length.toNat)
  | setContentType mime =>
    refine h.withHeader (isKeptName_of_mem (by simp)) ?_
    by_contra hmime
    simp [argumentFault?, hmime] at hcall
  | setStatus code =>
    refine h.withStatus ?_
    by_contra hcode
    simp [argumentFault?, hcode] at hcall
  | sendError code message =>
    refine h.withError ?_ message
    by_contra hcode
    simp [argumentFault?, hcode] at hcall
  | sendRedirect url =>
    refine h.withRedirect ?_
    by_contra hurl
    simp [argumentFault?, hurl] at hcall
  | flush =>
    show draft.sendHeaders.Sendable
    rw [sendHeaders_eq]
    exact ⟨h.status_ge, h.status_le, h.headers⟩
  | writeText | writeBytes | close => exact ⟨h.status_ge, h.status_le, h.headers⟩

end Sendable

/-- Every run from a new draft ends in one that can be sent. -/
theorem sendable_ofCalls (calls : List Call) : (ofCalls calls).Sendable := by
  refine attempt_induction Sendable.empty ?_ calls
  intro call state next hstate hcall
  obtain ⟨-, hfault, rfl⟩ := perform_eq_ok_iff.mp hcall
  exact hstate.apply hfault

/-- **No response splitting.** Whatever calls were made on a new draft, with whatever strings, and
whichever of them were refused: the status lies between 100 and 999; every header name is listed
once, is not empty, and consists of the characters of a token, none of them in upper case; every
header has a value, and only the cookie header has several; and no byte of a value is a control
character other than a tab. -/
theorem head_cannot_be_split (calls : List Call) :
    (100 ≤ (ofCalls calls).status ∧ (ofCalls calls).status ≤ 999) ∧
      (ofCalls calls).headers.names.Nodup ∧
      ∀ field ∈ (ofCalls calls).headers.fields,
        field.1 ≠ "" ∧ (∀ c ∈ field.1.toList, isTokenChar c = true ∧ c.isUpper = false) ∧
          field.2 ≠ [] ∧ (field.1 ≠ setCookie → field.2.length = 1) ∧
            ∀ value ∈ field.2, ∀ byte ∈ utf8 value,
              byte = 9 ∨ (0x20 ≤ byte ∧ byte ≠ 0x7f) := by
  have h := sendable_ofCalls calls
  refine ⟨⟨h.status_ge, h.status_le⟩, h.headers.nodup, ?_⟩
  intro field hfield
  obtain ⟨hne, hchars⟩ := h.headers.isKeptName field hfield
  refine ⟨hne, hchars, h.headers.ne_nil field hfield, h.headers.length_eq field hfield, ?_⟩
  intro value hvalue byte hbyte
  have hgood := isValueByte_of_mem_utf8 (h.headers.isFieldValue field hfield value hvalue) hbyte
  simpa [isValueByte] using hgood

/-- A value that would end its line is refused, and a name is kept in lower case. -/
example :
    (ofCalls [.setHeader "X-Name" "a\r\nSet-Cookie: b=c", .setHeader "X-Name" "a"]).headers.fields =
      [("x-name", ["a"])] := by
  decide

end Draft

end DeferredResponse.Http
