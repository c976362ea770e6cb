import DeferredResponse.Proofs.Http.Perform
import Mathlib.Data.List.Basic
import Std.Data.String.ToInt

/-!
# Cookie headers read back

The value of a `Set-Cookie` header is read the way a client reads it (`readCookie`): it is split at
its semicolons, the name ends at the first equals sign of the first part, and each other part is an
attribute behind a space. Reading what was written for an accepted cookie gives the cookie back.

1. What is written is a pair and a list of attributes (`storeAttributes_eq`, `dropAttributes_eq`).
2. The checked texts hold no semicolon, and a name no equals sign, so the split finds just the parts
   that were written (`headerParts_cookieText`).
3. Attributes are told apart by how they start, so each field is read from the part that was written
   for it (`readCookie_eq`).
-/

namespace DeferredResponse

/-! ## Attributes -/

/-- What a header says about a cookie beside its name and value. -/
inductive CookieAttribute where
  | maxAge (seconds : Int64)
  | expires (date : String)
  | path (value : String)
  | domain (value : String)
  | secure
  | httpOnly
  deriving DecidableEq

namespace CookieAttribute

def text : CookieAttribute → String
  | maxAge seconds => "Max-Age=" ++ toString seconds.toInt
  | expires date => "Expires=" ++ date
  | path value => "Path=" ++ value
  | domain value => "Domain=" ++ value
  | secure => "Secure"
  | httpOnly => "HttpOnly"

/-- Attributes of different kinds start differently, and the decimal digits tell two ages apart. -/
theorem text_injective {first second : CookieAttribute} (h : first.text = second.text) :
    first = second := by
  rw [← String.toList_inj] at h
  cases first <;> cases second <;> simp [text, String.toList_inj] at h ⊢
  case maxAge.maxAge => exact Int64.toInt_inj.mp h
  all_goals exact h

end CookieAttribute

namespace Cookie

/-- Whether a cookie asks for an attribute. -/
def Carries (cookie : Cookie) : CookieAttribute → Prop
  | .maxAge seconds => cookie.maxAge = some seconds
  | .expires _ => False
  | .path value => cookie.path = some value
  | .domain value => cookie.domain = some value
  | .secure => cookie.secure = true
  | .httpOnly => cookie.httpOnly = true

/-- The attributes that say where a cookie belongs, in the order of a header. -/
def scope (cookie : Cookie) : List CookieAttribute :=
  cookie.path.toList.map .path ++ cookie.domain.toList.map .domain ++
    (if cookie.secure then [.secure] else []) ++ (if cookie.httpOnly then [.httpOnly] else [])

/-- The attributes that a cookie carries, in the order of a header. -/
def attributes (cookie : Cookie) : List CookieAttribute :=
  cookie.maxAge.toList.map .maxAge ++ cookie.scope

theorem mem_attributes_iff (cookie : Cookie) (item : CookieAttribute) :
    item ∈ cookie.attributes ↔ cookie.Carries item := by
  cases item <;> simp [attributes, scope, Carries]

theorem length_attributes (cookie : Cookie) :
    cookie.attributes.length = cookie.maxAge.toList.length + cookie.path.toList.length +
      cookie.domain.toList.length + cookie.secure.toNat + cookie.httpOnly.toNat := by
  cases hsecure : cookie.secure <;> cases hhttpOnly : cookie.httpOnly <;>
    simp [attributes, scope, hsecure, hhttpOnly] <;> omega

end Cookie

namespace Http

theorem scopeAttributes_eq (cookie : Cookie) :
    scopeAttributes cookie = cookie.scope.map CookieAttribute.text := by
  have hpath : (CookieAttribute.text ∘ .path) = ("Path=" ++ ·) := rfl
  have hdomain : (CookieAttribute.text ∘ .domain) = ("Domain=" ++ ·) := rfl
  cases hsecure : cookie.secure <;> cases hhttpOnly : cookie.httpOnly <;>
    simp [scopeAttributes, Cookie.scope, hsecure, hhttpOnly, hpath, hdomain, CookieAttribute.text]

theorem storeAttributes_eq (cookie : Cookie) :
    storeAttributes cookie = cookie.attributes.map CookieAttribute.text := by
  rw [storeAttributes, scopeAttributes_eq, Cookie.attributes, List.map_append, List.map_map]
  rfl

theorem dropAttributes_eq (cookie : Cookie) :
    dropAttributes cookie =
      (.maxAge 0 :: .expires epochText :: cookie.scope : List CookieAttribute).map
        CookieAttribute.text := by
  rw [dropAttributes, dateText?_epoch, scopeAttributes_eq]
  rfl

/-! ## Texts without separators -/

theorem not_mem_of_isCookieName {name : String} (h : isCookieName name = true) {c : Char}
    (hc : isCookieNameChar c = false) : c ∉ name.toList := by
  intro hmem
  have hall := List.all_eq_true.mp (Bool.and_eq_true_iff.mp h).2 c hmem
  rw [hc] at hall
  cases hall

theorem semicolon_not_mem_of_isCookieValue {value : String} (h : isCookieValue value = true) :
    ';' ∉ value.toList := by
  intro hmem
  rcases mem_withoutQuotes hmem with hquote | hinner
  · revert hquote
    decide
  · exact absurd (List.all_eq_true.mp h ';' hinner) (by decide)

theorem semicolon_not_mem_of_isAttributeValue {value : String}
    (h : isAttributeValue value = true) : ';' ∉ value.toList := by
  intro hmem
  exact absurd (List.all_eq_true.mp h ';' hmem) (by decide)

theorem semicolon_not_mem_int (n : Int) : ';' ∉ (toString n).toList := by
  have hnat : ∀ n : Nat, ';' ∉ (toString n).toList := by
    intro n hmem
    rw [Nat.toString_eq_ofList_toDigits, String.toList_ofList] at hmem
    exact absurd (Nat.isDigit_of_mem_toDigits (by decide) (by decide) hmem) (by decide)
  cases n with
  | ofNat n => exact hnat n
  | negSucc n =>
    show ';' ∉ ("-" ++ toString (n + 1)).toList
    rw [String.toList_append, List.mem_append, not_or]
    exact ⟨by decide, hnat (n + 1)⟩

theorem semicolon_not_mem_maxAge (seconds : Int64) :
    ';' ∉ (CookieAttribute.maxAge seconds).text.toList := by
  rw [CookieAttribute.text, String.toList_append, List.mem_append, not_or]
  exact ⟨by decide, semicolon_not_mem_int seconds.toInt⟩

theorem storeCookie_eq_ok_iff {cookie : Cookie} {text : String} :
    storeCookie cookie = .ok text ↔ storeFault? cookie = none ∧ text = storeText cookie := by
  rw [Draft.storeCookie_eq]
  cases storeFault? cookie <;> simp [eq_comm]

theorem dropCookie_eq_ok_iff {cookie : Cookie} {text : String} :
    dropCookie cookie = .ok text ↔ dropFault? cookie = none ∧ text = dropText cookie := by
  rw [Draft.dropCookie_eq]
  cases dropFault? cookie <;> simp [eq_comm]

/-- The checks keep semicolons out of the attributes. -/
theorem semicolon_not_mem_of_mem_scope {cookie : Cookie} (h : scopeFault? cookie = none)
    {item : CookieAttribute} (hmem : item ∈ cookie.scope) : ';' ∉ item.text.toList := by
  obtain ⟨hpath, hdomain⟩ := (scopeFault?_eq_none_iff cookie).mp h
  cases item with
  | maxAge seconds => simp [Cookie.scope] at hmem
  | expires date => simp [Cookie.scope] at hmem
  | path value =>
    have hvalue : cookie.path = some value := by simpa [Cookie.scope] using hmem
    rw [CookieAttribute.text, String.toList_append, List.mem_append, not_or]
    exact ⟨by decide, semicolon_not_mem_of_isAttributeValue (hpath value hvalue)⟩
  | domain value =>
    have hvalue : cookie.domain = some value := by simpa [Cookie.scope] using hmem
    rw [CookieAttribute.text, String.toList_append, List.mem_append, not_or]
    exact ⟨by decide, semicolon_not_mem_of_isAttributeValue (hdomain value hvalue)⟩
  | secure => decide
  | httpOnly => decide

/-! ## Parts -/

/-- The parts of a header value between its semicolons. -/
def headerParts (text : String) : List String := (text.toList.splitOn ';').map String.ofList

theorem headerParts_eq_singleton {text : String} (h : ';' ∉ text.toList) :
    headerParts text = [text] := by
  rw [headerParts, List.splitOn_eq_singleton h, List.map_singleton, String.ofList_toList]

theorem headerParts_append {text part : String} (h : ';' ∉ part.toList) :
    headerParts (text ++ "; " ++ part) = headerParts text ++ [" " ++ part] := by
  have hlist : (text ++ "; " ++ part).toList = text.toList ++ ';' :: ' ' :: part.toList := by
    simp
  have hpart : ';' ∉ ' ' :: part.toList := by simpa using h
  unfold headerParts
  rw [hlist, List.splitOn_append_cons_self, List.splitOn_eq_singleton hpart, List.map_append,
    List.map_singleton]
  congr 2
  rw [← String.toList_inj]
  simp

/-- What is written splits into the pair and the attributes, each behind a space. -/
theorem headerParts_cookieText {name value : String} {attributes : List String}
    (hname : ';' ∉ name.toList) (hvalue : ';' ∉ value.toList)
    (hattributes : ∀ part ∈ attributes, ';' ∉ part.toList) :
    headerParts (cookieText name value attributes) =
      (name ++ "=" ++ value) :: attributes.map (" " ++ ·) := by
  have hpair : headerParts (name ++ "=" ++ value) = [name ++ "=" ++ value] := by
    apply headerParts_eq_singleton
    simp [hname, hvalue]
  rw [cookieText, ← List.singleton_append, ← hpair]
  generalize name ++ "=" ++ value = text
  -- Along the fold: each attribute adds one part at the end.
  induction attributes generalizing text with
  | nil => simp
  | cons part rest ih =>
    rw [List.foldl_cons, ih fun p hp => hattributes p (List.mem_cons_of_mem _ hp),
      headerParts_append (hattributes part List.mem_cons_self), List.append_assoc, List.map_cons,
      List.singleton_append]

/-- What is written for an accepted cookie splits into its pair and its attributes. -/
theorem headerParts_storeText {cookie : Cookie} (h : storeFault? cookie = none) :
    headerParts (storeText cookie) =
      (cookie.name ++ "=" ++ cookie.value) :: cookie.attributes.map (" " ++ ·.text) := by
  obtain ⟨hname, hvalue, hscope⟩ := (storeFault?_eq_none_iff cookie).mp h
  rw [storeText, storeAttributes_eq, headerParts_cookieText, List.map_map]
  · rfl
  · exact not_mem_of_isCookieName hname (by decide)
  · exact semicolon_not_mem_of_isCookieValue hvalue
  · rw [List.forall_mem_map]
    intro item hmem
    rcases List.mem_append.mp hmem with hage | hmem
    · obtain ⟨seconds, -, rfl⟩ := List.mem_map.mp hage
      exact semicolon_not_mem_maxAge seconds
    · exact semicolon_not_mem_of_mem_scope hscope hmem

theorem headerParts_dropText {cookie : Cookie} (h : dropFault? cookie = none) :
    headerParts (dropText cookie) =
      (cookie.name ++ "=" ++ "") ::
        (.maxAge 0 :: .expires epochText :: cookie.scope).map fun item : CookieAttribute =>
          " " ++ item.text := by
  obtain ⟨hname, hscope⟩ := (dropFault?_eq_none_iff cookie).mp h
  rw [dropText, dropAttributes_eq, headerParts_cookieText, List.map_map]
  · rfl
  · exact not_mem_of_isCookieName hname (by decide)
  · decide
  · rw [List.forall_mem_map]
    intro item hmem
    rcases List.mem_cons.mp hmem with rfl | hmem
    · exact semicolon_not_mem_maxAge 0
    · rcases List.mem_cons.mp hmem with rfl | hmem
      · decide
      · exact semicolon_not_mem_of_mem_scope hscope hmem

/-! ## Reading -/

/-- The text that follows a space and a key in a part of a header value. -/
def textAfter? (key part : String) : Option String :=
  (part.toList.dropPrefix? (' ' :: key.toList)).map String.ofList

def maxAgeIn? (part : String) : Option Int64 :=
  (textAfter? "Max-Age=" part).bind fun digits => digits.toInt?.map Int64.ofInt

/-- What a client reads in the value of a `Set-Cookie` header: in the first part a name in front of
the first equals sign and a value behind it, in each other part an attribute behind a space. -/
def readCookie (text : String) : Cookie :=
  let pair := (headerParts text).headD ""
  let parts := (headerParts text).tail
  { name := String.ofList (pair.toList.takeWhile (· ≠ '='))
    value := String.ofList ((pair.toList.dropWhile (· ≠ '=')).drop 1)
    path := parts.findSome? (textAfter? "Path=")
    domain := parts.findSome? (textAfter? "Domain=")
    maxAge := parts.findSome? maxAgeIn?
    secure := parts.contains " Secure"
    httpOnly := parts.contains " HttpOnly" }

theorem textAfter?_eq_some_iff {key part value : String} :
    textAfter? key part = some value ↔ part = " " ++ key ++ value := by
  unfold textAfter?
  rw [Option.map_eq_some_iff]
  constructor
  · rintro ⟨chars, hdrop, rfl⟩
    obtain ⟨start, hpart, hstart⟩ := List.dropPrefix?_eq_some_iff.mp hdrop
    rw [beq_iff_eq] at hstart
    rw [← String.toList_inj, hpart, hstart]
    simp
  · rintro rfl
    refine ⟨value.toList, ?_, String.ofList_toList⟩
    rw [String.toList_append, String.toList_append]
    exact List.dropPrefix?_append_of_beq _ (beq_self_eq_true _)

/-- The parts that hold a key are the attributes that are written with it. -/
theorem textAfter?_text (key : String) (make : String → CookieAttribute)
    (hmake : ∀ value, (make value).text = key ++ value) (item : CookieAttribute) (value : String) :
    textAfter? key (" " ++ item.text) = some value ↔ item = make value := by
  rw [textAfter?_eq_some_iff, String.append_assoc, ← hmake, String.append_right_inj]
  exact ⟨CookieAttribute.text_injective, fun h => h ▸ rfl⟩

theorem maxAgeIn?_maxAge (seconds : Int64) :
    maxAgeIn? (" " ++ (CookieAttribute.maxAge seconds).text) = some seconds := by
  have hafter : textAfter? "Max-Age=" (" " ++ (CookieAttribute.maxAge seconds).text) =
      some (toString seconds.toInt) := by
    rw [textAfter?_eq_some_iff, CookieAttribute.text, ← String.append_assoc]
  rw [maxAgeIn?, hafter, Option.bind_some, Int.toString_eq_repr, Int.toInt?_repr, Option.map_some,
    Int64.ofInt_toInt]

theorem maxAgeIn?_text (item : CookieAttribute) (seconds : Int64) :
    maxAgeIn? (" " ++ item.text) = some seconds ↔ item = .maxAge seconds := by
  constructor
  · intro h
    obtain ⟨digits, hkey, -⟩ := Option.bind_eq_some_iff.mp h
    rw [textAfter?_eq_some_iff, ← String.toList_inj] at hkey
    cases item with
    | maxAge age =>
      rw [maxAgeIn?_maxAge] at h
      rw [Option.some.inj h]
    | _ => simp [CookieAttribute.text] at hkey
  · rintro rfl
    exact maxAgeIn?_maxAge seconds

/-- A field is read from the one part that was written for it. -/
theorem findSome?_map_text {α : Type} {read? : String → Option α} {items : List CookieAttribute}
    {field? : Option α}
    (h : ∀ value, (∃ item ∈ items, read? (" " ++ item.text) = some value) ↔ field? = some value) :
    (items.map (" " ++ ·.text)).findSome? read? = field? := by
  cases hread : (items.map (" " ++ ·.text)).findSome? read? with
  | none =>
    cases field? with
    | none => rfl
    | some value =>
      obtain ⟨item, hmem, hvalue⟩ := (h value).mpr rfl
      have hnone := List.findSome?_eq_none_iff.mp hread _ (List.mem_map_of_mem hmem)
      rw [hnone] at hvalue
      cases hvalue
  | some value =>
    obtain ⟨part, hpart, hvalue⟩ := List.exists_of_findSome?_eq_some hread
    obtain ⟨item, hmem, rfl⟩ := List.mem_map.mp hpart
    exact ((h value).mp ⟨item, hmem, hvalue⟩).symm

theorem mem_map_text_iff {items : List CookieAttribute} (item : CookieAttribute) :
    " " ++ item.text ∈ items.map (" " ++ ·.text) ↔ item ∈ items := by
  rw [List.mem_map]
  constructor
  · rintro ⟨other, hmem, htext⟩
    rwa [← CookieAttribute.text_injective ((String.append_right_inj " ").mp htext)]
  · exact fun hmem => ⟨item, hmem, rfl⟩

/-- A header value is read as the cookie whose name, value and attributes were written; the date of
its end is passed over. -/
theorem readCookie_eq {text : String} {cookie : Cookie} {items : List CookieAttribute}
    (hparts : headerParts text =
      (cookie.name ++ "=" ++ cookie.value) :: items.map (" " ++ ·.text))
    (hname : '=' ∉ cookie.name.toList)
    (hitems : ∀ item, (∀ date, item ≠ .expires date) → (item ∈ items ↔ cookie.Carries item)) :
    readCookie text = cookie := by
  have hpair : (cookie.name ++ "=" ++ cookie.value).toList =
      cookie.name.toList ++ '=' :: cookie.value.toList := by
    simp
  have hbefore : ∀ c ∈ cookie.name.toList, decide (c ≠ '=') = true := by
    intro c hc
    exact decide_eq_true (ne_of_mem_of_not_mem hc hname)
  unfold readCookie
  rw [hparts]
  dsimp only [List.headD_cons, List.tail_cons]
  rw [hpair, List.takeWhile_append_of_pos hbefore, List.dropWhile_append_of_pos hbefore]
  rw [Cookie.mk.injEq]
  refine ⟨by simp, by simp, ?_, ?_, ?_, ?_, ?_⟩
  · apply findSome?_map_text
    intro value
    simp only [textAfter?_text "Path=" .path (fun _ => rfl), exists_eq_right]
    exact hitems (.path value) (by simp)
  · apply findSome?_map_text
    intro value
    simp only [textAfter?_text "Domain=" .domain (fun _ => rfl), exists_eq_right]
    exact hitems (.domain value) (by simp)
  · apply findSome?_map_text
    intro value
    simp only [maxAgeIn?_text, exists_eq_right]
    exact hitems (.maxAge value) (by simp)
  · rw [Bool.eq_iff_iff, List.contains_iff_mem]
    exact (mem_map_text_iff .secure).trans (hitems .secure (by simp))
  · rw [Bool.eq_iff_iff, List.contains_iff_mem]
    exact (mem_map_text_iff .httpOnly).trans (hitems .httpOnly (by simp))

/-! ## Stored cookies -/

/-- How a client finds a cookie in the header value that stores it. -/
structure IsHeaderOf (text : String) (cookie : Cookie) : Prop where
  /-- The parts are the pair of name and value and, each behind one space, the attributes in their
  order. -/
  parts_eq : headerParts text =
    (cookie.name ++ "=" ++ cookie.value) :: cookie.attributes.map (" " ++ ·.text)
  /-- The name ends at the first equals sign. -/
  equals_not_mem : '=' ∉ cookie.name.toList
  /-- An attribute stands in the header if and only if the cookie carries it. -/
  mem_parts_iff : ∀ item : CookieAttribute,
    " " ++ item.text ∈ (headerParts text).tail ↔ cookie.Carries item
  length_eq : (headerParts text).length =
    1 + (cookie.maxAge.toList.length + cookie.path.toList.length + cookie.domain.toList.length +
      cookie.secure.toNat + cookie.httpOnly.toNat)
  read_eq : readCookie text = cookie

theorem isHeaderOf_of_storeCookie {cookie : Cookie} {text : String}
    (h : storeCookie cookie = .ok text) : IsHeaderOf text cookie := by
  obtain ⟨hfault, rfl⟩ := storeCookie_eq_ok_iff.mp h
  have hparts := headerParts_storeText hfault
  have hname : '=' ∉ cookie.name.toList :=
    not_mem_of_isCookieName ((storeFault?_eq_none_iff cookie).mp hfault).1 (by decide)
  refine ⟨hparts, hname, fun item => ?_, ?_, ?_⟩
  · rw [hparts, List.tail_cons, mem_map_text_iff]
    exact cookie.mem_attributes_iff item
  · rw [hparts, List.length_cons, List.length_map, cookie.length_attributes, Nat.add_comm]
  · exact readCookie_eq hparts hname fun item _ => cookie.mem_attributes_iff item

/-- **Cookie headers are unambiguous.** Cookies that are stored by the same header value are the
same cookie. The header value splits into just the parts that its cookie calls for, so no text of a
field can end its part, start another one or change one. -/
theorem storeCookie_unambiguous :
    (∀ (first second : Cookie) (text : String), storeCookie first = .ok text →
      storeCookie second = .ok text → first = second) ∧
      ∀ (cookie : Cookie) (text : String), storeCookie cookie = .ok text →
        IsHeaderOf text cookie := by
  refine ⟨fun first second text hfirst hsecond => ?_, fun cookie text => isHeaderOf_of_storeCookie⟩
  calc first = readCookie text := (isHeaderOf_of_storeCookie hfirst).read_eq.symm
    _ = second := (isHeaderOf_of_storeCookie hsecond).read_eq

/-- The path of this cookie looks like further attributes, its value like another pair; no other
cookie has its header value. -/
theorem lookalike_path_is_read_back :
    ∃ (cookie : Cookie) (text : String), storeCookie cookie = .ok text ∧ IsHeaderOf text cookie ∧
      cookie.path = some "/ Secure, Domain=x" ∧ cookie.secure = false ∧
        ∀ other : Cookie, storeCookie other = .ok text → other = cookie := by
  let cookie : Cookie := {
    name := "sid", value := "\"a=b=\"", path := some "/ Secure, Domain=x", domain := some ""
    maxAge := some (-9223372036854775808), httpOnly := true }
  have hstore : storeCookie cookie = .ok (storeText cookie) :=
    storeCookie_eq_ok_iff.mpr ⟨by decide, rfl⟩
  exact ⟨cookie, storeText cookie, hstore, storeCookie_unambiguous.2 cookie _ hstore, rfl, rfl,
    fun other hother => storeCookie_unambiguous.1 other cookie _ hother hstore⟩

end Http

end DeferredResponse
