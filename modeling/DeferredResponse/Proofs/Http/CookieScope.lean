import DeferredResponse.Proofs.Http.CookieHeader

/-!
# Dropping a cookie where it was stored

A client drops a cookie only if the header speaks of the name and the scope with which the cookie
was stored. The two headers are put together apart from each other, but they end in the same text
(`storeText_eq`, `dropText_eq`), and the checks before them differ in the value only
(`dropFault?_eq_storeFault?`).
-/

namespace DeferredResponse.Http

/-- Attributes as they follow the pair of name and value. -/
def attributesText (items : List CookieAttribute) : String :=
  String.join (items.map ("; " ++ ·.text))

theorem attributesText_append (first second : List CookieAttribute) :
    attributesText (first ++ second) = attributesText first ++ attributesText second := by
  rw [attributesText, List.map_append, String.join_append]
  rfl

theorem cookieText_eq (name value : String) (items : List CookieAttribute) :
    cookieText name value (items.map CookieAttribute.text) =
      name ++ "=" ++ value ++ attributesText items := by
  rw [cookieText, attributesText]
  generalize name ++ "=" ++ value = text
  induction items generalizing text with
  | nil => simp
  | cons item rest ih =>
    rw [List.map_cons, List.foldl_cons, ih, List.map_cons, String.join_cons]
    simp only [String.append_assoc]

/-- A header value that stores a cookie ends in its scope. -/
theorem storeText_eq (cookie : Cookie) :
    storeText cookie =
      cookie.name ++ "=" ++ cookie.value ++ attributesText (cookie.maxAge.toList.map .maxAge) ++
        attributesText cookie.scope := by
  rw [storeText, storeAttributes_eq, cookieText_eq, Cookie.attributes, attributesText_append,
    ← String.append_assoc]

/-- So does a header value that drops it. -/
theorem dropText_eq (cookie : Cookie) :
    dropText cookie =
      cookie.name ++ "=; Max-Age=0; Expires=Thu, 01 Jan 1970 00:00:00 GMT" ++
        attributesText cookie.scope := by
  have hexpired : attributesText [.maxAge 0, .expires epochText] =
      "; Max-Age=0; Expires=Thu, 01 Jan 1970 00:00:00 GMT" := by decide
  rw [dropText, dropAttributes_eq, cookieText_eq]
  show _ ++ attributesText ([.maxAge 0, .expires epochText] ++ cookie.scope) = _
  rw [attributesText_append, hexpired, String.append_empty, ← String.append_assoc]
  congr 1
  rw [String.append_assoc]
  rfl

/-- A cookie without a value is checked the same way for both. -/
theorem dropFault?_eq_storeFault? (cookie : Cookie) :
    dropFault? cookie = storeFault? { cookie with value := "" } := by
  have hempty : isCookieValue "" = true := by decide
  simp only [dropFault?, storeFault?, hempty]
  rfl

theorem dropCookie_eq_error_iff (cookie : Cookie) (refusal : Refusal) :
    dropCookie cookie = .error refusal ↔
      storeCookie { cookie with value := "" } = .error refusal := by
  rw [Draft.dropCookie_eq, Draft.storeCookie_eq, dropFault?_eq_storeFault?]
  cases storeFault? { cookie with value := "" } <;> simp

theorem exists_dropCookie_eq_ok_iff (cookie : Cookie) :
    (∃ text, dropCookie cookie = .ok text) ↔
      ∃ text, storeCookie { cookie with value := "" } = .ok text := by
  simp only [dropCookie_eq_ok_iff, storeCookie_eq_ok_iff, exists_and_left, exists_eq, and_true,
    dropFault?_eq_storeFault?]

/-- A client reads a cookie that has ended, with the name and the scope of the one to be dropped. -/
theorem readCookie_dropText {cookie : Cookie} (h : dropFault? cookie = none) :
    readCookie (dropText cookie) = { cookie with value := "", maxAge := some 0 } := by
  have hname : '=' ∉ cookie.name.toList :=
    not_mem_of_isCookieName ((dropFault?_eq_none_iff cookie).mp h).1 (by decide)
  have hparts := headerParts_dropText h
  refine readCookie_eq hparts hname fun item hitem => ?_
  rw [← Cookie.mem_attributes_iff]
  show item ∈ .maxAge 0 :: .expires epochText :: cookie.scope ↔ item ∈ .maxAge 0 :: cookie.scope
  simp only [List.mem_cons, hitem epochText, false_or]

/-- What the header value that drops a cookie has in common with the one that stores it. -/
structure DropsWhereStored (cookie : Cookie) : Prop where
  /-- It is refused for the same reason as a cookie without a value. -/
  error_iff : ∀ refusal : Refusal,
    dropCookie cookie = .error refusal ↔ storeCookie { cookie with value := "" } = .error refusal
  ok_iff : (∃ text, dropCookie cookie = .ok text) ↔
    ∃ text, storeCookie { cookie with value := "" } = .ok text
  /-- It does not depend on the value and the lifetime. -/
  eq_of_value : ∀ (value : String) (maxAge : Option Int64),
    dropCookie { cookie with value := value, maxAge := maxAge } = dropCookie cookie
  /-- The date at which a dropped cookie ends is the start of 1970. -/
  dateText?_epoch_eq : dateText? .epoch = some "Thu, 01 Jan 1970 00:00:00 GMT"
  /-- Both end in one text for the scope. -/
  exists_scope : ∀ text, dropCookie cookie = .ok text → ∃ scope : String,
    storeCookie { cookie with value := "", maxAge := none } =
        .ok (cookie.name ++ "=" ++ scope) ∧
      text = cookie.name ++ "=; Max-Age=0; Expires=Thu, 01 Jan 1970 00:00:00 GMT" ++ scope
  /-- Whatever value and lifetime a cookie was stored with, it can be dropped, and a client reads
  the name and the scope from both header values alike. -/
  read_eq : ∀ (value : String) (maxAge : Option Int64) (stored : String),
    storeCookie { cookie with value := value, maxAge := maxAge } = .ok stored →
      readCookie stored = { cookie with value := value, maxAge := maxAge } ∧
        ∃ dropped, dropCookie cookie = .ok dropped ∧
          readCookie dropped = { cookie with value := "", maxAge := some 0 }

/-- **A cookie is dropped where it was stored.** -/
theorem dropCookie_addresses_stored (cookie : Cookie) : DropsWhereStored cookie := by
  refine ⟨dropCookie_eq_error_iff cookie, exists_dropCookie_eq_ok_iff cookie, fun _ _ => rfl,
    dateText?_epoch, fun text h => ?_, fun value maxAge stored h => ?_⟩
  · obtain ⟨hfault, rfl⟩ := dropCookie_eq_ok_iff.mp h
    refine ⟨attributesText cookie.scope, storeCookie_eq_ok_iff.mpr ⟨?_, ?_⟩, dropText_eq cookie⟩
    · exact (dropFault?_eq_storeFault? cookie).symm.trans hfault
    · rw [storeText_eq]
      simp [attributesText, Cookie.scope]
  · obtain ⟨hfault, -⟩ := storeCookie_eq_ok_iff.mp h
    obtain ⟨hname, -, hscope⟩ := (storeFault?_eq_none_iff _).mp hfault
    have hdrop : dropFault? cookie = none := (dropFault?_eq_none_iff cookie).mpr ⟨hname, hscope⟩
    exact ⟨(isHeaderOf_of_storeCookie h).read_eq, dropText cookie,
      dropCookie_eq_ok_iff.mpr ⟨hdrop, rfl⟩, readCookie_dropText hdrop⟩

/-- A cookie that cannot be stored for its value can be dropped. -/
theorem unsendable_value_dropped :
    ∃ cookie : Cookie, DropsWhereStored cookie ∧ storeFault? cookie = some .value ∧
      dropCookie cookie =
        .ok "sid=; Max-Age=0; Expires=Thu, 01 Jan 1970 00:00:00 GMT; Path=/app" := by
  let cookie : Cookie :=
    { name := "sid", value := "not; valid", path := some "/app", maxAge := some 60 }
  have htext : "sid=; Max-Age=0; Expires=Thu, 01 Jan 1970 00:00:00 GMT; Path=/app" =
      dropText cookie := by decide
  exact ⟨cookie, dropCookie_addresses_stored cookie, by decide,
    dropCookie_eq_ok_iff.mpr ⟨by decide, htext⟩⟩

end DeferredResponse.Http
