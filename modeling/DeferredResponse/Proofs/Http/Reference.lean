import DeferredResponse.Proofs.Http.Offence
import Mathlib.Data.List.DropRight

/-!
# The reference response

What a list of calls amounts to, read off the list with no draft in between. A redirect decides the
status and the body, then an error does, and only then what was set and written. Of the calls that
replace a header the last one counts; the cookie header also has a value for every cookie after it.

A replay that goes through ends in this response (`replay_eq_reference`). Calls are taken in order,
and a call other than a flush or a close is refused once a redirect or an error has come, so that in
`Shows.apply` such a call always meets a list without them (`Unfinished`).
-/

namespace DeferredResponse.Http

open Operation

/-! ## What single calls ask for -/

/-- Whether the client is sent elsewhere. -/
def isRedirect : Call → Bool
  | .sendRedirect _ => true
  | _ => false

/-- The error that is sent: its status and its message. -/
def error? : Call → Option (UInt16 × String)
  | .sendError code message => some (code, message)
  | _ => none

/-- The status that is set. -/
def status? : Call → Option UInt16
  | .setStatus code => some code
  | _ => none

/-- The bytes that are written. -/
def payload : Call → Bytes
  | .writeText text => utf8 text
  | .writeBytes bytes => bytes
  | _ => []

/-- The header that is replaced, and its value. -/
def header? : Call → Option (String × String)
  | .setHeader name value => some (canonicalName name, value)
  | .setDateHeader name date => (dateText? date).map (canonicalName name, ·)
  | .setContentLength length => some (contentLength, toString length.toNat)
  | .setContentType mime => some (contentType, mime)
  | .sendError .. => some (contentType, Draft.errorType)
  | .sendRedirect url => some (location, url)
  | _ => none

/-- The value that replaces those of the named header. -/
def value? (name : String) (call : Call) : Option String :=
  (header? call).bind fun (other, value) => if name = other then some value else none

/-- The cookie header that is added. -/
def cookie? : Call → Option String
  | .addCookie cookie => some (storeText cookie)
  | .clearCookie cookie => some (dropText cookie)
  | _ => none

/-! ## What lists of calls ask for -/

/-- The status of the response. -/
def finalStatus (calls : List Call) : UInt16 :=
  if calls.any isRedirect then 302
  else
    match calls.findSome? error? with
    | some (code, _) => code
    | none => (calls.filterMap status?).getLast?.getD 200

/-- The body of the response. -/
def finalBody (calls : List Call) : Bytes :=
  if calls.any isRedirect then []
  else
    match calls.findSome? error? with
    | some (_, message) => utf8 message
    | none => calls.flatMap payload

/-- The last value that replaces those of the named header. -/
def lastValue? (calls : List Call) (name : String) : Option String :=
  (calls.filterMap (value? name)).getLast?

/-- The cookies after the last call that replaces the cookie header. -/
def finalCookies (calls : List Call) : List String :=
  (calls.rtakeWhile fun call => value? setCookie call = none).filterMap cookie?

/-- The values of a header of the response. -/
def finalValues (calls : List Call) (name : String) : List String :=
  if name = contentLength ∧ (calls.any isRedirect ∨ (calls.findSome? error?).isSome) then []
  else (lastValue? calls name).toList ++ if name = setCookie then finalCookies calls else []

/-- The response is what the calls amount to; no header but those that they ask for is in it. -/
structure Response.IsReference (response : Response) (calls : List Call) : Prop where
  status_eq : response.status = finalStatus calls
  body_eq : response.body = finalBody calls
  values_eq : ∀ name, response.headers.values name = finalValues calls name
  nodup : response.headers.names.Nodup
  mem_names_iff : ∀ name, name ∈ response.headers.names ↔ finalValues calls name ≠ []

/-! ## One more call -/

/-- No redirect and no error is among the calls. -/
structure Unfinished (calls : List Call) : Prop where
  redirect_eq : calls.any isRedirect = false
  error_eq : calls.findSome? error? = none

/-- A call that is not too late follows neither a redirect nor an error, unless it is a flush or a
close. -/
theorem unfinished_of_not_isLate {calls : List Call} {call : Call}
    (h : ¬ IsLate (calls.map kind) call.kind)
    (hcall : call.kind.isHead = true ∨ call.kind.isBodyWrite = true) : Unfinished calls := by
  have hopen : ∀ earlier ∈ calls, earlier.kind.endsBody = false := fun earlier hearlier =>
    endsBody_eq_false_of_not_isLate h hcall earlier.kind (List.mem_map_of_mem hearlier)
  constructor
  · rw [List.any_eq_false]
    intro earlier hearlier hredirect
    cases earlier with
    | sendRedirect url => cases hopen _ hearlier
    | _ => cases hredirect
  · rw [List.findSome?_eq_none_iff]
    intro earlier hearlier
    cases earlier with
    | sendError code message => cases hopen _ hearlier
    | _ => rfl

theorem finalStatus_concat {calls : List Call} (h : Unfinished calls) (call : Call) :
    finalStatus (calls ++ [call]) =
      if isRedirect call then 302
      else
        match error? call with
        | some (code, _) => code
        | none => (status? call).getD (finalStatus calls) := by
  unfold finalStatus
  rw [List.any_append, List.findSome?_append, h.redirect_eq, h.error_eq, List.filterMap_append]
  cases call <;> simp [isRedirect, error?, status?]

theorem finalBody_concat {calls : List Call} (h : Unfinished calls) (call : Call) :
    finalBody (calls ++ [call]) =
      if isRedirect call then []
      else
        match error? call with
        | some (_, message) => utf8 message
        | none => finalBody calls ++ payload call := by
  unfold finalBody
  rw [List.any_append, List.findSome?_append, h.redirect_eq, h.error_eq, List.flatMap_append]
  cases call <;> simp [isRedirect, error?, payload]

theorem lastValue?_concat (calls : List Call) (call : Call) (name : String) :
    lastValue? (calls ++ [call]) name = (value? name call).or (lastValue? calls name) := by
  unfold lastValue?
  rw [List.filterMap_append, List.getLast?_append]
  cases h : value? name call <;> simp [h]

theorem finalCookies_concat (calls : List Call) (call : Call) :
    finalCookies (calls ++ [call]) =
      if value? setCookie call = none then finalCookies calls ++ (cookie? call).toList else [] := by
  unfold finalCookies
  rw [List.rtakeWhile_concat]
  cases h : value? setCookie call with
  | none =>
    simp only [decide_true, if_true, List.filterMap_append]
    cases hcookie : cookie? call <;> simp [hcookie]
  | some value => simp

theorem idle_of_kind {β : Type} {op : Operation β}
    (h : ¬ (op.kind.isHead = true ∨ op.kind.isBodyWrite = true)) : op = .flush ∨ op = .close := by
  cases op with
  | flush => exact .inl rfl
  | close => exact .inr rfl
  | writeText text => exact absurd (.inr rfl) h
  | writeBytes payload => exact absurd (.inr rfl) h
  | _ => exact absurd (.inl rfl) h

/-- A flush or a close asks for nothing. -/
theorem final_concat_of_idle {call : Call} (h : call = .flush ∨ call = .close)
    (calls : List Call) :
    finalStatus (calls ++ [call]) = finalStatus calls ∧
      finalBody (calls ++ [call]) = finalBody calls ∧
        ∀ name, finalValues (calls ++ [call]) name = finalValues calls name := by
  have hrest : isRedirect call = false ∧ error? call = none ∧ status? call = none ∧
      payload call = [] ∧ cookie? call = none ∧ ∀ name, value? name call = none := by
    rcases h with rfl | rfl
    · exact ⟨rfl, rfl, rfl, rfl, rfl, fun _ => rfl⟩
    · exact ⟨rfl, rfl, rfl, rfl, rfl, fun _ => rfl⟩
  obtain ⟨hredirect, herror, hstatus, hpayload, hcookie, hvalue⟩ := hrest
  refine ⟨?_, ?_, ?_⟩
  · simp [finalStatus, List.any_append, List.findSome?_append, hredirect, herror, hstatus]
  · simp [finalBody, List.any_append, List.findSome?_append, hredirect, herror, hpayload]
  · intro name
    unfold finalValues
    rw [lastValue?_concat, finalCookies_concat, hvalue, hvalue, hcookie]
    simp [List.any_append, List.findSome?_append, hredirect, herror]

/-- The values of a header after one more call. -/
def valuesAfter (call : Call) (name : String) (values : List String) : List String :=
  if name = contentLength ∧ (isRedirect call ∨ (error? call).isSome) then []
  else
    match value? name call with
    | some value => [value]
    | none => values ++ if name = setCookie then (cookie? call).toList else []

theorem finalValues_concat {calls : List Call} (h : Unfinished calls) (call : Call)
    (name : String) :
    finalValues (calls ++ [call]) name = valuesAfter call name (finalValues calls name) := by
  unfold finalValues valuesAfter
  rw [List.any_append, List.findSome?_append, h.redirect_eq, h.error_eq, lastValue?_concat,
    finalCookies_concat]
  simp only [List.any_cons, List.any_nil, Bool.or_false, Bool.false_or, List.findSome?_singleton,
    Option.none_or, Bool.false_eq_true, Option.isSome_none, or_self, and_false, if_false]
  split
  · rfl
  · by_cases hname : name = setCookie
    · subst hname
      cases value? setCookie call with
      | some value => simp
      | none => simp
    · cases value? name call with
      | some value => simp [hname]
      | none => simp [hname]

theorem valuesAfter_of_header? {call : Call} {name value : String}
    (h : header? call = some (name, value)) (hredirect : isRedirect call = false)
    (herror : error? call = none) (other : String) (values : List String) :
    valuesAfter call other values = if other = name then [value] else values := by
  have hcookie : cookie? call = none := by
    cases call with
    | addCookie cookie => cases h
    | clearCookie cookie => cases h
    | _ => rfl
  unfold valuesAfter value?
  rw [hredirect, herror, h, hcookie]
  by_cases hother : other = name
  · simp [hother]
  · simp [hother]

theorem valuesAfter_of_cookie? {call : Call} {line : String} (h : cookie? call = some line)
    (other : String) (values : List String) :
    valuesAfter call other values = if other = setCookie then values ++ [line] else values := by
  have hrest : header? call = none ∧ isRedirect call = false ∧ error? call = none := by
    cases call with
    | addCookie cookie => exact ⟨rfl, rfl, rfl⟩
    | clearCookie cookie => exact ⟨rfl, rfl, rfl⟩
    | _ => cases h
  unfold valuesAfter value?
  rw [hrest.2.1, hrest.2.2, hrest.1, h]
  by_cases hother : other = setCookie
  · simp [hother]
  · simp [hother]

theorem valuesAfter_of_none {call : Call} (hheader : header? call = none)
    (hcookie : cookie? call = none) (hredirect : isRedirect call = false)
    (herror : error? call = none) (other : String) (values : List String) :
    valuesAfter call other values = values := by
  unfold valuesAfter value?
  rw [hredirect, herror, hheader, hcookie]
  simp

/-! ## The draft -/

namespace Draft

theorem values_withHeader (draft : Draft) (name value other : String) :
    (draft.withHeader name value).headers.values other =
      if other = name then [value] else draft.headers.values other :=
  Headers.values_insert draft.headers name value other

theorem values_withCookie (draft : Draft) (value other : String) :
    (draft.withCookie value).headers.values other =
      if other = setCookie then draft.headers.values other ++ [value]
      else draft.headers.values other := by
  refine (Headers.values_append draft.headers setCookie value other).trans ?_
  split
  · next hother => rw [hother]
  · rfl

theorem values_apply {call : Call} (h : argumentFault? call = none) (draft : Draft)
    (name : String) :
    (draft.apply call).headers.values name = valuesAfter call name (draft.headers.values name) := by
  cases call with
  | addCookie cookie =>
    exact (values_withCookie draft _ name).trans (valuesAfter_of_cookie? rfl name _).symm
  | clearCookie cookie =>
    exact (values_withCookie draft _ name).trans (valuesAfter_of_cookie? rfl name _).symm
  | setHeader other value =>
    exact (values_withHeader draft _ value name).trans (valuesAfter_of_header? rfl rfl rfl name _).symm
  | setDateHeader other date =>
    obtain ⟨text, htext⟩ := exists_dateText?_of_argumentFault? h
    have hheader : header? (.setDateHeader other date) = some (canonicalName other, text) := by
      rw [header?, htext, Option.map_some]
    rw [valuesAfter_of_header? hheader rfl rfl]
    show (draft.withHeader (canonicalName other) ((dateText? date).getD "")).headers.values name = _
    rw [htext, Option.getD_some, values_withHeader]
  | setContentLength length =>
    exact (values_withHeader draft _ _ name).trans (valuesAfter_of_header? rfl rfl rfl name _).symm
  | setContentType mime =>
    exact (values_withHeader draft _ mime name).trans (valuesAfter_of_header? rfl rfl rfl name _).symm
  | sendError code message =>
    show ((draft.headers.erase contentLength).insert contentType errorType).values name = _
    rw [Headers.values_insert, Headers.values_erase]
    unfold valuesAfter value?
    by_cases hlength : name = contentLength
    · subst hlength
      rfl
    · by_cases htype : name = contentType
      · subst htype
        rfl
      · simp [header?, cookie?, hlength, htype]
  | sendRedirect url =>
    show ((draft.headers.insert location url).erase contentLength).values name = _
    rw [Headers.values_erase, Headers.values_insert]
    unfold valuesAfter value?
    by_cases hlength : name = contentLength
    · subst hlength
      rfl
    · by_cases hlocation : name = location
      · subst hlocation
        rfl
      · simp [header?, cookie?, hlength, hlocation]
  | flush =>
    show draft.sendHeaders.headers.values name = _
    rw [sendHeaders_eq, valuesAfter_of_none rfl rfl rfl rfl]
  | _ => exact (valuesAfter_of_none rfl rfl rfl rfl name _).symm

theorem status_apply (call : Call) (draft : Draft) :
    (draft.apply call).status =
      if isRedirect call then 302
      else
        match error? call with
        | some (code, _) => code
        | none => (status? call).getD draft.status := by
  cases call with
  | flush =>
    show draft.sendHeaders.status = draft.status
    rw [sendHeaders_eq]
  | _ => rfl

theorem toBytes_apply (call : Call) (draft : Draft) :
    (draft.apply call).body.toBytes =
      if isRedirect call then []
      else
        match error? call with
        | some (_, message) => utf8 message
        | none => draft.body.toBytes ++ payload call := by
  cases call with
  | sendError code message => exact ByteBody.toBytes_ofBytes (utf8 message)
  | sendRedirect url => rfl
  | writeText text => exact ByteBody.toBytes_push draft.body (utf8 text)
  | writeBytes bytes => exact ByteBody.toBytes_push draft.body bytes
  | flush =>
    show draft.sendHeaders.body.toBytes = draft.body.toBytes ++ []
    rw [sendHeaders_eq, List.append_nil]
  | _ => exact (List.append_nil _).symm

theorem wellFormed_apply {draft : Draft} (h : draft.headers.WellFormed) (call : Call) :
    (draft.apply call).headers.WellFormed := by
  cases call with
  | addCookie cookie => exact h.append _ _
  | clearCookie cookie => exact h.append _ _
  | setHeader name value => exact h.insert _ _
  | setDateHeader name date => exact h.insert _ _
  | setContentLength length => exact h.insert _ _
  | setContentType mime => exact h.insert _ _
  | sendError code message => exact (h.erase _).insert _ _
  | sendRedirect url => exact (h.insert _ _).erase _
  | flush =>
    show draft.sendHeaders.headers.WellFormed
    rw [sendHeaders_eq]
    exact h
  | _ => exact h

/-- The draft is what the calls amount to. -/
structure Shows (draft : Draft) (calls : List Call) : Prop where
  status_eq : draft.status = finalStatus calls
  body_eq : draft.body.toBytes = finalBody calls
  values_eq : ∀ name, draft.headers.values name = finalValues calls name
  wellFormed : draft.headers.WellFormed

theorem Shows.nil : Shows {} [] where
  status_eq := rfl
  body_eq := rfl
  values_eq := by
    intro name
    simp [finalValues, lastValue?, finalCookies, Headers.values]
  wellFormed := .empty

/-- A flush or a close changes nothing but the stage. -/
theorem Shows.apply_of_idle {draft : Draft} {calls : List Call} {call : Call}
    (h : Shows draft calls) (hcall : call = .flush ∨ call = .close) :
    Shows (draft.apply call) (calls ++ [call]) := by
  have hdraft : Shows (draft.apply call) calls := by
    rcases hcall with rfl | rfl
    · show Shows draft.sendHeaders calls
      rw [sendHeaders_eq]
      exact ⟨h.status_eq, h.body_eq, h.values_eq, h.wellFormed⟩
    · exact ⟨h.status_eq, h.body_eq, h.values_eq, h.wellFormed⟩
  obtain ⟨hstatus, hbody, hvalues⟩ := final_concat_of_idle hcall calls
  exact ⟨hdraft.status_eq.trans hstatus.symm, hdraft.body_eq.trans hbody.symm,
    fun name => (hdraft.values_eq name).trans (hvalues name).symm, hdraft.wellFormed⟩

/-- A call that is not refused keeps the draft at what the calls amount to. -/
theorem Shows.apply {draft : Draft} {calls : List Call} {call : Call} (h : Shows draft calls)
    (hlate : ¬ IsLate (calls.map kind) call.kind) (hfault : argumentFault? call = none) :
    Shows (draft.apply call) (calls ++ [call]) := by
  by_cases hcall : call.kind.isHead = true ∨ call.kind.isBodyWrite = true
  · have hunfinished := unfinished_of_not_isLate hlate hcall
    refine ⟨?_, ?_, ?_, wellFormed_apply h.wellFormed call⟩
    · rw [status_apply, finalStatus_concat hunfinished, h.status_eq]
    · rw [toBytes_apply, finalBody_concat hunfinished, h.body_eq]
    · intro name
      rw [values_apply hfault, finalValues_concat hunfinished, h.values_eq]
  · exact h.apply_of_idle (idle_of_kind hcall)

theorem shows_of_issue {calls : List Call} {draft : Draft}
    (h : issue calls ({} : Draft) = .ok () draft) : Shows draft calls := by
  induction calls using List.reverseRecOn generalizing draft with
  | nil =>
    cases h
    exact Shows.nil
  | append_singleton calls call ih =>
    obtain ⟨before, hcalls, hrefusal, rfl⟩ := issue_concat_eq_ok_iff.mp h
    rw [refusal?_eq_offenceAfter? hcalls] at hrefusal
    unfold offenceAfter? at hrefusal
    split at hrefusal
    · cases hrefusal
    · next hlate => exact (ih hcalls).apply hlate hrefusal

/-- **The response of a replay.** Actions that are replayed to their end on a new draft give the
reference response of their calls. -/
theorem replay_eq_reference {actions : List Action} {draft : Draft}
    (h : replay actions ({} : Draft) = .ok () draft) :
    draft.toResponse.IsReference (actions.map toCall) := by
  rw [replay_eq_issue] at h
  have hshows := shows_of_issue h
  exact {
    status_eq := hshows.status_eq
    body_eq := hshows.body_eq
    values_eq := hshows.values_eq
    nodup := hshows.wellFormed.nodup
    mem_names_iff := by
      intro name
      rw [← hshows.values_eq]
      exact hshows.wellFormed.mem_names_iff name }

/-- A cookie header that is set takes away the cookie before it but not the one after it, and an
error takes away the length. -/
theorem reference_of_replayed_error :
    ∃ (actions : List Action) (draft : Draft), replay actions ({} : Draft) = .ok () draft ∧
      draft.toResponse.IsReference (actions.map toCall) ∧
        finalValues (actions.map toCall) setCookie = ["b=2", "c=3; Secure"] ∧
          finalValues (actions.map toCall) contentLength = [] :=
  ⟨[.addCookie { name := "a", value := "1" }, .setHeader "Set-Cookie" "b=2",
    .addCookie { name := "c", value := "3", secure := true }, .setContentLength 5,
    .writeText "draft", .sendError 404 "gone", .flush],
    _, rfl, replay_eq_reference rfl, by decide +kernel, by decide +kernel⟩

end Draft

end DeferredResponse.Http
