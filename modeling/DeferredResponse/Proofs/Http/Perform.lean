import DeferredResponse.Http.Draft
import DeferredResponse.Proofs.Http.Rendered
import DeferredResponse.Proofs.Issue
import Mathlib.Data.List.Induction

/-!
# Performing one call

What a single call does to a draft, with its two ways to fail kept apart: the stage may not permit
the call (`Stage.permits`), and its arguments may be bad whatever the stage (`argumentFault?`).
`perform_eq` says that a call is refused for the stage first, then for its arguments, and changes
the draft by `Draft.apply` otherwise. The checks of rendered cookies and dates are gone from this
form, since they cannot fail.
-/

namespace DeferredResponse.Http

open Operation

/-- What is wrong with the arguments of a call, whatever was done before. -/
def argumentFault? : Call → Option Refusal
  | .addCookie cookie => (storeFault? cookie).map (.cookie cookie.name)
  | .clearCookie cookie => (dropFault? cookie).map (.cookie cookie.name)
  | .setHeader name value =>
    if !isFieldName name then some (.headerName name)
    else if !isFieldValue value then some (.headerValue name)
    else none
  | .setDateHeader name date =>
    if !isFieldName name then some (.headerName name)
    else if !isWritableYear (CivilDate.ofDayNumber date.dayNumber).year then some (.date date)
    else none
  | .setContentType mime => if isFieldValue mime then none else some (.headerValue contentType)
  | .setStatus code | .sendError code _ =>
    if 100 ≤ code ∧ code ≤ 999 then none else some (.status code)
  | .sendRedirect url => if isFieldValue url then none else some (.headerValue location)
  | .setContentLength _ | .writeText _ | .writeBytes _ | .flush | .close => none

theorem exists_dateText? {date : Instant}
    (h : isWritableYear (CivilDate.ofDayNumber date.dayNumber).year = true) :
    ∃ text, dateText? date = some text := by
  rw [dateText?, if_pos h]
  exact ⟨_, rfl⟩

theorem exists_dateText?_of_argumentFault? {name : String} {date : Instant}
    (h : argumentFault? (.setDateHeader name date) = none) :
    ∃ text, dateText? date = some text := by
  simp only [argumentFault?] at h
  split at h
  · cases h
  · split at h
    · cases h
    · next hyear => exact exists_dateText? (by simpa using hyear)

/-- A date that has a text can be the value of a header. -/
theorem argumentFault?_setDateHeader {name : String} {date : Instant} {text : String}
    (hname : isFieldName name = true) (h : dateText? date = some text) :
    argumentFault? (.setDateHeader name date) = none := by
  have hyear : isWritableYear (CivilDate.ofDayNumber date.dayNumber).year = true := by
    by_contra hnot
    rw [dateText?, if_neg hnot] at h
    cases h
  simp [argumentFault?, hname, hyear]

namespace Stage

/-- The stage after a call of a kind. -/
def after (stage : Stage) : Kind → Stage
  | .flush => if stage = editable then headersSent else stage
  | .close | .sendError | .sendRedirect => completed
  | _ => stage

/-- Why a call is refused at a stage, if it is. -/
def refusal? (stage : Stage) (call : Call) : Option Refusal :=
  if stage.permits call.kind then argumentFault? call else some (.committed call.kind)

/-- None of the calls is refused when they are made one after the other. -/
def Takes (stage : Stage) : List Call → Prop
  | [] => True
  | call :: rest => stage.refusal? call = none ∧ (stage.after call.kind).Takes rest

end Stage

/-- The header value that stores a cookie. -/
def storeText (cookie : Cookie) : String :=
  cookieText cookie.name cookie.value (storeAttributes cookie)

/-- The header value that makes a client drop a cookie. -/
def dropText (cookie : Cookie) : String := cookieText cookie.name "" (dropAttributes cookie)

namespace Draft

/-- What a call does to a draft when it is not refused. -/
def apply (call : Call) (draft : Draft) : Draft :=
  match call with
  | .addCookie cookie => draft.withCookie (storeText cookie)
  | .clearCookie cookie => draft.withCookie (dropText cookie)
  | .setHeader name value => draft.withHeader (canonicalName name) value
  | .setDateHeader name date => draft.withHeader (canonicalName name) ((dateText? date).getD "")
  | .setContentLength length => draft.withHeader contentLength (toString length.toNat)
  | .setContentType mime => draft.withHeader contentType mime
  | .setStatus code => { draft with status := code }
  | .sendError code message => draft.withError code message
  | .sendRedirect url => draft.withRedirect url
  | .writeText text => draft.withBytes (utf8 text)
  | .writeBytes bytes => draft.withBytes bytes
  | .flush => draft.sendHeaders
  | .close => draft.complete

theorem checkValue_eq_ok {name value : String} (h : isFieldValue value = true) :
    checkValue name value = .ok value := by
  rw [checkValue, if_pos h]

theorem checkDate_eq (time : Instant) :
    checkDate time =
      if !isWritableYear (CivilDate.ofDayNumber time.dayNumber).year then .error (.date time)
      else .ok ((dateText? time).getD "") := by
  unfold checkDate
  cases hyear : isWritableYear (CivilDate.ofDayNumber time.dayNumber).year with
  | false => simp [dateText?, hyear]
  | true => simp [dateText?, hyear]

theorem storeCookie_eq (cookie : Cookie) :
    storeCookie cookie =
      match storeFault? cookie with
      | some part => .error (.cookie cookie.name part)
      | none => .ok (storeText cookie) := rfl

theorem dropCookie_eq (cookie : Cookie) :
    dropCookie cookie =
      match dropFault? cookie with
      | some part => .error (.cookie cookie.name part)
      | none => .ok (dropText cookie) := rfl

/-- A rendered cookie is a header value, so that only the fault of the cookie is left. -/
theorem cookieEffect_eq {render : Except Refusal String} {fault : Option CookiePart}
    {name text : String}
    (hrender : render =
      match fault with
      | some part => .error (.cookie name part)
      | none => .ok text)
    (hvalue : ∀ value, render = .ok value → isFieldValue value = true) :
    (do
      let value ← checkValue setCookie (← render)
      return (·.withCookie value) : Except Refusal (Draft → Draft)) =
      match fault.map (Refusal.cookie name) with
      | some refusal => .error refusal
      | none => .ok (·.withCookie text) := by
  cases fault with
  | some part =>
    rw [hrender]
    rfl
  | none =>
    have hcheck : checkValue setCookie text = .ok text := checkValue_eq_ok (hvalue text hrender)
    simp only [hrender, bind, Except.bind, hcheck]
    rfl

/-- The effect of a call is to fail by the fault of its arguments or to apply the call. -/
theorem effect_eq (call : Call) :
    effect call =
      match argumentFault? call with
      | some refusal => .error refusal
      | none => .ok (apply call) := by
  cases call with
  | addCookie cookie =>
    exact cookieEffect_eq (storeCookie_eq cookie) fun _ => isFieldValue_of_storeCookie
  | clearCookie cookie =>
    exact cookieEffect_eq (dropCookie_eq cookie) fun _ => isFieldValue_of_dropCookie
  | setHeader name value =>
    simp only [effect, argumentFault?, checkName, checkValue, fieldName?]
    cases isFieldName name with
    | false => rfl
    | true => cases isFieldValue value <;> rfl
  | setDateHeader name date =>
    simp only [effect, argumentFault?, checkName, fieldName?, checkDate_eq, bind, Except.bind]
    cases isFieldName name with
    | false => rfl
    | true =>
      cases hyear : isWritableYear (CivilDate.ofDayNumber date.dayNumber).year with
      | false => rfl
      | true =>
        obtain ⟨text, htext⟩ := exists_dateText? hyear
        have happly : apply (.setDateHeader name date) =
            (·.withHeader (canonicalName name) text) := by
          funext draft
          simp only [apply, htext, Option.getD_some]
        simp only [htext, Option.getD_some, Bool.not_true, Bool.false_eq_true, if_false, if_true,
          checkValue_eq_ok (isFieldValue_of_dateText? htext), happly]
        rfl
  | setContentLength length => rfl
  | setContentType mime =>
    simp only [effect, argumentFault?, checkValue]
    cases isFieldValue mime <;> rfl
  | setStatus code =>
    simp only [effect, argumentFault?, checkStatus]
    split <;> rfl
  | sendError code message =>
    simp only [effect, argumentFault?, checkStatus]
    split <;> rfl
  | sendRedirect url =>
    simp only [effect, argumentFault?, checkValue]
    cases isFieldValue url <;> rfl
  | _ => rfl

/-- A call is refused, for the stage or for its arguments, or else applied. -/
theorem perform_eq (call : Call) (draft : Draft) :
    (Sink.perform call : EStateM Refusal Draft Unit) draft =
      match draft.stage.refusal? call with
      | some refusal => .error refusal draft
      | none => .ok () (draft.apply call) := by
  show perform call draft = _
  unfold perform Stage.refusal?
  rw [effect_eq]
  cases draft.stage.permits call.kind with
  | false => rfl
  | true =>
    simp only [if_true]
    cases argumentFault? call <;> rfl

/-- A call that is refused comes too late or has bad arguments. -/
theorem refused_cases {call : Call} {draft next : Draft} {refusal : Refusal}
    (h : Sink.perform call draft = .error refusal next) :
    refusal = .committed call.kind ∨ argumentFault? call = some refusal := by
  rw [perform_eq, Stage.refusal?] at h
  cases hpermits : draft.stage.permits call.kind with
  | false =>
    rw [hpermits] at h
    cases h
    exact .inl rfl
  | true =>
    rw [hpermits] at h
    cases hfault : argumentFault? call with
    | none =>
      rw [hfault] at h
      cases h
    | some found =>
      rw [hfault] at h
      cases h
      exact .inr rfl

theorem sendHeaders_eq (draft : Draft) :
    draft.sendHeaders = { draft with stage := draft.stage.after .flush } := by
  unfold sendHeaders
  by_cases hstage : draft.stage = .editable
  · rw [if_pos hstage, hstage]
    rfl
  · rw [if_neg hstage, Stage.after, if_neg hstage]

theorem stage_apply (call : Call) (draft : Draft) :
    (draft.apply call).stage = draft.stage.after call.kind := by
  cases call with
  | flush => exact congrArg stage (sendHeaders_eq draft)
  | _ => rfl

/-! ## Runs -/

/-- One more call is refused on the draft that the others lead to, or applied to it. -/
theorem issue_concat_eq (calls : List Call) (call : Call) (start : Draft) :
    issue (calls ++ [call]) start =
      match issue calls start with
      | .ok () before =>
        match before.stage.refusal? call with
        | some refusal => .error { index := calls.length, kind := call.kind, cause := refusal } before
        | none => .ok () (before.apply call)
      | .error error before => .error error before := by
  rw [issue_concat]
  cases issue calls start with
  | error error before => rfl
  | ok _ before =>
    simp only [perform_eq]
    cases before.stage.refusal? call <;> rfl

theorem issue_concat_eq_ok_iff {calls : List Call} {call : Call} {start draft : Draft} :
    issue (calls ++ [call]) start = .ok () draft ↔
      ∃ before, issue calls start = .ok () before ∧ before.stage.refusal? call = none ∧
        draft = before.apply call := by
  rw [issue_concat_eq]
  constructor
  · intro h
    cases hcalls : issue calls start with
    | error error before =>
      rw [hcalls] at h
      cases h
    | ok _ before =>
      simp only [hcalls] at h
      cases hrefusal : before.stage.refusal? call with
      | some refusal =>
        rw [hrefusal] at h
        cases h
      | none =>
        rw [hrefusal] at h
        cases h
        exact ⟨before, rfl, hrefusal, rfl⟩
  · rintro ⟨before, hcalls, hrefusal, rfl⟩
    simp only [hcalls, hrefusal]

/-- Calls that are all taken are applied one after the other. -/
theorem issueFrom_of_takes {calls : List Call} {draft : Draft} (h : draft.stage.Takes calls)
    (index : Nat) :
    issueFrom index calls draft = .ok () (calls.foldl (fun d c => d.apply c) draft) := by
  induction calls generalizing draft index with
  | nil => rfl
  | cons call rest ih =>
    obtain ⟨hcall, hrest⟩ := h
    rw [issueFrom_cons, perform_eq, hcall]
    rw [← stage_apply] at hrest
    exact ih hrest (index + 1)

/-- The stage depends on the kinds of the calls alone. -/
theorem stage_of_issue {calls : List Call} {draft : Draft}
    (h : issue calls ({} : Draft) = .ok () draft) :
    draft.stage = (calls.map kind).foldl Stage.after .editable := by
  induction calls using List.reverseRecOn generalizing draft with
  | nil =>
    cases h
    rfl
  | append_singleton calls call ih =>
    obtain ⟨before, hcalls, -, rfl⟩ := issue_concat_eq_ok_iff.mp h
    rw [stage_apply, ih hcalls, List.map_append, List.foldl_append]
    rfl

end Draft

end DeferredResponse.Http
