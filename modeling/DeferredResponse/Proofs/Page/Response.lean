import DeferredResponse.Proofs.Page.Recover

/-!
# Responses to requests

What the client gets for a request on a new buffer: the redirect, the report of a failure, or the
page. Only the redirect can be refused when the buffer is committed, for an address that is no
header value.
-/

namespace DeferredResponse.Page

open Operation

/-- The response that sends the client elsewhere. -/
def redirectTo (url : String) : Http.Response :=
  { status := 302
    headers := { fields := [("location", [url])] }
    body := [] }

/-- The headers that a format adds to those of every page. -/
def Format.fields : Format → List (String × List String)
  | .html => [("content-type", ["text/html; charset=utf-8"])]
  | .json => [("content-type", ["application/json"]), ("content-length", ["83"])]

/-- The page in a format. -/
def Format.text : Format → String
  | .html => htmlText
  | .json => jsonText

/-- The response with a page that stays fresh until a date. -/
def pageUntil (date : String) (format : Format) : Http.Response :=
  { status := 200
    headers :=
      { fields :=
          ("set-cookie", ["visited=1; Path=/; HttpOnly"]) :: ("expires", [date]) :: format.fields }
    body := utf8 format.text }

theorem commit_redirect {buffer : Buffer} {url : String}
    (hcalls : buffer.log.calls = [.sendRedirect url]) :
    Http.commit buffer =
      if Http.isFieldValue url then .ok (redirectTo url)
      else .error { index := 0, kind := .sendRedirect, cause := .headerValue Http.location } := by
  cases hurl : Http.isFieldValue url with
  | true =>
    have htakes : Http.Stage.editable.Takes buffer.log.calls := by
      rw [hcalls]
      exact ⟨if_pos hurl, trivial⟩
    rw [Http.commit_of_takes htakes, hcalls]
    rfl
  | false =>
    have hrefusal : Http.Stage.editable.refusal? (.sendRedirect url) =
        some (.headerValue Http.location) := by
      simp [Http.Stage.refusal?, Http.Stage.permits, Http.argumentFault?, hurl]
    rw [Http.commit_eq, hcalls, issue, issueFrom_cons, Http.Draft.perform_eq, hrefusal]
    rfl

theorem commit_served {buffer : Buffer} {format : Format} {now : Instant} {date : String}
    (hcalls : buffer.log.calls = served format now)
    (hdate : Http.dateText? (now.addSeconds freshness) = some date) :
    Http.commit buffer = .ok (pageUntil date format) := by
  have hyear : Http.argumentFault? (.setDateHeader "Expires" (now.addSeconds freshness)) = none :=
    Http.argumentFault?_setDateHeader (by decide) hdate
  have htakes : Http.Stage.editable.Takes buffer.log.calls := by
    rw [hcalls]
    cases format with
    | html => exact ⟨rfl, rfl, hyear, rfl, rfl, rfl, trivial⟩
    | json => exact ⟨rfl, rfl, hyear, rfl, rfl, rfl, rfl, trivial⟩
  rw [Http.commit_of_takes htakes, hcalls]
  refine congrArg Except.ok ?_
  cases format with
  | html =>
    show Http.Response.mk _
      ⟨[_, ("expires", [(Http.dateText? (now.addSeconds freshness)).getD ""]), _]⟩
      (ByteBody.empty.push (utf8 htmlText)).toBytes = _
    rw [hdate, ByteBody.toBytes_push]
    rfl
  | json =>
    show Http.Response.mk _
      ⟨[_, ("expires", [(Http.dateText? (now.addSeconds freshness)).getD ""]), _, _]⟩
      (ByteBody.empty.push (utf8 jsonText)).toBytes = _
    rw [hdate, ByteBody.toBytes_push]
    rfl

/-! ## Requests on a new buffer -/

/-- The text of the failure when the inventory breaks down. -/
def breakdownText : Format → String
  | .html => "inventory backend went away after 1 items"
  | .json => "inventory backend unavailable"

namespace Attempt

theorem failureText?_eq (attempt : Attempt) :
    attempt.failureText? =
      (failure? attempt.request attempt.buffer.mode).map Failure.message := by
  unfold failureText? rendered
  rw [render_eq]
  cases failure? attempt.request attempt.buffer.mode <;> rfl

/-- A page that does not fail stands behind the past. -/
theorem calls_answer {attempt : Attempt}
    (h : failure? attempt.request attempt.buffer.mode = none) :
    attempt.answer.log.calls =
      attempt.buffer.log.calls ++
        recorded attempt.request attempt.now attempt.buffer.mode := by
  have hanswer : attempt.answer = endState attempt.rendered := by
    unfold answer rendered
    rw [render_eq, h]
    rfl
  rw [hanswer]
  exact calls_render attempt.request attempt.now attempt.buffer

section New

variable (config : Config) {request : Request} (now : Instant)

theorem commit_answer_of_redirect {url : String} (h : request.redirect = some url) :
    Http.commit (answer { config, request, now }) =
      if Http.isFieldValue url then .ok (redirectTo url)
      else .error { index := 0, kind := .sendRedirect, cause := .headerValue Http.location } := by
  have hnone : failure? request none = none := by
    unfold failure?
    rw [h]
  refine commit_redirect ((calls_answer hnone).trans ?_)
  show recorded request now none = _
  unfold recorded
  rw [h]

theorem commit_answer_of_fail (h : request.redirect = none) (hfail : request.fail = true) :
    Http.commit (answer { config, request, now }) =
      .ok (reportOf (breakdownText request.format)) := by
  have htext : failureText? { config, request, now } = some (breakdownText request.format) := by
    rw [failureText?_eq]
    obtain ⟨format, fail, redirect⟩ := request
    cases h
    cases hfail
    cases format <;> rfl
  obtain ⟨failure, next, hmessage, hanswer⟩ := exists_answer_eq htext
  rw [hanswer, commit_recover, hmessage]

theorem commit_answer_of_served {date : String} (h : request.redirect = none)
    (hfail : request.fail = false)
    (hdate : Http.dateText? (now.addSeconds freshness) = some date) :
    Http.commit (answer { config, request, now }) = .ok (pageUntil date request.format) := by
  have hnone : failure? request none = none := by
    obtain ⟨format, fail, redirect⟩ := request
    cases h
    cases hfail
    cases format <;> rfl
  refine commit_served ((calls_answer hnone).trans ?_) hdate
  exact recorded_eq_served now h hnone

end New

end Attempt

end DeferredResponse.Page
