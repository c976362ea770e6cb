import DeferredResponse.Proofs.Buffer.History
import DeferredResponse.Proofs.Http.Transparency
import DeferredResponse.Proofs.Page.Render

/-!
# Recovering from a failed page

A page that fails has written to a buffer in which other things may have been recorded before. The
buffer is reset, and the failure is reported instead. An `Attempt` is a request together with
everything that can have come before it; all that reaches the client of a failed one is the text of
its failure (`discarded_attempt_leaks_nothing`).
-/

namespace DeferredResponse

namespace Page

/-! ## Reports -/

/-- The response that reports a failure. -/
def reportOf (text : String) : Http.Response :=
  { status := 503
    headers :=
      { fields :=
          [("cache-control", ["no-store"]), ("content-type", ["text/plain; charset=utf-8"])] }
    body := utf8 ("service unavailable: " ++ text) }

theorem entries_recover (failure : Failure) (buffer : Buffer) :
    (recover failure buffer).log.entries =
      [.setHeader "Cache-Control" "no-store",
        .sendError 503 ("service unavailable: " ++ failure.message)] := rfl

/-- The text of the failure is all that is left of an attempt. -/
theorem recover_congr {failure other : Failure} (h : failure.message = other.message)
    (buffer next : Buffer) : recover failure buffer = recover other next := by
  unfold recover renderFailure
  rw [h]
  rfl

/-- No failure has a text that keeps its report from being committed. -/
theorem commit_recover (failure : Failure) (buffer : Buffer) :
    Http.commit (recover failure buffer) = .ok (reportOf failure.message) := by
  have hcalls : (recover failure buffer).log.calls =
      [.setHeader "Cache-Control" "no-store",
        .sendError 503 ("service unavailable: " ++ failure.message)] :=
    congrArg (List.map Operation.toCall) (entries_recover failure buffer)
  have htakes : Http.Stage.editable.Takes (recover failure buffer).log.calls := by
    rw [hcalls]
    exact ⟨rfl, rfl, trivial⟩
  rw [Http.commit_of_takes htakes, hcalls]
  refine congrArg Except.ok ?_
  show Http.Response.mk 503 _ _ = reportOf failure.message
  unfold reportOf
  congr 1
  exact ByteBody.toBytes_ofBytes _

/-! ## Attempts -/

/-- A request, the moment at which it is served, and all that happened to the buffer before. -/
structure Attempt where
  config : Config := {}
  past : List Buffer.Step := []
  request : Request
  now : Instant

namespace Attempt

/-- What the page is rendered into. -/
def buffer (attempt : Attempt) : Buffer :=
  (Buffer.History.ofSteps attempt.config attempt.past).buffer

def rendered (attempt : Attempt) : EStateM.Result Failure Buffer Unit :=
  render attempt.request attempt.now attempt.buffer

/-- The text of the failure of the page, if it fails. -/
def failureText? (attempt : Attempt) : Option String :=
  match attempt.rendered with
  | .ok _ _ => none
  | .error failure _ => some failure.message

/-- The buffer to commit: the page, or in its place the report of its failure. -/
def answer (attempt : Attempt) : Buffer :=
  match attempt.rendered with
  | .ok _ next => next
  | .error failure next => recover failure next

theorem exists_answer_eq {attempt : Attempt} {text : String}
    (h : attempt.failureText? = some text) :
    ∃ failure next, failure.message = text ∧ attempt.answer = recover failure next := by
  unfold failureText? at h
  unfold answer
  split at h
  · cases h
  · next failure next hrendered =>
    exact ⟨failure, next, Option.some.inj h, rfl⟩

end Attempt

/-- **A discarded attempt leaks nothing.** Whatever happened to the buffer before, if the page
fails, the response that is committed in the end reports the text of the failure and nothing else.
So any two attempts that fail with the same text end with the same log, the same mode of the body,
namely none, and the same response. -/
theorem discarded_attempt_leaks_nothing {attempt : Attempt} {text : String}
    (h : attempt.failureText? = some text) :
    Http.commit attempt.answer = .ok (reportOf text) ∧
      ∀ other : Attempt, other.failureText? = some text →
        other.answer.log = attempt.answer.log ∧ other.answer.mode = attempt.answer.mode ∧
          attempt.answer.mode = none ∧ Http.commit other.answer = Http.commit attempt.answer := by
  obtain ⟨failure, next, rfl, hanswer⟩ := Attempt.exists_answer_eq h
  constructor
  · rw [hanswer]
    exact commit_recover failure next
  · intro other hother
    obtain ⟨failure', next', hmessage, hanswer'⟩ := Attempt.exists_answer_eq hother
    have hsame : other.answer = attempt.answer := by
      rw [hanswer, hanswer']
      exact recover_congr hmessage next' next
    rw [hsame, hanswer]
    exact ⟨rfl, rfl, rfl, rfl⟩

/-- Neither the cookie nor the bytes of the first attempt are in what it is answered with. -/
theorem cookie_and_bytes_discarded :
    let attempt : Attempt :=
      { past := [.call (.addCookie { name := "session", value := "1" }), .call (.writeBytes [1, 2])]
        request := { format := .html, fail := true }
        now := .epoch }
    let other : Attempt :=
      { past := [.call (.setStatus 404), .stream [7], .call .flush]
        request := { format := .html, fail := false }
        now := .epoch }
    let text := "cannot call write_text after write_bytes has been called"
    attempt.failureText? = some text ∧ other.failureText? = some text ∧
      Http.commit attempt.answer = .ok (reportOf text) ∧ other.answer.log = attempt.answer.log := by
  intro attempt other text
  have hattempt : attempt.failureText? = some text := rfl
  have hother : other.failureText? = some text := rfl
  obtain ⟨hcommit, hsame⟩ := discarded_attempt_leaks_nothing hattempt
  exact ⟨hattempt, hother, hcommit, (hsame other hother).1⟩

end Page

end DeferredResponse
