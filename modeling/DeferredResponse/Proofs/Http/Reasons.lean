import DeferredResponse.Proofs.Http.Stages

/-!
# Reasons for refusals

Every value that a response renders itself is checked against the rule for header values like a
value that it is given, and every call looks at the stage before its arguments. Which refusals can
this lead to? `Kind.reasons` lists, for each kind of call, the reasons for which one can be refused.
That a rendered cookie or date, or a length, is no header value is not among them.

1. A refusal for the arguments of a call is for a listed reason (`reason_mem_of_argumentFault?`),
   since the checks of rendered values always succeed (`effect_eq`).
2. A call of every kind but two can come too late (`late_mem_reasons_iff`).
3. No listed reason is listed in vain: `badCall` has arguments that are bad for it
   (`argumentFault?_badCall`).

`refusals_are_listed` puts this together.
-/

namespace DeferredResponse

open Operation

namespace Http

/-- What is wrong with a call that is refused. -/
inductive Reason where
  /-- It comes when the response is too far committed. -/
  | late
  | cookie
  | headerName
  | headerValue
  | status
  | date
  deriving DecidableEq, Repr

def Refusal.reason : Refusal → Reason
  | headerName _ => .headerName
  | headerValue _ => .headerValue
  | status _ => .status
  | cookie .. => .cookie
  | committed _ => .late
  | date _ => .date

/-- The reasons for which a call of a kind can be refused. -/
def reasons : Kind → List Reason
  | .addCookie | .clearCookie => [.late, .cookie]
  | .setHeader => [.late, .headerName, .headerValue]
  | .setDateHeader => [.late, .headerName, .date]
  | .setContentType | .sendRedirect => [.late, .headerValue]
  | .setStatus | .sendError => [.late, .status]
  | .setContentLength | .writeText | .writeBytes => [.late]
  | .flush | .close => []

theorem late_mem_reasons_iff (kind : Kind) :
    .late ∈ reasons kind ↔ kind ≠ .flush ∧ kind ≠ .close := by
  cases kind <;> decide

theorem Stage.permits_of_flush_or_close {stage : Stage} {kind : Kind}
    (h : kind = .flush ∨ kind = .close) : stage.permits kind = true := by
  rcases h with rfl | rfl <;> cases stage <;> rfl

/-- What is found wrong with the arguments of a call is a reason of its kind. -/
theorem reason_mem_of_argumentFault? {call : Call} {refusal : Refusal}
    (h : argumentFault? call = some refusal) : refusal.reason ∈ reasons call.kind := by
  cases call with
  | addCookie | clearCookie =>
    obtain ⟨part, -, rfl⟩ := Option.map_eq_some_iff.mp h
    exact List.mem_cons_of_mem _ List.mem_cons_self
  | setContentLength | writeText | writeBytes | flush | close => cases h
  | _ =>
    simp only [argumentFault?] at h
    grind [reasons, Refusal.reason, kind]

/-- A call of a kind with arguments that are bad for a reason, if there are such arguments. -/
def badCall : Kind → Reason → Call
  | .addCookie, _ => .addCookie { name := "", value := "" }
  | .clearCookie, _ => .clearCookie { name := "", value := "" }
  | .setHeader, .headerName => .setHeader "" ""
  | .setHeader, _ => .setHeader "a" "\n"
  | .setDateHeader, .headerName => .setDateHeader "" .epoch
  -- This instant lies in the first year that is too late to be written.
  | .setDateHeader, _ => .setDateHeader "a" (Instant.epoch.addSeconds 8210298412800)
  | .setContentLength, _ => .setContentLength 0
  | .setContentType, _ => .setContentType "\n"
  | .setStatus, _ => .setStatus 0
  | .sendError, _ => .sendError 0 ""
  | .sendRedirect, _ => .sendRedirect "\n"
  | .writeText, _ => .writeText ""
  | .writeBytes, _ => .writeBytes []
  | .flush, _ => .flush
  | .close, _ => .close

theorem kind_badCall (kind : Kind) (reason : Reason) : (badCall kind reason).kind = kind := by
  cases kind <;> cases reason <;> rfl

theorem argumentFault?_badCall {kind : Kind} {reason : Reason} (h : reason ∈ reasons kind)
    (hlate : reason ≠ .late) :
    (argumentFault? (badCall kind reason)).map Refusal.reason = some reason := by
  cases kind <;> cases reason <;> revert h hlate <;> decide +kernel

namespace Draft

/-- Whatever ends a call, in any draft, is a reason of its kind. -/
theorem reason_mem_of_perform {call : Call} {draft next : Draft} {refusal : Refusal}
    (h : Sink.perform call draft = .error refusal next) : refusal.reason ∈ reasons call.kind := by
  rcases refused_cases h with rfl | hfault
  · show .late ∈ reasons call.kind
    obtain ⟨hpermits, -⟩ := perform_eq_committed_iff.mp h
    rw [late_mem_reasons_iff, ← not_or]
    intro hkind
    rw [Stage.permits_of_flush_or_close hkind] at hpermits
    cases hpermits
  · exact reason_mem_of_argumentFault? hfault

/-- Every listed reason is met by some call, on a new draft or on a complete one. -/
theorem exists_perform_of_reason_mem {kind : Kind} {reason : Reason} (h : reason ∈ reasons kind) :
    ∃ (calls : List Call) (refusal : Refusal) (next : Draft),
      Sink.perform (badCall kind reason) (ofCalls calls) = .error refusal next ∧
        refusal.reason = reason := by
  by_cases hlate : reason = .late
  · subst hlate
    refine ⟨[.close], .committed kind, ofCalls [.close], ?_, rfl⟩
    obtain ⟨hflush, hclose⟩ := (late_mem_reasons_iff kind).mp h
    rw [perform_eq_committed_iff, kind_badCall]
    refine ⟨?_, rfl, rfl⟩
    show (decide (kind = .flush) || decide (kind = .close)) = false
    rw [decide_eq_false hflush, decide_eq_false hclose]
    rfl
  · obtain ⟨refusal, hfault, hreason⟩ :=
      Option.map_eq_some_iff.mp (argumentFault?_badCall h hlate)
    refine ⟨[], refusal, ofCalls [], ?_, hreason⟩
    rw [perform_eq, Stage.refusal?, hfault]
    rfl

/-- **Why calls are refused.** Every text that stores or drops a cookie, and the text of every
instant whose year can be written, can stand in a header. So the check of such a text refuses
nothing, and the reasons for which a call of a kind is refused, after any calls and with any
arguments, are those that are listed for it: a cookie can only be late or no cookie, a date can only
be late, under no header name or out of range, a length can only be late, and so on. -/
theorem refusals_are_listed :
    (∀ (cookie : Cookie) (text : String),
      storeCookie cookie = .ok text ∨ dropCookie cookie = .ok text → isFieldValue text = true) ∧
    (∀ time : Instant, isWritableYear (CivilDate.ofDayNumber time.dayNumber).year = true →
      ∃ text, dateText? time = some text ∧ isFieldValue text = true) ∧
    ∀ (kind : Kind) (reason : Reason), reason ∈ reasons kind ↔
      ∃ (calls : List Call) (call : Call) (refusal : Refusal) (next : Draft), call.kind = kind ∧
        refusal.reason = reason ∧ Sink.perform call (ofCalls calls) = .error refusal next := by
  refine ⟨?_, ?_, fun kind reason => ⟨fun h => ?_, ?_⟩⟩
  · rintro cookie text (hstore | hdrop)
    · exact isFieldValue_of_storeCookie hstore
    · exact isFieldValue_of_dropCookie hdrop
  · intro time hyear
    obtain ⟨text, htext⟩ := exists_dateText? hyear
    exact ⟨text, htext, isFieldValue_of_dateText? htext⟩
  · obtain ⟨calls, refusal, next, hrefused, hreason⟩ := exists_perform_of_reason_mem h
    exact ⟨calls, badCall kind reason, refusal, next, kind_badCall kind reason, hreason, hrefused⟩
  · rintro ⟨calls, call, refusal, next, rfl, rfl, hrefused⟩
    exact reason_mem_of_perform hrefused

end Draft

end Http

end DeferredResponse
