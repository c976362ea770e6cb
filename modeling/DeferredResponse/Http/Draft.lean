import DeferredResponse.Buffer
import DeferredResponse.Http.Field
import DeferredResponse.Http.Headers
import DeferredResponse.Http.SetCookie

/-!
# Draft responses

A `Draft` is the sink that builds the response to be sent. It starts editable. A flush sends the
headers: from then on only body writes are taken. An error, a redirect or a close completes it: from
then on only flushes and closes are taken, and they change nothing. The stage is looked at before
the arguments, and a refused call leaves the draft as it was.

Committing a buffer replays its log onto a new draft and sends the response that the draft has
become, unless a call is refused on the way.
-/

namespace DeferredResponse.Http

/-- How far a response is committed. -/
inductive Stage where
  /-- Status, headers and body can change. -/
  | editable
  /-- The headers are final; the body can grow. -/
  | headersSent
  /-- The response is final. -/
  | completed
  deriving DecidableEq, Repr

/-- Whether calls of a kind are taken at a stage. -/
def Stage.permits : Stage → Kind → Bool
  | editable, _ => true
  | headersSent, kind => kind.isBodyWrite || kind = .flush || kind = .close
  | completed, kind => kind = .flush || kind = .close

/-- A finished response. -/
structure Response where
  status : UInt16
  headers : Headers
  body : Bytes
  deriving DecidableEq, Repr

/-- A response that is being built. -/
structure Draft where
  status : UInt16 := 200
  headers : Headers := {}
  body : ByteBody := {}
  stage : Stage := .editable
  deriving Repr

namespace Draft

/-- Whether the headers can no longer change. -/
def isCommitted (draft : Draft) : Bool := draft.stage ≠ .editable

def bodySize (draft : Draft) : Nat := draft.body.size

/-- The response as it stands. -/
def toResponse (draft : Draft) : Response :=
  { status := draft.status, headers := draft.headers, body := draft.body.toBytes }

/-! ## Changes -/

def withHeader (draft : Draft) (name value : String) : Draft :=
  { draft with headers := draft.headers.insert name value }

def withCookie (draft : Draft) (value : String) : Draft :=
  { draft with headers := draft.headers.append setCookie value }

def withBytes (draft : Draft) (bytes : Bytes) : Draft :=
  { draft with body := draft.body.push bytes }

def complete (draft : Draft) : Draft := { draft with stage := .completed }

/-- Sends the headers, unless they are sent already. -/
def sendHeaders (draft : Draft) : Draft :=
  if draft.stage = .editable then { draft with stage := .headersSent } else draft

/-- The media type of the body of an error. -/
def errorType : String := "text/plain; charset=utf-8"

/-- The complete response that reports an error: the message takes the place of the body. -/
def withError (draft : Draft) (code : UInt16) (message : String) : Draft :=
  { status := code
    headers := (draft.headers.erase contentLength).insert contentType errorType
    body := ByteBody.ofBytes (utf8 message)
    stage := .completed }

/-- The complete response that sends the client elsewhere: it has no body. -/
def withRedirect (draft : Draft) (url : String) : Draft :=
  { status := 302
    headers := (draft.headers.insert location url).erase contentLength
    body := ByteBody.empty
    stage := .completed }

/-! ## Calls -/

def checkName (name : String) : Except Refusal String :=
  match fieldName? name with
  | some kept => .ok kept
  | none => .error (.headerName name)

/-- A text that can be the value of the named header. -/
def checkValue (name value : String) : Except Refusal String :=
  if isFieldValue value then .ok value else .error (.headerValue name)

def checkStatus (code : UInt16) : Except Refusal UInt16 :=
  if 100 ≤ code ∧ code ≤ 999 then .ok code else .error (.status code)

def checkDate (time : Instant) : Except Refusal String :=
  match dateText? time with
  | some text => .ok text
  | none => .error (.date time)

/-- What a call does to a draft, unless its arguments are refused. -/
def effect : Call → Except Refusal (Draft → Draft)
  | .addCookie cookie => do
    let value ← checkValue setCookie (← storeCookie cookie)
    return (·.withCookie value)
  | .clearCookie cookie => do
    let value ← checkValue setCookie (← dropCookie cookie)
    return (·.withCookie value)
  | .setHeader name value => do
    let kept ← checkName name
    let value ← checkValue name value
    return (·.withHeader kept value)
  | .setDateHeader name date => do
    let kept ← checkName name
    let value ← checkValue name (← checkDate date)
    return (·.withHeader kept value)
  | .setContentLength length => return (·.withHeader contentLength (toString length.toNat))
  | .setContentType mime => do
    let value ← checkValue contentType mime
    return (·.withHeader contentType value)
  | .setStatus code => do
    let code ← checkStatus code
    return ({ · with status := code })
  | .sendError code message => do
    let code ← checkStatus code
    return (·.withError code message)
  | .sendRedirect url => do
    let url ← checkValue location url
    return (·.withRedirect url)
  | .writeText text => return (·.withBytes (utf8 text))
  | .writeBytes bytes => return (·.withBytes bytes)
  | .flush => return sendHeaders
  | .close => return complete

/-- Applies a call, if the stage permits it and its arguments are good. -/
def perform (call : Call) : EStateM Refusal Draft Unit := fun draft =>
  if draft.stage.permits call.kind then
    match effect call with
    | .ok change => .ok () (change draft)
    | .error refusal => .error refusal draft
  else .error (.committed call.kind) draft

instance : Sink Draft Refusal := ⟨perform⟩

instance : LawfulSink Draft where
  eq_of_perform_error h := by
    simp only [Sink.perform, perform] at h
    split at h
    · split at h <;> simp_all
    · simp_all

end Draft

/-- The response to which a buffer's log leads, replayed onto a new draft. -/
def commit (buffer : Buffer) : Except (ReplayError Refusal) Response :=
  match buffer.log.replay.run ({} : Draft) with
  | .ok () draft => .ok draft.toResponse
  | .error error _ => .error error

end DeferredResponse.Http
