import DeferredResponse.Body
import DeferredResponse.Instant

/-!
# Response operations

The thirteen things that a handler can do to a response. A `Call` is an operation as it is issued,
with plain bytes; an `Action` is an operation as it is recorded, whose bytes may have arrived in
several chunks. `Action.toCall` is the call that an action stands for.

A cookie is taken as a handler states it: whether it can be sent is a question for the response that
it is added to.
-/

namespace DeferredResponse

/-- A response cookie with its scope and lifetime. -/
structure Cookie where
  name : String
  value : String
  /-- The path to which the cookie is limited. -/
  path : Option String := none
  /-- The domain to which the cookie is opened. -/
  domain : Option String := none
  /-- The lifetime in seconds; a cookie without one ends with the session. -/
  maxAge : Option Int64 := none
  /-- Whether the cookie is sent over secure connections only. -/
  secure : Bool := false
  /-- Whether scripts are kept from reading the cookie. -/
  httpOnly : Bool := false
  deriving DecidableEq, Repr

/-- An operation on a response, whose byte writes carry payloads of type `β`. -/
inductive Operation (β : Type) where
  | addCookie (cookie : Cookie)
  | clearCookie (cookie : Cookie)
  | setHeader (name value : String)
  | setDateHeader (name : String) (date : Instant)
  | setContentLength (length : UInt64)
  | setContentType (mime : String)
  | setStatus (status : UInt16)
  | sendError (status : UInt16) (message : String)
  | sendRedirect (url : String)
  | writeText (text : String)
  | writeBytes (payload : β)
  | flush
  | close
  deriving BEq, DecidableEq, Repr

/-- An operation as it is issued. -/
abbrev Call := Operation Bytes

/-- An operation as it is recorded. -/
abbrev Action := Operation ByteBody

inductive Kind where
  | addCookie
  | clearCookie
  | setHeader
  | setDateHeader
  | setContentLength
  | setContentType
  | setStatus
  | sendError
  | sendRedirect
  | writeText
  | writeBytes
  | flush
  | close
  deriving DecidableEq, Repr

namespace Kind

/-- Every kind, in the order of declaration. -/
def all : List Kind :=
  [addCookie, clearCookie, setHeader, setDateHeader, setContentLength, setContentType, setStatus,
    sendError, sendRedirect, writeText, writeBytes, flush, close]

/-- The name under which an entry of this kind is reported. -/
def name : Kind → String
  | addCookie => "AddCookie"
  | clearCookie => "ClearCookie"
  | setHeader => "SetHeader"
  | setDateHeader => "SetDateHeader"
  | setContentLength => "SetContentLength"
  | setContentType => "SetContentType"
  | setStatus => "SetStatus"
  | sendError => "SendError"
  | sendRedirect => "SendRedirect"
  | writeText => "WriteText"
  | writeBytes => "WriteBytes"
  | flush => "Flush"
  | close => "Close"

/-- The name of the call that issues an operation of this kind. -/
def callName : Kind → String
  | addCookie => "add_cookie"
  | clearCookie => "clear_cookie"
  | setHeader => "set_header"
  | setDateHeader => "set_date_header"
  | setContentLength => "set_content_length"
  | setContentType => "set_content_type"
  | setStatus => "set_status"
  | sendError => "send_error"
  | sendRedirect => "send_redirect"
  | writeText => "write_text"
  | writeBytes => "write_bytes"
  | flush => "flush"
  | close => "close"

/-- Whether operations of this kind add to the body. -/
def isBodyWrite : Kind → Bool
  | writeText | writeBytes => true
  | _ => false

end Kind

namespace Operation

variable {β γ : Type}

def kind : Operation β → Kind
  | addCookie _ => .addCookie
  | clearCookie _ => .clearCookie
  | setHeader .. => .setHeader
  | setDateHeader .. => .setDateHeader
  | setContentLength _ => .setContentLength
  | setContentType _ => .setContentType
  | setStatus _ => .setStatus
  | sendError .. => .sendError
  | sendRedirect _ => .sendRedirect
  | writeText _ => .writeText
  | writeBytes _ => .writeBytes
  | flush => .flush
  | close => .close

def isBodyWrite (op : Operation β) : Bool := op.kind.isBodyWrite

/-- Applies `f` to the payload of a byte write. -/
def map (f : β → γ) : Operation β → Operation γ
  | addCookie cookie => addCookie cookie
  | clearCookie cookie => clearCookie cookie
  | setHeader name value => setHeader name value
  | setDateHeader name date => setDateHeader name date
  | setContentLength length => setContentLength length
  | setContentType mime => setContentType mime
  | setStatus status => setStatus status
  | sendError status message => sendError status message
  | sendRedirect url => sendRedirect url
  | writeText text => writeText text
  | writeBytes payload => writeBytes (f payload)
  | flush => flush
  | close => close

@[simp] theorem kind_map (f : β → γ) (op : Operation β) : (op.map f).kind = op.kind := by
  cases op <;> rfl

/-- The call that a recorded action stands for: its bytes are handed out in one piece. -/
def toCall (action : Action) : Call := action.map ByteBody.toBytes

/-- The action that records a call by itself. -/
def toAction (call : Call) : Action := call.map ByteBody.ofBytes

@[simp] theorem kind_toCall (action : Action) : action.toCall.kind = action.kind :=
  kind_map _ action

@[simp] theorem kind_toAction (call : Call) : call.toAction.kind = call.kind :=
  kind_map _ call

@[simp] theorem toCall_toAction (call : Call) : call.toAction.toCall = call := by
  cases call <;> simp [toAction, toCall, map]

end Operation

end DeferredResponse
