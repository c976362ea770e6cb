import DeferredResponse.Instant
import DeferredResponse.Operation
import DeferredResponse.Text.Quoted

/-!
# Refusals

Why a response refuses a call, and the text of each reason. A caller's text appears quoted, except
the name of a header with a bad value, which was found to be a header name before the value was
looked at.
-/

namespace DeferredResponse.Http

/-- The parts of a cookie that are checked. -/
inductive CookiePart where
  | name
  | value
  | path
  | domain
  deriving DecidableEq, Repr

/-- The word for a part of a cookie. -/
def CookiePart.text : CookiePart → String
  | name => "name"
  | value => "value"
  | path => "path"
  | domain => "domain"

/-- Why a response refuses a call. -/
inductive Refusal where
  | headerName (name : String)
  /-- The text given for the named header cannot be a header value. -/
  | headerValue (name : String)
  | status (code : UInt16)
  /-- A part of the named cookie cannot be sent. -/
  | cookie (name : String) (part : CookiePart)
  /-- The response is too far committed for a call of this kind. -/
  | committed (kind : Kind)
  /-- The instant lies outside the years that can be written. -/
  | date (time : Instant)
  deriving DecidableEq, Repr

namespace Refusal

def message : Refusal → String
  | headerName name => "invalid header name " ++ Text.quote name
  | headerValue name => "invalid value for header " ++ name
  | status code => "invalid status code " ++ toString code.toNat
  | cookie name part =>
    "invalid cookie " ++ Text.quote name ++ ": " ++ part.text ++ " not allowed in Set-Cookie"
  | committed kind => "response already committed, cannot " ++ kind.callName
  | date _ => "date out of range"

/-- The text of the rule that was broken, where a refusal has one beneath it. -/
def source? : Refusal → Option String
  | headerName _ => some "invalid HTTP header name"
  | headerValue _ => some "failed to parse header value"
  | status _ => some "invalid status code"
  | cookie .. | committed _ | date _ => none

end Refusal

end DeferredResponse.Http
