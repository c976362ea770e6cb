import DeferredResponse.Http.Date
import DeferredResponse.Http.Refusal

/-!
# Cookie headers

The value of a `Set-Cookie` header that stores a cookie or makes a client drop it. A cookie whose
text could end a part early, or start another one, is refused: the name, the value, the path and the
domain are checked in this order.
-/

namespace DeferredResponse.Http

/-- The marks that cannot stand in a cookie's name. -/
def nameSeparators : List Char :=
  ['(', ')', '<', '>', '@', ',', ';', ':', '\\', '"', '/', '[', ']', '?', '=', '\x7b', '\x7d']

/-- The characters of a cookie's name: visible ASCII except the separators. -/
def isCookieNameChar (c : Char) : Bool :=
  0x21 ≤ c.toNat && c.toNat ≤ 0x7e && !nameSeparators.contains c

def isCookieName (name : String) : Bool :=
  let chars := name.toList
  !chars.isEmpty && chars.all isCookieNameChar

/-- The marks that cannot stand in a cookie's value. -/
def valueSeparators : List Char := ['"', ',', ';', '\\']

/-- The characters of a cookie's value: visible ASCII except the separators. -/
def isCookieOctet (c : Char) : Bool :=
  0x21 ≤ c.toNat && c.toNat ≤ 0x7e && !valueSeparators.contains c

/-- A text without the quotes around it; a text that does not both start and end with its own quote
is left as it is. -/
def withoutQuotes : List Char → List Char
  | '"' :: rest => if rest.getLast? = some '"' then rest.dropLast else '"' :: rest
  | chars => chars

def isCookieValue (value : String) : Bool := (withoutQuotes value.toList).all isCookieOctet

/-- Whether a text can be the value of a cookie attribute: printable ASCII without semicolons. -/
def isAttributeValue (value : String) : Bool :=
  value.toList.all fun c => 0x20 ≤ c.toNat && c.toNat ≤ 0x7e && c ≠ ';'

/-- The first part of a cookie that cannot be sent, apart from its value. -/
def scopeFault? (cookie : Cookie) : Option CookiePart :=
  if cookie.path.any fun path => !isAttributeValue path then some .path
  else if cookie.domain.any fun domain => !isAttributeValue domain then some .domain
  else none

/-- The first part that keeps a cookie from being stored. -/
def storeFault? (cookie : Cookie) : Option CookiePart :=
  if !isCookieName cookie.name then some .name
  else if !isCookieValue cookie.value then some .value
  else scopeFault? cookie

/-- The first part that keeps a cookie from being dropped; its value is not sent and so not looked
at. -/
def dropFault? (cookie : Cookie) : Option CookiePart :=
  if !isCookieName cookie.name then some .name else scopeFault? cookie

/-- The attributes that say where a cookie belongs. -/
def scopeAttributes (cookie : Cookie) : List String :=
  cookie.path.toList.map ("Path=" ++ ·) ++ cookie.domain.toList.map ("Domain=" ++ ·) ++
    (if cookie.secure then ["Secure"] else []) ++ (if cookie.httpOnly then ["HttpOnly"] else [])

def storeAttributes (cookie : Cookie) : List String :=
  cookie.maxAge.toList.map (fun age => "Max-Age=" ++ toString age.toInt) ++ scopeAttributes cookie

/-- The attributes with which a cookie is dropped: it expired at the start of 1970. -/
def dropAttributes (cookie : Cookie) : List String :=
  "Max-Age=0" :: (dateText? .epoch).toList.map ("Expires=" ++ ·) ++ scopeAttributes cookie

/-- A pair of name and value followed by attributes. -/
def cookieText (name value : String) (attributes : List String) : String :=
  attributes.foldl (fun text part => text ++ "; " ++ part) (name ++ "=" ++ value)

/-- The header value that stores a cookie. -/
def storeCookie (cookie : Cookie) : Except Refusal String :=
  match storeFault? cookie with
  | some part => .error (.cookie cookie.name part)
  | none => .ok (cookieText cookie.name cookie.value (storeAttributes cookie))

/-- The header value that makes a client drop a cookie. -/
def dropCookie (cookie : Cookie) : Except Refusal String :=
  match dropFault? cookie with
  | some part => .error (.cookie cookie.name part)
  | none => .ok (cookieText cookie.name "" (dropAttributes cookie))

end DeferredResponse.Http
