/-!
# Header fields

What a header name and a header value may be. Names are tokens and are compared without regard to
case, so they are kept in lower case; values are free of control characters.
-/

namespace DeferredResponse.Http

/-- The marks that may stand in a token. -/
def tokenMarks : List Char :=
  ['!', '#', '$', '%', '&', '\'', '*', '+', '-', '.', '^', '_', '\x60', '|', '~']

/-- The characters of a token: ASCII letters and digits, and the marks. -/
def isTokenChar (c : Char) : Bool := c.isAlphanum || tokenMarks.contains c

/-- The greatest number of characters in a header name. -/
def maxNameLength : Nat := 65535

def isFieldName (name : String) : Bool :=
  let chars := name.toList
  !chars.isEmpty && chars.all isTokenChar && chars.length ≤ maxNameLength

/-- The form in which a header name is kept. -/
def canonicalName (name : String) : String := String.ofList (name.toList.map Char.toLower)

/-- The kept form of a header name, if the text can name a header. -/
def fieldName? (name : String) : Option String :=
  if isFieldName name then some (canonicalName name) else none

/-- Whether a character may stand in a header value: a tab, or no ASCII control character. -/
def isValueChar (c : Char) : Bool := c = '\t' || (0x20 ≤ c.toNat && c.toNat ≠ 0x7f)

def isFieldValue (value : String) : Bool := value.toList.all isValueChar

/-- Whether a header value is ASCII, and so can be shown as it is. -/
def isShownValue (value : String) : Bool :=
  value.toList.all fun c => c = '\t' || (0x20 ≤ c.toNat && c.toNat < 0x7f)

/-! ## Names that the response itself sets -/

def setCookie : String := "set-cookie"

def contentLength : String := "content-length"

def contentType : String := "content-type"

def location : String := "location"

end DeferredResponse.Http
