import DeferredResponse.Buffer.Step

/-!
# The inventory page

A handler that renders a list of goods into a buffer, as HTML or as JSON, and can fail on the way.
What it recorded before a failure stays in the buffer; whoever called it resets the buffer and
renders the failure instead.
-/

namespace DeferredResponse.Page

inductive Format where
  | html
  | json
  deriving DecidableEq, Repr

/-- What is asked of the handler. -/
structure Request where
  format : Format := .html
  /-- Whether the inventory breaks down. -/
  fail : Bool := false
  /-- An address to send the client to instead of the page. -/
  redirect : Option String := none
  deriving DecidableEq, Repr

/-- Why the page could not be rendered. -/
inductive Failure where
  /-- The body is already of the other mode. -/
  | conflict (conflict : ModeConflict)
  /-- A piece of formatted text was refused. -/
  | format
  /-- The inventory broke down after a number of goods. -/
  | brokeDown (delivered : Nat)
  /-- The inventory did not answer. -/
  | unavailable
  deriving DecidableEq, Repr

def Failure.message : Failure → String
  | .conflict cause => cause.message
  | .format => Buffer.Fault.format.message
  | .brokeDown delivered => s!"inventory backend went away after {delivered} items"
  | .unavailable => "inventory backend unavailable"

def title : String := "Inventory"

def goods : List String := ["bolts", "nuts", "washers"]

/-- The cookie that marks a visit. -/
def visitCookie : Cookie := { name := "visited", value := "1", path := some "/", httpOnly := true }

/-- How long a page stays fresh, in seconds. -/
def freshness : Int := 60

/-- How many goods are delivered before the inventory breaks down. -/
def deliveredBeforeFailure : Nat := 1

/-! ## HTML -/

def write (text : String) : EStateM Failure Buffer Unit :=
  EStateM.adaptExcept .conflict (Buffer.writeText text)

def writeFormatted (pieces : List String) : EStateM Failure Buffer Unit :=
  EStateM.adaptExcept (fun _ => .format) (Buffer.writePieces pieces)

/-- Writes the items of the list, the first of which has the given position. -/
def writeItems (fail : Bool) (position : Nat) : List String → EStateM Failure Buffer Unit
  | [] => pure ()
  | item :: rest => do
    if fail ∧ position = deliveredBeforeFailure then
      throw (.brokeDown position)
    writeFormatted ["  <li>", item, "</li>\n"]
    writeItems fail (position + 1) rest

def renderHtml (fail : Bool) : EStateM Failure Buffer Unit := do
  modify (·.push (.setContentType "text/html; charset=utf-8"))
  write ("<h1>" ++ title ++ "</h1>\n<ul>\n")
  writeItems fail 0 goods
  write "</ul>"

/-! ## JSON -/

/-- A text as JSON; the texts of the page need no escapes. -/
def jsonString (text : String) : String := "\"" ++ text ++ "\""

/-- The page as JSON, with one value a line. -/
def jsonText : String :=
  "\x7b\n  \"title\": " ++ jsonString title ++ ",\n  \"items\": [\n" ++
    ",\n".intercalate (goods.map fun item => "    " ++ jsonString item) ++ "\n  ]\n\x7d"

def renderJson (fail : Bool) : EStateM Failure Buffer Unit := do
  if fail then
    throw .unavailable
  let body := utf8 jsonText
  modify (·.push (.setContentType "application/json"))
  modify (·.push (.setContentLength (UInt64.ofNat body.length)))
  EStateM.adaptExcept .conflict (Buffer.writeBytes body)

/-! ## The handler -/

/-- Renders the page at a moment, or the redirect that is asked for. -/
def render (request : Request) (now : Instant) : EStateM Failure Buffer Unit :=
  match request.redirect with
  | some url => modify (·.push (.sendRedirect url))
  | none => do
    modify (·.push (.setStatus 200))
    modify (·.push (.addCookie visitCookie))
    modify (·.push (.setDateHeader "Expires" (now.addSeconds freshness)))
    match request.format with
    | .html => renderHtml request.fail
    | .json => renderJson request.fail
    modify (·.push .close)

/-- Renders the page that reports a failure. -/
def renderFailure (failure : Failure) (buffer : Buffer) : Buffer :=
  (buffer.push (.setHeader "Cache-Control" "no-store")).push
    (.sendError 503 ("service unavailable: " ++ failure.message))

/-- The buffer that reports a failure, from whatever an attempt left behind. -/
def recover (failure : Failure) (buffer : Buffer) : Buffer := renderFailure failure buffer.reset

end DeferredResponse.Page
