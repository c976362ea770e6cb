import DeferredResponse.Operation

/-!
# Action logs

A `Log` is the ordered record of what was done to a response. Every question about the response is
answered by a scan of the entries; nothing is kept beside them.
-/

namespace DeferredResponse

/-- Recorded actions, first to last. -/
structure Log where
  entries : List Action := []
  deriving BEq, Repr

namespace Log

def empty : Log := {}

def push (log : Log) (action : Action) : Log := { entries := log.entries ++ [action] }

def size (log : Log) : Nat := log.entries.length

def isEmpty (log : Log) : Bool := log.entries.isEmpty

def last? (log : Log) : Option Action := log.entries.getLast?

/-- Puts an action in the place of the last entry. -/
def replaceLast (log : Log) (action : Action) : Log :=
  { entries := log.entries.dropLast ++ [action] }

/-- Extends the text entry that stands last, or opens one. -/
def appendText (log : Log) (text : String) : Log :=
  match log.last? with
  | some (.writeText written) => log.replaceLast (.writeText (written ++ text))
  | _ => log.push (.writeText text)

/-- Extends the byte entry that stands last by a chunk, or opens one. -/
def appendBytes (log : Log) (chunk : Bytes) : Log :=
  match log.last? with
  | some (.writeBytes body) => log.replaceLast (.writeBytes (body.push chunk))
  | _ => log.push (.writeBytes (.ofBytes chunk))

/-! ## Queries -/

def kinds (log : Log) : List Kind := log.entries.map Operation.kind

def contains (log : Log) (kind : Kind) : Bool := log.entries.any fun a => a.kind = kind

def count (log : Log) (kind : Kind) : Nat := log.entries.countP fun a => a.kind = kind

def hasError (log : Log) : Bool := log.contains .sendError

def isRedirect (log : Log) : Bool :=
  log.entries.any fun
    | .sendRedirect _ => true
    | _ => false

/-- The address of the last redirect. -/
def redirectLocation? (log : Log) : Option String :=
  log.entries.reverse.findSome? fun
    | .sendRedirect url => some url
    | _ => none

end Log

end DeferredResponse
