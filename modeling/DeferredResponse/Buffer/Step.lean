import DeferredResponse.Buffer

/-!
# Ways into a buffer

Besides the calls that it records, a buffer takes borrowed slices, formatted text that arrives piece
by piece, and a byte stream. Each way adapts one of the two body writes, so all of them share the
rule on body modes; a piece that is refused ends the formatted text it belongs to.
-/

namespace DeferredResponse.Buffer

/-- One thing a handler does to a buffer. -/
inductive Step where
  | call (call : Call)
  /-- Copies a borrowed slice into the body. -/
  | slice (bytes : Bytes)
  /-- Writes formatted text, one piece after the other. -/
  | format (pieces : List String)
  /-- Offers bytes to the byte stream. -/
  | stream (bytes : Bytes)
  /-- Sends bytes through the byte stream until none is left. -/
  | streamAll (bytes : Bytes)
  | streamFlush
  | reset
  deriving DecidableEq, Repr

/-- Why a step was refused. -/
inductive Fault where
  /-- A body write met a body of the other mode. -/
  | conflict (conflict : ModeConflict)
  /-- The byte stream met a body of the other mode. -/
  | stream (conflict : ModeConflict)
  /-- A piece of formatted text was refused; the reason is not passed on. -/
  | format
  deriving DecidableEq, Repr

def Fault.message : Fault → String
  | .conflict cause | .stream cause => cause.message
  | .format => "an error occurred when formatting an argument"

/-- Replaces the cause of a refusal. -/
def refuseAs {α : Type} (cause : ModeConflict → Fault) (write : EStateM ModeConflict Buffer α) :
    EStateM Fault Buffer α :=
  EStateM.adaptExcept cause write

/-- Writes pieces of formatted text up to the first that is refused. -/
def writePieces : List String → EStateM ModeConflict Buffer Unit
  | [] => pure ()
  | piece :: rest => do
    writeText piece
    writePieces rest

/-- Takes all bytes that are offered and answers their number. -/
def streamWrite (bytes : Bytes) : EStateM ModeConflict Buffer Nat := do
  writeBytes bytes
  return bytes.length

/-- Takes all bytes that are offered; without bytes nothing is written at all. -/
def streamWriteAll (bytes : Bytes) : EStateM ModeConflict Buffer Unit :=
  if bytes.isEmpty then pure () else discard (streamWrite bytes)

/-- Performs a step; a stream write answers how many bytes it took. -/
def Step.run : Step → EStateM Fault Buffer (Option Nat)
  | .call issued => do
    refuseAs .conflict (record issued)
    return none
  | .slice bytes => do
    refuseAs .conflict (writeBytes bytes)
    return none
  | .format pieces => do
    refuseAs (fun _ => .format) (writePieces pieces)
    return none
  | .stream bytes => do
    let taken ← refuseAs .stream (streamWrite bytes)
    return some taken
  | .streamAll bytes => do
    refuseAs .stream (streamWriteAll bytes)
    return none
  | .streamFlush => do
    refuseAs .stream (record .flush)
    return none
  | .reset => do
    modify Buffer.reset
    return none

end DeferredResponse.Buffer
