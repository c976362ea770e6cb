import DeferredResponse.Toml.Value

/-!
# Table assembly

How statements build the table of a document. A key gets a value once. A table gets a header of its
own once. What dotted keys made is extended by dotted keys, what headers made by headers; what
stands between braces or brackets is complete.
-/

namespace DeferredResponse.Toml

namespace Entries

/-- Gives the value of a key that is present a new form. -/
def replace (key : String) (value : Value) (entries : Entries) : Entries :=
  entries.map fun entry => if entry.1 = key then (key, value) else entry

def erase (key : String) (entries : Entries) : Entries :=
  entries.filter fun entry => entry.1 ≠ key

/-- Adds a key that is not present yet. -/
def insertNew? (key : String) (value : Value) (entries : Entries) : Option Entries :=
  if (entries.lookup key).isSome then none else some (entries ++ [(key, value)])

/-- Changes the table that a path leads to. A missing table is created on the way; of an array of
tables the last element is meant. Dotted keys do not enter tables that have a header. -/
def change? (byDots : Bool) (change : Origin → Entries → Option Entries) :
    List String → Origin → Entries → Option Entries
  | [], origin, entries => change origin entries
  | key :: path, _, entries =>
    match entries.lookup key with
    | none => do
      let origin := if byDots then Origin.dotted else .implied
      let inner ← change? byDots change path origin []
      return entries ++ [(key, .table origin inner)]
    | some (.table origin inner) => do
      if origin = .inline ∨ (byDots ∧ origin = .header) then none
      let inner ← change? byDots change path origin inner
      return replace key (.table origin inner) entries
    | some (.tables elements) => do
      let inner ← change? byDots change path .header (← elements.getLast?)
      return replace key (.tables (elements.dropLast ++ [inner])) entries
    | some _ => none

/-- Gives a value to a key. A dotted key adds to no table but those that dotted keys made. -/
def assign? (path : List String) (value : Value) (entries : Entries) : Option Entries := do
  let key ← path.getLast?
  let add (origin : Origin) (inner : Entries) : Option Entries :=
    if path.length = 1 ∨ origin = .dotted then insertNew? key value inner else none
  change? true add path.dropLast .header entries

/-- The table of key-value pairs between braces. -/
def ofAssignments? (pairs : List (List String × Value)) : Option Entries :=
  pairs.foldlM (fun entries (path, value) => entries.assign? path value) []

/-- Opens a table by its header. The table may have been implied by tables inside it; then it keeps
them and moves behind the other keys. -/
def openTable? (path : List String) (entries : Entries) : Option Entries := do
  let key ← path.getLast?
  let add (_ : Origin) (inner : Entries) : Option Entries :=
    match inner.lookup key with
    | none => some (inner ++ [(key, .table .header [])])
    | some (.table .implied contents) => some (erase key inner ++ [(key, .table .header contents)])
    | some _ => none
  change? false add path.dropLast .header entries

/-- Opens a new element of an array of tables. -/
def openElement? (path : List String) (entries : Entries) : Option Entries := do
  let key ← path.getLast?
  let add (_ : Origin) (inner : Entries) : Option Entries :=
    match inner.lookup key with
    | none => some (inner ++ [(key, .tables [[]])])
    | some (.tables elements) => some (replace key (.tables (elements ++ [[]])) inner)
    | some _ => none
  change? false add path.dropLast .header entries

end Entries

/-- A table in the making, and the path of the table that is open. -/
structure Assembly where
  entries : Entries := []
  path : List String := []

def Assembly.add? (assembly : Assembly) : Statement → Option Assembly
  | .assign path value => do
    let add (_ : Origin) (inner : Entries) : Option Entries := inner.assign? path value
    return { assembly with entries := ← assembly.entries.change? false add assembly.path .header }
  | .table path => do
    return { entries := ← assembly.entries.openTable? path, path }
  | .element path => do
    return { entries := ← assembly.entries.openElement? path, path }

/-- The table that statements describe, if they agree with each other. -/
def assemble? (statements : List Statement) : Option Entries :=
  (statements.foldlM Assembly.add? {}).map Assembly.entries

end DeferredResponse.Toml
