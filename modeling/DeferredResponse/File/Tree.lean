import DeferredResponse.File

/-!
# Trees of files

Where a path leads in a tree of directories. A path is followed name by name from the root, if it
starts with a slash, and from a given directory otherwise; each name is looked up in the directory
reached so far, so the first name that cannot be followed gives the fault.
-/

namespace DeferredResponse.File

/-- A place in a tree: the names that lead to it from the root, the last one first. -/
abbrev Place := List String

/-- What there is at a place. -/
inductive Entry where
  | file (content : ByteArray)
  | directory

/-- A tree of files: what there is at each place. -/
abbrev Tree := Place → Option Entry

/-- The most bytes that a name may have. -/
def nameLimit : Nat := 255

/-- The most bytes that a path may have. -/
def pathLimit : Nat := 4095

/-- The names on a path. A slash at either end, or beside another one, gives an empty name. -/
def names (path : String) : List String := (path.toList.splitOn '/').map String.ofList

/-- The place that a name leads to. The root lies above itself. -/
def Tree.step (tree : Tree) (place : Place) (name : String) : Except Fault Place :=
  match tree place with
  | none => .error .missing
  | some (.file _) => .error .notDirectory
  | some .directory =>
    if name = "" ∨ name = "." then .ok place
    else if name = ".." then .ok place.tail
    else if nameLimit < name.utf8ByteSize then .error .nameTooLong
    else .ok (name :: place)

/-- The content of the file at a place. -/
def Tree.content (tree : Tree) (place : Place) : Except Fault ByteArray :=
  match tree place with
  | none => .error .missing
  | some (.file content) => .ok content
  | some .directory => .error .isDirectory

/-- The content of the file that a path leads to; paths without a slash in front begin at `base`. -/
def Tree.read (tree : Tree) (base : Place) (path : String) : Except Fault ByteArray :=
  if pathLimit < path.utf8ByteSize then .error .nameTooLong
  else do
    let start := if path.startsWith "/" then [] else base
    tree.content (← (names path).foldlM tree.step start)

end DeferredResponse.File
