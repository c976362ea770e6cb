import DeferredResponse.Decimal.Binary

/-!
# TOML values

The values of a document, and the statements of which a document consists. A table remembers how it
came about, since that decides what may still be added to it.
-/

namespace DeferredResponse.Toml

/-- How a table came about. -/
inductive Origin where
  /-- By its own header, or as the table of the whole document. -/
  | header
  /-- By the header of a table inside it. -/
  | implied
  /-- By a dotted key. -/
  | dotted
  /-- Between braces. -/
  | inline
  deriving DecidableEq, Repr

inductive Value where
  | string (text : String)
  | integer (number : Int)
  | float (number : Decimal.Binary)
  | boolean (truth : Bool)
  | datetime (text : String)
  | array (elements : List Value)
  | table (origin : Origin) (entries : List (String × Value))
  /-- An array of tables that were opened by headers. -/
  | tables (elements : List (List (String × Value)))

/-- The entries of a table, in order. -/
abbrev Entries := List (String × Value)

inductive Statement where
  | assign (path : List String) (value : Value)
  | table (path : List String)
  /-- Opens a new element of an array of tables. -/
  | element (path : List String)

end DeferredResponse.Toml
