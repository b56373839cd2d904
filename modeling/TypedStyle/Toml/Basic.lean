import TypedStyle.Text.Basic
/-!
# TOML values

A TOML document denotes a table.  How a table came about is kept with it, since it decides what may
be added to it later.  Floats and points in time are kept as they are written.
-/

namespace TypedStyle.Toml

/-- How a table came about. -/
inductive Origin where
  /-- By a header of its own, as the root, or as a member of an array of tables. -/
  | header
  /-- By the header of a table inside it. -/
  | implied
  /-- By a dotted key. -/
  | dotted
  /-- Between braces. -/
  | inline
  deriving DecidableEq, Repr

/-- A TOML value. -/
inductive Node where
  | string (content : Text)
  | integer (value : Int)
  | float (literal : Text)
  | boolean (value : Bool)
  | time (literal : Text)
  | array (items : List Node)
  | table (origin : Origin) (entries : List (Text × Node))
  /-- An array of tables, each of which has a header of its own. -/
  | tables (items : List (List (Text × Node)))

namespace Node

mutual

/-- How many brackets and braces stand inside one another in a value; dotted keys do not count. -/
def nesting : Node → Nat
  | .array items => nestingOfItems items + 1
  | .table .inline entries => nestingOfEntries entries + 1
  | .table _ entries => nestingOfEntries entries
  | _ => 0

/-- The deepest nesting of some items. -/
def nestingOfItems : List Node → Nat
  | [] => 0
  | item :: items => max item.nesting (nestingOfItems items)

/-- The deepest nesting of some entries. -/
def nestingOfEntries : List (Text × Node) → Nat
  | [] => 0
  | (_, value) :: entries => max value.nesting (nestingOfEntries entries)

end

end Node

/-- The entries of a table, in the order in which they were made. -/
abbrev Entries := List (Text × Node)

/-- The value of a name, if it has one. -/
def Entries.get? (entries : Entries) (name : Text) : Option Node :=
  entries.lookup name

/-- What one part of a document says. -/
inductive Statement where
  /-- The last name of a dotted key has a value. -/
  | pair (path : List Text) (name : Text) (value : Node)
  /-- What follows belongs to a table. -/
  | table (path : List Text) (name : Text)
  /-- What follows belongs to a new member of an array of tables. -/
  | member (path : List Text) (name : Text)

end TypedStyle.Toml
