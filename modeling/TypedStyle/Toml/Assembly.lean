import TypedStyle.Toml.Basic
/-!
# Assembling TOML tables

The statements of a document are put into one table, one after the other.  No name gets two values,
no table has two headers, a table between braces is closed, and dotted keys only go on in tables
that came about by dotted keys or were implied on the way.
-/

namespace TypedStyle.Toml

namespace Entries

/-- The entries with another value for a name that they have. -/
def replace (name : Text) (node : Node) : Entries → Entries
  | [] => []
  | (n, old) :: rest => if n = name then (n, node) :: rest else (n, old) :: replace name node rest

/-- Changes the entries of the table that a path leads to, given how the table came about that the
entries belong to.  Tables that are missing on the way are made, with the given origin. -/
def update (origin : Origin) (change : Origin → Entries → Option Entries) :
    List Text → Origin → Entries → Option Entries
  | [], here, entries => change here entries
  | name :: path, _, entries =>
    match entries.lookup name with
    | none =>
      (update origin change path origin []).map fun inner =>
        entries ++ [(name, .table origin inner)]
    | some (.table there inner) =>
      if there = .inline ∨ (origin = .dotted ∧ there = .header) then none
      else
        (update origin change path there inner).map fun inner =>
          replace name (.table there inner) entries
    | some (.tables items) =>
      match items.reverse with
      | [] => none
      | last :: earlier =>
        (update origin change path .header last).map fun last =>
          replace name (.tables (last :: earlier).reverse) entries
    | some _ => none

/-- Adds a value under a dotted key to the entries of a table. -/
def addPair (path : List Text) (name : Text) (value : Node) : Origin → Entries → Option Entries :=
  update .dotted
    (fun here entries =>
      if here = .dotted ↔ path = [] then none
      else if (entries.lookup name).isSome then none
      else some (entries ++ [(name, value)]))
    path

/-- Opens the table of a header. -/
def openTable (path : List Text) (name : Text) : Entries → Option Entries :=
  update .implied
    (fun _ entries =>
      match entries.lookup name with
      | none => some (entries ++ [(name, .table .header [])])
      | some (.table .implied inner) => some (replace name (.table .header inner) entries)
      | some _ => none)
    path .header

/-- Opens a new member of an array of tables. -/
def openMember (path : List Text) (name : Text) : Entries → Option Entries :=
  update .implied
    (fun _ entries =>
      match entries.lookup name with
      | none => some (entries ++ [(name, .tables [[]])])
      | some (.tables items) => some (replace name (.tables (items ++ [[]])) entries)
      | some _ => none)
    path .header

end Entries

/-- The table built so far, and the path of the table that pairs are added to. -/
structure Assembly where
  root : Entries
  current : List Text

namespace Assembly

/-- What one more statement makes of the table. -/
def add (assembly : Assembly) : Statement → Option Assembly
  | .pair path name value =>
    (Entries.update .implied (Entries.addPair path name value) assembly.current .header
      assembly.root).map fun root => { assembly with root := root }
  | .table path name =>
    (Entries.openTable path name assembly.root).map fun root => ⟨root, path ++ [name]⟩
  | .member path name =>
    (Entries.openMember path name assembly.root).map fun root => ⟨root, path ++ [name]⟩

end Assembly

/-- The entries of the table that some statements denote. -/
def assemble? (statements : List Statement) : Option Entries :=
  (statements.foldlM Assembly.add ⟨[], []⟩).map Assembly.root

/-- The table between braces that has these pairs. -/
def inlineTable? (pairs : List (List Text × Text × Node)) : Option Node :=
  (pairs.foldlM (fun entries (path, name, value) => Entries.addPair path name value .inline entries)
    []).map (.table .inline)

end TypedStyle.Toml
