import TypedStyle.Code.Tree
/-!
# Reading trees

A reading takes trees from the start of a list and gives a value, or it fails.  What it should take
is decided by tests, which look at trees ahead and take none.

* `inside_group` — all that stands between two brackets has to be read.
-/

namespace TypedStyle.Code

/-- Trees that are still to be read. -/
abbrev Trees := List Tree

/-- A reading that gives a value: what it takes from the start of the trees, it leaves out. -/
abbrev Reading (α : Type) := StateT Trees Option α

/-! ## Tests -/

namespace Trees

/-- The trees behind marks in a row, each but the last joined to the next. -/
def behindMarks? : Text → Trees → Option Trees
  | [], trees => some trees
  | [c], .mark d _ :: rest => if c = d then some rest else none
  | c :: more, .mark d true :: rest => if c = d then behindMarks? more rest else none
  | _, _ => none

/-- Do the trees start with these marks? -/
def starts (marks : Text) (trees : Trees) : Bool :=
  (behindMarks? marks trees).isSome

/-- Do the trees start with one of these words, written just so? -/
def startsWord (words : List String) : Trees → Bool
  | .word w :: _ => words.any fun word => Text.ofString word = w
  | _ => false

/-- Do the trees start with any word? -/
def startsAnyWord : Trees → Bool
  | .word _ :: _ => true
  | _ => false

/-- Do the trees start with a word that may be a name? -/
def startsName : Trees → Bool
  | .word w :: _ => isName w
  | _ => false

/-- Do the trees start with a lifetime? -/
def startsLifetime : Trees → Bool
  | .mark '\'' true :: .word _ :: _ => true
  | _ => false

/-- Do the trees start with a string of characters? -/
def startsString : Trees → Bool
  | .literal .string :: _ => true
  | _ => false

/-- Do the trees start with a literal?  A number may have a sign in front, and there are two words
that are literals. -/
def startsLiteral : Trees → Bool
  | .literal _ :: _ | .mark '-' _ :: .literal (.number _) :: _ => true
  | trees => trees.startsWord ["true", "false"]

/-- Do the trees start with a group in such a bracket? -/
def startsGroup (bracket : Char) : Trees → Bool
  | .group b _ :: _ => b = bracket
  | _ => false

/-- Do the trees start with a point that is not part of a range? -/
def startsPoint (trees : Trees) : Bool :=
  trees.starts "." && !trees.starts ".."

/-- The trees behind the first one; a lifetime counts as one. -/
def later : Trees → Trees
  | .mark '\'' _ :: .word _ :: rest => rest
  | _ :: rest => rest
  | [] => []

/-- May a path that does not start with a bracket start here? -/
def startsPath (trees : Trees) : Bool :=
  trees.startsName || trees.startsWord ["self", "Self", "super", "crate"] || trees.starts "::"

/-- Behind a word that parameters or a path may follow, do parameters follow it?  Where both would
do, parameters are meant. -/
def startsParameters (trees : Trees) : Bool :=
  let second := trees.later
  let third := second.later
  trees.starts "<" &&
    (second.starts ">" || second.starts "#" || second.startsWord ["const"]
      || (second.startsLifetime || second.startsName)
        && (third.starts ">" || third.starts "," || third.starts "="
          || third.starts ":" && !third.starts "::"))

end Trees

/-! ## Readings -/

namespace Reading

/-- Takes marks in a row. -/
def marks (marks : Text) : Reading Unit := fun trees =>
  (Trees.behindMarks? marks trees).map fun rest => ((), rest)

/-- Takes marks, if they stand there. -/
def maybeMarks (marks : Text) : Reading Bool := fun trees =>
  match Trees.behindMarks? marks trees with
  | some rest => some (true, rest)
  | none => some (false, trees)

/-- Takes a word that is written just so. -/
def word (w : String) : Reading Unit := fun trees =>
  if trees.startsWord [w] then some ((), trees.tail) else none

/-- Takes a word, if it stands there. -/
def maybeWord (w : String) : Reading Bool := fun trees =>
  if trees.startsWord [w] then some (true, trees.tail) else some (false, trees)

/-- Takes one of these words. -/
def wordOf (words : List String) : Reading Unit := fun trees =>
  if trees.startsWord words then some ((), trees.tail) else none

/-- Takes any word. -/
def anyWord : Reading Text
  | .word w :: rest => some (w, rest)
  | _ => none

/-- Takes a word that may be a name. -/
def name : Reading Text
  | .word w :: rest => if isName w then some (w, rest) else none
  | _ => none

/-- Takes a name or one of these words. -/
def nameOr (words : List String) : Reading Text := fun trees =>
  if trees.startsWord words then anyWord trees else name trees

/-- Takes a lifetime. -/
def lifetime : Reading Unit
  | .mark '\'' true :: .word _ :: rest => some ((), rest)
  | _ => none

/-- Takes a literal, which may be a number with a sign. -/
def literal : Reading Unit
  | .literal _ :: rest | .mark '-' _ :: .literal (.number _) :: rest => some ((), rest)
  | trees => wordOf ["true", "false"] trees

/-- Takes the place of a field, which is a whole number. -/
def place : Reading Unit
  | .literal (.number n) :: rest => if Number.isPlaceOfField n then some ((), rest) else none
  | _ => none

/-- Takes a group in any brackets, and tells the opening one. -/
def group : Reading Char
  | .group bracket _ :: rest => some (bracket, rest)
  | _ => none

/-- Takes a group in such brackets, with anything in it. -/
def groupIn (bracket : Char) : Reading Unit
  | .group b _ :: rest => if b = bracket then some ((), rest) else none
  | _ => none

/-- Takes a group in such brackets, and reads all that stands in it. -/
def inside {α : Type} (bracket : Char) (content : Reading α) : Reading α
  | .group b trees :: rest =>
    if b = bracket then
      match content trees with
      | some (value, []) => some (value, rest)
      | _ => none
    else none
  | _ => none

/-- Reads if the test holds, and then tells that it did. -/
def maybe {α : Type} (test : Trees → Bool) (reading : Reading α) : Reading Bool := fun trees =>
  if test trees then (reading trees).map fun found => (true, found.2) else some (false, trees)

/-- Reads as long as the test holds.  The bound is on the number of times. -/
def loopUpTo {α : Type} (test : α → Trees → Bool) (step : α → Reading α) : Nat → α → Reading α
  | bound, value, trees =>
    if test value trees then
      match bound with
      | 0 => none
      | bound + 1 => do
        let (value, rest) ← step value trees
        loopUpTo test step bound value rest
    else some (value, trees)

/-- Reads as long as the test holds, each time on from the value of the last. -/
def loop {α : Type} (test : α → Trees → Bool) (step : α → Reading α) (start : α) : Reading α :=
  fun trees =>
    if test start trees then loopUpTo test step trees.length start trees else some (start, trees)

/-- Reads again and again as long as the test holds. -/
def loopWhile {α : Type} (test : Trees → Bool) (step : Reading α) : Reading Unit :=
  loop (fun _ => test) (fun _ => do discard step) ()

/-- Reads again and again to the end. -/
def toEnd {α : Type} (step : Reading α) : Reading Unit :=
  loopWhile (fun trees => !trees.isEmpty) step

/-- Reads items with a mark between them; behind the last there may be one more.  No item starts at
the end, or where the test holds, or behind an item that no mark follows. -/
def separated {α : Type} (mark : Char) (stop : Trees → Bool) (item : Reading α) : Reading Unit := do
  let _ ← loop (fun goesOn trees => goesOn && !trees.isEmpty && !stop trees)
    (fun _ => do
      discard item
      maybeMarks [mark])
    true

/-- Reads items to the end, with commas between them. -/
def listed {α : Type} (item : Reading α) : Reading Unit :=
  separated ',' (fun _ => false) item

/-- Reads items in angle brackets, with commas between them. -/
def angled {α : Type} (item : Reading α) : Reading Unit := do
  marks "<"
  separated ',' (Trees.starts ">") item
  marks ">"

/-- What stands behind a reading, if it succeeds. -/
def behind? {α : Type} (reading : Reading α) (trees : Trees) : Option Trees :=
  (reading trees).map Prod.snd

/-- Reads, and tells whether a group in braces was the last tree that was read. -/
def endsInBraces {α : Type} (reading : Reading α) : Reading Bool := fun trees => do
  let (_, rest) ← reading trees
  let last := (trees.take (trees.length - rest.length)).getLast?
  some (Trees.startsGroup '\x7b' last.toList, rest)

/-- What reads all of a group reads past the group. -/
theorem inside_group {α : Type} {bracket : Char} {content : Reading α} {trees rest : Trees}
    {value : α} (h : content trees = some (value, [])) :
    inside bracket content (.group bracket trees :: rest) = some (value, rest) := by
  simp [inside, h]

end Reading

end TypedStyle.Code
