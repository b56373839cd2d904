import TypedStyle.Text.Basic
/-!
# Paths

A path is a text that names a place in a tree of files: names separated by slashes, where `.` is
the folder reached so far and `..` the one above it.  A path that starts with a slash starts at the
root, any other one at the working folder.
-/

namespace TypedStyle

/-- A path, as it is written. -/
abbrev Path := Text

namespace Path

/-- Does the path start at the root? -/
def isAbsolute (path : Path) : Bool :=
  path.head? = some '/'

/-- Does the path end in a slash, so that only a folder can stand there? -/
def endsInSlash (path : Path) : Bool :=
  path.getLast? = some '/'

/-- The path that leads on from a path to another one. -/
def join (path child : Path) : Path :=
  if child.isAbsolute then child
  else if path.isEmpty || path.endsInSlash then path ++ child
  else path ++ '/' :: child

/-- One step along a path. -/
inductive Step where
  | here
  | up
  | down (name : Text)
  deriving DecidableEq, Repr

/-- The step that a name on a path stands for. -/
def Step.ofName (name : Text) : Step :=
  if name = "." then .here else if name = ".." then .up else .down name

/-- The step as it is written. -/
def Step.text : Step → Text
  | .here => "."
  | .up => ".."
  | .down name => name

/-- The steps of a path, from the root or from the working folder. -/
def steps (path : Path) : List Step :=
  ((Text.splitOn '/' path).filter fun name => !name.isEmpty).map Step.ofName

/-- The steps that matter for what stands above a path: staying where one is counts only at the
start. -/
def ownSteps (path : Path) : List Step :=
  match path.steps with
  | .here :: rest =>
    (if path.isAbsolute then [] else [Step.here]) ++ rest.filter (· ≠ .here)
  | steps => steps.filter (· ≠ .here)

/-- The path with these steps. -/
def ofSteps (absolute : Bool) (steps : List Step) : Path :=
  Text.onlyIf absolute "/" ++ Text.join "/" (steps.map Step.text)

/-- The paths above a path, the nearest first, as far as the working folder or the root.  The root
is one of them, the working folder is not. -/
def above (path : Path) : List Path :=
  let steps := path.ownSteps
  let shorter := (List.range steps.length).reverse.map fun n =>
    ofSteps path.isAbsolute (steps.take n)
  shorter.filter fun p => !p.isEmpty

end Path

end TypedStyle
