import TypedStyle.Files.Tree
/-!
# Scripts on files

A script asks for what it needs, one request after the other, and goes on with the answers.  It is
a value, so the same script can be run on a tree of files that is kept in memory and on the files
of a real system.

* `run_bind` — running one script and then another is running them in sequence.
-/

namespace TypedStyle

/-- What is to be done with files, and the result. -/
inductive Script (α : Type) where
  | done (result : α)
  | inspect (path : Path) (next : Except FileFault FileKind → Script α)
  | read (path : Path) (next : Except FileFault ByteArray → Script α)
  | write (path : Path) (content : ByteArray) (next : Except FileFault Unit → Script α)
  | makeFolder (path : Path) (next : Except FileFault Unit → Script α)
  | timestamp (next : Text → Script α)

namespace Script

variable {α β : Type}

/-- Goes on with the result of a script. -/
def bind (script : Script α) (f : α → Script β) : Script β :=
  match script with
  | .done result => f result
  | .inspect path next => .inspect path fun answer => (next answer).bind f
  | .read path next => .read path fun answer => (next answer).bind f
  | .write path content next => .write path content fun answer => (next answer).bind f
  | .makeFolder path next => .makeFolder path fun answer => (next answer).bind f
  | .timestamp next => .timestamp fun answer => (next answer).bind f

instance : Monad Script where
  pure := .done
  bind := bind

/-- The answer to a request that may change the tree, and the tree behind it. -/
def changed (tree : FileTree) : Except FileFault FileTree → Except FileFault Unit × FileTree
  | .ok after => (.ok (), after)
  | .error fault => (.error fault, tree)

/-- The result of a script on a tree, and the tree behind it, when the clock shows a time. -/
def run (clock : Text) : Script α → FileTree → α × FileTree
  | .done result, tree => (result, tree)
  | .inspect path next, tree => (next (tree.inspect path)).run clock tree
  | .read path next, tree => (next (tree.read path)).run clock tree
  | .write path content next, tree =>
    let (answer, after) := changed tree (tree.write path content)
    (next answer).run clock after
  | .makeFolder path next, tree =>
    let (answer, after) := changed tree (tree.makeFolder path)
    (next answer).run clock after
  | .timestamp next, tree => (next clock).run clock tree

/-- **Scripts are run one behind the other**: what one leaves, the next one starts from. -/
theorem run_bind (clock : Text) (script : Script α) (f : α → Script β) (tree : FileTree) :
    (script >>= f).run clock tree =
      (f (script.run clock tree).1).run clock (script.run clock tree).2 := by
  show (script.bind f).run clock tree = _
  induction script generalizing tree with
  | done => rfl
  | inspect path next ih => exact ih _ tree
  | read path next ih => exact ih _ tree
  | write path content next ih => exact ih _ _
  | makeFolder path next ih => exact ih _ _
  | timestamp next ih => exact ih _ tree

/-- A result alone does nothing. -/
@[simp] theorem run_pure (clock : Text) (result : α) (tree : FileTree) :
    (pure result : Script α).run clock tree = (result, tree) :=
  rfl

/-- Is there a file where the path leads? -/
def isFile (path : Path) : Script Bool :=
  .inspect path fun answer => .done (answer.toOption = some .file)

/-- Is there a folder where the path leads? -/
def isFolder (path : Path) : Script Bool :=
  .inspect path fun answer => .done (answer.toOption = some .folder)

/-- The text of the file where the path leads. -/
def readText (path : Path) : Script (Except FileFault Text) :=
  .read path fun answer => .done do
    match Text.ofBytes? (← answer) with
    | some t => .ok t
    | none => .error .notText

/-- Writes a text file. -/
def writeText (path : Path) (t : Text) : Script (Except FileFault Unit) :=
  .write path t.toBytes .done

/-- Makes the folder of a path, and before it those of the paths above it as far as they are
missing.  A folder that is there already is no fault. -/
def ensureFolders (path : Path) : List Path → Script (Except FileFault Unit)
  | [] => .makeFolder path fun answer => settle answer
  | parent :: above => .makeFolder path fun answer =>
    match answer with
    | .error .notFound => do
      match ← ensureFolders parent above with
      | .ok () => .makeFolder path fun answer => settle answer
      | .error fault => pure (.error fault)
    | answer => settle answer
where
  /-- A fault counts only if there is no folder. -/
  settle : Except FileFault Unit → Script (Except FileFault Unit)
    | .ok () => pure (.ok ())
    | .error fault => do
      if ← isFolder path then pure (.ok ()) else pure (.error fault)

/-- Makes a folder and all that is missing above it; the empty path needs none. -/
def makeFolders (path : Path) : Script (Except FileFault Unit) :=
  if path.isEmpty then pure (.ok ()) else ensureFolders path path.above

end Script

end TypedStyle
