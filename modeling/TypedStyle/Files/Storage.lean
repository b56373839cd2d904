import TypedStyle.Files.Script
/-!
# Storage that fails

Where a path leads to a place that takes a file, the file may still not be written.  Storage can
refuse to open it, for want of a permission, and the file is as it was.  Or it breaks off when the
file is open, for want of room; by then the file has been emptied, and it holds the first bytes of
what was to be written.  A script can be run on storage of any kind.

* `runOn_bind` — running one script and then another is running them in sequence;
* `run_eq_runOn` — on sound storage a file is written wherever its path leads to a place for it.
-/

namespace TypedStyle

/-- What becomes of the content of a file. -/
inductive Storing where
  /-- All of it is kept. -/
  | kept
  /-- The file is not opened. -/
  | refused (fault : FileFault)
  /-- The file is emptied, and only the first bytes are written. -/
  | broken (fault : FileFault) (length : Nat)

/-- Storage says what becomes of the content of a file that is written at a place of a tree. -/
abbrev Storage := FileTree → Place → ByteArray → Storing

namespace Storage

/-- Storage that never fails. -/
def sound : Storage :=
  fun _ _ _ => .kept

/-- Storage with room for files of some bytes, and no more. -/
def withRoom (room : Nat) : Storage :=
  fun _ _ content => if content.size ≤ room then .kept else .broken .noSpace room

/-- A file that cannot be written stays as it was. -/
def IsAtomic (storage : Storage) : Prop :=
  ∀ tree place content fault length, storage tree place content ≠ .broken fault length

end Storage

namespace FileTree

/-- The answer of storage to writing a file at a place, and the tree behind it. -/
def stored (tree : FileTree) (place : Place) (content : ByteArray) :
    Storing → Except FileFault Unit × FileTree
  | .kept => (.ok (), tree.put place (.file content))
  | .refused fault => (.error fault, tree)
  | .broken fault length => (.error fault, tree.put place (.file (content.extract 0 length)))

/-- The answer to writing a file on storage, and the tree behind it. -/
def writeOn (storage : Storage) (tree : FileTree) (path : Path) (content : ByteArray) :
    Except FileFault Unit × FileTree :=
  match tree.writable path with
  | .error fault => (.error fault, tree)
  | .ok place => tree.stored place content (storage tree place content)

variable {storage : Storage} {tree : FileTree} {path : Path} {content : ByteArray}

/-- Storage is not asked where there is no place for a file. -/
theorem writeOn_of_error {fault : FileFault} (h : tree.writable path = .error fault) :
    tree.writeOn storage path content = (.error fault, tree) := by
  rw [writeOn, h]

/-- Where there is one, storage decides. -/
theorem writeOn_of_ok {place : Place} (h : tree.writable path = .ok place) :
    tree.writeOn storage path content =
      tree.stored place content (storage tree place content) := by
  rw [writeOn, h]

end FileTree

namespace Script

variable {α β : Type}

/-- The result of a script on a tree that is kept on storage, and the tree behind it. -/
def runOn (storage : Storage) (clock : Text) : Script α → FileTree → α × FileTree
  | .done result, tree => (result, tree)
  | .inspect path next, tree => (next (tree.inspect path)).runOn storage clock tree
  | .read path next, tree => (next (tree.read path)).runOn storage clock tree
  | .write path content next, tree =>
    let (answer, after) := tree.writeOn storage path content
    (next answer).runOn storage clock after
  | .makeFolder path next, tree =>
    let (answer, after) := changed tree (tree.makeFolder path)
    (next answer).runOn storage clock after
  | .timestamp next, tree => (next clock).runOn storage clock tree

/-- **Scripts are run one behind the other** on any storage. -/
theorem runOn_bind (storage : Storage) (clock : Text) (script : Script α) (f : α → Script β)
    (tree : FileTree) :
    (script >>= f).runOn storage clock tree =
      (f (script.runOn storage clock tree).1).runOn storage clock
        (script.runOn storage clock tree).2 := by
  show (script.bind f).runOn storage clock tree = _
  induction script generalizing tree with
  | done => rfl
  | inspect path next ih => exact ih _ tree
  | read path next ih => exact ih _ tree
  | write path content next ih => exact ih _ _
  | makeFolder path next ih => exact ih _ _
  | timestamp next ih => exact ih _ tree

/-- On sound storage only the place that a path leads to can be at fault. -/
theorem writeOn_sound (tree : FileTree) (path : Path) (content : ByteArray) :
    tree.writeOn .sound path content = changed tree (tree.write path content) := by
  unfold FileTree.writeOn FileTree.write
  cases tree.writable path <;> rfl

/-- **On sound storage a script runs as it does on the tree alone.** -/
theorem run_eq_runOn (clock : Text) (script : Script α) (tree : FileTree) :
    script.run clock tree = script.runOn .sound clock tree := by
  induction script generalizing tree with
  | done => rfl
  | inspect path next ih => exact ih _ tree
  | read path next ih => exact ih _ tree
  | write path content next ih =>
      rw [run, runOn, writeOn_sound]
      exact ih _ _
  | makeFolder path next ih => exact ih _ _
  | timestamp next ih => exact ih _ tree

end Script

end TypedStyle
