import TypedStyle.Files.Path
import TypedStyle.Text.Utf8
/-!
# Trees of files

A tree of files says of each place whether there is a file with some content, a folder, or nothing.
The root is always a folder, and one folder is the working folder.  Reading, writing and making
folders follow the rules of a system of files: whatever a path passes through must be a folder, a
folder cannot be read or written like a file, and a folder is only made where there is nothing.
Names and paths have a greatest length, and no path holds a null character.

* `at?_put_self`, `at?_put_of_ne` — putting something at one place changes that place only;
* `find_of_null` — a path with a null character leads nowhere.
-/

namespace TypedStyle

/-- Why an operation on files failed. -/
inductive FileFault where
  | notFound
  | exists
  | notFolder
  | isFolder
  | nameTooLong
  | nullInPath
  | notText
  | denied
  | noSpace
  deriving DecidableEq, Repr

namespace FileFault

/-- The fault in words. -/
def message : FileFault → Text
  | .notFound => "No such file or directory (os error 2)"
  | .exists => "File exists (os error 17)"
  | .notFolder => "Not a directory (os error 20)"
  | .isFolder => "Is a directory (os error 21)"
  | .nameTooLong => "File name too long (os error 36)"
  | .nullInPath => "file name contained an unexpected NUL byte"
  | .notText => "stream did not contain valid UTF-8"
  | .denied => "Permission denied (os error 13)"
  | .noSpace => "No space left on device (os error 28)"

end FileFault

/-- What stands at a place of a tree. -/
inductive FileNode where
  | file (content : ByteArray)
  | folder

/-- Two files are the same when their bytes are. -/
instance : DecidableEq FileNode
  | .file a, .file b =>
    if same : a.data = b.data then isTrue (congrArg FileNode.file (ByteArray.ext same))
    else isFalse fun h => same (by injection h with h; rw [h])
  | .folder, .folder => isTrue rfl
  | .file _, .folder => isFalse nofun
  | .folder, .file _ => isFalse nofun

/-- Whether a file or a folder stands at a place. -/
inductive FileKind where
  | file
  | folder
  deriving DecidableEq, Repr

/-- The kind of what stands at a place. -/
def FileNode.kind : FileNode → FileKind
  | .file _ => .file
  | .folder => .folder

/-- A place in a tree: the names that lead to it from the root. -/
abbrev Place := List Text

/-- Files and folders, by their places. -/
structure FileTree where
  home : Place
  nodes : List (Place × FileNode)

namespace FileTree

/-- What stands at a place, if anything does; the root is a folder. -/
def at? (tree : FileTree) (place : Place) : Option FileNode :=
  if place = [] then some .folder else tree.nodes.lookup place

/-- Puts something at a place, instead of what is there. -/
def putNode (place : Place) (node : FileNode) : List (Place × FileNode) → List (Place × FileNode)
  | [] => [(place, node)]
  | (p, n) :: rest =>
    if p = place then (place, node) :: rest else (p, n) :: putNode place node rest

/-- The tree with something at a place. -/
def put (tree : FileTree) (place : Place) (node : FileNode) : FileTree :=
  { tree with nodes := putNode place node tree.nodes }

/-- A node that is put at a place is found there, and all others where they were. -/
theorem lookup_putNode (place : Place) (node : FileNode) (nodes : List (Place × FileNode))
    (other : Place) :
    (putNode place node nodes).lookup other =
      if other = place then some node else nodes.lookup other := by
  have beq_eq (a b : Place) : (a == b) = decide (a = b) := by
    by_cases h : a = b <;> simp [h]
  induction nodes with
  | nil => by_cases h : other = place <;> simp [putNode, List.lookup_cons, beq_eq, h]
  | cons first rest ih =>
    obtain ⟨p, n⟩ := first
    simp only [putNode]
    split
    · next h =>
      subst h
      by_cases ho : other = p <;> simp [List.lookup_cons, beq_eq, ho]
    · next h =>
      by_cases hp : other = p
      · subst hp
        simp [h]
      · simp [List.lookup_cons, beq_eq, hp, ih]

/-- What is put at a place stands there, unless the place is the root. -/
theorem at?_put_self (tree : FileTree) {place : Place} (h : place ≠ []) (node : FileNode) :
    (tree.put place node).at? place = some node := by
  simp [at?, put, h, lookup_putNode]

/-- Nothing else moves. -/
theorem at?_put_of_ne (tree : FileTree) {place other : Place} (h : other ≠ place)
    (node : FileNode) : (tree.put place node).at? other = tree.at? other := by
  simp [at?, put, lookup_putNode, h]

/-- Where a path leads. -/
inductive Destination where
  /-- To a folder that was passed through. -/
  | folder (place : Place)
  /-- To a name in a folder, at which there may be anything or nothing. -/
  | entry (parent : Place) (name : Text)
  deriving DecidableEq, Repr

/-- The number of bytes that no name may exceed. -/
def nameLimit : Nat := 255

/-- The number of bytes that no path may exceed. -/
def pathLimit : Nat := 4095

/-- What stands at a name in a folder, if anything does; the name must not be too long. -/
def look (tree : FileTree) (parent : Place) (name : Text) : Except FileFault (Option FileNode) :=
  if nameLimit < name.byteCount then .error .nameTooLong else .ok (tree.at? (parent ++ [name]))

/-- Follows steps from a folder; all but the last name must be folders. -/
def walk (tree : FileTree) (place : Place) : List Path.Step → Except FileFault Destination
  | [] => .ok (.folder place)
  | .here :: rest => walk tree place rest
  | .up :: rest => walk tree place.dropLast rest
  | [.down name] => .ok (.entry place name)
  | .down name :: next :: rest => do
    match ← tree.look place name with
    | some .folder => walk tree (place ++ [name]) (next :: rest)
    | some (.file _) => .error .notFolder
    | none => .error .notFound

/-- Where a path leads; the empty path leads nowhere. -/
def find (tree : FileTree) (path : Path) : Except FileFault Destination :=
  if List.contains path '\x00' then .error .nullInPath
  else if pathLimit < Text.byteCount path then .error .nameTooLong
  else if path.isEmpty then .error .notFound
  else tree.walk (if path.isAbsolute then [] else tree.home) path.steps

/-- No path with a null character in it leads anywhere. -/
theorem find_of_null (tree : FileTree) {path : Path} (h : '\x00' ∈ path) :
    tree.find path = .error .nullInPath := by
  simp [find, h]

/-- What stands where a path leads, with its place. -/
def node (tree : FileTree) (path : Path) : Except FileFault (Place × FileNode) := do
  match ← tree.find path with
  | .folder place => .ok (place, .folder)
  | .entry parent name =>
    match ← tree.look parent name with
    | none => .error .notFound
    | some (.file content) =>
      if path.endsInSlash then .error .notFolder else .ok (parent ++ [name], .file content)
    | some .folder => .ok (parent ++ [name], .folder)

/-- The kind of what stands where a path leads. -/
def inspect (tree : FileTree) (path : Path) : Except FileFault FileKind :=
  (tree.node path).map fun found => found.2.kind

/-- The content of the file where a path leads. -/
def read (tree : FileTree) (path : Path) : Except FileFault ByteArray := do
  match ← tree.node path with
  | (_, .file content) => .ok content
  | (_, .folder) => .error .isFolder

/-- The place of the file that writing to a path makes or changes. -/
def writable (tree : FileTree) (path : Path) : Except FileFault Place := do
  match ← tree.find path with
  | .folder _ => .error .isFolder
  | .entry parent name =>
    if path.endsInSlash then .error .isFolder
    else
      match ← tree.look parent name with
      | some .folder => .error .isFolder
      | _ => .ok (parent ++ [name])

/-- The tree with a file of this content where a path leads. -/
def write (tree : FileTree) (path : Path) (content : ByteArray) : Except FileFault FileTree :=
  (tree.writable path).map fun place => tree.put place (.file content)

/-- The place of the folder that making one at a path makes. -/
def makeable (tree : FileTree) (path : Path) : Except FileFault Place := do
  match ← tree.find path with
  | .folder _ => .error .exists
  | .entry parent name =>
    match ← tree.look parent name with
    | some _ => .error .exists
    | none => .ok (parent ++ [name])

/-- The tree with a new folder where a path leads. -/
def makeFolder (tree : FileTree) (path : Path) : Except FileFault FileTree :=
  (tree.makeable path).map fun place => tree.put place .folder

end FileTree

end TypedStyle
