import TypedStyle.Proofs.Files.Shapes
/-!
# Overwriting a file

Where a file stands in the place of a file, the tree keeps its shape: every path leads where it led
before, and to the same kind of thing.  So what is read from any other file does not change, and
once a content has been written, writing it again changes nothing at all.

* `sameShape_overwrite` — the shape of the tree is the same;
* `node_overwrite`, `read_overwrite` — what is found at other paths;
* `write_again` — writing the same content once more gives the same tree.
-/

namespace TypedStyle.FileTree

/-- Both paths lead to one and the same file. -/
def SameFile (tree : FileTree) (a b : Path) : Prop :=
  ∃ place content,
    tree.node a = .ok (place, .file content) ∧ tree.node b = .ok (place, .file content)

variable {tree after : FileTree} {target : Place} {path : Path}
variable {old content : ByteArray}

/-- Paths to different places do not lead to the same file. -/
theorem not_sameFile_of_ne {a b : Path} {p q : Place × FileNode} (ha : tree.node a = .ok p)
    (hb : tree.node b = .ok q) (hne : p.1 ≠ q.1) : ¬ tree.SameFile a b := by
  rintro ⟨place, bytes, hfirst, hsecond⟩
  obtain rfl : p = (place, .file bytes) := Except.ok.inj (ha.symm.trans hfirst)
  obtain rfl : q = (place, .file bytes) := Except.ok.inj (hb.symm.trans hsecond)
  exact hne rfl

/-! ## What is found -/

/-- **Another content of a file does not change the shape of the tree.** -/
theorem sameShape_overwrite (hfile : tree.at? target = some (.file old)) (content : ByteArray) :
    tree.SameShape (tree.put target (.file content)) := by
  have hroot : target ≠ [] := by
    rintro rfl
    simp [at?] at hfile
  refine ⟨rfl, fun place => ?_⟩
  by_cases hplace : place = target
  · rw [hplace, at?_put_self tree hroot, hfile]
    rfl
  · rw [at?_put_of_ne tree hplace]

/-- **What stands where a path leads changes only if it leads to the file that is overwritten.** -/
theorem node_overwrite (hfile : tree.at? target = some (.file old))
    (hother : tree.node path ≠ .ok (target, .file old)) :
    (tree.put target (.file content)).node path = tree.node path := by
  have hkind := (sameShape_overwrite hfile content).node_congr path
  rcases hnode : tree.node path with fault | ⟨place, bytes | _⟩ <;>
    rcases hafter : (tree.put target (.file content)).node path with
      fault' | ⟨place', bytes' | _⟩ <;>
    simp only [hnode, hafter, Except.map, FileNode.kind, Except.ok.injEq, Except.error.injEq,
      Prod.mk.injEq, reduceCtorEq, and_false, and_true] at hkind
  · rw [hkind]
  · -- Both are files at one place, which is not that of the file.
    subst hkind
    obtain ⟨-, -, -, -, -, -, hat⟩ := node_eq_file_iff.mp hnode
    obtain ⟨-, -, -, -, -, -, hatAfter⟩ := node_eq_file_iff.mp hafter
    have hplace : place' ≠ target := by
      rintro rfl
      rw [hfile] at hat
      obtain rfl : old = bytes := by simpa using hat
      exact hother hnode
    rw [at?_put_of_ne tree hplace, hat] at hatAfter
    rw [Option.some.inj hatAfter]
  · rw [hkind]

/-- **What is read from another file is what was read before.** -/
theorem read_overwrite (hfile : tree.at? target = some (.file old))
    (hother : tree.node path ≠ .ok (target, .file old)) :
    (tree.put target (.file content)).read path = tree.read path := by
  rw [read, read, node_overwrite hfile hother]

/-- What can be read and written has one place for both. -/
theorem file_of_read_of_writable (hread : tree.read path = .ok old)
    (hwritable : tree.writable path = .ok target) :
    tree.node path = .ok (target, .file old) ∧ tree.at? target = some (.file old) := by
  obtain ⟨place, hnode⟩ := read_eq_ok_iff.mp hread
  obtain ⟨parent, name, hfind, -, -, rfl, hat⟩ := node_eq_file_iff.mp hnode
  obtain ⟨parent', name', hfind', -, -, -, rfl⟩ := entry_of_writable hwritable
  obtain ⟨rfl, rfl⟩ : parent = parent' ∧ name = name' := by
    simpa using hfind.symm.trans hfind'
  exact ⟨hnode, hat⟩

/-! ## Writing twice -/

/-- A node that is put at its place again changes nothing. -/
theorem putNode_putNode (place : Place) (node : FileNode) (nodes : List (Place × FileNode)) :
    putNode place node (putNode place node nodes) = putNode place node nodes := by
  induction nodes with
  | nil => simp [putNode]
  | cons first rest ih =>
      obtain ⟨p, n⟩ := first
      by_cases h : p = place
      · simp [putNode, h]
      · simp [putNode, h, ih]

/-- What is put at a place for a second time was there already. -/
theorem put_put (tree : FileTree) (place : Place) (node : FileNode) :
    (tree.put place node).put place node = tree.put place node := by
  simp [put, putNode_putNode]

/-- **Writing the content of a file once more gives the same tree.** -/
theorem write_again (hread : tree.read path = .ok old)
    (hwrite : tree.write path content = .ok after) : after.write path content = .ok after := by
  unfold write at hwrite
  cases hwritable : tree.writable path with
  | error fault =>
      rw [hwritable] at hwrite
      contradiction
  | ok target =>
      rw [hwritable] at hwrite
      obtain rfl : tree.put target (.file content) = after := Except.ok.inj hwrite
      obtain ⟨-, hfile⟩ := file_of_read_of_writable hread hwritable
      rw [write, (sameShape_overwrite hfile content).writable_congr, hwritable]
      exact congrArg Except.ok (put_put tree target (.file content))

end TypedStyle.FileTree
