import TypedStyle.Proofs.Files.Writing
/-!
# Trees of the same shape

Where a path leads, and whether a file can be written there, depends on the kinds of what stands at
the places of a tree and not on the contents of files.  So in two trees of the same shape every path
leads to the same kind of thing at the same place, and the same paths can be written.

* `walk_congr`, `find_congr` — steps and paths lead to the same places, or fail in the same way;
* `node_congr`, `inspect_congr` — the same kinds of things stand there;
* `writable_congr` — the same paths can be written.
-/

namespace TypedStyle.FileTree

variable {tree other : FileTree} {place : Place} {path : Path}

/-- The trees have the same working folder and the same kinds of things at all places. -/
structure SameShape (tree other : FileTree) : Prop where
  home : other.home = tree.home
  kinds : ∀ place, (other.at? place).map FileNode.kind = (tree.at? place).map FileNode.kind

namespace SameShape

variable (h : tree.SameShape other)

include h

/-- At a name in a folder there is a folder in both trees, or a file in both, or nothing in both;
or the name is too long. -/
theorem look_cases (parent : Place) (name : Text) :
    (tree.look parent name = .ok (some .folder) ∧ other.look parent name = .ok (some .folder)) ∨
      (∃ a b, tree.look parent name = .ok (some (.file a)) ∧
        other.look parent name = .ok (some (.file b))) ∨
      (tree.look parent name = .ok none ∧ other.look parent name = .ok none) ∨
      ∃ fault, tree.look parent name = .error fault ∧ other.look parent name = .error fault := by
  have hkinds := h.kinds (parent ++ [name])
  unfold look
  split
  · simp
  · rcases htree : tree.at? (parent ++ [name]) with _ | ⟨a⟩ | _ <;>
      rcases hother : other.at? (parent ++ [name]) with _ | ⟨b⟩ | _ <;>
      simp_all [FileNode.kind]

/-- **Steps lead to the same places.** -/
theorem walk_congr (place : Place) (steps : List Path.Step) :
    other.walk place steps = tree.walk place steps := by
  induction steps generalizing place with
  | nil => rfl
  | cons step rest ih =>
      cases step with
      | here => exact ih _
      | up => exact ih _
      | down name =>
          cases rest with
          | nil => rfl
          | cons next rest =>
              rw [walk, walk]
              rcases h.look_cases place name with ⟨ha, hb⟩ | ⟨a, b, ha, hb⟩ | ⟨ha, hb⟩ |
                ⟨fault, ha, hb⟩
              · rw [ha, hb]
                exact ih _
              all_goals
                rw [ha, hb]
                rfl

/-- In trees of the same shape a path leads to the same destination. -/
theorem find_congr (path : Path) : other.find path = tree.find path := by
  unfold find
  rw [h.home, h.walk_congr]

/-- **A path leads to the same kind of thing at the same place**, or it fails in the same way. -/
theorem node_congr (path : Path) :
    (other.node path).map (fun found => (found.1, found.2.kind)) =
      (tree.node path).map fun found => (found.1, found.2.kind) := by
  unfold node
  rw [h.find_congr]
  cases tree.find path with
  | error fault => rfl
  | ok destination =>
      cases destination with
      | folder place => rfl
      | entry parent name =>
          rcases h.look_cases parent name with ⟨ha, hb⟩ | ⟨a, b, ha, hb⟩ | ⟨ha, hb⟩ |
            ⟨fault, ha, hb⟩
          · simp [bind, Except.bind, ha, hb]
          · cases path.endsInSlash <;>
              simp [bind, Except.bind, Except.map, ha, hb, FileNode.kind]
          · simp [bind, Except.bind, ha, hb]
          · simp [bind, Except.bind, ha, hb]

/-- So what is found there is of the same kind. -/
theorem inspect_congr (path : Path) : other.inspect path = tree.inspect path := by
  have hnode := h.node_congr path
  unfold inspect
  cases hother : other.node path <;> cases htree : tree.node path <;>
    simp_all [Except.map]

/-- **The same paths can be written**, and they lead to the same places. -/
theorem writable_congr (path : Path) : other.writable path = tree.writable path := by
  unfold writable
  rw [h.find_congr]
  cases tree.find path with
  | error fault => rfl
  | ok destination =>
      cases destination with
      | folder place => rfl
      | entry parent name =>
          rcases h.look_cases parent name with ⟨ha, hb⟩ | ⟨a, b, ha, hb⟩ | ⟨ha, hb⟩ |
            ⟨fault, ha, hb⟩ <;>
            simp [bind, Except.bind, ha, hb]

end SameShape

end TypedStyle.FileTree
