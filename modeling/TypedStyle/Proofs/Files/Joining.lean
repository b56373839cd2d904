import TypedStyle.Proofs.Files.Places
/-!
# Names in a folder

A path with a name joined to it leads to that name in the folder of the path, and where the path
leads to no folder it fails for the reason that is found when the path itself is asked for.  So what
is found at one name in a folder does not depend on what stands at another.

* `walk_concat`, `find_join` — where a joined path leads, from the answer about the folder;
* `SameBut` — trees that differ at one place only, and below it;
* `SameBut.inspect_join`, `SameBut.read_join` — the other names in the folder of that place.
-/

namespace TypedStyle

namespace Text

/-- Texts in a row have as many bytes as both. -/
theorem byteCount_append (t u : Text) : (t ++ u).byteCount = t.byteCount + u.byteCount := by
  induction t with
  | nil => exact (Nat.zero_add _).symm
  | cons c t ih =>
      rw [List.cons_append, byteCount, byteCount, ih]
      exact (Nat.add_assoc _ _ _).symm

end Text

namespace Path

variable {path child : Path}

/-- A name alone does not start at the root. -/
theorem isAbsolute_of_isWritten {name : Path} (h : (Step.down name).IsWritten) :
    name.isAbsolute = false := by
  obtain ⟨-, hslash, -⟩ := h
  cases name with
  | nil => rfl
  | cons c rest =>
      have hc : c ≠ '/' := fun heq => hslash (by simp [heq])
      simp [isAbsolute, hc]

/-- A joined path goes on from the path. -/
theorem exists_join_eq (h : child.isAbsolute = false) (path : Path) :
    ∃ rest, path.join child = path ++ rest := by
  rw [join, if_neg (by simp [h])]
  split
  · exact ⟨child, rfl⟩
  · exact ⟨'/' :: child, rfl⟩

end Path

namespace FileTree

variable {tree other : FileTree} {place : Place} {path : Path} {name : Text}

/-! ## One more step -/

/-- The place that steps go on from behind a destination, which must be that of a folder. -/
def Destination.enter (tree : FileTree) : Destination → Except FileFault Place
  | .folder place => .ok place
  | .entry parent name => do
    match ← tree.look parent name with
    | some .folder => .ok (parent ++ [name])
    | some (.file _) => .error .notFolder
    | none => .error .notFound

/-- **One more name is one more step**, from the folder that the others lead to. -/
theorem walk_concat (place : Place) (steps : List Path.Step) (name : Text) :
    tree.walk place (steps ++ [.down name]) = (do
      let folder ← (← tree.walk place steps).enter tree
      .ok (.entry folder name)) := by
  induction steps generalizing place with
  | nil => rfl
  | cons step rest ih =>
      cases step with
      | here => exact ih place
      | up => exact ih place.dropLast
      | down n =>
          cases rest with
          | nil =>
              rw [List.cons_append, List.nil_append, walk, walk]
              cases hlook : tree.look place n with
              | error fault => simp [bind, Except.bind, Destination.enter, hlook]
              | ok found =>
                  rcases found with _ | content | _ <;>
                    simp [bind, Except.bind, Destination.enter, hlook, walk]
          | cons next rest =>
              rw [List.cons_append, List.cons_append, walk, walk]
              cases tree.look place n with
              | error fault => rfl
              | ok found =>
                  rcases found with _ | content | _
                  · rfl
                  · rfl
                  · exact ih (place ++ [n])

/-- **A joined path leads to the name in the folder.**  Where there is no folder, it fails in the
way in which asking for the folder does. -/
theorem find_join (hname : (Path.Step.down name).IsWritten) (hne : path ≠ [])
    (hnull : '\x00' ∉ path.join name) (hshort : Text.byteCount (path.join name) ≤ pathLimit) :
    tree.find (path.join name) = (do
      match ← tree.inspect path with
      | .folder => .ok (.entry (tree.named path) name)
      | .file => .error .notFolder) := by
  have hrelative := Path.isAbsolute_of_isWritten hname
  have hsteps : Path.steps name = [.down name] := Path.steps_of_name hname
  obtain ⟨rest, hjoin⟩ := Path.exists_join_eq hrelative path
  have hjoined : path.join name ≠ [] := by simp [hjoin, hne]
  have hnullPath : '\x00' ∉ path := fun hmem => hnull (by simp [hjoin, hmem])
  have hshortPath : Text.byteCount path ≤ pathLimit := by
    rw [hjoin, Text.byteCount_append] at hshort
    omega
  have hfind : tree.find path = tree.walk (tree.start path) path.steps := by
    simp [find, start, hnullPath, hne, Nat.not_lt.mpr hshortPath]
  have hfindJoin : tree.find (path.join name) = (do
      let folder ← (← tree.find path).enter tree
      .ok (.entry folder name)) := by
    rw [hfind, ← walk_concat, ← hsteps, ← Path.steps_join hrelative]
    simp [find, start, hnull, hjoined, Nat.not_lt.mpr hshort, Path.isAbsolute_join hrelative]
  rw [hfindJoin, inspect, node]
  cases hdestination : tree.find path with
  | error fault => rfl
  | ok destination =>
      rw [← place_of_find hdestination]
      cases destination with
      | folder place => rfl
      | entry parent n =>
          cases hlook : tree.look parent n with
          | error fault => simp [bind, Except.bind, Except.map, Destination.enter, hlook]
          | ok found =>
              rcases found with _ | content | _
              · simp [bind, Except.bind, Except.map, Destination.enter, hlook]
              · cases path.endsInSlash <;>
                  simp [bind, Except.bind, Except.map, Destination.enter, hlook, FileNode.kind]
              · simp [bind, Except.bind, Except.map, Destination.enter, hlook, FileNode.kind,
                  Destination.place]

/-- The name joined to a path names a place right below that of the path. -/
theorem named_join (hname : (Path.Step.down name).IsWritten) (path : Path) :
    tree.named (path.join name) = tree.named path ++ [name] := by
  have hrelative := Path.isAbsolute_of_isWritten hname
  have hsteps : Path.steps name = [.down name] := Path.steps_of_name hname
  rw [named, start, Path.isAbsolute_join hrelative, Path.steps_join hrelative, hsteps, follow,
    List.foldl_append]
  rfl

/-! ## A file that a path leads to -/

/-- What a path to a file leads to is the file at the place that the path names. -/
theorem node_of_inspect_file (h : tree.inspect path = .ok .file) :
    ∃ content, tree.at? (tree.named path) = some (.file content) ∧
      tree.node path = .ok (tree.named path, .file content) := by
  unfold inspect at h
  rcases hnode : tree.node path with fault | ⟨place, content | _⟩
  · simp [hnode, Except.map] at h
  · obtain ⟨parent, name, hfind, -, -, rfl, hat⟩ := node_eq_file_iff.mp hnode
    rw [← place_of_find hfind]
    exact ⟨content, hat, rfl⟩
  · simp [hnode, Except.map, FileNode.kind] at h

/-! ## One place apart -/

/-- The trees have the same working folder, and the same stands at every place but one and those
below it. -/
structure SameBut (tree other : FileTree) (place : Place) : Prop where
  home : other.home = tree.home
  places : ∀ elsewhere, ¬ place <+: elsewhere → other.at? elsewhere = tree.at? elsewhere

namespace SameBut

/-- Putting something at a place changes nothing else. -/
theorem of_put (tree : FileTree) (place : Place) (node : FileNode) :
    (tree.put place node).SameBut tree place where
  home := rfl
  places elsewhere h := by
    have hne : elsewhere ≠ place := by
      rintro rfl
      exact h (List.prefix_refl _)
    exact (at?_put_of_ne tree hne node).symm

variable (h : tree.SameBut other place)

include h

/-- Trees that differ at one place have paths that name the same places. -/
theorem named_eq (path : Path) : other.named path = tree.named path := by
  simp [named, start, h.home]

/-- A joined path leads to the same destination, if the folder is found in the same way. -/
theorem find_join_eq (hname : (Path.Step.down name).IsWritten)
    (hfolder : other.inspect path = tree.inspect path) :
    other.find (path.join name) = tree.find (path.join name) := by
  by_cases hnull : '\x00' ∈ path.join name
  · rw [find_of_null _ hnull, find_of_null _ hnull]
  by_cases hshort : Text.byteCount (path.join name) ≤ pathLimit
  · by_cases hempty : path = []
    · -- The empty path is no folder, but a name joined to it stands in the working folder.
      have hrelative := Path.isAbsolute_of_isWritten hname
      have hsteps : Path.steps name = [.down name] := Path.steps_of_name hname
      subst hempty
      simp [find, Path.join, hrelative, hsteps, h.home, walk]
    · rw [find_join hname hempty hnull hshort, find_join hname hempty hnull hshort, hfolder,
        h.named_eq]
  · simp [find, hnull, Nat.lt_of_not_le hshort]

/-- **The other names in a folder lead to the same as before.** -/
theorem node_join (hname : (Path.Step.down name).IsWritten)
    (hfolder : other.inspect path = tree.inspect path)
    (helsewhere : ¬ place <+: tree.named path ++ [name]) :
    other.node (path.join name) = tree.node (path.join name) := by
  rw [node, node, h.find_join_eq hname hfolder]
  cases hfind : tree.find (path.join name) with
  | error fault => rfl
  | ok destination =>
      cases destination with
      | folder place => rfl
      | entry parent n =>
          have hplace : parent ++ [n] = tree.named path ++ [name] :=
            (place_of_find hfind).trans (named_join hname path)
          have hlook : other.look parent n = tree.look parent n := by
            rw [look, look, h.places (parent ++ [n]) (hplace ▸ helsewhere)]
          simp only [bind, Except.bind, hlook]

/-- **What a joined path leads to is the same** in both trees, if the folder is and the other place
is elsewhere. -/
theorem inspect_join (hname : (Path.Step.down name).IsWritten)
    (hfolder : other.inspect path = tree.inspect path)
    (helsewhere : ¬ place <+: tree.named path ++ [name]) :
    other.inspect (path.join name) = tree.inspect (path.join name) := by
  rw [inspect, inspect, h.node_join hname hfolder helsewhere]

/-- So is what is read there. -/
theorem read_join (hname : (Path.Step.down name).IsWritten)
    (hfolder : other.inspect path = tree.inspect path)
    (helsewhere : ¬ place <+: tree.named path ++ [name]) :
    other.read (path.join name) = tree.read (path.join name) := by
  rw [read, read, h.node_join hname hfolder helsewhere]

/-- A file that is found in both trees has the same content, if it stands elsewhere. -/
theorem read_of_inspect_file (hfile : tree.inspect path = .ok .file)
    (hsame : other.inspect path = tree.inspect path) (helsewhere : ¬ place <+: tree.named path) :
    other.read path = tree.read path := by
  obtain ⟨content, hat, hnode⟩ := node_of_inspect_file hfile
  obtain ⟨bytes, hatOther, hnodeOther⟩ := node_of_inspect_file (hsame.trans hfile)
  rw [h.named_eq, h.places _ helsewhere, hat] at hatOther
  obtain rfl : content = bytes := by simpa using hatOther
  rw [read, read, hnode, hnodeOther]
  rfl

end SameBut

end FileTree

end TypedStyle
