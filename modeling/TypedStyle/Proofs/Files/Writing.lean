import TypedStyle.Files.Script
/-!
# Reading what was written

Writing a file puts it where no folder is.  A path passes through folders only, so every path that
led somewhere before still leads there, and the path that was written leads to the new file.

* `walk_put`, `find_put` — paths lead to where they led before;
* `node_eq_file_iff`, `read_eq_ok_iff` — which paths lead to a file, and what is read there;
* `read_write` — the content of a written file is what was written;
* `run_writeText`, `run_readText` — what the scripts for texts make of a tree.
-/

namespace TypedStyle

/-- A result that is reached in two parts is reached through a result of the first one. -/
theorem exists_of_bind_eq_ok {ε α β : Type} {first : Except ε α} {others : α → Except ε β} {b : β}
    (h : first >>= others = .ok b) : ∃ a, first = .ok a ∧ others a = .ok b := by
  cases first with
  | error e => contradiction
  | ok a => exact ⟨a, rfl, h⟩

namespace FileTree

variable {tree after : FileTree} {place target : Place} {path : Path}
variable {destination : Destination} {content : ByteArray}

/-- What is a folder is one still when a file is put elsewhere than over a folder. -/
theorem at?_put_of_folder (content : ByteArray) (hfree : tree.at? target ≠ some .folder)
    (hfolder : tree.at? place = some .folder) :
    (tree.put target (.file content)).at? place = some .folder := by
  have hne : place ≠ target := by
    intro heq
    rw [heq] at hfolder
    exact hfree hfolder
  rw [at?_put_of_ne tree hne, hfolder]

/-- A name is looked up in a folder if it is not too long. -/
theorem look_eq_ok_iff {parent : Place} {name : Text} {found : Option FileNode} :
    tree.look parent name = .ok found ↔
      name.byteCount ≤ nameLimit ∧ tree.at? (parent ++ [name]) = found := by
  unfold look
  split
  · next hlong =>
    constructor
    · intro h
      contradiction
    · rintro ⟨hshort, _⟩
      omega
  · next hshort => simp [Nat.le_of_not_lt hshort]

/-- A name that is not the last one must be that of a folder. -/
theorem walk_down_eq_ok_iff {name : Text} {next : Path.Step} {rest : List Path.Step} :
    tree.walk place (.down name :: next :: rest) = .ok destination ↔
      tree.look place name = .ok (some .folder) ∧
        tree.walk (place ++ [name]) (next :: rest) = .ok destination := by
  rw [walk]
  cases hlook : tree.look place name with
  | error fault => simp [bind, Except.bind]
  | ok found =>
      rcases found with _ | content | _ <;> simp [bind, Except.bind]

/-- **Steps that lead somewhere still do when a file is put where no folder is**, since all that
they pass through are folders. -/
theorem walk_put (content : ByteArray) (hfree : tree.at? target ≠ some .folder)
    {steps : List Path.Step} (h : tree.walk place steps = .ok destination) :
    (tree.put target (.file content)).walk place steps = .ok destination := by
  induction steps generalizing place with
  | nil => exact h
  | cons step rest ih =>
      cases step with
      | here => exact ih h
      | up => exact ih h
      | down name =>
          cases rest with
          | nil => exact h
          | cons next rest =>
              obtain ⟨hlook, hwalk⟩ := walk_down_eq_ok_iff.mp h
              obtain ⟨hshort, hfolder⟩ := look_eq_ok_iff.mp hlook
              have hstill := at?_put_of_folder content hfree hfolder
              exact walk_down_eq_ok_iff.mpr ⟨look_eq_ok_iff.mpr ⟨hshort, hstill⟩, ih hwalk⟩

/-- A path finds its way as before when a file has been put where no folder is. -/
theorem find_put (content : ByteArray) (hfree : tree.at? target ≠ some .folder)
    (h : tree.find path = .ok destination) :
    (tree.put target (.file content)).find path = .ok destination := by
  unfold find at h ⊢
  split at h
  · contradiction
  · split at h
    · contradiction
    · split at h
      · contradiction
      · next hnull hlong hempty =>
        rw [if_neg hnull, if_neg hlong, if_neg hempty]
        exact walk_put content hfree h

/-- What can be written is a name in a folder, at which there is no folder. -/
theorem entry_of_writable (h : tree.writable path = .ok target) :
    ∃ parent name, tree.find path = .ok (.entry parent name) ∧ path.endsInSlash = false ∧
      name.byteCount ≤ nameLimit ∧ tree.at? target ≠ some .folder ∧ target = parent ++ [name] := by
  obtain ⟨found, hfind, hentry⟩ := exists_of_bind_eq_ok h
  cases found with
  | folder place => contradiction
  | entry parent name =>
      by_cases hslash : path.endsInSlash = true
      · simp [hslash] at hentry
      · simp only [hslash, Bool.false_eq_true, if_false] at hentry
        obtain ⟨standing, hlook, htarget⟩ := exists_of_bind_eq_ok hentry
        obtain ⟨hshort, rfl⟩ := look_eq_ok_iff.mp hlook
        split at htarget
        · contradiction
        · next hfree =>
          obtain rfl : parent ++ [name] = target := Except.ok.inj htarget
          exact ⟨parent, name, hfind, by simpa using hslash, hshort, hfree, rfl⟩

/-- **A path leads to a file** that stands at a name in a folder, if it does not end in a slash. -/
theorem node_eq_file_iff :
    tree.node path = .ok (place, .file content) ↔
      ∃ parent name, tree.find path = .ok (.entry parent name) ∧ path.endsInSlash = false ∧
        name.byteCount ≤ nameLimit ∧ place = parent ++ [name] ∧
        tree.at? place = some (.file content) := by
  constructor
  · intro h
    obtain ⟨found, hfind, hentry⟩ := exists_of_bind_eq_ok h
    cases found with
    | folder place => simp at hentry
    | entry parent name =>
        obtain ⟨standing, hlook, hstanding⟩ := exists_of_bind_eq_ok hentry
        obtain ⟨hshort, hat⟩ := look_eq_ok_iff.mp hlook
        rcases standing with _ | bytes | _
        · simp at hstanding
        · cases hslash : path.endsInSlash with
          | true => simp [hslash] at hstanding
          | false =>
              simp only [hslash, Bool.false_eq_true, if_false, Except.ok.injEq, Prod.mk.injEq,
                FileNode.file.injEq] at hstanding
              obtain ⟨rfl, rfl⟩ := hstanding
              exact ⟨parent, name, hfind, rfl, hshort, rfl, hat⟩
        · simp at hstanding
  · rintro ⟨parent, name, hfind, hslash, hshort, rfl, hat⟩
    have hlook := look_eq_ok_iff.mpr ⟨hshort, hat⟩
    simp [node, hfind, hlook, hslash, bind, Except.bind]

/-- What is read is the content of the file that the path leads to. -/
theorem read_eq_ok_iff :
    tree.read path = .ok content ↔ ∃ place, tree.node path = .ok (place, .file content) := by
  constructor
  · intro h
    obtain ⟨⟨place, node⟩, hnode, hcontent⟩ := exists_of_bind_eq_ok h
    cases node with
    | folder => contradiction
    | file bytes =>
        obtain rfl : bytes = content := Except.ok.inj hcontent
        exact ⟨place, hnode⟩
  · rintro ⟨place, hnode⟩
    rw [read, hnode]
    rfl

/-- **The content of a written file is what was written.** -/
theorem read_write (h : tree.write path content = .ok after) : after.read path = .ok content := by
  unfold write at h
  cases hwritable : tree.writable path with
  | error fault =>
      rw [hwritable] at h
      contradiction
  | ok target =>
      rw [hwritable] at h
      obtain rfl : tree.put target (.file content) = after := Except.ok.inj h
      obtain ⟨parent, name, hfind, hslash, hshort, hfree, rfl⟩ := entry_of_writable hwritable
      exact read_eq_ok_iff.mpr ⟨_, node_eq_file_iff.mpr ⟨parent, name,
        find_put content hfree hfind, hslash, hshort, rfl, at?_put_self tree (by simp) _⟩⟩

end FileTree

namespace Script

variable {tree : FileTree} {path : Path} {t : Text}

/-- Writing a text is writing its bytes. -/
theorem run_writeText (clock : Text) (path : Path) (t : Text) (tree : FileTree) :
    (writeText path t).run clock tree = changed tree (tree.write path t.toBytes) :=
  rfl

/-- A text file is read as the text whose bytes it holds. -/
theorem run_readText (clock : Text) (h : tree.read path = .ok t.toBytes) :
    (readText path).run clock tree = (.ok t, tree) := by
  simp [readText, run, h, Bind.bind, Except.bind]

end Script

end TypedStyle
