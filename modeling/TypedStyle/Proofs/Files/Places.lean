import TypedStyle.Proofs.Files.Loading
import TypedStyle.Proofs.Files.Overwriting
import TypedStyle.Proofs.Text.Splitting
/-!
# The places that paths name

Where a path leads, if it leads anywhere, can be read off the path: every name on it leads one place
down, and `..` leads one place up.  So it is known which place a request changes.  Writing a file
changes the place that its path names.  Making a folder, and before it those above it as far as they
are missing, puts folders at places that the path passes, where nothing stood.

* `steps_join`, `steps_ofSteps` — the steps of composed paths;
* `place_of_find` — a path leads to the place that it names;
* `put_of_write`, `read_put` — what writing changes, and what it leaves;
* `grown_makeFolders` — what making folders changes.
-/

namespace TypedStyle

/-! ## Steps of composed paths -/

namespace Path

variable {path child : Path} {step : Step}

/-- The step can stand on a path as it is written. -/
def Step.IsWritten : Step → Prop
  | .here | .up => True
  | .down name => name ≠ [] ∧ '/' ∉ name ∧ name ≠ "." ∧ name ≠ ".."

/-- A name without slashes, unless it is empty, is a step that can be written. -/
theorem Step.isWritten_ofName {name : Text} (hne : name ≠ []) (hslash : '/' ∉ name) :
    (ofName name).IsWritten := by
  unfold ofName
  split
  · trivial
  · split
    · trivial
    · next hhere hup => exact ⟨hne, hslash, hhere, hup⟩

/-- Such a step is read as itself from its text. -/
theorem Step.IsWritten.text (h : step.IsWritten) :
    step.text ≠ [] ∧ '/' ∉ step.text ∧ ofName step.text = step := by
  cases step with
  | here => decide
  | up => decide
  | down name =>
      obtain ⟨hne, hslash, hhere, hup⟩ := h
      exact ⟨hne, hslash, by simp [Step.text, ofName, hhere, hup]⟩

/-- All steps of a path can be written. -/
theorem isWritten_of_mem_steps (h : step ∈ path.steps) : step.IsWritten := by
  obtain ⟨name, hname, rfl⟩ := List.mem_map.mp h
  obtain ⟨hpiece, hne⟩ := List.mem_filter.mp hname
  exact Step.isWritten_ofName (by simpa using hne) (Text.not_mem_of_mem_splitOn hpiece)

/-- The steps on both sides of a slash follow each other. -/
theorem steps_append (a b : Path) : steps (a ++ '/' :: b) = a.steps ++ b.steps := by
  simp [steps, Text.splitOn_append]

/-- The path that is the text of a step has this step alone. -/
theorem steps_of_name (h : step.IsWritten) : steps step.text = [step] := by
  obtain ⟨hne, hslash, hstep⟩ := h.text
  simp [steps, Text.splitOn_of_not_mem hslash, hne, hstep]

/-- **The steps of a joined path are those of its parts.** -/
theorem steps_join (h : child.isAbsolute = false) (path : Path) :
    (path.join child).steps = path.steps ++ child.steps := by
  rw [join, if_neg (by simp [h])]
  split
  · next hends =>
    rcases Bool.or_eq_true_iff.mp hends with hempty | hslash
    · obtain rfl := List.isEmpty_iff.mp hempty
      rfl
    · -- The slash at the end is the one between the parts.
      obtain ⟨front, rfl⟩ := List.getLast?_eq_some_iff.mp (by simpa [endsInSlash] using hslash)
      rw [List.append_assoc, List.singleton_append, steps_append, steps_append front []]
      simp [steps, Text.splitOn]
  · exact steps_append path child

/-- A joined path starts where the path in front does. -/
theorem isAbsolute_join (h : child.isAbsolute = false) (path : Path) :
    (path.join child).isAbsolute = path.isAbsolute := by
  rw [join, if_neg (by simp [h])]
  cases path with
  | nil => simpa [isAbsolute] using h
  | cons c rest => split <;> rfl

/-- **A path that is written from steps has these steps**, and starts where it is told. -/
theorem steps_ofSteps (absolute : Bool) {steps : List Step} (h : ∀ step ∈ steps, step.IsWritten) :
    (ofSteps absolute steps).steps = steps := by
  have hjoin : Path.steps (Text.join "/" (steps.map Step.text)) = steps := by
    induction steps with
    | nil => rfl
    | cons step rest ih =>
        obtain ⟨hstep, hrest⟩ := List.forall_mem_cons.mp h
        cases rest with
        | nil => simpa [Text.join, List.intercalate] using steps_of_name hstep
        | cons next rest =>
            have hsplit : Text.join "/" ((step :: next :: rest).map Step.text) =
                step.text ++ '/' :: Text.join "/" ((next :: rest).map Step.text) := rfl
            rw [hsplit, steps_append, steps_of_name hstep, ih hrest]
            rfl
  cases absolute with
  | false => exact hjoin
  | true => exact (steps_append [] _).trans hjoin

/-- A path that is made of steps starts at the root or not, as is wanted. -/
theorem isAbsolute_ofSteps (absolute : Bool) {steps : List Step}
    (h : ∀ step ∈ steps, step.IsWritten) : (ofSteps absolute steps).isAbsolute = absolute := by
  cases absolute with
  | true => rfl
  | false =>
      cases steps with
      | nil => rfl
      | cons step rest =>
          obtain ⟨hne, hslash, -⟩ := (h step List.mem_cons_self).text
          obtain ⟨c, name, hname⟩ := List.exists_cons_of_ne_nil hne
          have hc : c ≠ '/' := by
            rintro rfl
            simp [hname] at hslash
          cases rest <;>
            simp [ofSteps, isAbsolute, Text.onlyIf, Text.join, List.intercalate, hname, hc]

end Path

namespace FileTree

/-! ## The place that a path names -/

/-- The place of a destination. -/
def Destination.place : Destination → Place
  | .folder place => place
  | .entry parent name => parent ++ [name]

/-- The place that a step leads to. -/
def advance (place : Place) : Path.Step → Place
  | .here => place
  | .up => place.dropLast
  | .down name => place ++ [name]

/-- The place that steps lead to, when everything on the way is a folder. -/
def follow (place : Place) (steps : List Path.Step) : Place :=
  steps.foldl advance place

/-- The place that a path starts from. -/
def start (tree : FileTree) (path : Path) : Place :=
  if path.isAbsolute then [] else tree.home

/-- The place that a path names, whatever stands there. -/
def named (tree : FileTree) (path : Path) : Place :=
  follow (tree.start path) path.steps

/-- The path passes the place, or leads to it. -/
def Passes (tree : FileTree) (path : Path) (place : Place) : Prop :=
  ∃ front, front <+: path.steps ∧ follow (tree.start path) front = place

variable {tree mid after : FileTree} {place target : Place} {path : Path}
variable {destination : Destination}

/-- **A walk ends at the place that its steps name**, if it comes to an end. -/
theorem place_of_walk {steps : List Path.Step} (h : tree.walk place steps = .ok destination) :
    destination.place = follow place steps := by
  induction steps generalizing place with
  | nil =>
      obtain rfl : .folder place = destination := Except.ok.inj h
      rfl
  | cons step rest ih =>
      cases step with
      | here => exact ih h
      | up => exact ih h
      | down name =>
          cases rest with
          | nil =>
              obtain rfl : .entry place name = destination := Except.ok.inj h
              rfl
          | cons next rest => exact ih (walk_down_eq_ok_iff.mp h).2

/-- **A path that leads somewhere leads to the place that it names.** -/
theorem place_of_find (h : tree.find path = .ok destination) :
    destination.place = tree.named path := by
  unfold find at h
  split at h
  · contradiction
  · split at h
    · contradiction
    · split at h
      · contradiction
      · exact place_of_walk h

/-- A file is written at the place that its path names. -/
theorem place_of_writable (h : tree.writable path = .ok target) : target = tree.named path := by
  obtain ⟨parent, name, hfind, -, -, -, rfl⟩ := entry_of_writable h
  exact place_of_find hfind

/-- A folder is made at the place that its path names, where nothing stands. -/
theorem place_of_makeable (h : tree.makeable path = .ok target) :
    target = tree.named path ∧ tree.at? target = none ∧ target ≠ [] := by
  obtain ⟨found, hfind, hentry⟩ := exists_of_bind_eq_ok h
  cases found with
  | folder place => contradiction
  | entry parent name =>
      obtain ⟨standing, hlook, htarget⟩ := exists_of_bind_eq_ok hentry
      obtain ⟨-, rfl⟩ := look_eq_ok_iff.mp hlook
      split at htarget
      · contradiction
      · next hnone =>
        obtain rfl : parent ++ [name] = target := Except.ok.inj htarget
        exact ⟨place_of_find hfind, hnone, by simp⟩

/-- Staying where one is leads nowhere else. -/
theorem follow_filter (place : Place) (steps : List Path.Step) :
    follow place (steps.filter (· ≠ .here)) = follow place steps := by
  induction steps generalizing place with
  | nil => rfl
  | cons step rest ih =>
      cases step with
      | here => exact ih place
      | up => exact ih place.dropLast
      | down name => exact ih (place ++ [name])

/-- The steps that matter lead past places that all the steps lead past. -/
theorem follow_take_ownSteps (path : Path) (n : Nat) (place : Place) :
    ∃ front, front <+: path.steps ∧
      follow place (path.ownSteps.take n) = follow place front := by
  have hfilter : ∀ (steps : List Path.Step) (n : Nat) (place : Place), ∃ front, front <+: steps ∧
      follow place ((steps.filter (· ≠ .here)).take n) = follow place front := by
    intro steps n place
    obtain ⟨front, hfront, htake⟩ := List.prefix_filter_iff.mp
      (List.take_prefix n (steps.filter (· ≠ .here)))
    exact ⟨front, hfront, by rw [htake, follow_filter]⟩
  unfold Path.ownSteps
  split
  · next rest hsteps =>
    rw [hsteps]
    by_cases habsolute : path.isAbsolute = true
    · obtain ⟨front, hfront, heq⟩ := hfilter rest n place
      refine ⟨.here :: front, (List.prefix_cons_inj _).mpr hfront, ?_⟩
      rw [if_pos habsolute]
      exact heq
    · rw [if_neg habsolute]
      cases n with
      | zero => exact ⟨[], List.nil_prefix, rfl⟩
      | succ n =>
          obtain ⟨front, hfront, heq⟩ := hfilter rest n place
          exact ⟨.here :: front, (List.prefix_cons_inj _).mpr hfront, heq⟩
  · exact hfilter path.steps n place

/-- The steps of a path by itself can be written. -/
theorem isWritten_of_mem_ownSteps {step : Path.Step} (h : step ∈ path.ownSteps) :
    step.IsWritten := by
  unfold Path.ownSteps at h
  split at h
  · next rest hsteps =>
    rcases List.mem_append.mp h with hhere | hrest
    · obtain rfl : step = .here := by
        split at hhere <;> simp_all
      trivial
    · apply Path.isWritten_of_mem_steps
      rw [hsteps]
      exact List.mem_cons_of_mem _ (List.mem_filter.mp hrest).1
  · exact Path.isWritten_of_mem_steps (List.mem_filter.mp h).1

/-- **The paths above a path name places that it passes.** -/
theorem passes_of_mem_above (tree : FileTree) {parent : Path} (h : parent ∈ path.above) :
    tree.Passes path (tree.named parent) := by
  obtain ⟨hparent, -⟩ := List.mem_filter.mp h
  obtain ⟨n, -, rfl⟩ := List.mem_map.mp hparent
  have hwritten : ∀ step ∈ path.ownSteps.take n, step.IsWritten :=
    fun step hstep => isWritten_of_mem_ownSteps (List.mem_of_mem_take hstep)
  obtain ⟨front, hfront, hfollow⟩ := follow_take_ownSteps path n (tree.start path)
  refine ⟨front, hfront, ?_⟩
  rw [named, Path.steps_ofSteps _ hwritten, ← hfollow, start, start,
    Path.isAbsolute_ofSteps _ hwritten]

/-- A path passes the place that it names. -/
theorem passes_named (tree : FileTree) (path : Path) : tree.Passes path (tree.named path) :=
  ⟨path.steps, List.prefix_refl _, rfl⟩

/-! ## Writing -/

/-- The content of the file at a place, if there is one. -/
def content? (tree : FileTree) (place : Place) : Option ByteArray :=
  match tree.at? place with
  | some (.file content) => some content
  | _ => none

/-- Where the same stands, the content is the same. -/
theorem content?_congr (h : after.at? place = tree.at? place) :
    after.content? place = tree.content? place := by
  rw [content?, content?, h]

/-- **Writing puts a file at the place that the path names**, which is not that of a folder. -/
theorem put_of_write {content : ByteArray} (h : tree.write path content = .ok after) :
    tree.at? (tree.named path) ≠ some .folder ∧
      after = tree.put (tree.named path) (.file content) := by
  cases hwritable : tree.writable path with
  | error fault =>
      rw [write, hwritable] at h
      contradiction
  | ok target =>
      rw [write, hwritable] at h
      obtain ⟨_, _, -, -, -, hfree, -⟩ := entry_of_writable hwritable
      obtain rfl := place_of_writable hwritable
      exact ⟨hfree, (Except.ok.inj h).symm⟩

/-- **What is read from one place is read still when a file is put at another**, if no folder gives
way to it. -/
theorem read_put {content other : ByteArray} (hread : tree.read path = .ok content)
    (hfree : tree.at? target ≠ some .folder) (hne : tree.named path ≠ target) :
    (tree.put target (.file other)).read path = .ok content := by
  obtain ⟨place, hnode⟩ := read_eq_ok_iff.mp hread
  obtain ⟨parent, name, hfind, hslash, hshort, hplace, hat⟩ := node_eq_file_iff.mp hnode
  have hother : place ≠ target := by
    rw [← place_of_find hfind] at hne
    rwa [hplace]
  have hstill := (at?_put_of_ne tree hother (.file other)).trans hat
  exact read_eq_ok_iff.mpr ⟨place, node_eq_file_iff.mpr ⟨parent, name,
    find_put other hfree hfind, hslash, hshort, hplace, hstill⟩⟩

/-! ## Growing trees -/

/-- Folders have been made at some of these places, where nothing stood, and nothing else is
different. -/
structure Grown (tree after : FileTree) (new : Place → Prop) : Prop where
  home : after.home = tree.home
  places : ∀ place, after.at? place = tree.at? place ∨
    new place ∧ tree.at? place = none ∧ after.at? place = some .folder

variable {new : Place → Prop}

theorem Grown.refl (tree : FileTree) (new : Place → Prop) : Grown tree tree new :=
  ⟨rfl, fun _ => Or.inl rfl⟩

/-- Folders at some of these places are folders at some of more places. -/
theorem Grown.mono {wider : Place → Prop} (h : Grown tree after new)
    (hwider : ∀ place, new place → wider place) : Grown tree after wider :=
  ⟨h.home, fun place => (h.places place).imp_right fun ⟨hnew, hmade⟩ => ⟨hwider place hnew, hmade⟩⟩

/-- A tree that grows twice has grown. -/
theorem Grown.trans (h : Grown tree mid new) (h' : Grown mid after new) : Grown tree after new := by
  refine ⟨h'.home.trans h.home, fun place => ?_⟩
  rcases h.places place with hsame | ⟨hnew, hnone, hmade⟩
  · rw [← hsame]
    exact h'.places place
  · rcases h'.places place with hsame | ⟨-, hnone', -⟩
    · exact Or.inr ⟨hnew, hnone, hsame.trans hmade⟩
    · rw [hmade] at hnone'
      contradiction

/-- **No file is different in a tree that has grown.** -/
theorem Grown.content?_eq (h : Grown tree after new) (place : Place) :
    after.content? place = tree.content? place := by
  rcases h.places place with hsame | ⟨-, hnone, hmade⟩
  · exact content?_congr hsame
  · rw [content?, content?, hnone, hmade]

/-- Growing does not change which place a path names. -/
theorem Grown.named_eq (h : Grown tree after new) (path : Path) :
    after.named path = tree.named path := by
  simp [named, start, h.home]

end FileTree

namespace Script

open FileTree

variable {tree : FileTree} {path : Path}

/-- A request for a folder makes one at the place that its path names, or changes nothing. -/
theorem grown_changed_makeFolder (tree : FileTree) (path : Path) :
    Grown tree (changed tree (tree.makeFolder path)).2 (· = tree.named path) := by
  cases hmakeable : tree.makeable path with
  | error fault =>
      rw [FileTree.makeFolder, hmakeable]
      exact Grown.refl tree _
  | ok target =>
      rw [FileTree.makeFolder, hmakeable]
      obtain ⟨rfl, hnone, hne⟩ := place_of_makeable hmakeable
      refine ⟨rfl, fun place => ?_⟩
      by_cases hplace : place = tree.named path
      · subst hplace
        exact Or.inr ⟨rfl, hnone, at?_put_self tree hne .folder⟩
      · exact Or.inl (at?_put_of_ne tree hplace .folder)

/-- Deciding about a folder that could not be made only reads. -/
theorem readsOnly_settle (path : Path) (answer : Except FileFault Unit) :
    (ensureFolders.settle path answer).ReadsOnly := by
  cases answer with
  | ok _ => exact readsOnly_pure _
  | error fault =>
      have hfolder : (isFolder path).ReadsOnly := fun _ => trivial
      refine hfolder.bind fun found => ?_
      cases found <;> exact readsOnly_pure _

/-- A request for a folder, and what only reads behind it. -/
theorem grown_makeFolder {next : Except FileFault Unit → Script (Except FileFault Unit)}
    (hnext : ∀ answer, (next answer).ReadsOnly) (clock : Text) (tree : FileTree) (path : Path) :
    Grown tree ((Script.makeFolder path next).run clock tree).2 (· = tree.named path) := by
  have hrun : ((Script.makeFolder path next).run clock tree).2 =
      (changed tree (tree.makeFolder path)).2 := (hnext _).run clock _
  rw [hrun]
  exact grown_changed_makeFolder tree path

/-- **Making a folder and those above it makes folders at the places that these paths name.**  The
induction is on the paths above, of which the nearest is made first. -/
theorem grown_ensureFolders (clock : Text) (above : List Path) (path : Path) (tree : FileTree) :
    Grown tree ((ensureFolders path above).run clock tree).2 fun place =>
      ∃ asked ∈ path :: above, place = tree.named asked := by
  induction above generalizing path tree with
  | nil =>
      apply (grown_makeFolder (readsOnly_settle path) clock tree path).mono
      exact fun place hplace => ⟨path, List.mem_cons_self, hplace⟩
  | cons parent above ih =>
      have hself : ∀ place, place = tree.named path →
          ∃ asked ∈ path :: parent :: above, place = tree.named asked :=
        fun place hplace => ⟨path, List.mem_cons_self, hplace⟩
      have habove : ∀ place, (∃ asked ∈ parent :: above, place = tree.named asked) →
          ∃ asked ∈ path :: parent :: above, place = tree.named asked :=
        fun place ⟨asked, hasked, hplace⟩ => ⟨asked, List.mem_cons_of_mem _ hasked, hplace⟩
      have hfirst := (grown_changed_makeFolder tree path).mono hself
      rw [ensureFolders, run]
      generalize changed tree (tree.makeFolder path) = outcome at hfirst ⊢
      obtain ⟨answer, mid⟩ := outcome
      dsimp only at hfirst ⊢
      split
      · -- Something above is missing, so it is made, and then the folder is asked for again.
        have hparents := ih parent mid
        simp only [hfirst.named_eq] at hparents
        have hboth := hfirst.trans (hparents.mono habove)
        rw [run_bind]
        generalize (ensureFolders parent above).run clock mid = outcome at hboth ⊢
        obtain ⟨result, made⟩ := outcome
        cases result with
        | error fault => exact hboth
        | ok _ =>
            have hagain := grown_makeFolder (readsOnly_settle path) clock made path
            rw [hboth.named_eq] at hagain
            exact hboth.trans (hagain.mono hself)
      · rw [(readsOnly_settle path _).run]
        exact hfirst

/-- **Making the missing folders of a path changes only places that the path passes**, and only
those where nothing stood. -/
theorem grown_makeFolders (clock : Text) (path : Path) (tree : FileTree) :
    Grown tree ((makeFolders path).run clock tree).2 (tree.Passes path) := by
  unfold makeFolders
  split
  · exact Grown.refl tree _
  · apply (grown_ensureFolders clock path.above path tree).mono
    rintro place ⟨asked, hasked, rfl⟩
    rcases List.mem_cons.mp hasked with rfl | habove
    · exact passes_named tree asked
    · exact passes_of_mem_above tree habove

end Script

end TypedStyle
