import TypedStyle.Proofs.Files.Places
import TypedStyle.Tool.Generate
/-!
# What a failure leaves behind

The artifacts are checked and written one after the other.  So wherever it stops, those before hold
their texts, and the one that stopped it and those behind it have the files that they had, if they
had any.  Nothing else changes but for folders that were missing on the way to the artifacts.

* `Wrote.write` — what writing one more artifact keeps;
* `run_writeAll` — the invariant along a whole run;
* `emitted_and_generated` — every way in which emitting and generating can end.
-/

namespace TypedStyle

namespace Artifact

variable {artifact : Artifact} {out : Path} {tree mid after : FileTree}
variable {spec : Spec} {module clock : Text}

/-- The artifacts that come before one. -/
def earlier (artifact : Artifact) : List Artifact :=
  all.takeWhile (· ≠ artifact)

/-- What is written before an artifact is what comes before it in the order of all three. -/
theorem eq_earlier {written behind : List Artifact} (h : written ++ artifact :: behind = all) :
    written = artifact.earlier := by
  have hnodup : (written ++ artifact :: behind).Nodup := by
    rw [h]
    decide
  have hother : ∀ other ∈ written, decide (other ≠ artifact) = true := by
    intro other hother
    have hdisjoint := (List.nodup_append.mp hnodup).2.2 other hother artifact List.mem_cons_self
    exact decide_eq_true hdisjoint
  rw [earlier, ← h, List.takeWhile_append_of_pos hother]
  simp

/-! ## Where the artifacts stand -/

/-- The path of an artifact leads one step further down than that of its folder. -/
theorem steps_path (artifact : Artifact) (out : Path) :
    (artifact.path out).steps = out.steps ++ [.down artifact.fileName] := by
  have hname : Path.steps artifact.fileName = [.down artifact.fileName] := by
    cases artifact <;> decide
  rw [path, Path.steps_join (by cases artifact <;> rfl), hname]

/-- An artifact stands in the folder that the path of the folder names. -/
theorem named_path (tree : FileTree) (artifact : Artifact) (out : Path) :
    tree.named (artifact.path out) = tree.named out ++ [artifact.fileName] := by
  have hstart : (artifact.path out).isAbsolute = out.isAbsolute :=
    Path.isAbsolute_join (by cases artifact <;> rfl) out
  rw [FileTree.named, FileTree.named, FileTree.start, hstart, steps_path, FileTree.follow,
    List.foldl_append]
  rfl

/-- Each artifact has a place of its own. -/
theorem named_path_inj {other : Artifact}
    (h : tree.named (artifact.path out) = tree.named (other.path out)) : artifact = other := by
  rw [named_path, named_path] at h
  have hname : artifact.fileName = other.fileName := by simpa using h
  revert hname
  cases artifact <;> cases other <;> decide

/-! ## Writing the artifacts -/

/-- What a tree has become when exactly these artifacts of a spec have been written. -/
structure Wrote (spec : Spec) (out : Path) (module clock : Text) (tree after : FileTree)
    (written : List Artifact) : Prop where
  /-- The working folder is where it was. -/
  home : after.home = tree.home
  /-- The written artifacts hold exactly their texts. -/
  texts : ∀ artifact ∈ written,
    after.read (artifact.path out) = .ok (artifact.render spec module clock).toBytes
  /-- At the places of the others the files are as they were. -/
  others : ∀ artifact ∉ written, after.content? (tree.named (artifact.path out)) =
    tree.content? (tree.named (artifact.path out))
  /-- A place is as it was, or there is a folder that was missing on the way to the artifacts, or it
  is that of a written artifact. -/
  rest : ∀ place, after.at? place = tree.at? place ∨
    (tree.Passes out place ∧ tree.at? place = none ∧ after.at? place = some .folder) ∨
    ∃ artifact ∈ written, place = tree.named (artifact.path out)

/-- Where folders have been made on the way, nothing is written yet. -/
theorem wrote_of_grown (h : tree.Grown after (tree.Passes out)) :
    Wrote spec out module clock tree after [] where
  home := h.home
  texts := by simp
  others := fun _ _ => h.content?_eq _
  rest := fun place => (h.places place).imp_right Or.inl

variable {written : List Artifact}

/-- A path names the same place before and after the artifacts are written. -/
theorem Wrote.named_eq (h : Wrote spec out module clock tree after written) (path : Path) :
    after.named path = tree.named path := by
  simp [FileTree.named, FileTree.start, h.home]

/-- **Writing one more artifact keeps what has been written**, since it stands at another place, and
it changes no other place. -/
theorem Wrote.write (h : Wrote spec out module clock tree mid written)
    (hfresh : artifact ∉ written)
    (hwrite : mid.write (artifact.path out) (artifact.render spec module clock).toBytes =
      .ok after) :
    Wrote spec out module clock tree after (written ++ [artifact]) := by
  obtain ⟨hfree, hput⟩ := FileTree.put_of_write hwrite
  have hsame : ∀ place, place ≠ mid.named (artifact.path out) →
      after.at? place = mid.at? place := by
    intro place hne
    rw [hput, FileTree.at?_put_of_ne mid hne]
  refine ⟨?_, ?_, ?_, ?_⟩
  · rw [hput]
    exact h.home
  · intro other hother
    rcases List.mem_append.mp hother with hearlier | hself
    · have hne : mid.named (other.path out) ≠ mid.named (artifact.path out) := by
        intro heq
        rw [named_path_inj heq] at hearlier
        exact hfresh hearlier
      rw [hput]
      exact FileTree.read_put (h.texts other hearlier) hfree hne
    · obtain rfl := List.mem_singleton.mp hself
      exact FileTree.read_write hwrite
  · intro other hother
    obtain ⟨hunwritten, hne⟩ : other ∉ written ∧ other ≠ artifact := by simpa using hother
    rw [← h.others other hunwritten]
    apply FileTree.content?_congr
    apply hsame
    rw [h.named_eq]
    exact fun heq => hne (named_path_inj heq)
  · intro place
    by_cases hplace : place = mid.named (artifact.path out)
    · rw [h.named_eq] at hplace
      exact Or.inr (Or.inr ⟨artifact, by simp, hplace⟩)
    · rw [hsame place hplace]
      rcases h.rest place with hkept | hnew | ⟨other, hother, hnamed⟩
      · exact Or.inl hkept
      · exact Or.inr (Or.inl hnew)
      · exact Or.inr (Or.inr ⟨other, List.mem_append_left _ hother, hnamed⟩)

/-- The failure is a defect of the artifact, or that it could not be written. -/
def FailsWith (artifact : Artifact) (spec : Spec) (out : Path) (module : Text)
    (failure : EmitFailure) : Prop :=
  (∃ defect, artifact.check spec module = .error defect ∧ failure = artifact.failure defect) ∨
    ∃ fault, failure = .write (artifact.path out) fault

/-- **Artifacts are written in order, up to the first that fails.**  The induction is on those that
are left; those that have been written are in front of them. -/
theorem run_writeAll {left : List Artifact} (h : Wrote spec out module clock tree mid written)
    (hnodup : (written ++ left).Nodup) :
    match (writeAll spec module clock out left).run clock mid with
    | (.ok (), after) => Wrote spec out module clock tree after (written ++ left)
    | (.error failure, after) => ∃ front artifact behind,
        front ++ artifact :: behind = written ++ left ∧ artifact.FailsWith spec out module failure ∧
        Wrote spec out module clock tree after front := by
  induction left generalizing written mid with
  | nil => simpa [writeAll] using h
  | cons artifact left ih =>
      rw [writeAll]
      cases hcheck : artifact.check spec module with
      | error defect => exact ⟨written, artifact, left, rfl, Or.inl ⟨defect, hcheck, rfl⟩, h⟩
      | ok _ =>
          dsimp only
          rw [Script.run_bind, Script.run_writeText]
          cases hwrite : mid.write (artifact.path out)
              (artifact.render spec module clock).toBytes with
          | error fault => exact ⟨written, artifact, left, rfl, Or.inr ⟨fault, rfl⟩, h⟩
          | ok next =>
              have hfresh : artifact ∉ written := fun hmem =>
                (List.nodup_append.mp hnodup).2.2 artifact hmem artifact List.mem_cons_self rfl
              have hmore := ih (h.write hfresh hwrite) (by simpa using hnodup)
              rw [List.append_assoc, List.singleton_append] at hmore
              exact hmore

end Artifact

open Artifact (Wrote all writeAll wrote_of_grown run_writeAll eq_earlier)

/-- What emitting the artifacts of a spec has made of a tree, by its result. -/
def Spec.Emitted (spec : Spec) (out : Path) (module clock : Text) (tree : FileTree) :
    Except EmitFailure EmitSummary × FileTree → Prop
  | (.error (.module _), after) => after = tree
  | (.error (.createFolder _ _), after) => Wrote spec out module clock tree after []
  | (.error (.malformed artifact), after) | (.error (.duplicate artifact _), after) =>
    Wrote spec out module clock tree after artifact.earlier
  | (.error (.write path _), after) =>
    ∃ artifact : Artifact, path = artifact.path out ∧
      Wrote spec out module clock tree after artifact.earlier
  | (.ok _, after) => Wrote spec out module clock tree after all

/-- What generating has made of a tree, by its result: what emitting the normalized spec has made of
it, once there are settings and a spec. -/
def GenerateArguments.Generated (arguments : GenerateArguments) (clock : Text) (tree : FileTree) :
    Except GenerateFailure EmitSummary × FileTree → Prop
  | (.error (.settings _), after) | (.error (.load _), after) => after = tree
  | (.error (.emit failure), after) => Reached (.error failure, after)
  | (.ok summary, after) => Reached (.ok summary, after)
where
  /-- The run has got as far as to emit, with this outcome. -/
  Reached (outcome : Except EmitFailure EmitSummary × FileTree) : Prop :=
    ∃ preferences spec, (arguments.preferences.run clock tree).1 = .ok preferences ∧
      ((Spec.load arguments.input).run clock tree).1 = .ok spec ∧
      let settings := arguments.settingsWith preferences
      (spec.normalize ⟨settings.allowExperimental, settings.strict⟩).Emitted settings.out
        settings.module clock tree outcome

variable (clock : Text) (tree : FileTree)

/-- Every way in which emitting can end. -/
theorem Spec.emitted_run_emit (spec : Spec) (out : Path) (module : Text) :
    spec.Emitted out module clock tree ((spec.emit out module).run clock tree) := by
  unfold Spec.emit
  split
  · rw [Script.run_bind]
    have hfolders : Wrote spec out module clock tree
        ((Script.makeFolders out).run clock tree).2 [] :=
      wrote_of_grown (Script.grown_makeFolders clock out tree)
    generalize (Script.makeFolders out).run clock tree = outcome at hfolders ⊢
    obtain ⟨answer, mid⟩ := outcome
    cases answer with
    | error fault => exact hfolders
    | ok _ =>
        show spec.Emitted out module clock tree (((writeAll spec module clock out all) >>= _).run
          clock mid)
        rw [Script.run_bind]
        have hall := run_writeAll hfolders (by decide : ([] ++ all).Nodup)
        generalize (writeAll spec module clock out all).run clock mid = outcome at hall ⊢
        obtain ⟨answer, after⟩ := outcome
        cases answer with
        | ok _ => exact hall
        | error failure =>
            obtain ⟨front, artifact, behind, hsplit, hfails, hwrote⟩ := hall
            obtain rfl := eq_earlier hsplit
            rcases hfails with ⟨defect, -, rfl⟩ | ⟨fault, rfl⟩
            · cases defect <;> exact hwrote
            · exact ⟨artifact, rfl, hwrote⟩
  · rfl

/-- Loading the preferences only reads. -/
theorem Preferences.readsOnly_load (path : Path) : (Preferences.load path).ReadsOnly := by
  apply (Script.readsOnly_readText path).bind
  rintro (fault | document)
  · exact Script.readsOnly_pure _
  · dsimp only
    split <;> exact Script.readsOnly_pure _

/-- So does finding out which preferences a run has. -/
theorem GenerateArguments.readsOnly_preferences (arguments : GenerateArguments) :
    arguments.preferences.ReadsOnly := by
  unfold preferences
  split
  · exact Preferences.readsOnly_load _
  · exact Script.readsOnly_pure _

/-- Every way in which generating can end. -/
theorem GenerateArguments.generated_run (arguments : GenerateArguments) :
    arguments.Generated clock tree (arguments.run.run clock tree) := by
  rw [run, Script.run_bind, arguments.readsOnly_preferences.run]
  cases hpreferences : (arguments.preferences.run clock tree).1 with
  | error failure => exact (rfl : tree = tree)
  | ok preferences =>
      dsimp only
      rw [Script.run_bind, (Spec.readsOnly_load arguments.input).run]
      cases hspec : ((Spec.load arguments.input).run clock tree).1 with
      | error failure => exact (rfl : tree = tree)
      | ok spec =>
          dsimp only
          rw [Script.run_bind]
          let settings := arguments.settingsWith preferences
          have hemitted := Spec.emitted_run_emit clock tree
            (spec.normalize ⟨settings.allowExperimental, settings.strict⟩) settings.out
            settings.module
          generalize ((spec.normalize ⟨settings.allowExperimental, settings.strict⟩).emit
            settings.out settings.module).run clock tree = outcome at hemitted ⊢
          obtain ⟨answer, after⟩ := outcome
          cases answer <;> exact ⟨preferences, spec, hpreferences, hspec, hemitted⟩

/-- **However emitting and generating end, it is known what every place holds.**  A module name that
cannot be used changes nothing.  If the folder cannot be made, no artifact is written; if an
artifact is refused or cannot be written, exactly those before it are; and on success all three are.
Written artifacts hold their texts, and nothing else changes but for folders that were missing on
the way.
Generating changes nothing while there are no settings or no spec, and is emitting from then on. -/
theorem emitted_and_generated :
    (∀ (spec : Spec) (out : Path) (module : Text),
      spec.Emitted out module clock tree ((spec.emit out module).run clock tree)) ∧
    ∀ arguments : GenerateArguments,
      arguments.Generated clock tree (arguments.run.run clock tree) :=
  ⟨Spec.emitted_run_emit clock tree, GenerateArguments.generated_run clock tree⟩

end TypedStyle
