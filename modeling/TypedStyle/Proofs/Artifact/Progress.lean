import TypedStyle.Proofs.Artifact.Emission
/-!
# How far emitting comes

Emitting writes one artifact after the other, and each has passed its check before.  What has been
written can be told from the requests of the run that have been met, whatever stood in the files
before.

* `passed_emit` — what has been written when a run stops, and what it stops on;
* `check_of_mem_written` — a written artifact has passed its check;
* `check_of_run_failure` — what has been checked when an artifact is refused.
-/

namespace TypedStyle

/-! ## Written files -/

namespace Script

variable {α β : Type}

/-- The paths of the files that a script writes when it is run on a tree, in order. -/
def written (clock : Text) : Script α → FileTree → List Path
  | .done _, _ => []
  | .inspect path next, tree => (next (tree.inspect path)).written clock tree
  | .read path next, tree => (next (tree.read path)).written clock tree
  | .write path content next, tree =>
    match tree.write path content with
    | .ok after => path :: (next (.ok ())).written clock after
    | .error fault => (next (.error fault)).written clock tree
  | .makeFolder path next, tree =>
    let (answer, after) := changed tree (tree.makeFolder path)
    (next answer).written clock after
  | .timestamp next, tree => (next clock).written clock tree

@[simp] theorem written_pure (clock : Text) (result : α) (tree : FileTree) :
    (pure result : Script α).written clock tree = [] :=
  rfl

/-- Two scripts in sequence write what the one writes and then what the other writes. -/
theorem written_bind (clock : Text) (script : Script α) (f : α → Script β) (tree : FileTree) :
    (script >>= f).written clock tree = script.written clock tree ++
      (f (script.run clock tree).1).written clock (script.run clock tree).2 := by
  show (script.bind f).written clock tree = _
  induction script generalizing tree with
  | done => rfl
  | inspect path next ih => exact ih _ tree
  | read path next ih => exact ih _ tree
  | write path content next ih =>
      simp only [Script.bind, written, run]
      cases tree.write path content with
      | ok after => exact congrArg (path :: ·) (ih _ after)
      | error fault => exact ih _ tree
  | makeFolder path next ih => exact ih _ _
  | timestamp next ih => exact ih _ tree

/-- Deciding about a folder that could not be made writes no file. -/
theorem written_settle (clock : Text) (path : Path) (answer : Except FileFault Unit)
    (tree : FileTree) : (ensureFolders.settle path answer).written clock tree = [] := by
  cases answer with
  | ok _ => rfl
  | error fault =>
      simp only [ensureFolders.settle, written_bind]
      split <;> rfl

/-- Making folders writes no file. -/
theorem written_ensureFolders (clock : Text) (path : Path) (above : List Path) (tree : FileTree) :
    (ensureFolders path above).written clock tree = [] := by
  induction above generalizing path tree with
  | nil => exact written_settle clock path _ _
  | cons parent above ih =>
      simp only [ensureFolders, written]
      split
      · rw [written_bind, ih, List.nil_append]
        split
        · exact written_settle clock path _ _
        · rfl
      · exact written_settle clock path _ _

/-- **Making folders writes no file.** -/
theorem written_makeFolders (clock : Text) (path : Path) (tree : FileTree) :
    (makeFolders path).written clock tree = [] := by
  unfold makeFolders
  split
  · rfl
  · exact written_ensureFolders clock path _ tree

end Script

namespace Artifact

variable {spec : Spec} {module clock : Text} {out : Path} {tree : FileTree} {artifact : Artifact}

/-! ## Written artifacts -/

/-- What has been written when a result is reached: all that has passed in front of the artifact
that failed, if there is one. -/
def Passed (spec : Spec) (out : Path) (module : Text) (left : List Artifact) (written : List Path) :
    Except EmitFailure Unit → Prop
  | .ok () => (∀ artifact ∈ left, artifact.check spec module = .ok ()) ∧
      written = left.map (·.path out)
  | .error failure => ∃ front artifact behind, left = front ++ artifact :: behind ∧
      (∀ other ∈ front, other.check spec module = .ok ()) ∧
      written = front.map (·.path out) ∧ artifact.FailsWith spec out module failure

/-- An artifact in front that has been written changes nothing of that. -/
theorem Passed.cons {left : List Artifact} {written : List Path} {result : Except EmitFailure Unit}
    (h : Passed spec out module left written result)
    (hcheck : artifact.check spec module = .ok ()) :
    Passed spec out module (artifact :: left) (artifact.path out :: written) result := by
  cases result with
  | ok _ => exact ⟨List.forall_mem_cons.mpr ⟨hcheck, h.1⟩, congrArg (artifact.path out :: ·) h.2⟩
  | error failure =>
      obtain ⟨front, failed, behind, hleft, hfront, hwritten, hfails⟩ := h
      exact ⟨artifact :: front, failed, behind, congrArg (artifact :: ·) hleft,
        List.forall_mem_cons.mpr ⟨hcheck, hfront⟩, congrArg (artifact.path out :: ·) hwritten,
        hfails⟩

/-- **Artifacts are written in order, each after its check, up to the first that fails.** -/
theorem passed_writeAll (spec : Spec) (module clock : Text) (out : Path) (left : List Artifact)
    (tree : FileTree) :
    Passed spec out module left ((writeAll spec module clock out left).written clock tree)
      ((writeAll spec module clock out left).run clock tree).1 := by
  induction left generalizing tree with
  | nil => exact ⟨by simp, rfl⟩
  | cons artifact left ih =>
      rw [writeAll]
      cases hcheck : artifact.check spec module with
      | error defect => exact ⟨[], artifact, left, rfl, by simp, rfl, .inl ⟨defect, hcheck, rfl⟩⟩
      | ok _ =>
          dsimp only
          rw [Script.written_bind, Script.run_bind, Script.run_writeText]
          simp only [Script.writeText, Script.written]
          cases tree.write (artifact.path out) (artifact.render spec module clock).toBytes with
          | error fault => exact ⟨[], artifact, left, rfl, by simp, rfl, .inr ⟨fault, rfl⟩⟩
          | ok after => exact (ih after).cons hcheck

/-- **Emitting stops before the first artifact, or goes through them in order.** -/
theorem passed_emit (spec : Spec) (out : Path) (module clock : Text) (tree : FileTree) :
    ((spec.emit out module).written clock tree = [] ∧
      (((spec.emit out module).run clock tree).1 = .error (.module module) ∨
        ∃ fault, ((spec.emit out module).run clock tree).1 = .error (.createFolder out fault))) ∨
    Passed spec out module all ((spec.emit out module).written clock tree)
      (((spec.emit out module).run clock tree).1.map fun _ => ()) := by
  unfold Spec.emit
  split
  case isFalse => exact .inl ⟨rfl, .inl rfl⟩
  rw [Script.written_bind, Script.run_bind, Script.written_makeFolders, List.nil_append]
  generalize (Script.makeFolders out).run clock tree = outcome
  obtain ⟨answer, mid⟩ := outcome
  cases answer with
  | error fault => exact .inl ⟨rfl, .inr ⟨fault, rfl⟩⟩
  | ok _ =>
      right
      have hpassed := passed_writeAll spec module clock out all mid
      simp only [Script.written, Script.run]
      rw [Script.written_bind, Script.run_bind]
      generalize ((writeAll spec module clock out all).run clock mid).1 = result at hpassed ⊢
      cases result <;> simpa [Except.map] using hpassed

/-- A name is refused because it is the first one that the artifact repeats. -/
theorem exists_of_check_duplicate {name : Text}
    (h : artifact.check spec module = .error (.duplicate name)) :
    ∃ names, artifact.definitions? spec module = some names ∧ firstRepeated names = some name := by
  unfold check at h
  split at h
  · cases h
  · next names hnames =>
    refine ⟨names, hnames, ?_⟩
    split at h
    · next repeated hrepeated =>
      obtain rfl := Defect.duplicate.inj (Except.error.inj h)
      exact hrepeated
    · contradiction

/-- **A written artifact has passed its check.** -/
theorem check_of_mem_written
    (h : artifact.path out ∈ (spec.emit out module).written clock tree) :
    artifact.check spec module = .ok () := by
  have hmem : ∀ {front : List Artifact}, artifact.path out ∈ front.map (·.path out) →
      artifact ∈ front := by
    intro front hin
    obtain ⟨other, hother, hpath⟩ := List.mem_map.mp hin
    have hsame : other = artifact := named_path_inj (congrArg tree.named hpath)
    rwa [← hsame]
  rcases passed_emit spec out module clock tree with ⟨hnone, -⟩ | hpassed
  · rw [hnone] at h
    contradiction
  cases hresult : ((spec.emit out module).run clock tree).1 with
  | ok summary =>
      rw [hresult] at hpassed
      obtain ⟨hchecks, hwritten⟩ := hpassed
      exact hchecks artifact (by cases artifact <;> decide)
  | error failure =>
      rw [hresult] at hpassed
      obtain ⟨front, -, -, -, hfront, hwritten, -⟩ := hpassed
      rw [hwritten] at h
      exact hfront artifact (hmem h)

/-- **If emitting succeeds, all artifacts have passed their checks.** -/
theorem check_of_run_emit {summary : EmitSummary}
    (h : ((spec.emit out module).run clock tree).1 = .ok summary) (artifact : Artifact) :
    artifact.check spec module = .ok () := by
  rcases passed_emit spec out module clock tree with ⟨-, hfailed⟩ | hpassed
  · simp [h] at hfailed
  · rw [h] at hpassed
    exact hpassed.1 artifact (by cases artifact <;> decide)

/-- The failure of an emission tells the artifact and its defect. -/
theorem failure_inj {other : Artifact} {defect last : Defect}
    (h : artifact.failure defect = other.failure last) : artifact = other ∧ defect = last := by
  cases defect <;> cases last <;> simp_all [failure]

/-- **If an artifact is refused, it is for its defect**, and those before it have passed. -/
theorem check_of_run_failure (defect : Defect)
    (h : ((spec.emit out module).run clock tree).1 = .error (artifact.failure defect)) :
    artifact.check spec module = .error defect ∧
      ∀ other ∈ artifact.earlier, other.check spec module = .ok () := by
  rcases passed_emit spec out module clock tree with ⟨-, hfailed⟩ | hpassed
  · rw [h] at hfailed
    cases defect <;> simp [failure] at hfailed
  rw [h] at hpassed
  obtain ⟨front, failed, behind, hall, hfront, -, ⟨found, hcheck, hfailure⟩ | ⟨fault, hwrite⟩⟩ :=
    hpassed
  · obtain ⟨rfl, rfl⟩ := failure_inj hfailure
    rw [← eq_earlier hall.symm]
    exact ⟨hcheck, hfront⟩
  · cases defect <;> contradiction

end Artifact

end TypedStyle
