import TypedStyle.Proofs.Artifact.Distinct
import TypedStyle.Proofs.Artifact.ModuleNames
import TypedStyle.Proofs.Files.Shapes
/-!
# White space around the name of a module

A name with white space around it is accepted if it is without, and the identifier is the same.
Emitting for the one name goes as emitting for the other as long as the name stays on one line.  But
the name is compared with that of the runtime crate as it stands, and pasted as it stands: so the
imports are right only where the name of that crate has no white space around it, and an artifact
for a name over several lines is no code.

* `run_writeAll_congr`, `emitsAlike` — names that stay on their lines make no difference to a run;
* `TrimsAlike` — what white space around a name should do;
* `emit_trimmed_alike` — when it does so.
-/

namespace TypedStyle.Artifact

open Code

variable {artifact : Artifact} {spec : Spec} {out : Path}
variable {module other bare name nameOther clock : Text}
variable {tree after : FileTree}

/-! ## Two runs -/

/-- The two trees are the same but for artifacts, which are for one module in the first and for the
other in the second. -/
structure DifferInArtifacts (spec : Spec) (out : Path) (module other clock : Text)
    (tree after : FileTree) : Prop where
  home : after.home = tree.home
  places : ∀ place, after.at? place = tree.at? place ∨
    ∃ artifact : Artifact, place = tree.named (artifact.path out) ∧
      tree.at? place = some (.file (artifact.render spec module clock).toBytes) ∧
      after.at? place = some (.file (artifact.render spec other clock).toBytes)

/-- Every tree differs from itself in nothing, and so in the artifacts at most. -/
theorem DifferInArtifacts.refl (tree : FileTree) :
    DifferInArtifacts spec out module other clock tree tree :=
  ⟨rfl, fun _ => .inl rfl⟩

/-- Trees that differ in artifacts have files and folders at the same places. -/
theorem DifferInArtifacts.sameShape
    (h : DifferInArtifacts spec out module other clock tree after) : tree.SameShape after := by
  refine ⟨h.home, fun place => ?_⟩
  rcases h.places place with heq | ⟨artifact, -, htree, hafter⟩
  · rw [heq]
  · rw [htree, hafter]
    rfl

/-- **One more artifact** is written to both trees or to none. -/
theorem DifferInArtifacts.write (h : DifferInArtifacts spec out module other clock tree after)
    (artifact : Artifact) :
    (∃ fault,
      tree.write (artifact.path out) (artifact.render spec module clock).toBytes = .error fault ∧
      after.write (artifact.path out) (artifact.render spec other clock).toBytes = .error fault) ∨
    ∃ next nextOther,
      tree.write (artifact.path out) (artifact.render spec module clock).toBytes = .ok next ∧
      after.write (artifact.path out) (artifact.render spec other clock).toBytes = .ok nextOther ∧
      DifferInArtifacts spec out module other clock next nextOther := by
  have hwritable := h.sameShape.writable_congr (artifact.path out)
  cases htree : tree.writable (artifact.path out) with
  | error fault =>
      rw [htree] at hwritable
      exact .inl ⟨fault, by rw [FileTree.write, htree]; rfl, by rw [FileTree.write, hwritable]; rfl⟩
  | ok target =>
      rw [htree] at hwritable
      obtain ⟨_, _, -, -, -, -, hroot⟩ := FileTree.entry_of_writable htree
      have hnamed := FileTree.place_of_writable htree
      have hne : target ≠ [] := by simp [hroot]
      refine .inr ⟨tree.put target (.file (artifact.render spec module clock).toBytes),
        after.put target (.file (artifact.render spec other clock).toBytes),
        by rw [FileTree.write, htree]; rfl, by rw [FileTree.write, hwritable]; rfl,
        h.home, fun place => ?_⟩
      by_cases hplace : place = target
      · subst hplace
        rw [FileTree.at?_put_self tree hne, FileTree.at?_put_self after hne]
        exact .inr ⟨artifact, hnamed, rfl, rfl⟩
      · rw [FileTree.at?_put_of_ne tree hplace, FileTree.at?_put_of_ne after hplace]
        exact h.places place

/-- **Names that stay on their lines make no difference** to how far the artifacts are written. -/
theorem run_writeAll_congr (hmodule : isOneLine module = true) (hother : isOneLine other = true)
    (left : List Artifact) (h : DifferInArtifacts spec out module other clock tree after) :
    ((writeAll spec other clock out left).run clock after).1 =
        ((writeAll spec module clock out left).run clock tree).1 ∧
      DifferInArtifacts spec out module other clock
        ((writeAll spec module clock out left).run clock tree).2
        ((writeAll spec other clock out left).run clock after).2 := by
  induction left generalizing tree after with
  | nil => exact ⟨rfl, h⟩
  | cons artifact left ih =>
      rw [writeAll, writeAll, check_congr artifact spec hother hmodule]
      cases artifact.check spec module with
      | error defect => exact ⟨rfl, h⟩
      | ok _ =>
          dsimp only
          rw [Script.run_bind, Script.run_bind, Script.run_writeText, Script.run_writeText]
          rcases h.write artifact with
            ⟨fault, htree, hafter⟩ | ⟨next, nextOther, htree, hafter, hnext⟩
          · rw [htree, hafter]
            exact ⟨rfl, h⟩
          · rw [htree, hafter]
            exact ih hnext

/-- Emitting for the two modules ends in the same result, and in trees that differ in nothing but
the artifacts. -/
def EmitsAlike (module other : Text) : Prop :=
  ∀ (spec : Spec) (out : Path) (clock : Text) (tree : FileTree),
    ((spec.emit out other).run clock tree).1 = ((spec.emit out module).run clock tree).1 ∧
    DifferInArtifacts spec out module other clock ((spec.emit out module).run clock tree).2
      ((spec.emit out other).run clock tree).2

/-- Two accepted names on one line make runs that end alike. -/
theorem emitsAlike (h : isModuleName module = true) (hother : isModuleName other = true)
    (hmodule : isOneLine module = true) (hline : isOneLine other = true) :
    EmitsAlike module other := by
  intro spec out clock tree
  rw [Spec.emit, Spec.emit, if_pos h, if_pos hother, Script.run_bind, Script.run_bind]
  generalize (Script.makeFolders out).run clock tree = outcome
  obtain ⟨answer, mid⟩ := outcome
  cases answer with
  | error fault => exact ⟨rfl, .refl _⟩
  | ok _ =>
      show ((((writeAll spec other clock out all) >>= _).run clock mid).1 =
          (((writeAll spec module clock out all) >>= _).run clock mid).1 ∧
        DifferInArtifacts spec out module other clock
          (((writeAll spec module clock out all) >>= _).run clock mid).2
          (((writeAll spec other clock out all) >>= _).run clock mid).2)
      rw [Script.run_bind, Script.run_bind]
      have hstart : DifferInArtifacts spec out module other clock mid mid := .refl mid
      obtain ⟨hanswer, htrees⟩ := run_writeAll_congr hmodule hline all hstart
      generalize (writeAll spec module clock out all).run clock mid = outcome at hanswer htrees ⊢
      generalize (writeAll spec other clock out all).run clock mid = outcomeOther
        at hanswer htrees ⊢
      obtain ⟨answer, after⟩ := outcome
      obtain ⟨answerOther, afterOther⟩ := outcomeOther
      obtain rfl : answerOther = answer := hanswer
      cases answerOther with
      | error failure => exact ⟨rfl, htrees⟩
      | ok _ => exact ⟨rfl, htrees⟩

/-! ## White space around the name -/

/-- Only the name `css` itself, without anything around it, stands for the crate. -/
theorem runtimeCrate_eq_iff : runtimeCrate module = "crate" ↔ module = "css" := by
  unfold runtimeCrate
  split
  · simpa
  · next hmodule =>
    refine ⟨fun h => ?_, fun h => absurd h hmodule⟩
    exact absurd h (by decide)

/-- There is only one identifier in a name. -/
theorem Names.unique (h : Names module name) (hother : Names module nameOther) :
    name = nameOther := by
  unfold Names at h hother
  rw [h] at hother
  simpa using hother

/-- The name `css` names itself. -/
theorem names_css : Names "css" "css" := by
  unfold Names
  decide

/-- There is no white space in the name of the runtime crate. -/
theorem Pads.eq_css (h : Pads "css" bare) : bare = "css" := by
  obtain ⟨front, back, hsplit, hfront, hback⟩ := h
  have hnone : ∀ {blanks : Text}, (∀ c ∈ blanks, c ∈ ("css" : Text)) →
      (∀ c ∈ blanks, Text.isCodeBlank c = true) → blanks = [] := fun hmem hblank => by
    have hcss : ∀ c ∈ ("css" : Text), Text.isCodeBlank c = false :=
      Text.forall_mem_of_all (by decide)
    refine List.eq_nil_iff_forall_not_mem.mpr fun c hc => ?_
    exact Bool.false_ne_true ((hcss c (hmem c hc)).symm.trans (hblank c hc))
  obtain rfl := hnone (fun c hc => by rw [hsplit]; simp [hc]) hfront
  obtain rfl := hnone (fun c hc => by rw [hsplit]; simp [hc]) hback
  simpa using hsplit.symm

/-- The name is taken for that of the runtime crate, with white space as without. -/
theorem runtimeCrate_of_pads (hpads : Pads module bare) (h : isModuleName module = true)
    (hcss : Names module "css" → module = "css") :
    runtimeCrate bare = runtimeCrate module := by
  by_cases hmodule : module = "css"
  · subst hmodule
    rw [hpads.eq_css]
  · have hbare : bare ≠ "css" := by
      rintro rfl
      obtain ⟨name, hname, -⟩ := isModuleName_iff.mp h
      obtain rfl := (hpads.names hname).unique names_css
      exact hmodule (hcss hname)
    rw [runtimeCrate, runtimeCrate, if_neg hbare, if_neg hmodule]

/-- An artifact imports the same for two modules with the same runtime crate. -/
theorem preamble_congr (h : runtimeCrate other = runtimeCrate module) :
    artifact.preamble other = artifact.preamble module := by
  cases artifact <;> simp only [preamble, h]

/-- The whole text of an artifact that names one module and is meant for another. -/
def renderNoted (artifact : Artifact) (spec : Spec) (noted module timestamp : Text) : Text :=
  header spec.version timestamp ++ artifact.moduleLines noted ++ artifact.preamble module
    ++ artifact.body spec

/-- What white space around the bare name of a module should do: nothing but to stand in the comment
on the module. -/
structure TrimsAlike (module bare : Text) : Prop where
  accepted : isModuleName bare = true
  outcome : EmitsAlike module bare
  /-- The texts differ in the comment only. -/
  texts : ∀ (artifact : Artifact) (spec : Spec) (clock : Text),
    artifact.render spec module clock = artifact.renderNoted spec module bare clock
  /-- The runtime crate is the one that has the identifier for its name. -/
  imports : ∀ name, Names module name → (runtimeCrate module = "crate" ↔ name = "css")
  /-- The name is never the reason why an artifact is no code. -/
  wellFormed : ∀ (artifact : Artifact) (spec : Spec),
    artifact.check spec module = .error .malformed →
    ∀ other, isOneLine other = true → artifact.check spec other = .error .malformed

/-- **Padding makes no difference** where it stays on the line and the name is not a padded
`css`. -/
theorem trimsAlike (h : isModuleName module = true) (hpads : Pads module bare)
    (hline : isOneLine module = true) (hcss : Names module "css" → module = "css") :
    TrimsAlike module bare := by
  have hbare := isModuleName_of_pads hpads h
  refine ⟨hbare, emitsAlike h hbare hline (isOneLine_of_pads hpads hline),
    fun artifact spec clock => ?_, fun name hname => ?_,
    fun artifact spec hcheck other hother => ?_⟩
  · rw [render, renderNoted, preamble_congr (runtimeCrate_of_pads hpads h hcss)]
  · rw [runtimeCrate_eq_iff]
    constructor
    · rintro rfl
      exact hname.unique names_css
    · rintro rfl
      exact hcss hname
  · rw [← hcheck]
    exact check_congr artifact spec hother hline

/-- The artifacts of a spec without properties are code, for any module on one line. -/
theorem check_empty (hline : isOneLine module = true) :
    properties.check ⟨"", []⟩ module = .ok () := by
  rw [check_congr properties ⟨"", []⟩ hline (by decide : isOneLine [] = true)]
  decide

/-- **White space around the name of a module** makes no difference to a run as long as the name
stays on one line.  It does nothing but to stand in the comment where, besides, the name of the
runtime crate comes without any; and, if there are no comments in the name, nowhere else. -/
theorem emit_trimmed_alike (h : isModuleName module = true) (hpads : Pads module bare) :
    (isOneLine module = true → EmitsAlike module bare) ∧
      (isOneLine module = true ∧ (Names module "css" → module = "css") →
        TrimsAlike module bare) ∧
      ('/' ∉ module → TrimsAlike module bare →
        isOneLine module = true ∧ (Names module "css" → module = "css")) := by
  refine ⟨fun hline =>
      emitsAlike h (isModuleName_of_pads hpads h) hline (isOneLine_of_pads hpads hline),
    fun ⟨hline, hcss⟩ => trimsAlike h hpads hline hcss,
    fun hslash halike => ⟨?_, fun hcss => ?_⟩⟩
  · by_contra hline
    obtain ⟨name, hname, -⟩ := isModuleName_iff.mp h
    have hcheck : properties.check ⟨"", []⟩ module = .error .malformed := by
      rw [check, definitions?_of_broken hname hslash (Bool.eq_false_iff.mpr hline)]
    have hempty := halike.wellFormed properties ⟨"", []⟩ hcheck [] rfl
    rw [check_empty rfl] at hempty
    contradiction
  · exact runtimeCrate_eq_iff.mp ((halike.imports "css" hcss).mpr rfl)

/-- It does nothing else for a name with a space in front and a tab behind; but it does for the name
of the runtime crate, although with a space in front of it a run is the same. -/
theorem emit_trimmed_theme :
    (isModuleName " theme\t" = true ∧ Pads " theme\t" "theme" ∧ TrimsAlike " theme\t" "theme") ∧
    (isModuleName " css" = true ∧ EmitsAlike " css" "css" ∧ ¬TrimsAlike " css" "css") ∧
    isModuleName "css\n" = true ∧ ¬TrimsAlike "css\n" "css" := by
  have hnames : ¬Names " theme\t" "css" := by
    unfold Names
    decide
  have hspace : Names " css" "css" := by
    unfold Names
    decide
  have htheme : isModuleName " theme\t" = true := by decide
  have hfront : isModuleName " css" = true := by decide
  have hback : isModuleName "css\n" = true := by decide
  obtain ⟨-, hgood, -⟩ := emit_trimmed_alike htheme (pads_trim " theme\t")
  obtain ⟨hruns, -, hspaced⟩ := emit_trimmed_alike hfront (pads_trim " css")
  obtain ⟨-, -, hbroken⟩ := emit_trimmed_alike hback (pads_trim "css\n")
  refine ⟨⟨htheme, pads_trim " theme\t", hgood ⟨by decide, fun h => absurd h hnames⟩⟩,
    ⟨hfront, hruns (by decide), fun h => ?_⟩, hback, fun h => ?_⟩
  · exact absurd ((hspaced (by decide) h).2 hspace) (by decide)
  · exact absurd (hbroken (by decide) h).1 (by decide)

/-- With a space in front of it, the name of the runtime crate is not taken for it; and with a line
feed behind it, nothing is emitted. -/
theorem spaced_css_not_trimmed :
    (isModuleName " css" = true ∧ Names " css" "css" ∧ Text.trim " css" = "css" ∧
      properties.preamble " css" = "#![allow(non_upper_case_globals)]\n\nuse css::Property;\n\n" ∧
      properties.preamble "css" =
        "#![allow(non_upper_case_globals)]\n\nuse crate::Property;\n\n") ∧
    isModuleName "css\n" = true ∧ Names "css\n" "css" ∧ Text.trim "css\n" = "css" ∧
      ((apart.emit "out" "css\n").run [] bareTree).1 = .error (.malformed .properties) ∧
      ((apart.emit "out" "css").run [] bareTree).1 = .ok ⟨"out", all.map (·.path "out"), 2, 1⟩ := by
  unfold Names
  decide +kernel

end TypedStyle.Artifact
