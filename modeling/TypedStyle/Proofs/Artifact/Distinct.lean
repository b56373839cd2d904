import Mathlib.Data.List.Nodup
import Mathlib.Data.List.Pairwise
import TypedStyle.Proofs.Artifact.Progress
import TypedStyle.Proofs.Text.Characters
import TypedStyle.Proofs.Text.Trimming
/-!
# Names of three kinds

Each artifact is checked by itself: within one, no name is defined twice.  Between artifacts nothing
is compared, and the constant of one property may have the name of the type of another one's
keywords.  But a setter begins with `Set`, and a type of keywords and their constants have `Val` in
their names; so where no property's constant looks like either, all names are different.

* `disjoint_identifiers` — when no artifact shares a name with another;
* `nodup_of_run_emit` — the names in the artifacts that have been written.
-/

namespace TypedStyle

namespace Artifact

variable {spec : Spec} {module clock : Text} {out : Path} {tree : FileTree}

/-! ## Identifiers of each kind -/

/-- The name of a setter keeps its beginning. -/
theorem set_prefix_strip (name : Text) :
    Text.ofString "Set" <+: Text.strip (Text.ofString "Set" ++ name) := by
  have htrim := Text.trimBy_append (p := Text.isCodeBlank)
    (by decide : Text.ofString "Set" ≠ []) (Text.forall_mem_of_all (by decide)) [] name
  rw [List.nil_append] at htrim
  rw [Text.strip, htrim]
  exact ⟨_, rfl⟩

/-- The name of a type of keywords, or of one of them, keeps its mark. -/
theorem val_infix_strip (name suffix : Text) :
    Text.ofString "Val" <:+: Text.strip (name ++ Text.ofString "Val" ++ suffix) := by
  rw [Text.strip, Text.trimBy_append (by decide) (Text.forall_mem_of_all (by decide))]
  exact ⟨_, _, rfl⟩

/-- Such a name begins like a setter only if that of the property does. -/
theorem not_set_prefix_strip {name : Text} (suffix : Text)
    (h : ¬ Text.ofString "Set" <+: Text.strip name) :
    ¬ Text.ofString "Set" <+: Text.strip (name ++ Text.ofString "Val" ++ suffix) := by
  intro hset
  rw [Text.strip, Text.trimBy_append (by decide) (Text.forall_mem_of_all (by decide))] at hset
  -- Without blanks in front, the name does not begin with `Set`, and it cannot end within it.
  have hname : ¬ Text.ofString "Set" <+: name.dropWhile Text.isCodeBlank := by
    rintro ⟨rest, hrest⟩
    apply h
    rw [Text.strip, Text.trimBy, ← hrest]
    exact set_prefix_strip rest
  rcases hdropped : name.dropWhile Text.isCodeBlank with _ | ⟨a, _ | ⟨b, _ | ⟨c, rest⟩⟩⟩ <;>
    simp [hdropped, Text.ofString] at hset hname
  grind

/-- Every identifier of the setters begins with `Set`. -/
theorem mem_identifiers_setters {name : Text} (h : name ∈ setters.identifiers spec) :
    Text.ofString "Set" <+: name := by
  obtain ⟨pasted, hpasted, rfl⟩ := List.mem_map.mp h
  obtain ⟨property, -, rfl⟩ := List.mem_map.mp hpasted
  exact set_prefix_strip _

/-- What the artifact of keywords defines comes from the name of a property with keywords. -/
theorem mem_identifiers_keywords {name : Text} (h : name ∈ keywords.identifiers spec) :
    ∃ property ∈ spec.keywordProperties, ∃ suffix,
      name = Text.strip (Naming.constant property.name ++ Text.ofString "Val" ++ suffix) := by
  obtain ⟨pasted, hpasted, rfl⟩ := List.mem_map.mp h
  obtain ⟨property, hproperty, hname⟩ := List.mem_flatMap.mp hpasted
  rcases List.mem_cons.mp hname with rfl | hkeyword
  · exact ⟨property, hproperty, [], by simp [Naming.keywordType, Naming.constant]⟩
  · obtain ⟨keyword, -, rfl⟩ := List.mem_map.mp hkeyword
    exact ⟨property, hproperty, Naming.keywordSuffix keyword, rfl⟩

/-- No constant of a property looks like a setter, or like a type of keywords or one of them. -/
def ConstantsApart (spec : Spec) : Prop :=
  ∀ name ∈ properties.identifiers spec,
    ¬ Text.ofString "Set" <+: name ∧ ¬ Text.ofString "Val" <:+: name

/-- Where the names within each artifact are different, all are exactly when no two artifacts share
one. -/
theorem nodup_flatMap_all_iff {names : Artifact → List Text}
    (h : ∀ artifact, (names artifact).Nodup) :
    (all.flatMap names).Nodup ↔ ∀ a b, a ≠ b → ∀ name ∈ names a, name ∉ names b := by
  have hall : ∀ artifact, artifact ∈ all := fun artifact => by cases artifact <;> decide
  have hpairs : all.Pairwise (· ≠ ·) := by decide
  rw [List.nodup_flatMap]
  constructor
  · rintro ⟨-, hdisjoint⟩ a b hne name ha hb
    have hsymm : Std.Symm (Function.onFun List.Disjoint names) :=
      ⟨fun _ _ hdisjoint _ ha hb => hdisjoint hb ha⟩
    exact hdisjoint.forall (hall a) (hall b) hne ha hb
  · intro hdisjoint
    exact ⟨fun a _ => h a, hpairs.imp fun hne name ha hb => hdisjoint _ _ hne name ha hb⟩

/-- **Where the constants are apart, no artifact shares a name with another.** -/
theorem disjoint_identifiers (hapart : ConstantsApart spec) {a b : Artifact} (hne : a ≠ b) :
    ∀ name ∈ a.identifiers spec, name ∉ b.identifiers spec := by
  -- By symmetry there are three pairs, and each has a mark that only one of its artifacts shows.
  have hsetters : ∀ name ∈ properties.identifiers spec, name ∉ setters.identifiers spec :=
    fun name hconstant hsetter => (hapart name hconstant).1 (mem_identifiers_setters hsetter)
  have hkeywords : ∀ name ∈ properties.identifiers spec, name ∉ keywords.identifiers spec := by
    intro name hconstant hkeyword
    obtain ⟨property, -, suffix, rfl⟩ := mem_identifiers_keywords hkeyword
    exact (hapart _ hconstant).2 (val_infix_strip _ suffix)
  have hothers : ∀ name ∈ keywords.identifiers spec, name ∉ setters.identifiers spec := by
    intro name hkeyword hsetter
    obtain ⟨property, hproperty, suffix, rfl⟩ := mem_identifiers_keywords hkeyword
    have hconstant : Text.strip (Naming.constant property.name) ∈ properties.identifiers spec :=
      List.mem_map_of_mem (List.mem_map_of_mem (List.mem_filter.mp hproperty).1)
    exact not_set_prefix_strip suffix (hapart _ hconstant).1 (mem_identifiers_setters hsetter)
  cases a <;> cases b <;> first | exact absurd rfl hne | assumption | skip
  · exact fun name hkeyword hconstant => hkeywords name hconstant hkeyword
  · exact fun name hsetter hconstant => hsetters name hconstant hsetter
  · exact fun name hsetter hkeyword => hothers name hkeyword hsetter

/-- **Within each written artifact all names are different.**  All three together define different
names exactly when no name is in two of them, which is not checked; it is so where every pasted name
is one identifier, every comment stays on its line, and no property's constant begins with `Set` or
has `Val` in it. -/
theorem nodup_of_run_emit {summary : EmitSummary}
    (h : ((spec.emit out module).run clock tree).1 = .ok summary) :
    ∃ names : Artifact → List Text,
      (∀ artifact, artifact.definitions? spec module = some (names artifact) ∧
        (names artifact).Nodup) ∧
      ((all.flatMap names).Nodup ↔ ∀ a b, a ≠ b → ∀ name ∈ names a, name ∉ names b) ∧
      ((∀ artifact : Artifact, artifact.isPlain spec module = true) → ConstantsApart spec →
        (all.flatMap names).Nodup) := by
  have hchecks := fun artifact => check_eq_ok_iff.mp (check_of_run_emit h artifact)
  choose names hnames hnodup using hchecks
  refine ⟨names, fun artifact => ⟨hnames artifact, hnodup artifact⟩, nodup_flatMap_all_iff hnodup,
    fun hplain hapart => (nodup_flatMap_all_iff hnodup).mpr ?_⟩
  have hidentifiers : ∀ artifact, names artifact = artifact.identifiers spec := by
    intro artifact
    have hdefined := hnames artifact
    rw [definitions?_of_isPlain (hplain artifact)] at hdefined
    exact (Option.some.inj hdefined).symm
  intro a b hne
  rw [hidentifiers a, hidentifiers b]
  exact disjoint_identifiers hapart hne

/-- An empty tree. -/
def bareTree : FileTree where
  home := []
  nodes := []

/-- A property with these keywords. -/
def propertyOf (name : Text) (keywords : List Text) : Property where
  name := name
  keywords := keywords
  grammar := []
  status := .standard

/-- Two properties, of which one has keywords, with names that stay apart. -/
def apart : Spec where
  version := "1"
  properties := [propertyOf "color" [], propertyOf "display" ["block", "inline-block"]]

/-- Emitting them succeeds, and all the names in the three artifacts are different. -/
theorem nodup_apart :
    ∃ summary, ((apart.emit "out" "css").run [] bareTree).1 = .ok summary ∧
      (∀ artifact : Artifact, artifact.isPlain apart "css" = true) ∧ ConstantsApart apart ∧
      ∃ names : Artifact → List Text,
        (∀ artifact, artifact.definitions? apart "css" = some (names artifact)) ∧
        (all.flatMap names).Nodup := by
  have hrun : ((apart.emit "out" "css").run [] bareTree).1 =
      .ok ⟨"out", all.map (·.path "out"), 2, 1⟩ := by decide
  have hplain : ∀ artifact : Artifact, artifact.isPlain apart "css" = true := by
    intro artifact
    cases artifact <;> decide
  have hapart : ConstantsApart apart := by
    unfold ConstantsApart
    decide +kernel
  obtain ⟨names, hnames, -, hnodup⟩ := nodup_of_run_emit hrun
  exact ⟨_, hrun, hplain, hapart, names, fun artifact => (hnames artifact).1, hnodup hplain hapart⟩

/-- Two properties, of which the second is called like the type of the first one's keywords. -/
def clashing : Spec where
  version := "1"
  properties := [propertyOf "a" ["x"], propertyOf "a-val" []]

/-- Emitting these two succeeds, although two of the artifacts define the same name. -/
theorem clashing_not_nodup :
    (∃ summary, ((clashing.emit "out" "css").run [] bareTree).1 = .ok summary) ∧
      ¬ ∃ names : Artifact → List Text,
        (∀ artifact, artifact.definitions? clashing "css" = some (names artifact)) ∧
        (all.flatMap names).Nodup := by
  have hrun : ((clashing.emit "out" "css").run [] bareTree).1 =
      .ok ⟨"out", all.map (·.path "out"), 2, 1⟩ := by decide
  refine ⟨⟨_, hrun⟩, ?_⟩
  rintro ⟨names, hnames, hnodup⟩
  have hproperties : properties.definitions? clashing "css" =
      some (["A", "AVal"].map Text.ofString) := by decide
  have hkeywords : keywords.definitions? clashing "css" =
      some (["AVal", "AValX"].map Text.ofString) := by decide
  rw [hnames] at hproperties hkeywords
  simp [all, Option.some.inj hproperties, Option.some.inj hkeywords] at hnodup

end Artifact

end TypedStyle
