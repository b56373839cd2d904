import TypedStyle.Artifact.Check
import TypedStyle.Catalog.Basic
import TypedStyle.Proofs.Artifact.Capitals
import TypedStyle.Proofs.Artifact.Reading
import TypedStyle.Proofs.Catalog.Normal
import TypedStyle.Proofs.Catalog.Routes
import TypedStyle.Proofs.Grammar.Tokens
import TypedStyle.Proofs.Spec.Normal
import TypedStyle.Spec.Normal
/-!
# Artifacts from a catalog

Whatever the grammars of a catalog hold, its keywords are made of small letters, digits and hyphens.
If its names are hyphenated names, all names of definitions are identifiers in capitals, and the
names of properties are read off them.  So the artifacts of the properties and of the setters are
accepted, and that of the keywords is refused only for a name that it defines twice.
-/

namespace TypedStyle

open Naming (IsHyphenated IsCapitalized isKebabChar)

namespace Artifact

/-! ## Regular properties -/

variable {property : Property} {spec : Spec} {module t : Text}

/-- The property is called by a hyphenated name, and its keywords have small letters, digits and
hyphens only.  Its constant is not called by a reserved word. -/
structure IsRegular (property : Property) : Prop where
  name : IsHyphenated property.name
  notSelf : property.name ≠ "self"
  keywords : ∀ keyword ∈ property.keywords, ∀ c ∈ keyword, isKebabChar c = true

/-- The name and the keywords of a regular property are made of letters, digits and hyphens. -/
theorem IsRegular.isKebab (h : IsRegular property) : IsKebab property :=
  ⟨h.name, h.keywords⟩

/-- None of the names is the reserved word: only one called `self` has it as its form in capitals,
and the other names have a letter that is not in it. -/
theorem constant_ne_self (h : IsRegular property) : Naming.constant property.name ≠ "Self" := by
  intro heq
  apply h.notSelf
  rw [← Naming.kebabCase_pascalCase h.name]
  exact congrArg Naming.kebabCase heq

/-- A text with a character that `Self` does not have is not `Self`. -/
theorem ne_self_of_mem {c : Char} (hmem : c ∈ t) (hc : c ∉ Text.ofString "Self") : t ≠ "Self" := by
  rintro rfl
  exact hc hmem

/-- No name that is defined is the reserved word. -/
theorem ne_self_of_mem_defined (h : ∀ property ∈ spec.properties, IsRegular property)
    (artifact : Artifact) : ∀ name ∈ artifact.defined spec, name ≠ "Self" := by
  intro name hname
  cases artifact with
  | properties =>
      obtain ⟨property, hproperty, rfl⟩ := List.mem_map.mp hname
      exact constant_ne_self (h property hproperty)
  | keywords =>
      obtain ⟨property, -, hmem⟩ := List.mem_flatMap.mp hname
      have hval : 'V' ∈ Naming.keywordType property.name := by
        simp [Naming.keywordType, Text.ofString]
      rcases List.mem_cons.mp hmem with rfl | hkeyword
      · exact ne_self_of_mem hval (by decide)
      · obtain ⟨keyword, -, rfl⟩ := List.mem_map.mp hkeyword
        exact ne_self_of_mem (List.mem_append_left _ hval) (by decide)
  | setters =>
      obtain ⟨property, -, rfl⟩ := List.mem_map.mp hname
      have hset : 't' ∈ Naming.setter property.name := by
        simp [Naming.setter, Text.ofString]
      exact ne_self_of_mem hset (by decide)

/-- **The artifacts of regular properties are plain.** -/
theorem isPlain_of_isRegular (h : ∀ property ∈ spec.properties, IsRegular property)
    (hmodule : isOneLine module = true) (artifact : Artifact) :
    artifact.isPlain spec module = true := by
  have hkebab : ∀ property ∈ spec.properties, IsKebab property := fun property hproperty =>
    (h property hproperty).isKebab
  rw [isPlain, Bool.and_eq_true]
  refine ⟨List.all_eq_true.mpr (isOneLine_of_mem_notes hkebab hmodule artifact),
    List.all_eq_true.mpr fun name hname => ?_⟩
  obtain ⟨other, hother⟩ := mem_defined_of_mem hname
  exact isWellNamed_of_isCapitalized (isCapitalized_of_mem_defined hkebab other name hother)
    (ne_self_of_mem_defined h other name hother)

/-- **The only defect of artifacts of regular properties** is a name that the keywords define
twice. -/
theorem defect_of_isRegular (h : ∀ property ∈ spec.properties, IsRegular property)
    (hnames : (spec.properties.map Property.name).Nodup) (hmodule : isOneLine module = true)
    {artifact : Artifact} {defect : Defect}
    (hdefect : artifact.check spec module = .error defect) :
    artifact = .keywords ∧ ∃ name, defect = .duplicate name := by
  have hdefinitions := definitions?_of_isPlain (isPlain_of_isRegular h hmodule artifact)
  have hkebab : ∀ property ∈ spec.properties, IsKebab property := fun property hproperty =>
    (h property hproperty).isKebab
  constructor
  · by_contra hartifact
    have hnodup : (artifact.identifiers spec).Nodup := by
      rw [identifiers_eq_defined hkebab]
      exact nodup_defined hkebab hnames hartifact
    rw [check_eq_ok_iff.mpr ⟨_, hdefinitions, hnodup⟩] at hdefect
    contradiction
  · rw [check, hdefinitions] at hdefect
    dsimp only at hdefect
    split at hdefect
    · next name _ => exact ⟨name, (Except.error.inj hdefect).symm⟩
    · contradiction

/-- The text is one identifier of letters, digits and underscores that a module may have. -/
structure IsPlainModule (module : Text) : Prop where
  accepted : isModuleName module = true
  ascii : ∀ c ∈ module, (c.isAlphanum || c = '_') = true

/-- The name of a plain module stays on its line. -/
theorem IsPlainModule.isOneLine (h : IsPlainModule module) : isOneLine module = true := by
  refine List.all_eq_true.mpr fun c hc => ?_
  rcases Bool.or_eq_true_iff.mp (h.ascii c hc) with halphanum | hunderscore
  · obtain ⟨-, -, hline, hreturn⟩ := isContinue_of_isAlphanum halphanum
    simp [hline, hreturn]
  · rw [of_decide_eq_true hunderscore]
    decide

end Artifact

/-! ## Properties of a catalog -/

namespace Catalog

variable {catalog : Catalog} {policy : Policy}

/-- A hyphenated name is its own normal form. -/
theorem normalName_of_isHyphenated {name : Text} (h : IsHyphenated name) :
    Property.normalName name = name :=
  Property.normalName_eq_self fun c hc => Naming.forall_isKebabChar
    (p := fun c => Text.IsSmall c ∧ c ≠ '_') (by decide)
    (Naming.isKebabChar_of_isHyphenated h c hc)

/-- The names that are not prefixed are hyphenated names, and none of them is `self`. -/
def HasRegularNames (catalog : Catalog) : Prop :=
  ∀ name ∈ catalog.plainNames, IsHyphenated name ∧ name ≠ "self"

/-- **Normal properties of a catalog are regular**, whatever its grammars hold. -/
theorem isRegular_of_mem_normalize (h : catalog.HasRegularNames) {property : Property}
    (hproperty : property ∈ (catalog.toSpec.normalize policy).properties) :
    Artifact.IsRegular property := by
  obtain ⟨described, hdescribed, -, rfl⟩ := Spec.mem_normalize.mp hproperty
  obtain ⟨hhyphenated, hself⟩ := h _ (name_mem_plainNames hdescribed)
  have hname : described.normalize.name = described.name :=
    normalName_of_isHyphenated hhyphenated
  obtain ⟨name, entry, -, -, rfl⟩ := mem_toSpec.mp hdescribed
  refine ⟨by rwa [hname], by rwa [hname], ?_⟩
  intro keyword hkeyword
  obtain ⟨⟨found, hfound, rfl⟩, -⟩ := Property.mem_normalKeywords.mp hkeyword
  rw [(Grammar.isNormalKeyword_of_mem_keywords hfound).lower_trim]
  exact Grammar.isKebabChar_of_mem_keywords hfound

/-- Normal properties of a catalog have different names. -/
theorem nodup_names_normalize (h : catalog.HasRegularNames) :
    ((catalog.toSpec.normalize policy).properties.map Property.name).Nodup := by
  have hsame : ∀ property ∈ catalog.toSpec.properties,
      property.normalize.name = property.name := fun property hproperty =>
    normalName_of_isHyphenated (h _ (name_mem_plainNames hproperty)).1
  have hdescribed : (catalog.toSpec.properties.map Property.name).Nodup := by
    rw [List.nodup_iff_pairwise_ne, List.pairwise_map]
    refine catalog.toSpec_names_pairwise.imp ?_
    intro a b hlt heq
    rw [heq] at hlt
    exact List.lt_irrefl _ hlt
  have hadmitted : (Spec.admitted policy catalog.toSpec.properties).map Property.name =
      (catalog.toSpec.properties.filter fun p => policy.admits p.status).map Property.name := by
    rw [Spec.admitted, List.map_map]
    exact List.map_congr_left fun p hp => hsame p (List.mem_filter.mp hp).1
  rw [Spec.normalize_eq, ((Spec.sortByName_perm _).map Property.name).nodup_iff, hadmitted]
  exact hdescribed.sublist (List.filter_sublist.map Property.name)

/-- **What is generated from a catalog is accepted, but for keywords with the same name.**  Let the
names of a catalog that are not prefixed be hyphenated names, and none of them `self`; its grammars,
statuses and dictionary may hold any text.  Then for every policy and every module that is a plain
identifier, no artifact is malformed, and a name is defined twice in that of the keywords only.
What is checked is what the text of the artifact defines when it is read as code, at whatever time
it is written. -/
theorem defect_of_hasRegularNames (h : catalog.HasRegularNames) {module : Text}
    (hmodule : Artifact.IsPlainModule module) (artifact : Artifact) :
    (∀ defect, artifact.check (catalog.toSpec.normalize policy) module = .error defect →
      artifact = .keywords ∧ ∃ name, defect = .duplicate name) ∧
    ∀ timestamp, '\n' ∉ timestamp →
      Code.definitions? (artifact.render (catalog.toSpec.normalize policy) module timestamp) =
        artifact.definitions? (catalog.toSpec.normalize policy) module := by
  have hregular : ∀ property ∈ (catalog.toSpec.normalize policy).properties,
      Artifact.IsRegular property := fun _ => isRegular_of_mem_normalize h
  have hplain := Artifact.isPlain_of_isRegular hregular hmodule.isOneLine artifact
  constructor
  · intro defect hdefect
    exact Artifact.defect_of_isRegular hregular (nodup_names_normalize h) hmodule.isOneLine hdefect
  · intro timestamp htimestamp
    rw [Artifact.definitions?_render hplain htimestamp, Artifact.definitions?_of_isPlain hplain]

/-- A catalog of hyphenated names and a prefixed one, with grammars that are none. -/
def oddGrammars : Catalog where
  properties := Table.ofList
    [("-x y", ⟨"a", "standard", Table.empty⟩),
     ("font-size2", ⟨"<nope | a--b 12px || --x_y \"é\" 100", "standard", Table.empty⟩),
     ("zoom", ⟨"ok--\n-end <ref>", "odd", Table.empty⟩)]
  grammars := Table.ofList [("ref", "\u2028 <ref> self")]

/-- What is generated from it has no defect but possibly keywords with the same name. -/
theorem defect_of_oddGrammars :
    oddGrammars.HasRegularNames ∧ Artifact.IsPlainModule "styles" ∧ ∀ artifact : Artifact,
      (∀ defect, artifact.check (oddGrammars.toSpec.normalize ⟨true, false⟩) "styles" =
        .error defect → artifact = .keywords ∧ ∃ name, defect = .duplicate name) ∧
      ∀ timestamp, '\n' ∉ timestamp →
        Code.definitions?
            (artifact.render (oddGrammars.toSpec.normalize ⟨true, false⟩) "styles" timestamp) =
          artifact.definitions? (oddGrammars.toSpec.normalize ⟨true, false⟩) "styles" := by
  have hnames : oddGrammars.HasRegularNames := by
    unfold HasRegularNames
    decide
  have hmodule : Artifact.IsPlainModule "styles" :=
    ⟨by decide, Text.forall_mem_of_all (by decide)⟩
  exact ⟨hnames, hmodule, fun artifact => defect_of_hasRegularNames hnames hmodule artifact⟩

end Catalog

end TypedStyle
