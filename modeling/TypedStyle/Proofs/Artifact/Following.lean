import TypedStyle.Proofs.Artifact.Blocks
import TypedStyle.Proofs.Artifact.Capitals
import TypedStyle.Proofs.Artifact.Distinct
import TypedStyle.Proofs.Artifact.Progress
import TypedStyle.Proofs.Text.Identifiers
/-!
# Setters behind the other artifacts

The constant of a property and the structure of its type are both named after it.  Where nothing is
opened in a name, both stand outside of all groups in their artifacts, so if these are accepted then
both items have been read; and then the name is a single identifier, unless a blank stands in front.
So nothing is pasted into the setters that could spoil them, and their names differ as the constants
do.

* `sublist_of_readsFrom` — constants that are names are defined, whatever stands between them;
* `isName_of_check` — the constants of properties with keywords are names;
* `check_setters_of_check` — setters are accepted where the other artifacts are;
* `setters_follow_others` — so emitting is never refused for the setters alone.
-/

namespace TypedStyle.Artifact

open Code Code.Token Code.Reading

variable {artifact : Artifact} {spec : Spec} {module rest : Text} {property : Property}
  {names : List Text} {trees : Trees} {n : Nat}

/-! ## Items of the lines -/

/-- The line of a property behind a semicolon: its trees, and how they are read. -/
theorem exists_of_propertyLine (h : OpensNothing property.name)
    (htrees : Tree.ofText? (";\n" ++ (propertyLine property ++ rest)) = some trees)
    (hreads : ReadsFrom n names trees) :
    ∃ constant behind others, trees = .mark ';' false :: .word "pub" :: .word "const" :: constant ∧
      Tree.ofText? (Naming.constant property.name ++ (valueText property ++ (";\n" ++ rest))) =
        some constant ∧
      Tree.ofText? (";\n" ++ rest) = some behind ∧ behind <:+ constant ∧
      ReadsItems (readUpTo n) (.word "pub" :: .word "const" :: constant) others ∧
      others <:+ names := by
  have hline : propertyLine property ++ rest = "pub const "
      ++ (Naming.constant property.name ++ (valueText property ++ (";\n" ++ rest))) := by
    have hend : (");\n" : Text) = ")" ++ ";\n" := by decide
    unfold propertyLine valueText
    rw [hend]
    simp only [List.append_assoc]
  rw [hline, Tree.ofText?_of_cuts cuts_end, Tree.ofText?_of_cuts cuts_const,
    Option.map_map] at htrees
  obtain ⟨constant, hconstant, rfl⟩ := Option.map_eq_some_iff.mp htrees
  obtain ⟨behind, hbehind, hsuffix⟩ := leadsTo_value h rest constant hconstant
  obtain ⟨others, hothers, hnames⟩ := hreads _
    ⟨.mark ';' false, .word "const" :: constant, rfl, by simp, by simp⟩ List.suffix_rfl
  exact ⟨constant, behind, others, rfl, hconstant, hbehind, hsuffix, hothers, hnames⟩

/-- **Constants that are names are defined**, in order, whatever the other ones are. -/
theorem sublist_of_readsFrom {listed properties : List Property}
    (hlisted : listed.Sublist properties) (h : ∀ property ∈ properties, OpensNothing property.name)
    (hlistedNames : ∀ property ∈ listed, isWellNamed (Naming.constant property.name) = true)
    (htrees : Tree.ofText? (";\n" ++ properties.flatMap propertyLine) = some trees)
    (hreads : ReadsFrom (n + 20) names trees) :
    (listed.map fun p => Text.strip (Naming.constant p.name)).Sublist names := by
  induction hlisted generalizing trees names with
  | slnil => exact List.nil_sublist names
  | @cons listed properties property _ ih =>
      obtain ⟨hproperty, hproperties⟩ := List.forall_mem_cons.mp h
      obtain ⟨constant, behind, others, rfl, -, hbehind, hsuffix, -⟩ :=
        exists_of_propertyLine hproperty htrees hreads
      refine ih hproperties hlistedNames hbehind (hreads.of_suffix (hsuffix.trans ?_))
      exact List.suffix_append [_, _, _] constant
  | @cons_cons listed properties property _ ih =>
      obtain ⟨hproperty, hproperties⟩ := List.forall_mem_cons.mp h
      obtain ⟨hname, hlistedNames⟩ := List.forall_mem_cons.mp hlistedNames
      obtain ⟨constant, behind, others, rfl, -, hbehind, hsuffix, hothers, hnames⟩ :=
        exists_of_propertyLine hproperty htrees hreads
      have hmapped := hbehind
      rw [Tree.ofText?_of_cuts cuts_end] at hmapped
      obtain ⟨last, hlast, rfl⟩ := Option.map_eq_some_iff.mp hmapped
      have hword : IsOneWord (Naming.constant property.name) := (Bool.and_eq_true_iff.mp hname).1
      have hline := Tree.ofText?_append_of_spells (spells_propertyLine hword) hlast
      have htail : .word "pub" :: .word "const" :: constant = propertyTrees property ++ last := by
        rw [Tree.ofText?_of_cuts cuts_end] at htrees
        obtain ⟨_, hall, heq⟩ := Option.map_eq_some_iff.mp htrees
        obtain ⟨-, rfl⟩ := List.cons.inj heq
        exact Option.some.inj (hall.symm.trans hline)
      rw [htail] at hothers
      obtain ⟨left, hleft, rfl⟩ :=
        hothers.of_item rfl (item_property hname last) (by simp [propertyTrees])
      exact ((ih hproperties hlistedNames hbehind hleft.readsFrom).cons_cons _).trans hnames.sublist

/-- The item that a property's constant is can be read. -/
theorem exists_constantItem {properties : List Property}
    (h : ∀ property ∈ properties, OpensNothing property.name)
    (htrees : Tree.ofText? (";\n" ++ properties.flatMap propertyLine) = some trees)
    (hreads : ReadsFrom n names trees) (hproperty : property ∈ properties) :
    ∃ rest constant m form after,
      Tree.ofText? (Naming.constant property.name ++ (valueText property ++ (";\n" ++ rest))) =
        some constant ∧
      itemRule (readUpTo m) (.word "pub" :: .word "const" :: constant) = some (form, after) := by
  induction properties generalizing trees with
  | nil => contradiction
  | cons first properties ih =>
      obtain ⟨hfirst, hproperties⟩ := List.forall_mem_cons.mp h
      obtain ⟨constant, behind, others, rfl, hconstant, hbehind, hsuffix, hothers, -⟩ :=
        exists_of_propertyLine hfirst htrees hreads
      rcases List.mem_cons.mp hproperty with rfl | hmem
      · obtain ⟨m, form, after, _, hitem, -⟩ := hothers.exists_of_public
        exact ⟨_, constant, m, form, after, hconstant, hitem⟩
      · refine ih hproperties hbehind (hreads.of_suffix (hsuffix.trans ?_)) hmem
        exact List.suffix_append [_, _, _] constant

/-- The item that the structure of a property's type is can be read. -/
theorem exists_structureItem {properties : List Property}
    (h : ∀ property ∈ properties, OpensNothing property.name ∧
      ∀ keyword ∈ property.keywords, OpensNothing keyword)
    (htrees : Tree.ofText? (properties.flatMap keywordBlock) = some trees)
    (hreads : ReadsFrom n names trees) (hproperty : property ∈ properties) :
    ∃ rest structured m form after,
      Tree.ofText? (Naming.keywordType property.name ++ behindStructure property rest) =
        some structured ∧
      itemRule (readUpTo m) (.word "pub" :: .word "struct" :: structured) = some (form, after) := by
  obtain ⟨rest, hblock⟩ := LeadsTo.of_flatMap
    (fun p hp => leadsTo_keywordBlock (h p hp).1 (h p hp).2) hproperty []
  rw [List.append_nil] at hblock
  obtain ⟨mid, hmid, hsuffix⟩ :=
    (hblock.trans (leadsTo_structure (h property hproperty).1 rest)) _ htrees
  rw [Tree.ofText?_of_cuts cuts_structure] at hmid
  obtain ⟨structured, hstructured, rfl⟩ := Option.map_eq_some_iff.mp hmid
  have hspot : Trees.StartsPublic (deriveTrees ++ [Tree.word "pub", .word "struct"]
      ++ structured).tail := ⟨_, _, rfl, by simp, by simp⟩
  obtain ⟨others, hothers, -⟩ := hreads _ hspot ((List.tail_suffix _).trans hsuffix)
  obtain ⟨m, form, after, _, hitem, -⟩ := hothers.exists_of_public
  exact ⟨rest, structured, m, form, after, hstructured, hitem⟩

/-! ## Accepted artifacts -/

/-- An accepted artifact is code, and its items are read to the end. -/
theorem exists_file_of_check (hmodule : isOneLine module = true)
    (h : artifact.check spec module = .ok ()) :
    ∃ n names body, names.Nodup ∧ Tree.ofText? (artifact.body spec) = some body ∧
      file (readUpTo (n + 20)) (frontTrees module artifact ++ body) = some (names, []) := by
  obtain ⟨names, hdefinitions, hnodup⟩ := check_eq_ok_iff.mp h
  have hcode : Code.definitions? (artifact.render spec module []) = some names :=
    (definitions?_written (by simp)).trans hdefinitions
  obtain ⟨trees, htrees, hread⟩ := exists_trees_of_definitions? hcode
  rw [render, Tree.ofText?_of_cuts (cuts_front hmodule)] at htrees
  obtain ⟨body, hbody, rfl⟩ := Option.map_eq_some_iff.mp htrees
  obtain ⟨n, rest, hfile⟩ := hread (by simp [frontTrees, moduleNoteTrees])
  obtain rfl := rest_of_file hfile
  exact ⟨n, names, body, hnodup, hbody, hfile⟩

/-- The constants of accepted properties are read from the semicolon in front of them on. -/
theorem exists_readsFrom_properties (hmodule : isOneLine module = true)
    (h : properties.check spec module = .ok ()) :
    ∃ n names trees, names.Nodup ∧
      Tree.ofText? (";\n" ++ spec.properties.flatMap propertyLine) = some trees ∧
      ReadsFrom (n + 20) names trees := by
  obtain ⟨n, names, body, hnodup, hbody, hfile⟩ := exists_file_of_check hmodule h
  refine ⟨n, names, .mark ';' false :: body, hnodup, ?_, fun spot hspot hsuffix => ?_⟩
  · rw [Tree.ofText?_of_cuts cuts_end]
    exact congrArg (Option.map _) hbody
  · have hfront : frontTrees module .properties = moduleNoteTrees
        ++ (allowTrees "non_upper_case_globals" ++ ([.word "use"]
          ++ pathTrees [runtimeCrate module, "Property"])) ++ [.mark ';' false] := by
      simp [frontTrees, preambleTrees, crateTrees]
    refine exists_readsItems_of_file hfile hspot (hsuffix.trans ?_)
    rw [hfront, List.append_assoc]
    exact List.suffix_append _ _

/-- Where the keywords pass their check, their blocks can be read as a file of definitions. -/
theorem exists_readsFrom_keywords (hmodule : isOneLine module = true)
    (h : keywords.check spec module = .ok ()) :
    ∃ n names trees, Tree.ofText? (spec.keywordProperties.flatMap keywordBlock) = some trees ∧
      ReadsFrom n names trees := by
  obtain ⟨n, names, body, -, hbody, hfile⟩ := exists_file_of_check hmodule h
  exact ⟨n + 20, names, body, hbody, fun spot hspot hsuffix =>
    exists_readsItems_of_file hfile hspot (hsuffix.trans (List.suffix_append _ _))⟩

/-! ## Setters -/

/-- Names and keywords of the property open nothing. -/
def IsFlat (property : Property) : Prop :=
  OpensNothing property.name ∧ ∀ keyword ∈ property.keywords, OpensNothing keyword

instance (property : Property) : Decidable (IsFlat property) :=
  inferInstanceAs (Decidable (_ ∧ ∀ keyword ∈ property.keywords, OpensNothing keyword))

/-- Does the text start with a blank? -/
def startsBlank (t : Text) : Bool :=
  t.head?.any Text.isCodeBlank

/-- The property's constant does not start with a blank. -/
theorem isPasted_constant (h : OpensNothing property.name)
    (hblank : startsBlank (Naming.constant property.name) = false) :
    IsPasted (Naming.constant property.name) where
  opensNothing := opensNothing_pascalCase h
  hyphen := Naming.hyphen_not_mem_pascalCase _
  first c hc := by
    rw [startsBlank, Option.mem_def.mp hc] at hblank
    exact ⟨hblank, Naming.isLower_of_head?_pascalCase hc⟩

/-- No bracket is closed in front of the semicolon behind a constant. -/
theorem behindAngle?_value {last : Trees} (opened : Nat)
    (h : Tree.ofText? (valueText property ++ (";\n" ++ rest)) = some last) :
    Trees.behindAngle? opened last = none := by
  rw [Tree.ofText?_of_cuts (cuts_value property), Tree.ofText?_of_cuts cuts_end] at h
  obtain ⟨_, hmid, rfl⟩ := Option.map_eq_some_iff.mp h
  obtain ⟨behind, -, rfl⟩ := Option.map_eq_some_iff.mp hmid
  rfl

/-- **The constants of properties with keywords are names**, if both artifacts in front are
accepted. -/
theorem isName_of_check (hmodule : isOneLine module = true)
    (hflat : ∀ property ∈ spec.properties, IsFlat property)
    (hblank : ∀ property ∈ spec.keywordProperties,
      startsBlank (Naming.constant property.name) = false)
    (hproperties : properties.check spec module = .ok ())
    (hkeywords : keywords.check spec module = .ok ()) :
    ∀ property ∈ spec.keywordProperties,
      Text.Identifier.isNameOrUnderscore (Naming.constant property.name) = true := by
  intro property hproperty
  have hmem : property ∈ spec.properties := (List.mem_filter.mp hproperty).1
  obtain ⟨_, _, _, -, hconstants, hreadsConstants⟩ :=
    exists_readsFrom_properties hmodule hproperties
  obtain ⟨_, _, _, hblocks, hreadsBlocks⟩ := exists_readsFrom_keywords hmodule hkeywords
  obtain ⟨rest, constant, n, form, after, hconstant, hfirst⟩ := exists_constantItem
    (fun p hp => (hflat p hp).1) hconstants hreadsConstants hmem
  obtain ⟨last, structured, m, other, behind, hstructured, hsecond⟩ := exists_structureItem
    (fun p hp => hflat p (List.mem_filter.mp hp).1) hblocks hreadsBlocks hproperty
  obtain ⟨v, hcolon⟩ : ∃ v, valueText property ++ (";\n" ++ rest) = ':' :: ' ' :: v := ⟨_, rfl⟩
  obtain ⟨w, hopening⟩ : ∃ w, behindStructure property last = '(' :: '&' :: w := ⟨_, rfl⟩
  have hend : ∀ last opened, Tree.ofText? (':' :: ' ' :: v) = some last →
      Trees.behindAngle? opened last = none := fun last opened hlast =>
    behindAngle?_value opened (hcolon ▸ hlast)
  rw [hcolon] at hconstant
  rw [hopening, Naming.keywordType, List.append_assoc] at hstructured
  exact isNameOrUnderscore_of_items
    (isPasted_constant (hflat property hmem).1 (hblank property hproperty)) (by simp) (by simp) hend
    hconstant hstructured hfirst hsecond

/-- There is no blank in a name. -/
theorem strip_eq_self_of_isName {name : Text}
    (h : Text.Identifier.isNameOrUnderscore name = true) : Text.strip name = name := by
  have hinner := isCodeBlank_of_isWord (Bool.and_eq_true_iff.mp h).1
  exact Text.trimBy_eq_self ⟨fun c hc => hinner c (List.mem_of_mem_head? hc),
    fun c hc => hinner c (List.mem_of_getLast? hc)⟩

/-- An identifier can be pasted as a name. -/
theorem isWellNamed_of_isName {name : Text}
    (h : Text.Identifier.isNameOrUnderscore name = true) : isWellNamed name = true := by
  rwa [isWellNamed, strip_eq_self_of_isName h]

/-- The characters of a word go on in identifiers. -/
theorem isContinue_of_isWord {word : Text} (h : Text.Identifier.isWord word = true) :
    ∀ c ∈ word, Text.Identifier.isContinue c = true := by
  cases word with
  | nil => contradiction
  | cons d others =>
      obtain ⟨hd, hothers⟩ := Bool.and_eq_true_iff.mp h
      exact List.forall_mem_cons.mpr
        ⟨Text.Identifier.isContinue_of_isStart hd, List.all_eq_true.mp hothers⟩

/-- A name goes on with such characters, unless what it becomes is reserved. -/
theorem isName_append {t u : Text} (ht : Text.Identifier.isWord t = true)
    (hu : ∀ c ∈ u, Text.Identifier.isContinue c = true)
    (hreserved : t ++ u ∉ Text.Identifier.reserved) :
    Text.Identifier.isNameOrUnderscore (t ++ u) = true := by
  refine Bool.and_eq_true_iff.mpr ⟨?_, by simpa using hreserved⟩
  cases t with
  | nil => contradiction
  | cons c t =>
      obtain ⟨hc, hothers⟩ := Bool.and_eq_true_iff.mp ht
      refine Bool.and_eq_true_iff.mpr ⟨hc, ?_⟩
      exact List.all_append.trans (Bool.and_eq_true_iff.mpr ⟨hothers, List.all_eq_true.mpr hu⟩)

section

variable (h : Text.Identifier.isNameOrUnderscore (Naming.constant property.name) = true)

include h

/-- Where the constant of a property is an identifier, its setter is one too. -/
theorem isName_setter_of_constant :
    Text.Identifier.isNameOrUnderscore (Naming.setter property.name) = true := by
  refine isName_append (by decide) (isContinue_of_isWord (Bool.and_eq_true_iff.mp h).1) ?_
  intro hreserved
  have hself := eq_of_mem_reserved hreserved ⟨'S', rfl, rfl⟩
  simp [Text.ofString] at hself

/-- And so is its keyword type. -/
theorem isName_keywordType_of_constant :
    Text.Identifier.isNameOrUnderscore (Naming.keywordType property.name) = true := by
  have hletters : ∀ word ∈ Text.Identifier.reserved, 'V' ∉ word := by decide
  refine isName_append (Bool.and_eq_true_iff.mp h).1
    (Text.forall_mem_of_all (by decide)) fun hreserved => ?_
  exact hletters _ hreserved (List.mem_append_right _ (by decide))

/-- Such a property has a name and a setter that stay on their lines. -/
theorem isOneLine_of_constant : isOneLine property.name = true ∧
    isOneLine (Naming.setter property.name) = true := by
  have hinner := isCodeBlank_of_isWord (Bool.and_eq_true_iff.mp h).1
  have hends : '\n' ∉ Naming.constant property.name ∧ '\r' ∉ Naming.constant property.name :=
    ⟨fun hmem => absurd (hinner _ hmem) (by decide), fun hmem => absurd (hinner _ hmem) (by decide)⟩
  constructor
  · refine isOneLine_of_not_mem (fun hmem => hends.1 ?_) fun hmem => hends.2 ?_
    · exact Naming.mem_pascalCase hmem (Text.upperChar_of_ascii (by decide)) (by decide)
    · exact Naming.mem_pascalCase hmem (Text.upperChar_of_ascii (by decide)) (by decide)
  · rw [Naming.setter, isOneLine_append]
    exact Bool.and_eq_true_iff.mpr ⟨rfl, isOneLine_of_not_mem hends.1 hends.2⟩

end

/-- **Setters of properties whose constants are names are plain.** -/
theorem isPlain_setters (hmodule : isOneLine module = true)
    (h : ∀ property ∈ spec.keywordProperties,
      Text.Identifier.isNameOrUnderscore (Naming.constant property.name) = true) :
    setters.isPlain spec module = true := by
  refine Bool.and_eq_true_iff.mpr ⟨List.all_eq_true.mpr fun note hnote => ?_,
    List.all_eq_true.mpr fun name hname => isWellNamed_of_isName ?_⟩
  · rcases List.mem_cons.mp hnote with rfl | hmore
    · exact isOneLine_moduleNote hmodule setters
    · obtain ⟨property, hproperty, rfl⟩ := List.mem_map.mp hmore
      obtain ⟨hname, hsetter⟩ := isOneLine_of_constant (h property hproperty)
      exact isOneLine_setterNote hname hsetter
  · rcases List.mem_append.mp hname with hdefined | hused
    · obtain ⟨property, hproperty, rfl⟩ := List.mem_map.mp hdefined
      exact isName_setter_of_constant (h property hproperty)
    · obtain ⟨property, hproperty, hmem⟩ := List.mem_flatMap.mp hused
      rcases List.mem_cons.mp hmem with rfl | hconstant
      · exact isName_keywordType_of_constant (h property hproperty)
      · obtain rfl := List.mem_singleton.mp hconstant
        exact h property hproperty

/-- Setters have different names, since the constants have. -/
theorem nodup_setters (hmodule : isOneLine module = true)
    (hflat : ∀ property ∈ spec.properties, IsFlat property)
    (h : ∀ property ∈ spec.keywordProperties,
      Text.Identifier.isNameOrUnderscore (Naming.constant property.name) = true)
    (hproperties : properties.check spec module = .ok ()) :
    (setters.identifiers spec).Nodup := by
  obtain ⟨n, names, trees, hnodup, htrees, hreads⟩ :=
    exists_readsFrom_properties hmodule hproperties
  have hlisted : spec.keywordProperties.Sublist spec.properties := List.filter_sublist
  have hsublist := sublist_of_readsFrom hlisted
    (fun property hproperty => (hflat property hproperty).1)
    (fun property hproperty => isWellNamed_of_isName (h property hproperty)) htrees hreads
  have hsetters : setters.identifiers spec = (spec.keywordProperties.map fun p =>
      Text.strip (Naming.constant p.name)).map (Text.ofString "Set" ++ ·) := by
    rw [identifiers, defined, List.map_map, List.map_map]
    refine List.map_congr_left fun property hproperty => ?_
    have hname := h property hproperty
    exact (strip_eq_self_of_isName (isName_setter_of_constant hname)).trans
      (congrArg _ (strip_eq_self_of_isName hname).symm)
  rw [hsetters]
  exact (hnodup.sublist hsublist).map (List.append_right_injective _)

/-- **Setters are accepted where the other artifacts are.** -/
theorem check_setters_of_check (hmodule : isOneLine module = true)
    (hflat : ∀ property ∈ spec.properties, IsFlat property)
    (hblank : ∀ property ∈ spec.keywordProperties,
      startsBlank (Naming.constant property.name) = false)
    (hproperties : properties.check spec module = .ok ())
    (hkeywords : keywords.check spec module = .ok ()) : setters.check spec module = .ok () := by
  have hnames := isName_of_check hmodule hflat hblank hproperties hkeywords
  exact check_eq_ok_iff.mpr ⟨_, definitions?_of_isPlain (isPlain_setters hmodule hnames),
    nodup_setters hmodule hflat hnames hproperties⟩

/-- **No spec leaves the setters behind.**  Let the names of the properties and their keywords open
neither comments nor strings nor groups, and let no name of a property with keywords start in white
space in its form in capitals.  Then for every module that is accepted and stays on its line, or has
no comment in it, the setters are accepted if the properties and the keywords are; so whatever the
files are, emitting is never refused for the setters. -/
theorem setters_follow_others (hmodule : isModuleName module = true)
    (hcomments : isOneLine module = true ∨ '/' ∉ module)
    (hflat : ∀ property ∈ spec.properties, IsFlat property)
    (hblank : ∀ property ∈ spec.keywordProperties,
      startsBlank (Naming.constant property.name) = false) :
    (properties.check spec module = .ok () → keywords.check spec module = .ok () →
      setters.check spec module = .ok ()) ∧
    ∀ out clock tree defect,
      ((spec.emit out module).run clock tree).1 ≠ .error (setters.failure defect) := by
  have hfollow : properties.check spec module = .ok () → keywords.check spec module = .ok () →
      setters.check spec module = .ok () := by
    intro hproperties hkeywords
    by_cases hline : isOneLine module = true
    · exact check_setters_of_check hline hflat hblank hproperties hkeywords
    -- A name over several lines lets no artifact pass.
    · obtain ⟨name, hname, -⟩ := isModuleName_iff.mp hmodule
      have hnone := definitions?_of_broken hname (hcomments.resolve_left hline)
        (Bool.eq_false_iff.mpr hline) properties spec
      obtain ⟨names, hnames, -⟩ := check_eq_ok_iff.mp hproperties
      exact absurd (hnames.symm.trans hnone) (by simp)
  refine ⟨hfollow, fun out clock tree defect hrun => ?_⟩
  obtain ⟨hcheck, hearlier⟩ := check_of_run_failure defect hrun
  have hpassed := hfollow (hearlier properties (by decide)) (hearlier keywords (by decide))
  exact absurd (hpassed.symm.trans hcheck) (by simp)

/-- Text is pasted that is more than a name, and the artifacts pass nevertheless. -/
def strewn : Spec where
  version := "1"
  properties := [propertyOf "x: u8 = 1; pub const y" [],
    propertyOf "é-size" ["b: u8 = 2; pub const c", "d"]]

/-- Such text is pasted, and the module has white space around its name; all three artifacts pass
nevertheless, and no run ends at the setters. -/
theorem setters_follow_strewn : isModuleName " css " = true ∧
    (∀ property ∈ strewn.properties, IsFlat property) ∧
    (∀ property ∈ strewn.keywordProperties,
      startsBlank (Naming.constant property.name) = false) ∧
    properties.check strewn " css " = .ok () ∧ keywords.check strewn " css " = .ok () ∧
    setters.check strewn " css " = .ok () ∧ ∀ out clock tree defect,
      ((strewn.emit out " css ").run clock tree).1 ≠ .error (setters.failure defect) := by
  have hmodule : isModuleName " css " = true := by decide
  have hflat : ∀ property ∈ strewn.properties, IsFlat property := by decide
  have hblank : ∀ property ∈ strewn.keywordProperties,
      startsBlank (Naming.constant property.name) = false := by decide +kernel
  have hproperties : properties.check strewn " css " = .ok () := by decide +kernel
  have hkeywords : keywords.check strewn " css " = .ok () := by decide +kernel
  obtain ⟨hsetters, hemit⟩ := setters_follow_others hmodule (.inl (by decide)) hflat hblank
  exact ⟨hmodule, hflat, hblank, hproperties, hkeywords, hsetters hproperties hkeywords, hemit⟩

/-! ## Text that opens something -/

/-- The module is accepted and no name starts in white space, the properties and the keywords pass,
and the setters do not. -/
def LeavesSettersBehind (spec : Spec) (module : Text) : Prop :=
  isModuleName module = true ∧
    (∀ property ∈ spec.keywordProperties, startsBlank (Naming.constant property.name) = false) ∧
    properties.check spec module = .ok () ∧ keywords.check spec module = .ok () ∧
    setters.check spec module = .error .malformed

instance (spec : Spec) (module : Text) : Decidable (LeavesSettersBehind spec module) :=
  inferInstanceAs (Decidable (_ ∧ (∀ property ∈ spec.keywordProperties,
    startsBlank (Naming.constant property.name) = false) ∧ _ ∧ _ ∧ _))

/-- A comment is pasted in front of a name. -/
def prefaced : Spec := { version := "1", properties := [propertyOf "/**/a" ["k"]] }

/-- One constant opens what another one closes, and a property without a name stands between. -/
def straddled (opening closing : Text) : Spec where
  version := "1"
  properties := [propertyOf ("x: u8 = " ++ opening) [], propertyOf "-" ["k"],
    propertyOf (closing ++ "; pub const y") []]

/-- One keyword opens what another one closes. -/
def straddledKeywords : Spec where
  version := "1"
  properties := [propertyOf "a" ["x: u8 = m!("], propertyOf "b: u8 = 1; pub const c" ["k"],
    propertyOf "d" ["); pub const y"]]

/-- **Comments, strings and groups** in names, groups in keywords and a comment in the name of the
module can each hide what is found for the setters alone. -/
theorem leave_setters_behind : LeavesSettersBehind prefaced "css" ∧
    LeavesSettersBehind (straddled "r#\"" "\"#") "css" ∧
    LeavesSettersBehind (straddled "m![" "]") "css" ∧
    LeavesSettersBehind straddledKeywords "css" ∧
    LeavesSettersBehind { version := "1", properties := [propertyOf "-" [")] pub const k"],
      propertyOf ")] pub const y" []] } "css /*\n#![doc( // */" := by
  decide +kernel

end TypedStyle.Artifact
