import Mathlib.Data.List.Nodup
import TypedStyle.Proofs.Artifact.Trees
import TypedStyle.Proofs.Naming
/-!
# Artifacts of hyphenated names

If the properties are called by hyphenated names, and their keywords are made of small letters,
digits and hyphens, all names that are pasted into the artifacts are in capitals, and the names of
properties are read off them.

* `isCapitalized_of_mem_defined` — everything that an artifact defines has a name in capitals;
* `pastesNames_of_isKebab` — nothing but names is pasted;
* `nodup_defined` — different properties have different constants and setters.
-/

namespace TypedStyle.Artifact

open Naming (IsHyphenated IsCapitalized isKebabChar)

/-! ## Identifiers in capitals -/

variable {t : Text}

/-- Letters and digits go on in an identifier, and are neither blanks nor ends of a line. -/
theorem isContinue_of_isAlphanum {c : Char} (h : c.isAlphanum = true) :
    Text.Identifier.isContinue c = true ∧ Text.isCodeBlank c = false ∧ c ≠ '\n' ∧ c ≠ '\r' :=
  Text.forall_ascii (p := fun c => c.isAlphanum = true →
      Text.Identifier.isContinue c = true ∧ Text.isCodeBlank c = false ∧ c ≠ '\n' ∧ c ≠ '\r')
    (by decide) (Text.toNat_lt_of_isAlphanum h) h

/-- A capital can begin an identifier. -/
theorem isStart_of_isUpper {c : Char} (h : c.isUpper = true) :
    Text.Identifier.isStart c = true := by
  have hascii := Text.toNat_lt_of_isAlphanum (Text.isAlphanum_of_isUpper h)
  exact Text.forall_ascii (p := fun c => c.isUpper = true → Text.Identifier.isStart c = true)
    (by decide) hascii h

/-- The only reserved word that begins with a capital. -/
theorem eq_of_mem_reserved (h : t ∈ Text.Identifier.reserved)
    (hupper : ∃ c ∈ t.head?, c.isUpper = true) : t = "Self" := by
  have hall : ∀ w ∈ Text.Identifier.reserved,
      (w.head?.any fun c => c.isUpper) = true → w = "Self" := by
    decide
  apply hall t h
  obtain ⟨c, hc, hupper⟩ := hupper
  rw [Option.mem_def.mp hc]
  exact hupper

/-- Letters and digits have no blanks around them. -/
theorem strip_eq_self (h : ∀ c ∈ t, c.isAlphanum = true) : Text.strip t = t := by
  apply Text.trimBy_eq_self
  constructor
  · exact fun c hc => (isContinue_of_isAlphanum (h c (List.mem_of_mem_head? hc))).2.1
  · exact fun c hc => (isContinue_of_isAlphanum (h c (List.mem_of_getLast? hc))).2.1

/-- **A name in capitals is an identifier**, unless it is the reserved word. -/
theorem isWellNamed_of_isCapitalized (h : IsCapitalized t) (hself : t ≠ "Self") :
    isWellNamed t = true := by
  obtain ⟨⟨c, hc, hupper⟩, hall⟩ := h
  rw [isWellNamed, strip_eq_self hall, Text.Identifier.isNameOrUnderscore, Bool.and_eq_true]
  refine ⟨?_, ?_⟩
  · cases t with
    | nil => exact absurd hc (Option.not_mem_none c)
    | cons first rest =>
        obtain rfl : first = c := Option.some.inj hc
        obtain ⟨-, hrest⟩ := List.forall_mem_cons.mp hall
        simp only [Text.Identifier.isWord, isStart_of_isUpper hupper, Bool.true_and,
          List.all_eq_true]
        exact fun d hd => (isContinue_of_isAlphanum (hrest d hd)).1
  · have hfree : t ∉ Text.Identifier.reserved := fun hmem =>
      hself (eq_of_mem_reserved hmem ⟨c, hc, hupper⟩)
    simpa using hfree

/-- A name in capitals is an identifier, or it is that word. -/
theorem isNameOrSelf_of_isCapitalized (h : IsCapitalized t) : IsNameOrSelf t := by
  by_cases hself : t = "Self"
  · exact .inr (by rw [strip_eq_self h.all, hself])
  · exact .inl (isWellNamed_of_isCapitalized h hself)

/-! ## Names that are read off their form in capitals -/

/-- The property is called by a hyphenated name, and its keywords have small letters, digits and
hyphens only. -/
structure IsKebab (property : Property) : Prop where
  name : IsHyphenated property.name
  keywords : ∀ keyword ∈ property.keywords, ∀ c ∈ keyword, isKebabChar c = true

variable {property : Property} {spec : Spec} {module : Text}

/-- The constant of a property, like every name that is made of such names, begins with a
capital. -/
theorem isCapitalized_constant (h : IsKebab property) :
    IsCapitalized (Naming.constant property.name) :=
  Naming.isCapitalized_pascalCase h.name

/-- A name in capitals with letters and digits behind it is one still. -/
theorem isCapitalized_append {suffix : Text} (h : IsCapitalized t)
    (hsuffix : ∀ c ∈ suffix, c.isAlphanum = true) : IsCapitalized (t ++ suffix) where
  head := by
    obtain ⟨c, hc, hupper⟩ := h.head
    refine ⟨c, ?_, hupper⟩
    rw [List.head?_append, Option.mem_def.mp hc]
    rfl
  all := by
    intro c hc
    rcases List.mem_append.mp hc with hfront | hback
    · exact h.all c hfront
    · exact hsuffix c hback

theorem isCapitalized_keywordType (h : IsKebab property) :
    IsCapitalized (Naming.keywordType property.name) :=
  isCapitalized_append (isCapitalized_constant h) (Text.forall_mem_of_all (by decide))

/-- So does the constant of each of its keywords. -/
theorem isCapitalized_keywordConstant (h : IsKebab property) {keyword : Text}
    (hmem : keyword ∈ property.keywords) :
    IsCapitalized (Naming.keywordConstant property.name keyword) :=
  isCapitalized_append (isCapitalized_keywordType h)
    (Naming.isAlphanum_of_mem_pascalCase (h.keywords keyword hmem))

theorem isCapitalized_setter (h : IsKebab property) :
    IsCapitalized (Naming.setter property.name) :=
  isCapitalized_append ⟨⟨'S', rfl, rfl⟩, Text.forall_mem_of_all (by decide)⟩
    (isCapitalized_constant h).all

/-- **Everything that an artifact defines has a name in capitals.** -/
theorem isCapitalized_of_mem_defined (h : ∀ property ∈ spec.properties, IsKebab property)
    (artifact : Artifact) : ∀ name ∈ artifact.defined spec, IsCapitalized name := by
  intro name hname
  cases artifact with
  | properties =>
      obtain ⟨property, hproperty, rfl⟩ := List.mem_map.mp hname
      exact isCapitalized_constant (h property hproperty)
  | keywords =>
      obtain ⟨property, hproperty, hmem⟩ := List.mem_flatMap.mp hname
      have hkebab := h property (List.mem_filter.mp hproperty).1
      rcases List.mem_cons.mp hmem with rfl | hkeyword
      · exact isCapitalized_keywordType hkebab
      · obtain ⟨keyword, hin, rfl⟩ := List.mem_map.mp hkeyword
        exact isCapitalized_keywordConstant hkebab hin
  | setters =>
      obtain ⟨property, hproperty, rfl⟩ := List.mem_map.mp hname
      exact isCapitalized_setter (h property (List.mem_filter.mp hproperty).1)

/-- The names that an artifact uses are defined by the other ones. -/
theorem mem_defined_of_mem_used {name : Text} {artifact : Artifact}
    (h : name ∈ artifact.used spec) : ∃ other : Artifact, name ∈ other.defined spec := by
  cases artifact with
  | properties => exact absurd h List.not_mem_nil
  | keywords => exact absurd h List.not_mem_nil
  | setters =>
      obtain ⟨property, hproperty, hmem⟩ := List.mem_flatMap.mp h
      rcases List.mem_cons.mp hmem with rfl | hconstant
      · exact ⟨.keywords, List.mem_flatMap.mpr ⟨property, hproperty, List.mem_cons_self⟩⟩
      · obtain rfl := List.mem_singleton.mp hconstant
        exact ⟨.properties, List.mem_map_of_mem (List.mem_filter.mp hproperty).1⟩

/-- What an artifact defines or uses, some artifact defines. -/
theorem mem_defined_of_mem {name : Text} {artifact : Artifact}
    (h : name ∈ artifact.defined spec ++ artifact.used spec) :
    ∃ other : Artifact, name ∈ other.defined spec := by
  rcases List.mem_append.mp h with hdefined | hused
  · exact ⟨artifact, hdefined⟩
  · exact mem_defined_of_mem_used hused

/-! ## Comments -/

/-- Letters and digits stay on their line. -/
theorem isOneLine_of_isAlphanum (h : ∀ c ∈ t, c.isAlphanum = true) : isOneLine t = true := by
  refine List.all_eq_true.mpr fun c hc => ?_
  obtain ⟨-, -, hline, hreturn⟩ := isContinue_of_isAlphanum (h c hc)
  simp [hline, hreturn]

/-- So do small letters, digits and hyphens. -/
theorem isOneLine_of_isKebabChar (h : ∀ c ∈ t, isKebabChar c = true) : isOneLine t = true :=
  List.all_eq_true.mpr fun c hc => Naming.forall_isKebabChar
    (p := fun c => (c != '\n' && c != '\r') = true) (by decide) (h c hc)

/-- The comments of an artifact stay on their lines, as the names in them do. -/
theorem isOneLine_of_mem_notes (h : ∀ property ∈ spec.properties, IsKebab property)
    (hmodule : isOneLine module = true) (artifact : Artifact) :
    ∀ note ∈ artifact.notes spec module, isOneLine note = true := by
  have hname : ∀ property, IsKebab property → isOneLine property.name = true :=
    fun property hkebab =>
      isOneLine_of_isKebabChar (Naming.isKebabChar_of_isHyphenated hkebab.name)
  intro note hnote
  rcases List.mem_cons.mp hnote with rfl | hmore
  · exact isOneLine_moduleNote hmodule artifact
  · cases artifact with
    | properties => exact absurd hmore List.not_mem_nil
    | keywords =>
        obtain ⟨property, hproperty, rfl⟩ := List.mem_map.mp hmore
        have hkebab := h property (List.mem_filter.mp hproperty).1
        simp only [typeNote, isOneLine_append, hname property hkebab,
          isOneLine_of_isAlphanum (isCapitalized_keywordType hkebab).all]
        decide
    | setters =>
        obtain ⟨property, hproperty, rfl⟩ := List.mem_map.mp hmore
        have hkebab := h property (List.mem_filter.mp hproperty).1
        exact isOneLine_setterNote (hname property hkebab)
          (isOneLine_of_isAlphanum (isCapitalized_setter hkebab).all)

/-! ## Definitions -/

/-- Even where a property is called `self`, nothing but names is pasted. -/
theorem pastesNames_of_isKebab (h : ∀ property ∈ spec.properties, IsKebab property)
    (artifact : Artifact) : artifact.PastesNames spec where
  notes := isOneLine_of_mem_notes h rfl artifact
  names name hname := by
    obtain ⟨other, hother⟩ := mem_defined_of_mem hname
    exact isNameOrSelf_of_isCapitalized (isCapitalized_of_mem_defined h other name hother)

/-- Names in capitals are defined as they are pasted. -/
theorem identifiers_eq_defined (h : ∀ property ∈ spec.properties, IsKebab property)
    (artifact : Artifact) : artifact.identifiers spec = artifact.defined spec := by
  have hstrip : ∀ name ∈ artifact.defined spec, Text.strip name = id name := fun name hname =>
    strip_eq_self (isCapitalized_of_mem_defined h artifact name hname).all
  rw [identifiers, List.map_congr_left hstrip, List.map_id]

/-- **Different names have different constants and setters.** -/
theorem nodup_defined (h : ∀ property ∈ spec.properties, IsKebab property)
    (hnames : (spec.properties.map Property.name).Nodup) {artifact : Artifact}
    (hartifact : artifact ≠ .keywords) : (artifact.defined spec).Nodup := by
  have hname : ∀ a ∈ spec.properties, ∀ b ∈ spec.properties,
      Naming.constant a.name = Naming.constant b.name → a = b := by
    intro a ha b hb heq
    exact List.inj_on_of_nodup_map hnames ha hb
      (Naming.eq_of_pascalCase_eq (h a ha).name (h b hb).name heq)
  have hproperties := hnames.of_map
  cases artifact with
  | properties => exact hproperties.map_on hname
  | keywords => exact absurd rfl hartifact
  | setters =>
      apply (hproperties.filter _).map_on
      intro a ha b hb heq
      exact hname a (List.mem_filter.mp ha).1 b (List.mem_filter.mp hb).1
        (List.append_cancel_left heq)

end TypedStyle.Artifact
