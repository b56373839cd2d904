import TypedStyle.Proofs.Artifact.Capitals
import TypedStyle.Proofs.Artifact.Modules
import TypedStyle.Proofs.Artifact.Progress
/-!
# Names that are told apart

The constant of a keyword has the names of its property and of itself in capitals, with `Val` in
between and nothing else.  If no piece of the property's name is `val`, the first piece that is
`val`, or else the last one with a number in it, tells where the keyword begins.  So where
properties have different names, and a property different keywords, no name is defined twice.

* `eq_of_keywordConstant_eq` — property and keyword are read off the name of the constant;
* `check_ne_duplicate` — no artifact is refused for a name that is defined twice.
-/

namespace TypedStyle.Artifact

open Naming (IsHyphenated pascalCase hyphenate isKebabChar)

variable {spec : Spec} {property : Property} {name other keyword : Text}

/-! ## Where a keyword begins -/

/-- Is the text made of digits only? -/
def isNumeral (t : Text) : Bool :=
  t.all Char.isDigit

/-- What stands behind the hyphens and the name of the property: the mark, and the keyword, which
follows at once if it is a number.  The type of all keywords is called as if it were a number
without digits. -/
def markedPieces (keyword : Text) : List Text :=
  if isNumeral keyword then ["val" ++ keyword] else "val" :: Text.splitOn '-' keyword

/-- The keyword is a number, or it is a hyphenated name. -/
def IsPlainKeyword (keyword : Text) : Prop :=
  isNumeral keyword = true ∨ IsHyphenated keyword

/-- **The pieces of a constant's name** are those of its property's, the mark and its keyword. -/
theorem splitOn_keywordConstant (hname : IsHyphenated name) (hkeyword : IsPlainKeyword keyword) :
    Text.splitOn '-' ((Naming.keywordConstant name keyword).flatMap hyphenate) =
      [] :: (Text.splitOn '-' name ++ markedPieces keyword) := by
  have hmark : (Text.ofString "Val").flatMap hyphenate = '-' :: Text.ofString "val" := by decide
  have hval : Text.splitOn '-' "val" = ["val"] := by decide
  have hpieces : Text.splitOn '-' ("val" ++ (pascalCase keyword).flatMap hyphenate) =
      markedPieces keyword := by
    rcases hkeyword with hnumeral | hhyphenated
    · have hdigits : ∀ c ∈ keyword, c.isDigit = true := List.all_eq_true.mp hnumeral
      have hhyphen : '-' ∉ Text.ofString "val" ++ keyword := by
        have hnot : '-' ∉ keyword := fun hmem => absurd (hdigits _ hmem) (by decide)
        simp [Text.ofString, hnot]
      rw [Naming.pascalCase_of_isDigit hdigits,
        Naming.flatMap_hyphenate_of_not_isUpper fun c hc =>
          Naming.not_isUpper_of_isDigit (hdigits c hc),
        Text.splitOn_of_not_mem hhyphen, markedPieces, if_pos hnumeral]
    · have hnumeral : isNumeral keyword ≠ true := by
        intro hnumeral
        have hdigits : ∀ c ∈ keyword, c.isDigit = true := List.all_eq_true.mp hnumeral
        obtain ⟨c, hc, hupper⟩ := (Naming.isCapitalized_pascalCase hhyphenated).head
        rw [Naming.pascalCase_of_isDigit hdigits] at hc
        rw [Naming.not_isUpper_of_isDigit (hdigits c (List.mem_of_mem_head? hc))] at hupper
        contradiction
      rw [Naming.flatMap_hyphenate_pascalCase hhyphenated, Text.splitOn_append, hval,
        markedPieces, if_neg hnumeral]
      rfl
  rw [Naming.keywordConstant, Naming.keywordType, Naming.keywordSuffix, List.flatMap_append,
    List.flatMap_append, Naming.flatMap_hyphenate_pascalCase hname, hmark, List.append_assoc,
    List.cons_append, List.cons_append, Text.splitOn, if_pos rfl, Text.splitOn_append, hpieces]

/-- The first occurrence of an item tells what stands in front of it and behind it. -/
theorem append_cons_inj {α : Type} [DecidableEq α] {a b s t : List α} {x : α} (ha : x ∉ a)
    (hb : x ∉ b) (h : a ++ x :: s = b ++ x :: t) : a = b ∧ s = t := by
  have hlength : a.length = b.length := by
    have hindex := congrArg (List.idxOf x) h
    simpa [List.idxOf_append_of_notMem, ha, hb] using hindex
  obtain ⟨rfl, htail⟩ := List.append_inj h hlength
  exact ⟨rfl, (List.cons.inj htail).2⟩

/-- The last item is not in front of another one. -/
theorem mem_of_append_singleton {α : Type} {a b t : List α} {x y : α} (ht : t ≠ [])
    (h : a ++ [x] = b ++ y :: t) : y ∈ a := by
  obtain ⟨front, last, rfl⟩ := (List.eq_nil_or_concat t).resolve_left ht
  have hsplit : a ++ [x] = (b ++ y :: front) ++ [last] := by simpa using h
  obtain ⟨rfl, -⟩ := List.append_inj' hsplit rfl
  simp

/-- **The mark is found**: it is the first piece that is `val`, unless a number stands behind it,
and then it is the last. -/
theorem eq_of_markedPieces {a b : List Text} (ha : Text.ofString "val" ∉ a)
    (hb : Text.ofString "val" ∉ b) (h : a ++ markedPieces keyword = b ++ markedPieces other) :
    a = b ∧ keyword = other := by
  have hne : ∀ t, Text.splitOn '-' t ≠ [] := Text.splitOn_ne_nil '-'
  unfold markedPieces at h
  split_ifs at h
  · obtain ⟨rfl, hlast⟩ := List.append_inj' h rfl
    exact ⟨rfl, List.append_cancel_left (List.cons.inj hlast).1⟩
  · exact absurd (mem_of_append_singleton (hne other) h) ha
  · exact absurd (mem_of_append_singleton (hne keyword) h.symm) hb
  · obtain ⟨rfl, hpieces⟩ := append_cons_inj ha hb h
    exact ⟨rfl, Text.eq_of_splitOn_eq hpieces⟩

/-- **Property and keyword are read off the name of the constant.** -/
theorem eq_of_keywordConstant_eq {otherKeyword : Text} (hname : IsHyphenated name)
    (hother : IsHyphenated other) (hval : Text.ofString "val" ∉ Text.splitOn '-' name)
    (hotherVal : Text.ofString "val" ∉ Text.splitOn '-' other) (hkeyword : IsPlainKeyword keyword)
    (hotherKeyword : IsPlainKeyword otherKeyword)
    (h : Naming.keywordConstant name keyword = Naming.keywordConstant other otherKeyword) :
    name = other ∧ keyword = otherKeyword := by
  have hpieces := congrArg (fun t => Text.splitOn '-' (t.flatMap hyphenate)) h
  rw [splitOn_keywordConstant hname hkeyword, splitOn_keywordConstant hother hotherKeyword]
    at hpieces
  obtain ⟨hnames, hkeywords⟩ := eq_of_markedPieces hval hotherVal (List.cons.inj hpieces).2
  exact ⟨Text.eq_of_splitOn_eq hnames, hkeywords⟩

/-! ## No name is defined twice -/

/-- The name of the property has pieces, none of which is `val`; and its keywords are different
numbers and hyphenated names. -/
structure IsUnambiguous (property : Property) : Prop where
  name : IsHyphenated property.name
  noVal : Text.ofString "val" ∉ Text.splitOn '-' property.name
  keywords : ∀ keyword ∈ property.keywords,
    (keyword ≠ [] ∧ ∀ c ∈ keyword, c.isDigit = true) ∨ IsHyphenated keyword
  nodup : property.keywords.Nodup

/-- Whether a property is unambiguous can be found out by looking at its names. -/
theorem isUnambiguous_iff {property : Property} :
    (IsHyphenated property.name ∧ (Text.splitOn '-' property.name).contains "val" = false ∧
      (∀ keyword ∈ property.keywords,
        (keyword ≠ [] ∧ keyword.all Char.isDigit = true) ∨ IsHyphenated keyword) ∧
      property.keywords.Nodup) ↔ IsUnambiguous property := by
  simp only [List.all_eq_true, List.contains_eq_mem, decide_eq_false_iff_not]
  exact ⟨fun ⟨hname, hval, hkeywords, hnodup⟩ => ⟨hname, hval, hkeywords, hnodup⟩,
    fun ⟨hname, hval, hkeywords, hnodup⟩ => ⟨hname, hval, hkeywords, hnodup⟩⟩

instance (property : Property) : Decidable (IsUnambiguous property) :=
  decidable_of_iff _ isUnambiguous_iff

/-- An unambiguous property is made of letters, digits and hyphens. -/
theorem IsUnambiguous.isKebab (h : IsUnambiguous property) : IsKebab property := by
  refine ⟨h.name, fun keyword hkeyword => ?_⟩
  rcases h.keywords keyword hkeyword with ⟨-, hdigits⟩ | hhyphenated
  · exact fun c hc => by simp [isKebabChar, hdigits c hc]
  · exact Naming.isKebabChar_of_isHyphenated hhyphenated

/-- The names of a property's type and of the constants of its keywords: that of the type comes from
no keyword at all. -/
def typeAndKeywords (property : Property) : List Text :=
  [] :: property.keywords

/-- The keywords define, for each property, its type and the constants of its keywords. -/
theorem defined_keywords (spec : Spec) : keywords.defined spec =
    spec.keywordProperties.flatMap fun p =>
      (typeAndKeywords p).map (Naming.keywordConstant p.name) := by
  have htype : ∀ name, Naming.keywordConstant name [] = Naming.keywordType name := by
    intro name
    simp [Naming.keywordConstant, Naming.keywordSuffix, pascalCase, Text.splitOn, Naming.capitalize]
  simp [defined, typeAndKeywords, htype]

/-- Each keyword of an unambiguous property is plain, and so is the empty one that stands for its
type. -/
theorem IsUnambiguous.isPlainKeyword (h : IsUnambiguous property)
    (hkeyword : keyword ∈ typeAndKeywords property) : IsPlainKeyword keyword := by
  rcases List.mem_cons.mp hkeyword with rfl | hin
  · exact .inl rfl
  · exact (h.keywords keyword hin).imp_left fun hnumeral => List.all_eq_true.mpr hnumeral.2

/-- None of them occurs twice. -/
theorem IsUnambiguous.nodup_typeAndKeywords (h : IsUnambiguous property) :
    (typeAndKeywords property).Nodup := by
  refine List.nodup_cons.mpr ⟨fun hempty => ?_, h.nodup⟩
  rcases h.keywords [] hempty with ⟨hne, -⟩ | hhyphenated
  · exact hne rfl
  · exact absurd hhyphenated (by decide)

/-- **Different keywords have different constants**, and so have those of different properties. -/
theorem nodup_defined_keywords (h : ∀ property ∈ spec.properties, IsUnambiguous property)
    (hnames : (spec.properties.map Property.name).Nodup) : (keywords.defined spec).Nodup := by
  have hproperty : ∀ property ∈ spec.keywordProperties, IsUnambiguous property :=
    fun property hproperty => h property (List.mem_filter.mp hproperty).1
  have hpairs : spec.keywordProperties.Pairwise (·.name ≠ ·.name) :=
    (List.pairwise_map.mp hnames).filter _
  have heq : ∀ {a b keyword other}, a ∈ spec.keywordProperties → b ∈ spec.keywordProperties →
      keyword ∈ typeAndKeywords a → other ∈ typeAndKeywords b →
      Naming.keywordConstant a.name keyword = Naming.keywordConstant b.name other →
      a.name = b.name ∧ keyword = other := by
    intro a b keyword other ha hb hkeyword hother
    have ha := hproperty a ha
    have hb := hproperty b hb
    exact eq_of_keywordConstant_eq ha.name hb.name ha.noVal hb.noVal (ha.isPlainKeyword hkeyword)
      (hb.isPlainKeyword hother)
  rw [defined_keywords, List.nodup_flatMap]
  constructor
  · intro property hin
    exact (hproperty property hin).nodup_typeAndKeywords.map_on fun a ha b hb hsame =>
      (heq hin hin ha hb hsame).2
  · refine hpairs.imp_of_mem fun {a b} ha hb hne name hfirst hsecond => ?_
    obtain ⟨keyword, hkeyword, rfl⟩ := List.mem_map.mp hfirst
    obtain ⟨other, hother, hsame⟩ := List.mem_map.mp hsecond
    exact hne (heq hb ha hother hkeyword hsame).1.symm

/-- **Artifacts of unambiguous properties define no name twice**, for any number of properties and
keywords.  Let the properties have different names of pieces with hyphens between them, each a small
letter with small letters and digits behind it and none of them `val`; and let each property have
different keywords, each a number or such a name, with any pieces.  Then for every module no
artifact is refused for a name that is defined twice, and emitting never fails for that. -/
theorem check_ne_duplicate (h : ∀ property ∈ spec.properties, IsUnambiguous property)
    (hnames : (spec.properties.map Property.name).Nodup) (artifact : Artifact)
    (module name : Text) :
    artifact.check spec module ≠ .error (.duplicate name) ∧
      ∀ out clock tree, ((spec.emit out module).run clock tree).1 ≠
        .error (.duplicate artifact name) := by
  have hkebab : ∀ property ∈ spec.properties, IsKebab property := fun property hproperty =>
    (h property hproperty).isKebab
  have hnodup : (artifact.defined spec).Nodup := by
    by_cases hartifact : artifact = .keywords
    · rw [hartifact]
      exact nodup_defined_keywords h hnames
    · exact nodup_defined hkebab hnames hartifact
  have hcheck : artifact.check spec module ≠ .error (.duplicate name) := by
    intro hrefused
    obtain ⟨names, hdefinitions, hrepeated⟩ := exists_of_check_duplicate hrefused
    have hidentifiers := eq_identifiers_of_definitions? (pastesNames_of_isKebab hkebab artifact)
      hdefinitions
    rw [hidentifiers, identifiers_eq_defined hkebab, firstRepeated_eq_none_iff.mpr hnodup]
      at hrepeated
    contradiction
  exact ⟨hcheck, fun out clock tree hrun => hcheck (check_of_run_failure (.duplicate _) hrun).1⟩

/-- Properties that look alike, with keywords that do. -/
def lookalikes : Spec where
  version := "1"
  properties := [⟨"a", ["1", "x", "val", "val-b"], "", .standard⟩,
    ⟨"a-val1", ["val", "11"], "", .standard⟩, ⟨"self", ["a", "a1"], "", .standard⟩]

/-- None of their names is defined twice. -/
theorem check_lookalikes :
    (∀ property ∈ lookalikes.properties, IsUnambiguous property) ∧
      (lookalikes.properties.map Property.name).Nodup ∧ ∀ (artifact : Artifact) (name : Text),
        artifact.check lookalikes "css" ≠ .error (.duplicate name) := by
  have hproperties : ∀ property ∈ lookalikes.properties, IsUnambiguous property := by decide
  have hnames : (lookalikes.properties.map Property.name).Nodup := by decide
  exact ⟨hproperties, hnames, fun artifact name =>
    (check_ne_duplicate hproperties hnames artifact "css" name).1⟩

end TypedStyle.Artifact
