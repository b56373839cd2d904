import TypedStyle.Proofs.Artifact.Lines
/-!
# Artifacts are read back

Where the names in a spec have no blanks, its artifacts list what the spec has, in its order, and
nothing else: the properties, the keywords of each property that has some, and a setter for it.

* `propertyListing?_lines`, `typeGroups?_blocks`, `setters?_blocks` — what is read from the lines;
* `listings_render` — what is read from the artifacts.
-/

namespace TypedStyle.Artifact

variable {artifact : Artifact} {spec : Spec} {property : Property} {module timestamp t line : Text}
  {lines skipped rest : List Text} {listed : List Property}

/-- What the line of a property says. -/
def constantOf (property : Property) : Constant :=
  ⟨Naming.constant property.name, "Property", property.name⟩

/-- What the line of a keyword says. -/
def keywordOf (property : Property) (keyword : Text) : Constant :=
  ⟨Naming.keywordConstant property.name keyword, Naming.keywordType property.name, keyword⟩

/-- What the block of a type says. -/
def typeOf (property : Property) : Text × List Constant :=
  (Naming.keywordType property.name, property.keywords.map (keywordOf property))

/-- What the lines of its setter say. -/
def setterOf (property : Property) : Setter :=
  ⟨Naming.setter property.name, Naming.keywordType property.name, Naming.constant property.name⟩

/-! ## Lines that are passed over -/

/-- A line that is not public does not begin with a public word of any kind. -/
theorem isPrefixOf_of_not_isPublic (h : isPublic line = false) (word : Text) :
    (Text.ofString "pub " ++ word).isPrefixOf line = false := by
  rw [Bool.eq_false_iff, ne_eq, List.isPrefixOf_iff_prefix]
  intro hprefix
  rw [isPublic, Bool.eq_false_iff, ne_eq, List.isPrefixOf_iff_prefix] at h
  exact h ((List.prefix_append _ word).trans hprefix)

/-- The words that definitions begin with. -/
theorem definition_words : Text.ofString "pub const " = Text.ofString "pub " ++ "const " ∧
    Text.ofString "pub struct " = Text.ofString "pub " ++ "struct " ∧
    Text.ofString "pub fn " = Text.ofString "pub " ++ "fn " := by
  decide

/-- So a reader that looks for constants passes over lines that are not public. -/
theorem filter_skipped (h : ∀ line ∈ skipped, isPublic line = false) :
    skipped.filter (fun line => (Text.ofString "pub const ").isPrefixOf line) = [] := by
  rw [definition_words.1, List.filter_eq_nil_iff]
  intro line hline
  simp [isPrefixOf_of_not_isPublic (h line hline)]

/-- So does the reader of keyword types. -/
theorem typeGroups?_skipped (h : ∀ line ∈ skipped, isPublic line = false) (rest : List Text) :
    typeGroups? (skipped ++ rest) = typeGroups? rest := by
  obtain ⟨hconst, hstruct, -⟩ := definition_words
  induction skipped with
  | nil => rfl
  | cons line skipped ih =>
      obtain ⟨hline, hskipped⟩ := List.forall_mem_cons.mp h
      rw [List.cons_append, typeGroups?, ih hskipped, hconst, hstruct,
        isPrefixOf_of_not_isPublic hline, isPrefixOf_of_not_isPublic hline]
      cases typeGroups? rest <;> rfl

/-- And so does the reader of setters. -/
theorem setters?_skipped (h : ∀ line ∈ skipped, isPublic line = false) (rest : List Text) :
    setters? (skipped ++ rest) = setters? rest := by
  induction skipped with
  | nil => rfl
  | cons line skipped ih =>
      obtain ⟨hline, hskipped⟩ := List.forall_mem_cons.mp h
      rw [List.cons_append, setters?, ih hskipped, definition_words.2.2,
        isPrefixOf_of_not_isPublic hline]
      cases setters? rest <;> rfl

/-! ## Definitions -/

/-- **The lines of the properties are read.** -/
theorem propertyListing?_lines (h : ∀ property ∈ listed, HasUnbrokenNames property)
    (hskipped : ∀ line ∈ skipped, isPublic line = false)
    (hlines : Text.splitOn '\n' t = skipped ++ (listed.map lineOfProperty ++ [[]])) :
    propertyListing? t = some (listed.map constantOf) := by
  have hprefix : ∀ property, (Text.ofString "pub const ").isPrefixOf (lineOfProperty property) =
      true := fun _ => rfl
  have hread : ∀ property ∈ listed, constant? (fun _ => "Property::new")
      (lineOfProperty property) = some (constantOf property) := fun property hproperty =>
    constant?_constantWords (h property hproperty).constant ⟨by decide, by decide⟩
      ⟨by decide, by decide⟩ (h property hproperty).name
  have hfilter : (listed.map lineOfProperty).filter
      (fun line => (Text.ofString "pub const ").isPrefixOf line) = listed.map lineOfProperty :=
    List.filter_eq_self.mpr (by simpa using fun property _ => hprefix property)
  rw [propertyListing?, hlines, List.filter_append, filter_skipped hskipped, List.filter_append,
    hfilter, List.nil_append]
  show (listed.map lineOfProperty ++ []).mapM _ = _
  rw [List.append_nil]
  clear hlines hfilter
  induction listed with
  | nil => rfl
  | cons property listed ih =>
      obtain ⟨-, hproperties⟩ := List.forall_mem_cons.mp h
      obtain ⟨hproperty, hreads⟩ := List.forall_mem_cons.mp hread
      rw [List.map_cons, List.mapM_cons, hproperty, ih hproperties hreads]
      rfl

/-- The line of a keyword is read. -/
theorem typeGroups?_keyword {keyword : Text} {loose : List Constant}
    {types : List (Text × List Constant)} (h : HasUnbrokenNames property)
    (hkeyword : keyword ∈ property.keywords) (hrest : typeGroups? rest = some (loose, types)) :
    typeGroups? (lineOfKeyword property keyword :: rest) =
      some (keywordOf property keyword :: loose, types) := by
  have hread : constant? id (lineOfKeyword property keyword) = some (keywordOf property keyword) :=
    constant?_constantWords (h.keywordConstant hkeyword) h.keywordType h.keywordType
      (h.keywords keyword hkeyword)
  rw [typeGroups?, hrest]
  show (constant? id (lineOfKeyword property keyword)).bind _ = _
  rw [hread]
  rfl

/-- The line of a type takes the constants behind it. -/
theorem typeGroups?_type {loose : List Constant} {types : List (Text × List Constant)}
    (h : HasUnbrokenNames property) (hrest : typeGroups? rest = some (loose, types)) :
    typeGroups? (lineOfType property :: rest) =
      some ([], (Naming.keywordType property.name, loose) :: types) := by
  have hread : type? (lineOfType property) = some (Naming.keywordType property.name) :=
    type?_typeWords h.keywordType
  rw [typeGroups?, hrest]
  show (type? (lineOfType property)).bind _ = _
  rw [hread]
  rfl

/-- **The block of a type is read.** -/
theorem typeGroups?_block {types : List (Text × List Constant)} (h : HasUnbrokenNames property)
    (hrest : typeGroups? rest = some ([], types)) :
    typeGroups? (linesOfKeywords property ++ rest) = some ([], typeOf property :: types) := by
  have hkeywords : ∀ keywords ⊆ property.keywords,
      typeGroups? (keywords.map (lineOfKeyword property) ++ rest) =
        some (keywords.map (keywordOf property), types) := by
    intro keywords hsubset
    induction keywords with
    | nil => exact hrest
    | cons keyword keywords ih =>
        obtain ⟨hkeyword, hkeywords⟩ := List.cons_subset.mp hsubset
        exact typeGroups?_keyword h hkeyword (ih hkeywords)
  have hnotes : ∀ line ∈ linesInFrontOfType property, isPublic line = false := by
    simp only [linesInFrontOfType, List.forall_mem_cons]
    exact ⟨rfl, rfl, rfl, List.forall_mem_nil _⟩
  have hbehind : ∀ line ∈ linesBehindType (Naming.keywordType property.name),
      isPublic line = false := by
    simp only [linesBehindType, List.forall_mem_cons]
    exact ⟨rfl, rfl, rfl, rfl, rfl, rfl, rfl, rfl, rfl, rfl, rfl, rfl, rfl, List.forall_mem_nil _⟩
  have htype := typeGroups?_type h
    ((typeGroups?_skipped hbehind _).trans (hkeywords property.keywords (List.Subset.refl _)))
  rw [← typeGroups?_skipped hnotes] at htype
  simpa only [linesOfKeywords, linesOfType, typeOf, List.cons_append, List.append_assoc]
    using htype

/-- **The keyword types are read off their blocks**, each with its keywords in order. -/
theorem typeGroups?_blocks (h : ∀ property ∈ listed, HasUnbrokenNames property) :
    typeGroups? (listed.flatMap linesOfKeywords ++ [[]]) =
      some ([], listed.map typeOf) := by
  induction listed with
  | nil => rfl
  | cons property listed ih =>
      obtain ⟨hproperty, hproperties⟩ := List.forall_mem_cons.mp h
      rw [List.flatMap_cons, List.append_assoc]
      exact typeGroups?_block hproperty (ih hproperties)

/-- **The block of a setter is read.** -/
theorem setters?_block {setters : List Setter} (h : HasUnbrokenNames property)
    (hrest : setters? rest = some setters) :
    setters? (linesOfSetter property ++ rest) = some (setterOf property :: setters) := by
  have hread : setter? (lineOfSetter property) (lineOfCall property) "\x7d" =
      some (setterOf property) :=
    setter?_setterWords h.setter h.keywordType h.constant
  have hnotes : ∀ line ∈ [Text.ofString "", "/// " ++ setterNote property],
      isPublic line = false := by
    simp only [List.forall_mem_cons]
    exact ⟨rfl, rfl, List.forall_mem_nil _⟩
  have hbody : ∀ line ∈ [lineOfCall property, Text.ofString "\x7d"], isPublic line = false := by
    simp only [List.forall_mem_cons]
    exact ⟨rfl, rfl, List.forall_mem_nil _⟩
  have hsetter : setters? (lineOfSetter property :: lineOfCall property :: "\x7d" :: rest) =
      some (setterOf property :: setters) := by
    rw [setters?]
    show (setters? ([lineOfCall property, Text.ofString "\x7d"] ++ rest)).bind _ = _
    rw [setters?_skipped hbody, hrest]
    show (setter? (lineOfSetter property) (lineOfCall property) "\x7d").bind _ = _
    rw [hread]
    rfl
  rw [← setters?_skipped hnotes] at hsetter
  exact hsetter

/-- **The setters are read off their blocks**, each with its property and its type. -/
theorem setters?_blocks (h : ∀ property ∈ listed, HasUnbrokenNames property) :
    setters? (listed.flatMap linesOfSetter ++ [[]]) = some (listed.map setterOf) := by
  induction listed with
  | nil => rfl
  | cons property listed ih =>
      obtain ⟨hproperty, hproperties⟩ := List.forall_mem_cons.mp h
      rw [List.flatMap_cons, List.append_assoc]
      exact setters?_block hproperty (ih hproperties)

/-! ## Whole artifacts -/

/-- A text without blanks is unbroken. -/
theorem isUnbroken_of_not_isBlank (h : ∀ c ∈ t, Text.isBlank c = false) : IsUnbroken t := by
  have hnot : ∀ c, Text.isBlank c = true → c ∉ t := by
    intro c hblank hmem
    rw [h c hmem] at hblank
    contradiction
  exact ⟨hnot _ (by decide), hnot _ (by decide)⟩

/-- Whether the names have blanks in them can be checked one by one. -/
theorem notBlank_of_all (h : (listed.all fun property =>
      (property.name :: property.keywords).all fun name =>
        name.all fun c => !Text.isBlank c) = true) :
    ∀ property ∈ listed, ∀ name ∈ property.name :: property.keywords, ∀ c ∈ name,
      Text.isBlank c = false := by
  simpa only [List.all_eq_true, Bool.not_eq_true'] using h

/-- An artifact is lines with which no definition begins, and those of its definitions. -/
theorem exists_lines_render (htimestamp : '\n' ∉ timestamp)
    (hmodule : ∀ line ∈ (Text.splitOn '\n' module).tail, isPublic line = false)
    (hbody : LinesOf (artifact.body spec) lines) :
    ∃ front, (∀ line ∈ front, isPublic line = false) ∧
      Text.splitOn '\n' (artifact.render spec module timestamp) = front ++ (lines ++ [[]]) := by
  obtain ⟨front, hfront, hprivate⟩ : IsPrivate (header spec.version timestamp
      ++ artifact.moduleLines module ++ artifact.preamble module) :=
    isPrivate_front htimestamp hmodule
  have hlines := hbody []
  rw [List.append_nil] at hlines
  refine ⟨front, hprivate, ?_⟩
  rw [render, hfront, hlines]
  rfl

/-- **The artifacts list what the spec has, and nothing else.**  Let there be no blanks in names, no
end of a line in the time, and no line of the module's name behind the first that looks like a
definition.  Then the properties that are listed are those of the spec, the types of keywords and
their keywords are those of the properties that have some, and each of these has one setter, which
takes that type and sets that constant. -/
theorem listings_render
    (hnames : ∀ property ∈ spec.properties, ∀ name ∈ property.name :: property.keywords,
      ∀ c ∈ name, Text.isBlank c = false)
    (htimestamp : '\n' ∉ timestamp)
    (hmodule : ∀ line ∈ (Text.splitOn '\n' module).tail, isPublic line = false) :
    propertyListing? (properties.render spec module timestamp) =
        some (spec.properties.map constantOf) ∧
      keywordListing? (keywords.render spec module timestamp) =
        some (spec.keywordProperties.map typeOf) ∧
      setterListing? (setters.render spec module timestamp) =
        some (spec.keywordProperties.map setterOf) := by
  have hunbroken : ∀ property ∈ spec.properties, HasUnbrokenNames property := by
    intro property hproperty
    obtain ⟨hname, hkeywords⟩ := List.forall_mem_cons.mp (hnames property hproperty)
    exact ⟨isUnbroken_of_not_isBlank hname, fun keyword hkeyword =>
      isUnbroken_of_not_isBlank (hkeywords keyword hkeyword)⟩
  have hkeyword : ∀ property ∈ spec.keywordProperties, HasUnbrokenNames property :=
    fun property hproperty => hunbroken property (List.mem_of_mem_filter hproperty)
  refine ⟨?_, ?_, ?_⟩
  · have hbody : LinesOf (properties.body spec) (spec.properties.map lineOfProperty) := by
      rw [← List.flatMap_singleton' (spec.properties.map lineOfProperty), List.flatMap_map]
      exact LinesOf.flatMap fun property hproperty =>
        linesOf_propertyLine (hunbroken property hproperty)
    obtain ⟨front, hfront, hlines⟩ := exists_lines_render htimestamp hmodule hbody
    exact propertyListing?_lines hunbroken hfront hlines
  · have hbody : LinesOf (keywords.body spec) (spec.keywordProperties.flatMap linesOfKeywords) :=
      LinesOf.flatMap fun property hproperty => linesOf_keywordBlock (hkeyword property hproperty)
    obtain ⟨front, hfront, hlines⟩ := exists_lines_render htimestamp hmodule hbody
    rw [keywordListing?, hlines, typeGroups?_skipped hfront, typeGroups?_blocks hkeyword]
  · have hbody : LinesOf (setters.body spec) (spec.keywordProperties.flatMap linesOfSetter) :=
      LinesOf.flatMap fun property hproperty => linesOf_setterBlock (hkeyword property hproperty)
    obtain ⟨front, hfront, hlines⟩ := exists_lines_render htimestamp hmodule hbody
    rw [setterListing?, hlines, setters?_skipped hfront, setters?_blocks hkeyword]

/-- A spec with a version of two lines, and with names that are spelled with escapes. -/
def spelled : Spec where
  version := "1\npub const B: u8 = 0;"
  properties := [⟨"a", ["x\"", "\\"], [], .standard⟩, ⟨"b-c", [], [], .standard⟩]

/-- All of it is read back. -/
theorem listings_spelled :
    (∀ property ∈ spelled.properties, ∀ name ∈ property.name :: property.keywords,
        ∀ c ∈ name, Text.isBlank c = false) ∧
      propertyListing? (properties.render spelled "css // one\n" "now") =
        some (spelled.properties.map constantOf) ∧
      keywordListing? (keywords.render spelled "css // one\n" "now") =
        some (spelled.keywordProperties.map typeOf) ∧
      setterListing? (setters.render spelled "css // one\n" "now") =
        some (spelled.keywordProperties.map setterOf) := by
  have hnames : ∀ property ∈ spelled.properties, ∀ name ∈ property.name :: property.keywords,
      ∀ c ∈ name, Text.isBlank c = false := notBlank_of_all (by decide)
  exact ⟨hnames, listings_render hnames (by decide) (by decide)⟩

/-- A spec with one property. -/
def lonely : Spec where
  version := "1"
  properties := [⟨"a", [], [], .standard⟩]

/-- A name for the module with a comment in it, of which one line could define a property. -/
def commented : Text :=
  "css /*\n/*\npub const Fake: Property = Property::new(\"fake\");\n*/ // */"

/-- The line is in a comment of the artifact, too, and it is listed although it defines nothing. -/
theorem listing_commented :
    isModuleName commented = true ∧
      (∀ artifact : Artifact, artifact.check lonely commented = .ok ()) ∧
      (∀ property ∈ lonely.properties, ∀ name ∈ property.name :: property.keywords,
        ∀ c ∈ name, Text.isBlank c = false) ∧
      lonely.properties.map constantOf = [⟨"A", "Property", "a"⟩] ∧
      propertyListing? (properties.render lonely commented "now") =
        some [⟨"Fake", "Property", "fake"⟩, ⟨"A", "Property", "a"⟩] := by
  have hcheck : ∀ artifact : Artifact, artifact.check lonely commented = .ok () := by
    intro artifact
    cases artifact <;> decide +kernel
  exact ⟨by decide, hcheck, notBlank_of_all (by decide), by decide,
    by decide⟩

end TypedStyle.Artifact
