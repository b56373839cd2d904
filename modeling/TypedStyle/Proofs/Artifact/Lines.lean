import TypedStyle.Proofs.Artifact.Listing
/-!
# Lines of artifacts

The text of an artifact is a list of lines.  Each block of definitions has the lines that are read,
with lines between them that are not; and in front of the definitions no line starts with `pub`,
unless the name of the module brings one in.

* `linesOf_propertyLine`, `linesOf_keywordBlock`, `linesOf_setterBlock` — the lines of the blocks;
* `isPrivate_front` — no definition begins in front of them.
-/

namespace TypedStyle.Artifact

variable {artifact : Artifact} {spec : Spec} {property : Property} {module timestamp t u : Text}
  {lines : List Text}

/-! ## Names -/

/-- No name of the property has an end of a line or a blank in it. -/
structure HasUnbrokenNames (property : Property) : Prop where
  name : IsUnbroken property.name
  keywords : ∀ keyword ∈ property.keywords, IsUnbroken keyword

namespace HasUnbrokenNames

/-- The constant of a property is made of the pieces of its name, so it is unbroken. -/
theorem constant (h : HasUnbrokenNames property) :
    IsUnbroken (Naming.constant property.name) :=
  isUnbroken_pascalCase h.name

theorem keywordType (h : HasUnbrokenNames property) :
    IsUnbroken (Naming.keywordType property.name) :=
  isUnbroken_append.mpr ⟨h.constant, by decide, by decide⟩

theorem setter (h : HasUnbrokenNames property) : IsUnbroken (Naming.setter property.name) :=
  isUnbroken_append.mpr ⟨⟨by decide, by decide⟩, h.constant⟩

/-- The constant of a keyword is made of both names. -/
theorem keywordConstant (h : HasUnbrokenNames property) {keyword : Text}
    (hkeyword : keyword ∈ property.keywords) :
    IsUnbroken (Naming.keywordConstant property.name keyword) :=
  isUnbroken_append.mpr ⟨h.keywordType, isUnbroken_pascalCase (h.keywords keyword hkeyword)⟩

end HasUnbrokenNames

/-! ## Lines of blocks -/

/-- The line that defines a property's constant. -/
def lineOfProperty (property : Property) : Text :=
  List.intercalate [' '] (constantWords (Naming.constant property.name) "Property" "Property::new"
    property.name)

/-- The line that defines the constant of a property's keyword. -/
def lineOfKeyword (property : Property) (keyword : Text) : Text :=
  List.intercalate [' '] (constantWords (Naming.keywordConstant property.name keyword)
    (Naming.keywordType property.name) (Naming.keywordType property.name) keyword)

/-- The line that defines the type of a property's keywords. -/
def lineOfType (property : Property) : Text :=
  List.intercalate [' '] (typeWords (Naming.keywordType property.name))

/-- The lines in front of it. -/
def linesInFrontOfType (property : Property) : List Text :=
  ["", "/// " ++ typeNote property, "#[derive(Debug, Clone, Copy, PartialEq, Eq, Hash)]"]

/-- The lines behind it. -/
def linesBehindType (type : Text) : List Text :=
  ["", "impl " ++ type ++ " \x7b", "    pub const fn as_str(self) -> &'static str \x7b",
    "        self.0", "    \x7d", "\x7d", "", "impl std::fmt::Display for " ++ type ++ " \x7b",
    "    fn fmt(&self, f: &mut std::fmt::Formatter<'_>) -> std::fmt::Result \x7b",
    "        f.write_str(self.0)", "    \x7d", "\x7d", ""]

/-- The lines of the definition of the type of a property's keywords. -/
def linesOfType (property : Property) : List Text :=
  linesInFrontOfType property
    ++ lineOfType property :: linesBehindType (Naming.keywordType property.name)

/-- The lines of the definitions of a property's keywords. -/
def linesOfKeywords (property : Property) : List Text :=
  linesOfType property ++ property.keywords.map (lineOfKeyword property)

/-- The line that declares the setter of a property. -/
def lineOfSetter (property : Property) : Text :=
  List.intercalate [' '] (setterWords (Naming.setter property.name)
    (Naming.keywordType property.name))

/-- The line of its body. -/
def lineOfCall (property : Property) : Text :=
  List.intercalate [' '] (callWords (Naming.constant property.name))

/-- The lines of the definition of a property's setter. -/
def linesOfSetter (property : Property) : List Text :=
  ["", "/// " ++ setterNote property, lineOfSetter property, lineOfCall property, "\x7d"]

/-- The line of a property with its line feed. -/
theorem propertyLine_eq (property : Property) :
    propertyLine property = lineOfProperty property ++ "\n" := by
  simp [propertyLine, lineOfProperty, constantWords, List.intercalate, Text.ofString]

/-- The line of a keyword with its line feed. -/
theorem keywordLine_eq (property : Property) (keyword : Text) :
    keywordLine property keyword = lineOfKeyword property keyword ++ "\n" := by
  simp [keywordLine, lineOfKeyword, constantWords, List.intercalate, Text.ofString]

/-- A literal with the end of a line is the literal without it and the end of the line. -/
theorem ofString_line {s t : String} {line : Text} (ht : t = String.ofList line)
    (hs : s = String.ofList (line ++ ['\n'])) : Text.ofString s = Text.ofString t ++ "\n" := by
  rw [hs, ht, Text.ofString_ofList, Text.ofString_ofList]
  rfl

/-- Each piece of the block of a type ends with its lines. -/
theorem typeBlock_eq (property : Property) :
    "\n" ++ typeBlock property = unlines (linesOfType property) := by
  have hderive : Text.ofString "#[derive(Debug, Clone, Copy, PartialEq, Eq, Hash)]\n" =
      Text.ofString "#[derive(Debug, Clone, Copy, PartialEq, Eq, Hash)]" ++ "\n" :=
    ofString_line rfl rfl
  have hstruct : Text.ofString "pub struct " = "pub" ++ ([' '] ++ ("struct" ++ [' '])) := by decide
  have hfield : Text.ofString "(&'static str);\n\n" =
      "(&'static" ++ ([' '] ++ ("str);" ++ ("\n" ++ ("" ++ "\n")))) := by decide
  have hopening : Text.ofString " \x7b\n" = Text.ofString " \x7b" ++ "\n" := ofString_line rfl rfl
  have hasText : Text.ofString "    pub const fn as_str(self) -> &'static str \x7b\n" =
      Text.ofString "    pub const fn as_str(self) -> &'static str \x7b" ++ "\n" :=
    ofString_line rfl rfl
  have hself : Text.ofString "        self.0\n" = Text.ofString "        self.0" ++ "\n" :=
    ofString_line rfl rfl
  have hinner : Text.ofString "    \x7d\n" = Text.ofString "    \x7d" ++ "\n" :=
    ofString_line rfl rfl
  have hclosing : Text.ofString "\x7d\n\n" = "\x7d" ++ ("\n" ++ ("" ++ "\n")) := by decide
  have hformat :
      Text.ofString
        "    fn fmt(&self, f: &mut std::fmt::Formatter<'_>) -> std::fmt::Result \x7b\n" =
      Text.ofString
        "    fn fmt(&self, f: &mut std::fmt::Formatter<'_>) -> std::fmt::Result \x7b" ++ "\n" :=
    ofString_line rfl rfl
  have hwrite : Text.ofString "        f.write_str(self.0)\n" =
      Text.ofString "        f.write_str(self.0)" ++ "\n" := ofString_line rfl rfl
  have hblank : Text.ofString "" = [] := Text.ofString_ofList []
  unfold typeBlock
  simp only [linesOfType, linesInFrontOfType, lineOfType, linesBehindType, typeWords, hderive,
    hstruct, hfield, hopening, hasText, hself, hinner, hclosing, hformat, hwrite, hblank,
    unlines_cons, unlines_nil, List.cons_append, List.nil_append, List.append_assoc,
    List.intercalate_cons_cons, List.intercalate_singleton, List.append_nil]

/-- **A block of keywords is written line by line.** -/
theorem keywordBlock_eq (property : Property) :
    keywordBlock property = unlines (linesOfKeywords property) := by
  have hkeywords : property.keywords.flatMap (keywordLine property) =
      unlines (property.keywords.map (lineOfKeyword property)) := by
    rw [unlines, List.flatMap_map, ← funext (keywordLine_eq property)]
  rw [keywordBlock, typeBlock_eq, hkeywords, linesOfKeywords, unlines_append]

/-- So is the block of a setter. -/
theorem setterBlock_eq (property : Property) :
    setterBlock property = unlines (linesOfSetter property) := by
  simp only [setterBlock, linesOfSetter, lineOfSetter, lineOfCall, setterWords, callWords,
    unlines_cons, unlines_nil, List.append_assoc, List.intercalate_cons_cons,
    List.intercalate_singleton]
  rfl

/-! ## Ends of lines -/

/-- Words without a line feed stay without one when they are put in a row. -/
theorem not_mem_intercalate {words : List Text} (h : ∀ word ∈ words, '\n' ∉ word) :
    '\n' ∉ List.intercalate [' '] words := by
  induction words with
  | nil => exact List.not_mem_nil
  | cons word words ih =>
      obtain ⟨hword, hwords⟩ := List.forall_mem_cons.mp h
      cases words with
      | nil => simpa using hword
      | cons other words =>
          rw [List.intercalate_cons_cons]
          simp [hword, ih hwords]

/-- The line of a constant does not end between its words. -/
theorem not_mem_constantLine {name type callee text : Text} (hname : IsUnbroken name)
    (htype : IsUnbroken type) (hcallee : IsUnbroken callee) (htext : IsUnbroken text) :
    '\n' ∉ List.intercalate [' '] (constantWords name type callee text) := by
  have hquote := (isUnbroken_quote htext).line
  apply not_mem_intercalate
  simp [constantWords, Text.ofString, hname.line, htype.line, hcallee.line, hquote]

/-- No line of the artifacts has a line feed in it, if the names have none. -/
theorem not_mem_lineOfProperty (h : HasUnbrokenNames property) : '\n' ∉ lineOfProperty property :=
  not_mem_constantLine h.constant ⟨by decide, by decide⟩ ⟨by decide, by decide⟩ h.name

theorem not_mem_lineOfKeyword (h : HasUnbrokenNames property) {keyword : Text}
    (hkeyword : keyword ∈ property.keywords) : '\n' ∉ lineOfKeyword property keyword :=
  not_mem_constantLine (h.keywordConstant hkeyword) h.keywordType h.keywordType
    (h.keywords keyword hkeyword)

/-- The line of a property is split into just this line. -/
theorem linesOf_propertyLine (h : HasUnbrokenNames property) :
    LinesOf (propertyLine property) [lineOfProperty property] := by
  rw [propertyLine_eq]
  exact linesOf_line (not_mem_lineOfProperty h)

/-- No line behind the name of a type has a line feed in it. -/
theorem not_mem_of_mem_linesBehindType {type : Text} (h : IsUnbroken type) :
    ∀ line ∈ linesBehindType type, '\n' ∉ line := by
  simp [linesBehindType, Text.ofString, h.line]

/-- A block of keywords is split into the lines it is written in. -/
theorem linesOf_keywordBlock (h : HasUnbrokenNames property) :
    LinesOf (keywordBlock property) (linesOfKeywords property) := by
  have hnote : '\n' ∉ typeNote property := by
    simp [typeNote, Text.ofString, h.keywordType.line, h.name.line]
  have htype : '\n' ∉ lineOfType property := by
    apply not_mem_intercalate
    simp [typeWords, Text.ofString, h.keywordType.line]
  rw [keywordBlock_eq]
  apply linesOf_unlines
  intro line hline
  simp only [linesOfKeywords, linesOfType, linesInFrontOfType, List.mem_append, List.mem_cons,
    List.mem_map, List.not_mem_nil, or_false] at hline
  rcases hline with ((rfl | rfl | rfl) | rfl | hbehind) | ⟨keyword, hkeyword, rfl⟩
  · decide
  · simp [Text.ofString, hnote]
  · decide
  · exact htype
  · exact not_mem_of_mem_linesBehindType h.keywordType line hbehind
  · exact not_mem_lineOfKeyword h hkeyword

/-- So is the block of a setter. -/
theorem linesOf_setterBlock (h : HasUnbrokenNames property) :
    LinesOf (setterBlock property) (linesOfSetter property) := by
  have hnote : '\n' ∉ setterNote property := by
    simp [setterNote, Text.ofString, h.setter.line, h.name.line]
  have hsetter : '\n' ∉ lineOfSetter property := by
    apply not_mem_intercalate
    simp [setterWords, Text.ofString, h.setter.line, h.keywordType.line]
  have hcall : '\n' ∉ lineOfCall property := by
    apply not_mem_intercalate
    simp [callWords, Text.ofString, h.constant.line]
  rw [setterBlock_eq]
  apply linesOf_unlines
  simp [linesOfSetter, Text.ofString, hnote, hsetter, hcall]

/-! ## In front of the definitions -/

/-- The text is some lines, and a definition begins with none of them. -/
def IsPrivate (t : Text) : Prop :=
  ∃ lines, LinesOf t lines ∧ ∀ line ∈ lines, isPublic line = false

/-- Texts whose lines are all private stay so when one is put behind the other. -/
theorem IsPrivate.append (ht : IsPrivate t) (hu : IsPrivate u) : IsPrivate (t ++ u) := by
  obtain ⟨lines, hlines, hprivate⟩ := ht
  obtain ⟨others, hothers, hprivate'⟩ := hu
  exact ⟨lines ++ others, hlines.append hothers, List.forall_mem_append.mpr ⟨hprivate, hprivate'⟩⟩

/-- A line is private if it does not begin with the word for what is public. -/
theorem isPrivate_line (h : '\n' ∉ t) (hpublic : isPublic t = false) : IsPrivate (t ++ "\n") :=
  ⟨[t], linesOf_line h, by simpa using hpublic⟩

theorem isPrivate_blank : IsPrivate "\n" :=
  isPrivate_line List.not_mem_nil rfl

/-- **The header of an artifact is private**, whatever the version says. -/
theorem isPrivate_header {version : Text} (htimestamp : '\n' ∉ timestamp) :
    IsPrivate (header version timestamp) := by
  have hgenerated : IsPrivate ("// Code generated by cssgen; DO NOT EDIT." ++ "\n") :=
    isPrivate_line (by decide) rfl
  have hsource : IsPrivate ("// Source: spec version " ++ onOneLine version ++ " at " ++ timestamp
      ++ "\n") :=
    isPrivate_line (by simp [Text.ofString, not_mem_onOneLine, htimestamp]) rfl
  have hlines :
      Text.ofString "// Code generated by cssgen; DO NOT EDIT.\n// Source: spec version " =
        "// Code generated by cssgen; DO NOT EDIT." ++ "\n" ++ "// Source: spec version " := by
    decide
  have hend : ("\n\n" : Text) = "\n" ++ "\n" := by decide
  have hall := (hgenerated.append hsource).append isPrivate_blank
  simpa only [header, hlines, hend, List.append_assoc] using hall

/-- No definition begins with a line to which a quoted name's end is added. -/
theorem isPublic_append (h : isPublic t = false) : isPublic (t ++ "`.") = false := by
  match t with
  | [] | [_] | [_, _] | [_, _, _] => simp [isPublic, Text.ofString, List.isPrefixOf]
  | _ :: _ :: _ :: _ :: _ => simpa [isPublic, Text.ofString, List.isPrefixOf] using h

/-- The comment on the module breaks its line where the name of the module has line breaks. -/
theorem isPrivate_moduleLines
    (hmodule : ∀ line ∈ (Text.splitOn '\n' module).tail, isPublic line = false) :
    IsPrivate (artifact.moduleLines module) := by
  have hpurpose : '\n' ∉ Text.ofString "//! " ++ artifact.purpose ++ Text.ofString " `" := by
    cases artifact <;> decide
  have hfirst : ∀ t, isPublic ("//! " ++ artifact.purpose ++ " `" ++ t) = false := fun _ => rfl
  have hnote : ∃ lines, Text.splitOn '\n' ("//! " ++ artifact.moduleNote module) = lines ∧
      ∀ line ∈ lines, isPublic line = false := by
    have hend : '\n' ∉ Text.ofString "`." := by decide
    obtain ⟨pieces, last, hpieces, hquoted⟩ := Text.exists_splitOn_append_right hend module
    rw [hpieces] at hmodule
    have htext : "//! " ++ artifact.moduleNote module =
        ("//! " ++ artifact.purpose ++ " `") ++ (module ++ "`.") := by
      simp only [moduleNote, List.append_assoc]
    rw [htext]
    cases pieces with
    | nil =>
        refine ⟨_, Text.splitOn_append_left hpurpose hquoted, ?_⟩
        simpa using hfirst _
    | cons piece pieces =>
        refine ⟨_, Text.splitOn_append_left hpurpose hquoted, ?_⟩
        obtain ⟨hinner, hlast⟩ := List.forall_mem_append.mp hmodule
        refine List.forall_mem_cons.mpr ⟨hfirst _, List.forall_mem_append.mpr ⟨hinner, ?_⟩⟩
        simpa using isPublic_append (hlast last List.mem_cons_self)
  obtain ⟨lines, hlines, hprivate⟩ := hnote
  have hcomment : IsPrivate ("//! " ++ artifact.moduleNote module ++ "\n") :=
    ⟨lines, hlines ▸ linesOf_text _, hprivate⟩
  have hend : ("\n\n" : Text) = "\n" ++ "\n" := by decide
  simpa only [moduleLines, hend, List.append_assoc] using hcomment.append isPrivate_blank

/-- An import is private. -/
theorem isPrivate_use {path : Text} (h : '\n' ∉ path) : IsPrivate ("use " ++ path ++ "\n") :=
  isPrivate_line (by simp [Text.ofString, h]) rfl

/-- **What stands in front of the definitions is private.** -/
theorem isPrivate_preamble : IsPrivate (preamble module artifact) := by
  have hcrate : '\n' ∉ runtimeCrate module := by
    rcases runtimeCrate_cases module with hcrate | hcrate <;> rw [hcrate] <;> decide
  cases artifact with
  | properties =>
      have hallow : IsPrivate ("#![allow(non_upper_case_globals)]" ++ "\n") :=
        isPrivate_line (by decide) rfl
      have huse : IsPrivate ("use " ++ (runtimeCrate module ++ "::Property;") ++ "\n") :=
        isPrivate_use (by simp [Text.ofString, hcrate])
      have hall := ((hallow.append isPrivate_blank).append huse).append isPrivate_blank
      have hlines : Text.ofString "#![allow(non_upper_case_globals)]\n\n" =
          "#![allow(non_upper_case_globals)]" ++ ("\n" ++ "\n") ∧
            Text.ofString "::Property;\n\n" = "::Property;" ++ ("\n" ++ "\n") := by decide
      simpa only [preamble, hlines.1, hlines.2, List.append_assoc] using hall
  | keywords =>
      have hline : Text.ofString "#![allow(non_upper_case_globals)]\n" =
          "#![allow(non_upper_case_globals)]" ++ "\n" := by decide
      rw [preamble, hline]
      exact isPrivate_line (by decide) rfl
  | setters =>
      have hallow : IsPrivate ("#![allow(non_snake_case)]" ++ "\n") :=
        isPrivate_line (by decide) rfl
      have huse : IsPrivate ("use " ++ (runtimeCrate module ++ "::\x7bDecl, Keyword, set\x7d;")
          ++ "\n") := isPrivate_use (by simp [Text.ofString, hcrate])
      have hglob : ∀ artifact, IsPrivate ("use " ++ ("super::" ++ stem artifact ++ "::*;")
          ++ "\n") := fun artifact => isPrivate_use (by cases artifact <;> decide)
      have hall := (((hallow.append isPrivate_blank).append (hglob .keywords)).append
        (hglob .properties)).append huse
      have hlines : Text.ofString "#![allow(non_snake_case)]\n\n" =
          "#![allow(non_snake_case)]" ++ ("\n" ++ "\n") ∧
            Text.ofString "use super::" = "use " ++ "super::" ∧
            Text.ofString "::*;\n" = "::*;" ++ "\n" ∧
            Text.ofString "::\x7bDecl, Keyword, set\x7d;\n" =
              "::\x7bDecl, Keyword, set\x7d;" ++ "\n" := by decide
      obtain ⟨hline, hsuper, hstar, hitems⟩ := hlines
      simpa only [preamble, hline, hsuper, hstar, hitems, List.append_assoc] using hall

/-- **No definition begins in front of the definitions.** -/
theorem isPrivate_front (htimestamp : '\n' ∉ timestamp)
    (hmodule : ∀ line ∈ (Text.splitOn '\n' module).tail, isPublic line = false) :
    IsPrivate (header spec.version timestamp ++ artifact.moduleLines module
      ++ artifact.preamble module) :=
  ((isPrivate_header htimestamp).append (isPrivate_moduleLines hmodule)).append isPrivate_preamble

end TypedStyle.Artifact
