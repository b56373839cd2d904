import TypedStyle.Artifact.Check
import TypedStyle.Proofs.Code.Trees
/-!
# Plain artifacts as trees

If the comments of an artifact stay on their lines and its names are identifiers, what is pasted
into it goes nowhere else: the artifact is code for trees that are known, with the names in place.

* `spells_propertyLine`, `spells_keywordBlock`, `spells_setterBlock` — each block by itself;
* `spells_render` — a plain artifact spells its trees.
-/

namespace TypedStyle.Artifact

open Code Code.Token

variable {artifact : Artifact} {spec : Spec} {property : Property} {rest : Text} {more : List Token}
  {module timestamp keyword note type : Text}

/-! ## Trees -/

/-- Names with double colons between them. -/
def pathTrees : List Text → Trees
  | [] => []
  | [name] => [.word name]
  | name :: names => .word name :: .mark ':' true :: .mark ':' false :: pathTrees names

/-- The attribute that a comment is. -/
def noteTrees : Trees :=
  [.mark '#' false, .group '[' [.word "doc", .mark '=' false, .literal .string]]

/-- The attribute that a comment on the module is. -/
def moduleNoteTrees : Trees :=
  [.mark '#' true, .mark '!' false, .group '[' [.word "doc", .mark '=' false, .literal .string]]

/-- The attribute that allows names which are not written as usual. -/
def allowTrees (what : Text) : Trees :=
  [.mark '#' true, .mark '!' false, .group '[' [.word "allow", .group '(' [.word what]]]

/-- A reference to text that is always there. -/
def staticTextTrees : Trees :=
  [.mark '&' true, .mark '\'' true, .word "static", .word "str"]

/-- The only field of a value. -/
def fieldTrees : Trees :=
  [.word "self", .mark '.' false, .literal (.number "0")]

/-- The name as it stands in code. -/
def wordTree (name : Text) : Tree :=
  .word (Text.strip name)

/-- The definition of a property's constant. -/
def propertyTrees (property : Property) : Trees :=
  [.word "pub", .word "const", wordTree (Naming.constant property.name), .mark ':' false,
    .word "Property", .mark '=' false]
    ++ pathTrees ["Property", "new"] ++ [.group '(' [.literal .string], .mark ';' false]

/-- The definition of the constant of a property's keyword. -/
def keywordTrees (property : Property) (keyword : Text) : Trees :=
  let type := wordTree (Naming.keywordType property.name)
  [.word "pub", .word "const", wordTree (Naming.keywordConstant property.name keyword),
    .mark ':' false, type, .mark '=' false, type, .group '(' [.literal .string], .mark ';' false]

/-- The attribute that derives what types of keywords have. -/
def deriveTrees : Trees :=
  [.mark '#' false, .group '['
    [.word "derive", .group '(' [.word "Debug", .mark ',' false, .word "Clone", .mark ',' false,
      .word "Copy", .mark ',' false, .word "PartialEq", .mark ',' false, .word "Eq",
      .mark ',' false, .word "Hash"]]]

/-- The structure that the type of a property's keywords is. -/
def structureTrees (type : Tree) : Trees :=
  [.word "pub", .word "struct", type, .group '(' staticTextTrees, .mark ';' false]

/-- How the function that gives the text of a value is declared. -/
def asTextTrees : Trees :=
  [.word "pub", .word "const", .word "fn", .word "as_str", .group '(' [.word "self"],
    .mark '-' true, .mark '>' false] ++ staticTextTrees

/-- What the type has by itself. -/
def implementationTrees (type : Tree) : Trees :=
  [.word "impl", type, .group '\x7b' (asTextTrees ++ [.group '\x7b' fieldTrees])]

/-- How the function that shows a value is declared. -/
def formatTrees : Trees :=
  [.word "fn", .word "fmt", .group '('
      ([.mark '&' false, .word "self", .mark ',' false, .word "f", .mark ':' false,
        .mark '&' false, .word "mut"] ++ pathTrees ["std", "fmt", "Formatter"]
        ++ [.mark '<' true, .mark '\'' true, .word "_", .mark '>' false]),
    .mark '-' true, .mark '>' false] ++ pathTrees ["std", "fmt", "Result"]

/-- The function that shows a value. -/
def showTrees : Trees :=
  formatTrees ++ [.group '\x7b'
    [.word "f", .mark '.' false, .word "write_str", .group '(' fieldTrees]]

/-- How the type is shown. -/
def displayTrees (type : Tree) : Trees :=
  [.word "impl"] ++ pathTrees ["std", "fmt", "Display"]
    ++ [.word "for", type, .group '\x7b' showTrees]

/-- The definition of the type of a property's keywords. -/
def typeTrees (property : Property) : Trees :=
  let type := wordTree (Naming.keywordType property.name)
  noteTrees ++ deriveTrees ++ structureTrees type ++ implementationTrees type ++ displayTrees type

/-- The definitions of a property's keywords. -/
def keywordBlockTrees (property : Property) : Trees :=
  typeTrees property ++ property.keywords.flatMap (keywordTrees property)

/-- The body of a property's setter. -/
def setterBodyTrees (property : Property) : Trees :=
  [.word "set", .group '('
    ([wordTree (Naming.constant property.name), .mark ',' false] ++ pathTrees ["Keyword", "new"]
      ++ [.group '(' [.word "v", .mark '.' false, .word "as_str", .group '(' []]])]

/-- The function that a property's setter is. -/
def setterTrees (property : Property) : Trees :=
  [.word "pub", .word "fn", wordTree (Naming.setter property.name), .group '('
      [.word "v", .mark ':' false, wordTree (Naming.keywordType property.name)],
    .mark '-' true, .mark '>' false, .word "Decl", .group '\x7b' (setterBodyTrees property)]

/-- The definition of a property's setter. -/
def setterBlockTrees (property : Property) : Trees :=
  noteTrees ++ setterTrees property

/-- The import of all that another artifact defines. -/
def globTrees (artifact : Artifact) : Trees :=
  [.word "use"] ++ pathTrees ["super", artifact.stem]
    ++ [.mark ':' true, .mark ':' true, .mark '*' true, .mark ';' false]

/-- The import of types from the crate. -/
def crateTrees (module : Text) : Artifact → Trees
  | .properties =>
    [.word "use"] ++ pathTrees [runtimeCrate module, "Property"] ++ [.mark ';' false]
  | .keywords => []
  | .setters =>
    [.word "use", .word (runtimeCrate module), .mark ':' true, .mark ':' false, .group '\x7b'
      [.word "Decl", .mark ',' false, .word "Keyword", .mark ',' false, .word "set"],
      .mark ';' false]

/-- What stands between the comment on the module and the definitions. -/
def preambleTrees (module : Text) (artifact : Artifact) : Trees :=
  match artifact with
  | .properties | .keywords => allowTrees "non_upper_case_globals" ++ crateTrees module artifact
  | .setters =>
    allowTrees "non_snake_case" ++ (globTrees .keywords ++ globTrees .properties)
      ++ crateTrees module artifact

/-- The definitions of an artifact. -/
def bodyTrees (spec : Spec) : Artifact → Trees
  | .properties => spec.properties.flatMap propertyTrees
  | .keywords => spec.keywordProperties.flatMap keywordBlockTrees
  | .setters => spec.keywordProperties.flatMap setterBlockTrees

/-- The whole artifact. -/
def trees (artifact : Artifact) (spec : Spec) (module : Text) : Trees :=
  moduleNoteTrees ++ preambleTrees module artifact ++ bodyTrees spec artifact

/-! ## Lines -/

/-- The pasted name is one word, which may be reserved. -/
def IsOneWord (name : Text) : Prop :=
  Text.Identifier.isWord (Text.strip name) = true

/-- The pasted name is one identifier, or the reserved word that looks like one. -/
def IsNameOrSelf (name : Text) : Prop :=
  isWellNamed name = true ∨ Text.strip name = "Self"

/-- An identifier, or the word `Self`, is one word. -/
theorem IsNameOrSelf.isOneWord {name : Text} (h : IsNameOrSelf name) : IsOneWord name := by
  rcases h with h | hself
  · exact (Bool.and_eq_true_iff.mp h).1
  · rw [IsOneWord, hself]
    decide

/-- Trimming leaves what is not blank. -/
theorem mem_strip {c : Char} {t : Text} (hmem : c ∈ t) (hblank : Text.isCodeBlank c = false) :
    c ∈ Text.strip t := by
  obtain ⟨front, back, ht, hfront, hback⟩ := Text.exists_eq_trimBy Text.isCodeBlank t
  rw [ht] at hmem
  have hcases : c ∈ front ∨ c ∈ Text.strip t ∨ c ∈ back := by
    simpa [Text.strip, or_assoc] using hmem
  rcases hcases with hin | hin | hin
  · rw [hfront c hin] at hblank
    contradiction
  · exact hin
  · rw [hback c hin] at hblank
    contradiction

/-- A name with another character in it is not that word. -/
theorem IsNameOrSelf.isWellNamed {name : Text} (h : IsNameOrSelf name) {c : Char} (hmem : c ∈ name)
    (hblank : Text.isCodeBlank c = false) (hne : c ∉ Text.ofString "Self") :
    isWellNamed name = true := by
  rcases h with h | hself
  · exact h
  · refine absurd ?_ hne
    rw [← hself]
    exact mem_strip hmem hblank

/-- Text on one line has neither of the characters that end a line. -/
theorem not_mem_of_isOneLine {t : Text} (h : isOneLine t = true) : '\n' ∉ t ∧ '\r' ∉ t := by
  have hall := List.all_eq_true.mp h
  exact ⟨fun hmem => by simpa using hall _ hmem, fun hmem => by simpa using hall _ hmem⟩

/-- A text without line feeds and carriage returns stays on its line. -/
theorem isOneLine_of_not_mem {t : Text} (hline : '\n' ∉ t) (hreturn : '\r' ∉ t) :
    isOneLine t = true := by
  refine List.all_eq_true.mpr fun c hc => ?_
  have hne : c ≠ '\n' ∧ c ≠ '\r' := ⟨fun heq => hline (heq ▸ hc), fun heq => hreturn (heq ▸ hc)⟩
  simp [hne]

/-- Two texts in a row stay on one line exactly when both do. -/
theorem isOneLine_append (a b : Text) : isOneLine (a ++ b) = (isOneLine a && isOneLine b) :=
  List.all_append

/-- The note on the module stays on its line if the name of the module does. -/
theorem isOneLine_moduleNote (hmodule : isOneLine module = true) (artifact : Artifact) :
    isOneLine (artifact.moduleNote module) = true := by
  have hpurpose : isOneLine artifact.purpose = true := by cases artifact <;> decide
  simp only [moduleNote, isOneLine_append, hpurpose, hmodule]
  decide

/-- So does the note on a setter, if the name and the setter do. -/
theorem isOneLine_setterNote (hname : isOneLine property.name = true)
    (hsetter : isOneLine (Naming.setter property.name) = true) :
    isOneLine (setterNote property) = true := by
  simp only [setterNote, isOneLine_append, hname, hsetter]
  decide

/-- A comment stands for an attribute, whatever it says. -/
theorem spells_note (hnote : isOneLine note = true) :
    Spells ("/// " ++ note ++ "\n") noteTrees := by
  intro rest more h
  obtain ⟨hline, hreturn⟩ := not_mem_of_isOneLine hnote
  simp only [List.append_assoc]
  exact (h.piece "\n" [] (by decide) fun _ _ => rfl).note hline hreturn false

/-- So does a comment on the module. -/
theorem spells_moduleLines (hnote : isOneLine (artifact.moduleNote module) = true) :
    Spells (artifact.moduleLines module) moduleNoteTrees := by
  intro rest more h
  obtain ⟨hline, hreturn⟩ := not_mem_of_isOneLine hnote
  simp only [moduleLines, List.append_assoc]
  exact (h.piece "\n\n" [] (by decide) fun _ _ => rfl).note hline hreturn true

/-- The line of a property spells its trees. -/
theorem spells_propertyLine (hname : IsOneWord (Naming.constant property.name)) :
    Spells (propertyLine property) (propertyTrees property) := by
  intro rest more h
  have hend := h.piece ");\n" [.closing ')', .mark ';' false] (by decide) fun _ _ => rfl
  have hvalue := (hend.quote rfl property.name).piece ": Property = Property::new("
    (Tree.tokensOfAll ([.mark ':' false, .word "Property", .mark '=' false]
      ++ pathTrees ["Property", "new"]) ++ [.opening '(']) (by decide) fun _ _ => rfl
  have hname := hvalue.word hname (endsWord_cons (by decide))
  simp only [propertyLine, List.append_assoc]
  exact hname.piece "pub const " [.word "pub", .word "const"] (by decide) fun _ _ => rfl

/-- So does the line of a keyword, with its type and its constant. -/
theorem spells_keywordLine (htype : IsOneWord (Naming.keywordType property.name))
    (hname : IsOneWord (Naming.keywordConstant property.name keyword)) :
    Spells (keywordLine property keyword) (keywordTrees property keyword) := by
  intro rest more h
  have hend := h.piece ");\n" [.closing ')', .mark ';' false] (by decide) fun _ _ => rfl
  have hvalue := (hend.quote rfl keyword).piece "(" [.opening '('] (by decide) fun _ _ => rfl
  have hequals := (hvalue.word htype (endsWord_cons (by decide))).piece
    " = " [.mark '=' false] (by decide) fun _ _ => rfl
  have hcolon := (hequals.word htype (endsWord_cons (by decide))).piece
    ": " [.mark ':' false] (by decide) fun _ _ => rfl
  have hname := hcolon.word hname (endsWord_cons (by decide))
  simp only [keywordLine, List.append_assoc]
  exact hname.piece "pub const " [.word "pub", .word "const"] (by decide) fun _ _ => rfl

/-! ## Types of keywords -/

/-- The structure that a type is, behind its attribute. -/
theorem spells_structure (htype : IsOneWord type) :
    Spells ("#[derive(Debug, Clone, Copy, PartialEq, Eq, Hash)]\n"
        ++ "pub struct " ++ type ++ "(&'static str);\n\n")
      (deriveTrees ++ structureTrees (wordTree type)) := by
  intro rest more h
  have htype := (h.piece "(&'static str);\n\n"
    (Tree.tokensOfAll [.group '(' staticTextTrees, .mark ';' false]) (by decide)
    fun _ _ => rfl).word htype (endsWord_cons (by decide))
  have hname := htype.piece "pub struct " [.word "pub", .word "struct"] (by decide) fun _ _ => rfl
  simp only [List.append_assoc]
  exact hname.piece "#[derive(Debug, Clone, Copy, PartialEq, Eq, Hash)]\n"
    (Tree.tokensOfAll deriveTrees) (by decide) fun _ _ => rfl

/-- The line that gives the only field of a value. -/
theorem spells_field : Spells "        self.0\n" fieldTrees := by
  intro rest more h
  have hzero := (h.piece "\n" [] (by decide) fun _ _ => rfl).zero (.inl rfl)
  have hline : ("        self.0\n" : Text) = "        self." ++ '0' :: "\n" := by decide
  rw [hline, List.append_assoc]
  exact hzero.piece "        self." [.word "self", .mark '.' false] (by decide) fun _ _ => rfl

/-- The line that writes the only field of a value. -/
theorem spells_writeField : Spells "        f.write_str(self.0)\n"
    [.word "f", .mark '.' false, .word "write_str", .group '(' fieldTrees] := by
  intro rest more h
  have hzero := (h.piece ")\n" [.closing ')'] (by decide) fun _ _ => rfl).zero (.inr rfl)
  have hline : ("        f.write_str(self.0)\n" : Text) =
      "        f.write_str(self." ++ '0' :: ")\n" := by decide
  rw [hline, List.append_assoc]
  exact hzero.piece "        f.write_str(self."
    [.word "f", .mark '.' false, .word "write_str", .opening '(', .word "self", .mark '.' false]
    (by decide) fun _ _ => rfl

/-- What closes the function of an implementation, and the implementation. -/
theorem lexes_end (h : Lexes rest more) :
    Lexes ("    \x7d\n" ++ ("\x7d\n\n" ++ rest)) (.closing '\x7d' :: .closing '\x7d' :: more) :=
  (h.piece "\x7d\n\n" [.closing '\x7d'] (by decide) fun _ _ => rfl).piece "    \x7d\n"
    [.closing '\x7d'] (by decide) fun _ _ => rfl

/-- What the type has by itself. -/
theorem spells_implementation (htype : IsOneWord type) :
    Spells ("impl " ++ type ++ " \x7b\n"
        ++ "    pub const fn as_str(self) -> &'static str \x7b\n"
        ++ "        self.0\n" ++ "    \x7d\n" ++ "\x7d\n\n")
      (implementationTrees (wordTree type)) := by
  intro rest more h
  have hfunction := (spells_field _ _ (lexes_end h)).piece
    "    pub const fn as_str(self) -> &'static str \x7b\n"
    (Tree.tokensOfAll asTextTrees ++ [.opening '\x7b']) (by decide) fun _ _ => rfl
  have htype := (hfunction.piece " \x7b\n" [.opening '\x7b'] (by decide) fun _ _ => rfl).word
    htype (endsWord_cons (by decide))
  simp only [List.append_assoc]
  exact htype.piece "impl " [.word "impl"] (by decide) fun _ _ => rfl

/-- How the type is shown. -/
theorem spells_display (htype : IsOneWord type) :
    Spells ("impl std::fmt::Display for " ++ type ++ " \x7b\n"
        ++ "    fn fmt(&self, f: &mut std::fmt::Formatter<'_>) -> std::fmt::Result \x7b\n"
        ++ "        f.write_str(self.0)\n" ++ "    \x7d\n" ++ "\x7d\n\n")
      (displayTrees (wordTree type)) := by
  intro rest more h
  have hfunction := (spells_writeField _ _ (lexes_end h)).piece
    "    fn fmt(&self, f: &mut std::fmt::Formatter<'_>) -> std::fmt::Result \x7b\n"
    (Tree.tokensOfAll formatTrees ++ [.opening '\x7b']) (by decide) fun _ _ => rfl
  have htype := (hfunction.piece " \x7b\n" [.opening '\x7b'] (by decide) fun _ _ => rfl).word
    htype (endsWord_cons (by decide))
  simp only [List.append_assoc]
  exact htype.piece "impl std::fmt::Display for "
    (Tree.tokensOfAll ([.word "impl"] ++ pathTrees ["std", "fmt", "Display"] ++ [.word "for"]))
    (by decide) fun _ _ => rfl

/-! ## Blocks -/

/-- **A block of keywords spells its trees** if its note stays on its line and its names are single
words. -/
theorem spells_keywordBlock (hnote : isOneLine (typeNote property) = true)
    (htype : IsOneWord (Naming.keywordType property.name))
    (hnames : ∀ keyword ∈ property.keywords,
      IsOneWord (Naming.keywordConstant property.name keyword)) :
    Spells (keywordBlock property) (keywordBlockTrees property) := by
  have hblank : Spells "\n" [] := fun _ _ h => h.piece "\n" [] (by decide) fun _ _ => rfl
  have hkeywords : Spells (property.keywords.flatMap (keywordLine property)) _ :=
    Spells.flatMap fun keyword hkeyword => spells_keywordLine htype (hnames keyword hkeyword)
  have hblock := ((((hblank.append (spells_note hnote)).append (spells_structure htype)).append
    (spells_implementation htype)).append (spells_display htype)).append hkeywords
  unfold keywordBlock typeBlock keywordBlockTrees typeTrees
  simpa only [List.append_assoc, List.nil_append] using hblock

/-- A name does not start with a slash. -/
theorem head_ne_slash {pasted : Text} (hname : IsOneWord pasted) :
    ∀ c ∈ (pasted ++ rest).head?, c ≠ '/' := by
  obtain ⟨front, back, hpasted, hfront, -⟩ := Text.exists_eq_trimBy Text.isCodeBlank pasted
  rintro c hc rfl
  rw [hpasted] at hc
  change Text.Identifier.isWord (Text.trimBy Text.isCodeBlank pasted) = true at hname
  generalize Text.trimBy Text.isCodeBlank pasted = word at hc hname
  cases front with
  | cons d front =>
      obtain rfl : d = '/' := Option.some.inj hc
      exact absurd (hfront '/' List.mem_cons_self) (by decide)
  | nil =>
      cases word with
      | nil => exact absurd hname (by decide)
      | cons d word =>
          obtain rfl : d = '/' := Option.some.inj hc
          rw [Text.Identifier.isWord, Bool.and_eq_true] at hname
          exact absurd hname.1 (by decide)

/-- The body of a setter. -/
theorem lexes_setterBody (hconstant : IsOneWord (Naming.constant property.name))
    (h : Lexes rest more) :
    Lexes ("    set(" ++ (Naming.constant property.name
        ++ (", Keyword::new(v.as_str()))\n" ++ rest)))
      (Tree.tokensOfAll (setterBodyTrees property) ++ more) := by
  have harguments := h.piece ", Keyword::new(v.as_str()))\n"
    (Tree.tokensOfAll ([.mark ',' false] ++ pathTrees ["Keyword", "new"]
      ++ [.group '(' [.word "v", .mark '.' false, .word "as_str", .group '(' []]])
      ++ [.closing ')']) (by decide) fun _ _ => rfl
  have hopening := (harguments.word hconstant
    (endsWord_cons (by decide))).opening (head_ne_slash hconstant)
  have hline : ("    set(" : Text) = "    set" ++ ['('] := by decide
  rw [hline, List.append_assoc]
  exact hopening.piece "    set" [.word "set"] (by decide) fun _ _ => rfl

/-- The function of a setter spells its trees. -/
theorem spells_setter (hname : IsOneWord (Naming.setter property.name))
    (htype : IsOneWord (Naming.keywordType property.name))
    (hconstant : IsOneWord (Naming.constant property.name)) :
    Spells ("pub fn " ++ Naming.setter property.name ++ "(v: "
        ++ Naming.keywordType property.name ++ ") -> Decl \x7b\n" ++ "    set("
        ++ Naming.constant property.name ++ ", Keyword::new(v.as_str()))\n" ++ "\x7d\n")
      (setterTrees property) := by
  intro rest more h
  have hbody := lexes_setterBody hconstant
    (h.piece "\x7d\n" [.closing '\x7d'] (by decide) fun _ _ => rfl)
  have hresult := hbody.piece ") -> Decl \x7b\n" [.closing ')', .mark '-' true, .mark '>' false,
    .word "Decl", .opening '\x7b'] (by decide) fun _ _ => rfl
  have hvalue := (hresult.word htype (endsWord_cons (by decide))).piece
    "(v: " [.opening '(', .word "v", .mark ':' false] (by decide) fun _ _ => rfl
  have hname := hvalue.word hname (endsWord_cons (by decide))
  simp only [List.append_assoc]
  exact hname.piece "pub fn " [.word "pub", .word "fn"] (by decide) fun _ _ => rfl

/-- **The block of a setter spells its trees**, under the same conditions. -/
theorem spells_setterBlock (hnote : isOneLine (setterNote property) = true)
    (hname : IsOneWord (Naming.setter property.name))
    (htype : IsOneWord (Naming.keywordType property.name))
    (hconstant : IsOneWord (Naming.constant property.name)) :
    Spells (setterBlock property) (setterBlockTrees property) := by
  have hblank : Spells "\n" [] := fun _ _ h => h.piece "\n" [] (by decide) fun _ _ => rfl
  have hblock := (hblank.append (spells_note hnote)).append (spells_setter hname htype hconstant)
  have hlines : ("\n/// " : Text) = "\n" ++ "/// " := by decide
  have hbody : (") -> Decl \x7b\n    set(" : Text) = ") -> Decl \x7b\n" ++ "    set(" := by decide
  unfold setterBlock setterBlockTrees
  simpa only [hlines, hbody, List.append_assoc, List.nil_append] using hblock

/-! ## The whole artifact -/

/-- The first lines are comments, and no trees. -/
theorem spells_header {version : Text} (htimestamp : '\n' ∉ timestamp) :
    Spells (header version timestamp) [] := by
  intro rest more h
  have hsource : '\n' ∉ Text.ofString "Source: spec version " ++ (onOneLine version
      ++ (Text.ofString " at " ++ timestamp)) := by
    have hwords : '\n' ∉ Text.ofString "Source: spec version " ∧ '\n' ∉ Text.ofString " at " := by
      decide
    simp [hwords, not_mem_onOneLine version, htimestamp]
  have hlines : ("// Code generated by cssgen; DO NOT EDIT.\n// Source: spec version " : Text) =
      "// " ++ ("Code generated by cssgen; DO NOT EDIT." ++ '\n'
        :: ("// " ++ "Source: spec version ")) := by decide
  have hcomments := ((h.piece "\n" [] (by decide) fun _ _ => rfl).comment hsource).comment
    (u := "Code generated by cssgen; DO NOT EDIT.") (by decide)
  have hend : ("\n\n" : Text) = '\n' :: "\n" := by decide
  show Lexes _ ([] ++ more)
  unfold header
  rw [hlines, hend]
  simpa only [List.append_assoc, List.cons_append] using hcomments

/-- The crate is one word, without blanks. -/
theorem isWord_runtimeCrate (module : Text) :
    Text.Identifier.isWord (Text.strip (runtimeCrate module)) = true ∧
      Text.strip (runtimeCrate module) = runtimeCrate module := by
  rcases runtimeCrate_cases module with hcrate | hcrate <;> rw [hcrate] <;> decide

/-- What stands in front of the definitions spells its trees, for every module. -/
theorem spells_preamble : Spells (preamble module artifact) (preambleTrees module artifact) := by
  intro rest more h
  obtain ⟨hword, hstrip⟩ := isWord_runtimeCrate module
  cases artifact with
  | properties =>
      have hproperty := (h.piece "::Property;\n\n" [.mark ':' true, .mark ':' false,
        .word "Property", .mark ';' false] (by decide) fun _ _ => rfl).word hword
        (endsWord_cons (by decide))
      rw [hstrip] at hproperty
      have huse := hproperty.piece "use " [.word "use"] (by decide) fun _ _ => rfl
      simp only [preamble, List.append_assoc]
      exact huse.piece "#![allow(non_upper_case_globals)]\n\n"
        (Tree.tokensOfAll (allowTrees "non_upper_case_globals")) (by decide) fun _ _ => rfl
  | keywords =>
      exact h.piece "#![allow(non_upper_case_globals)]\n"
        (Tree.tokensOfAll (allowTrees "non_upper_case_globals")) (by decide) fun _ _ => rfl
  | setters =>
      have hitems := (h.piece "::\x7bDecl, Keyword, set\x7d;\n" (Tree.tokensOfAll [.mark ':' true,
        .mark ':' false, .group '\x7b' [.word "Decl", .mark ',' false, .word "Keyword",
        .mark ',' false, .word "set"], .mark ';' false]) (by decide) fun _ _ => rfl).word hword
        (endsWord_cons (by decide))
      rw [hstrip] at hitems
      have huse := hitems.piece "use " [.word "use"] (by decide) fun _ _ => rfl
      have hproperties := huse.piece "use super::properties_gen::*;\n"
        (Tree.tokensOfAll (globTrees .properties)) (by decide) fun _ _ => rfl
      have hkeywords := hproperties.piece "use super::keywords_gen::*;\n"
        (Tree.tokensOfAll (globTrees .keywords)) (by decide) fun _ _ => rfl
      have hlines : ("use super::keywords_gen::*;\n" : Text) = "use super::" ++ (stem .keywords
          ++ "::*;\n") ∧ ("use super::properties_gen::*;\n" : Text) =
            "use super::" ++ (stem .properties ++ "::*;\n") := by decide
      rw [hlines.1, hlines.2] at hkeywords
      simp only [preamble, List.append_assoc] at hkeywords ⊢
      exact hkeywords.piece "#![allow(non_snake_case)]\n\n"
        (Tree.tokensOfAll (allowTrees "non_snake_case")) (by decide) fun _ _ => rfl

/-- Every name that is pasted is one identifier, or the reserved word that looks like one, and every
comment on a property stays on its line. -/
structure PastesNames (artifact : Artifact) (spec : Spec) : Prop where
  notes : ∀ note ∈ artifact.notes spec [], isOneLine note = true
  names : ∀ name ∈ artifact.defined spec ++ artifact.used spec, IsNameOrSelf name

/-- The notes of a plain artifact stay on their lines. -/
theorem isOneLine_of_isPlain (h : artifact.isPlain spec module = true)
    (hnote : note ∈ artifact.notes spec module) : isOneLine note = true :=
  List.all_eq_true.mp (Bool.and_eq_true_iff.mp h).1 note hnote

/-- It is so in a plain artifact, whatever the comment on the module is. -/
theorem pastesNames_of_isPlain (h : artifact.isPlain spec module = true) :
    artifact.PastesNames spec where
  notes note hnote := by
    rcases List.mem_cons.mp hnote with rfl | hnote
    · cases artifact <;> decide
    · exact isOneLine_of_isPlain h (List.mem_cons_of_mem _ hnote)
  names name hname := .inl (List.all_eq_true.mp (Bool.and_eq_true_iff.mp h).2 name hname)

namespace PastesNames

/-- The constant of each property is pasted as an identifier, or as the word `Self`. -/
theorem constant (h : properties.PastesNames spec) (hproperty : property ∈ spec.properties) :
    IsNameOrSelf (Naming.constant property.name) :=
  h.names _ (List.mem_append_left _ (List.mem_map_of_mem hproperty))

/-- The name of a type of keywords, or of one of them, is not the reserved word. -/
theorem isWellNamed_keywords {name : Text} (h : keywords.PastesNames spec)
    (hname : name ∈ keywords.defined spec) : isWellNamed name = true := by
  have hnameOrSelf := h.names name (List.mem_append_left _ hname)
  obtain ⟨property, -, hmem⟩ := List.mem_flatMap.mp hname
  refine hnameOrSelf.isWellNamed (c := 'V') ?_ (by decide) (by decide)
  rcases List.mem_cons.mp hmem with rfl | hkeyword
  · simp [Naming.keywordType, Text.ofString]
  · obtain ⟨keyword, -, rfl⟩ := List.mem_map.mp hkeyword
    simp [Naming.keywordConstant, Naming.keywordType, Text.ofString]

/-- The type of a property's keywords and their constants. -/
theorem isWellNamed_keyword (h : keywords.PastesNames spec)
    (hproperty : property ∈ spec.keywordProperties) :
    isWellNamed (Naming.keywordType property.name) = true ∧
      ∀ keyword ∈ property.keywords,
        isWellNamed (Naming.keywordConstant property.name keyword) = true := by
  have hnames : ∀ name ∈ Naming.keywordType property.name ::
      property.keywords.map (Naming.keywordConstant property.name), isWellNamed name = true :=
    fun name hname => h.isWellNamed_keywords (List.mem_flatMap.mpr ⟨property, hproperty, hname⟩)
  exact ⟨hnames _ List.mem_cons_self, fun keyword hkeyword =>
    hnames _ (List.mem_cons_of_mem _ (List.mem_map_of_mem hkeyword))⟩

/-- The setter of a property, the type that it takes and the constant that it sets. -/
theorem isWellNamed_setter (h : setters.PastesNames spec)
    (hproperty : property ∈ spec.keywordProperties) :
    isWellNamed (Naming.setter property.name) = true ∧
      isWellNamed (Naming.keywordType property.name) = true ∧
      IsNameOrSelf (Naming.constant property.name) := by
  have hused : ∀ name ∈ [Naming.keywordType property.name, Naming.constant property.name],
      IsNameOrSelf name := fun name hname =>
    h.names name (List.mem_append_right _ (List.mem_flatMap.mpr ⟨property, hproperty, hname⟩))
  have hsetter : IsNameOrSelf (Naming.setter property.name) :=
    h.names _ (List.mem_append_left _ (List.mem_map_of_mem hproperty))
  refine ⟨hsetter.isWellNamed (c := 't') ?_ (by decide) (by decide),
    (hused _ List.mem_cons_self).isWellNamed (c := 'V') ?_ (by decide) (by decide),
    hused _ (by simp)⟩
  · simp [Naming.setter, Text.ofString]
  · simp [Naming.keywordType, Text.ofString]

end PastesNames

/-- The definitions of an artifact that pastes names. -/
theorem spells_body (h : artifact.PastesNames spec) :
    Spells (artifact.body spec) (artifact.bodyTrees spec) := by
  cases artifact with
  | properties =>
      exact Spells.flatMap fun property hproperty =>
        spells_propertyLine (h.constant hproperty).isOneWord
  | keywords =>
      apply Spells.flatMap
      intro property hproperty
      obtain ⟨htype, hnames⟩ := h.isWellNamed_keyword hproperty
      have hnote := h.notes _ (List.mem_cons_of_mem _ (List.mem_map_of_mem hproperty))
      exact spells_keywordBlock hnote (IsNameOrSelf.isOneWord (.inl htype))
        fun keyword hkeyword => IsNameOrSelf.isOneWord (.inl (hnames keyword hkeyword))
  | setters =>
      apply Spells.flatMap
      intro property hproperty
      obtain ⟨hname, htype, hconstant⟩ := h.isWellNamed_setter hproperty
      have hnote := h.notes _ (List.mem_cons_of_mem _ (List.mem_map_of_mem hproperty))
      exact spells_setterBlock hnote (IsNameOrSelf.isOneWord (.inl hname))
        (IsNameOrSelf.isOneWord (.inl htype)) hconstant.isOneWord

/-- **A plain artifact spells its trees**, whatever its version and its time are. -/
theorem spells_render (h : artifact.isPlain spec module = true) (htimestamp : '\n' ∉ timestamp) :
    Spells (artifact.render spec module timestamp) (artifact.trees spec module) :=
  (((spells_header htimestamp).append
    (spells_moduleLines (isOneLine_of_isPlain h List.mem_cons_self))).append
      spells_preamble).append (spells_body (pastesNames_of_isPlain h))

end TypedStyle.Artifact
