import TypedStyle.Proofs.Artifact.ModuleNames
import TypedStyle.Proofs.Artifact.PastedNames
/-!
# Blocks of definitions

Names that open nothing are pasted into the artifacts of the properties and of the keywords.
Whatever else they hold, where such an artifact can be read at all, each of its blocks stands
outside of all groups, and is read from its first word on.

* `leadsTo_value` — a constant leads to the semicolon behind it;
* `leadsTo_note` — a comment leads to what stands behind it, even if it does not stay on its line;
* `leadsTo_keywordBlock` — the block of a type leads to what stands behind it;
* `exists_leadsTo_structure` — and to the structure in it.
-/

namespace TypedStyle.Artifact

open Code Code.Token

variable {property : Property} {keyword note t v : Text}

/-! ## Pieces between names -/

/-- What stands behind the name of a property's constant, to the semicolon. -/
def valueText (property : Property) : Text :=
  ": Property = Property::new(" ++ (Text.quote property.name ++ ")")

/-- The trees of that text. -/
def valueTrees : Trees :=
  [.mark ':' false, .word "Property", .mark '=' false] ++ pathTrees ["Property", "new"]
    ++ [.group '(' [.literal .string]]

/-- What stands behind the name of a property is cut into its value, whatever the property is
called. -/
theorem cuts_value (property : Property) :
    Cuts (valueText property) (Tree.tokensOfAll valueTrees) := by
  have hvalue := (cuts_quote property.name).piece ": Property = Property::new("
    (Tree.tokensOfAll ([.mark ':' false, .word "Property", .mark '=' false]
      ++ pathTrees ["Property", "new"]) ++ [.opening '(']) fun _ _ _ => rfl
  exact hvalue

theorem cuts_end : Cuts ";\n" (Tree.tokensOfAll [.mark ';' false]) :=
  cuts_piece _ _ fun _ _ _ => rfl

theorem cuts_const : Cuts "pub const " (Tree.tokensOfAll [.word "pub", .word "const"]) :=
  cuts_piece _ _ fun _ _ _ => rfl

/-- What stands in front of the name of a structure. -/
def structureText : Text :=
  "#[derive(Debug, Clone, Copy, PartialEq, Eq, Hash)]\n" ++ "pub struct "

/-- The attribute and the head of a keyword type are cut as written. -/
theorem cuts_structure : Cuts structureText
    (Tree.tokensOfAll (deriveTrees ++ [.word "pub", .word "struct"])) :=
  cuts_piece _ _ fun _ _ _ => rfl

/-- What stands behind it. -/
def fieldText : Text :=
  "(&'static str);\n\n" ++ "impl "

/-- So are the field of a keyword type and the word behind it. -/
theorem cuts_field : Cuts fieldText
    (Tree.tokensOfAll [.group '(' staticTextTrees, .mark ';' false, .word "impl"]) :=
  cuts_piece _ _ fun _ _ _ => rfl

/-- What the type has by itself, and how the other implementation starts. -/
def implementationText : Text :=
  " \x7b\n" ++ ("    pub const fn as_str(self) -> &'static str \x7b\n" ++ ("        self.0\n"
    ++ ("    \x7d\n" ++ ("\x7d\n\n" ++ "impl std::fmt::Display for "))))

/-- So are the two implementations that every keyword type has. -/
theorem cuts_implementation : Cuts implementationText
    (Tree.tokensOfAll ([.group '\x7b' (asTextTrees ++ [.group '\x7b' fieldTrees])]
      ++ [.word "impl"] ++ pathTrees ["std", "fmt", "Display"] ++ [.word "for"])) := by
  have hzero : Cuts ['0', '\n'] [.literal (.number "0")] :=
    cuts_zero (.inl rfl) (cuts_piece _ _ fun _ _ _ => rfl)
  have hfield := hzero.piece "        self." [.word "self", .mark '.' false] fun _ _ _ => rfl
  have hend := cuts_piece ("    \x7d\n" ++ ("\x7d\n\n" ++ "impl std::fmt::Display for "))
    (.closing '\x7d' :: .closing '\x7d' ::
      Tree.tokensOfAll ([.word "impl"] ++ pathTrees ["std", "fmt", "Display"] ++ [.word "for"]))
    fun _ _ _ => rfl
  have hstart := cuts_piece (" \x7b\n" ++ "    pub const fn as_str(self) -> &'static str \x7b\n")
    (.opening '\x7b' :: Tree.tokensOfAll asTextTrees ++ [.opening '\x7b']) fun _ _ _ => rfl
  have hall := hstart.append (hfield.append hend)
  rw [List.append_assoc] at hall
  exact hall

/-- How the type is shown. -/
def displayText : Text :=
  " \x7b\n" ++ ("    fn fmt(&self, f: &mut std::fmt::Formatter<'_>) -> std::fmt::Result \x7b\n"
    ++ ("        f.write_str(self.0)\n" ++ ("    \x7d\n" ++ "\x7d\n\n")))

/-- So is the body of the second one. -/
theorem cuts_display : Cuts displayText (Tree.tokensOfAll [.group '\x7b' showTrees]) := by
  have hzero := cuts_zero (c := ')') (.inr rfl) (cuts_piece _ [.closing ')'] fun _ _ _ => rfl)
  have hwrite := hzero.piece "        f.write_str(self."
    [.word "f", .mark '.' false, .word "write_str", .opening '(', .word "self", .mark '.' false]
    fun _ _ _ => rfl
  have hend := cuts_piece ("\n" ++ ("    \x7d\n" ++ "\x7d\n\n"))
    [.closing '\x7d', .closing '\x7d'] fun _ _ _ => rfl
  have hstart := cuts_piece (" \x7b\n"
      ++ "    fn fmt(&self, f: &mut std::fmt::Formatter<'_>) -> std::fmt::Result \x7b\n")
    (.opening '\x7b' :: Tree.tokensOfAll formatTrees ++ [.opening '\x7b']) fun _ _ _ => rfl
  have hall := hstart.append (hwrite.append hend)
  rw [List.append_assoc] at hall
  exact hall

/-! ## Names and comments -/

/-- Pascal case brings in no character that opens something. -/
theorem opensNothing_pascalCase {name : Text} (h : OpensNothing name) :
    OpensNothing (Naming.pascalCase name) := by
  have hplain : ∀ c ∈ openers, c.toNat < 128 ∧ c.isUpper = false :=
    Text.forall_mem_of_all (by decide)
  intro c hmem hopener
  obtain ⟨hascii, hupper⟩ := hplain c hopener
  exact h c (Naming.mem_of_mem_pascalCase hmem hascii hupper).1 hopener

/-- A note on a keyword type opens nothing if the name of the property does not. -/
theorem opensNothing_typeNote (h : OpensNothing property.name) :
    OpensNothing (typeNote property) := by
  have hname := opensNothing_pascalCase h
  exact (((hname.append (opensNothing_of_all (by decide))).append
    (opensNothing_of_all (by decide))).append h).append (opensNothing_of_all (by decide))

/-- A note ends at the end of its line, or else there is no code. -/
theorem behindLineNote?_cases (t v : Text) : behindLineNote? (t ++ '\n' :: v) = none ∨
    ∃ rest, rest <:+ t ∧ behindLineNote? (t ++ '\n' :: v) = some (rest ++ '\n' :: v) := by
  induction t with
  | nil => exact .inr ⟨[], List.suffix_rfl, rfl⟩
  | cons c t ih =>
      by_cases hline : c = '\n'
      · subst hline
        exact .inr ⟨'\n' :: t, List.suffix_rfl, rfl⟩
      by_cases hreturn : c = '\r'
      · subst hreturn
        rcases t with _ | ⟨d, t⟩
        · exact .inr ⟨[], List.nil_suffix, rfl⟩
        by_cases hd : d = '\n'
        · subst hd
          exact .inr ⟨'\n' :: t, List.suffix_cons _ _, rfl⟩
        · refine .inl ?_
          simp [behindLineNote?, hd]
      · have hnext : behindLineNote? (c :: t ++ '\n' :: v) = behindLineNote? (t ++ '\n' :: v) := by
          simp [behindLineNote?, hline, hreturn]
        rw [hnext]
        exact ih.imp_right fun ⟨rest, hrest, heq⟩ => ⟨rest, hrest.trans (List.suffix_cons c t), heq⟩

/-- **A comment leads to what stands behind it**, even if it does not stay on its line. -/
theorem leadsTo_note (h : OpensNothing note) (hv : v.head? ≠ some '\'') :
    LeadsTo ("/// " ++ (note ++ '\n' :: v)) ('\n' :: v) := by
  have hbehind : note? ("/// " ++ (note ++ '\n' :: v)) =
      (behindLineNote? (note ++ '\n' :: v)).map (ofNote false, ·) := rfl
  rcases behindLineNote?_cases note v with hnone | ⟨rest, hrest, hsome⟩
  · have hstuck := ofText?_of_note?_eq_none (t := '/' :: ' ' :: (note ++ '\n' :: v))
      (hbehind.trans (by rw [hnone]; rfl)) rfl
    intro trees htrees
    rw [Tree.ofText?] at htrees
    exact absurd (htrees.symm.trans (congrArg (Option.bind · Tree.ofTokens?) hstuck)) (by simp)
  · have hscan := scan?_note (hbehind.trans (by rw [hsome]; rfl))
    intro trees htrees
    rw [Tree.ofText?_of_scan noteTrees rfl hscan] at htrees
    obtain ⟨mid, hmid, rfl⟩ := Option.map_eq_some_iff.mp htrees
    obtain ⟨behind, hbehind, hsuffix⟩ :=
      LeadsTo.of_pasted (h.of_suffix hrest) ⟨'\n', v, rfl, by decide, hv⟩ mid hmid
    exact ⟨behind, hbehind, hsuffix.trans (List.suffix_append _ _)⟩

/-! ## Blocks -/

/-- **A constant leads to the semicolon behind it.** -/
theorem leadsTo_value (h : OpensNothing property.name) (rest : Text) :
    LeadsTo (Naming.constant property.name ++ (valueText property ++ (";\n" ++ rest)))
      (";\n" ++ rest) :=
  (LeadsTo.of_pasted (opensNothing_pascalCase h) (isSeam_cons (by decide) (by decide) _)).trans
    (LeadsTo.of_cuts (cuts_value property) _)

/-- A line of a keyword leads to what stands behind it, if its names open nothing. -/
theorem leadsTo_keywordLine (h : OpensNothing property.name) (hkeyword : OpensNothing keyword)
    (rest : Text) : LeadsTo (keywordLine property keyword ++ rest) rest := by
  have htype : OpensNothing (Naming.keywordType property.name) :=
    (opensNothing_pascalCase h).append (opensNothing_of_all (by decide))
  have hname : OpensNothing (Naming.keywordConstant property.name keyword) :=
    htype.append (opensNothing_pascalCase hkeyword)
  have hcolon : Cuts ": " (Tree.tokensOfAll [.mark ':' false]) := cuts_piece _ _ fun _ _ _ => rfl
  have hequals : Cuts " = " (Tree.tokensOfAll [.mark '=' false]) := cuts_piece _ _ fun _ _ _ => rfl
  have hgroup : Cuts ("(" ++ (Text.quote keyword ++ ")"))
      (Tree.tokensOfAll [.group '(' [.literal .string]]) :=
    (cuts_quote keyword).piece "(" [.opening '('] fun _ _ _ => rfl
  have hline : keywordLine property keyword ++ rest = "pub const "
      ++ (Naming.keywordConstant property.name keyword ++ (": "
      ++ (Naming.keywordType property.name ++ (" = " ++ (Naming.keywordType property.name
      ++ ("(" ++ (Text.quote keyword ++ ")") ++ (";\n" ++ rest))))))) := by
    simp [keywordLine, Text.ofString]
  rw [hline]
  exact (LeadsTo.of_cuts cuts_const _).trans
    ((LeadsTo.of_pasted_cuts hname hcolon (fun _ => isSeam_cons (by decide) (by decide) _) _).trans
    ((LeadsTo.of_pasted_cuts htype hequals (fun _ => isSeam_cons (by decide) (by decide) _) _).trans
    ((LeadsTo.of_pasted_cuts htype hgroup (fun _ => isSeam_cons (by decide) (by decide) _) _).trans
    (LeadsTo.of_cuts cuts_end rest))))

/-- The text behind the name of a type's structure, in front of the rest. -/
def behindStructure (property : Property) (rest : Text) : Text :=
  fieldText ++ (Naming.keywordType property.name ++ (implementationText
    ++ (Naming.keywordType property.name ++ (displayText
    ++ (property.keywords.flatMap (keywordLine property) ++ rest)))))

/-- A block of keywords, up to the first place at which a pasted name stands. -/
theorem keywordBlock_append (property : Property) (rest : Text) : keywordBlock property ++ rest =
    "\n" ++ ("/// " ++ (typeNote property ++ ("\n" ++ (structureText
      ++ (Naming.keywordType property.name ++ behindStructure property rest))))) := by
  unfold keywordBlock typeBlock behindStructure structureText fieldText implementationText
    displayText
  simp only [List.append_assoc]

/-- **The block of a type leads to its structure.** -/
theorem leadsTo_structure (h : OpensNothing property.name) (rest : Text) :
    LeadsTo (keywordBlock property ++ rest)
      (structureText ++ (Naming.keywordType property.name ++ behindStructure property rest)) := by
  have hline : Cuts "\n" (Tree.tokensOfAll []) := cuts_piece _ _ fun _ _ _ => rfl
  rw [keywordBlock_append]
  exact (LeadsTo.of_cuts hline _).trans
    ((leadsTo_note (opensNothing_typeNote h) (by simp [structureText, Text.ofString])).trans
    (LeadsTo.of_cuts hline _))

/-- **From there it leads to what stands behind it.** -/
theorem leadsTo_behindStructure (h : OpensNothing property.name)
    (hkeywords : ∀ keyword ∈ property.keywords, OpensNothing keyword) (rest : Text) :
    LeadsTo (Naming.keywordType property.name ++ behindStructure property rest) rest := by
  have htype : OpensNothing (Naming.keywordType property.name) :=
    (opensNothing_pascalCase h).append (opensNothing_of_all (by decide))
  have hlines : LeadsTo (property.keywords.flatMap (keywordLine property) ++ rest) rest :=
    LeadsTo.flatMap
      (fun keyword hkeyword => leadsTo_keywordLine h (hkeywords keyword hkeyword)) rest
  exact (LeadsTo.of_pasted_cuts htype cuts_field
      (fun _ => isSeam_cons (by decide) (by decide) _) _).trans
    ((LeadsTo.of_pasted_cuts htype cuts_implementation
      (fun _ => isSeam_cons (by decide) (by decide) _) _).trans
    ((LeadsTo.of_pasted_cuts htype cuts_display
      (fun _ => isSeam_cons (by decide) (by decide) _) _).trans hlines))

/-- **A block of keywords leads to what stands behind it**, if none of its names opens a comment, a
string or a group. -/
theorem leadsTo_keywordBlock (h : OpensNothing property.name)
    (hkeywords : ∀ keyword ∈ property.keywords, OpensNothing keyword) (rest : Text) :
    LeadsTo (keywordBlock property ++ rest) rest :=
  (leadsTo_structure h rest).trans
    ((LeadsTo.of_cuts cuts_structure _).trans (leadsTo_behindStructure h hkeywords rest))

end TypedStyle.Artifact
