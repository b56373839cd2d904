import TypedStyle.Proofs.Artifact.Reading
import TypedStyle.Proofs.Code.Fronts
import TypedStyle.Proofs.Naming
/-!
# Artifacts for any module

The name of a module may have comments around it, and line breaks in them, so the comment on the
module does not always end with its line.  But what stands behind that line starts with an attribute
of the whole file and closes nothing that was opened in front of it.  So whatever the module is, the
artifact defines what is pasted into it, or it is no code at all.

* `isSealed_code` — the code behind the comment on the module is sealed;
* `eq_identifiers_of_definitions?` — for any module, what an artifact can define.
-/

namespace TypedStyle.Artifact

open Code

variable {artifact : Artifact} {spec : Spec} {property : Property} {name keyword t u rest : Text}
  {module timestamp : Text}

/-! ## Characters of names -/

/-- The characters that start or end a string or a comment, or are part of an escape or of a raw
word. -/
def delimiters : Text :=
  "\"'/*#\\"

/-- None of these characters is in the text. -/
def HasNoDelimiter (t : Text) : Prop :=
  ∀ c ∈ delimiters, c ∉ t

/-- Two texts have no delimiter exactly when the text of both has none. -/
theorem hasNoDelimiter_append : HasNoDelimiter (t ++ u) ↔ HasNoDelimiter t ∧ HasNoDelimiter u := by
  simp [HasNoDelimiter, forall_and]

/-- A word has none of them. -/
theorem IsOneWord.hasNoDelimiter (h : IsOneWord t) : HasNoDelimiter t := by
  have hchars : ∀ c ∈ delimiters, Text.isCodeBlank c = false ∧
      Text.Identifier.isStart c = false ∧ Text.Identifier.isContinue c = false :=
    Text.forall_mem_of_all (by decide +kernel)
  intro c hc hmem
  obtain ⟨hblank, hstart, hcontinue⟩ := hchars c hc
  have hstrip := mem_strip hmem hblank
  unfold IsOneWord at h
  cases hword : Text.strip t with
  | nil => simp [hword] at hstrip
  | cons d word =>
      rw [hword] at h hstrip
      obtain ⟨hd, hall⟩ := Bool.and_eq_true_iff.mp h
      rcases List.mem_cons.mp hstrip with rfl | hbehind
      · rw [hstart] at hd
        exact absurd hd Bool.false_ne_true
      · have hc' := List.all_eq_true.mp hall c hbehind
        rw [hcontinue] at hc'
        exact absurd hc' Bool.false_ne_true

/-- And the name that it is made from has none of them. -/
theorem hasNoDelimiter_of_pascalCase (h : HasNoDelimiter (Naming.pascalCase name)) :
    HasNoDelimiter name := by
  have hchars : ∀ c ∈ delimiters, Text.upperChar c = [c] ∧ c ≠ '-' :=
    Text.forall_mem_of_all (by decide +kernel)
  intro c hc hmem
  obtain ⟨hupper, hne⟩ := hchars c hc
  exact h c hc (Naming.mem_pascalCase hmem hupper hne)

/-! ## Pieces of code -/

/-- Outside of literals, does the character leave open what is open in front of it? -/
def isInert (c : Char) : Bool :=
  c != '"' && c != '\\' && c != '*'

/-- Code whose quotes come in pairs and that closes no comment. -/
structure IsClosed (t : Text) : Prop where
  leavesOpen : LeavesOpen t
  star : '*' ∉ t

/-- In front of such code, the piece is such code too. -/
def KeepsClosed (t : Text) : Prop :=
  ∀ rest, IsClosed rest → IsClosed (t ++ rest)

theorem isClosed_nil : IsClosed [] :=
  ⟨.unquoted (by simp), by simp⟩

namespace KeepsClosed

/-- Closed pieces stay closed in a row. -/
theorem append (ht : KeepsClosed t) (hu : KeepsClosed u) : KeepsClosed (t ++ u) := by
  intro rest h
  rw [List.append_assoc]
  exact ht _ (hu _ h)

/-- So do any number of them. -/
theorem flatMap {α : Type} {pieces : List α} {f : α → Text}
    (h : ∀ a ∈ pieces, KeepsClosed (f a)) : KeepsClosed (pieces.flatMap f) := by
  induction pieces with
  | nil => exact fun _ hrest => hrest
  | cons a pieces ih =>
      obtain ⟨ha, hpieces⟩ := List.forall_mem_cons.mp h
      exact ha.append (ih hpieces)

/-- Outside of literals there are neither quotes nor escapes, and nothing closes a comment. -/
theorem piece (t : Text) (h : t.all isInert = true) : KeepsClosed t := by
  have hne : '"' ∉ t ∧ '\\' ∉ t ∧ '*' ∉ t := by
    refine ⟨?_, ?_, ?_⟩ <;>
    · intro hmem
      exact absurd (List.all_eq_true.mp h _ hmem) (by decide)
  intro rest hrest
  exact ⟨hrest.leavesOpen.append ⟨hne.1, hne.2.1⟩, by simp [hne.2.2, hrest.star]⟩

end KeepsClosed

/-- A text without delimiters keeps code closed. -/
theorem HasNoDelimiter.keepsClosed (h : HasNoDelimiter t) : KeepsClosed t := by
  refine .piece t (List.all_eq_true.mpr fun c hc => ?_)
  have hne : c ≠ '"' ∧ c ≠ '\\' ∧ c ≠ '*' := by
    refine ⟨?_, ?_, ?_⟩ <;>
    · rintro rfl
      exact h _ (by decide) hc
  simpa [isInert, and_assoc] using hne

/-- A character that is none of them is spelled without them, but for escapes. -/
theorem isHarmless_of_mem_escape {c : Char} (h : c ∉ delimiters) :
    ∀ d ∈ Text.Quoted.escape c, IsHarmless d ∧ d ≠ '*' := by
  have hpieces : ∀ d ∈ Text.ofString "\\0trnu\x7b\x7d", IsHarmless d ∧ d ≠ '*' := by
    unfold IsHarmless
    exact Text.forall_mem_of_all (by decide)
  intro d hd
  rcases mem_escape hd with rfl | hpiece | hdigit
  · obtain ⟨hquote, hsingle, hslash, hstar, hhash, -⟩ : d ≠ '"' ∧ d ≠ '\'' ∧ d ≠ '/' ∧ d ≠ '*' ∧
        d ≠ '#' ∧ d ≠ '\\' := by simpa [delimiters, Text.ofString] using h
    exact ⟨⟨hquote, hslash, hsingle, hhash⟩, hstar⟩
  · exact hpieces d hpiece
  · refine ⟨⟨?_, ?_, ?_, ?_⟩, ?_⟩ <;>
    · rintro rfl
      exact absurd hdigit (by decide)

/-- **A literal is a pair of quotes**, if the text in it has none of them. -/
theorem HasNoDelimiter.keepsClosed_literal (ht : HasNoDelimiter t) :
    KeepsClosed (Text.quote t ++ ");\n") := by
  intro rest hrest
  have hspelled : ∀ d ∈ t.flatMap Text.Quoted.escape, IsHarmless d ∧ d ≠ '*' := by
    intro d hd
    obtain ⟨c, hc, hmem⟩ := List.mem_flatMap.mp hd
    exact isHarmless_of_mem_escape (fun hin => ht c hin hc) d hmem
  have hend : IsClosed (Text.ofString ");\n" ++ rest) :=
    KeepsClosed.piece _ (by decide) _ hrest
  have hquote : Text.quote t ++ Text.ofString ");\n" ++ rest = [] ++ '"' ::
      (t.flatMap Text.Quoted.escape ++ '"' :: (Text.ofString ");\n" ++ rest)) := by
    simp [Text.quote]
  have hstar : '*' ∉ t.flatMap Text.Quoted.escape := fun hmem => (hspelled _ hmem).2 rfl
  rw [hquote]
  refine ⟨.pair (by simp) (fun d hd => (hspelled d hd).1) (by simp [Text.ofString])
    hend.leavesOpen, ?_⟩
  simp [hstar, hend.star]

/-! ## Blocks -/

/-- The line of a property keeps code closed, if its constant is one word. -/
theorem keepsClosed_propertyLine (hname : IsOneWord (Naming.constant property.name)) :
    KeepsClosed (propertyLine property) := by
  have hconstant := hname.hasNoDelimiter
  have hliteral := (hasNoDelimiter_of_pascalCase hconstant).keepsClosed_literal
  have hline := (KeepsClosed.piece "pub const " (by decide)).append <|
    hconstant.keepsClosed.append <|
    (KeepsClosed.piece ": Property = Property::new(" (by decide)).append hliteral
  unfold propertyLine
  simpa only [List.append_assoc] using hline

/-- So does the line of a keyword, if its type and its constant are. -/
theorem keepsClosed_keywordLine (htype : IsOneWord (Naming.keywordType property.name))
    (hname : IsOneWord (Naming.keywordConstant property.name keyword)) :
    KeepsClosed (keywordLine property keyword) := by
  have htype := htype.hasNoDelimiter.keepsClosed
  have hsuffix : HasNoDelimiter (Naming.pascalCase keyword) :=
    (hasNoDelimiter_append.mp hname.hasNoDelimiter).2
  have hliteral := (hasNoDelimiter_of_pascalCase hsuffix).keepsClosed_literal
  have hline := (KeepsClosed.piece "pub const " (by decide)).append <|
    hname.hasNoDelimiter.keepsClosed.append <|
    (KeepsClosed.piece ": " (by decide)).append <| htype.append <|
    (KeepsClosed.piece " = " (by decide)).append <| htype.append <|
    (KeepsClosed.piece "(" (by decide)).append hliteral
  unfold keywordLine
  simpa only [List.append_assoc] using hline

/-- So does the text of a keyword type. -/
theorem keepsClosed_typeBlock (htype : IsOneWord (Naming.keywordType property.name)) :
    KeepsClosed (typeBlock property) := by
  have hname : HasNoDelimiter property.name :=
    hasNoDelimiter_of_pascalCase (hasNoDelimiter_append.mp htype.hasNoDelimiter).1
  have htype := htype.hasNoDelimiter.keepsClosed
  have hblock := (KeepsClosed.piece "/// " (by decide)).append <| htype.append <|
    (KeepsClosed.piece " represents values for the " (by decide)).append <|
    hname.keepsClosed.append <|
    (KeepsClosed.piece (" property." ++ ("\n" ++
      ("#[derive(Debug, Clone, Copy, PartialEq, Eq, Hash)]\n"
        ++ "pub struct "))) (by decide)).append <|
    htype.append <|
    (KeepsClosed.piece ("(&'static str);\n\n" ++ "impl ") (by decide)).append <| htype.append <|
    (KeepsClosed.piece (" \x7b\n" ++ ("    pub const fn as_str(self) -> &'static str \x7b\n"
      ++ ("        self.0\n" ++ ("    \x7d\n" ++ ("\x7d\n\n"
      ++ "impl std::fmt::Display for "))))) (by decide)).append <| htype.append <|
    KeepsClosed.piece (" \x7b\n"
      ++ ("    fn fmt(&self, f: &mut std::fmt::Formatter<'_>) -> std::fmt::Result \x7b\n"
      ++ ("        f.write_str(self.0)\n" ++ ("    \x7d\n" ++ "\x7d\n\n")))) (by decide)
  unfold typeBlock typeNote
  simpa only [List.append_assoc] using hblock

/-- **A block of keywords keeps code closed** if all of its names are single words. -/
theorem keepsClosed_keywordBlock (htype : IsOneWord (Naming.keywordType property.name))
    (hnames : ∀ keyword ∈ property.keywords,
      IsOneWord (Naming.keywordConstant property.name keyword)) :
    KeepsClosed (keywordBlock property) :=
  ((KeepsClosed.piece "\n" (by decide)).append (keepsClosed_typeBlock htype)).append <|
    .flatMap fun keyword hkeyword => keepsClosed_keywordLine htype (hnames keyword hkeyword)

/-- **So does the block of a setter.** -/
theorem keepsClosed_setterBlock (hname : IsOneWord (Naming.setter property.name))
    (htype : IsOneWord (Naming.keywordType property.name))
    (hconstant : IsOneWord (Naming.constant property.name)) :
    KeepsClosed (setterBlock property) := by
  have hproperty := hasNoDelimiter_of_pascalCase hconstant.hasNoDelimiter
  have hname := hname.hasNoDelimiter.keepsClosed
  have hblock := (KeepsClosed.piece "\n/// " (by decide)).append <| hname.append <|
    (KeepsClosed.piece " creates a declaration for the " (by decide)).append <|
    hproperty.keepsClosed.append <|
    (KeepsClosed.piece (" property." ++ ("\n" ++ "pub fn ")) (by decide)).append <| hname.append <|
    (KeepsClosed.piece "(v: " (by decide)).append <| htype.hasNoDelimiter.keepsClosed.append <|
    (KeepsClosed.piece (") -> Decl \x7b\n" ++ "    set(") (by decide)).append <|
    hconstant.hasNoDelimiter.keepsClosed.append <|
    KeepsClosed.piece (", Keyword::new(v.as_str()))\n" ++ "\x7d\n") (by decide)
  unfold setterBlock setterNote
  simpa only [List.append_assoc] using hblock

/-- **The definitions of an artifact that pastes names are closed.** -/
theorem PastesNames.isClosed_body (h : artifact.PastesNames spec) :
    IsClosed (artifact.body spec) := by
  have hkeeps : KeepsClosed (artifact.body spec) := by
    cases artifact with
    | properties =>
        exact .flatMap fun property hproperty =>
          keepsClosed_propertyLine (h.constant hproperty).isOneWord
    | keywords =>
        apply KeepsClosed.flatMap
        intro property hproperty
        obtain ⟨htype, hnames⟩ := h.isWellNamed_keyword hproperty
        exact keepsClosed_keywordBlock (IsNameOrSelf.isOneWord (.inl htype))
          fun keyword hkeyword => IsNameOrSelf.isOneWord (.inl (hnames keyword hkeyword))
    | setters =>
        apply KeepsClosed.flatMap
        intro property hproperty
        obtain ⟨hname, htype, hconstant⟩ := h.isWellNamed_setter hproperty
        exact keepsClosed_setterBlock (IsNameOrSelf.isOneWord (.inl hname))
          (IsNameOrSelf.isOneWord (.inl htype)) hconstant.isOneWord
  have hclosed := hkeeps [] isClosed_nil
  rwa [List.append_nil] at hclosed

/-- Nothing closes a comment where two texts meet, if the first does not end in a star. -/
theorem not_infix_append (ht : ¬ ['*', '/'] <:+: t) (hlast : t.getLast? ≠ some '*')
    (hu : '*' ∉ u) : ¬ ['*', '/'] <:+: t ++ u := by
  induction t with
  | nil => exact fun hpart => hu (hpart.subset List.mem_cons_self)
  | cons c t ih =>
      rw [List.infix_cons_iff, not_or] at ht
      rw [List.cons_append, List.infix_cons_iff, not_or]
      cases t with
      | nil =>
          have hc : c ≠ '*' := by simpa using hlast
          refine ⟨fun hprefix => hc ?_, fun hpart => hu (hpart.subset List.mem_cons_self)⟩
          obtain ⟨rfl, -⟩ := List.cons_prefix_cons.mp hprefix
          rfl
      | cons d t =>
          refine ⟨fun hprefix => ht.1 ?_, ih ht.2 (by simpa using hlast)⟩
          obtain ⟨rfl, hslash⟩ := List.cons_prefix_cons.mp hprefix
          obtain ⟨rfl, -⟩ := List.cons_prefix_cons.mp hslash
          exact List.prefix_append _ t

/-- What stands behind the comment on the module. -/
def code (artifact : Artifact) (spec : Spec) (module : Text) : Text :=
  '\n' :: (artifact.preamble module ++ artifact.body spec)

/-- There are only two crates. -/
theorem preamble_cases (artifact : Artifact) (module : Text) :
    artifact.preamble module = artifact.preamble "css" ∨
      artifact.preamble module = artifact.preamble [] := by
  by_cases hmodule : module = "css"
  · exact .inl (by rw [hmodule])
  · have hcrate : runtimeCrate module = runtimeCrate [] := if_neg hmodule
    exact .inr (by cases artifact <;> simp [preamble, hcrate])

/-- **The code behind the comment on the module is sealed.** -/
theorem PastesNames.isSealed_code (h : artifact.PastesNames spec) (module : Text) :
    IsSealed (artifact.code spec module) := by
  have hbody := h.isClosed_body
  have hpreamble : ∀ front ∈ [artifact.preamble "css", artifact.preamble []],
      ('"' ∉ '\n' :: front ∧ '\\' ∉ '\n' :: front) ∧
      ¬ Text.contains ('\n' :: front) ['*', '/'] ∧ ('\n' :: front).getLast? ≠ some '*' := by
    cases artifact <;> decide +kernel
  obtain ⟨hquiet, hcontains, hlast⟩ :=
    hpreamble (artifact.preamble module) (by simpa using artifact.preamble_cases module)
  rw [Text.contains_iff] at hcontains
  exact ⟨hbody.leavesOpen.append hquiet, not_infix_append hcontains hlast hbody.star⟩

/-! ## What an artifact defines -/

/-- The code is what stands behind the back quote of the comment on the module. -/
theorem render_eq (artifact : Artifact) (spec : Spec) (module timestamp : Text) :
    artifact.render spec module timestamp = header spec.version timestamp
      ++ ("//! " ++ (artifact.purpose ++ (" `" ++ module)))
      ++ behindQuote (artifact.code spec module) := by
  simp [render, moduleLines, moduleNote, behindQuote, code, Text.ofString]

/-- **An artifact that pastes its names as single words is spelled as its trees.** -/
theorem PastesNames.spells_code (h : artifact.PastesNames spec) (module : Text) :
    Spells (artifact.code spec module)
      (preambleTrees module artifact ++ bodyTrees spec artifact) := by
  have hblank : Spells "\n" [] := fun _ _ h => h.piece "\n" [] (by decide) fun _ _ => rfl
  exact hblank.append (spells_preamble.append (spells_body h))

/-- A constant cannot be called by the reserved word. -/
theorem itemsOf_self (hself : Text.strip (Naming.constant property.name) = "Self") (rest : Trees)
    (n : Nat) : ItemsOf (readUpTo (n + 20)) (propertyTrees property ++ rest) none := by
  refine ItemsOf.none (by simp [propertyTrees]) rfl ?_
  rw [propertyTrees, wordTree, hself]
  rfl

/-- So constants of which one is called by it are no code. -/
theorem itemsOf_properties {properties : List Property} {n : Nat}
    (hnames : ∀ property ∈ properties, IsNameOrSelf (Naming.constant property.name))
    (hself : ∃ property ∈ properties, isWellNamed (Naming.constant property.name) = false) :
    ItemsOf (readUpTo (n + 20)) (properties.flatMap propertyTrees) none := by
  induction properties with
  | nil => simp at hself
  | cons property properties ih =>
      obtain ⟨hname, hnames⟩ := List.forall_mem_cons.mp hnames
      rw [List.flatMap_cons]
      rcases hname with hwell | hword
      · obtain ⟨other, hother, hill⟩ := hself
        rcases List.mem_cons.mp hother with rfl | hmem
        · rw [hwell] at hill
          contradiction
        · exact defines_property hwell _ _ (ih hnames ⟨other, hmem, hill⟩)
      · exact itemsOf_self hword _ n

/-- Where one constant is no name, a file of properties cannot be read. -/
theorem PastesNames.file_items_none (h : properties.PastesNames spec) {n : Nat} (module : Text)
    (hself : ∃ property ∈ spec.properties, isWellNamed (Naming.constant property.name) = false) :
    file (readUpTo (n + 20)) (preambleTrees module properties ++ bodyTrees spec properties) =
      none := by
  have hbody := itemsOf_properties (n := n) (fun _ hproperty => h.constant hproperty) hself
  have hitems := defines_crate module properties _ none hbody
  exact file_of_itemsOf rfl hitems

/-- **Whatever the module is, an artifact that pastes names defines these**, or it is no code. -/
theorem eq_identifiers_of_definitions? {names : List Text} (h : artifact.PastesNames spec)
    (hdefinitions : artifact.definitions? spec module = some names) :
    names = artifact.identifiers spec := by
  by_cases hplain : artifact.isPlain spec module = true
  · rw [definitions?_of_isPlain hplain] at hdefinitions
    exact (Option.some.inj hdefinitions).symm
  rw [definitions?, if_neg hplain, render_eq] at hdefinitions
  obtain ⟨found, hfound, hread⟩ := exists_trees_of_definitions? hdefinitions
  obtain ⟨front, rfl⟩ := suffix_of_ofText? (h.isSealed_code module) (h.spells_code module) hfound
  obtain ⟨n, rest, hfile⟩ := hread (by cases artifact <;> simp [preambleTrees, allowTrees])
  have hinner : (preambleTrees module artifact ++ bodyTrees spec artifact).startsInner = true := by
    cases artifact <;> rfl
  have hitems := file_of_append hinner hfile
  by_cases hwell : ∀ name ∈ artifact.defined spec, isWellNamed name = true
  · rw [file_items h hwell] at hitems
    exact (Prod.mk.inj (Option.some.inj hitems)).1.symm
  · -- Only the constant of a property can be called by the reserved word.
    simp only [not_forall, Bool.not_eq_true] at hwell
    obtain ⟨name, hname, hill⟩ := hwell
    cases artifact with
    | properties =>
        obtain ⟨property, hproperty, rfl⟩ := List.mem_map.mp hname
        rw [h.file_items_none module ⟨property, hproperty, hill⟩] at hitems
        contradiction
    | keywords =>
        rw [h.isWellNamed_keywords hname] at hill
        contradiction
    | setters =>
        obtain ⟨property, hproperty, rfl⟩ := List.mem_map.mp hname
        rw [(h.isWellNamed_setter hproperty).1] at hill
        contradiction

end TypedStyle.Artifact
