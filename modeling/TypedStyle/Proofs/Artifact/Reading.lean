import TypedStyle.Proofs.Artifact.Trees
import TypedStyle.Proofs.Code.InnerAttributes
/-!
# Plain artifacts as code

The trees of a plain artifact are items, and each item is read whatever the names in it are.  So the
artifact is code, and it defines the names that were pasted into it.

* `defines_property`, `defines_keywordBlock`, `defines_setter` — each block by itself;
* `definitions?_render` — a plain artifact is read as what it is known to define.
-/

namespace TypedStyle.Artifact

open Code Code.Reading

variable {artifact : Artifact} {spec : Spec} {property : Property} {rest : Trees}
  {module timestamp w t : Text} {n : Nat}

/-! ## Names -/

/-- A well pasted name is no reserved word, once the gaps around it are left out. -/
theorem isFree_of_isWellNamed (h : isWellNamed t = true) : IsFree (Text.strip t) := by
  have hreserved := (Bool.and_eq_true_iff.mp h).2
  simpa [IsFree] using hreserved

/-- A name with something else in it is not the underscore. -/
theorem isName_of_isWellNamed (h : isWellNamed t = true) {c : Char} (hmem : c ∈ t)
    (hblank : Text.isCodeBlank c = false) (hne : c ≠ '_') : isName (Text.strip t) = true := by
  have hunderscore : Text.strip t ≠ ['_'] := by
    intro heq
    have hstrip := mem_strip hmem hblank
    rw [heq] at hstrip
    exact hne (List.mem_singleton.mp hstrip)
  have hreserved : Text.strip t ∉ Text.Identifier.reserved := isFree_of_isWellNamed h
  simp [isName, hunderscore, hreserved]

/-- A keyword type begins with a letter or a digit, so it is not `_` alone. -/
theorem isName_keywordType (h : isWellNamed (Naming.keywordType t) = true) :
    isName (Text.strip (Naming.keywordType t)) = true :=
  isName_of_isWellNamed h (c := 'V') (by simp [Naming.keywordType, Text.ofString]) (by decide)
    (by decide)

/-- A setter begins with `Set`, so it is not `_` alone either. -/
theorem isName_setter (h : isWellNamed (Naming.setter t) = true) :
    isName (Text.strip (Naming.setter t)) = true :=
  isName_of_isWellNamed h (c := 'S') (by simp [Naming.setter, Text.ofString]) (by decide)
    (by decide)

/-! ## Constants and types -/

/-- The line of a property is read as the definition of its constant. -/
theorem item_property (h : isWellNamed (Naming.constant property.name) = true) (rest : Trees) :
    readUpTo (n + 20) .item (propertyTrees property ++ rest) =
      some (.definition (Text.strip (Naming.constant property.name)), rest) :=
  itemRule_constant (isFree_of_isWellNamed h) rfl rfl

/-- So it defines this name and no other. -/
theorem defines_property (h : isWellNamed (Naming.constant property.name) = true) :
    Defines (readUpTo (n + 20)) (propertyTrees property)
      [Text.strip (Naming.constant property.name)] :=
  Defines.item (by simp [propertyTrees]) fun rest => ⟨_, _, rfl, item_property h rest⟩

/-- A constant is what its type is called with. -/
theorem defines_keyword {keyword : Text}
    (htype : isName (Text.strip (Naming.keywordType property.name)) = true)
    (hname : IsFree (Text.strip (Naming.keywordConstant property.name keyword))) :
    Defines (readUpTo (n + 20)) (keywordTrees property keyword)
      [Text.strip (Naming.keywordConstant property.name keyword)] := by
  have hitem : ∀ rest, readUpTo (n + 20) .item (keywordTrees property keyword ++ rest) =
      some (.definition (Text.strip (Naming.keywordConstant property.name keyword)), rest) := by
    intro rest
    have hoperand : readUpTo (n + 18) (.operand true) (wordTree (Naming.keywordType property.name)
        :: .group '(' [.literal .string] :: .mark ';' false :: rest) =
          some (.plain, .mark ';' false :: rest) := operandRule_call htype rfl rfl true
    exact itemRule_constant hname (typeRule_name htype ⟨rfl, rfl, rfl, rfl⟩ rfl true)
      ((bind_of hoperand).trans rfl)
  exact Defines.item (by simp [keywordTrees]) fun rest => ⟨_, _, rfl, hitem rest⟩

/-- The head of a keyword type defines the type. -/
theorem defines_structure (h : isName w = true) :
    Defines (readUpTo (n + 20)) (noteTrees ++ deriveTrees ++ structureTrees (.word w)) [w] := by
  have hitem : ∀ rest, readUpTo (n + 20) .item (structureTrees (.word w) ++ rest) =
      some (.definition w, rest) := fun rest => itemRule_structure h rfl
  exact Defines.item (by simp [noteTrees]) fun rest => ⟨_, _, rfl, hitem rest⟩

/-- The implementations behind it define nothing. -/
theorem defines_implementation (h : isName w = true) :
    Defines (readUpTo (n + 20)) (implementationTrees (.word w)) [] := by
  have hitem : ∀ rest, readUpTo (n + 20) .item (implementationTrees (.word w) ++ rest) =
      some (.plain, rest) := fun rest =>
    itemRule_implementation h (typeRule_name h ⟨rfl, rfl, rfl, rfl⟩ rfl true) rfl
  exact Defines.item (by simp [implementationTrees]) fun rest => ⟨_, _, rfl, hitem rest⟩

theorem defines_display (h : isName w = true) :
    Defines (readUpTo (n + 20)) (displayTrees (.word w)) [] := by
  have hitem : ∀ rest, readUpTo (n + 20) .item (displayTrees (.word w) ++ rest) =
      some (.plain, rest) := by
    intro rest
    have htype : readUpTo (n + 19) (.type true) (.word w :: .group '\x7b' showTrees :: rest) =
        some (.path nameForm, .group '\x7b' showTrees :: rest) :=
      typeRule_name h ⟨rfl, rfl, rfl, rfl⟩ rfl true
    have hread : implementationItem (readUpTo (n + 19)) (displayTrees (.word w) ++ rest) =
        some ((), rest) := by
      refine (bind_of rfl).trans ?_
      refine (bind_of rfl).trans ?_
      refine (bind_of rfl).trans ?_
      refine (bind_of (get_eq _)).trans ?_
      refine (bind_of (get_eq _)).trans ?_
      refine (bind_of rfl).trans ?_
      refine (bind_of rfl).trans ?_
      refine (bind_of rfl).trans ?_
      exact (bind_of (discard_of htype)).trans rfl
    refine (bind_of rfl).trans ?_
    refine (bind_of (get_eq _)).trans ?_
    exact (bind_of hread).trans rfl
  exact Defines.item (by simp [displayTrees]) fun rest => ⟨_, _, rfl, hitem rest⟩

/-! ## Setters -/

/-- A name or the underscore is an argument, and so is the reserved word that looks like a name. -/
theorem expression_argument (h : IsFree w ∨ w = "Self") :
    readUpTo (n + 8) (.expression true) (.word w :: .mark ',' false :: rest) =
      some (.plain, .mark ',' false :: rest) := by
  rcases h with h | rfl
  case inr => rfl
  by_cases hunderscore : w = ['_']
  · subst hunderscore
    rfl
  · have hname : isName w = true := by
      have hreserved : w ∉ Text.Identifier.reserved := h
      simp [isName, hunderscore, hreserved]
    have hoperand : readUpTo (n + 7) (.operand true) (.word w :: .mark ',' false :: rest) =
        some (.plain, .mark ',' false :: rest) :=
      operandRule_name hname ⟨⟨rfl, rfl, rfl, rfl⟩, rfl, rfl⟩ rfl true
    exact (bind_of hoperand).trans rfl

/-- What stands behind the first argument of a setter's call. -/
def otherArguments : Trees :=
  pathTrees ["Keyword", "new"]
    ++ [.group '(' [.word "v", .mark '.' false, .word "as_str", .group '(' []]]

/-- The list of the arguments of a keyword constant is read to its end. -/
theorem listed_arguments (h : IsFree w ∨ w = "Self") :
    listed (readUpTo (n + 8) (.expression true)) (.word w :: .mark ',' false :: otherArguments) =
      some ((), []) := by
  let argument : Reading Bool := do
    discard (readUpTo (n + 8) (.expression true))
    maybeMarks [',']
  have hfirst : argument (.word w :: .mark ',' false :: otherArguments) =
      some (true, otherArguments) :=
    (bind_of (discard_of (expression_argument h))).trans rfl
  have hloop : loop (fun goesOn trees => goesOn && !trees.isEmpty && !false) (fun _ => argument)
      true (.word w :: .mark ',' false :: otherArguments) = some (false, []) := by
    refine (loop_eq _ _).trans ?_
    exact (loopUpTo_of_step true otherArguments rfl hfirst _).trans rfl
  exact (bind_of hloop).trans rfl

/-- **The body of a setter** is one statement. -/
theorem statements_setterBody (h : IsFree (Text.strip (Naming.constant property.name)) ∨
    Text.strip (Naming.constant property.name) = "Self") :
    readUpTo (n + 10) .statements (setterBodyTrees property) = some (.plain, []) := by
  have hoperand : readUpTo (n + 9) (.operand true) (setterBodyTrees property) = some (.plain, []) :=
    operandRule_call (by decide) (listed_arguments h) rfl true
  have hearly : earlyExpression (readUpTo (n + 9)) (setterBodyTrees property) =
      some (.plain, []) := by
    refine (bind_of rfl).trans ?_
    refine (bind_of (get_eq _)).trans ?_
    exact (bind_of hoperand).trans rfl
  have hstatement : statement (readUpTo (n + 9)) (setterBodyTrees property) =
      some (.plain, []) := by
    refine (bind_of rfl).trans ?_
    refine (bind_of (get_eq _)).trans ?_
    exact (bind_of hearly).trans rfl
  let step : Reading Bool := do
    if ← maybeMarks ";" then return true
    let form ← statement (readUpTo (n + 9))
    return form = .closed || form = .block || form = .braced
  have hstep : step (setterBodyTrees property) = some (false, []) := by
    refine (bind_of rfl).trans ?_
    exact (bind_of hstatement).trans rfl
  have hloop : loop (fun goesOn trees => goesOn && !trees.isEmpty) (fun _ => step) true
      (setterBodyTrees property) = some (false, []) := by
    refine (loop_eq _ _).trans ?_
    exact (loopUpTo_of_step false [] rfl hstep _).trans rfl
  exact (bind_of hloop).trans rfl

/-- The only input of a setter is a keyword. -/
theorem inputs_setter (h : isName t = true) :
    inputs (readUpTo (n + 10)) [.word "v", .mark ':' false, .word t] = some ((), []) := by
  have htype : readUpTo (n + 10) (.type true) [.word t] = some (.path nameForm, []) :=
    typeRule_name h ⟨rfl, rfl, rfl, rfl⟩ rfl true
  unfold inputs
  refine Eq.trans (bind_of (a := (false, false)) (?_ : _ = some (_, []))) rfl
  refine (loop_eq _ _).trans ?_
  refine (loopUpTo_of_step (false, false) [] rfl ?_ _).trans rfl
  refine (bind_of rfl).trans ?_
  refine (bind_of rfl).trans ?_
  refine (bind_of (get_eq _)).trans ?_
  refine (bind_of rfl).trans ?_
  refine (bind_of rfl).trans ?_
  refine (bind_of rfl).trans ?_
  exact (bind_of (discard_of htype)).trans rfl

/-- **A setter is an item** that defines its name. -/
theorem defines_setter (hname : isName (Text.strip (Naming.setter property.name)) = true)
    (htype : isName (Text.strip (Naming.keywordType property.name)) = true)
    (hconstant : IsFree (Text.strip (Naming.constant property.name)) ∨
      Text.strip (Naming.constant property.name) = "Self") :
    Defines (readUpTo (n + 20)) (setterBlockTrees property)
      [Text.strip (Naming.setter property.name)] := by
  have hitem : ∀ rest, readUpTo (n + 20) .item (setterTrees property ++ rest) =
      some (.definition (Text.strip (Naming.setter property.name)), rest) := by
    intro rest
    have hfront : functionFront (readUpTo (n + 19)) false (setterTrees property ++ rest).tail =
        some (Text.strip (Naming.setter property.name),
          .group '\x7b' (setterBodyTrees property) :: rest) := by
      refine (bind_of rfl).trans ?_
      refine (bind_of rfl).trans ?_
      refine (bind_of rfl).trans ?_
      refine (bind_of rfl).trans ?_
      refine (bind_of rfl).trans ?_
      refine (bind_of (name_word hname)).trans ?_
      refine (bind_of rfl).trans ?_
      exact (bind_of (inside_group (inputs_setter htype))).trans rfl
    have hstatements : discard (readUpTo (n + 19) .statements) (setterBodyTrees property) =
        some ((), []) := discard_of (statements_setterBody hconstant)
    have hbody : blockWithAttributes (readUpTo (n + 19))
        (.group '\x7b' (setterBodyTrees property) :: rest) = some ((), rest) :=
      inside_group ((bind_of rfl).trans hstatements)
    have hfunction : functionItem (readUpTo (n + 19)) false (setterTrees property ++ rest).tail =
        some (.definition (Text.strip (Naming.setter property.name)), rest) := by
      refine (bind_of hfront).trans ?_
      refine (bind_of rfl).trans ?_
      exact (bind_of hbody).trans rfl
    refine (bind_of rfl).trans ?_
    exact (bind_of (get_eq _)).trans hfunction
  exact Defines.item (by simp [setterBlockTrees, noteTrees]) fun rest => ⟨_, _, rfl, hitem rest⟩

/-! ## The whole artifact -/

/-- **A block of keywords defines its type and its keywords**, in the order in which they stand. -/
theorem defines_keywordBlock (htype : isName (Text.strip (Naming.keywordType property.name)) = true)
    (hnames : ∀ keyword ∈ property.keywords,
      IsFree (Text.strip (Naming.keywordConstant property.name keyword))) :
    Defines (readUpTo (n + 20)) (keywordBlockTrees property)
      (Text.strip (Naming.keywordType property.name) :: property.keywords.map fun keyword =>
        Text.strip (Naming.keywordConstant property.name keyword)) := by
  have hkeywords := Defines.map fun keyword hkeyword =>
    defines_keyword (n := n) htype (hnames keyword hkeyword)
  exact (((defines_structure htype).append (defines_implementation htype)).append
    (defines_display htype)).append hkeywords

/-- **The definitions of an artifact**, if the names that are pasted are names. -/
theorem defines_body (h : artifact.PastesNames spec)
    (hnames : ∀ name ∈ artifact.defined spec, isWellNamed name = true) :
    Defines (readUpTo (n + 20)) (artifact.bodyTrees spec) (artifact.identifiers spec) := by
  cases artifact with
  | properties =>
      rw [identifiers, defined, List.map_map]
      exact Defines.map fun property hproperty =>
        defines_property (hnames _ (List.mem_map_of_mem hproperty))
  | keywords =>
      rw [identifiers, defined, List.map_flatMap]
      apply Defines.flatMap
      intro property hproperty
      obtain ⟨htype, hnames⟩ := h.isWellNamed_keyword hproperty
      rw [List.map_cons, List.map_map]
      exact defines_keywordBlock (isName_keywordType htype)
        fun keyword hkeyword => isFree_of_isWellNamed (hnames keyword hkeyword)
  | setters =>
      rw [identifiers, defined, List.map_map]
      apply Defines.map
      intro property hproperty
      obtain ⟨hname, htype, hconstant⟩ := h.isWellNamed_setter hproperty
      exact defines_setter (isName_setter hname) (isName_keywordType htype)
        (hconstant.imp_left isFree_of_isWellNamed)

/-- The import of all that another artifact defines is an item that defines nothing. -/
theorem item_glob (artifact : Artifact) (rest : Trees) :
    readUpTo (n + 20) .item (globTrees artifact ++ rest) = some (.plain, rest) := by
  cases artifact <;> rfl

/-- The import of everything defines nothing. -/
theorem defines_glob (artifact : Artifact) :
    Defines (readUpTo (n + 20)) (globTrees artifact) [] :=
  Defines.item (by simp [globTrees]) fun rest => ⟨_, _, rfl, item_glob artifact rest⟩

/-- An import from the crate is an item, whichever of the two it is. -/
theorem item_crate (module : Text) (hartifact : artifact ≠ .keywords) (rest : Trees) :
    readUpTo (n + 20) .item (crateTrees module artifact ++ rest) = some (.plain, rest) := by
  cases artifact with
  | keywords => contradiction
  | properties | setters =>
      rcases runtimeCrate_cases module with hcrate | hcrate <;> rw [crateTrees, hcrate] <;> rfl

/-- Nor does the import from the crate. -/
theorem defines_crate (module : Text) (artifact : Artifact) :
    Defines (readUpTo (n + 20)) (crateTrees module artifact) [] := by
  cases artifact with
  | keywords => exact defines_nil
  | properties | setters =>
      exact Defines.item (by simp [crateTrees]) fun rest =>
        ⟨_, _, rfl, item_crate module (by decide) rest⟩

/-- **The trees of an artifact are read as what it defines**, if the names in it are names. -/
theorem file_items (h : artifact.PastesNames spec)
    (hnames : ∀ name ∈ artifact.defined spec, isWellNamed name = true) (module : Text) :
    file (readUpTo (n + 20)) (preambleTrees module artifact ++ bodyTrees spec artifact) =
      some (artifact.identifiers spec, []) := by
  have hcrate := (defines_crate (n := n) module artifact).append (defines_body h hnames)
  cases artifact with
  | properties => exact file_of_defines rfl hcrate
  | keywords =>
      refine file_of_defines ?_ hcrate
      -- The block of a type starts with an attribute too, but not with one of the file.
      cases hproperties : spec.keywordProperties with
      | nil => simp [preambleTrees, bodyTrees, crateTrees, hproperties]; rfl
      | cons property others => simp [preambleTrees, bodyTrees, crateTrees, hproperties]; rfl
  | setters =>
      have hglobs := (defines_glob (n := n) .keywords).append (defines_glob .properties)
      exact file_of_defines rfl (hglobs.append hcrate)

/-- The comment on the module is one more attribute of the file. -/
theorem file_trees (h : artifact.isPlain spec module = true) :
    file (readUpTo (n + 20)) (artifact.trees spec module) =
      some (artifact.identifiers spec, []) := by
  have hnames : ∀ name ∈ artifact.defined spec, isWellNamed name = true := fun name hname =>
    List.all_eq_true.mp (Bool.and_eq_true_iff.mp h).2 name (List.mem_append_left _ hname)
  refine file_of_innerAttribute ?_ (file_items (pastesNames_of_isPlain h) hnames module)
  rw [trees, List.append_assoc]
  rfl

/-- The bound on the parts of code that has trees is large enough for the deepest item of an
artifact. -/
theorem exists_bound_of_trees {code : Text} {trees : Trees} (h : Tree.ofText? code = some trees)
    (hne : trees ≠ []) :
    ∃ n, Code.definitions? code = (file (readUpTo (n + 20)) trees).map Prod.fst := by
  obtain ⟨tokens, htokens, htrees⟩ := Option.bind_eq_some_iff.mp h
  have hpositive : 0 < tokens.length := by
    refine List.length_pos_iff.mpr fun hnil => hne ?_
    rw [hnil] at htrees
    exact (Option.some.inj htrees).symm
  obtain ⟨n, hn⟩ : ∃ n, 16 * (tokens.length + 1) = n + 20 :=
    ⟨16 * (tokens.length + 1) - 20, by omega⟩
  refine ⟨n, ?_⟩
  rw [Code.definitions?, htokens, Option.bind_some, definitionsOf?, htrees, hn]
  show (file (readUpTo (n + 20)) trees).bind _ = _
  cases file (readUpTo (n + 20)) trees <;> rfl

/-- Code that defines names has trees, and these are read as what defines the names. -/
theorem exists_trees_of_definitions? {code : Text} {names : List Text}
    (h : Code.definitions? code = some names) :
    ∃ trees, Tree.ofText? code = some trees ∧ (trees ≠ [] →
      ∃ n rest, file (readUpTo (n + 20)) trees = some (names, rest)) := by
  obtain ⟨tokens, htokens, hread⟩ := Option.bind_eq_some_iff.mp h
  obtain ⟨trees, htrees, -⟩ := Option.bind_eq_some_iff.mp hread
  have hcode : Tree.ofText? code = some trees := by
    rw [Tree.ofText?, htokens, Option.bind_some, htrees]
  refine ⟨trees, hcode, fun hne => ?_⟩
  obtain ⟨n, hn⟩ := exists_bound_of_trees hcode hne
  obtain ⟨⟨found, rest⟩, hfile, rfl⟩ := Option.map_eq_some_iff.mp (hn.symm.trans h)
  exact ⟨n, rest, hfile⟩

/-- **A plain artifact is code that defines the names pasted into it**, whatever its version and its
time are. -/
theorem definitions?_render (h : artifact.isPlain spec module = true)
    (htimestamp : '\n' ∉ timestamp) :
    Code.definitions? (artifact.render spec module timestamp) =
      some (artifact.identifiers spec) := by
  obtain ⟨n, hn⟩ := exists_bound_of_trees (spells_render h htimestamp).ofText? (by
    simp [trees, moduleNoteTrees])
  rw [hn, file_trees h]
  rfl

end TypedStyle.Artifact
