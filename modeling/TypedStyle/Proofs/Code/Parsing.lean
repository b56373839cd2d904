import TypedStyle.Code.Definitions
/-!
# Reading code with names in it

How trees are read depends on a name in them only as far as the name is one of a few words.  A name
that is not reserved is read as a name, as a type or as an expression, whatever it is.

* `Reading.bind_of` — a sequence of readings, taken apart;
* `typeRule_name`, `operandRule_name` — a name as a type and as an operand;
* `itemRule_constant`, `itemRule_structure`, `itemRule_implementation` — items with names in them;
* `file_of_itemsOf` — a file is what its items define.
-/

namespace TypedStyle.Code

open Reading

variable {read : Reader} {trees behind rest arguments : Trees} {w : Text}

/-- What is read in sequence goes on from what has been read. -/
theorem Reading.bind_of {α β : Type} {first : Reading α} {others : α → Reading β} {a : α}
    (h : first trees = some (a, behind)) : (first >>= others) trees = others a behind := by
  show (first trees).bind _ = _
  rw [h]
  rfl

/-- What can be read can be read and discarded. -/
theorem Reading.discard_of {α : Type} {reading : Reading α} {a : α}
    (h : reading trees = some (a, behind)) : discard reading trees = some ((), behind) := by
  show (reading trees).bind _ = _
  rw [h]
  rfl

theorem Reading.get_eq (trees : Trees) : (get : Reading Trees) trees = some (trees, trees) :=
  rfl

/-! ## Loops -/

section Loops

variable {α : Type} {test : α → Trees → Bool} {step : α → Reading α} {a : α}

/-- A loop ends where its test fails. -/
theorem loopUpTo_of_not (h : test a trees = false) (bound : Nat) :
    loopUpTo test step bound a trees = some (a, trees) := by
  unfold loopUpTo
  rw [h]
  rfl

/-- A loop goes on behind its first step. -/
theorem loopUpTo_of_step (b : α) (rest : Trees) (htest : test a trees = true)
    (hstep : step a trees = some (b, rest)) (bound : Nat) :
    loopUpTo test step (bound + 1) a trees = loopUpTo test step bound b rest := by
  rw [loopUpTo, htest, hstep]
  rfl

/-- A loop that ends within its bound ends in the same way within a larger one. -/
theorem loopUpTo_mono {b : α} {bound more : Nat} (hle : bound ≤ more)
    (h : loopUpTo test step bound a trees = some (b, rest)) :
    loopUpTo test step more a trees = some (b, rest) := by
  induction bound generalizing a trees more with
  | zero =>
      unfold loopUpTo at h
      split at h
      · contradiction
      · next htest =>
        rw [loopUpTo_of_not (Bool.eq_false_iff.mpr htest)]
        exact h
  | succ bound ih =>
      obtain ⟨others, rfl⟩ : ∃ others, more = others + 1 := ⟨more - 1, by omega⟩
      unfold loopUpTo at h ⊢
      split at h
      · next htest =>
        obtain ⟨⟨c, mid⟩, hstep, hloop⟩ := Option.bind_eq_some_iff.mp h
        rw [if_pos htest]
        exact Option.bind_eq_some_iff.mpr ⟨(c, mid), hstep, ih (by omega) hloop⟩
      · next htest =>
        rw [if_neg htest]
        exact h

/-- Where a loop has ended, its test fails. -/
theorem test_of_loopUpTo {b : α} {bound : Nat}
    (h : loopUpTo test step bound a trees = some (b, rest)) : test b rest = false := by
  induction bound generalizing a trees with
  | zero =>
      unfold loopUpTo at h
      split at h
      · contradiction
      · next htest =>
        obtain ⟨rfl, rfl⟩ := Prod.mk.inj (Option.some.inj h)
        exact Bool.eq_false_iff.mpr htest
  | succ bound ih =>
      unfold loopUpTo at h
      split at h
      · obtain ⟨⟨c, mid⟩, -, hloop⟩ := Option.bind_eq_some_iff.mp h
        exact ih hloop
      · next htest =>
        obtain ⟨rfl, rfl⟩ := Prod.mk.inj (Option.some.inj h)
        exact Bool.eq_false_iff.mpr htest

/-- The bound of a loop is the number of trees. -/
theorem loop_eq (a : α) (trees : Trees) :
    loop test step a trees = loopUpTo test step trees.length a trees := by
  unfold loop
  split
  · rfl
  · next h => exact (loopUpTo_of_not (Bool.eq_false_iff.mpr h) _).symm

/-- If every step takes some trees, a loop that ends at all ends within its bound. -/
theorem loop_of_loopUpTo {b : α} {bound : Nat}
    (hshorter : ∀ (a b : α) (trees rest : Trees), step a trees = some (b, rest) →
      rest.length < trees.length)
    (h : loopUpTo test step bound a trees = some (b, rest)) :
    loop test step a trees = some (b, rest) := by
  rw [loop_eq]
  induction bound generalizing a trees with
  | zero =>
      unfold loopUpTo at h
      split at h
      · contradiction
      · next htest =>
        rw [loopUpTo_of_not (Bool.eq_false_iff.mpr htest)]
        exact h
  | succ bound ih =>
      unfold loopUpTo at h
      split at h
      · next htest =>
        obtain ⟨⟨c, mid⟩, hstep, hloop⟩ := Option.bind_eq_some_iff.mp h
        have hlength := hshorter _ _ _ _ hstep
        obtain ⟨more, hmore⟩ : ∃ more, trees.length = more + 1 := ⟨trees.length - 1, by omega⟩
        rw [hmore, loopUpTo_of_step c mid htest hstep]
        exact loopUpTo_mono (by omega) (ih hloop)
      · next htest =>
        rw [loopUpTo_of_not (Bool.eq_false_iff.mpr htest)]
        exact h

end Loops

/-! ## Words that are not reserved -/

/-- The word is not reserved; it may be the underscore. -/
def IsFree (w : Text) : Prop :=
  w ∉ Text.Identifier.reserved

/-- An identifier is no reserved word. -/
theorem isFree_of_isName (h : isName w = true) : IsFree w := by
  have hreserved := (Bool.and_eq_true_iff.mp h).2
  simpa [IsFree] using hreserved

/-- A word that is not reserved is none of some reserved words. -/
theorem startsWord_of_isFree (h : IsFree w) {words : List String}
    (hwords : ∀ word ∈ words, Text.ofString word ∈ Text.Identifier.reserved) :
    Trees.startsWord words (.word w :: rest) = false := by
  refine List.any_eq_false.mpr fun word hword heq => h ?_
  rw [← of_decide_eq_true heq]
  exact hwords word hword

/-- An identifier is read as a name. -/
theorem name_word (h : isName w = true) : name (.word w :: rest) = some (w, rest) :=
  if_pos h

/-- The underscore may stand for a name in some places. -/
theorem nameOr_underscore (h : IsFree w) :
    nameOr ["_"] (.word w :: rest) = some (w, rest) := by
  unfold nameOr
  split
  · rfl
  · next hother =>
    apply name_word
    have hne : w ≠ ['_'] := by
      rintro rfl
      exact hother rfl
    have hreserved : w ∉ Text.Identifier.reserved := h
    simp [isName, hne, hreserved]

/-- It is read so too where some reserved words may stand for a name. -/
theorem nameOr_of_isName (h : isName w = true) {words : List String}
    (hwords : ∀ word ∈ words, Text.ofString word ∈ Text.Identifier.reserved) :
    nameOr words (.word w :: rest) = some (w, rest) := by
  rw [nameOr, startsWord_of_isFree (isFree_of_isName h) hwords]
  exact name_word h

/-! ## Names as paths -/

/-- No path goes on here, and neither do bounds, templates and arguments. -/
structure EndsPath (rest : Trees) : Prop where
  angle : rest.starts "<" = false
  colons : rest.starts "::" = false
  template : rest.starts "!" = false
  plus : rest.starts "+" = false

/-- The form of a single name. -/
def nameForm : PathForm :=
  ⟨false, true, true, .none⟩

/-- A path may be this name alone. -/
theorem nameOfPath_name (h : isName w = true) (hrest : EndsPath rest) (isExpression : Bool) :
    nameOfPath read isExpression (.word w :: rest) = some (.none, rest) := by
  have hfree := isFree_of_isName h
  refine (bind_of (get_eq _)).trans ?_
  rw [startsWord_of_isFree hfree (by decide)]
  refine (bind_of (discard_of (nameOr_of_isName h (by decide)))).trans ?_
  refine (bind_of (get_eq _)).trans ?_
  rw [hrest.angle, hrest.colons]
  cases isExpression <;> rfl

/-- **A name is a path.** -/
theorem namedPath_name (h : isName w = true) (hrest : EndsPath rest) (isExpression : Bool) :
    namedPath read isExpression (.word w :: rest) = some (nameForm, rest) := by
  have hroot : maybeMarks "::" (.word w :: rest) = some (false, .word w :: rest) := rfl
  refine (bind_of hroot).trans ?_
  refine (bind_of (nameOfPath_name h hrest isExpression)).trans ?_
  simp [moreNames, loop, hrest.colons, nameForm]

/-- **An identifier is read as a path** where no path goes on behind it. -/
theorem path_name (h : isName w = true) (hrest : EndsPath rest) (isExpression : Bool) :
    path read isExpression (.word w :: rest) = some (nameForm, rest) :=
  (bind_of (get_eq _)).trans (namedPath_name h hrest isExpression)

/-- So a path starts at it. -/
theorem startsPath_name (h : isName w = true) : Trees.startsPath (.word w :: rest) = true := by
  simp [Trees.startsPath, Trees.startsName, h]

/-- **A name is a type**, where neither arguments nor bounds follow it. -/
theorem typeRule_name (h : isName w = true) (hrest : EndsPath rest)
    (hgroup : rest.startsGroup '(' = false) (mayAdd : Bool) :
    typeRule read mayAdd (.word w :: rest) = some (.path nameForm, rest) := by
  have hfree := isFree_of_isName h
  have hfor : maybe (Trees.startsWord ["for"]) (lifetimes read) (.word w :: rest) =
      some (false, .word w :: rest) := by
    rw [maybe, startsWord_of_isFree hfree (by decide)]
    rfl
  have hpath : pathOfType read (.word w :: rest) = some (nameForm, rest) := by
    refine (bind_of (path_name h hrest false)).trans ?_
    simp [loop, startsBracketed, hgroup, hrest.colons]
  have htype : pathType read mayAdd false (.word w :: rest) = some (.path nameForm, rest) := by
    have htemplate : startsTemplate nameForm rest = false := by
      simp [startsTemplate, hrest.template]
    refine (bind_of hpath).trans ?_
    refine (bind_of (get_eq _)).trans ?_
    rw [htemplate, hrest.plus, Bool.and_false]
    rfl
  refine (bind_of hfor).trans ?_
  refine (bind_of (get_eq _)).trans ?_
  rw [startsPath_name h, startsWord_of_isFree hfree (by decide)]
  exact htype

/-! ## Names in expressions -/

/-- No expression goes on here, except with a call. -/
structure EndsOperand (rest : Trees) : Prop extends EndsPath rest where
  braces : rest.startsGroup '\x7b' = false
  hash : rest.starts "#" = false

/-- An expression may be a name alone. -/
theorem named_name (h : isName w = true) (hrest : EndsOperand rest) (mayBuild : Bool) :
    named read mayBuild (.word w :: rest) = some (.plain, rest) := by
  have htemplate : startsTemplate nameForm rest = false := by
    simp [startsTemplate, hrest.template]
  refine (bind_of (path_name h hrest.toEndsPath true)).trans ?_
  refine (bind_of (get_eq _)).trans ?_
  rw [htemplate, hrest.braces, Bool.and_false]
  rfl

/-- **A name is an operand** without anything that goes on from it. -/
theorem atom_name (h : isName w = true) (hrest : EndsOperand rest) (mayBuild : Bool) :
    atom read mayBuild (.word w :: rest) = some (.plain, rest) := by
  have hfree := isFree_of_isName h
  have hliteral : Trees.startsLiteral (.word w :: rest) = false := by
    show Trees.startsWord ["true", "false"] (.word w :: rest) = false
    exact startsWord_of_isFree hfree (by decide)
  have hblock : startsBlock (.word w :: rest) = false := by
    unfold startsBlock
    simp (disch := decide) only [startsWord_of_isFree hfree]
    rfl
  have hclosure : startsClosure (.word w :: rest) = false := by
    unfold startsClosure
    simp (disch := decide) only [startsWord_of_isFree hfree]
    rfl
  have hlater : Trees.later (.word w :: rest) = rest := rfl
  refine (bind_of (get_eq _)).trans ?_
  rw [hliteral, hblock, hclosure, hlater, hrest.hash, Bool.and_false, startsPath_name h,
    startsWord_of_isFree hfree (by decide)]
  exact named_name h hrest mayBuild

/-- **A name is an operand**, where no call follows it either. -/
theorem operandRule_name (h : isName w = true) (hrest : EndsOperand rest)
    (hgoes : goesOn .plain rest = false) (mayBuild : Bool) :
    operandRule read mayBuild (.word w :: rest) = some (.plain, rest) := by
  have hattributes : attributes read (.word w :: rest) = some (false, .word w :: rest) := rfl
  have htrailers : trailers read .plain rest = some (.plain, rest) := by
    simp [trailers, loop, hgoes]
  refine (bind_of hattributes).trans ?_
  refine (bind_of (get_eq _)).trans ?_
  refine (bind_of (atom_name h hrest mayBuild)).trans ?_
  refine (bind_of htrailers).trans ?_
  rfl

/-! ## Calls -/

/-- A call goes on from what has been read, and nothing goes on from the call. -/
theorem trailers_call (hargs : listed (read (.expression true)) arguments = some ((), []))
    (hgoes : goesOn .plain rest = false) :
    trailers read .plain (.group '(' arguments :: rest) = some (.plain, rest) := by
  have hcall : call read (.group '(' arguments :: rest) = some ((), rest) := inside_group hargs
  refine (loop_eq _ _).trans ?_
  refine (loopUpTo_of_step .plain rest rfl ?_ _).trans (loopUpTo_of_not hgoes _)
  refine (bind_of (get_eq _)).trans ?_
  exact (bind_of hcall).trans rfl

/-- **The call of a name is an operand.** -/
theorem operandRule_call (h : isName w = true)
    (hargs : listed (read (.expression true)) arguments = some ((), []))
    (hgoes : goesOn .plain rest = false) (mayBuild : Bool) :
    operandRule read mayBuild (.word w :: .group '(' arguments :: rest) = some (.plain, rest) := by
  have hattributes : attributes read (.word w :: .group '(' arguments :: rest) =
      some (false, .word w :: .group '(' arguments :: rest) := rfl
  refine (bind_of hattributes).trans ?_
  refine (bind_of (get_eq _)).trans ?_
  refine (bind_of (atom_name h ⟨⟨rfl, rfl, rfl, rfl⟩, rfl, rfl⟩ mayBuild)).trans ?_
  exact (bind_of (trailers_call hargs hgoes)).trans rfl

/-! ## Items -/

variable {type value : Trees} {typeForm valueForm : Form}

/-- A value behind its mark is read if it is an expression. -/
theorem maybeValue_eq (h : read (.expression true) value = some (valueForm, rest)) :
    maybeValue read (.mark '=' false :: value) = some (true, rest) := by
  have hvalue : (do marks "="; discard (read (.expression true)) : Reading Unit)
      (.mark '=' false :: value) = some ((), rest) :=
    (bind_of rfl).trans (discard_of h)
  show Option.map _ _ = _
  rw [hvalue]
  rfl

/-- **A constant defines its name.** -/
theorem constantItem_name (hfree : IsFree w)
    (htype : read (.type true) type = some (typeForm, .mark '=' false :: value))
    (hvalue : read (.expression true) value = some (valueForm, .mark ';' false :: rest)) :
    constantItem read (.word "const" :: .word w :: .mark ':' false :: type) =
      some (.definition w, rest) := by
  refine (bind_of rfl).trans ?_
  refine (bind_of (nameOr_underscore hfree)).trans ?_
  refine (bind_of rfl).trans ?_
  refine (bind_of rfl).trans ?_
  refine (bind_of (discard_of htype)).trans ?_
  refine (bind_of (maybeValue_eq hvalue)).trans ?_
  rfl

/-- Where a constant is defined, no function starts. -/
theorem startsFunction_constant (hfree : IsFree w) :
    startsFunction false (.word "const" :: .word w :: rest) = false := by
  have hconst : Trees.startsWord ["const"] (.word "const" :: .word w :: rest) = true := rfl
  have hlater : Trees.later (.word "const" :: .word w :: rest) = .word w :: rest := rfl
  unfold startsFunction
  simp (disch := decide) [hconst, hlater, startsWord_of_isFree hfree]

/-- **A public constant is an item that defines its name**, whatever its type and its value are. -/
theorem itemRule_constant (hfree : IsFree w)
    (htype : read (.type true) type = some (typeForm, .mark '=' false :: value))
    (hvalue : read (.expression true) value = some (valueForm, .mark ';' false :: rest)) :
    itemRule read (.word "pub" :: .word "const" :: .word w :: .mark ':' false :: type) =
      some (.definition w, rest) := by
  have hvisible : visibility (.word "pub" :: .word "const" :: .word w :: .mark ':' false :: type) =
      some (true, .word "const" :: .word w :: .mark ':' false :: type) := rfl
  refine (bind_of hvisible).trans ?_
  refine (bind_of (get_eq _)).trans ?_
  rw [startsFunction_constant hfree]
  exact constantItem_name hfree htype hvalue

/-- **A structure defines its name**; its fields stand in round brackets. -/
theorem itemRule_structure {fields : Trees} (h : isName w = true)
    (hfields : tuple read (.group '(' fields :: .mark ';' false :: rest) =
      some ((), .mark ';' false :: rest)) :
    itemRule read (.word "pub" :: .word "struct" :: .word w :: .group '(' fields
      :: .mark ';' false :: rest) = some (.definition w, rest) := by
  have hvisible : visibility (.word "pub" :: .word "struct" :: .word w :: .group '(' fields
      :: .mark ';' false :: rest) =
      some (true, .word "struct" :: .word w :: .group '(' fields :: .mark ';' false :: rest) := rfl
  have hstructure : structureItem read (.word "struct" :: .word w :: .group '(' fields
      :: .mark ';' false :: rest) = some (.definition w, rest) := by
    refine (bind_of rfl).trans ?_
    refine (bind_of (name_word h)).trans ?_
    refine (bind_of rfl).trans ?_
    refine (bind_of rfl).trans ?_
    refine (bind_of (get_eq _)).trans ?_
    refine (bind_of hfields).trans ?_
    rfl
  refine (bind_of hvisible).trans ?_
  exact (bind_of (get_eq _)).trans hstructure

/-- An implementation for a named type, of what the type has by itself. -/
theorem itemRule_implementation {content : Trees} (h : isName w = true)
    (htype : read (.type true) (.word w :: .group '\x7b' content :: rest) =
      some (typeForm, .group '\x7b' content :: rest))
    (hmembers : members read (implementationMember read) (.group '\x7b' content :: rest) =
      some ((), rest)) :
    itemRule read (.word "impl" :: .word w :: .group '\x7b' content :: rest) =
      some (.plain, rest) := by
  have hitem : implementationItem read (.word "impl" :: .word w :: .group '\x7b' content :: rest) =
      some ((), rest) := by
    refine (bind_of rfl).trans ?_
    refine (bind_of rfl).trans ?_
    refine (bind_of rfl).trans ?_
    refine (bind_of (get_eq _)).trans ?_
    refine (bind_of (get_eq _)).trans ?_
    rw [List.tail_cons, startsWord_of_isFree (isFree_of_isName h) (by decide)]
    refine (bind_of rfl).trans ?_
    refine (bind_of (discard_of htype)).trans ?_
    refine (bind_of rfl).trans ?_
    refine (bind_of rfl).trans ?_
    exact hmembers
  refine (bind_of rfl).trans ?_
  refine (bind_of (get_eq _)).trans ?_
  exact (bind_of hitem).trans rfl

/-! ## Files -/

/-- The name that an item defines, if it does. -/
def Form.names : Form → List Text
  | .definition name => [name]
  | _ => []

/-- Reads an item behind its attributes, with the names found so far, of which the last is first. -/
def itemOfFile (read : Reader) (found : List Text) : Reading (List Text) := do
  discard (attributes read)
  match ← read .item with
  | .definition name => return name :: found
  | _ => return found

/-- The trees are items to the end, and these define the names; or there is something wrong. -/
def ItemsOf (read : Reader) (trees : Trees) (names : Option (List Text)) : Prop :=
  ∀ bound found, trees.length ≤ bound →
    loopUpTo (fun _ trees => !trees.isEmpty) (itemOfFile read) bound found trees =
      names.map fun names => (names.reverse ++ found, [])

/-- The trees are items that define these names, whatever stands behind them. -/
def Defines (read : Reader) (trees : Trees) (names : List Text) : Prop :=
  ∀ rest others, ItemsOf read rest others → ItemsOf read (trees ++ rest) (others.map (names ++ ·))

/-- Where nothing stands, nothing is defined. -/
theorem itemsOf_nil : ItemsOf read [] (some []) :=
  fun _ _ _ => loopUpTo_of_not rfl _

theorem defines_nil : Defines read [] [] := by
  intro rest others h
  cases others <;> exact h

/-- Items in a row define what they define, in this order. -/
theorem Defines.append {a b : Trees} {c d : List Text} (ha : Defines read a c)
    (hb : Defines read b d) : Defines read (a ++ b) (c ++ d) := by
  intro rest others h
  have hboth := ha _ _ (hb _ _ h)
  rw [Option.map_map] at hboth
  rw [List.append_assoc]
  simpa only [Function.comp_def, List.append_assoc] using hboth

/-- One block after the other. -/
theorem Defines.flatMap {α : Type} {items : List α} {block : α → Trees} {named : α → List Text}
    (h : ∀ item ∈ items, Defines read (block item) (named item)) :
    Defines read (items.flatMap block) (items.flatMap named) := by
  induction items with
  | nil => exact defines_nil
  | cons item items ih =>
      obtain ⟨hitem, hitems⟩ := List.forall_mem_cons.mp h
      exact hitem.append (ih hitems)

/-- Blocks that define one name each. -/
theorem Defines.map {α : Type} {items : List α} {block : α → Trees} {name : α → Text}
    (h : ∀ item ∈ items, Defines read (block item) [name item]) :
    Defines read (items.flatMap block) (items.map name) := by
  rw [List.map_eq_flatMap]
  exact Defines.flatMap h

/-- An item is read behind its attributes. -/
theorem itemOfFile_of_item {form : Form} {hasAttributes : Bool}
    (hattributes : attributes read trees = some (hasAttributes, behind))
    (hitem : read .item behind = some (form, rest)) (found : List Text) :
    itemOfFile read found trees = some (form.names.reverse ++ found, rest) := by
  refine (bind_of (discard_of hattributes)).trans ?_
  refine (bind_of hitem).trans ?_
  cases form <;> rfl

/-- **An item defines its name**, behind its attributes. -/
theorem Defines.item {form : Form} (hne : trees ≠ [])
    (hread : ∀ rest, ∃ hasAttributes behind,
      attributes read (trees ++ rest) = some (hasAttributes, behind) ∧
        read .item behind = some (form, rest)) :
    Defines read trees form.names := by
  intro rest others h bound found hbound
  obtain ⟨hasAttributes, behind, hattributes, hitem⟩ := hread rest
  have hpositive : 0 < trees.length := List.length_pos_iff.mpr hne
  rw [List.length_append] at hbound
  obtain ⟨more, rfl⟩ : ∃ more, bound = more + 1 := ⟨bound - 1, by omega⟩
  have hstep := itemOfFile_of_item hattributes hitem found
  have htest : (!(trees ++ rest).isEmpty) = true := by
    cases trees with
    | nil => contradiction
    | cons tree trees => rfl
  rw [loopUpTo_of_step _ _ htest hstep, h more _ (by omega), Option.map_map]
  simp [Function.comp_def]

/-- Where no item can be read, there is something wrong. -/
theorem ItemsOf.none (htest : trees ≠ []) (hattributes : trees.starts "#" = false)
    (hitem : read .item trees = .none) : ItemsOf read trees .none := by
  intro bound found _
  have hstep : itemOfFile read found trees = .none := by
    refine (bind_of (discard_of (attributes_of_not_starts read hattributes))).trans ?_
    show (read .item trees).bind _ = _
    rw [hitem]
    rfl
  have htest : (!trees.isEmpty) = true := by simpa using htest
  unfold loopUpTo
  rw [htest]
  cases bound with
  | zero => rfl
  | succ bound =>
      show (itemOfFile read found trees).bind _ = _
      rw [hstep]
      rfl

/-- Where the same is found behind their inner attributes, two files define the same. -/
theorem file_congr {a b c d : Trees} (ha : innerAttributes read a = some ((), c))
    (hb : innerAttributes read b = some ((), d))
    (h : loop (fun _ trees => !trees.isEmpty) (itemOfFile read) [] c =
      loop (fun _ trees => !trees.isEmpty) (itemOfFile read) [] d) : file read a = file read b := by
  refine (bind_of ha).trans (Eq.trans ?_ (bind_of hb).symm)
  show (loop (fun _ trees => !trees.isEmpty) (itemOfFile read) [] c).bind _ =
    (loop (fun _ trees => !trees.isEmpty) (itemOfFile read) [] d).bind _
  rw [h]

/-- **A file is its inner attributes and items.** -/
theorem file_of_itemsOf {names : Option (List Text)}
    (hinner : innerAttributes read trees = some ((), rest)) (h : ItemsOf read rest names) :
    file read trees = names.map (·, []) := by
  have hloop : loop (fun _ trees => !trees.isEmpty) (itemOfFile read) [] rest =
      names.map fun names => (names.reverse, []) := by
    rw [loop_eq, h _ _ (Nat.le_refl _)]
    simp
  refine (bind_of hinner).trans ?_
  show (loop (fun _ trees => !trees.isEmpty) (itemOfFile read) [] rest).bind _ = _
  rw [hloop]
  cases names with
  | none => rfl
  | some names =>
      show some (names.reverse.reverse, []) = _
      rw [List.reverse_reverse]
      rfl

/-- **A file defines what its items define**, once its own attributes are passed over. -/
theorem file_of_defines {names : List Text} (hinner : innerAttributes read trees = some ((), rest))
    (h : Defines read rest names) : file read trees = some (names, []) := by
  have hitems := h [] _ itemsOf_nil
  rw [List.append_nil] at hitems
  simpa using file_of_itemsOf hinner hitems

end TypedStyle.Code
