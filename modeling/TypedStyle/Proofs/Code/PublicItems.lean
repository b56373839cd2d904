import TypedStyle.Proofs.Code.InnerAttributes
/-!
# Items that can be seen from everywhere

The word for what can be seen from everywhere is taken only where an item starts.  So in a file that
can be read, such an item is read as an item wherever it stands outside of all groups, whatever
stands in front of it.

* `ReadsItems` — trees that are items to the end, and what these define;
* `exists_readsItems_of_file` — a file is read on from an item that can be seen from everywhere;
* `ReadsItems.readsFrom` — so are all items behind it;
* `exists_of_constant`, `exists_of_structure` — what stands behind the name of such an item.
-/

namespace TypedStyle.Code

open Reading Landmark

variable {read : Reader} {n : Nat} {names : List Text} {spot trees mid rest : Trees} {form : Form}

/-- The trees are items to the end, each behind its attributes, and these define the names. -/
inductive ReadsItems (read : Reader) : Trees → List Text → Prop where
  | nil : ReadsItems read [] []
  | cons {trees mid rest : Trees} {names : List Text} {form : Form} {hasAttributes : Bool}
      (hattributes : attributes read trees = some (hasAttributes, mid))
      (hitem : read .item mid = some (form, rest)) (hrest : ReadsItems read rest names) :
      ReadsItems read trees (form.names ++ names)

/-- An item of a file adds the names that it defines to those that have been found. -/
theorem exists_of_itemOfFile {found last : List Text}
    (h : itemOfFile read found trees = some (last, rest)) :
    ∃ hasAttributes mid form, attributes read trees = some (hasAttributes, mid) ∧
      read .item mid = some (form, rest) ∧ last = form.names.reverse ++ found := by
  obtain ⟨_, mid, hattributes, hothers⟩ := exists_of_bind h
  obtain ⟨hasAttributes, hattributes⟩ := exists_of_discard hattributes
  obtain ⟨form, behind, hitem, hfound⟩ := exists_of_bind hothers
  refine ⟨hasAttributes, mid, form, hattributes, ?_⟩
  cases form <;>
  · obtain ⟨rfl, rfl⟩ := Prod.mk.inj (Option.some.inj hfound)
    exact ⟨hitem, rfl⟩

/-- A loop over a file that comes to its end has read items, and it has found the names that they
define. -/
theorem exists_readsItems_of_loopUpTo {bound : Nat} {found last : List Text}
    (h : loopUpTo (fun _ trees => !trees.isEmpty) (itemOfFile read) bound found trees =
      some (last, [])) : ∃ names, ReadsItems read trees names ∧ last = names.reverse ++ found := by
  induction bound generalizing found trees with
  | zero =>
      unfold loopUpTo at h
      split at h
      · contradiction
      · obtain ⟨rfl, rfl⟩ := Prod.mk.inj (Option.some.inj h)
        exact ⟨[], .nil, rfl⟩
  | succ bound ih =>
      unfold loopUpTo at h
      split at h
      · obtain ⟨⟨between, behind⟩, hstep, hloop⟩ := Option.bind_eq_some_iff.mp h
        obtain ⟨_, mid, form, hattributes, hitem, rfl⟩ := exists_of_itemOfFile hstep
        obtain ⟨names, hnames, rfl⟩ := ih hloop
        exact ⟨form.names ++ names, .cons hattributes hitem hnames, by simp⟩
      · obtain ⟨rfl, rfl⟩ := Prod.mk.inj (Option.some.inj h)
        exact ⟨[], .nil, rfl⟩

/-! ## Items behind others -/

/-- How far an item can be seen is said in front of the landmark. -/
theorem isAhead_of_visibility {isVisible : Bool} (hspot : spot.StartsPublic) (h : spot <:+ trees)
    (hread : visibility trees = some (isVisible, rest)) : spot.IsAhead rest := by
  by_cases hpublic : trees.startsWord ["pub"] = true
  · obtain ⟨_, hmem, htrees⟩ := exists_of_startsWord hpublic
    obtain rfl := List.mem_singleton.mp hmem
    obtain ⟨first, behind, rfl, hfirst, hquote⟩ := hspot
    have htail : first :: .word "pub" :: behind <:+ trees.tail := by
      rw [htrees] at h
      rcases List.suffix_cons_iff.mp h with heq | htail
      · exact absurd (List.cons.inj heq).1 hfirst
      · exact htail
    have hword : word "pub" trees = some ((), trees.tail) := if_pos hpublic
    change maybe (Trees.startsWord ["pub"]) (word "pub" >>= fun _ => scope) trees = _ at hread
    rw [maybe, if_pos hpublic, bind_of hword] at hread
    obtain ⟨⟨u, behind⟩, hscope, heq⟩ := Option.map_eq_some_iff.mp hread
    obtain ⟨-, rfl⟩ := Prod.mk.inj heq
    have hleads := (keeps_scope (m := .publicWord)).leads hscope
    exact hleads _ ⟨first, _, rfl, hfirst, hquote⟩ (.inl htail)
  · rw [visibility_of_not_starts (Bool.eq_false_iff.mpr hpublic)] at hread
    obtain ⟨-, rfl⟩ := Prod.mk.inj (Option.some.inj hread)
    exact .inl h

/-- An item leaves the landmark in place. -/
theorem isAhead_of_item (hspot : spot.StartsPublic) (h : spot <:+ trees)
    (hread : readUpTo n .item trees = some (form, rest)) : spot.IsAhead rest := by
  cases n with
  | zero => contradiction
  | succ n =>
      obtain ⟨others, heq, hothers⟩ := exists_itemRule_eq publicWord (readUpTo n)
      change itemRule (readUpTo n) trees = _ at hread
      rw [heq] at hread
      obtain ⟨isVisible, mid, hvisible, hitem⟩ := exists_of_bind hread
      exact (hothers isVisible).leads hitem spot hspot (isAhead_of_visibility hspot h hvisible)

/-- **Items are read on from the word** for what can be seen from everywhere. -/
theorem ReadsItems.exists_of_ahead (h : ReadsItems (readUpTo n) trees names)
    (hspot : spot.StartsPublic) (hahead : spot.IsAhead trees) :
    ∃ others, ReadsItems (readUpTo n) spot.tail others ∧ others <:+ names := by
  induction h with
  | nil =>
      obtain ⟨first, behind, rfl, -⟩ := hspot
      rcases hahead with hsuffix | heq
      · simp at hsuffix
      · simp at heq
  | @cons trees mid rest names form hasAttributes hattributes hitem hrest ih =>
      have hleads := (keeps_attributes (m := .publicWord)).leads hattributes
      rcases hleads spot hspot hahead with hsuffix | rfl
      · obtain ⟨others, hothers, hnames⟩ := ih (isAhead_of_item hspot hsuffix hitem)
        exact ⟨others, hothers, hnames.trans (List.suffix_append _ _)⟩
      · have hnone : attributes (readUpTo n) spot.tail = some (false, spot.tail) := by
          obtain ⟨first, behind, rfl, -⟩ := hspot
          rfl
        exact ⟨_, .cons hnone hitem hrest, List.suffix_rfl⟩

/-- No mark is that word. -/
instance passes_publicWord {marks : Text} : Passes .publicWord marks where
  leads hbehind := leads_of_behindMarks? (fun _ _ joined => skips_mark (by simp) (by simp) joined)
    hbehind

/-- **A file is read on from an item that can be seen from everywhere.** -/
theorem exists_readsItems_of_file (h : file (readUpTo n) trees = some (names, []))
    (hspot : spot.StartsPublic) (hsuffix : spot <:+ trees) :
    ∃ others, ReadsItems (readUpTo n) spot.tail others ∧ others <:+ names := by
  obtain ⟨_, mid, hattributes, hitems⟩ := exists_of_bind h
  have hmid : spot.IsAhead mid := by
    have hkeeps : Keeps .publicWord (innerAttributes (readUpTo n)) := by
      unfold innerAttributes
      infer_instance
    exact hkeeps.leads hattributes spot hspot (.inl hsuffix)
  obtain ⟨found, last, hloop, hpure⟩ := exists_of_bind hitems
  obtain ⟨rfl, rfl⟩ := Prod.mk.inj (Option.some.inj hpure)
  rw [loop_eq] at hloop
  change loopUpTo _ (itemOfFile (readUpTo n)) _ _ _ = _ at hloop
  obtain ⟨names, hnames, rfl⟩ := exists_readsItems_of_loopUpTo hloop
  simpa using hnames.exists_of_ahead hspot hmid

/-! ## Items in order -/

/-- Wherever an item that can be seen from everywhere stands in the trees, items are read to the
end, and they define what is left of the names. -/
def ReadsFrom (n : Nat) (names : List Text) (trees : Trees) : Prop :=
  ∀ spot : Trees, spot.StartsPublic → spot <:+ trees →
    ∃ others, ReadsItems (readUpTo n) spot.tail others ∧ others <:+ names

/-- What can be read wherever an item stands can be read so further on. -/
theorem ReadsFrom.of_suffix (h : ReadsFrom n names trees) (hrest : rest <:+ trees) :
    ReadsFrom n names rest :=
  fun spot hspot hsuffix => h spot hspot (hsuffix.trans hrest)

/-- A file is read to the end. -/
theorem rest_of_file (h : file read trees = some (names, rest)) : rest = [] := by
  obtain ⟨_, mid, -, hitems⟩ := exists_of_bind h
  obtain ⟨found, last, hloop, hpure⟩ := exists_of_bind hitems
  obtain ⟨-, rfl⟩ := Prod.mk.inj (Option.some.inj hpure)
  rw [loop_eq] at hloop
  have htest := test_of_loopUpTo hloop
  simpa using htest

/-- The first of the items is read by itself. -/
theorem ReadsItems.of_item {hasAttributes : Bool} (h : ReadsItems read trees names)
    (hattributes : attributes read trees = some (hasAttributes, mid))
    (hitem : read .item mid = some (form, rest)) (hne : trees ≠ []) :
    ∃ others, ReadsItems read rest others ∧ names = form.names ++ others := by
  cases h with
  | nil => contradiction
  | cons hothers hother hrest =>
      obtain ⟨-, rfl⟩ := Prod.mk.inj (Option.some.inj (hothers.symm.trans hattributes))
      obtain ⟨rfl, rfl⟩ := Prod.mk.inj (Option.some.inj (hother.symm.trans hitem))
      exact ⟨_, hrest, rfl⟩

/-- What is read from the first tree on is read from all that stands behind it. -/
theorem ReadsItems.readsFrom {first : Tree} (h : ReadsItems (readUpTo n) trees names) :
    ReadsFrom n names (first :: trees) := by
  intro spot hspot hsuffix
  rcases List.suffix_cons_iff.mp hsuffix with rfl | htrees
  · exact ⟨names, h, List.suffix_rfl⟩
  · exact h.exists_of_ahead hspot (.inl htrees)

/-! ## What stands behind the name -/

/-- An item that can be seen from everywhere is read as one. -/
theorem ReadsItems.exists_of_public (h : ReadsItems (readUpTo n) (.word "pub" :: trees) names) :
    ∃ bound form rest others, itemRule (readUpTo bound) (.word "pub" :: trees) = some (form, rest) ∧
      ReadsItems (readUpTo n) rest others ∧ names = form.names ++ others ∧ n = bound + 1 := by
  cases h with
  | @cons _ mid rest others form hasAttributes hattributes hitem hrest =>
      have hnone : attributes (readUpTo n) (.word "pub" :: trees) =
          some (false, .word "pub" :: trees) := rfl
      rw [hnone] at hattributes
      obtain ⟨-, rfl⟩ := Prod.mk.inj (Option.some.inj hattributes)
      cases n with
      | zero => contradiction
      | succ n => exact ⟨n, form, rest, others, hitem, hrest, rfl, rfl⟩

/-- A name that has been read is a word, and no reserved one. -/
theorem exists_of_name {name : Text} (h : Reading.name trees = some (name, rest)) :
    trees = .word name :: rest ∧ name ∉ Text.Identifier.reserved := by
  unfold Reading.name at h
  split at h
  · obtain ⟨hname, heq⟩ := Option.ite_some_none_eq_some.mp h
    obtain ⟨rfl, rfl⟩ := Prod.mk.inj heq
    exact ⟨rfl, isFree_of_isName hname⟩
  · contradiction

/-- **Parameters go to the bracket that closes theirs**, or there are none. -/
theorem of_parameters {isGeneral : Bool}
    (h : parameters (readUpTo n) trees = some (isGeneral, rest)) :
    (∃ joined between, trees = .mark '<' joined :: between ∧
      Trees.behindAngle? 0 between = some rest) ∨ rest = trees := by
  by_cases hangle : trees.starts "<" = true
  · have hread : (maybe (Trees.starts "<") (angled (parameter (readUpTo n)))) trees =
        some (isGeneral, rest) := h
    rw [maybe, if_pos hangle] at hread
    obtain ⟨⟨_, last⟩, hangled, heq⟩ := Option.map_eq_some_iff.mp hread
    obtain ⟨-, rfl⟩ := Prod.mk.inj heq
    obtain ⟨_, between, hopen, hbetween⟩ := exists_of_bind hangled
    obtain ⟨_, mid, hitems, hclose⟩ := exists_of_bind hbetween
    obtain ⟨joined, rfl⟩ := exists_of_marks hopen
    obtain ⟨spaced, rfl⟩ := exists_of_marks hclose
    have hleads := (keeps_separated (m := .closingAngle)).leads hitems
    exact .inl ⟨joined, between, rfl, hleads 0⟩
  · rw [parameters_of_not_starts _ (Bool.eq_false_iff.mpr hangle)] at h
    exact .inr (Prod.mk.inj (Option.some.inj h)).2.symm

/-- A name, or the underscore, is no reserved word. -/
theorem exists_of_nameOr {name : Text} (h : nameOr ["_"] trees = some (name, rest)) :
    trees = .word name :: rest ∧ name ∉ Text.Identifier.reserved := by
  unfold nameOr at h
  split at h
  · next hstarts =>
    obtain ⟨_, hmem, htrees⟩ := exists_of_startsWord hstarts
    obtain rfl := List.mem_singleton.mp hmem
    rw [htrees] at h ⊢
    obtain ⟨rfl, rfl⟩ := Prod.mk.inj (Option.some.inj h)
    exact ⟨rfl, by decide⟩
  · exact exists_of_name h

/-- **What stands behind the name of a constant**: parameters and a colon.  The name is no reserved
word. -/
theorem exists_of_constant
    (hfunction : trees.startsWord ["async", "unsafe", "extern", "fn"] = false)
    (h : itemRule read (.word "pub" :: .word "const" :: trees) = some (form, rest)) :
    ∃ name behind isGeneral joined type, trees = .word name :: behind ∧
      name ∉ Text.Identifier.reserved ∧
      parameters read behind = some (isGeneral, .mark ':' joined :: type) := by
  have hvisible : visibility (.word "pub" :: .word "const" :: trees) =
      some (true, .word "const" :: trees) := rfl
  have hstarts : startsFunction false (.word "const" :: trees) = false := by
    have hone : ∀ word ∈ ["async", "unsafe", "extern", "fn"], trees.startsWord [word] = false := by
      intro word hword
      unfold Trees.startsWord at hfunction ⊢
      split
      · simpa using List.any_eq_false.mp hfunction word hword
      · rfl
    have hconst : Trees.startsWord ["const"] (.word "const" :: trees) = true := rfl
    have hlater : Trees.later (.word "const" :: trees) = trees := rfl
    simp [startsFunction, hconst, hlater, hone]
  change (visibility >>= _) _ = _ at h
  rw [bind_of hvisible, bind_of (get_eq _), hstarts] at h
  change constantItem read _ = _ at h
  obtain ⟨_, mid, hconst, hname⟩ := exists_of_bind h
  obtain ⟨-, hmid⟩ := Option.ite_some_none_eq_some.mp hconst
  obtain ⟨-, rfl⟩ := Prod.mk.inj hmid
  obtain ⟨name, behind, hname, hparameters⟩ := exists_of_bind hname
  obtain ⟨isGeneral, mid, hparameters, hcolon⟩ := exists_of_bind hparameters
  obtain ⟨_, type, hcolon, -⟩ := exists_of_bind hcolon
  obtain ⟨joined, rfl⟩ := exists_of_marks hcolon
  obtain ⟨hname, hreserved⟩ := exists_of_nameOr hname
  exact ⟨name, behind, isGeneral, joined, type, hname, hreserved, hparameters⟩

/-- Conditions, fields or the semicolon at the end of a structure stand here. -/
def Trees.EndStructure (trees : Trees) : Prop :=
  trees.startsWord ["where"] = true ∨ trees.startsGroup '(' = true ∨
    trees.startsGroup '\x7b' = true ∨ trees.starts ";" = true

/-- **What stands behind the name of a structure**: parameters, and then conditions, fields or the
end. -/
theorem exists_of_structure
    (h : itemRule read (.word "pub" :: .word "struct" :: trees) = some (form, rest)) :
    ∃ name behind isGeneral mid, trees = .word name :: behind ∧
      parameters read behind = some (isGeneral, mid) ∧ mid.EndStructure := by
  have hvisible : visibility (.word "pub" :: .word "struct" :: trees) =
      some (true, .word "struct" :: trees) := rfl
  change (visibility >>= _) _ = _ at h
  rw [bind_of hvisible, bind_of (get_eq _)] at h
  change structureItem read _ = _ at h
  obtain ⟨_, mid, hstruct, hname⟩ := exists_of_bind h
  obtain ⟨-, hmid⟩ := Option.ite_some_none_eq_some.mp hstruct
  obtain ⟨-, rfl⟩ := Prod.mk.inj hmid
  obtain ⟨name, behind, hname, hparameters⟩ := exists_of_bind hname
  obtain ⟨_, mid, hparameters, hconditions⟩ := exists_of_bind hparameters
  obtain ⟨isGeneral, hparameters⟩ := exists_of_discard hparameters
  refine ⟨name, behind, isGeneral, mid, (exists_of_name hname).1, hparameters, ?_⟩
  by_cases hwhere : mid.startsWord ["where"] = true
  · exact .inl hwhere
  obtain ⟨isConditional, last, hconditions, hfields⟩ := exists_of_bind hconditions
  have hnone : conditions read mid = some (false, mid) := by
    simp [conditions, maybe, hwhere]
  rw [hnone] at hconditions
  obtain ⟨rfl, rfl⟩ := Prod.mk.inj (Option.some.inj hconditions)
  rw [bind_of (get_eq _)] at hfields
  right
  split at hfields
  · next hround => exact .inl (Bool.and_eq_true_iff.mp hround).1
  split at hfields
  · next hbraces => exact .inr (.inl hbraces)
  · obtain ⟨_, _, hmark, -⟩ := exists_of_bind hfields
    obtain ⟨_, hbehind, -⟩ := Option.map_eq_some_iff.mp hmark
    exact .inr (.inr (Option.isSome_of_mem hbehind))

end TypedStyle.Code
