import TypedStyle.Proofs.Artifact.Trees
import TypedStyle.Proofs.Code.PastedTrees
import TypedStyle.Proofs.Code.PublicItems
/-!
# Names that are pasted twice

One text is pasted as the name of a constant and, with letters behind it, as that of a structure.
If the text opens nothing and both items can be read, then it is a single name: all that could be
read behind a name in it in front of a colon are parameters, and behind these no structure goes on
with letters.

* `not_endStructure_of_colon` — where a colon can stand, no structure goes on;
* `isNameOrUnderscore_of_items` — the text is a name.
-/

namespace TypedStyle.Artifact

open Code Code.Token Code.Reading

variable {pasted t u v w rest name : Text} {c d : Char} {joined : Bool}
  {trees type constant last : Trees}

/-- The text opens nothing and has no hyphen, and neither a blank nor a small letter of ASCII stands
in front. -/
structure IsPasted (pasted : Text) : Prop where
  opensNothing : OpensNothing pasted
  hyphen : '-' ∉ pasted
  first : ∀ c ∈ pasted.head?, Text.isCodeBlank c = false ∧ c.isLower = false

/-- So no word that is spelled raw stands in front. -/
theorem IsPasted.ne_raw (h : IsPasted (d :: pasted)) : d ≠ 'r' := by
  rintro rfl
  exact absurd (h.first 'r' rfl).2 (by decide)

/-- Where a word ends in a text, it ends in front of all that stands behind the text. -/
theorem word?_append_of_cons (h : word? t = some (name, d :: rest)) (u : Text) :
    word? (t ++ u) = some (name, d :: (rest ++ u)) := by
  unfold word? at h
  split at h
  · next c others =>
    obtain ⟨hc, heq⟩ := Option.ite_some_none_eq_some.mp h
    obtain ⟨rfl, hrest⟩ := Prod.mk.inj heq
    have hsplit := List.takeWhile_append_dropWhile (p := Text.Identifier.isContinue) (l := others)
    have hd := List.head?_dropWhile_not Text.Identifier.isContinue others
    rw [hrest] at hsplit hd
    have hends : (d :: (rest ++ u)).takeWhile Text.Identifier.isContinue = [] ∧
        (d :: (rest ++ u)).dropWhile Text.Identifier.isContinue = d :: (rest ++ u) := by
      simp_all
    have hword : ∀ c ∈ others.takeWhile Text.Identifier.isContinue,
        Text.Identifier.isContinue c = true := fun c hc => List.mem_takeWhile_imp hc
    have hwhole : others ++ u =
        others.takeWhile Text.Identifier.isContinue ++ d :: (rest ++ u) := by
      conv => lhs; rw [← hsplit]
      simp
    rw [List.cons_append, word?, if_pos hc, hwhole, List.takeWhile_append_of_pos hword,
      List.dropWhile_append_of_pos hword, hends.1, hends.2, List.append_nil]
  · contradiction

/-- A word that is read off the front of a text begins as the text does. -/
theorem head?_of_word? (h : word? t = some (name, rest)) : name.head? = t.head? := by
  obtain ⟨rfl, hname, -⟩ := exists_of_word? h
  cases name with
  | nil => contradiction
  | cons c others => rfl

/-- Nor does a word in small letters stand in front. -/
theorem IsPasted.startsWord_eq_false {words : List String} (h : IsPasted (d :: pasted))
    (hv : v.head? ≠ some '\'') (htrees : Tree.ofText? (d :: (pasted ++ ':' :: v)) = some trees)
    (hwords : ∀ word ∈ words, (Text.ofString word).head?.all Char.isLower = true) :
    trees.startsWord words = false := by
  refine Bool.eq_false_iff.mpr fun hstarts => ?_
  obtain ⟨word, hmem, hfirst⟩ := exists_of_startsWord hstarts
  rw [hfirst] at htrees
  obtain ⟨hblank, hlower⟩ := h.first d rfl
  obtain ⟨rest, hword, -⟩ :=
    Tree.of_first_word h.opensNothing (by decide) hv hblank h.ne_raw htrees
  have hhead : (Text.ofString word).head? = some d := head?_of_word? hword
  have hletter := hwords word hmem
  rw [hhead, Option.all_some, hlower] at hletter
  contradiction

/-- The letters in front of a bracket are a word. -/
theorem ofText?_letters (w : Text) : Tree.ofText? (Text.ofString "Val" ++ '(' :: w) =
    (Tree.ofText? ('(' :: w)).map (.word "Val" :: ·) := by
  have hscan : scan? (Text.ofString "Val" ++ '(' :: w) = some ([.word "Val"], '(' :: w) :=
    scan?_word (by decide) (endsWord_cons (by decide))
  exact Tree.ofText?_of_scan [.word "Val"] rfl hscan

/-- **Where a colon can stand** behind a text, there is another colon in front of the letters, or
the letters are a word. -/
theorem not_endStructure_of_colon (ht : OpensNothing t) (hv : v.head? ≠ some '\'')
    (h : Tree.ofText? (t ++ ':' :: v) = some (.mark ':' joined :: type))
    (hlast : Tree.ofText? (t ++ (Text.ofString "Val" ++ '(' :: w)) = some last) :
    ¬ last.EndStructure ∧ last.starts "<" = false := by
  rcases Tree.of_first_mark ht (by decide) hv h with hblank | ⟨front, rest, rfl, hfront, hrest⟩
  · rw [Tree.ofText?_blanks hblank, ofText?_letters] at hlast
    obtain ⟨others, -, rfl⟩ := Option.map_eq_some_iff.mp hlast
    exact ⟨by rintro (h | h | h | h) <;> contradiction, rfl⟩
  · rw [List.append_assoc, Tree.ofText?_blanks hfront, List.cons_append,
      Tree.ofText?_mark (by decide)] at hlast
    obtain ⟨others, -, rfl⟩ := Option.map_eq_some_iff.mp hlast
    exact ⟨by rintro (h | h | h | h) <;> contradiction, rfl⟩

/-- No structure goes on behind such a text, where parameters and a colon stand behind it. -/
theorem not_endStructure_of_parameters {n m : Nat} {isGeneral isOther : Bool} {behind other : Trees}
    (ht : OpensNothing t) (hdash : '-' ∉ t) (hv : v.head? ≠ some '\'')
    (hend : ∀ last opened, Tree.ofText? (':' :: v) = some last →
      Trees.behindAngle? opened last = none)
    (hbehind : Tree.ofText? (t ++ ':' :: v) = some behind)
    (hother : Tree.ofText? (t ++ (Text.ofString "Val" ++ '(' :: w)) = some other)
    (hconstant : parameters (readUpTo n) behind = some (isGeneral, .mark ':' joined :: type))
    (hstructure : parameters (readUpTo m) other = some (isOther, last)) : ¬ last.EndStructure := by
  rcases of_parameters hconstant with ⟨spaced, between, rfl, hangle⟩ | rfl
  · rcases Tree.of_first_mark ht (by decide) hv hbehind with
      hblank | ⟨front, rest, rfl, hfront, hrest⟩
    · rw [Tree.ofText?_blanks hblank, Tree.ofText?_mark (by decide)] at hbehind
      obtain ⟨others, -, heq⟩ := Option.map_eq_some_iff.mp hbehind
      exact absurd (List.cons.inj heq).1 (by simp)
    rw [List.append_assoc, Tree.ofText?_blanks hfront, List.cons_append,
      Tree.ofText?_mark (by decide)] at hother
    obtain ⟨others, hothers, rfl⟩ := Option.map_eq_some_iff.mp hother
    have hsuffix : rest <:+ front ++ '<' :: rest :=
      (List.suffix_cons _ _).trans (List.suffix_append _ _)
    obtain ⟨back, closed, hback, hcolon, hletters, hclosed⟩ := Tree.exists_behindAngle?_congr
      (ht.of_suffix hsuffix) (fun hmem => hdash (hsuffix.subset hmem)) (by decide) hv
      (by simp [Text.ofString]) hend hrest hangle (by decide) hothers
    rcases of_parameters hstructure with ⟨_, inner, heq, hlast⟩ | rfl
    · obtain ⟨-, rfl⟩ := List.cons.inj heq
      obtain rfl := Option.some.inj (hclosed.symm.trans hlast)
      exact (not_endStructure_of_colon (ht.of_suffix (hback.trans hsuffix)) hv hcolon hletters).1
    · rintro (h | h | h | h) <;> contradiction
  · obtain ⟨hends, hopening⟩ := not_endStructure_of_colon ht hv hbehind hother
    rw [parameters_of_not_starts _ hopening] at hstructure
    obtain ⟨-, rfl⟩ := Prod.mk.inj (Option.some.inj hstructure)
    exact hends

/-- **A text that is read as the name of a constant, and with letters behind it as that of a
structure, is a name.** -/
theorem isNameOrUnderscore_of_items {n m : Nat} {structured behind after : Trees}
    {form other : Form}
    (h : IsPasted pasted) (hv : v.head? ≠ some '\'') (hw : w.head? ≠ some '\'')
    (hend : ∀ last opened, Tree.ofText? (':' :: v) = some last →
      Trees.behindAngle? opened last = none)
    (hconstant : Tree.ofText? (pasted ++ ':' :: v) = some constant)
    (hstructure : Tree.ofText? (pasted ++ (Text.ofString "Val" ++ '(' :: w)) = some structured)
    (hfirst : itemRule (readUpTo n) (.word "pub" :: .word "const" :: constant) =
      some (form, behind))
    (hsecond : itemRule (readUpTo m) (.word "pub" :: .word "struct" :: structured) =
      some (other, after)) : Text.Identifier.isNameOrUnderscore pasted = true := by
  cases pasted with
  | nil =>
      rw [List.nil_append, Tree.ofText?_mark (by decide)] at hconstant
      obtain ⟨others, -, rfl⟩ := Option.map_eq_some_iff.mp hconstant
      obtain ⟨name, _, _, _, _, heq, -⟩ := exists_of_constant rfl hfirst
      exact absurd (List.cons.inj heq).1 (by simp)
  | cons d pasted =>
  have hblank := (h.first d rfl).1
  obtain ⟨name, behind, _, joined, type, rfl, hreserved, hparameters⟩ :=
    exists_of_constant (h.startsWord_eq_false hv hconstant (by decide)) hfirst
  obtain ⟨rest, hword, hbehind⟩ :=
    Tree.of_first_word h.opensNothing (by decide) hv hblank h.ne_raw hconstant
  obtain ⟨happend, hname, -⟩ := exists_of_word? hword
  cases rest with
  | nil =>
      rw [List.append_nil] at happend
      rw [happend]
      exact Bool.and_eq_true_iff.mpr ⟨hname, by simpa using hreserved⟩
  | cons e rest =>
      obtain ⟨second, other, _, last, rfl, hother, hends⟩ := exists_of_structure hsecond
      have hopens : OpensNothing (d :: (pasted ++ Text.ofString "Val")) :=
        h.opensNothing.append (opensNothing_of_all (by decide))
      have hrest : OpensNothing (e :: rest) :=
        h.opensNothing.of_suffix (happend ▸ List.suffix_append _ _)
      have hstructure' : Tree.ofText? (d :: ((pasted ++ Text.ofString "Val") ++ '(' :: w)) =
        some (.word second :: other) := by simpa using hstructure
      obtain ⟨back, hsecond, hback⟩ :=
        Tree.of_first_word hopens (by decide) hw hblank h.ne_raw hstructure'
      have hlonger := word?_append_of_cons hword (Text.ofString "Val")
      rw [List.cons_append, hsecond] at hlonger
      obtain ⟨-, rfl⟩ := Prod.mk.inj (Option.some.inj hlonger)
      have hdash : '-' ∉ e :: rest := fun hmem =>
        h.hyphen (happend ▸ List.mem_append_right _ hmem)
      exact absurd hends (not_endStructure_of_parameters hrest hdash hv hend hbehind
        (by simpa using hback) hparameters hother)

end TypedStyle.Artifact
