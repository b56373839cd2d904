import TypedStyle.Proofs.Code.Parsing
import TypedStyle.Proofs.Text.Characters
/-!
# Readings that stop at landmarks

Some trees can be read in a few places only: the two marks that an attribute of what it stands in
starts with, one behind the other; the word for what can be seen from everywhere; and the angle
bracket that closes those that are open.  A reading that never takes them stops where they stand, at
the latest.  Readings that do so are put together to such readings, so that of a long reading only
the parts have to be looked at.

* `Keeps` — a reading that leaves a landmark in place, with all that stands behind it;
* `keeps_bind`, `keeps_loop` — sequences and loops of such readings;
* `keeps_hash_bind` — the first of the two marks may be taken alone;
* `keeps_angled` — and so may angle brackets that are closed again.
-/

namespace TypedStyle.Code

open Reading

/-- Do the marks of an attribute of what it stands in stand here? -/
def Trees.startsInner (trees : Trees) : Bool :=
  trees.starts "#" && trees.later.starts "!"

/-- Does the word for what can be seen from everywhere stand behind the first tree?  That tree is no
quote, which would make the name of a lifetime of the word. -/
def Trees.StartsPublic (trees : Trees) : Prop :=
  ∃ first behind, trees = first :: .word "pub" :: behind ∧ first ≠ .word "pub" ∧
    ∀ joined, first ≠ .mark '\'' joined

/-- The trees are still ahead, or only the first of them has been taken. -/
def Trees.IsAhead (spot trees : Trees) : Prop :=
  spot <:+ trees ∨ trees = spot.tail

/-- The trees behind the angle bracket that closes those that are open, if no semicolon stands in
front of it.  The bracket of an arrow closes none. -/
def Trees.behindAngle? : Nat → Trees → Option Trees
  | _, [] => none
  | opened, .mark '-' true :: .mark '>' _ :: rest => behindAngle? opened rest
  | _, .mark ';' _ :: _ => none
  | opened, .mark '<' _ :: rest => behindAngle? (opened + 1) rest
  | 0, .mark '>' _ :: rest => some rest
  | opened + 1, .mark '>' _ :: rest => behindAngle? opened rest
  | opened, _ :: rest => behindAngle? opened rest

/-- Trees that a reading may have to stop at. -/
inductive Landmark where
  /-- The marks of an attribute of what it stands in. -/
  | innerAttribute
  /-- The word for what can be seen from everywhere. -/
  | publicWord
  /-- The angle bracket that closes those that are open. -/
  | closingAngle
  deriving DecidableEq

namespace Landmark

/-- Wherever the landmark stands ahead of the trees, it stands ahead of what is left of them. -/
def Leads (m : Landmark) (trees rest : Trees) : Prop :=
  match m with
  | innerAttribute => ∀ spot, Trees.startsInner spot = true → spot <:+ trees → spot <:+ rest
  | publicWord => ∀ spot, Trees.StartsPublic spot → Trees.IsAhead spot trees →
    Trees.IsAhead spot rest
  | closingAngle => ∀ opened, Trees.behindAngle? opened trees = Trees.behindAngle? opened rest

/-- The tree is no part of the landmark. -/
def Skips (m : Landmark) (tree : Tree) : Prop :=
  match m with
  | innerAttribute => ∀ joined, tree ≠ .mark '#' joined
  | publicWord => tree ≠ .word "pub"
  | closingAngle => ∀ c joined, tree = .mark c joined → c ∉ Text.ofString "<>;-"

/-- The landmark stands outside of expressions and items, or at their ends. -/
class OfItems (m : Landmark) : Prop where
  ne : m ≠ closingAngle

instance : OfItems innerAttribute := ⟨by decide⟩
instance : OfItems publicWord := ⟨by decide⟩

end Landmark

/-- A reading that leaves the landmark in place, with all that stands behind it. -/
class Reading.Keeps {α : Type} (m : Landmark) (reading : Reading α) : Prop where
  leads {trees rest : Trees} {a : α} (hread : reading trees = some (a, rest)) : m.Leads trees rest

/-- A reading that takes a single tree, which is neither a mark nor the word. -/
class Reading.TakesTree {α : Type} (reading : Reading α) : Prop where
  exists_cons {trees rest : Trees} {a : α} (hread : reading trees = some (a, rest)) :
    ∃ tree, trees = tree :: rest ∧ (∀ c joined, tree ≠ .mark c joined) ∧ tree ≠ .word "pub"

/-- Behind these marks the landmark is still in place. -/
class Reading.Passes (m : Landmark) (marks : Text) : Prop where
  leads {trees rest : Trees} (hbehind : Trees.behindMarks? marks trees = some rest) :
    m.Leads trees rest

/-- None of these words is the one that has to be left. -/
class Reading.PassesWords (m : Landmark) (words : List String) : Prop where
  not_mem : m = .publicWord → ∀ word ∈ words, Text.ofString word ≠ "pub"

variable {α β : Type} {m : Landmark} {inner trees mid rest : Trees}

/-! ## Single trees -/

/-- Trees that start with a mark have it in front, joined to the next one or not. -/
theorem exists_of_starts {c : Char} (h : trees.starts [c] = true) :
    ∃ joined behind, trees = .mark c joined :: behind := by
  unfold Trees.starts Trees.behindMarks? at h
  split at h
  · simp_all
  · next d joined behind heq =>
    obtain rfl : c = _ := (List.cons.inj heq).1
    split at h
    · next hd => exact ⟨joined, behind, by rw [hd]⟩
    · contradiction
  · simp_all
  · contradiction

/-- Trees that start like an inner attribute have its two marks in front. -/
theorem exists_of_startsInner (h : inner.startsInner = true) :
    ∃ joined spaced behind, inner = .mark '#' joined :: .mark '!' spaced :: behind := by
  obtain ⟨hhash, hbang⟩ := Bool.and_eq_true_iff.mp h
  obtain ⟨joined, behind, rfl⟩ := exists_of_starts hhash
  obtain ⟨spaced, others, rfl⟩ : ∃ spaced others, behind = .mark '!' spaced :: others :=
    exists_of_starts hbang
  exact ⟨joined, spaced, others, rfl⟩

/-- Trees that start with one of some words have this word in front. -/
theorem exists_of_startsWord {words : List String} (h : trees.startsWord words = true) :
    ∃ word ∈ words, trees = .word (Text.ofString word) :: trees.tail := by
  unfold Trees.startsWord at h
  split at h
  · obtain ⟨word, hword, heq⟩ := List.any_eq_true.mp h
    exact ⟨word, hword, by rw [of_decide_eq_true heq]; rfl⟩
  · contradiction

/-- A tree that is none of these marks neither opens nor closes an angle bracket. -/
theorem Trees.behindAngle?_cons {tree : Tree}
    (h : ∀ c joined, tree = .mark c joined → c ∉ Text.ofString "<>;-") (opened : Nat) :
    behindAngle? opened (tree :: rest) = behindAngle? opened rest := by
  conv => lhs; unfold behindAngle?
  split
  · contradiction
  · next heq => exact absurd (by decide) (h _ _ (List.cons.inj heq).1)
  · next heq => exact absurd (by decide) (h _ _ (List.cons.inj heq).1)
  · next heq => exact absurd (by decide) (h _ _ (List.cons.inj heq).1)
  · next heq => exact absurd (by decide) (h _ _ (List.cons.inj heq).1)
  · next heq => exact absurd (by decide) (h _ _ (List.cons.inj heq).1)
  · next heq => rw [(List.cons.inj heq).2]

/-- Neither does a dash in front of a tree that is no mark. -/
theorem Trees.behindAngle?_dash {joined : Bool} {next : Tree}
    (hnext : ∀ c joined, next ≠ .mark c joined) (opened : Nat) :
    behindAngle? opened (.mark '-' joined :: next :: rest) =
      behindAngle? opened (next :: rest) := by
  conv => lhs; unfold behindAngle?
  split
  · contradiction
  · next heq => exact absurd (List.cons.inj (List.cons.inj heq).2).1 (hnext _ _)
  all_goals simp_all

namespace Landmark

/-- Where nothing is taken away, the landmark stays in place. -/
theorem Leads.refl (trees : Trees) : m.Leads trees trees := by
  cases m with
  | innerAttribute => exact fun _ _ h => h
  | publicWord => exact fun _ _ h => h
  | closingAngle => exact fun _ => rfl

/-- What leads past a landmark can be done in two steps. -/
theorem Leads.trans (h : m.Leads trees mid) (hmid : m.Leads mid rest) : m.Leads trees rest := by
  cases m with
  | innerAttribute => exact fun spot hspot hahead => hmid spot hspot (h spot hspot hahead)
  | publicWord => exact fun spot hspot hahead => hmid spot hspot (h spot hspot hahead)
  | closingAngle => exact fun opened => (h opened).trans (hmid opened)

/-- A tree that is no part of the landmark stands in front of it. -/
theorem Leads.cons {tree : Tree} (h : m.Skips tree) : m.Leads (tree :: rest) rest := by
  cases m with
  | innerAttribute =>
      intro spot hspot hahead
      obtain ⟨joined, spaced, behind, rfl⟩ := exists_of_startsInner hspot
      rcases List.suffix_cons_iff.mp hahead with heq | hrest
      · exact absurd (List.cons.inj heq).1.symm (h joined)
      · exact hrest
  | publicWord =>
      rintro spot ⟨first, behind, rfl, -, -⟩ (hsuffix | heq)
      · rcases List.suffix_cons_iff.mp hsuffix with heq | hrest
        · exact .inr (List.cons.inj heq).2.symm
        · exact .inl hrest
      · exact absurd (List.cons.inj heq).1 h
  | closingAngle => exact Trees.behindAngle?_cons h

/-- So do a mark and a tree that is none. -/
theorem Leads.cons_cons {c : Char} {joined : Bool} {next : Tree}
    (hnext : ∀ c joined, next ≠ .mark c joined) (hword : c = '\'' ∨ next ≠ .word "pub")
    (hc : c ∉ Text.ofString "<>;") : m.Leads (.mark c joined :: next :: rest) rest := by
  cases m with
  | innerAttribute =>
      intro spot hspot hahead
      obtain ⟨first, spaced, behind, rfl⟩ := exists_of_startsInner hspot
      rcases List.suffix_cons_iff.mp hahead with heq | hsuffix
      · exact absurd (List.cons.inj (List.cons.inj heq).2).1.symm (hnext '!' spaced)
      rcases List.suffix_cons_iff.mp hsuffix with heq | hrest
      · exact absurd (List.cons.inj heq).1.symm (hnext '#' first)
      · exact hrest
  | publicWord =>
      rintro spot ⟨first, behind, rfl, -, hquote⟩ (hsuffix | heq)
      · rcases List.suffix_cons_iff.mp hsuffix with heq | hsuffix
        · obtain ⟨rfl, hbehind⟩ := List.cons.inj heq
          rcases hword with rfl | hword
          · exact absurd rfl (hquote joined)
          · exact absurd (List.cons.inj hbehind).1.symm hword
        rcases List.suffix_cons_iff.mp hsuffix with heq | hrest
        · exact .inr (List.cons.inj heq).2.symm
        · exact .inl hrest
      · exact absurd (List.cons.inj heq).1 (by simp)
  | closingAngle =>
      intro opened
      have hbehind : Trees.behindAngle? opened (next :: rest) = Trees.behindAngle? opened rest :=
        Trees.behindAngle?_cons (fun d joined heq => absurd heq (hnext d joined)) opened
      rw [← hbehind]
      by_cases hdash : c = '-'
      · subst hdash
        exact Trees.behindAngle?_dash hnext opened
      · refine Trees.behindAngle?_cons (fun d joined heq => ?_) opened
        obtain rfl := (Tree.mark.inj heq).1
        simpa [Text.ofString, hdash] using hc

/-- A tree that is no mark is no part of a landmark, unless it is the word for what is public. -/
theorem skips_of_no_mark {tree : Tree} (htree : ∀ c joined, tree ≠ .mark c joined)
    (hword : tree ≠ .word "pub") : m.Skips tree := by
  cases m with
  | innerAttribute => exact htree '#'
  | publicWord => exact hword
  | closingAngle => exact fun c joined heq => absurd heq (htree c joined)

/-- Neither is a mark that no landmark of this kind has. -/
theorem skips_mark {c : Char} (hc : m = innerAttribute → c ≠ '#')
    (hangle : m = closingAngle → c ∉ Text.ofString "<>;-") (joined : Bool) :
    m.Skips (.mark c joined) := by
  cases m with
  | innerAttribute => exact fun spaced heq => hc rfl (Tree.mark.inj heq).1
  | publicWord => exact Tree.noConfusion
  | closingAngle =>
      intro d spaced heq
      rw [← (Tree.mark.inj heq).1]
      exact hangle rfl

end Landmark

open Landmark

namespace Reading

/-! ## Marks -/

/-- Marks that are no part of a landmark are passed over. -/
theorem leads_of_behindMarks? {marks : Text}
    (hmarks : ∀ c ∈ marks, ∀ joined, m.Skips (.mark c joined))
    (heq : Trees.behindMarks? marks trees = some rest) : m.Leads trees rest := by
  fun_induction Trees.behindMarks? marks trees with
  | case1 trees =>
      obtain rfl := Option.some.inj heq
      exact .refl trees
  | case2 c joined others =>
      obtain rfl := Option.some.inj heq
      exact .cons (hmarks c List.mem_cons_self joined)
  | case3 => contradiction
  | case4 others c more _ ih =>
      exact .trans (.cons (hmarks c List.mem_cons_self true))
        (ih (fun d hd => hmarks d (List.mem_cons_of_mem c hd)) heq)
  | case5 => contradiction
  | case6 => contradiction

/-- Marks that are in no landmark at all are passed over. -/
theorem passes_of {marks : Text} (h : marks.all (fun c => c ∉ Text.ofString "#<>;-") = true) :
    Passes m marks where
  leads hbehind := by
    have hmarks : ∀ c ∈ marks, c ∉ Text.ofString "#<>;-" := Text.forall_mem_of_all h
    refine leads_of_behindMarks? (fun c hc joined => skips_mark (fun _ => ?_) (fun _ => ?_) joined)
      hbehind
    · rintro rfl
      exact hmarks '#' hc (by decide)
    · exact fun hmem => hmarks c hc (List.mem_cons_of_mem _ hmem)

/-- Outside of angle brackets more marks are passed over. -/
theorem passes_ofItems [hm : OfItems m] {marks : Text} (h : '#' ∉ marks) : Passes m marks where
  leads hbehind := by
    refine leads_of_behindMarks?
      (fun c hc joined => skips_mark (fun _ => ?_) (fun heq => ?_) joined) hbehind
    · rintro rfl
      exact h hc
    · exact absurd heq hm.ne

/-- Of two marks in a row the first is joined to the second. -/
theorem exists_of_behindMarks?_two {c d : Char} (h : Trees.behindMarks? [c, d] trees = some rest) :
    ∃ joined, trees = .mark c true :: .mark d joined :: rest := by
  rcases trees with _ | ⟨_ | _ | ⟨e, _ | _⟩ | _, others⟩ <;> try contradiction
  obtain ⟨rfl, hmore⟩ := Option.ite_none_right_eq_some.mp h
  rcases others with _ | ⟨_ | _ | ⟨e, joined⟩ | _, others⟩ <;> try contradiction
  obtain ⟨rfl, rfl⟩ := Option.ite_some_none_eq_some.mp hmore
  exact ⟨joined, rfl⟩

/-- The angle bracket of an arrow closes none. -/
instance : Passes m "->" where
  leads {trees rest} hbehind := by
    by_cases hm : m = closingAngle
    · subst hm
      intro opened
      obtain ⟨joined, rfl⟩ := exists_of_behindMarks?_two (c := '-') (d := '>') hbehind
      rfl
    · have hitems : OfItems m := ⟨hm⟩
      exact (passes_ofItems (by decide)).leads hbehind

instance keeps_marks {marks : Text} [hmarks : Passes m marks] : Keeps m (Reading.marks marks) where
  leads hread := by
    obtain ⟨behind, hbehind, heq⟩ := Option.map_eq_some_iff.mp hread
    obtain ⟨-, rfl⟩ := Prod.mk.inj heq
    exact hmarks.leads hbehind

instance keeps_maybeMarks {marks : Text} [hmarks : Passes m marks] :
    Keeps m (maybeMarks marks) where
  leads hread := by
    unfold maybeMarks at hread
    split at hread
    · next hbehind =>
      obtain ⟨-, rfl⟩ := Prod.mk.inj (Option.some.inj hread)
      exact hmarks.leads hbehind
    · obtain ⟨-, rfl⟩ := Prod.mk.inj (Option.some.inj hread)
      exact .refl _

/-- A mark that has been read stood in front. -/
theorem exists_of_marks {c : Char} {u : Unit} (h : marks [c] trees = some (u, rest)) :
    ∃ joined, trees = .mark c joined :: rest := by
  obtain ⟨behind, hbehind, heq⟩ := Option.map_eq_some_iff.mp h
  obtain ⟨-, rfl⟩ := Prod.mk.inj heq
  obtain ⟨joined, others, rfl⟩ := exists_of_starts (Option.isSome_of_mem hbehind)
  have hothers : others = behind := by simpa [Trees.behindMarks?] using hbehind
  exact ⟨joined, by rw [hothers]⟩

/-! ## Words and groups -/

/-- One of these words stands in front of the landmark. -/
theorem leads_of_startsWord {words : List String} [hwords : PassesWords m words]
    (hstarts : trees.startsWord words = true) : m.Leads trees trees.tail := by
  obtain ⟨word, hword, htrees⟩ := exists_of_startsWord hstarts
  have hskips : m.Skips (.word (Text.ofString word)) := by
    cases m with
    | innerAttribute => exact fun _ => Tree.noConfusion
    | publicWord => exact fun heq => hwords.not_mem rfl word hword (Tree.word.inj heq)
    | closingAngle => exact fun _ _ => Tree.noConfusion
  rw [htrees]
  exact .cons hskips

instance keeps_of_takesTree {reading : Reading α} [h : TakesTree reading] : Keeps m reading where
  leads hread := by
    obtain ⟨tree, rfl, htree, hword⟩ := h.exists_cons hread
    exact .cons (skips_of_no_mark htree hword)

instance keeps_wordOf {words : List String} [PassesWords m words] : Keeps m (wordOf words) where
  leads hread := by
    obtain ⟨htest, heq⟩ := Option.ite_some_none_eq_some.mp hread
    obtain ⟨-, rfl⟩ := Prod.mk.inj heq
    exact leads_of_startsWord htest

instance keeps_word {w : String} [PassesWords m [w]] : Keeps m (word w) :=
  inferInstanceAs (Keeps m (wordOf [w]))

instance takesTree_name : TakesTree name where
  exists_cons hread := by
    unfold name at hread
    split at hread
    · obtain ⟨hname, heq⟩ := Option.ite_some_none_eq_some.mp hread
      obtain ⟨-, rfl⟩ := Prod.mk.inj heq
      refine ⟨_, rfl, by simp, fun heq => ?_⟩
      rw [Tree.word.inj heq] at hname
      contradiction
    · contradiction

instance keeps_nameOr {words : List String} [PassesWords m words] : Keeps m (nameOr words) where
  leads hread := by
    unfold nameOr at hread
    split at hread
    · next htest =>
      have hbehind := leads_of_startsWord (m := m) htest
      unfold anyWord at hread
      split at hread
      · obtain ⟨-, rfl⟩ := Prod.mk.inj (Option.some.inj hread)
        exact hbehind
      · contradiction
    · have hkeeps : Keeps m name := keeps_of_takesTree
      exact hkeeps.leads hread

instance takesTree_place : TakesTree place where
  exists_cons hread := by
    unfold place at hread
    split at hread
    · obtain ⟨-, heq⟩ := Option.ite_some_none_eq_some.mp hread
      obtain ⟨-, rfl⟩ := Prod.mk.inj heq
      exact ⟨_, rfl, by simp, by simp⟩
    · contradiction

instance takesTree_group : TakesTree group where
  exists_cons hread := by
    unfold group at hread
    split at hread
    · obtain ⟨-, rfl⟩ := Prod.mk.inj (Option.some.inj hread)
      exact ⟨_, rfl, by simp, by simp⟩
    · contradiction

instance takesTree_groupIn (bracket : Char) : TakesTree (groupIn bracket) where
  exists_cons hread := by
    unfold groupIn at hread
    split at hread
    · obtain ⟨-, heq⟩ := Option.ite_some_none_eq_some.mp hread
      obtain ⟨-, rfl⟩ := Prod.mk.inj heq
      exact ⟨_, rfl, by simp, by simp⟩
    · contradiction

/-- What stands inside a group makes no difference behind it. -/
instance takesTree_inside (bracket : Char) (content : Reading α) :
    TakesTree (inside bracket content) where
  exists_cons hread := by
    unfold inside at hread
    split at hread
    · split at hread
      · split at hread
        · obtain ⟨-, rfl⟩ := Prod.mk.inj (Option.some.inj hread)
          exact ⟨_, rfl, by simp, by simp⟩
        · contradiction
      · contradiction
    · contradiction

/-! ## Sequences and choices -/

instance keeps_pure (a : α) : Keeps m (pure a : Reading α) where
  leads hread := by
    obtain ⟨-, rfl⟩ := Prod.mk.inj (Option.some.inj hread)
    exact .refl _

instance keeps_failure : Keeps m (failure : Reading α) where
  leads hread := by contradiction

/-- What two readings in sequence read, the first one reads a part of, and the second one the
rest. -/
theorem exists_of_bind {first : Reading α} {others : α → Reading β} {b : β}
    (h : (first >>= others) trees = some (b, rest)) :
    ∃ a mid, first trees = some (a, mid) ∧ others a mid = some (b, rest) := by
  obtain ⟨⟨a, mid⟩, hfirst, hothers⟩ := Option.bind_eq_some_iff.mp h
  exact ⟨a, mid, hfirst, hothers⟩

/-- **Readings in sequence keep a landmark** if each of them does. -/
theorem Keeps.bind {first : Reading α} {others : α → Reading β} (hfirst : Keeps m first)
    (hothers : ∀ a, Keeps m (others a)) : Keeps m (first >>= others) where
  leads hread := by
    obtain ⟨a, mid, ha, hb⟩ := exists_of_bind hread
    exact (hfirst.leads ha).trans ((hothers a).leads hb)

instance keeps_bind {first : Reading α} {others : α → Reading β} [hfirst : Keeps m first]
    [hothers : ∀ a, Keeps m (others a)] : Keeps m (first >>= others) :=
  hfirst.bind hothers

instance keeps_ite {c : Prop} [Decidable c] {x y : Reading α} [hx : Keeps m x] [hy : Keeps m y] :
    Keeps m (if c then x else y) := by
  split
  · exact hx
  · exact hy

/-- What is read and discarded has been read. -/
theorem exists_of_discard {reading : Reading α} {u : Unit}
    (h : discard reading trees = some (u, rest)) : ∃ a, reading trees = some (a, rest) := by
  obtain ⟨⟨a, mid⟩, hread, hpure⟩ := Option.bind_eq_some_iff.mp h
  obtain ⟨-, rfl⟩ := Prod.mk.inj (Option.some.inj hpure)
  exact ⟨a, hread⟩

instance keeps_discard {reading : Reading α} [Keeps m reading] : Keeps m (discard reading) :=
  inferInstanceAs (Keeps m (reading >>= fun _ => pure ()))

instance takesTree_discard {reading : Reading α} [h : TakesTree reading] :
    TakesTree (discard reading) where
  exists_cons hread := by
    obtain ⟨a, ha⟩ := exists_of_discard hread
    exact h.exists_cons ha

instance keeps_maybe {test : Trees → Bool} {reading : Reading α} [h : Keeps m reading] :
    Keeps m (maybe test reading) where
  leads hread := by
    unfold maybe at hread
    split at hread
    · obtain ⟨⟨a, mid⟩, ha, heq⟩ := Option.map_eq_some_iff.mp hread
      obtain ⟨-, rfl⟩ := Prod.mk.inj heq
      exact h.leads ha
    · obtain ⟨-, rfl⟩ := Prod.mk.inj (Option.some.inj hread)
      exact .refl _

instance keeps_maybeWord {w : String} [PassesWords m [w]] : Keeps m (maybeWord w) where
  leads hread := by
    unfold maybeWord at hread
    split at hread
    · next htest =>
      obtain ⟨-, rfl⟩ := Prod.mk.inj (Option.some.inj hread)
      exact leads_of_startsWord htest
    · obtain ⟨-, rfl⟩ := Prod.mk.inj (Option.some.inj hread)
      exact .refl _

/-! ## Looking ahead -/

instance keeps_failure_bind {others : α → Reading β} : Keeps m (failure >>= others) where
  leads hread := by contradiction

/-- From these trees on, the reading leaves the landmark in place. -/
class KeepsFrom (m : Landmark) (trees : Trees) (reading : Reading α) : Prop where
  leads {rest : Trees} {a : α} (hread : reading trees = some (a, rest)) : m.Leads trees rest

instance keepsFrom_of_keeps {reading : Reading α} [h : Keeps m reading] :
    KeepsFrom m trees reading where
  leads hread := h.leads hread

/-- What is read may depend on the trees ahead. -/
theorem Keeps.of_get {others : Trees → Reading α} (h : ∀ trees, KeepsFrom m trees (others trees)) :
    Keeps m (get >>= others) where
  leads hread := (h _).leads hread

instance keeps_get {others : Trees → Reading α} [h : ∀ trees, KeepsFrom m trees (others trees)] :
    Keeps m (get >>= others) :=
  .of_get h

instance keepsFrom_ite {c : Prop} [Decidable c] {x y : Reading α} [hx : KeepsFrom m trees x]
    [hy : KeepsFrom m trees y] : KeepsFrom m trees (if c then x else y) := by
  split
  · exact hx
  · exact hy

/-- Trees may be left out if nothing of the landmark is among them. -/
theorem KeepsFrom.set {others : Unit → Reading α} {behind : Trees} (h : Keeps m (others ()))
    (hbehind : m.Leads trees behind) : KeepsFrom m trees (set behind >>= others) where
  leads hread := hbehind.trans (h.leads hread)

/-- Any word may be taken where one of these stands. -/
theorem KeepsFrom.anyWord {words : List String} [PassesWords m words] {others : Unit → Reading α}
    (hstarts : trees.startsWord words = true) (h : ∀ u, Keeps m (others u)) :
    KeepsFrom m trees (discard anyWord >>= others) where
  leads hread := by
    obtain ⟨u, mid, hword, hothers⟩ := exists_of_bind hread
    obtain ⟨w, hw⟩ := exists_of_discard hword
    unfold Reading.anyWord at hw
    split at hw
    · obtain ⟨-, rfl⟩ := Prod.mk.inj (Option.some.inj hw)
      exact (leads_of_startsWord hstarts).trans ((h u).leads hothers)
    · contradiction

instance keepsFrom_ite_anyWord {words : List String} [PassesWords m words]
    {others : Unit → Reading α} {y : Reading α} [h : ∀ u, Keeps m (others u)]
    [hy : KeepsFrom m trees y] :
    KeepsFrom m trees (if trees.startsWord words then discard anyWord >>= others else y) := by
  split
  · next hstarts => exact .anyWord hstarts h
  · exact hy

/-- So it may behind another word. -/
instance keepsFrom_ite_later {w : String} {words : List String} [PassesWords m [w]]
    [PassesWords m words] {others : Unit → Reading α} {y : Reading α}
    [h : ∀ u, Keeps m (others u)] [hy : KeepsFrom m trees y] :
    KeepsFrom m trees (if trees.startsWord [w] && trees.later.startsWord words then
      word w >>= fun _ => discard anyWord >>= others else y) := by
  split
  · next htest =>
    refine ⟨fun hread => ?_⟩
    obtain ⟨hfirst, hstarts⟩ := Bool.and_eq_true_iff.mp htest
    obtain ⟨u, mid, hword, hothers⟩ := exists_of_bind hread
    have hmid := (keeps_word (m := m)).leads hword
    obtain ⟨-, heq⟩ := Option.ite_some_none_eq_some.mp hword
    obtain ⟨-, rfl⟩ := Prod.mk.inj heq
    have hlater : trees.later = trees.tail := by
      obtain ⟨_, -, htrees⟩ := exists_of_startsWord hfirst
      rw [htrees]
      rfl
    rw [hlater] at hstarts
    exact hmid.trans ((KeepsFrom.anyWord hstarts h).leads hothers)
  · exact hy

instance keeps_maybe_anyWord {words : List String} [PassesWords m words] :
    Keeps m (maybe (fun trees => trees.startsName || trees.startsWord words) anyWord) where
  leads hread := by
    unfold maybe at hread
    split at hread
    · next htest =>
      obtain ⟨⟨w, mid⟩, hw, heq⟩ := Option.map_eq_some_iff.mp hread
      obtain ⟨-, rfl⟩ := Prod.mk.inj heq
      unfold Reading.anyWord at hw
      split at hw
      · obtain ⟨-, rfl⟩ := Prod.mk.inj (Option.some.inj hw)
        rcases Bool.or_eq_true_iff.mp htest with hname | hstarts
        · refine .cons (skips_of_no_mark (fun _ _ => Tree.noConfusion) fun heq => ?_)
          rw [Trees.startsName, Tree.word.inj heq] at hname
          contradiction
        · exact leads_of_startsWord hstarts
      · contradiction
    · obtain ⟨-, rfl⟩ := Prod.mk.inj (Option.some.inj hread)
      exact .refl _

/-! ## Marks in front of other trees -/

/-- The first of the two marks may be taken where no mark follows it. -/
instance keeps_hash {reading : Reading α} [h : TakesTree reading] :
    Keeps m (marks "#" >>= fun _ => reading) where
  leads hread := by
    obtain ⟨_, mid, hhash, ha⟩ := exists_of_bind hread
    obtain ⟨tree, rfl, htree, hword⟩ := h.exists_cons ha
    obtain ⟨joined, rfl⟩ := exists_of_marks hhash
    exact .cons_cons htree (.inr hword) (by decide)

instance keeps_hash_bind {reading : Reading α} {others : α → Reading β} [TakesTree reading]
    [∀ a, Keeps m (others a)] : Keeps m (marks "#" >>= fun _ => reading >>= others) := by
  rw [← bind_assoc]
  infer_instance

/-- The quote of a lifetime and the word behind it. -/
instance keeps_lifetime : Keeps m lifetime where
  leads hread := by
    unfold lifetime at hread
    split at hread
    · obtain ⟨-, rfl⟩ := Prod.mk.inj (Option.some.inj hread)
      exact .cons_cons (fun _ _ => Tree.noConfusion) (.inl rfl) (by decide)
    · contradiction

instance keeps_literal [PassesWords m ["true", "false"]] : Keeps m Reading.literal where
  leads hread := by
    unfold Reading.literal at hread
    split at hread
    · obtain ⟨-, rfl⟩ := Prod.mk.inj (Option.some.inj hread)
      exact .cons (skips_of_no_mark (fun _ _ => Tree.noConfusion) Tree.noConfusion)
    · obtain ⟨-, rfl⟩ := Prod.mk.inj (Option.some.inj hread)
      exact .cons_cons (fun _ _ => Tree.noConfusion) (.inr Tree.noConfusion) (by decide)
    · exact keeps_wordOf.leads hread

/-! ## Loops -/

/-- **A loop keeps a landmark** if each of its rounds does, however often it goes round. -/
theorem leads_of_loopUpTo {test : α → Trees → Bool} {step : α → Reading α}
    [h : ∀ a, Keeps m (step a)] {bound : Nat} {a b : α}
    (hread : loopUpTo test step bound a trees = some (b, rest)) : m.Leads trees rest := by
  induction bound generalizing a trees with
  | zero =>
      unfold loopUpTo at hread
      split at hread
      · contradiction
      · obtain ⟨-, rfl⟩ := Prod.mk.inj (Option.some.inj hread)
        exact .refl _
  | succ bound ih =>
      unfold loopUpTo at hread
      split at hread
      · obtain ⟨⟨c, mid⟩, hstep, hloop⟩ := Option.bind_eq_some_iff.mp hread
        exact ((h a).leads hstep).trans (ih hloop)
      · obtain ⟨-, rfl⟩ := Prod.mk.inj (Option.some.inj hread)
        exact .refl _

instance keeps_loop {test : α → Trees → Bool} {step : α → Reading α} {start : α}
    [∀ a, Keeps m (step a)] : Keeps m (loop test step start) where
  leads hread := by
    rw [loop_eq] at hread
    exact leads_of_loopUpTo hread

instance keeps_loopWhile {test : Trees → Bool} {step : Reading α} [Keeps m step] :
    Keeps m (loopWhile test step) := by
  unfold loopWhile; infer_instance

instance keeps_separated {mark : Char} {stop : Trees → Bool} {item : Reading α} [Passes m [mark]]
    [Keeps m item] : Keeps m (separated mark stop item) := by
  unfold separated; infer_instance

/-! ## Angle brackets -/

/-- **Angle brackets that are closed again** are passed over with what stands between them. -/
theorem leads_of_angles {between : Trees} {first last : Bool}
    (h : m.Leads between (.mark '>' last :: rest)) :
    m.Leads (.mark '<' first :: between) rest := by
  by_cases hm : m = closingAngle
  · subst hm
    intro opened
    show Trees.behindAngle? (opened + 1) between = Trees.behindAngle? opened rest
    rw [h (opened + 1)]
    rfl
  · have hskips : ∀ c ∈ Text.ofString "<>", ∀ joined, m.Skips (.mark c joined) := fun c hc joined =>
      skips_mark (fun _ heq => by rw [heq] at hc; contradiction) (fun heq => absurd heq hm) joined
    exact (Leads.cons (hskips '<' (by decide) first)).trans
      (h.trans (.cons (hskips '>' (by decide) last)))

instance keeps_angled {item : Reading α} [Passes m [',']] [Keeps m item] :
    Keeps m (angled item) where
  leads hread := by
    obtain ⟨_, between, hopen, hread⟩ := exists_of_bind hread
    obtain ⟨_, mid, hitems, hclose⟩ := exists_of_bind hread
    obtain ⟨first, rfl⟩ := exists_of_marks hopen
    obtain ⟨last, rfl⟩ := exists_of_marks hclose
    exact leads_of_angles (keeps_separated.leads hitems)

end Reading

end TypedStyle.Code
