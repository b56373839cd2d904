import Mathlib.Data.List.Nodup
import TypedStyle.Spec.Normal
/-!
# Sorting properties by name

The order of names is total and transitive, so sorting by it is determined: properties of equal
names keep their order, and a list that is sorted already stays as it is.  Since the sort is stable,
leaving properties out may be done before or after it.

* `filter_sortByName` — the stability of the sort, in the form that is used: it commutes with
  leaving out;
* `sortByName_eq_self` — sorted properties are not moved;
* `sortByName_eq_of_perm` — when names tell properties apart, the order before does not matter.
-/

namespace TypedStyle.Spec

/-- Does the first property have a place in front of the second one? -/
def notBehind (a b : Property) : Bool :=
  !decide (b.name < a.name)

/-- The order of properties is that of their names. -/
theorem notBehind_iff {a b : Property} : notBehind a b = true ↔ ¬ b.name < a.name := by
  simp [notBehind]

/-- It is transitive. -/
theorem notBehind_trans (a b c : Property) (hab : notBehind a b = true)
    (hbc : notBehind b c = true) : notBehind a c = true := by
  rw [notBehind_iff] at *
  exact List.not_lt.mpr (List.le_trans (List.not_lt.mp hab) (List.not_lt.mp hbc))

/-- It is total. -/
theorem notBehind_total (a b : Property) : (notBehind a b || notBehind b a) = true := by
  rw [Bool.or_eq_true, notBehind_iff, notBehind_iff]
  by_cases hlt : b.name < a.name
  · exact Or.inr (List.lt_asymm hlt)
  · exact Or.inl hlt

/-- Sorting by name is sorting in this order, and it keeps the order of properties with one name. -/
theorem sortByName_eq (properties : List Property) :
    sortByName properties = properties.mergeSort notBehind :=
  rfl

/-- Sorting only moves properties. -/
theorem sortByName_perm (properties : List Property) :
    (sortByName properties).Perm properties :=
  List.mergeSort_perm properties notBehind

/-- Sorting keeps the properties. -/
@[simp] theorem mem_sortByName {property : Property} {properties : List Property} :
    property ∈ sortByName properties ↔ property ∈ properties :=
  (sortByName_perm properties).mem_iff

/-- The sorted properties have ascending names. -/
theorem sortByName_pairwise (properties : List Property) :
    (sortByName properties).Pairwise fun a b => ¬ b.name < a.name := by
  have hsorted := List.pairwise_mergeSort notBehind_trans notBehind_total properties
  exact hsorted.imp notBehind_iff.mp

/-- Properties whose names ascend are sorted already. -/
theorem sortByName_eq_self {properties : List Property}
    (hsorted : properties.Pairwise fun a b => ¬ b.name < a.name) :
    sortByName properties = properties := by
  rw [sortByName_eq]
  exact List.mergeSort_of_pairwise (hsorted.imp notBehind_iff.mpr)

/-- Cutting a list where a condition turns from false to true can be done in one way only. -/
private theorem append_inj_of_separated {α : Type} {p : α → Bool} {a b c d : List α}
    (ha : ∀ x ∈ a, p x = false) (hb : ∀ x ∈ b, p x = true)
    (hc : ∀ x ∈ c, p x = false) (hd : ∀ x ∈ d, p x = true)
    (heq : a ++ b = c ++ d) : a = c ∧ b = d := by
  have hupper : ∀ {xs ys : List α}, (∀ x ∈ xs, p x = false) → (∀ x ∈ ys, p x = true) →
      (xs ++ ys).filter p = ys := by
    intro xs ys hxs hys
    rw [List.filter_append, List.filter_eq_nil_iff.mpr (by simpa using hxs),
      List.filter_eq_self.mpr hys, List.nil_append]
  have hbd : b = d := by
    have hfiltered := congrArg (List.filter p) heq
    rwa [hupper ha hb, hupper hc hd] at hfiltered
  subst hbd
  exact ⟨List.append_cancel_right heq, rfl⟩

/-- A stable sort commutes with leaving out elements.  By induction on the list: its first element
goes in front of everything that it has a place in front of, whether the rest is complete or not. -/
theorem filter_mergeSort {α : Type} {le : α → α → Bool}
    (htrans : ∀ a b c, le a b = true → le b c = true → le a c = true)
    (htotal : ∀ a b, (le a b || le b a) = true) (keep : α → Bool) (l : List α) :
    (l.mergeSort le).filter keep = (l.filter keep).mergeSort le := by
  have htail : ∀ {a : α} {rest before after : List α},
      (a :: rest).mergeSort le = before ++ a :: after → ∀ x ∈ after, le a x = true := by
    intro a rest before after heq
    have hsorted := List.pairwise_mergeSort htrans htotal (a :: rest)
    rw [heq] at hsorted
    exact (List.pairwise_cons.mp (List.pairwise_append.mp hsorted).2.1).1
  induction l with
  | nil => simp
  | cons a l ih =>
      obtain ⟨before, after, hcons, hrest, hbefore⟩ := List.mergeSort_cons htrans htotal a l
      have hafter := htail hcons
      rw [hrest, List.filter_append] at ih
      by_cases hkeep : keep a = true
      · obtain ⟨before', after', hcons', hrest', hbefore'⟩ :=
          List.mergeSort_cons htrans htotal a (l.filter keep)
        have hafter' := htail hcons'
        rw [hrest'] at ih
        have hsame := append_inj_of_separated (p := le a)
          (fun x hx => by simpa using hbefore x (List.mem_filter.mp hx).1)
          (fun x hx => hafter x (List.mem_filter.mp hx).1)
          (fun x hx => by simpa using hbefore' x hx) hafter' ih
        rw [hcons, List.filter_append, List.filter_cons_of_pos hkeep,
          List.filter_cons_of_pos hkeep, hcons', hsame.1, hsame.2]
      · rw [hcons, List.filter_append, List.filter_cons_of_neg hkeep,
          List.filter_cons_of_neg hkeep, ih]

/-- **Stability.**  Leaving properties out of the sorted ones is sorting those that are left. -/
theorem filter_sortByName (keep : Property → Bool) (properties : List Property) :
    (sortByName properties).filter keep = sortByName (properties.filter keep) :=
  filter_mergeSort notBehind_trans notBehind_total keep properties

/-- When no two properties have the same name, their order before the sort does not matter. -/
theorem sortByName_eq_of_perm {a b : List Property} (hperm : a.Perm b)
    (hnames : (a.map Property.name).Nodup) : sortByName a = sortByName b := by
  have hperm' : (sortByName a).Perm (sortByName b) :=
    (sortByName_perm a).trans (hperm.trans (sortByName_perm b).symm)
  refine hperm'.eq_of_pairwise ?_ (sortByName_pairwise a) (sortByName_pairwise b)
  intro p q hp hq hpq hqp
  have hname : p.name = q.name := List.le_antisymm (List.not_lt.mp hpq) (List.not_lt.mp hqp)
  rw [mem_sortByName] at hp hq
  exact List.inj_on_of_nodup_map hnames hp (hperm.mem_iff.mpr hq) hname

end TypedStyle.Spec
