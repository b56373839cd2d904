import Mathlib.Data.List.Forall2
import TypedStyle.Proofs.Spec.Normal
/-!
# What a normal form is

The normal form of a spec can be told without saying how it is made.  Its properties are copies of
those that are kept, one of each, in the order of their names; those of equal names stand in the
order of the spec.  Only one list of properties is like that.

* `normalCopy_iff`, `forall₂_normalCopy_iff` — there is one copy of a property in normal form;
* `stableSort_sortByName`, `eq_of_ties` — there is one stable sort of a list, and sorting gives it;
* `eq_normalize_iff` — hence the normal form is what these two conditions say.
-/

namespace TypedStyle

/-! ## Copies -/

namespace Property

/-- The second property is the first one in normal form: its name is in lower case, with hyphens for
underscores, and its keywords are those that are left after trimming and lower-casing, as a strictly
ascending list; grammar and status are the same. -/
structure NormalCopy (source copy : Property) : Prop where
  name : copy.name = normalName source.name
  lower_name : Text.lower copy.name = copy.name
  noUnderscore : '_' ∉ copy.name
  ascending : copy.keywords.Pairwise (· < ·)
  mem_keywords : ∀ keyword, keyword ∈ copy.keywords ↔
    (∃ k ∈ source.keywords, Text.lower (Text.trim k) = keyword) ∧ keyword ≠ []
  grammar : copy.grammar = source.grammar
  status : copy.status = source.status

/-- **There is one copy of a property in normal form.** -/
theorem normalCopy_iff {source copy : Property} :
    NormalCopy source copy ↔ copy = source.normalize := by
  constructor
  · intro h
    have hkeywords : copy.keywords = normalKeywords source.keywords := by
      apply Text.eq_of_ascending h.ascending (Text.ascending_pairwise _)
      intro keyword
      rw [h.mem_keywords]
      exact mem_normalKeywords.symm
    obtain ⟨name, keywords, grammar, status⟩ := copy
    obtain ⟨rfl, -, -, -, -, rfl, rfl⟩ := h
    exact congrArg (Property.mk _ · _ _) hkeywords
  · rintro rfl
    have hchars : ∀ c ∈ source.normalize.name, Text.IsSmall c ∧ c ≠ '_' :=
      fun _ hmem => isSmall_of_mem_normalName hmem
    exact {
      name := rfl
      lower_name := Text.lower_eq_self fun c hc => (hchars c hc).1
      noUnderscore := fun hmem => (hchars '_' hmem).2 rfl
      ascending := Text.ascending_pairwise _
      mem_keywords := fun _ => mem_normalKeywords
      grammar := rfl
      status := rfl }

/-- Copies of several properties, one by one. -/
theorem forall₂_normalCopy_iff {sources copies : List Property} :
    List.Forall₂ NormalCopy sources copies ↔ copies = sources.map normalize := by
  constructor
  · intro h
    induction h with
    | nil => rfl
    | cons hcopy _ ih => rw [List.map_cons, normalCopy_iff.mp hcopy, ih]
  · rintro rfl
    rw [List.forall₂_map_right_iff]
    exact List.forall₂_same.mpr fun _ _ => normalCopy_iff.mpr rfl

end Property

namespace Spec

/-! ## Stable sorts -/

/-- The properties of this name, in their order. -/
def called (name : Text) (properties : List Property) : List Property :=
  properties.filter fun property => property.name = name

/-- The properties that are called by a name are those that have it. -/
@[simp] theorem mem_called {name : Text} {properties : List Property} {property : Property} :
    property ∈ called name properties ↔ property ∈ properties ∧ property.name = name := by
  simp [called]

/-- The second list has the properties of the first one, each as often, in the order of their names,
and those of one name in the order of the first list. -/
structure StableSort (properties sorted : List Property) : Prop where
  perm : sorted.Perm properties
  ascending : sorted.Pairwise fun a b => ¬ b.name < a.name
  ties : ∀ name, called name sorted = called name properties

/-- **Sorting by name is a stable sort.**  Properties of one name are sorted as they stand. -/
theorem stableSort_sortByName (properties : List Property) :
    StableSort properties (sortByName properties) where
  perm := sortByName_perm properties
  ascending := sortByName_pairwise properties
  ties name := by
    have hsame : (called name properties).Pairwise fun a b => ¬ b.name < a.name := by
      refine List.pairwise_of_forall_mem_list fun a ha b hb => ?_
      rw [(mem_called.mp ha).2, (mem_called.mp hb).2]
      exact List.lt_irrefl name
    rw [called, filter_sortByName]
    exact sortByName_eq_self hsame

/-- Both lists start with a property of the least name, and with the first of that name. -/
private theorem head_eq_of_ties {p q : Property} {a b : List Property}
    (ha : (p :: a).Pairwise fun a b => ¬ b.name < a.name)
    (hb : (q :: b).Pairwise fun a b => ¬ b.name < a.name)
    (h : ∀ name, called name (p :: a) = called name (q :: b)) : p = q := by
  have hleast : ∀ {p : Property} {a : List Property} {x : Property},
      (p :: a).Pairwise (fun a b => ¬ b.name < a.name) → x ∈ p :: a → ¬ x.name < p.name := by
    intro p a x hsorted hx
    rcases List.mem_cons.mp hx with rfl | hx
    · exact List.lt_irrefl _
    · exact (List.pairwise_cons.mp hsorted).1 x hx
  have hp : p ∈ called p.name (q :: b) := by
    rw [← h]
    exact mem_called.mpr ⟨List.mem_cons_self, rfl⟩
  have hq : q ∈ called q.name (p :: a) := by
    rw [h]
    exact mem_called.mpr ⟨List.mem_cons_self, rfl⟩
  have hname : p.name = q.name :=
    List.le_antisymm (List.not_lt.mp (hleast ha (mem_called.mp hq).1))
      (List.not_lt.mp (hleast hb (mem_called.mp hp).1))
  have hfirst := h p.name
  simp only [called, List.filter_cons, hname, decide_true, if_true] at hfirst
  exact (List.cons.inj hfirst).1

/-- **Sorted lists with the same properties of each name are the same.**  By induction on both: what
is left behind equal first properties has the same properties of each name again. -/
theorem eq_of_ties {a b : List Property} (ha : a.Pairwise fun a b => ¬ b.name < a.name)
    (hb : b.Pairwise fun a b => ¬ b.name < a.name)
    (h : ∀ name, called name a = called name b) : a = b := by
  induction a generalizing b with
  | nil =>
      refine (List.eq_nil_iff_forall_not_mem.mpr fun q hq => ?_).symm
      have hnone : q ∈ called q.name [] := h q.name ▸ mem_called.mpr ⟨hq, rfl⟩
      exact absurd (mem_called.mp hnone).1 List.not_mem_nil
  | cons p a ih =>
      cases b with
      | nil =>
          have hnone : p ∈ called p.name [] := h p.name ▸ mem_called.mpr ⟨List.mem_cons_self, rfl⟩
          exact absurd (mem_called.mp hnone).1 List.not_mem_nil
      | cons q b =>
          obtain rfl := head_eq_of_ties ha hb h
          refine congrArg (p :: ·) (ih (List.pairwise_cons.mp ha).2 (List.pairwise_cons.mp hb).2 ?_)
          intro name
          have hname := h name
          simp only [called, List.filter_cons] at hname ⊢
          split at hname
          · exact (List.cons.inj hname).2
          · exact hname

/-! ## The normal form -/

/-- Is the property kept?  Deprecated ones are not, and experimental ones only if they are asked
for. -/
def isKept (allowExperimental : Bool) (property : Property) : Bool :=
  property.status ≠ .deprecated && (allowExperimental || property.status ≠ .experimental)

/-- A policy admits what is kept under its setting for experimental properties. -/
theorem admits_eq_isKept (policy : Policy) (property : Property) :
    policy.admits property.status = isKept policy.allowExperimental property := by
  unfold isKept
  cases property.status <;> simp [Policy.admits]

/-- **What the normal form is.**  It has the version of the spec.  Its properties are exactly the
stable sort, by name, of the copies in normal form of the properties that are kept, one of each and
nothing else; and strictness changes nothing. -/
theorem eq_normalize_iff (spec : Spec) (policy : Policy) :
    (spec.normalize policy).version = spec.version ∧
    (∀ properties, properties = (spec.normalize policy).properties ↔
      ∃ copies,
        List.Forall₂ Property.NormalCopy
          (spec.properties.filter (isKept policy.allowExperimental)) copies ∧
        StableSort copies properties) ∧
    ∀ strict, spec.normalize ⟨policy.allowExperimental, strict⟩ = spec.normalize policy := by
  have hkept : (fun p : Property => policy.admits p.status) = isKept policy.allowExperimental :=
    funext (admits_eq_isKept policy)
  have hcopies : ∀ copies, List.Forall₂ Property.NormalCopy
      (spec.properties.filter (isKept policy.allowExperimental)) copies ↔
        copies = admitted policy spec.properties := by
    intro copies
    rw [Property.forall₂_normalCopy_iff, admitted, hkept]
  refine ⟨rfl, fun properties => ?_, fun strict => ?_⟩
  · rw [normalize_eq]
    constructor
    · rintro rfl
      exact ⟨_, (hcopies _).mpr rfl, stableSort_sortByName _⟩
    · rintro ⟨copies, hcopy, hsorted⟩
      obtain rfl := (hcopies copies).mp hcopy
      have hsort := stableSort_sortByName (admitted policy spec.properties)
      exact eq_of_ties hsorted.ascending hsort.ascending fun name =>
        (hsorted.ties name).trans (hsort.ties name).symm
  · have hadmits : ∀ status, Policy.admits ⟨policy.allowExperimental, strict⟩ status =
        policy.admits status := by
      intro status
      cases status <;> rfl
    simp only [normalize, hadmits]

end Spec

end TypedStyle
