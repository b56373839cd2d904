import TypedStyle.Proofs.Spec.Sorting
import TypedStyle.Proofs.Text.LowerCase
/-!
# Normalizing a normal form

Each part of a normal form is a fixed point of its own step: the names are in small characters
without underscores, the keywords are trimmed, small and ascending, and the properties are sorted.
Since the sort is stable, a second normalization can only leave properties out.

* `normalName_normalName`, `normalKeywords_normalKeywords` — the steps on names and keywords;
* `normalize_normalize` — two normalizations are one, with the stricter of the two policies;
* `normalize_composes` — hence normalization is idempotent, and the order of two does not matter.
-/

namespace TypedStyle

open Text (IsSmall Trimmed isBlank)

namespace Property

/-! ## Names -/

/-- A normal name has small characters and no underscore. -/
theorem isSmall_of_mem_normalName {name : Text} {d : Char} (hmem : d ∈ normalName name) :
    IsSmall d ∧ d ≠ '_' := by
  obtain ⟨c, hc, rfl⟩ := List.mem_map.mp hmem
  split
  · decide
  · next hne => exact ⟨Text.isSmall_of_mem_lower hc, hne⟩

/-- A name of small characters without underscores is normal already. -/
theorem normalName_eq_self {name : Text} (h : ∀ c ∈ name, IsSmall c ∧ c ≠ '_') :
    normalName name = name := by
  have hlower : Text.lower name = name := Text.lower_eq_self fun c hc => (h c hc).1
  have hkept : ∀ c ∈ name, (if c = '_' then '-' else c) = c :=
    fun c hc => if_neg (h c hc).2
  rw [normalName, hlower, List.map_congr_left hkept, List.map_id']

/-- A normal name is its own normal form. -/
theorem normalName_normalName (name : Text) : normalName (normalName name) = normalName name :=
  normalName_eq_self fun _ hmem => isSmall_of_mem_normalName hmem

/-! ## Keywords -/

/-- A keyword is normal when it is not empty, trimmed and in small characters. -/
structure IsNormalKeyword (keyword : Text) : Prop where
  ne_nil : keyword ≠ []
  trimmed : Trimmed isBlank keyword
  small : ∀ c ∈ keyword, IsSmall c

/-- Trimming and lower-casing make any keyword normal, unless nothing is left of it. -/
theorem isNormalKeyword_lower_trim {keyword : Text}
    (hne : Text.lower (Text.trim keyword) ≠ []) :
    IsNormalKeyword (Text.lower (Text.trim keyword)) where
  ne_nil := hne
  trimmed := (Text.trimmed_trimBy isBlank keyword).lower
  small := fun _ hmem => Text.isSmall_of_mem_lower hmem

/-- Trimming and lower-casing leave a normal keyword alone. -/
theorem IsNormalKeyword.lower_trim {keyword : Text} (h : IsNormalKeyword keyword) :
    Text.lower (Text.trim keyword) = keyword := by
  rw [Text.trim, Text.trimBy_eq_self h.trimmed, Text.lower_eq_self h.small]

/-- A normal keyword is one of the keywords, trimmed and in small letters, and it is not empty. -/
theorem mem_normalKeywords {keyword : Text} {keywords : List Text} :
    keyword ∈ normalKeywords keywords ↔
      (∃ k ∈ keywords, Text.lower (Text.trim k) = keyword) ∧ keyword ≠ [] := by
  simp [normalKeywords]

/-- **What normalizing makes of keywords is normal.** -/
theorem isNormalKeyword_of_mem_normalKeywords {keyword : Text} {keywords : List Text}
    (hmem : keyword ∈ normalKeywords keywords) : IsNormalKeyword keyword := by
  obtain ⟨⟨k, _, rfl⟩, hne⟩ := mem_normalKeywords.mp hmem
  exact isNormalKeyword_lower_trim hne

/-- Normal keywords in ascending order are their own normal form. -/
theorem normalKeywords_eq_self {keywords : List Text}
    (hascending : keywords.Pairwise (· < ·)) (hnormal : ∀ k ∈ keywords, IsNormalKeyword k) :
    normalKeywords keywords = keywords := by
  apply Text.eq_of_ascending (Text.ascending_pairwise _) hascending
  intro keyword
  show keyword ∈ normalKeywords keywords ↔ keyword ∈ keywords
  rw [mem_normalKeywords]
  constructor
  · rintro ⟨⟨k, hk, rfl⟩, _⟩
    rwa [(hnormal k hk).lower_trim]
  · intro hmem
    exact ⟨⟨keyword, hmem, (hnormal keyword hmem).lower_trim⟩, (hnormal keyword hmem).ne_nil⟩

/-- Normal keywords are their own normal form. -/
theorem normalKeywords_normalKeywords (keywords : List Text) :
    normalKeywords (normalKeywords keywords) = normalKeywords keywords :=
  normalKeywords_eq_self (Text.ascending_pairwise _) fun _ hmem =>
    isNormalKeyword_of_mem_normalKeywords hmem

/-- Normalizing a property twice is normalizing it once. -/
theorem normalize_normalize (property : Property) :
    property.normalize.normalize = property.normalize := by
  simp only [normalize, normalName_normalName, normalKeywords_normalKeywords]

end Property

/-- What two policies both admit is admitted by the one that allows experimental properties only if
both do; strictness has no say in it. -/
theorem Policy.admits_and (a b : Policy) (strict : Bool) (status : Status) :
    Policy.admits ⟨a.allowExperimental && b.allowExperimental, strict⟩ status =
      (a.admits status && b.admits status) := by
  cases status <;> simp [Policy.admits]

namespace Spec

/-- The admitted properties of a spec, in normal form but in the order of the spec. -/
def admitted (policy : Policy) (properties : List Property) : List Property :=
  (properties.filter fun p => policy.admits p.status).map Property.normalize

/-- Normalizing is admitting the properties and sorting them. -/
theorem normalize_eq (policy : Policy) (spec : Spec) :
    spec.normalize policy = ⟨spec.version, sortByName (admitted policy spec.properties)⟩ :=
  rfl

/-- Admitting normal properties only leaves some of them out. -/
theorem admitted_of_normal {policy : Policy} {properties : List Property}
    (hnormal : ∀ p ∈ properties, p.normalize = p) :
    admitted policy properties = properties.filter fun p => policy.admits p.status := by
  have hkept : ∀ p ∈ properties.filter (fun p => policy.admits p.status), p.normalize = id p := by
    intro p hp
    exact hnormal p (List.mem_filter.mp hp).1
  rw [admitted, List.map_congr_left hkept, List.map_id]

/-- Admitting by one policy and then by another is admitting what both admit. -/
theorem filter_admitted (a b : Policy) (strict : Bool) (properties : List Property) :
    (admitted a properties).filter (fun p => b.admits p.status) =
      admitted ⟨a.allowExperimental && b.allowExperimental, strict⟩ properties := by
  have hstatus : (fun p : Property => b.admits p.status) ∘ Property.normalize =
      fun p => b.admits p.status := rfl
  rw [admitted, List.filter_map, hstatus, List.filter_filter, admitted]
  congr 2
  funext p
  rw [Policy.admits_and, Bool.and_comm]

/-- **Two normalizations are one.** -/
theorem normalize_normalize (a b : Policy) (strict : Bool) (spec : Spec) :
    (spec.normalize a).normalize b =
      spec.normalize ⟨a.allowExperimental && b.allowExperimental, strict⟩ := by
  have hnormal : ∀ p ∈ sortByName (admitted a spec.properties), p.normalize = p := by
    intro p hp
    obtain ⟨q, _, rfl⟩ := List.mem_map.mp (mem_sortByName.mp hp)
    exact q.normalize_normalize
  have hsecond : admitted b (sortByName (admitted a spec.properties)) =
      sortByName
        (admitted ⟨a.allowExperimental && b.allowExperimental, strict⟩ spec.properties) := by
    rw [admitted_of_normal hnormal, filter_sortByName, filter_admitted a b strict]
  rw [normalize_eq, normalize_eq, normalize_eq]
  show Spec.mk spec.version (sortByName (admitted b (sortByName (admitted a spec.properties)))) = _
  rw [hsecond, sortByName_eq_self (sortByName_pairwise _)]

/-- **Normalizations compose.**  Normalizing by two policies, one behind the other, is normalizing
once, with experimental properties only if both allow them and with any strictness; so normalization
is idempotent, and two normalizations may change places. -/
theorem normalize_composes (spec : Spec) (a b : Policy) :
    (∀ strict : Bool, (spec.normalize a).normalize b =
      spec.normalize ⟨a.allowExperimental && b.allowExperimental, strict⟩) ∧
    (spec.normalize a).normalize a = spec.normalize a ∧
    (spec.normalize a).normalize b = (spec.normalize b).normalize a := by
  refine ⟨fun strict => normalize_normalize a b strict spec, ?_, ?_⟩
  · rw [normalize_normalize a a a.strict, Bool.and_self]
  · rw [normalize_normalize a b true, normalize_normalize b a true, Bool.and_comm]

end Spec

end TypedStyle
