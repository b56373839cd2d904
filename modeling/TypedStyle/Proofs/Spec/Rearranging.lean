import TypedStyle.Artifact.Basic
import TypedStyle.Proofs.Spec.Normal
/-!
# Rearranged specs

A spec may list its properties in any order, and the keywords of a property in any order and with
repetitions.  The normal form has the keywords as a set and the properties sorted by their normal
names, so nothing of that is left in it, nor in what is generated from it.

* `normalKeywords_congr` — the normal keywords depend on the set of the keywords alone;
* `admitted_congr` — so do the admitted properties, one by one;
* `render_normalize_of_rearranged` — rearranged specs have the same normal form and the same
  artifacts.
-/

namespace TypedStyle

/-! ## Properties with the same keywords -/

namespace Property

/-- The properties differ at most in the order and the repetitions of their keywords. -/
structure Alike (p q : Property) : Prop where
  name : p.name = q.name
  grammar : p.grammar = q.grammar
  status : p.status = q.status
  mem_keywords : ∀ keyword, keyword ∈ p.keywords ↔ keyword ∈ q.keywords

/-- The normal keywords depend on the set of the keywords alone. -/
theorem normalKeywords_congr {a b : List Text} (h : ∀ keyword, keyword ∈ a ↔ keyword ∈ b) :
    normalKeywords a = normalKeywords b := by
  refine Text.eq_of_ascending (Text.ascending_pairwise _) (Text.ascending_pairwise _)
    fun keyword => ?_
  show keyword ∈ normalKeywords a ↔ keyword ∈ normalKeywords b
  simp only [mem_normalKeywords, h]

/-- Properties with the same keywords have the same normal form. -/
theorem Alike.normalize_eq {p q : Property} (h : Alike p q) : p.normalize = q.normalize := by
  obtain ⟨name, keywords, grammar, status⟩ := p
  obtain ⟨name', keywords', grammar', status'⟩ := q
  obtain ⟨rfl, rfl, rfl, hkeywords⟩ := h
  simp only [normalize, normalKeywords_congr hkeywords]

end Property

namespace Spec

/-- The second spec has the version of the first one and its properties in some order, with the
keywords of each in some order and with any repetitions. -/
def Rearranged (a b : Spec) : Prop :=
  a.version = b.version ∧
    ∃ properties, a.properties.Perm properties ∧
      List.Forall₂ Property.Alike properties b.properties

/-- The admitted properties are in normal form, so they do not depend on the order of keywords.  By
induction on the two lists, since alike properties are admitted or not together. -/
theorem admitted_congr (policy : Policy) {a b : List Property}
    (h : List.Forall₂ Property.Alike a b) : admitted policy a = admitted policy b := by
  induction h with
  | nil => rfl
  | @cons p q a b hpq _ ih =>
    unfold admitted at ih ⊢
    simp only [List.filter_cons, hpq.status]
    split
    · rw [List.map_cons, List.map_cons, hpq.normalize_eq, ih]
    · exact ih

/-- **Rearranging a spec changes nothing that is generated.**  If the admitted properties of a spec
have distinct normal names, a rearranged spec has the same normal form, and so the same artifacts,
for every module and every time. -/
theorem render_normalize_of_rearranged {a b : Spec} (policy : Policy) (h : Rearranged a b)
    (hdistinct : ((a.properties.filter fun p => policy.admits p.status).map fun p =>
      Property.normalName p.name).Nodup) :
    a.normalize policy = b.normalize policy ∧
      ∀ (artifact : Artifact) (module timestamp : Text),
        artifact.render (a.normalize policy) module timestamp =
          artifact.render (b.normalize policy) module timestamp := by
  obtain ⟨hversion, properties, hperm, halike⟩ := h
  have hnames : ((admitted policy a.properties).map Property.name).Nodup := by
    rw [admitted, List.map_map]
    exact hdistinct
  have hadmitted : (admitted policy a.properties).Perm (admitted policy b.properties) := by
    rw [← admitted_congr policy halike]
    exact (hperm.filter _).map _
  have hnormal : a.normalize policy = b.normalize policy := by
    rw [normalize_eq, normalize_eq, hversion, sortByName_eq_of_perm hadmitted hnames]
  refine ⟨hnormal, fun artifact module timestamp => ?_⟩
  rw [hnormal]

/-- Two properties of which one has keywords in capitals, and a third one that is not admitted. -/
def threeEntries : Spec where
  version := "2"
  properties :=
    [⟨"float", ["right", "LEFT ", "none"], "", .standard⟩, ⟨"Clear", [], "", .other "draft"⟩,
     ⟨"clear", ["both"], "", .experimental⟩]

/-- The same in the reverse order, and with keywords that are repeated. -/
def threeEntriesBack : Spec where
  version := "2"
  properties :=
    [⟨"clear", ["both", "both"], "", .experimental⟩, ⟨"Clear", [], "", .other "draft"⟩,
     ⟨"float", ["none", "right", "none", "LEFT ", "right"], "", .standard⟩]

/-- The two specs have the same artifacts, although two of the three names are alike. -/
theorem render_normalize_threeEntries :
    Rearranged threeEntries threeEntriesBack ∧
    ((threeEntries.properties.filter fun p => (Policy.mk false true).admits p.status).map fun p =>
      Property.normalName p.name).Nodup ∧
    threeEntries.normalize ⟨false, true⟩ = threeEntriesBack.normalize ⟨false, true⟩ ∧
    ∀ (artifact : Artifact) (module timestamp : Text),
      artifact.render (threeEntries.normalize ⟨false, true⟩) module timestamp =
        artifact.render (threeEntriesBack.normalize ⟨false, true⟩) module timestamp := by
  have hrearranged : Rearranged threeEntries threeEntriesBack := by
    refine ⟨rfl, threeEntries.properties.reverse, (List.reverse_perm _).symm, ?_⟩
    have hmem : ∀ {a b : List Text}, a ⊆ b ∧ b ⊆ a → ∀ keyword, keyword ∈ a ↔ keyword ∈ b :=
      fun h _ => ⟨fun hmem => h.1 hmem, fun hmem => h.2 hmem⟩
    exact .cons ⟨rfl, rfl, rfl, hmem (by decide)⟩ (.cons ⟨rfl, rfl, rfl, fun _ => Iff.rfl⟩
      (.cons ⟨rfl, rfl, rfl, hmem (by decide)⟩ .nil))
  have hdistinct : ((threeEntries.properties.filter fun p =>
      (Policy.mk false true).admits p.status).map fun p => Property.normalName p.name).Nodup := by
    decide
  exact ⟨hrearranged, hdistinct,
    render_normalize_of_rearranged ⟨false, true⟩ hrearranged hdistinct⟩

end Spec

end TypedStyle
