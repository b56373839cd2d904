import TypedStyle.Proofs.Audit.Update
/-!
# The audit explains the update

The audit tells by how much the keywords of a property differ from those of its entry, and the
update replaces them, each by a walk of its own over the spec.  What the audit tells is what the
update does: the keywords without those that are extra, with those that are missing, are the new
ones.

* `ascending_union_differences` — two differences lead from one list to the set of the other one;
* `differences_eq_nil_iff` — there is no difference exactly between lists of the same texts;
* `audit_explains_update` — finding and update at any position of a spec.
-/

namespace TypedStyle.Catalog

variable {a b : List Text}

/-! ## Differences of lists -/

/-- What is left of a list without its difference from another one is in both. -/
theorem mem_without_difference {t : Text} :
    t ∈ (a.filter fun t => t ∉ difference a b) ↔ t ∈ a ∧ t ∈ b := by
  simp only [List.mem_filter, decide_eq_true_eq, mem_difference, not_and, Decidable.not_not]
  exact and_congr_right fun ha => ⟨fun h => h ha, fun h _ => h⟩

/-- **Leaving out what is extra and adding what is missing** leads from one list to the other, as
sets. -/
theorem ascending_union_differences (a b : List Text) :
    Text.ascending ((a.filter fun t => t ∉ difference a b) ++ difference b a) =
      Text.ascending b := by
  apply Text.eq_of_ascending (Text.ascending_pairwise _) (Text.ascending_pairwise _)
  intro t
  rw [Text.mem_ascending, Text.mem_ascending, List.mem_append, mem_without_difference,
    mem_difference]
  constructor
  · rintro (⟨-, hb⟩ | ⟨hb, -⟩)
    · exact hb
    · exact hb
  · intro hb
    by_cases ha : t ∈ a
    · exact Or.inl ⟨ha, hb⟩
    · exact Or.inr ⟨hb, ha⟩

/-- **There is no difference, one way or the other, exactly between lists of the same texts.** -/
theorem differences_eq_nil_iff :
    (difference b a = [] ∧ difference a b = []) ↔ ∀ t, t ∈ a ↔ t ∈ b := by
  have hnil : ∀ a b : List Text, difference a b = [] ↔ ∀ t ∈ a, t ∈ b := by
    intro a b
    refine ⟨fun h t ha => ?_, difference_eq_nil⟩
    refine Decidable.byContradiction fun hb => ?_
    have hmem : t ∈ difference a b := mem_difference.mpr ⟨ha, hb⟩
    rw [h] at hmem
    exact List.not_mem_nil hmem
  rw [hnil, hnil]
  exact ⟨fun h t => ⟨h.2 t, h.1 t⟩, fun h => ⟨fun t => (h t).mpr, fun t => (h t).mp⟩⟩

/-! ## One property -/

/-- The comparison with an entry accounts for the keywords that the property has after the update.
What is missing are the keywords of the entry that the property lacks, and what is extra are those
of the property that the entry lacks, each in their order and with their repetitions. -/
structure Accounts (catalog : Catalog) (entry : Entry) (property updated : Property)
    (c : Comparison) : Prop where
  keywords : c.keywords = catalog.keywordsOf entry
  missing : c.missing = c.keywords.filter fun t => t ∉ property.keywords
  extra : c.extra = property.keywords.filter fun t => t ∉ c.keywords
  updated : updated.keywords =
    Text.ascending ((property.keywords.filter fun t => t ∉ c.extra) ++ c.missing)

/-- The finding on a property explains what the update makes of it.  A property that the catalog has
is clean exactly if its keywords and those of its entry are the same set; one that it does not have
stays as it is and is not clean. -/
def Explains (catalog : Catalog) (property updated : Property) (finding : Finding) : Prop :=
  finding.name = property.name ∧
    match catalog.properties.get? property.name with
    | some entry => ∃ c, finding.comparison = some c ∧ catalog.Accounts entry property updated c ∧
        (finding.isClean = true ↔ ∀ t, t ∈ property.keywords ↔ t ∈ c.keywords)
    | none => updated = property ∧ finding.isClean = false

/-- The difference of two lists is what is left of the one without the other, repetitions
included. -/
theorem difference_eq_filter (a b : List Text) :
    difference a b = a.filter fun t => t ∉ b := by
  simp [difference]

/-- The comparison of the audit accounts for the update. -/
theorem accounts_compare (catalog : Catalog) (property : Property) (entry : Entry) :
    catalog.Accounts entry property (catalog.propertyOf property.name entry)
      (catalog.compare property entry) where
  keywords := rfl
  missing := difference_eq_filter _ _
  extra := difference_eq_filter _ _
  updated := by
    have hascending : Text.ascending (catalog.keywordsOf entry) = catalog.keywordsOf entry :=
      Text.ascending_eq_self (Grammar.keywords_pairwise _ _)
    have hunion := ascending_union_differences property.keywords (catalog.keywordsOf entry)
    exact (hunion.trans hascending).symm

/-- **The finding on a property explains its update.** -/
theorem explains_examine (catalog : Catalog) (property : Property) :
    catalog.Explains property (catalog.updateProperty property) (catalog.examine property) := by
  refine ⟨rfl, ?_⟩
  cases hfound : catalog.properties.get? property.name with
  | none =>
      refine ⟨catalog.updateProperty_of_absent hfound, ?_⟩
      simp [Finding.isClean, examine, hfound]
  | some entry =>
      have hcomparison : (catalog.examine property).comparison =
          some (catalog.compare property entry) := by
        simp [examine, hfound]
      refine ⟨_, hcomparison, ?_, ?_⟩
      · rw [catalog.updateProperty_of_entry hfound]
        exact catalog.accounts_compare property entry
      · rw [Finding.isClean, hcomparison, Option.any_some, Bool.and_eq_true, List.isEmpty_iff,
          List.isEmpty_iff]
        exact differences_eq_nil_iff

/-! ## A whole spec -/

/-- **The audit explains the update.**  There are as many findings and updated properties as there
are properties of the spec, and at every position the finding names the property there and explains
what the update makes of it. -/
theorem audit_explains_update (catalog : Catalog) (spec : Spec) :
    (catalog.audit spec).length = spec.properties.length ∧
    (catalog.update spec).properties.length = spec.properties.length ∧
    ∀ (i : Nat) (property : Property), spec.properties[i]? = some property →
      ∃ updated finding, (catalog.update spec).properties[i]? = some updated ∧
        (catalog.audit spec)[i]? = some finding ∧
        catalog.Explains property updated finding := by
  refine ⟨catalog.audit_length spec, by simp [update], fun i property hproperty => ?_⟩
  refine ⟨catalog.updateProperty property, catalog.examine property, ?_, ?_,
    catalog.explains_examine property⟩
  · rw [update, List.getElem?_map, hproperty, Option.map_some]
  · rw [audit, List.getElem?_map, hproperty, Option.map_some]

/-- A spec whose second property has a keyword twice that the catalog does not know. -/
def repetitive : Spec where
  version := "1.0"
  properties :=
    [⟨"made-up", ["foo"], "foo", .standard⟩,
     ⟨"display", ["old", "block", "old"], "block | old", .standard⟩]

/-- Both repetitions are extra, and the keywords behind the dictionary are missing. -/
theorem audit_explains_repetitive :
    repetitive.properties[1]? =
      some ⟨"display", ["old", "block", "old"], "block | old", .standard⟩ ∧
    ∃ updated finding c, (twoProperties.update repetitive).properties[1]? = some updated ∧
      (twoProperties.audit repetitive)[1]? = some finding ∧ finding.comparison = some c ∧
      c.extra = List.map Text.ofString ["old", "old"] ∧
      c.missing = List.map Text.ofString ["contents", "none"] ∧
      updated.keywords = Text.ascending (Text.ofString "block" :: c.missing) := by
  obtain ⟨-, -, hpositions⟩ := twoProperties.audit_explains_update repetitive
  obtain ⟨updated, finding, hupdated, hfinding, -, hexplained⟩ := hpositions 1 _ rfl
  have hentry : twoProperties.properties.get? (Text.ofString "display") =
      some ⟨"<display-box> | block", "standard", Table.empty⟩ := by rfl
  rw [hentry] at hexplained
  obtain ⟨c, hcomparison, haccounts, -⟩ := hexplained
  have hkeywords : c.keywords = List.map Text.ofString ["block", "contents", "none"] := by
    rw [haccounts.keywords]
    decide +kernel
  have hextra : c.extra = List.map Text.ofString ["old", "old"] := by
    rw [haccounts.extra, hkeywords]
    decide
  refine ⟨rfl, updated, finding, c, hupdated, hfinding, hcomparison, hextra, ?_, ?_⟩
  · rw [haccounts.missing, hkeywords]
    decide
  · rw [haccounts.updated, hextra]
    rfl

end TypedStyle.Catalog
