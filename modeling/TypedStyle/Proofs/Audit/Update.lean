import TypedStyle.Audit.Basic
/-!
# An update settles the audit

The audit and the update walk over the same spec, each with a look-up of its own.  They agree on
every property: what the update writes is what the audit expects, and what the catalog does not have
is left alone by both.

* `updateProperty_updateProperty`, `update_update` — a second update changes nothing;
* `examine_updateProperty_of_entry`, `examine_updateProperty_of_absent` — the audit of one updated
  property, in the two cases of the look-up;
* `update_settles_audit` — the audit of the updated spec as a whole.
-/

namespace TypedStyle.Catalog

variable (catalog : Catalog)

/-- The difference of two lists has the texts of the first that are not in the second. -/
@[simp] theorem mem_difference {t : Text} {a b : List Text} :
    t ∈ difference a b ↔ t ∈ a ∧ t ∉ b := by
  simp [difference]

/-- A list differs in nothing from a list that has all of its texts. -/
theorem difference_eq_nil {a b : List Text} (h : ∀ t ∈ a, t ∈ b) : difference a b = [] := by
  apply List.eq_nil_iff_forall_not_mem.mpr
  intro t ht
  obtain ⟨hin, hout⟩ := mem_difference.mp ht
  exact hout (h t hin)

/-- A list differs in nothing from itself. -/
@[simp] theorem difference_self (a : List Text) : difference a a = [] :=
  difference_eq_nil fun _ ht => ht

/-! ## One property -/

/-- Of a property that the catalog has, the update keeps the name only. -/
theorem updateProperty_of_entry {property : Property} {entry : Entry}
    (hentry : catalog.properties.get? property.name = some entry) :
    catalog.updateProperty property = catalog.propertyOf property.name entry := by
  simp [updateProperty, hentry]

/-- A property that the catalog does not have is kept as it is. -/
theorem updateProperty_of_absent {property : Property}
    (habsent : catalog.properties.get? property.name = none) :
    catalog.updateProperty property = property := by
  simp [updateProperty, habsent]

/-- Updating a property twice is updating it once. -/
theorem updateProperty_updateProperty (property : Property) :
    catalog.updateProperty (catalog.updateProperty property) =
      catalog.updateProperty property := by
  cases hfound : catalog.properties.get? property.name with
  | none =>
      have hkept : catalog.updateProperty property = property :=
        catalog.updateProperty_of_absent hfound
      rw [hkept, hkept]
  | some entry =>
      have hname : (catalog.updateProperty property).name = property.name :=
        catalog.name_updateProperty property
      have hagain :
          catalog.properties.get? (catalog.updateProperty property).name = some entry := by
        rw [hname, hfound]
      rw [catalog.updateProperty_of_entry hagain, hname, catalog.updateProperty_of_entry hfound]

/-- **The audit of an updated property that the catalog has.**  The comparison is with the entry
that the update took its keywords from, so nothing is missing and nothing is left over. -/
theorem examine_updateProperty_of_entry {property : Property} {entry : Entry}
    (hentry : catalog.properties.get? property.name = some entry) :
    ∃ c, (catalog.examine (catalog.updateProperty property)).comparison = some c ∧
      c.missing = [] ∧ c.extra = [] := by
  have hnew := catalog.updateProperty_of_entry hentry
  refine ⟨catalog.compare (catalog.propertyOf property.name entry) entry, ?_, ?_, ?_⟩
  · rw [hnew]
    show (catalog.properties.get? property.name).map _ = _
    rw [hentry]
    rfl
  · exact difference_self (catalog.keywordsOf entry)
  · exact difference_self (catalog.keywordsOf entry)

/-- The audit of a property that the catalog does not have is not touched by the update. -/
theorem examine_updateProperty_of_absent {property : Property}
    (habsent : catalog.properties.get? property.name = none) :
    catalog.examine (catalog.updateProperty property) = catalog.examine property := by
  rw [catalog.updateProperty_of_absent habsent]

/-! ## The whole spec -/

/-- Updating a spec twice is updating it once. -/
theorem update_update (spec : Spec) :
    catalog.update (catalog.update spec) = catalog.update spec := by
  have htwice : catalog.updateProperty ∘ catalog.updateProperty = catalog.updateProperty := by
    funext property
    exact catalog.updateProperty_updateProperty property
  simp only [update, List.map_map, htwice]

/-- The audit of the updated spec looks at the updated properties one by one. -/
theorem audit_update (spec : Spec) :
    catalog.audit (catalog.update spec) =
      spec.properties.map fun property => catalog.examine (catalog.updateProperty property) := by
  simp [audit, update, Function.comp_def]

/-- The findings are on the properties of the spec, in its order. -/
theorem names_audit (spec : Spec) :
    (catalog.audit spec).map Finding.name = spec.properties.map Property.name := by
  simp [audit, Function.comp_def, examine]

/-- A finding without missing and without extra keywords is clean. -/
theorem isClean_of_comparison {finding : Finding} {c : Comparison}
    (hc : finding.comparison = some c) (hmissing : c.missing = []) (hextra : c.extra = []) :
    finding.isClean = true := by
  simp [Finding.isClean, hc, hmissing, hextra]

/-- **An update settles the audit.**  In the audit of the updated spec every property that the
catalog has is clean; the findings on all other properties are those of the audit before, at the
same positions; a second update changes nothing; and the version and the names, with their order,
are still those of the spec. -/
theorem update_settles_audit (spec : Spec) :
    (∀ finding ∈ catalog.audit (catalog.update spec),
      (catalog.properties.get? finding.name).isSome = true →
        finding.isClean = true ∧
          ∃ c, finding.comparison = some c ∧ c.missing = [] ∧ c.extra = []) ∧
    (∀ (i : Nat) (finding : Finding), catalog.properties.get? finding.name = none →
      ((catalog.audit (catalog.update spec))[i]? = some finding ↔
        (catalog.audit spec)[i]? = some finding)) ∧
    catalog.update (catalog.update spec) = catalog.update spec ∧
    (catalog.update spec).version = spec.version ∧
    (catalog.update spec).properties.map Property.name = spec.properties.map Property.name ∧
    (catalog.audit (catalog.update spec)).map Finding.name =
      spec.properties.map Property.name := by
  refine ⟨?_, ?_, catalog.update_update spec, rfl, catalog.names_update spec, ?_⟩
  · intro finding hmem hsome
    rw [audit_update] at hmem
    obtain ⟨property, _, rfl⟩ := List.mem_map.mp hmem
    have hname : (catalog.examine (catalog.updateProperty property)).name = property.name :=
      catalog.name_updateProperty property
    rw [hname] at hsome
    obtain ⟨entry, hentry⟩ := Option.isSome_iff_exists.mp hsome
    obtain ⟨c, hc, hmissing, hextra⟩ := catalog.examine_updateProperty_of_entry hentry
    exact ⟨isClean_of_comparison hc hmissing hextra, c, hc, hmissing, hextra⟩
  · intro i finding habsent
    rw [audit_update, audit, List.getElem?_map, List.getElem?_map]
    cases spec.properties[i]? with
    | none => simp
    | some property =>
        -- Both findings carry the name of the property, so the look-up that decides is the same.
        have hkept : property.name = finding.name →
            catalog.examine (catalog.updateProperty property) = catalog.examine property := by
          intro hname
          exact catalog.examine_updateProperty_of_absent (by rw [hname, habsent])
        simp only [Option.map_some, Option.some.injEq]
        constructor
        · intro hfinding
          have hname : property.name = finding.name := by
            rw [← hfinding]
            exact (catalog.name_updateProperty property).symm
          rw [← hkept hname, hfinding]
        · intro hfinding
          have hname : property.name = finding.name := by
            rw [← hfinding]
            rfl
          rw [hkept hname, hfinding]
  · rw [names_audit, names_update]

/-- A catalog of two properties, one of which refers to the dictionary. -/
def twoProperties : Catalog where
  properties := Table.ofList
    [("display", ⟨"<display-box> | block", "standard", Table.empty⟩),
     ("zoom", ⟨"normal | reset", "nonstandard", Table.empty⟩)]
  grammars := Table.ofList [("display-box", "contents | none")]

/-- A spec with a property that the catalog lacks and one that it describes otherwise. -/
def unsettled : Spec where
  version := "1.0"
  properties :=
    [⟨"made-up", ["foo"], "foo", .standard⟩,
     ⟨"display", ["block", "old"], "block | old", .standard⟩]

/-- Neither finding is clean before the update; behind it the second one is, and the first one has
not changed. -/
theorem update_settles_two_properties :
    (twoProperties.audit unsettled).map Finding.isClean = [false, false] ∧
    (∃ finding ∈ twoProperties.audit (twoProperties.update unsettled),
      finding.name = Text.ofString "display" ∧ finding.isClean = true) ∧
    (twoProperties.audit (twoProperties.update unsettled))[0]? =
      (twoProperties.audit unsettled)[0]? := by
  have hsettled := twoProperties.update_settles_audit unsettled
  let display : Property := ⟨"display", ["block", "old"], "block | old", .standard⟩
  let finding : Finding := twoProperties.examine (twoProperties.updateProperty display)
  have hmem : finding ∈ twoProperties.audit (twoProperties.update unsettled) := by
    rw [audit_update]
    exact List.mem_map.mpr ⟨display, by decide, rfl⟩
  have hname : finding.name = Text.ofString "display" :=
    twoProperties.name_updateProperty display
  have hfirst : (twoProperties.audit unsettled)[0]? =
      some (twoProperties.examine ⟨"made-up", ["foo"], "foo", .standard⟩) := rfl
  refine ⟨by decide +kernel, ⟨finding, hmem, hname, ?_⟩, ?_⟩
  · exact (hsettled.1 finding hmem (by rw [hname]; decide)).1
  · rw [hfirst]
    exact (hsettled.2.1 0 _ (by decide)).mpr hfirst

end TypedStyle.Catalog
