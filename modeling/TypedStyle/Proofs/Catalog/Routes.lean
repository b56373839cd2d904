import TypedStyle.Proofs.Audit.Update
import TypedStyle.Proofs.Spec.Sorting
/-!
# Two routes from a catalog to a normal form

A spec can be made from a catalog, or it can be kept by hand and brought up to date from a catalog.
Both routes describe a property from its entry alone, so they lead to the same properties as soon as
they start from the same names; the normal form then forgets in which order the names stood.

* `toSpec_eq_describe`, `update_eq_describe` — on each route the properties are the descriptions of
  the names it starts from;
* `normalize_eq_of_perm` — the normal form does not depend on the order of the properties;
* `normalize_update_eq_normalize_toSpec` — the two routes agree.
-/

namespace TypedStyle

namespace Catalog

variable (catalog : Catalog)

/-- The property of this name as the catalog describes it, if the catalog has it. -/
def describe? (name : Text) : Option Property :=
  (catalog.properties.get? name).map (catalog.propertyOf name)

/-- The names of the properties that are not prefixed, in ascending order. -/
def plainNames : List Text :=
  catalog.properties.keys.filter fun name => !isPrefixed name

/-- The catalog has every one of its names. -/
theorem get?_isSome_of_mem_plainNames {name : Text} (hmem : name ∈ catalog.plainNames) :
    (catalog.properties.get? name).isSome = true := by
  obtain ⟨hkey, _⟩ := List.mem_filter.mp hmem
  obtain ⟨⟨key, entry⟩, hentry, rfl⟩ := List.mem_map.mp hkey
  rw [(catalog.properties.mem_entries_iff_get? key entry).mp hentry]
  rfl

/-- The spec made from the catalog describes the names that are not prefixed. -/
theorem toSpec_eq_describe :
    catalog.toSpec.properties = catalog.plainNames.filterMap catalog.describe? := by
  have hkeys : catalog.plainNames =
      (catalog.properties.entries.filter fun entry => !isPrefixed entry.1).map (·.1) := by
    simp [plainNames, Table.keys, List.filter_map, Function.comp_def]
  rw [hkeys, List.filterMap_map, toSpec, ← List.filterMap_eq_map]
  apply List.filterMap_congr
  intro entry hmem
  have hentry : catalog.properties.get? entry.1 = some entry.2 :=
    (catalog.properties.mem_entries_iff_get? entry.1 entry.2).mp (List.mem_filter.mp hmem).1
  simp [describe?, hentry]

/-- The updated spec describes its own names, provided that the catalog has them all. -/
theorem update_eq_describe {spec : Spec}
    (hknown : ∀ name ∈ spec.properties.map Property.name,
      (catalog.properties.get? name).isSome = true) :
    (catalog.update spec).properties =
      (spec.properties.map Property.name).filterMap catalog.describe? := by
  rw [List.filterMap_map, update, ← List.filterMap_eq_map]
  apply List.filterMap_congr
  intro property hmem
  obtain ⟨entry, hentry⟩ :=
    Option.isSome_iff_exists.mp (hknown property.name (List.mem_map_of_mem hmem))
  simp [describe?, hentry, catalog.updateProperty_of_entry hentry]

/-- Whatever a spec says of its properties, with the names of the catalog that are not prefixed it
is updated to the properties of the catalog. -/
theorem update_perm_toSpec {spec : Spec}
    (hnames : (spec.properties.map Property.name).Perm catalog.plainNames) :
    (catalog.update spec).properties.Perm catalog.toSpec.properties := by
  have hknown : ∀ name ∈ spec.properties.map Property.name,
      (catalog.properties.get? name).isSome = true := by
    intro name hmem
    exact catalog.get?_isSome_of_mem_plainNames (hnames.mem_iff.mp hmem)
  rw [catalog.update_eq_describe hknown, catalog.toSpec_eq_describe]
  exact hnames.filterMap catalog.describe?

end Catalog

namespace Spec

/-- **The normal form forgets the order.**  Two specs with the same properties in different orders
have the same normal properties, if the normal names of the admitted ones are distinct. -/
theorem normalize_eq_of_perm {a b : Spec} (policy : Policy) (hperm : a.properties.Perm b.properties)
    (hdistinct : ((b.properties.filter fun p => policy.admits p.status).map fun p =>
      Property.normalName p.name).Nodup) :
    (a.normalize policy).properties = (b.normalize policy).properties := by
  have hadmitted := hperm.filter fun p => policy.admits p.status
  apply sortByName_eq_of_perm (hadmitted.map Property.normalize)
  rw [List.map_map]
  exact (hadmitted.map fun p => Property.normalName p.name).nodup_iff.mpr hdistinct

end Spec

namespace Catalog

/-- **The two routes agree.**  If the names of a spec are those of the catalog that are not
prefixed, in any order, then updating it and making a spec from the catalog give the same normal
properties, whatever the spec said of them; the admitted properties must have distinct normal
names. -/
theorem normalize_update_eq_normalize_toSpec (catalog : Catalog) (spec : Spec) (policy : Policy)
    (hnames : (spec.properties.map Property.name).Perm catalog.plainNames)
    (hdistinct : ((catalog.toSpec.properties.filter fun p => policy.admits p.status).map fun p =>
      Property.normalName p.name).Nodup) :
    ((catalog.update spec).normalize policy).properties =
      (catalog.toSpec.normalize policy).properties :=
  Spec.normalize_eq_of_perm policy (catalog.update_perm_toSpec hnames) hdistinct

/-- A catalog with a prefixed property and an experimental one. -/
def threeProperties : Catalog where
  properties := Table.ofList
    [("-moz-zoom", ⟨"normal", "nonstandard", Table.empty⟩),
     ("display", ⟨"<display-box> | block", "standard", Table.empty⟩),
     ("zoom", ⟨"normal | reset", "experimental", Table.empty⟩)]
  grammars := Table.ofList [("display-box", "contents | none")]

/-- A spec of the same two names in the other order, and with other contents. -/
def outdated : Spec where
  version := "1.0"
  properties :=
    [⟨"zoom", [], "<number>", .deprecated⟩, ⟨"display", ["block", "old"], "block | old", .standard⟩]

/-- The two routes from the catalog meet, although the spec says otherwise in every entry. -/
theorem normalize_update_outdated :
    (outdated.properties.map Property.name).Perm threeProperties.plainNames ∧
    ((threeProperties.toSpec.properties.filter fun p => (Policy.mk true false).admits p.status).map
      fun p => Property.normalName p.name).Nodup ∧
    ((threeProperties.update outdated).normalize ⟨true, false⟩).properties =
      (threeProperties.toSpec.normalize ⟨true, false⟩).properties := by
  have hnames : (outdated.properties.map Property.name).Perm threeProperties.plainNames := by
    decide
  have hdistinct : ((threeProperties.toSpec.properties.filter fun p =>
      (Policy.mk true false).admits p.status).map fun p => Property.normalName p.name).Nodup := by
    decide
  exact ⟨hnames, hdistinct,
    normalize_update_eq_normalize_toSpec threeProperties outdated ⟨true, false⟩ hnames hdistinct⟩

end Catalog

end TypedStyle
