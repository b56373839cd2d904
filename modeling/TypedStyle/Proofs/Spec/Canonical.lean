import TypedStyle.Proofs.Audit.Update
import TypedStyle.Spec.Document
/-!
# Where canonical specs come from

A spec that is read from a document is canonical, since a status is always made from its text; and
the statuses that an update writes are made from those of the catalog in the same way.

* `canonical_of_parse?` — every document that can be read denotes a canonical spec;
* `canonical_update` — a canonical spec is still one when it has been brought up to date.
-/

namespace TypedStyle

/-- What holds of every item as it is read holds of all items that are read. -/
theorem Json.forall_of_itemsOrNone? {α : Type} {read : Json → Option α} {p : α → Prop}
    (hread : ∀ item value, read item = some value → p value) {member : Option Json}
    {values : List α} (h : itemsOrNone? read member = some values) : ∀ value ∈ values, p value := by
  unfold itemsOrNone? at h
  split at h
  · obtain rfl := Option.some.inj h
    exact fun value hmem => absurd hmem List.not_mem_nil
  · obtain rfl := Option.some.inj h
    exact fun value hmem => absurd hmem List.not_mem_nil
  · next items =>
    induction items generalizing values with
    | nil =>
        obtain rfl : [] = values := Option.some.inj h
        exact fun value hmem => absurd hmem List.not_mem_nil
    | cons item items ih =>
        rw [List.mapM_cons] at h
        obtain ⟨first, hfirst, h⟩ := Option.bind_eq_some_iff.mp h
        obtain ⟨others, hothers, h⟩ := Option.bind_eq_some_iff.mp h
        obtain rfl := Option.some.inj h
        exact List.forall_mem_cons.mpr ⟨hread item first hfirst, ih hothers⟩
  · contradiction

/-- A status that is read is canonical; a missing one is the standard status. -/
theorem Status.canonical_of_ofMember? {member : Option Json} {status : Status}
    (h : ofMember? member = some status) : status.Canonical := by
  unfold ofMember? at h
  split at h
  · obtain rfl := Option.some.inj h
    exact canonical_ofText "standard"
  · obtain rfl := Option.some.inj h
    exact canonical_ofText "standard"
  · obtain ⟨t, -, rfl⟩ := Option.map_eq_some_iff.mp h
    exact canonical_ofText t

namespace Property

/-- A property that is read has a canonical status. -/
theorem canonical_of_ofMembers? {name keywords grammar status : Option Json} {property : Property}
    (h : ofMembers? name keywords grammar status = some property) : property.status.Canonical := by
  obtain ⟨_, -, h⟩ := Option.bind_eq_some_iff.mp h
  obtain ⟨_, -, h⟩ := Option.bind_eq_some_iff.mp h
  obtain ⟨_, -, h⟩ := Option.bind_eq_some_iff.mp h
  obtain ⟨found, hfound, h⟩ := Option.bind_eq_some_iff.mp h
  obtain rfl := Option.some.inj h
  exact Status.canonical_of_ofMember? hfound

/-- A property that is read has a canonical status, whether it is an object or an array. -/
theorem canonical_of_ofJson? {value : Json} {property : Property}
    (h : ofJson? value = some property) : property.status.Canonical := by
  unfold ofJson? at h
  split at h
  · split at h
    · obtain ⟨_, -, h⟩ := Option.bind_eq_some_iff.mp h
      obtain ⟨_, -, h⟩ := Option.bind_eq_some_iff.mp h
      obtain ⟨_, -, h⟩ := Option.bind_eq_some_iff.mp h
      obtain ⟨_, -, h⟩ := Option.bind_eq_some_iff.mp h
      exact canonical_of_ofMembers? h
    · contradiction
  · split at h
    · exact canonical_of_ofMembers? h
    · contradiction
  · contradiction

end Property

namespace Spec

/-- So has every property of a spec that is read. -/
theorem canonical_of_ofMembers? {version properties : Option Json} {spec : Spec}
    (h : ofMembers? version properties = some spec) : spec.Canonical := by
  obtain ⟨_, -, h⟩ := Option.bind_eq_some_iff.mp h
  obtain ⟨found, hfound, h⟩ := Option.bind_eq_some_iff.mp h
  obtain rfl := Option.some.inj h
  exact Json.forall_of_itemsOrNone? (fun _ _ => Property.canonical_of_ofJson?) hfound

/-- **Every spec that is read from a document is canonical.** -/
theorem canonical_of_parse? {document : Text} {spec : Spec} (h : parse? document = some spec) :
    spec.Canonical := by
  obtain ⟨value, -, h⟩ := Option.bind_eq_some_iff.mp h
  unfold ofJson? at h
  split at h
  · split at h
    · obtain ⟨_, -, h⟩ := Option.bind_eq_some_iff.mp h
      obtain ⟨_, -, h⟩ := Option.bind_eq_some_iff.mp h
      exact canonical_of_ofMembers? h
    · contradiction
  · split at h
    · exact canonical_of_ofMembers? h
    · contradiction
  · contradiction

end Spec

namespace Catalog

variable (catalog : Catalog)

/-- **An update keeps a spec canonical.** -/
theorem canonical_update {spec : Spec} (h : spec.Canonical) : (catalog.update spec).Canonical := by
  intro updated hmem
  obtain ⟨property, hproperty, rfl⟩ := List.mem_map.mp hmem
  cases hfound : catalog.properties.get? property.name with
  | none =>
      rw [catalog.updateProperty_of_absent hfound]
      exact h property hproperty
  | some entry =>
      rw [catalog.updateProperty_of_entry hfound]
      exact Status.canonical_ofText entry.status

end Catalog

end TypedStyle
