import TypedStyle.Grammar.Keyword
import TypedStyle.Json.Basic
import TypedStyle.Spec.Basic
/-!
# The MDN catalog

The catalog is the reference data on style properties: for each property the grammar of its values
and its status, with further facts about it that nothing here depends on; and a dictionary of the
grammars that these grammars refer to.

* `mem_toSpec` — the spec made from a catalog has exactly its unprefixed properties;
* `toSpec_names_pairwise` — they come in strictly ascending order of their names.
-/

namespace TypedStyle

/-- What the catalog says about one property. -/
structure Catalog.Entry where
  grammar : Text
  status : Text
  metadata : Table Json

/-- Reference data on style properties. -/
structure Catalog where
  properties : Table Catalog.Entry
  grammars : Grammar.Dictionary

namespace Catalog

/-- The version of every spec that is made from a catalog. -/
def specVersion : Text := "mdn-latest"

/-- Is this the name of a vendor's own property or of a custom one? -/
def isPrefixed (name : Text) : Bool :=
  name.head? = some '-'

/-- The keywords of an entry. -/
def keywordsOf (catalog : Catalog) (entry : Entry) : List Text :=
  Grammar.keywords catalog.grammars entry.grammar

/-- The property that an entry describes. -/
def propertyOf (catalog : Catalog) (name : Text) (entry : Entry) : Property :=
  ⟨name, catalog.keywordsOf entry, entry.grammar, Status.ofText entry.status⟩

/-- The spec of all properties of the catalog that are not prefixed. -/
def toSpec (catalog : Catalog) : Spec :=
  ⟨specVersion,
   (catalog.properties.entries.filter fun entry => !isPrefixed entry.1).map fun entry =>
     catalog.propertyOf entry.1 entry.2⟩

/-- The properties of the spec of a catalog are its entries, but for those with a vendor's
prefix. -/
theorem mem_toSpec {catalog : Catalog} {property : Property} :
    property ∈ catalog.toSpec.properties ↔
      ∃ name entry, catalog.properties.get? name = some entry ∧ isPrefixed name = false ∧
        catalog.propertyOf name entry = property := by
  simp [toSpec, ← Table.mem_entries_iff_get?, and_assoc]

/-- **They are in the order of their names**, each of them once. -/
theorem toSpec_names_pairwise (catalog : Catalog) :
    catalog.toSpec.properties.Pairwise fun a b => a.name < b.name := by
  simp only [toSpec, List.pairwise_map]
  exact catalog.properties.ascending.filter _

end Catalog

end TypedStyle
