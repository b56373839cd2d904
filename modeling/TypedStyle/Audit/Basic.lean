import TypedStyle.Catalog.Basic
/-!
# Auditing a spec against the catalog

For each property of a spec the audit looks the name up in the catalog and compares the keywords of
the spec with those of the catalog's grammar.  Updating the spec replaces what the catalog knows
better: the keywords, the grammar and the status of every property that it has.

* `audit_length`, `names_update` — both speak of the properties of the spec, in its order.
-/

namespace TypedStyle

/-- How a property of the spec compares with its entry in the catalog. -/
structure Comparison where
  /-- The status of the entry, as it is written there. -/
  status : Text
  /-- The keywords of the entry. -/
  keywords : List Text
  /-- The keywords of the entry that the spec lacks. -/
  missing : List Text
  /-- The keywords of the spec that the entry lacks. -/
  extra : List Text
  /-- Does the grammar of the entry contain the keywords of the spec as alternatives in a row? -/
  inGrammar : Bool
  deriving DecidableEq, Repr

/-- What the audit finds about one property of the spec. -/
structure Finding where
  name : Text
  keywords : List Text
  /-- There is no comparison when the catalog does not have the property. -/
  comparison : Option Comparison
  deriving DecidableEq, Repr

namespace Finding

/-- A finding is clean when the property is in the catalog, with the same keywords. -/
def isClean (finding : Finding) : Bool :=
  finding.comparison.any fun c => c.missing.isEmpty && c.extra.isEmpty

/-- The status in place of that of an entry when there is none. -/
def absentStatus : Text := "NOT_FOUND_IN_MDN"

/-- The status in the catalog, or the mark that there is none. -/
def status (finding : Finding) : Text :=
  (finding.comparison.map Comparison.status).getD absentStatus

end Finding

namespace Catalog

/-- The texts of the first list that are not in the second, repetitions included. -/
def difference (a b : List Text) : List Text :=
  a.filter fun t => !b.contains t

/-- Keywords as the alternatives of a grammar. -/
def alternatives (keywords : List Text) : Text :=
  Text.join " | " keywords

/-- How a property compares with an entry of the catalog. -/
def compare (catalog : Catalog) (property : Property) (entry : Entry) : Comparison :=
  let keywords := catalog.keywordsOf entry
  { status := entry.status
    keywords := keywords
    missing := difference keywords property.keywords
    extra := difference property.keywords keywords
    inGrammar := Text.contains entry.grammar (alternatives property.keywords) }

/-- What the audit finds about a property. -/
def examine (catalog : Catalog) (property : Property) : Finding :=
  ⟨property.name, property.keywords,
   (catalog.properties.get? property.name).map (catalog.compare property)⟩

/-- What the audit finds about the properties of a spec, in its order. -/
def audit (catalog : Catalog) (spec : Spec) : List Finding :=
  spec.properties.map catalog.examine

/-- The property as the catalog describes it, or as it is if the catalog does not have it. -/
def updateProperty (catalog : Catalog) (property : Property) : Property :=
  match catalog.properties.get? property.name with
  | some entry => catalog.propertyOf property.name entry
  | none => property

/-- The spec with its properties as the catalog describes them. -/
def update (catalog : Catalog) (spec : Spec) : Spec :=
  ⟨spec.version, spec.properties.map catalog.updateProperty⟩

/-- An audit makes one comparison for each property. -/
theorem audit_length (catalog : Catalog) (spec : Spec) :
    (catalog.audit spec).length = spec.properties.length := by
  simp [audit]

/-- An update changes no name. -/
@[simp] theorem name_updateProperty (catalog : Catalog) (property : Property) :
    (catalog.updateProperty property).name = property.name := by
  unfold updateProperty
  split <;> rfl

/-- So the properties of an updated spec are those of the spec, in their order. -/
theorem names_update (catalog : Catalog) (spec : Spec) :
    (catalog.update spec).properties.map Property.name = spec.properties.map Property.name := by
  simp [update]

end Catalog

end TypedStyle
