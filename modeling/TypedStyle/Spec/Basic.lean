import TypedStyle.Text.Basic
/-!
# Property specs

A spec lists style properties in an order of its own.  A property has a name, the keywords that are
values of it, the grammar of all its values, and a lifecycle status.

* `Status.canonical_ofText` — a status that is made from a text is read back from its own.
-/

namespace TypedStyle

/-- The lifecycle status of a property. -/
inductive Status where
  | standard
  | experimental
  | deprecated
  /-- Any other status, kept as it was written. -/
  | other (tag : Text)
  deriving DecidableEq, Repr

namespace Status

/-- The status as it is written. -/
def text : Status → Text
  | .standard => "standard"
  | .experimental => "experimental"
  | .deprecated => "deprecated"
  | .other tag => tag

/-- The status that a text stands for. -/
def ofText (t : Text) : Status :=
  if t = "standard" then .standard
  else if t = "experimental" then .experimental
  else if t = "deprecated" then .deprecated
  else .other t

/-- A status is canonical when it is the one that its text stands for. -/
def Canonical (status : Status) : Prop :=
  ofText status.text = status

/-- A status that is read from a text is canonical. -/
theorem canonical_ofText (t : Text) : Canonical (ofText t) := by
  unfold Canonical ofText
  split
  · rfl
  · split
    · rfl
    · split
      · rfl
      · simp [text, *]

end Status

/-- A style property. -/
structure Property where
  name : Text
  keywords : List Text
  grammar : Text
  status : Status
  deriving DecidableEq, Repr

/-- A version and the properties that it specifies. -/
structure Spec where
  version : Text
  properties : List Property
  deriving DecidableEq, Repr

namespace Spec

/-- The spec without properties and with an empty version. -/
def empty : Spec := ⟨[], []⟩

/-- The properties that have keywords, in the order of the spec. -/
def keywordProperties (spec : Spec) : List Property :=
  spec.properties.filter fun property => !property.keywords.isEmpty

/-- A spec is canonical when all its statuses are. -/
def Canonical (spec : Spec) : Prop :=
  ∀ property ∈ spec.properties, property.status.Canonical

end Spec

end TypedStyle
