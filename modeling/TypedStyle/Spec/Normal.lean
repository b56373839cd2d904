import TypedStyle.Spec.Basic
import TypedStyle.Text.Ascending
import TypedStyle.Text.Blank
import TypedStyle.Text.Case
/-!
# The normal form of a spec

Generated definitions come from the normal form of a spec: deprecated properties are left out, and
experimental ones too unless they are asked for; names are in lower case with hyphens for
underscores; keywords are trimmed, in lower case, without repetitions and in ascending order; and
the properties are sorted by name, those of equal names staying in their order.

* `mem_normalize` — the properties of the normal form are the normal forms of the admitted ones.
-/

namespace TypedStyle

/-- Which properties are admitted, and how strictly. -/
structure Policy where
  /-- Are experimental properties admitted? -/
  allowExperimental : Bool
  /-- Strictness is accepted and has no effect, since no check depends on it. -/
  strict : Bool
  deriving DecidableEq, Repr

namespace Policy

/-- Is a property of this status admitted? -/
def admits (policy : Policy) : Status → Bool
  | .deprecated => false
  | .experimental => policy.allowExperimental
  | .standard | .other _ => true

end Policy

namespace Property

/-- A name in lower case, with hyphens for underscores. -/
def normalName (name : Text) : Text :=
  (Text.lower name).map fun c => if c = '_' then '-' else c

/-- The keywords that are left after trimming, in lower case and strictly ascending order. -/
def normalKeywords (keywords : List Text) : List Text :=
  Text.ascending
    ((keywords.map fun keyword => Text.lower (Text.trim keyword)).filter fun keyword =>
      !keyword.isEmpty)

/-- The property with its name and keywords in normal form. -/
def normalize (property : Property) : Property :=
  { property with
    name := normalName property.name
    keywords := normalKeywords property.keywords }

end Property

namespace Spec

/-- Properties sorted by name; those of equal names stay in their order. -/
def sortByName (properties : List Property) : List Property :=
  properties.mergeSort fun a b => !decide (b.name < a.name)

/-- The normal form of a spec, as far as a policy admits its properties. -/
def normalize (policy : Policy) (spec : Spec) : Spec :=
  ⟨spec.version,
   sortByName ((spec.properties.filter fun p => policy.admits p.status).map Property.normalize)⟩

/-- Normalizing keeps the version. -/
@[simp] theorem normalize_version (policy : Policy) (spec : Spec) :
    (spec.normalize policy).version = spec.version :=
  rfl

/-- Every property of the normal form is a normalized property of the spec that was admitted. -/
theorem mem_normalize {policy : Policy} {spec : Spec} {property : Property} :
    property ∈ (spec.normalize policy).properties ↔
      ∃ p ∈ spec.properties, policy.admits p.status = true ∧ p.normalize = property := by
  simp [normalize, sortByName, and_assoc]

end Spec

end TypedStyle
