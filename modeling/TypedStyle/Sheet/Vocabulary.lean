import TypedStyle.Naming
import TypedStyle.Sheet.Basic
import TypedStyle.Spec.Normal
/-!
# The vocabulary of a spec

The definitions that are generated from a spec make declarations safe: a constant stands for each
property, a constant of a type of its own for each keyword of a property, and the setter of a
property takes constants of its type only.  Here the definitions are looked up by their names.
-/

namespace TypedStyle

/-- A keyword of a property. -/
structure PropertyKeyword where
  property : Text
  keyword : Text
  deriving DecidableEq, Repr

namespace PropertyKeyword

/-- The name of the keyword's constant. -/
def constant (entry : PropertyKeyword) : Text :=
  Naming.keywordConstant entry.property entry.keyword

/-- The declaration that gives the property this value. -/
def declaration (entry : PropertyKeyword) : Declaration :=
  ⟨entry.property, Value.keyword entry.keyword⟩

end PropertyKeyword

namespace Spec

/-- The keywords of all properties. -/
def vocabulary (spec : Spec) : List PropertyKeyword :=
  spec.properties.flatMap fun property =>
    property.keywords.map fun keyword => ⟨property.name, keyword⟩

/-- The property that a constant stands for. -/
def property? (spec : Spec) (constant : Text) : Option Text :=
  (spec.properties.map Property.name).find? fun name => Naming.constant name = constant

/-- The keyword that a constant stands for. -/
def keyword? (spec : Spec) (constant : Text) : Option PropertyKeyword :=
  spec.vocabulary.find? fun entry => entry.constant = constant

/-- The declaration that a setter makes of a keyword's constant, if the constant has the type that
the setter takes. -/
def set? (spec : Spec) (setter constant : Text) : Option Declaration :=
  ((spec.keyword? constant).filter fun entry => Naming.setter entry.property = setter).map
    PropertyKeyword.declaration

end Spec

end TypedStyle
