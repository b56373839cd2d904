import TypedStyle.Naming
import TypedStyle.Spec.Basic
import TypedStyle.Text.Quoted
/-!
# Generated artifacts

Three files of definitions are generated from a spec: a constant for every property; for every
property with keywords, a type of its keywords and a constant for each of them; and for every such
property a setter that pairs the property with a keyword.  All three belong to one module of the
program that uses them.
-/

namespace TypedStyle

/-- The generated files, in the order in which they are written. -/
inductive Artifact where
  | properties
  | keywords
  | setters
  deriving DecidableEq, Repr

namespace Artifact

/-- All artifacts, in the order in which they are written. -/
def all : List Artifact := [.properties, .keywords, .setters]

/-- The word for an artifact in messages. -/
def label : Artifact → Text
  | .properties => "properties"
  | .keywords => "keywords"
  | .setters => "setters"

/-- The module that an artifact is to the other ones. -/
def stem (artifact : Artifact) : Text :=
  artifact.label ++ "_gen"

/-- The file that holds an artifact. -/
def fileName (artifact : Artifact) : Text :=
  artifact.stem ++ ".rs"

/-- What an artifact says of itself in front of the name of its module. -/
def purpose : Artifact → Text
  | .properties => "Property constants for CSS properties in"
  | .keywords => "Keyword types and constants for CSS property values in"
  | .setters => "Type-safe setter functions for CSS properties in"

/-- The comment of an artifact on its module. -/
def moduleNote (artifact : Artifact) (module : Text) : Text :=
  artifact.purpose ++ " `" ++ module ++ "`."

/-- The comment on the type of a property's keywords. -/
def typeNote (property : Property) : Text :=
  Naming.keywordType property.name ++ " represents values for the " ++ property.name
    ++ " property."

/-- The comment on the setter of a property. -/
def setterNote (property : Property) : Text :=
  Naming.setter property.name ++ " creates a declaration for the " ++ property.name
    ++ " property."

/-- The crate that the types of properties and declarations come from: for the module `css` it is
the crate that the module is in. -/
def runtimeCrate (module : Text) : Text :=
  if module = "css" then "crate" else "css"

/-- The runtime is the crate itself or `css`, and no other. -/
theorem runtimeCrate_cases (module : Text) :
    runtimeCrate module = "crate" ∨ runtimeCrate module = "css" := by
  unfold runtimeCrate
  split
  · exact .inl rfl
  · exact .inr rfl

/-- The version as it stands in a comment, where it may not break the line. -/
def onOneLine (version : Text) : Text :=
  version.map fun c => if c = '\r' ∨ c = '\n' then ' ' else c

/-- A version that is put on one line has no line feed in it. -/
theorem not_mem_onOneLine (version : Text) : '\n' ∉ onOneLine version := by
  intro hmem
  obtain ⟨c, -, hc⟩ := List.mem_map.mp hmem
  split at hc
  · contradiction
  · next hother => exact hother (.inr hc)

/-- The first lines of every artifact, which say when it was made and from which version. -/
def header (version timestamp : Text) : Text :=
  "// Code generated by cssgen; DO NOT EDIT.\n// Source: spec version " ++ onOneLine version
    ++ " at " ++ timestamp ++ "\n\n"

/-- The comment on the module, as lines of an artifact. -/
def moduleLines (artifact : Artifact) (module : Text) : Text :=
  "//! " ++ artifact.moduleNote module ++ "\n\n"

/-- The definition of a property's constant. -/
def propertyLine (property : Property) : Text :=
  "pub const " ++ Naming.constant property.name ++ ": Property = Property::new("
    ++ Text.quote property.name ++ ");\n"

/-- The definition of the constant of a property's keyword. -/
def keywordLine (property : Property) (keyword : Text) : Text :=
  let type := Naming.keywordType property.name
  "pub const " ++ Naming.keywordConstant property.name keyword ++ ": " ++ type ++ " = " ++ type
    ++ "(" ++ Text.quote keyword ++ ");\n"

/-- The definition of the type of a property's keywords. -/
def typeBlock (property : Property) : Text :=
  let type := Naming.keywordType property.name
  "/// " ++ typeNote property ++ "\n"
    ++ "#[derive(Debug, Clone, Copy, PartialEq, Eq, Hash)]\n"
    ++ "pub struct " ++ type ++ "(&'static str);\n\n"
    ++ "impl " ++ type ++ " \x7b\n"
    ++ "    pub const fn as_str(self) -> &'static str \x7b\n"
    ++ "        self.0\n"
    ++ "    \x7d\n"
    ++ "\x7d\n\n"
    ++ "impl std::fmt::Display for " ++ type ++ " \x7b\n"
    ++ "    fn fmt(&self, f: &mut std::fmt::Formatter<'_>) -> std::fmt::Result \x7b\n"
    ++ "        f.write_str(self.0)\n"
    ++ "    \x7d\n"
    ++ "\x7d\n\n"

/-- The definitions of a property's keywords. -/
def keywordBlock (property : Property) : Text :=
  "\n" ++ typeBlock property ++ property.keywords.flatMap (keywordLine property)

/-- The definition of a property's setter. -/
def setterBlock (property : Property) : Text :=
  "\n/// " ++ setterNote property ++ "\n"
    ++ "pub fn " ++ Naming.setter property.name ++ "(v: " ++ Naming.keywordType property.name
    ++ ") -> Decl \x7b\n"
    ++ "    set(" ++ Naming.constant property.name ++ ", Keyword::new(v.as_str()))\n"
    ++ "\x7d\n"

/-- What stands between the comment on the module and the definitions. -/
def preamble (module : Text) : Artifact → Text
  | .properties =>
    "#![allow(non_upper_case_globals)]\n\n"
      ++ "use " ++ runtimeCrate module ++ "::Property;\n\n"
  | .keywords => "#![allow(non_upper_case_globals)]\n"
  | .setters =>
    "#![allow(non_snake_case)]\n\n"
      ++ "use super::" ++ stem .keywords ++ "::*;\n"
      ++ "use super::" ++ stem .properties ++ "::*;\n"
      ++ "use " ++ runtimeCrate module ++ "::\x7bDecl, Keyword, set\x7d;\n"

/-- The definitions of an artifact. -/
def body (spec : Spec) : Artifact → Text
  | .properties => spec.properties.flatMap propertyLine
  | .keywords => spec.keywordProperties.flatMap keywordBlock
  | .setters => spec.keywordProperties.flatMap setterBlock

/-- The whole text of an artifact. -/
def render (artifact : Artifact) (spec : Spec) (module timestamp : Text) : Text :=
  header spec.version timestamp ++ artifact.moduleLines module ++ artifact.preamble module
    ++ artifact.body spec

end Artifact

end TypedStyle
