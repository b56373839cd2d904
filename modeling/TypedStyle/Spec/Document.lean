import TypedStyle.Spec.Basic
import TypedStyle.Json.Reader
import TypedStyle.Json.Printer
/-!
# Specs as JSON documents

A spec document is an object with a version and properties; a property is an object with a name,
keywords, a grammar (under the name `syntax`) and a status.  Members that are missing take a
default, members of other names are ignored, and a known member may not be repeated.  In place of
an object stands, if one likes, the array of the values of its members, in order and cut off
anywhere.

Writing always gives the full object form.
-/

namespace TypedStyle

namespace Json

/-- The text of a member; the empty text if it is missing. -/
def textOrEmpty? : Option Json → Option Text
  | none => some []
  | some value => value.text?

/-- The items of a member, each read in the same way; none if it is missing or `null`. -/
def itemsOrNone? {α : Type} (read : Json → Option α) : Option Json → Option (List α)
  | none | some .null => some []
  | some (.array items) => items.mapM read
  | _ => none

end Json

namespace Status

/-- The status of a member; it is standard if it is missing or `null`. -/
def ofMember? : Option Json → Option Status
  | none | some .null => some .standard
  | some value => value.text?.map ofText

end Status

namespace Property

/-- The property with these members, any of which may be missing. -/
def ofMembers? (name keywords grammar status : Option Json) : Option Property := do
  let name ← Json.textOrEmpty? name
  let keywords ← Json.itemsOrNone? Json.text? keywords
  let grammar ← Json.textOrEmpty? grammar
  let status ← Status.ofMember? status
  some ⟨name, keywords, grammar, status⟩

/-- The property that a value denotes. -/
def ofJson? : Json → Option Property
  | .object members =>
    if Json.namesAreTexts members then do
      let name ← Json.member? "name" members
      let keywords ← Json.member? "keywords" members
      let grammar ← Json.member? "syntax" members
      let status ← Json.member? "status" members
      ofMembers? name keywords grammar status
    else none
  | .array items =>
    if items.length ≤ 4 then ofMembers? items[0]? items[1]? items[2]? items[3]? else none
  | _ => none

/-- The value that denotes the property. -/
def toJson (property : Property) : Json :=
  .ofMembers
    [("name", .text property.name),
     ("keywords", .array (property.keywords.map Json.text)),
     ("syntax", .text property.grammar),
     ("status", .text property.status.text)]

end Property

namespace Spec

/-- The spec with these members, either of which may be missing. -/
def ofMembers? (version properties : Option Json) : Option Spec := do
  let version ← Json.textOrEmpty? version
  let properties ← Json.itemsOrNone? Property.ofJson? properties
  some ⟨version, properties⟩

/-- The spec that a value denotes. -/
def ofJson? : Json → Option Spec
  | .object members =>
    if Json.namesAreTexts members then do
      let version ← Json.member? "version" members
      let properties ← Json.member? "properties" members
      ofMembers? version properties
    else none
  | .array items => if items.length ≤ 2 then ofMembers? items[0]? items[1]? else none
  | _ => none

/-- The value that denotes the spec. -/
def toJson (spec : Spec) : Json :=
  .ofMembers
    [("version", .text spec.version),
     ("properties", .array (spec.properties.map Property.toJson))]

/-- The spec that a document denotes. -/
def parse? (document : Text) : Option Spec :=
  (Json.parse? document).bind ofJson?

/-- A document that denotes the spec. -/
def print (spec : Spec) : Text :=
  spec.toJson.print

end Spec

end TypedStyle
