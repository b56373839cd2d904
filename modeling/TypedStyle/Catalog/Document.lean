import TypedStyle.Catalog.Basic
import TypedStyle.Decimal.Scaled
import TypedStyle.Spec.Document
/-!
# Catalogs as JSON documents

A catalog is spread over two documents.  The first is an object with a member for each property;
each is again an object, with a grammar (under the name `syntax`) and a status.  Its other members
are its metadata, which may hold any values that can be kept: strings that denote texts, numbers
that fit a double when they are read by scaling, and containers that are not nested too deeply.  The
second document, an object too, has a member for each grammar of the dictionary.

Of members with the same name the last counts, except that a grammar or a status may not be
repeated.
-/

namespace TypedStyle.Catalog

/-- How deeply a whole document may be nested. -/
def depthLimit : Nat := 127

mutual

/-- Can the value be kept: do its strings denote texts, and do its numbers fit? -/
def isKeepable : Json → Bool
  | .null | .bool _ => true
  | .number numeral => !(Decimal.Scaled.ofNumeral numeral).overflows
  | .string content => content.isSome
  | .array items => areKeepable items
  | .object members => areMembersKeepable members

/-- Can all the values be kept? -/
def areKeepable : List Json → Bool
  | [] => true
  | item :: items => isKeepable item && areKeepable items

/-- Can the values of all the members be kept, and are their names texts? -/
def areMembersKeepable : List (JsonString × Json) → Bool
  | [] => true
  | (name, value) :: members => name.isSome && isKeepable value && areMembersKeepable members

end

/-- A member with the text that is its name. -/
def namedMember? (member : JsonString × Json) : Option (Text × Json) :=
  member.1.map (·, member.2)

namespace Entry

/-- The member of the metadata, if it can be kept two levels down in a document. -/
def metadata? (member : JsonString × Json) : Option (Text × Json) :=
  if isKeepable member.2 && decide (member.2.depth + 2 ≤ depthLimit) then namedMember? member
  else none

/-- Is this the name of a grammar or of a status? -/
def isKnown (name : JsonString) : Bool :=
  name = some (Text.ofString "syntax") || name = some (Text.ofString "status")

/-- The entry that a value denotes. -/
def ofJson? : Json → Option Entry
  | .object members => do
    let grammar ← Json.textOrEmpty? (← Json.member? "syntax" members)
    let status ← Json.textOrEmpty? (← Json.member? "status" members)
    let metadata ← (members.filter fun member => !isKnown member.1).mapM metadata?
    some ⟨grammar, status, Table.ofList metadata⟩
  | _ => none

end Entry

/-- The grammar that a value of the dictionary denotes. -/
def grammarOfJson? : Json → Option Text
  | .object members =>
    if Json.namesAreTexts members then do
      Json.textOrEmpty? (← Json.member? "syntax" members)
    else none
  | .array items => if items.length ≤ 1 then Json.textOrEmpty? items[0]? else none
  | _ => none

/-- The table that an object denotes when each of its members is read in the same way. -/
def tableOfJson? {α : Type} (read : Json → Option α) : Json → Option (Table α)
  | .object members => do
    let entries ← members.mapM fun member => do
      let (name, value) ← namedMember? member
      some (name, ← read value)
    some (Table.ofList entries)
  | _ => none

/-- The properties that a document denotes. -/
def parseProperties? (document : Text) : Option (Table Entry) :=
  (Json.parse? document).bind (tableOfJson? Entry.ofJson?)

/-- The dictionary that a document denotes. -/
def parseGrammars? (document : Text) : Option Grammar.Dictionary :=
  (Json.parse? document).bind (tableOfJson? grammarOfJson?)

end TypedStyle.Catalog
