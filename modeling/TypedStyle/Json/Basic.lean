import TypedStyle.Text.Basic
/-!
# JSON values

A JSON document is kept as it was written: the members of an object in their order, repeated
members included, and numbers by their numerals.  Who reads a document decides what repeated or
unknown members mean.
-/

namespace TypedStyle

/-- What a string of a document denotes: a text, or nothing when one of its escapes names half of a
surrogate pair without the other half. -/
abbrev JsonString := Option Text

/-- A JSON value. -/
inductive Json where
  | null
  | bool (value : Bool)
  | number (numeral : Text)
  | string (content : JsonString)
  | array (items : List Json)
  | object (members : List (JsonString × Json))

namespace Json

/-- The string that denotes a text. -/
def text (t : Text) : Json :=
  .string (some t)

/-- The members of an object, given by their names and values. -/
def ofMembers (members : List (Text × Json)) : Json :=
  .object (members.map fun member => (some member.1, member.2))

/-- The text that a string denotes. -/
def text? : Json → Option Text
  | .string content => content
  | _ => none

/-- The values of all members of this name, in order. -/
def valuesOf (name : Text) (members : List (JsonString × Json)) : List Json :=
  (members.filter (·.1 = some name)).map (·.2)

/-- The value of the member of this name, or `none` if there is no such member.  A name that is
repeated has no value: the outer option is `none` then. -/
def member? (name : Text) (members : List (JsonString × Json)) : Option (Option Json) :=
  match valuesOf name members with
  | [] => some none
  | [value] => some (some value)
  | _ => none

/-- Do all members have a text as their name? -/
def namesAreTexts (members : List (JsonString × Json)) : Bool :=
  members.all (·.1.isSome)

mutual

/-- How many containers stand inside one another, this one included. -/
def depth : Json → Nat
  | .array items => depthOfItems items + 1
  | .object members => depthOfMembers members + 1
  | _ => 0

/-- The greatest depth of some items. -/
def depthOfItems : List Json → Nat
  | [] => 0
  | item :: items => max item.depth (depthOfItems items)

/-- The greatest depth of some members. -/
def depthOfMembers : List (JsonString × Json) → Nat
  | [] => 0
  | (_, value) :: members => max value.depth (depthOfMembers members)

end

end Json

end TypedStyle
