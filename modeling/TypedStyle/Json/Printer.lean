import TypedStyle.Json.Basic
/-!
# Writing JSON documents

A document is written with one item or member to a line, two spaces further in than its container.
Empty containers stay on one line.
-/

namespace TypedStyle.Json

/-- How one character is written inside a string. -/
def escape (c : Char) : Text :=
  if c = '"' then "\\\""
  else if c = '\\' then "\\\\"
  else if c = '\x08' then "\\b"
  else if c = '\x0c' then "\\f"
  else if c = '\n' then "\\n"
  else if c = '\r' then "\\r"
  else if c = '\t' then "\\t"
  else if c < ' ' then
    "\\u00" ++ [Nat.digitChar (c.toNat / 16), Nat.digitChar (c.toNat % 16)]
  else [c]

/-- The string that denotes a text, as it is written. -/
def quoted (t : Text) : Text :=
  '"' :: t.flatMap escape ++ ['"']

/-- A string as it is written; one that denotes no text is written as half of a surrogate pair. -/
def quotedString : JsonString → Text
  | some t => quoted t
  | none => "\"\\ud800\""

/-- The start of a line at a level of nesting. -/
def newline (level : Nat) : Text :=
  '\n' :: List.replicate (2 * level) ' '

/-- Texts between brackets, each on a line of its own one level further in; nothing at all stays
on the line. -/
def enclose (level : Nat) (opening closing : Text) (texts : List Text) : Text :=
  if texts.isEmpty then opening ++ closing
  else
    opening ++ newline (level + 1) ++ Text.join ("," ++ newline (level + 1)) texts
      ++ newline level ++ closing

mutual

/-- A value as it is written at a level of nesting, from its first character on. -/
def printAt (level : Nat) : Json → Text
  | .null => "null"
  | .bool true => "true"
  | .bool false => "false"
  | .number numeral => numeral
  | .string content => quotedString content
  | .array items => enclose level "[" "]" (printItems (level + 1) items)
  | .object members => enclose level "\x7b" "\x7d" (printMembers (level + 1) members)

/-- Each of some items as it is written. -/
def printItems (level : Nat) : List Json → List Text
  | [] => []
  | item :: items => printAt level item :: printItems level items

/-- Each of some members as it is written. -/
def printMembers (level : Nat) : List (JsonString × Json) → List Text
  | [] => []
  | (name, value) :: members =>
    (quotedString name ++ ": " ++ printAt level value) :: printMembers level members

end

/-- A document that denotes the value. -/
def print (value : Json) : Text :=
  printAt 0 value

end TypedStyle.Json
