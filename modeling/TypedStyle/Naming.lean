import TypedStyle.Text.Case
/-!
# Names of generated definitions

A hyphenated name becomes a name in capitals-and-small-letters style: it is cut at its hyphens, and
the first character of each piece is put in upper case.  The names of a property's constant, of the
type of its keywords, of their constants and of its setter all start from that form.
-/

namespace TypedStyle.Naming

/-- The text with its first character in upper case. -/
def capitalize : Text → Text
  | [] => []
  | c :: rest => Text.upperChar c ++ rest

/-- The name without its hyphens, each piece between them starting in upper case. -/
def pascalCase (name : Text) : Text :=
  (Text.splitOn '-' name).flatMap capitalize

/-- The small form of a character in a hyphenated name. -/
def hyphenate (c : Char) : Text :=
  if c.isUpper then ['-', c.toLower] else [c]

/-- The name with a hyphen in front of every capital `A` to `Z` but the first character, and all
these capitals small. -/
def kebabCase : Text → Text
  | [] => []
  | c :: rest => c.toLower :: rest.flatMap hyphenate

/-- The name of a property's constant. -/
def constant (property : Text) : Text :=
  pascalCase property

/-- The name of the type of a property's keywords. -/
def keywordType (property : Text) : Text :=
  pascalCase property ++ "Val"

/-- The name of a property's setter. -/
def setter (property : Text) : Text :=
  "Set" ++ pascalCase property

/-- What the name of a keyword's constant ends in. -/
def keywordSuffix (keyword : Text) : Text :=
  pascalCase keyword

/-- The name of the constant of a property's keyword. -/
def keywordConstant (property keyword : Text) : Text :=
  keywordType property ++ keywordSuffix keyword

end TypedStyle.Naming
