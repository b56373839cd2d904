import TypedStyle.Sheet.Basic
/-!
# Writing style sheets

A sheet is written in one of two forms: indented, with a line for each declaration, or minified,
without any blanks that are not needed.  In both forms a rule without declarations is written as
nothing, and an at-rule without a body ends in a semicolon.

* `pretty_rule_nil`, `minified_rule_nil` — a rule without declarations is written as nothing.
-/

namespace TypedStyle

namespace Item

/-- The blanks in front of a line at some depth of nesting. -/
def margin (depth : Nat) : Text :=
  List.replicate (2 * depth) ' '

/-- The name of an at-rule and what follows it. -/
def head (name params : Text) : Text :=
  '@' :: name ++ (if params.isEmpty then [] else ' ' :: params)

/-- The line of a declaration. -/
def declarationLine (depth : Nat) (declaration : Declaration) : Text :=
  margin (depth + 1) ++ declaration.text ++ ";\n"

mutual

/-- The indented form of an item at some depth of nesting, without a line feed at its end. -/
def pretty (depth : Nat) : Item → Text
  | .rule selector declarations =>
    if declarations.isEmpty then []
    else margin depth ++ selector ++ " \x7b\n"
      ++ declarations.flatMap (declarationLine depth) ++ margin depth ++ "\x7d"
  | .atRule name params body =>
    margin depth ++ head name params
      ++ (if body.isEmpty then Text.ofString ";"
        else " \x7b\n" ++ prettyBody (depth + 1) body ++ margin depth ++ "\x7d")

/-- The indented forms of the items in a body, a line feed behind each. -/
def prettyBody (depth : Nat) : List Item → Text
  | [] => []
  | item :: rest => pretty depth item ++ '\n' :: prettyBody depth rest

end

/-- The minified form of a declaration. -/
def minifiedDeclaration (declaration : Declaration) : Text :=
  declaration.property ++ ':' :: declaration.value.text

mutual

/-- The minified form of an item. -/
def minified : Item → Text
  | .rule selector declarations =>
    if declarations.isEmpty then []
    else selector ++ "\x7b" ++ Text.join ";" (declarations.map minifiedDeclaration) ++ "\x7d"
  | .atRule name params body =>
    head name params
      ++ (if body.isEmpty then Text.ofString ";" else "\x7b" ++ minifiedBody body ++ "\x7d")

/-- The minified forms of the items in a body. -/
def minifiedBody : List Item → Text
  | [] => []
  | item :: rest => minified item ++ minifiedBody rest

end

/-- A rule without declarations is not written in the indented form. -/
@[simp] theorem pretty_rule_nil (depth : Nat) (selector : Text) :
    pretty depth (.rule selector []) = [] := by
  simp [pretty]

/-- Nor is it in the minified one. -/
@[simp] theorem minified_rule_nil (selector : Text) : minified (.rule selector []) = [] := by
  simp [minified]

end Item

namespace StyleSheet

/-- The indented form of a sheet, a blank line between its items. -/
def pretty (sheet : StyleSheet) : Text :=
  Text.join "\n\n" (sheet.items.map (Item.pretty 0))

/-- The minified form of a sheet. -/
def minified (sheet : StyleSheet) : Text :=
  sheet.items.flatMap Item.minified

end StyleSheet

end TypedStyle
