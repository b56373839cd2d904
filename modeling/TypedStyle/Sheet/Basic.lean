import TypedStyle.Sheet.Value
/-!
# Style sheets

A sheet is a list of items.  An item is a rule, which sets properties for what a selector selects,
or an at-rule, which has a body of items of its own.
-/

namespace TypedStyle

/-- A property and the value that it is set to. -/
structure Declaration where
  property : Text
  value : Value
  deriving DecidableEq, Repr

/-- The declaration as it is written. -/
def Declaration.text (declaration : Declaration) : Text :=
  declaration.property ++ ": " ++ declaration.value.text

/-- One part of a sheet. -/
inductive Item where
  | rule (selector : Text) (declarations : List Declaration)
  | atRule (name params : Text) (body : List Item)
  deriving Repr

namespace Item

/-- The rule with a declaration more; an at-rule has no place for one. -/
def addDeclaration (item : Item) (declaration : Declaration) : Item :=
  match item with
  | .rule selector declarations => .rule selector (declarations ++ [declaration])
  | .atRule name params body => .atRule name params body

/-- The at-rule with an item more in its body; a rule has no place for one. -/
def addItem (item inner : Item) : Item :=
  match item with
  | .atRule name params body => .atRule name params (body ++ [inner])
  | .rule selector declarations => .rule selector declarations

/-- The item with nothing in it. -/
def clear : Item → Item
  | .rule selector _ => .rule selector []
  | .atRule name params _ => .atRule name params []

end Item

/-- A sheet: its items, from top to bottom. -/
structure StyleSheet where
  items : List Item
  deriving Repr

namespace StyleSheet

/-- The sheet without items. -/
def empty : StyleSheet := ⟨[]⟩

/-- The sheet with an item more at its end. -/
def add (sheet : StyleSheet) (item : Item) : StyleSheet :=
  ⟨sheet.items ++ [item]⟩

/-- The sheet with one of its items changed. -/
def modify (sheet : StyleSheet) (index : Nat) (change : Item → Item) : StyleSheet :=
  ⟨sheet.items.modify index change⟩

end StyleSheet

end TypedStyle
