import TypedStyle.Code.Reading
/-!
# Parts of code

The parts of code refer to each other: a type may hold an expression, an expression a block, a block
an item.  Each part is read by a rule that is told how to read all parts; the rules stand in the
modules that follow, and the knot is tied behind the last of them.  What has been read is summed up
in a form, which holds as much of it as decides what may follow.
-/

namespace TypedStyle.Code

/-- How closely operators bind, from the loosest on. -/
inductive Rank where
  | least
  | assignment
  | range
  | or
  | and
  | comparison
  | bitOr
  | bitXor
  | bitAnd
  | shift
  | sum
  | product
  | cast
  deriving DecidableEq, Repr

/-- The number of ranks below. -/
def Rank.level : Rank → Nat
  | .least => 0
  | .assignment => 1
  | .range => 2
  | .or => 3
  | .and => 4
  | .comparison => 5
  | .bitOr => 6
  | .bitXor => 7
  | .bitAnd => 8
  | .shift => 9
  | .sum => 10
  | .product => 11
  | .cast => 12

/-- What stands behind the last name of a path. -/
inductive Arguments where
  | none
  /-- Angle brackets without anything in them. -/
  | empty
  | some
  deriving DecidableEq, Repr

/-- A path, as far as it matters behind it. -/
structure PathForm where
  /-- Does it start with a type in angle brackets? -/
  isQualified : Bool
  /-- Are there names only? -/
  isPlain : Bool
  /-- Is it one name, perhaps with arguments in angle brackets? -/
  isSingle : Bool
  last : Arguments
  deriving DecidableEq, Repr

/-- What has been read, as far as it matters behind it. -/
inductive Form where
  | plain
  /-- An expression that compares two others. -/
  | comparison
  | range
  /-- An expression that ends with a block of its own. -/
  | block
  /-- A use of a template with braces. -/
  | braced
  /-- A statement that is closed already. -/
  | closed
  | path (form : PathForm)
  /-- A single bound as a type. -/
  | bound
  /-- A type in round brackets. -/
  | bracketed
  /-- A range as a pattern, with one end only. -/
  | halfRange
  /-- An item that defines this name. -/
  | definition (name : Text)
  deriving DecidableEq, Repr

/-- The parts of code that others refer to. -/
inductive Part where
  /-- A type, of several bounds only where that is allowed. -/
  | type (mayAdd : Bool)
  /-- An argument in angle brackets. -/
  | argument
  /-- A single pattern. -/
  | pattern
  /-- An expression; fields behind a path make a structure only where that is allowed. -/
  | expression (mayBuild : Bool)
  /-- An expression without operators between operands. -/
  | operand (mayBuild : Bool)
  /-- The operators that follow an operand, none looser than the rank, and what they take. -/
  | operations (left : Form) (mayBuild : Bool) (rank : Rank)
  /-- What an operator of this rank takes on its right. -/
  | right (rank : Rank) (mayBuild : Bool)
  /-- What goes on from the part of it that has been read. -/
  | rightFrom (left : Form) (rank : Rank) (mayBuild : Bool)
  /-- An expression that ends with a block of its own. -/
  | construct
  /-- The statements of a block. -/
  | statements
  /-- The named fields of a definition, in braces. -/
  | fields
  /-- An item, behind its attributes. -/
  | item
  /-- What an import takes in; a name of it may start at the root only where that is allowed. -/
  | imports (mayRoot : Bool)
  deriving Repr

/-- How each part is read. -/
abbrev Reader := Part → Reading Form

end TypedStyle.Code
