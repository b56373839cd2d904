import TypedStyle.Decimal.Double
/-!
# Values of style properties

A value is a text of a certain kind.  Lengths and colors are made from numbers; where a value is
made of several others it is raw, since nothing is known about the whole.
-/

namespace TypedStyle

open Decimal (Double)

/-- What is known of a value. -/
inductive ValueKind where
  | keyword
  | length
  | color
  | raw
  deriving DecidableEq, Repr

/-- A value, as it stands in a sheet. -/
structure Value where
  kind : ValueKind
  text : Text
  deriving DecidableEq, Repr

namespace Value

/-- A keyword. -/
def keyword (name : Text) : Value := ⟨.keyword, name⟩

/-- A value of any kind, as it is written. -/
def raw (t : Text) : Value := ⟨.raw, t⟩

/-- A length in pixels. -/
def px (n : Int) : Value := ⟨.length, Text.ofInt n ++ "px"⟩

/-- A number with up to the given number of places, in front of its unit. -/
def measured (places : Nat) (unit : Text) (x : Double) : Value :=
  ⟨.length, Decimal.withoutTrailingZeros (x.fixed places) ++ unit⟩

/-- A length in units of the root's font size. -/
def rem : Double → Value := measured 4 "rem"

/-- A length in units of the font size. -/
def em : Double → Value := measured 4 "em"

/-- A share in hundredths. -/
def percent : Double → Value := measured 6 "%"

/-- A color as it is written, with the sign that such colors start with. -/
def hex (t : Text) : Value := ⟨.color, t⟩

/-- The three parts of a color. -/
def channels (red green blue : UInt8) : Text :=
  Text.join " " ([red, green, blue].map fun channel => Text.ofNat channel.toNat)

/-- A color by its parts. -/
def rgb (red green blue : UInt8) : Value :=
  ⟨.color, "rgb(" ++ channels red green blue ++ ")"⟩

/-- How opaque a color is, from zero to one with three places. -/
def opacity (alpha : UInt8) : Text :=
  Decimal.fixedPoint 3 (Decimal.roundHalfEven (alpha.toNat * 1000) 255)

/-- A color by its parts, with its opacity. -/
def rgba (red green blue alpha : UInt8) : Value :=
  ⟨.color, "rgba(" ++ channels red green blue ++ " / " ++ opacity alpha ++ ")"⟩

/-- The value of a custom property. -/
def custom (name : Text) : Value := raw ("var(" ++ name ++ ")")

/-- Values one after the other, with a separator between them. -/
def joined (separator : Text) (values : List Value) : Value :=
  raw (Text.join separator (values.map Value.text))

/-- Values with spaces between them. -/
def list (values : List Value) : Value := joined " " values

/-- Values with commas between them. -/
def commaList (values : List Value) : Value := joined ", " values

/-- The values of the two axes of a box; the vertical one comes first in the sheet. -/
def pair (x y : Value) : Value := list [y, x]

/-- The values of the four sides of a box. -/
def sides (top right bottom left : Value) : Value := list [top, right, bottom, left]

/-- The line around a box. -/
def border (width : Value) (style : Text) (color : Value) : Value :=
  list [width, keyword style, color]

end Value

end TypedStyle
