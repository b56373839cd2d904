import TypedStyle.Decimal.Power
import TypedStyle.Text.Basic
/-!
# The size of a decimal numeral

A numeral such as `1.5e300` is too large for a double when it rounds to infinity, that is, when it
reaches the point half-way between the largest double and the next power of two.  The exponent may
be any number at all, so the powers of ten are only computed when the answer is close.
-/

namespace TypedStyle.Decimal

/-- The number that a run of digits denotes; characters other than digits count as zero. -/
def ofDigits (digits : Text) : Nat :=
  digits.foldl (fun n c => 10 * n + (c.toNat - '0'.toNat)) 0

/-- The least number that does not round to a double. -/
def doubleLimit : Nat :=
  powerOfTwo 1024 - powerOfTwo 970

/-- Is `mantissa · 10 ^ exponent` too large for a double?  The mantissa is given by its digits. -/
def overflows (digits : Text) (exponent : Int) : Bool :=
  let significant := digits.dropWhile (· = '0')
  let places : Int := significant.length + exponent
  if significant.isEmpty then false
  else if 310 < places then true
  else if places < 308 then false
  else if 0 ≤ exponent then
    decide (doubleLimit ≤ ofDigits significant * powerOfTen exponent.toNat)
  else decide (doubleLimit * powerOfTen (-exponent).toNat ≤ ofDigits significant)

/-- The parts of a numeral: the digits in front of the point, those behind it, and the exponent. -/
structure Numeral where
  whole : Text
  fraction : Text
  exponent : Int
  deriving DecidableEq, Repr

/-- The parts of a numeral that consists of an optional sign, digits with at most one point among
them, and an optional exponent behind an `e`. -/
def Numeral.ofText (numeral : Text) : Numeral :=
  let isMark (c : Char) : Bool := c = 'e' || c = 'E'
  let mantissa := numeral.takeWhile fun c => !isMark c
  let exponent := (numeral.dropWhile fun c => !isMark c).drop 1
  { whole := (mantissa.takeWhile (· ≠ '.')).filter Char.isDigit
    fraction := (mantissa.dropWhile (· ≠ '.')).drop 1
    exponent := match exponent with
      | '-' :: digits => -(ofDigits digits)
      | '+' :: digits => ofDigits digits
      | digits => ofDigits digits }

/-- Is the numeral too large for a double? -/
def numeralOverflows (numeral : Text) : Bool :=
  let parts := Numeral.ofText numeral
  overflows (parts.whole ++ parts.fraction) (parts.exponent - parts.fraction.length)

end TypedStyle.Decimal
