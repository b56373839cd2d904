import TypedStyle.Decimal.Fixed
import TypedStyle.Decimal.Rounding
/-!
# Double-precision numbers

A double is given by 64 bits: a sign, eleven bits of exponent and 52 bits of fraction.  Its value is
an exact multiple of a power of two, and decimal numerals are rounded from that exact value.  The
sign stays even on a zero.
-/

namespace TypedStyle.Decimal

/-- The numbers of the format, and what else its bits can say. -/
inductive Double where
  /-- The number `significand · 2 ^ exponent`, or its negative. -/
  | finite (negative : Bool) (significand : Nat) (exponent : Int)
  | infinite (negative : Bool)
  | notANumber
  deriving DecidableEq, Repr

namespace Double

/-- The double that 64 bits stand for. -/
def ofBits (bits : UInt64) : Double :=
  let negative := bits.toNat / powerOfTwo 63 = 1
  let exponent : Nat := bits.toNat / powerOfTwo 52 % powerOfTwo 11
  let fraction : Nat := bits.toNat % powerOfTwo 52
  if exponent = powerOfTwo 11 - 1 then if fraction = 0 then infinite negative else notANumber
  else if exponent = 0 then finite negative fraction (-1074)
  else finite negative (powerOfTwo 52 + fraction) (exponent - 1075)

/-- How many units a number has, of which `10 ^ places` make one: the nearest number of them, and of
two the even one. -/
def units (places significand : Nat) : Int → Nat
  | .ofNat exponent => significand * powerOfTwo exponent * powerOfTen places
  | .negSucc exponent =>
    roundHalfEven (significand * powerOfTen places) (powerOfTwo (exponent + 1))

/-- The minus sign of a negative number. -/
def signText (negative : Bool) : Text :=
  Text.onlyIf negative "-"

/-- The numeral of a double with a fixed number of places. -/
def fixed (places : Nat) : Double → Text
  | finite negative significand exponent =>
    signText negative ++ fixedPoint places (units places significand exponent)
  | infinite negative => signText negative ++ "inf"
  | notANumber => "NaN"

end Double

end TypedStyle.Decimal
