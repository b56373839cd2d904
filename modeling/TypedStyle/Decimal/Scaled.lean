import TypedStyle.Decimal.Magnitude
import TypedStyle.Decimal.Rounding
/-!
# Numerals read by scaling

A quick way to read a numeral keeps the digits in front that fit a 64-bit number, rounds that number
to a double, and scales it once by the double nearest to a power of ten.  The result may differ from
the double nearest to the numeral, so near the largest double the two disagree about which numerals
are too large.
-/

namespace TypedStyle.Decimal

/-- The double nearest to a number, as if there were no largest one; of two, the even one. -/
def nearestDouble (n : Nat) : Nat :=
  let unit := powerOfTwo (n.log2 - 52)
  roundHalfEven n unit * unit

/-- The digits in front that fit 64 bits, as a number that starts with the digits of another one,
and the digits that are left. -/
def gather (n : Nat) : Text → Nat × Text
  | [] => (n, [])
  | c :: rest =>
    let longer := 10 * n + (c.toNat - '0'.toNat)
    if longer < powerOfTwo 64 then gather longer rest else (n, c :: rest)

/-- A number together with the power of ten that it is to be scaled by. -/
structure Scaled where
  significand : Nat
  exponent : Int
  deriving DecidableEq, Repr

namespace Scaled

/-- The parts of a numeral.  Digits of the whole part that do not fit count as zeros, and those of
the fraction are left off. -/
def ofNumeral (numeral : Text) : Scaled :=
  let parts := Numeral.ofText numeral
  let (whole, lost) := gather 0 parts.whole
  let (significand, ignored) := gather whole parts.fraction
  ⟨significand, parts.exponent + lost.length - (parts.fraction.length - ignored.length : Nat)⟩

/-- Is the scaled number too large for a double? -/
def overflows (scaled : Scaled) : Bool :=
  if scaled.significand = 0 then false
  else
    match scaled.exponent with
    | .ofNat exponent =>
      decide (308 < exponent) ||
        decide (doubleLimit ≤
          nearestDouble scaled.significand * nearestDouble (powerOfTen exponent))
    | .negSucc _ => false

end Scaled

end TypedStyle.Decimal
