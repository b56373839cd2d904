import TypedStyle.Decimal.Power
import TypedStyle.Text.Basic
/-!
# Decimal numerals with a fixed number of places

A numeral with a fixed number of places says how many tenths, hundredths and so on a number has,
zeros included.  The zeros at its end can be left off, and then a point that nothing follows.

* `withoutTrailingZeros_of_noPoint` — without a point nothing is left off.
-/

namespace TypedStyle.Decimal

/-- Digits with zeros in front of them, up to a length. -/
def padded (length : Nat) (digits : Text) : Text :=
  List.replicate (length - digits.length) '0' ++ digits

/-- The numeral of `n` units, of which `10 ^ places` make one. -/
def fixedPoint (places n : Nat) : Text :=
  Text.ofNat (n / powerOfTen places)
    ++ '.' :: padded places (Text.ofNat (n % powerOfTen places))

/-- The text without the characters of this kind at its end. -/
def withoutTrailing (c : Char) (t : Text) : Text :=
  (t.reverse.dropWhile (· = c)).reverse

/-- The numeral without zeros at its end that stand behind the point, and without a point that
nothing follows. -/
def withoutTrailingZeros (numeral : Text) : Text :=
  if '.' ∈ numeral then withoutTrailing '.' (withoutTrailing '0' numeral) else numeral

/-- A numeral without a point is left as it is. -/
theorem withoutTrailingZeros_of_noPoint {numeral : Text} (h : '.' ∉ numeral) :
    withoutTrailingZeros numeral = numeral := by
  simp [withoutTrailingZeros, h]

end TypedStyle.Decimal
