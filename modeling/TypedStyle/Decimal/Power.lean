/-!
# Powers of two and of ten

The powers that the bases of binary and decimal numerals give.

* `powerOfTwo_pos`, `powerOfTen_pos` — they are never zero.
-/

namespace TypedStyle.Decimal

/-- Two, multiplied with itself so many times. -/
def powerOfTwo (n : Nat) : Nat :=
  Nat.pow 2 n

/-- Ten, multiplied with itself so many times. -/
def powerOfTen (n : Nat) : Nat :=
  Nat.pow 10 n

/-- No power of two is zero. -/
theorem powerOfTwo_pos (n : Nat) : 0 < powerOfTwo n :=
  Nat.pow_pos (by decide)

/-- Nor is a power of ten. -/
theorem powerOfTen_pos (n : Nat) : 0 < powerOfTen n :=
  Nat.pow_pos (by decide)

end TypedStyle.Decimal
