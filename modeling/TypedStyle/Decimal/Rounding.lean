/-!
# Rounding a quotient

A quotient of natural numbers is rounded to the nearest natural number, and a quotient half-way
between two of them to the even one.

* `two_mul_le_roundHalfEven`, `roundHalfEven_two_mul_le` — the result is off by a half at most;
* `roundHalfEven_of_tie` — a quotient half-way goes to an even number.
-/

namespace TypedStyle.Decimal

/-- The natural number nearest to a quotient; of two, the even one. -/
def roundHalfEven (numerator denominator : Nat) : Nat :=
  let below := numerator / denominator
  let rest := numerator % denominator
  if 2 * rest < denominator then below
  else if denominator < 2 * rest then below + 1
  else below + below % 2

/-- **Rounding, by the whole part and the rest of a quotient**: the rest decides, and where it is a
half the neighbour that is even is taken. -/
theorem roundHalfEven_eq (numerator : Nat) {denominator : Nat} (h : 0 < denominator) :
    ∃ below rest, numerator = denominator * below + rest ∧ rest < denominator ∧
      roundHalfEven numerator denominator =
        if 2 * rest < denominator then below
        else if denominator < 2 * rest then below + 1
        else below + below % 2 :=
  ⟨numerator / denominator, numerator % denominator, (Nat.div_add_mod _ _).symm,
    Nat.mod_lt _ h, rfl⟩

/-- A quotient is at most a half above what it is rounded to. -/
theorem two_mul_le_roundHalfEven {numerator denominator : Nat} (h : 0 < denominator) :
    2 * numerator ≤ (2 * roundHalfEven numerator denominator + 1) * denominator := by
  obtain ⟨below, rest, rfl, hrest, hround⟩ := roundHalfEven_eq numerator h
  have expand (k : Nat) : (2 * k + 1) * denominator = 2 * (denominator * k) + denominator := by
    rw [Nat.add_mul, Nat.mul_assoc, Nat.mul_comm k, Nat.one_mul]
  have expand_succ : denominator * (below + 1) = denominator * below + denominator := rfl
  rw [hround, expand]
  split
  · omega
  · split
    · omega
    · rcases Nat.mod_two_eq_zero_or_one below with hpar | hpar <;>
        simp only [hpar, Nat.add_zero] <;> omega

/-- Nor is it more than a half below. -/
theorem roundHalfEven_two_mul_le {numerator denominator : Nat} (h : 0 < denominator) :
    2 * roundHalfEven numerator denominator * denominator ≤ 2 * numerator + denominator := by
  obtain ⟨below, rest, rfl, hrest, hround⟩ := roundHalfEven_eq numerator h
  have expand (k : Nat) : 2 * k * denominator = 2 * (denominator * k) := by
    rw [Nat.mul_assoc, Nat.mul_comm k]
  have expand_succ : denominator * (below + 1) = denominator * below + denominator := rfl
  rw [hround, expand]
  split
  · omega
  · split
    · omega
    · rcases Nat.mod_two_eq_zero_or_one below with hpar | hpar <;>
        simp only [hpar, Nat.add_zero] <;> omega

/-- **A tie is rounded to the even neighbour.** -/
theorem roundHalfEven_of_tie {numerator denominator : Nat}
    (tie : 2 * (numerator % denominator) = denominator) :
    roundHalfEven numerator denominator % 2 = 0 := by
  simp only [roundHalfEven, tie, Nat.lt_irrefl, if_false]
  omega

end TypedStyle.Decimal
