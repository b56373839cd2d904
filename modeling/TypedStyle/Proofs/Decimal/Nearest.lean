import Mathlib.Algebra.Order.Floor.Semifield
import Mathlib.Data.Rat.Floor
import Mathlib.Tactic.FieldSimp
import Mathlib.Tactic.Linarith
import Mathlib.Tactic.Ring
import TypedStyle.Proofs.Decimal.Numerals
import TypedStyle.Sheet.Value
/-!
# Measures are written as the nearest numeral

The bits of a double denote a rational number.  A measure has four places or six, and its numeral
denotes the nearest number with so many places, of two the even one: the exact number is rounded
once, and leaving off zeros does not change what the numeral denotes.

* `isRounded_units` — the number of units is the nearest one;
* `value_ofUnits` — the numeral denotes that many units;
* `measures_written_nearest` — what is written for a length or a share, whatever the bits.
-/

namespace TypedStyle.Decimal

/-! ## Rounded numbers -/

/-- Of the multiples of `1 / 10 ^ places` this one is the nearest to the number, and an even one if
another is as near. -/
structure IsRounded (places : Nat) (v : ℚ) (n : ℤ) : Prop where
  nearest : ∀ m : ℤ, |v - n / 10 ^ places| ≤ |v - m / 10 ^ places|
  even_of_tie : ∀ m : ℤ, m ≠ n → |v - m / 10 ^ places| = |v - n / 10 ^ places| → Even n

/-- The number, or its negative. -/
def signed (negative : Bool) (v : ℚ) : ℚ :=
  if negative then -v else v

/-- The sign of a number makes no difference to its size. -/
theorem abs_signed (negative : Bool) (v : ℚ) : |signed negative v| = |v| := by
  cases negative <;> simp [signed]

section Rounding

variable {places : Nat} {v : ℚ} {n : ℤ}

/-- Rounding to even is the same below zero as above. -/
theorem IsRounded.neg (h : IsRounded places v n) : IsRounded places (-v) (-n) := by
  have hflip (m : ℤ) : |-v - m / 10 ^ places| = |v - (-m : ℤ) / 10 ^ places| := by
    rw [← abs_neg]
    push_cast
    congr 1
    ring
  refine ⟨fun m => ?_, fun m hne htie => ?_⟩
  · rw [hflip, hflip, neg_neg]
    exact h.nearest (-m)
  · rw [hflip, hflip, neg_neg] at htie
    exact (h.even_of_tie (-m) (fun heq => hne (by rw [← heq, neg_neg])) htie).neg

/-- Counted in units, a whole number that is off by a half at most is the nearest one; if it is even
whenever it is off by a half, ties go to the even one. -/
theorem isRounded_of_half (hclose : |v * 10 ^ places - n| ≤ 1 / 2)
    (heven : |v * 10 ^ places - n| = 1 / 2 → Even n) : IsRounded places v n := by
  have hpos : (0 : ℚ) < 10 ^ places := by positivity
  have hscale (m : ℤ) : |v - m / 10 ^ places| = |v * 10 ^ places - m| / 10 ^ places := by
    rw [← abs_of_pos hpos, ← abs_div, abs_of_pos hpos]
    congr 1
    field_simp
  -- All other numbers are off by a half at least, since this one is off by a half at most.
  have hother {m : ℤ} (hne : m ≠ n) : 1 / 2 ≤ |v * 10 ^ places - m| := by
    have hgap : (1 : ℚ) ≤ |(m : ℚ) - n| := by
      exact_mod_cast Int.one_le_abs (sub_ne_zero.mpr hne)
    have htriangle := abs_sub_le (m : ℚ) (v * 10 ^ places) n
    rw [abs_sub_comm (m : ℚ) (v * 10 ^ places)] at htriangle
    linarith
  refine ⟨fun m => ?_, fun m hne htie => heven ?_⟩
  · rw [hscale, hscale]
    by_cases heq : m = n
    · rw [heq]
    · exact div_le_div_of_nonneg_right (hclose.trans (hother heq)) hpos.le
  · rw [hscale, hscale, div_left_inj' hpos.ne'] at htie
    exact le_antisymm hclose (htie ▸ hother hne)

/-- A rounded quotient is off by a half at most. -/
theorem abs_div_sub_roundHalfEven_le (numerator : Nat) {denominator : Nat} (h : 0 < denominator) :
    |(numerator / denominator : ℚ) - roundHalfEven numerator denominator| ≤ 1 / 2 := by
  have hpos : (0 : ℚ) < denominator := by exact_mod_cast h
  have hover : 2 * (numerator : ℚ) ≤
      (2 * roundHalfEven numerator denominator + 1) * denominator := by
    exact_mod_cast two_mul_le_roundHalfEven h
  have hunder : 2 * (roundHalfEven numerator denominator : ℚ) * denominator ≤
      2 * numerator + denominator := by
    exact_mod_cast roundHalfEven_two_mul_le h
  have hbelow : (roundHalfEven numerator denominator - 1 / 2 : ℚ) ≤ numerator / denominator := by
    rw [le_div_iff₀ hpos]
    linarith
  have habove : (numerator / denominator : ℚ) ≤ roundHalfEven numerator denominator + 1 / 2 := by
    rw [div_le_iff₀ hpos]
    linarith
  rw [abs_le]
  constructor <;> linarith

/-- A quotient that is off by a half is half-way between two numbers. -/
theorem exists_half_way {numerator denominator k : Nat} (h : 0 < denominator)
    (hhalf : |(numerator / denominator : ℚ) - k| = 1 / 2) :
    ∃ below, 2 * numerator = (2 * below + 1) * denominator := by
  have hne : (denominator : ℚ) ≠ 0 := by exact_mod_cast h.ne'
  rcases (abs_eq (by norm_num)).mp hhalf with habove | hbelow
  · refine ⟨k, ?_⟩
    have hdouble : 2 * (numerator : ℚ) = (2 * k + 1) * denominator := by
      rw [(div_eq_iff hne).mp (eq_add_of_sub_eq habove)]
      ring
    exact_mod_cast hdouble
  · have hdouble : 2 * (numerator : ℚ) + denominator = 2 * k * denominator := by
      rw [(div_eq_iff hne).mp (eq_add_of_sub_eq hbelow)]
      ring
    have hnat : 2 * numerator + denominator = 2 * k * denominator := by exact_mod_cast hdouble
    obtain ⟨below, rfl⟩ : ∃ below, k = below + 1 := Nat.exists_eq_succ_of_ne_zero fun hzero => by
      rw [hzero] at hnat
      omega
    refine ⟨below, Nat.add_right_cancel (m := denominator) ?_⟩
    rw [hnat]
    ring

/-- Half-way between two numbers a quotient leaves half of the denominator. -/
theorem two_mul_mod_of_half_way {numerator denominator below : Nat}
    (h : 2 * numerator = (2 * below + 1) * denominator) :
    2 * (numerator % denominator) = denominator := by
  rcases Nat.eq_zero_or_pos denominator with rfl | hpos
  · simpa using h
  · have hsplit : 2 * numerator = denominator + 2 * denominator * below := by
      rw [h]
      ring
    rw [← Nat.mul_mod_mul_left, hsplit, Nat.add_mul_mod_self_left, Nat.mod_eq_of_lt (by omega)]

/-- **A quotient is rounded to the nearest number**, and half-way between two to the even one. -/
theorem isRounded_roundHalfEven (numerator : Nat) {denominator : Nat} (h : 0 < denominator)
    (hv : v * 10 ^ places = numerator / denominator) :
    IsRounded places v (roundHalfEven numerator denominator : ℤ) := by
  refine isRounded_of_half ?_ fun htie => ?_
  · rw [hv, Int.cast_natCast]
    exact abs_div_sub_roundHalfEven_le numerator h
  · rw [hv, Int.cast_natCast] at htie
    obtain ⟨below, hbelow⟩ := exists_half_way h htie
    have heven := roundHalfEven_of_tie (two_mul_mod_of_half_way hbelow)
    exact_mod_cast Nat.even_iff.mpr heven

end Rounding

/-! ## The number that a double is -/

namespace Double

/-- Is the bit of the sign set? -/
def signBit (bits : UInt64) : Bool :=
  bits.toNat.testBit 63

/-- The eleven bits behind the sign. -/
def exponentField (bits : UInt64) : Nat :=
  bits.toNat / 2 ^ 52 % 2 ^ 11

/-- The 52 bits at the end. -/
def fractionField (bits : UInt64) : Nat :=
  bits.toNat % 2 ^ 52

/-- The number that the bits denote, unless all bits of the exponent are set: a number between one
and two that is scaled by a power of two, or one below one, scaled by the least power, if no bit of
the exponent is set. -/
def valueOfBits (bits : UInt64) : ℚ :=
  signed (signBit bits) (
    if exponentField bits = 0 then 2 ^ (-1022 : ℤ) * (fractionField bits / 2 ^ 52)
    else 2 ^ (exponentField bits - 1023 : ℤ) * (1 + fractionField bits / 2 ^ 52))

variable {bits : UInt64}

/-- The sign of a double is its first bit. -/
theorem signBit_eq (bits : UInt64) : signBit bits = decide (bits.toNat / powerOfTwo 63 = 1) := by
  have hlt : bits.toNat < 2 ^ 64 := bits.toNat_lt
  have hone : bits.toNat / 2 ^ 63 < 2 := by omega
  rw [signBit, Nat.testBit_eq_decide_div_mod_eq, Nat.mod_eq_of_lt hone]
  rfl

/-- The fraction is counted in units of `2 ^ (-52)`. -/
theorem zpow_div_fraction (exponent : ℤ) : (2 : ℚ) ^ exponent / 2 ^ 52 = 2 ^ (exponent - 52) := by
  rw [zpow_sub₀ (by norm_num : (2 : ℚ) ≠ 0)]
  rfl

/-- A double with a finite number has the number that its bits denote. -/
theorem exists_ofBits_eq_finite (h : exponentField bits ≠ 2047) :
    ∃ significand exponent, ofBits bits = finite (signBit bits) significand exponent ∧
      valueOfBits bits = signed (signBit bits) (significand * 2 ^ exponent) := by
  have hexponent : bits.toNat / powerOfTwo 52 % powerOfTwo 11 = exponentField bits := rfl
  have hfraction : bits.toNat % powerOfTwo 52 = fractionField bits := rfl
  have hlast : powerOfTwo 11 - 1 = 2047 := rfl
  simp only [ofBits, hexponent, hfraction, hlast, if_neg h, ← signBit_eq]
  by_cases hzero : exponentField bits = 0
  · refine ⟨_, _, if_pos hzero, ?_⟩
    rw [valueOfBits, if_pos hzero]
    congr 1
    calc (2 : ℚ) ^ (-1022 : ℤ) * (fractionField bits / 2 ^ 52)
      _ = fractionField bits * (2 ^ (-1022 : ℤ) / 2 ^ 52) := by ring
      _ = fractionField bits * 2 ^ (-1074 : ℤ) := by rw [zpow_div_fraction]; rfl
  · refine ⟨_, _, if_neg hzero, ?_⟩
    rw [valueOfBits, if_neg hzero]
    congr 1
    have hscale : (exponentField bits - 1023 : ℤ) - 52 = exponentField bits - 1075 := by ring
    calc (2 : ℚ) ^ (exponentField bits - 1023 : ℤ) * (1 + fractionField bits / 2 ^ 52)
      _ = (2 ^ 52 + fractionField bits) * (2 ^ (exponentField bits - 1023 : ℤ) / 2 ^ 52) := by ring
      _ = (powerOfTwo 52 + fractionField bits : Nat) * 2 ^ (exponentField bits - 1075 : ℤ) := by
        rw [zpow_div_fraction, hscale]
        push_cast
        rfl

/-- What is no number is written without a point. -/
theorem noPoint_of_exponentField (h : exponentField bits = 2047) (places : Nat) :
    '.' ∉ (ofBits bits).fixed places := by
  have hexponent : bits.toNat / powerOfTwo 52 % powerOfTwo 11 = powerOfTwo 11 - 1 := h
  have hinfinite : ∀ negative, '.' ∉ signText negative ++ Text.ofString "inf" := by decide
  have hnone : '.' ∉ Text.ofString "NaN" := by decide
  simp only [ofBits, hexponent, if_pos]
  split
  · exact hinfinite _
  · exact hnone

end Double

/-! ## Numerals of rounded numbers -/

namespace Plain

/-- The number that the numeral denotes. -/
def value (numeral : Plain) : ℚ :=
  signed numeral.negative
    (ofDigits (numeral.whole ++ numeral.fraction) / 10 ^ numeral.fraction.length)

variable {places : Nat}

/-- **The numeral denotes its units.**  The zeros that are left off only made both parts of the
quotient larger. -/
theorem value_ofUnits (negative : Bool) (hplaces : 0 < places) (n : Nat) :
    (ofUnits negative places n).value = signed negative (n / 10 ^ places) := by
  obtain ⟨count, hpadded⟩ :=
    exists_withoutTrailing_append '0' (padded places (Text.ofNat (n % powerOfTen places)))
  have hfraction : (ofUnits negative places n).fraction =
      withoutTrailing '0' (padded places (Text.ofNat (n % powerOfTen places))) := rfl
  rw [← hfraction] at hpadded
  have hlength : (ofUnits negative places n).fraction.length + count = places := by
    have hpadding := length_padded hplaces (Nat.mod_lt n (powerOfTen_pos places))
    rw [hpadded, List.length_append, List.length_replicate] at hpadding
    exact hpadding
  have hdigits : ofDigits ((ofUnits negative places n).whole ++
      (ofUnits negative places n).fraction) * 10 ^ count = n := by
    have hunits := ofDigits_fixed (n := n) hplaces
    rw [hpadded, ← List.append_assoc, ofDigits_append, ofDigits_zeros,
      List.length_replicate] at hunits
    exact hunits
  have hcast : (ofDigits ((ofUnits negative places n).whole ++
      (ofUnits negative places n).fraction) : ℚ) * 10 ^ count = n := by exact_mod_cast hdigits
  have hpos : (0 : ℚ) < 10 ^ count := by positivity
  rw [value, ← mul_div_mul_right _ _ hpos.ne', hcast, ← pow_add, hlength]
  rfl

end Plain

/-! ## Measures -/

/-- The text is the nearest numeral with so many places to the number that the bits denote, without
idle zeros, in front of its unit. -/
structure IsMeasure (places : Nat) (unit : Text) (bits : UInt64) (t : Text) (numeral : Plain) :
    Prop where
  text_eq : t = numeral.text ++ unit
  shortest : numeral.IsShortest
  nearest : ∃ n : ℤ, numeral.value = n / 10 ^ places ∧ IsRounded places (Double.valueOfBits bits) n
  whole_eq : numeral.whole = Text.ofNat ⌊|numeral.value|⌋₊
  starts_minus : numeral.text.head? = some '-' ↔ Double.signBit bits = true
  ends : numeral.text.getLast? ≠ some '.' ∧ ('.' ∈ numeral.text → numeral.text.getLast? ≠ some '0')

/-- The number of units is the nearest one. -/
theorem isRounded_units (places significand : Nat) (exponent : ℤ) :
    IsRounded places (significand * 2 ^ exponent)
      (Double.units places significand exponent : ℤ) := by
  cases exponent with
  | ofNat exponent =>
    have hexact : (significand * 2 ^ (Int.ofNat exponent) : ℚ) * 10 ^ places =
        (Double.units places significand (.ofNat exponent) : ℤ) := by
      have hunits : Double.units places significand (.ofNat exponent) =
          significand * 2 ^ exponent * 10 ^ places := rfl
      rw [hunits]
      push_cast
      simp
    refine isRounded_of_half ?_ fun htie => ?_
    · rw [hexact, sub_self, abs_zero]
      norm_num
    · rw [hexact, sub_self, abs_zero] at htie
      norm_num at htie
  | negSucc exponent =>
    refine isRounded_roundHalfEven _ (powerOfTwo_pos (exponent + 1)) ?_
    have hten : powerOfTen places = 10 ^ places := rfl
    have htwo : powerOfTwo (exponent + 1) = 2 ^ (exponent + 1) := rfl
    rw [hten, htwo, zpow_negSucc]
    push_cast
    ring

/-- So a number is rounded by its size, and then given its sign. -/
theorem IsRounded.signed {places : Nat} {v : ℚ} {n : Nat} (h : IsRounded places v n)
    (negative : Bool) :
    ∃ m : ℤ, Decimal.signed negative (n / 10 ^ places) = m / 10 ^ places ∧
      IsRounded places (Decimal.signed negative v) m := by
  cases negative with
  | false => exact ⟨n, by simp [Decimal.signed], h⟩
  | true => exact ⟨-n, by simp [Decimal.signed, neg_div], h.neg⟩

/-- What is written for a number and a unit. -/
theorem isMeasure_measured {places : Nat} (hplaces : 0 < places) (unit : Text) {bits : UInt64}
    (h : Double.exponentField bits ≠ 2047) :
    ∃ numeral, IsMeasure places unit bits (Value.measured places unit (Double.ofBits bits)).text
      numeral := by
  obtain ⟨significand, exponent, hbits, hvalue⟩ := Double.exists_ofBits_eq_finite h
  generalize hn : Double.units places significand exponent = n
  have hshortest := isShortest_ofUnits (Double.signBit bits) places n
  have hdenoted := Plain.value_ofUnits (Double.signBit bits) hplaces n
  refine ⟨Plain.ofUnits (Double.signBit bits) places n, ?_, hshortest, ?_, ?_, hshortest.head?_text,
    hshortest.getLast?_text⟩
  · rw [Value.measured, hbits, Double.fixed, hn, withoutTrailingZeros_fixed]
  · rw [hdenoted, hvalue]
    exact (hn ▸ isRounded_units places significand exponent).signed (Double.signBit bits)
  · have hfloor : ⌊((n : ℚ) / 10 ^ places)⌋₊ = n / 10 ^ places := by
      have hdiv : ⌊((n : ℚ) / (10 ^ places : Nat))⌋₊ = n / 10 ^ places :=
        Nat.floor_div_eq_div n (10 ^ places)
      rwa [Nat.cast_pow, Nat.cast_ofNat] at hdiv
    have hpos : (0 : ℚ) ≤ n / 10 ^ places := by positivity
    rw [hdenoted, abs_signed, abs_of_nonneg hpos, hfloor]
    rfl

/-- **Lengths and shares are written as the nearest numeral**, with four places and with six, for
all bits that denote a number.  For all others there is nothing to leave off. -/
theorem measures_written_nearest (bits : UInt64) :
    (Double.exponentField bits ≠ 2047 →
      (∃ numeral, IsMeasure 4 "rem" bits (Value.rem (Double.ofBits bits)).text numeral) ∧
      (∃ numeral, IsMeasure 4 "em" bits (Value.em (Double.ofBits bits)).text numeral) ∧
      ∃ numeral, IsMeasure 6 "%" bits (Value.percent (Double.ofBits bits)).text numeral) ∧
    (Double.exponentField bits = 2047 → ∀ places,
      withoutTrailingZeros ((Double.ofBits bits).fixed places) =
        (Double.ofBits bits).fixed places) :=
  ⟨fun h => ⟨isMeasure_measured (by decide) _ h, isMeasure_measured (by decide) _ h,
      isMeasure_measured (by decide) _ h⟩,
    fun h places => withoutTrailingZeros_of_noPoint (Double.noPoint_of_exponentField h places)⟩

/-- `1 / 32` is half-way between `0.0312` and `0.0313`; the negative infinite number stays. -/
theorem measures_of_tie_and_infinite :
    (Double.exponentField 0x3fa0000000000000 ≠ 2047 ∧
      Double.valueOfBits 0x3fa0000000000000 = 1 / 32 ∧
      (∃ numeral, IsMeasure 4 "rem" 0x3fa0000000000000
        (Value.rem (Double.ofBits 0x3fa0000000000000)).text numeral) ∧
      (Value.rem (Double.ofBits 0x3fa0000000000000)).text = "0.0312rem") ∧
    Double.exponentField 0xfff0000000000000 = 2047 ∧
    withoutTrailingZeros ((Double.ofBits 0xfff0000000000000).fixed 4) = "-inf" := by
  have htie : Double.exponentField 0x3fa0000000000000 ≠ 2047 := by decide
  have hinfinite : Double.exponentField 0xfff0000000000000 = 2047 := by decide
  have hvalue : Double.valueOfBits 0x3fa0000000000000 = 1 / 32 := by
    have hsign : Double.signBit 0x3fa0000000000000 = false := by decide
    have hexponent : Double.exponentField 0x3fa0000000000000 = 1018 := by decide
    have hfraction : Double.fractionField 0x3fa0000000000000 = 0 := by decide
    rw [Double.valueOfBits, hsign, hexponent, hfraction]
    norm_num [signed]
  refine ⟨⟨htie, hvalue, ((measures_written_nearest _).1 htie).1, by decide⟩, hinfinite, ?_⟩
  rw [(measures_written_nearest 0xfff0000000000000).2 hinfinite 4]
  decide

end TypedStyle.Decimal
