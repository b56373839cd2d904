import Mathlib.Data.List.DropRight
import TypedStyle.Decimal.Double
import TypedStyle.Decimal.Magnitude
/-!
# Numerals without idle zeros

A numeral with a fixed number of places has zeros at its end if the number it is written for needs
fewer places.  Leaving them off, and the point if nothing is left behind it, does not change the
number that is written.

* `ofDigits_fixed` — the digits of a numeral with a fixed number of places are those of the units;
* `withoutTrailingZeros_fixed` — what is left of it, in its parts;
* `isShortest_ofUnits` — no digit that is left is idle.
-/

namespace TypedStyle.Decimal

/-! ## Digits -/

/-- The value of two runs of digits, the first of which is moved to the left. -/
theorem ofDigits_append (front back : Text) :
    ofDigits (front ++ back) = ofDigits front * powerOfTen back.length + ofDigits back := by
  calc ofDigits (front ++ back)
    _ = Nat.ofDigitChars 10 back (ofDigits front) := Nat.ofDigitChars_append 0
    _ = powerOfTen back.length * ofDigits front + ofDigits back :=
      Nat.ofDigitChars_eq_ofDigitChars_zero
    _ = ofDigits front * powerOfTen back.length + ofDigits back := by rw [Nat.mul_comm]

/-- A number has the value that its digits say. -/
@[simp] theorem ofDigits_ofNat (n : Nat) : ofDigits (Text.ofNat n) = n :=
  Nat.ofDigitChars_ten_toDigits

/-- Zeros are worth nothing. -/
@[simp] theorem ofDigits_zeros (n : Nat) : ofDigits (List.replicate n '0') = 0 := by
  calc ofDigits (List.replicate n '0')
    _ = 10 ^ n * 0 := Nat.ofDigitChars_replicate_zero
    _ = 0 := Nat.mul_zero _

/-- A number is written in digits. -/
theorem isDigit_of_mem_ofNat {c : Char} {n : Nat} (h : c ∈ Text.ofNat n) : c.isDigit = true :=
  Nat.isDigit_of_mem_toDigits (by decide) (by decide) h

/-- Only zero is written with a zero in front. -/
theorem eq_zero_of_head?_ofNat {n : Nat} (h : (Text.ofNat n).head? = some '0') : n = 0 := by
  induction n using Nat.strongRecOn with
  | ind n ih =>
    rw [Text.ofNat] at h
    by_cases hsmall : n < 10
    · have hdigits : ∀ d < 10, (Nat.toDigits 10 d).head? = some '0' → d = 0 := by decide
      exact hdigits n hsmall h
    · rw [Nat.toDigits_of_base_le (by decide) (by omega),
        List.head?_append_of_ne_nil _ Nat.toDigits_ne_nil] at h
      have hfront := ih (n / 10) (by omega) h
      omega

/-! ## A fixed number of places -/

section Places

variable {places n : Nat}

/-- A number below a power of ten is padded to the exponent of the power. -/
theorem length_padded (hplaces : 0 < places) (hn : n < powerOfTen places) :
    (padded places (Text.ofNat n)).length = places := by
  have hlength : (Text.ofNat n).length ≤ places :=
    (Nat.length_toDigits_le_iff (by decide) hplaces).mpr hn
  rw [padded, List.length_append, List.length_replicate]
  omega

/-- It is padded with digits. -/
theorem isDigit_of_mem_padded {c : Char} (h : c ∈ padded places (Text.ofNat n)) :
    c.isDigit = true := by
  rcases List.mem_append.mp h with hzero | hdigit
  · obtain rfl := List.eq_of_mem_replicate hzero
    rfl
  · exact isDigit_of_mem_ofNat hdigit

/-- The digits in front of the point and those behind it are those of the units. -/
theorem ofDigits_fixed (hplaces : 0 < places) :
    ofDigits (Text.ofNat (n / powerOfTen places) ++
      padded places (Text.ofNat (n % powerOfTen places))) = n := by
  have hrest : n % powerOfTen places < powerOfTen places :=
    Nat.mod_lt n (powerOfTen_pos places)
  rw [ofDigits_append, length_padded hplaces hrest, padded, ofDigits_append, ofDigits_zeros,
    ofDigits_ofNat, ofDigits_ofNat, Nat.zero_mul, Nat.zero_add]
  exact Nat.div_add_mod' n (powerOfTen places)

end Places

/-! ## Leaving characters off at the end -/

section Trailing

variable {c d : Char} {t : Text}

/-- What is left off is left off behind another character. -/
theorem withoutTrailing_append_cons (hne : d ≠ c) (front behind : Text) :
    withoutTrailing c (front ++ d :: behind) = front ++ d :: withoutTrailing c behind := by
  simp only [withoutTrailing, List.reverse_append, List.reverse_cons, List.append_assoc,
    List.dropWhile_append, List.singleton_append]
  split
  · next hnone =>
    rw [List.isEmpty_iff] at hnone
    simp [hnone, hne]
  · simp

/-- A text that ends in another character keeps its end. -/
theorem withoutTrailing_eq_self (h : t.getLast? ≠ some c) : withoutTrailing c t = t := by
  refine List.rdropWhile_eq_self_iff.mpr fun hne hlast => h ?_
  rw [List.getLast?_eq_some_getLast hne, of_decide_eq_true hlast]

/-- No such character is left at the end. -/
theorem getLast?_withoutTrailing_ne (c : Char) (t : Text) :
    (withoutTrailing c t).getLast? ≠ some c := by
  intro h
  have hne : withoutTrailing c t ≠ [] := List.ne_nil_of_mem (List.mem_of_getLast? h)
  rw [List.getLast?_eq_some_getLast hne, Option.some_inj] at h
  exact List.rdropWhile_last_not (fun d => decide (d = c)) t hne (decide_eq_true h)

/-- A point is left off if nothing stands behind it. -/
theorem withoutTrailing_point {front digits : Text} (hfront : front.getLast? ≠ some '.')
    (hdigits : '.' ∉ digits) :
    withoutTrailing '.' (front ++ '.' :: digits) =
      front ++ (if digits.isEmpty then [] else '.' :: digits) := by
  cases digits with
  | nil =>
    have hdrop : withoutTrailing '.' (front ++ ['.']) = withoutTrailing '.' front := by
      simp [withoutTrailing]
    rw [hdrop, withoutTrailing_eq_self hfront]
    simp
  | cons c rest =>
    have hlast : (front ++ '.' :: c :: rest).getLast? = (c :: rest).getLast? := by
      rw [List.getLast?_append_of_ne_nil _ (by simp), List.getLast?_cons_cons]
    refine withoutTrailing_eq_self ?_
    rw [hlast]
    exact fun h => hdigits (List.mem_of_getLast? h)

/-- A text is what is left of it, with the character some times behind. -/
theorem exists_withoutTrailing_append (c : Char) (t : Text) :
    ∃ count, t = withoutTrailing c t ++ List.replicate count c := by
  induction t using List.reverseRecOn with
  | nil => exact ⟨0, rfl⟩
  | append_singleton front d ih =>
    obtain ⟨count, hfront⟩ := ih
    by_cases hd : d = c
    · subst hd
      have hdrop : withoutTrailing d (front ++ [d]) = withoutTrailing d front := by
        simp [withoutTrailing]
      refine ⟨count + 1, ?_⟩
      rw [hdrop, List.replicate_succ', ← List.append_assoc, ← hfront]
    · refine ⟨0, ?_⟩
      rw [withoutTrailing_append_cons hd]
      simp [withoutTrailing]

end Trailing

/-! ## Plain numerals -/

/-- A numeral in its parts: whether it has a minus sign, the digits in front of the point and those
behind it. -/
structure Plain where
  negative : Bool
  whole : Text
  fraction : Text
  deriving DecidableEq, Repr

namespace Plain

/-- The numeral as it is written; there is a point only if there are digits behind it. -/
def text (numeral : Plain) : Text :=
  Double.signText numeral.negative ++ numeral.whole ++
    (if numeral.fraction.isEmpty then [] else '.' :: numeral.fraction)

/-- The numeral has digits in front of its point, and there are only digits in its parts.  No zero
stands in front of other digits of the whole number, and none at the end of the fraction. -/
structure IsShortest (numeral : Plain) : Prop where
  isDigit : ∀ c ∈ numeral.whole ++ numeral.fraction, c.isDigit = true
  whole_ne_nil : numeral.whole ≠ []
  no_zero_in_front : numeral.whole.head? = some '0' → numeral.whole = ['0']
  no_zero_behind : numeral.fraction.getLast? ≠ some '0'

/-- The numeral of so many units, of which `10 ^ places` make one, without idle zeros. -/
def ofUnits (negative : Bool) (places n : Nat) : Plain where
  negative := negative
  whole := Text.ofNat (n / powerOfTen places)
  fraction := withoutTrailing '0' (padded places (Text.ofNat (n % powerOfTen places)))

variable {numeral : Plain}

/-- No mark stands among the digits. -/
theorem IsShortest.ne_of_mem (h : numeral.IsShortest) {c mark : Char}
    (hc : c ∈ numeral.whole ++ numeral.fraction) (hmark : mark.isDigit = false) : c ≠ mark := by
  rintro rfl
  rw [h.isDigit c hc] at hmark
  contradiction

/-- The minus sign shows whether the numeral is negative. -/
theorem IsShortest.head?_text (h : numeral.IsShortest) :
    numeral.text.head? = some '-' ↔ numeral.negative = true := by
  obtain ⟨c, rest, hwhole⟩ := List.exists_cons_of_ne_nil h.whole_ne_nil
  have hc : c ≠ '-' := h.ne_of_mem (by simp [hwhole]) rfl
  cases hnegative : numeral.negative with
  | true => simp [text, hnegative, Double.signText, Text.onlyIf, Text.ofString]
  | false => simp [text, hnegative, hwhole, Double.signText, Text.onlyIf, hc]

/-- The numeral does not end in a point, and in a zero only if it has no point. -/
theorem IsShortest.getLast?_text (h : numeral.IsShortest) :
    numeral.text.getLast? ≠ some '.' ∧ ('.' ∈ numeral.text → numeral.text.getLast? ≠ some '0') := by
  have hsign : '.' ∉ Double.signText numeral.negative := by
    cases numeral.negative <;> decide
  have hpoint : '.' ∉ numeral.whole := fun hmem =>
    h.ne_of_mem (List.mem_append_left _ hmem) rfl rfl
  cases hfraction : numeral.fraction with
  | nil =>
    have hnone : '.' ∉ numeral.text := by simp [text, hfraction, hsign, hpoint]
    exact ⟨fun hlast => hnone (List.mem_of_getLast? hlast), fun hmem => absurd hmem hnone⟩
  | cons c rest =>
    have hlast : numeral.text.getLast? = numeral.fraction.getLast? := by
      rw [text, hfraction, List.isEmpty_cons, if_neg Bool.false_ne_true,
        List.getLast?_append_of_ne_nil _ (by simp), List.getLast?_cons_cons]
    rw [hlast]
    refine ⟨fun hpoint => ?_, fun _ => h.no_zero_behind⟩
    exact h.ne_of_mem (List.mem_append_right _ (List.mem_of_getLast? hpoint)) rfl rfl

end Plain

/-! ## Numerals without idle zeros -/

section Shortest

open Plain

variable {places n : Nat} {negative : Bool}

/-- **No digit of a numeral without trailing zeros is idle.** -/
theorem isShortest_ofUnits (negative : Bool) (places n : Nat) :
    (ofUnits negative places n).IsShortest where
  isDigit c hc := by
    rcases List.mem_append.mp hc with hwhole | hfraction
    · exact isDigit_of_mem_ofNat hwhole
    · exact isDigit_of_mem_padded ((List.rdropWhile_prefix _ _).mem hfraction)
  whole_ne_nil := Nat.toDigits_ne_nil
  no_zero_in_front h := by
    rw [ofUnits] at h ⊢
    rw [eq_zero_of_head?_ofNat h]
    rfl
  no_zero_behind := getLast?_withoutTrailing_ne '0' _

/-- **Without the zeros at its end the numeral is written in these parts.** -/
theorem withoutTrailingZeros_fixed (negative : Bool) (places n : Nat) :
    withoutTrailingZeros (Double.signText negative ++ fixedPoint places n) =
      (ofUnits negative places n).text := by
  have hshape : Double.signText negative ++ fixedPoint places n =
      (Double.signText negative ++ (ofUnits negative places n).whole) ++
        '.' :: padded places (Text.ofNat (n % powerOfTen places)) := by
    simp [fixedPoint, ofUnits]
  have hpoint : '.' ∈ Double.signText negative ++ fixedPoint places n := by
    simp [hshape]
  have hshortest := isShortest_ofUnits negative places n
  have hwhole : (Double.signText negative ++ (ofUnits negative places n).whole).getLast? ≠
      some '.' := by
    rw [List.getLast?_append_of_ne_nil _ hshortest.whole_ne_nil]
    exact fun h =>
      hshortest.ne_of_mem (List.mem_append_left _ (List.mem_of_getLast? h)) rfl rfl
  have hfraction : '.' ∉ (ofUnits negative places n).fraction := fun hmem =>
    hshortest.ne_of_mem (List.mem_append_right _ hmem) rfl rfl
  rw [withoutTrailingZeros, if_pos hpoint, hshape, withoutTrailing_append_cons (by decide)]
  exact withoutTrailing_point hwhole hfraction

end Shortest

end TypedStyle.Decimal
