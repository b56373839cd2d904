import TypedStyle.Proofs.Text.CaseRuns
/-!
# Characters one by one

What is claimed of the characters of a given text, or of the first 128 characters, is checked for
each of them.  There are too many characters to check a claim on all.

* `forall_mem_of_all`, `forall_ascii` — from a finite check to the claim;
* `toNat_lt_of_isAlphanum` — letters and digits are among the first 128 characters;
* `upperChar_of_ascii` — upper case on the first 128 characters.
-/

namespace TypedStyle.Text

/-- What holds of each character of a text can be checked one by one. -/
theorem forall_mem_of_all {p : Char → Prop} [DecidablePred p] {t : Text}
    (h : t.all (fun c => decide (p c)) = true) : ∀ c ∈ t, p c :=
  fun c hc => of_decide_eq_true (List.all_eq_true.mp h c hc)

/-- What holds of the first 128 characters can be checked one by one. -/
theorem forall_ascii {p : Char → Prop} (h : ∀ n : Fin 128, p (Char.ofNat n)) {c : Char}
    (hc : c.toNat < 128) : p c := by
  have hchar := h ⟨c.toNat, hc⟩
  rwa [Char.ofNat_toNat] at hchar

section Classes

variable {c : Char}

/-- Capitals are letters. -/
theorem isAlphanum_of_isUpper (h : c.isUpper = true) : c.isAlphanum = true :=
  have halpha : c.isAlpha = true := Bool.or_eq_true_iff.mpr (.inl h)
  Bool.or_eq_true_iff.mpr (.inl halpha)

/-- So are small letters. -/
theorem isAlphanum_of_isLower (h : c.isLower = true) : c.isAlphanum = true :=
  have halpha : c.isAlpha = true := Bool.or_eq_true_iff.mpr (.inr h)
  Bool.or_eq_true_iff.mpr (.inl halpha)

/-- A digit counts among letters and digits. -/
theorem isAlphanum_of_isDigit (h : c.isDigit = true) : c.isAlphanum = true :=
  Bool.or_eq_true_iff.mpr (.inr h)

/-- So do small letters and digits together. -/
theorem isAlphanum_of_isLower_or_isDigit (h : (c.isLower || c.isDigit) = true) :
    c.isAlphanum = true := by
  rcases Bool.or_eq_true_iff.mp h with hlower | hdigit
  · exact isAlphanum_of_isLower hlower
  · exact isAlphanum_of_isDigit hdigit

/-- Letters and digits are those of ASCII. -/
theorem toNat_lt_of_isAlphanum (h : c.isAlphanum = true) : c.toNat < 128 := by
  unfold Char.isAlphanum Char.isAlpha Char.isUpper Char.isLower Char.isDigit at h
  simp only [Bool.or_eq_true, Bool.and_eq_true, decide_eq_true_eq, UInt32.le_iff_toNat_le] at h
  have hvalue : c.toNat = c.val.toNat := rfl
  simp at h
  omega

end Classes

/-- Upper case moves none of the first 128 characters but small letters. -/
theorem shift_upperRuns_of_ascii {c : Char} (hc : c.toNat < 128) :
    Case.shift Case.upperRuns c = c.toUpper := by
  by_cases hlower : c.isLower = true
  · exact forall_ascii (p := fun c => c.isLower = true → Case.shift Case.upperRuns c = c.toUpper)
      (by decide) hc hlower
  · have hupper : c.toUpper = c :=
      forall_ascii (p := fun c => ¬ c.isLower = true → c.toUpper = c) (by decide) hc hlower
    have hruns : ∀ run ∈ Case.upperRuns, run.first = 0x61 ∧ run.last = 0x7A ∨ 128 ≤ run.first := by
      decide +kernel
    have hletters : ∀ c : Char, c.toNat < 128 → 0x61 ≤ c.toNat ∧ c.toNat ≤ 0x7A →
        c.isLower = true := fun c => forall_ascii
      (p := fun c => 0x61 ≤ c.toNat ∧ c.toNat ≤ 0x7A → c.isLower = true) (by decide)
    rw [hupper]
    refine Case.shift_eq_self fun run hrun => Bool.eq_false_iff.mpr fun hcovers => ?_
    obtain ⟨hfirst, hlast, -⟩ := Case.ShiftRun.covers_iff.mp hcovers
    rcases hruns run hrun with ⟨hfrom, hto⟩ | hbehind
    · exact hlower (hletters c hc (by omega))
    · omega

/-- In ASCII a character has one capital. -/
theorem upperChar_of_ascii {c : Char} (hc : c.toNat < 128) :
    upperChar c = [c.toUpper] := by
  have hkeys : ∀ entry ∈ Case.upperExpansions, 128 ≤ entry.1 := by decide
  have hlookup : Case.upperExpansions.lookup c.toNat = none := by
    rw [List.lookup_eq_none_iff]
    intro entry hentry
    have hkey := hkeys entry hentry
    exact bne_iff_ne.mpr (by omega)
  rw [upperChar, hlookup]
  exact congrArg (fun c => [c]) (shift_upperRuns_of_ascii hc)

end TypedStyle.Text
