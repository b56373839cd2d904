import TypedStyle.Proofs.Text.CaseRuns
import TypedStyle.Proofs.Text.Characters
/-!
# Characters in upper case

The tables make upper case of letters, and all that they make of ASCII are its capitals.  So where
any other character of ASCII stands in upper case, it stood before.

* `eq_of_mem_upperChar` — a character of ASCII that is no capital was there before;
* `upperChar_of_mem_upperChar` — what is in upper case stays as it is.
-/

namespace TypedStyle.Text

open Case (ShiftRun)

/-- No character that the table of capitals gives is moved again by it. -/
theorem upperRuns_isSettled : Case.isSettled Case.upperRuns = true := by
  decide +kernel

/-- The code points of ASCII in front of its capitals and behind them. -/
def uncapitalized : List CodeRange :=
  [⟨0, 0x40⟩, ⟨0x5B, 0x7F⟩]

/-- A character of ASCII that is no capital stands in front of the capitals or behind them. -/
theorem exists_uncapitalized {c : Char} (hascii : c.toNat < 128) (hupper : c.isUpper = false) :
    ∃ range ∈ uncapitalized, range.first ≤ c.toNat ∧ c.toNat ≤ range.last :=
  forall_ascii (p := fun c => c.isUpper = false →
    ∃ range ∈ uncapitalized, range.first ≤ c.toNat ∧ c.toNat ≤ range.last)
    (by decide) hascii hupper

/-- No run of the table gives such a character. -/
theorem upperRuns_misses :
    ∀ run ∈ Case.upperRuns, ∀ range ∈ uncapitalized, run.misses range = true := by
  decide +kernel

/-- Neither does any expansion into several characters. -/
theorem upperExpansions_misses : ∀ expansion ∈ Case.upperExpansions, ∀ code ∈ expansion.2,
    128 ≤ (Char.ofNat code).toNat ∨ (Char.ofNat code).isUpper = true := by
  decide

/-- Upper case is read off one of the tables, for several characters or for one. -/
theorem upperChar_cases (c : Char) :
    (∃ expansion ∈ Case.upperExpansions, upperChar c = expansion.2.map Char.ofNat) ∨
      Case.upperExpansions.lookup c.toNat = none ∧
        upperChar c = [Case.shift Case.upperRuns c] := by
  cases hlookup : Case.upperExpansions.lookup c.toNat with
  | some codes =>
    left
    obtain ⟨front, behind, hsplit, -⟩ := List.lookup_eq_some_iff.mp hlookup
    exact ⟨(c.toNat, codes), by simp [hsplit], by simp [upperChar, hlookup]⟩
  | none =>
    right
    exact ⟨rfl, by simp [upperChar, hlookup]⟩

/-- Every character has something for its upper case. -/
theorem upperChar_ne_nil (c : Char) : upperChar c ≠ [] := by
  have hcodes : ∀ expansion ∈ Case.upperExpansions, expansion.2 ≠ [] := by decide
  rcases upperChar_cases c with ⟨expansion, hexpansion, hupper⟩ | ⟨-, hupper⟩
  · simpa [hupper] using hcodes expansion hexpansion
  · simp [hupper]

/-- **A character of ASCII in upper case that is no capital was there before.** -/
theorem eq_of_mem_upperChar {c d : Char} (hmem : d ∈ upperChar c) (hascii : d.toNat < 128)
    (hupper : d.isUpper = false) : d = c := by
  rcases upperChar_cases c with ⟨expansion, hexpansion, heq⟩ | ⟨-, heq⟩
  · rw [heq] at hmem
    obtain ⟨code, hcode, rfl⟩ := List.mem_map.mp hmem
    rcases upperExpansions_misses expansion hexpansion code hcode with habove | hcapital
    · omega
    · rw [hupper] at hcapital
      contradiction
  · rw [heq] at hmem
    obtain rfl := List.mem_singleton.mp hmem
    obtain ⟨range, hrange, hwithin⟩ := exists_uncapitalized hascii hupper
    exact Case.shift_eq_self_of_within upperRuns_isSettled
      (fun run hrun => upperRuns_misses run hrun range hrange) hwithin

/-- What is in upper case is no small letter of ASCII. -/
theorem isLower_of_mem_upperChar {c d : Char} (hmem : d ∈ upperChar c) : d.isLower = false := by
  refine Bool.eq_false_iff.mpr fun hlower => ?_
  have hascii := toNat_lt_of_isAlphanum (isAlphanum_of_isLower hlower)
  have hsmall : d.isUpper = false ∧ d.toUpper ≠ d :=
    forall_ascii (p := fun c => c.isLower = true → c.isUpper = false ∧ c.toUpper ≠ c)
      (by decide) hascii hlower
  obtain rfl := eq_of_mem_upperChar hmem hascii hsmall.1
  rw [upperChar_of_ascii hascii] at hmem
  exact hsmall.2 (List.mem_singleton.mp hmem).symm

/-! ## Upper case of what is in upper case -/

/-- No run makes a character whose upper case is several characters. -/
theorem upperRuns_misses_expansions :
    ∀ run ∈ Case.upperRuns, ∀ expansion ∈ Case.upperExpansions,
      run.misses ⟨expansion.1, expansion.1⟩ = true := by
  decide +kernel

/-- The characters that others become in upper case stay as they are. -/
theorem upperExpansions_settled :
    ∀ expansion ∈ Case.upperExpansions, ∀ code ∈ expansion.2,
      upperChar (Char.ofNat code) = [Char.ofNat code] := by
  decide +kernel

/-- A moved character has no upper case of several characters, as no other character has that is
not in the table of these. -/
theorem lookup_shift_eq_none {c : Char} (h : Case.upperExpansions.lookup c.toNat = none) :
    Case.upperExpansions.lookup (Case.shift Case.upperRuns c).toNat = none := by
  rcases Case.shift_cases Case.upperRuns c with ⟨run, hrun, hcovers, hmoved⟩ | ⟨_, hsame⟩
  · rw [List.lookup_eq_none_iff]
    intro expansion hexpansion
    have hfaithful := Case.isFaithful_of_isSettled upperRuns_isSettled hrun
    have hout := ShiftRun.not_within_of_misses
      (upperRuns_misses_expansions run hrun expansion hexpansion) hcovers
    rw [hmoved, ShiftRun.toNat_moved hfaithful hcovers]
    exact bne_iff_ne.mpr fun heq => hout ⟨Nat.le_of_eq heq.symm, Nat.le_of_eq heq⟩
  · rwa [hsame]

/-- **What is in upper case stays as it is in upper case.** -/
theorem upperChar_of_mem_upperChar {c d : Char} (hmem : d ∈ upperChar c) : upperChar d = [d] := by
  rcases upperChar_cases c with ⟨expansion, hexpansion, heq⟩ | ⟨hnone, heq⟩
  · rw [heq] at hmem
    obtain ⟨code, hcode, rfl⟩ := List.mem_map.mp hmem
    exact upperExpansions_settled expansion hexpansion code hcode
  · rw [heq] at hmem
    obtain rfl := List.mem_singleton.mp hmem
    rw [upperChar, lookup_shift_eq_none hnone, Case.shift_shift upperRuns_isSettled]

end TypedStyle.Text
