import TypedStyle.Text.Case
/-!
# Moving runs of code points

A case table moves whole runs of code points by a constant.  Such a table is settled when no moved
code point falls into a run again, so that moving a character twice is moving it once.  Whether two
runs meet is decided from their ends, and from the parity where both take every second code point.

* `shift_shift` — a settled table moves no character twice;
* `shift_eq_self_of_within` — what ends in a range that all runs miss has not been moved.
-/

namespace TypedStyle.Text.Case

namespace ShiftRun

/-- The code point that the run makes of one of its own. -/
def image (run : ShiftRun) (n : Nat) : Nat :=
  (n + run.shift).toNat

/-- Do the moved code points of the run stay out of a range? -/
def misses (run : ShiftRun) (range : CodeRange) : Bool :=
  Nat.blt (run.image run.last) range.first || Nat.blt range.last (run.image run.first)

/-- Does the second run take every second code point, and pass over the moved ones of the first run,
which are every second one too or a single one? -/
def interleaves (run other : ShiftRun) : Bool :=
  (run.step == 2 || run.first == run.last) && other.step == 2 &&
    (run.first + run.shift - other.first) % 2 == 1

/-- Are the moved code points of the run characters?  The codes of half surrogate pairs are not. -/
def isFaithful (run : ShiftRun) : Bool :=
  decide (0 ≤ run.first + run.shift) && run.misses ⟨0xD800, 0xDFFF⟩ &&
    Nat.blt (run.image run.last) 0x110000

variable {run other : ShiftRun} {range : CodeRange} {n : Nat}

/-- A run moves the code points from its first to its last one, at its steps. -/
theorem covers_iff :
    run.covers n = true ↔ run.first ≤ n ∧ n ≤ run.last ∧ (n - run.first) % run.step = 0 := by
  simp [covers, and_assoc]

/-- A run misses a range if what it moves ends in front of the range or begins behind it. -/
theorem misses_iff :
    run.misses range = true ↔
      run.image run.last < range.first ∨ range.last < run.image run.first := by
  simp [misses]

/-- A run is faithful if it stays among the code points of characters. -/
theorem isFaithful_iff :
    run.isFaithful = true ↔ 0 ≤ run.first + run.shift ∧
      (run.image run.last < 0xD800 ∨ 0xDFFF < run.image run.first) ∧
      run.image run.last < 0x110000 := by
  simp [isFaithful, misses_iff, and_assoc]

/-- The image of a covered code point lies between the images of the ends. -/
theorem image_within (hcovers : run.covers n = true) :
    run.image run.first ≤ run.image n ∧ run.image n ≤ run.image run.last := by
  obtain ⟨hfirst, hlast, _⟩ := covers_iff.mp hcovers
  unfold image
  omega

/-- A faithful run moves a code point by its shift, and by nothing else. -/
theorem image_eq (hfaithful : run.isFaithful = true) (hcovers : run.covers n = true) :
    (run.image n : Int) = n + run.shift := by
  obtain ⟨hzero, _⟩ := isFaithful_iff.mp hfaithful
  obtain ⟨hfirst, _⟩ := covers_iff.mp hcovers
  unfold image
  omega

/-- The image of a code point is in no range that the run misses. -/
theorem not_within_of_misses (hmisses : run.misses range = true) (hcovers : run.covers n = true) :
    ¬ (range.first ≤ run.image n ∧ run.image n ≤ range.last) := by
  have hwithin := image_within hcovers
  rw [misses_iff] at hmisses
  omega

/-- The image of a code point is not covered by a run that its own run interleaves with. -/
theorem not_covers_of_interleaves (hinterleaves : run.interleaves other = true)
    (hfaithful : run.isFaithful = true) (hcovers : run.covers n = true) :
    other.covers (run.image n) = false := by
  have himage := image_eq hfaithful hcovers
  obtain ⟨hfirst, hlast, hstep⟩ := covers_iff.mp hcovers
  simp only [interleaves, Bool.and_eq_true, Bool.or_eq_true, beq_iff_eq] at hinterleaves
  obtain ⟨⟨hrun, htwo⟩, hparity⟩ := hinterleaves
  have heven : (n - run.first) % 2 = 0 := by
    rcases hrun with hrun | hrun
    · rwa [hrun] at hstep
    · omega
  rw [← Bool.not_eq_true, covers_iff, htwo]
  omega

/-- The character that the run makes of one of its own. -/
def moved (run : ShiftRun) (c : Char) : Char :=
  Char.ofNat (run.image c.toNat)

/-- **A faithful run moves a character to the code point that it says.** -/
theorem toNat_moved {c : Char} (hfaithful : run.isFaithful = true)
    (hcovers : run.covers c.toNat = true) : (run.moved c).toNat = run.image c.toNat := by
  obtain ⟨_, hsurrogates, hlimit⟩ := isFaithful_iff.mp hfaithful
  have hwithin := image_within hcovers
  have hvalid : (run.image c.toNat).isValidChar := by
    unfold Nat.isValidChar
    omega
  rw [moved, Char.ofNat, dif_pos hvalid]
  rfl

end ShiftRun

/-- A table is settled when its runs are faithful and no moved code point falls into a run. -/
def isSettled (runs : List ShiftRun) : Bool :=
  runs.all fun run => run.isFaithful &&
    runs.all fun other => run.misses ⟨other.first, other.last⟩ || run.interleaves other

variable {runs : List ShiftRun}

/-- A character is moved by a run that covers it, or it is covered by none and stays. -/
theorem shift_cases (runs : List ShiftRun) (c : Char) :
    (∃ run ∈ runs, run.covers c.toNat = true ∧ shift runs c = run.moved c) ∨
      (∀ run ∈ runs, run.covers c.toNat = false) ∧ shift runs c = c := by
  cases hfound : runs.find? (·.covers c.toNat) with
  | some run =>
      left
      refine ⟨run, List.mem_of_find?_eq_some hfound, ?_, ?_⟩
      · simpa using List.find?_some hfound
      · simp [shift, hfound, ShiftRun.moved, ShiftRun.image]
  | none =>
      right
      refine ⟨?_, by simp [shift, hfound]⟩
      simpa using hfound

/-- A character that no run covers stays. -/
theorem shift_eq_self {c : Char} (hfree : ∀ run ∈ runs, run.covers c.toNat = false) :
    shift runs c = c := by
  have hnone : runs.find? (·.covers c.toNat) = none := by
    simpa using hfree
  simp [shift, hnone]

/-- In a settled table no run covers an image. -/
theorem not_covers_image (hsettled : isSettled runs = true) {run other : ShiftRun}
    (hrun : run ∈ runs) (hother : other ∈ runs) {n : Nat} (hcovers : run.covers n = true) :
    other.covers (run.image n) = false := by
  have hchecked := List.all_eq_true.mp hsettled run hrun
  obtain ⟨hfaithful, hothers⟩ := Bool.and_eq_true_iff.mp hchecked
  rcases Bool.or_eq_true_iff.mp (List.all_eq_true.mp hothers other hother) with
    hmisses | hinterleaves
  · have hout := ShiftRun.not_within_of_misses hmisses hcovers
    rw [← Bool.not_eq_true, ShiftRun.covers_iff]
    intro hin
    exact hout ⟨hin.1, hin.2.1⟩
  · exact ShiftRun.not_covers_of_interleaves hinterleaves hfaithful hcovers

/-- In a settled table every run is faithful. -/
theorem isFaithful_of_isSettled (hsettled : isSettled runs = true) {run : ShiftRun}
    (hrun : run ∈ runs) : run.isFaithful = true :=
  (Bool.and_eq_true_iff.mp (List.all_eq_true.mp hsettled run hrun)).1

/-- **A settled table moves no character twice.** -/
theorem shift_shift (hsettled : isSettled runs = true) (c : Char) :
    shift runs (shift runs c) = shift runs c := by
  rcases shift_cases runs c with ⟨run, hrun, hcovers, hmoved⟩ | ⟨_, hsame⟩
  · apply shift_eq_self
    intro other hother
    rw [hmoved, ShiftRun.toNat_moved (isFaithful_of_isSettled hsettled hrun) hcovers]
    exact not_covers_image hsettled hrun hother hcovers
  · rw [hsame, hsame]

/-- A character that ends in a range that all runs miss has not been moved. -/
theorem shift_eq_self_of_within (hsettled : isSettled runs = true) {range : CodeRange}
    (hmisses : ∀ run ∈ runs, run.misses range = true) {c : Char}
    (hwithin : range.first ≤ (shift runs c).toNat ∧ (shift runs c).toNat ≤ range.last) :
    shift runs c = c := by
  rcases shift_cases runs c with ⟨run, hrun, hcovers, hmoved⟩ | ⟨_, hsame⟩
  · have hout := ShiftRun.not_within_of_misses (hmisses run hrun) hcovers
    rw [hmoved, ShiftRun.toNat_moved (isFaithful_of_isSettled hsettled hrun) hcovers] at hwithin
    exact absurd hwithin hout
  · exact hsame

end TypedStyle.Text.Case
