import TypedStyle.Proofs.Text.CaseRuns
import TypedStyle.Proofs.Text.Trimming
import TypedStyle.Text.Blank
/-!
# Lower case as a fixed point

A character is small when lower-casing leaves it alone wherever it stands.  Everything that
lower-casing writes is small, so a text in lower case stays as it is: in particular no capital sigma
is left whose form would depend on its neighbours.  Lower-casing also keeps the ends of a trimmed
text from becoming blank.

* `isSmall_of_mem_lowerChar`, `isBlank_of_mem_lowerChar` — the two facts about single characters,
  from the case table;
* `lower_eq_self` — small texts are fixed points of lower-casing;
* `Trimmed.lower` — a trimmed text is still trimmed in lower case.
-/

namespace TypedStyle.Text

open Case (lowerRuns shift)

/-- Does lower-casing leave the character alone, whatever its neighbours are? -/
structure IsSmall (c : Char) : Prop where
  ne_sigma : c ≠ 'Σ'
  lowerChar_eq : lowerChar c = [c]

instance (c : Char) : Decidable (IsSmall c) :=
  decidable_of_iff (c ≠ 'Σ' ∧ lowerChar c = [c])
    ⟨fun h => ⟨h.1, h.2⟩, fun h => ⟨h.ne_sigma, h.lowerChar_eq⟩⟩

/-! ## The case table -/

/-- Code points that no character becomes in lower case: the dotted capital I, the capital sigma and
the blanks. -/
def notLowered : List CodeRange :=
  ⟨0x130, 0x130⟩ :: ⟨0x3A3, 0x3A3⟩ :: blanks

/-- No character that the table of small letters gives is moved again by it. -/
theorem lowerRuns_isSettled : Case.isSettled lowerRuns = true := by
  decide +kernel

/-- No run of the table gives a character that nothing becomes in lower case. -/
theorem lowerRuns_misses :
    ∀ range ∈ notLowered, ∀ run ∈ lowerRuns, run.misses range = true := by
  decide +kernel

/-- The table of the blanks is in ascending order. -/
theorem blanks_ascending : CharClass.Ascending blanks := by
  unfold CharClass.Ascending
  decide

/-- What the table puts into one of the reserved ranges was there before. -/
theorem shift_eq_self_of_notLowered {c : Char} {range : CodeRange} (hrange : range ∈ notLowered)
    (hwithin : range.first ≤ (shift lowerRuns c).toNat ∧
      (shift lowerRuns c).toNat ≤ range.last) :
    shift lowerRuns c = c :=
  Case.shift_eq_self_of_within lowerRuns_isSettled (lowerRuns_misses range hrange) hwithin

/-- The table makes no character the dotted capital I unless it is that already. -/
theorem shift_ne_dottedI {c : Char} (hc : c ≠ 'İ') : shift lowerRuns c ≠ 'İ' := by
  intro heq
  have hreserved : ⟨0x130, 0x130⟩ ∈ notLowered := List.mem_cons_self
  have hsame : shift lowerRuns c = c := by
    apply shift_eq_self_of_notLowered hreserved
    rw [heq]
    decide
  exact hc (hsame.symm.trans heq)

/-- The table makes no character the capital sigma, which it moves itself. -/
theorem shift_ne_sigma (c : Char) : shift lowerRuns c ≠ 'Σ' := by
  intro heq
  have hreserved : ⟨0x3A3, 0x3A3⟩ ∈ notLowered := List.mem_cons_of_mem _ List.mem_cons_self
  have hsame : shift lowerRuns c = c := by
    apply shift_eq_self_of_notLowered hreserved
    rw [heq]
    decide
  have hmoves : shift lowerRuns 'Σ' ≠ 'Σ' := by
    decide
  have hsigma : c = 'Σ' := hsame.symm.trans heq
  rw [hsigma] at heq
  exact hmoves heq

/-! ## Single characters -/

/-- Every character has something for its lower case. -/
theorem lowerChar_ne_nil (c : Char) : lowerChar c ≠ [] := by
  unfold lowerChar
  split <;> simp

/-- **Every character of a lower-case form is small.** -/
theorem isSmall_of_mem_lowerChar {c d : Char} (hmem : d ∈ lowerChar c) : IsSmall d := by
  by_cases hc : c = 'İ'
  · have hform : d = 'i' ∨ d = '\u0307' := by
      simpa [lowerChar, hc] using hmem
    rcases hform with rfl | rfl
    · decide
    · decide
  · have hd : d = shift lowerRuns c := by
      simpa [lowerChar, hc] using hmem
    have hdotted : d ≠ 'İ' := hd ▸ shift_ne_dottedI hc
    refine ⟨hd ▸ shift_ne_sigma c, ?_⟩
    rw [lowerChar, if_neg hdotted, hd, Case.shift_shift lowerRuns_isSettled]

/-- **A lower-case form has no blank that was not there before.** -/
theorem isBlank_of_mem_lowerChar {c d : Char} (hmem : d ∈ lowerChar c)
    (hblank : isBlank d = true) : isBlank c = true := by
  by_cases hc : c = 'İ'
  · have hform : d = 'i' ∨ d = '\u0307' := by
      simpa [lowerChar, hc] using hmem
    rcases hform with rfl | rfl
    · contradiction
    · contradiction
  · have hd : d = shift lowerRuns c := by
      simpa [lowerChar, hc] using hmem
    obtain ⟨range, hrange, hwithin⟩ :=
      (CharClass.covers_iff_of_ascending blanks_ascending d.toNat).mp hblank
    have hreserved : range ∈ notLowered :=
      List.mem_cons_of_mem _ (List.mem_cons_of_mem _ hrange)
    have hsame : shift lowerRuns c = c := by
      apply shift_eq_self_of_notLowered hreserved
      rwa [← hd]
    rwa [hd, hsame] at hblank

/-! ## Texts -/

/-- What lower-casing writes for the first character of a text. -/
def lowerFirst (afterCased : Bool) (c : Char) (rest : Text) : Text :=
  if c = 'Σ' then [if afterCased && !Case.meetsCased rest then 'ς' else 'σ'] else lowerChar c

/-- **A text is lower-cased from its first character on**, with what stands in front of it in
mind. -/
theorem lowerAfter_cons (afterCased : Bool) (c : Char) (rest : Text) :
    lowerAfter afterCased (c :: rest) = lowerFirst afterCased c rest ++
      lowerAfter (if Case.isIgnorable c then afterCased else Case.isCased c) rest :=
  rfl

variable {afterCased : Bool} {c d : Char} {t rest : Text}

/-- The two small sigmas are small, and not blank. -/
theorem isSmall_smallSigma (h : d = 'ς' ∨ d = 'σ') : IsSmall d ∧ isBlank d = false := by
  rcases h with rfl | rfl
  · decide
  · decide

/-- The first character becomes a small sigma, or its lower-case form. -/
theorem mem_lowerFirst (hmem : d ∈ lowerFirst afterCased c rest) :
    (d = 'ς' ∨ d = 'σ') ∨ d ∈ lowerChar c := by
  unfold lowerFirst at hmem
  split at hmem
  · left
    split at hmem <;> simp_all
  · exact Or.inr hmem

/-- Something is written for the first character. -/
theorem lowerFirst_ne_nil : lowerFirst afterCased c rest ≠ [] := by
  unfold lowerFirst
  split
  · simp
  · exact lowerChar_ne_nil c

/-- What is written is small. -/
theorem isSmall_of_mem_lowerFirst (hmem : d ∈ lowerFirst afterCased c rest) : IsSmall d := by
  rcases mem_lowerFirst hmem with hsigma | hform
  · exact (isSmall_smallSigma hsigma).1
  · exact isSmall_of_mem_lowerChar hform

/-- It is no blank, unless the character is one. -/
theorem not_isBlank_of_mem_lowerFirst (hmem : d ∈ lowerFirst afterCased c rest)
    (hc : isBlank c = false) : isBlank d = false := by
  rcases mem_lowerFirst hmem with hsigma | hform
  · exact (isSmall_smallSigma hsigma).2
  · by_cases hd : isBlank d = true
    · rw [isBlank_of_mem_lowerChar hform hd] at hc
      contradiction
    · simpa using hd

/-- A text in lower case has small characters only. -/
theorem isSmall_of_mem_lowerAfter (hmem : d ∈ lowerAfter afterCased t) : IsSmall d := by
  induction t generalizing afterCased with
  | nil => exact absurd hmem List.not_mem_nil
  | cons c rest ih =>
      rw [lowerAfter_cons] at hmem
      rcases List.mem_append.mp hmem with hfirst | hrest
      · exact isSmall_of_mem_lowerFirst hfirst
      · exact ih hrest

/-- A text of small characters is not changed, whatever stands before it. -/
theorem lowerAfter_eq_self (hsmall : ∀ c ∈ t, IsSmall c) : lowerAfter afterCased t = t := by
  induction t generalizing afterCased with
  | nil => rfl
  | cons c rest ih =>
      have hc : IsSmall c := hsmall c List.mem_cons_self
      have hrest := fun d hd => hsmall d (List.mem_cons_of_mem c hd)
      rw [lowerAfter_cons, ih hrest, lowerFirst, if_neg hc.ne_sigma, hc.lowerChar_eq]
      rfl

/-- **All characters of a text in lower case are small.** -/
theorem isSmall_of_mem_lower (hmem : d ∈ lower t) : IsSmall d :=
  isSmall_of_mem_lowerAfter hmem

/-- Lower-casing leaves a text of small characters alone. -/
theorem lower_eq_self (hsmall : ∀ c ∈ t, IsSmall c) : lower t = t :=
  lowerAfter_eq_self hsmall

/-! ## The ends of a text -/

/-- No text vanishes in lower case. -/
theorem lowerAfter_ne_nil (hne : t ≠ []) : lowerAfter afterCased t ≠ [] := by
  cases t with
  | nil => exact absurd rfl hne
  | cons c rest =>
      rw [lowerAfter_cons]
      exact List.append_ne_nil_of_left_ne_nil lowerFirst_ne_nil _

/-- A text that does not begin with a blank does not do so in lower case. -/
private theorem head_lowerAfter (hhead : ∀ c ∈ t.head?, isBlank c = false) :
    ∀ d ∈ (lowerAfter afterCased t).head?, isBlank d = false := by
  intro d hd
  cases t with
  | nil => exact absurd hd (by simp [lowerAfter])
  | cons c rest =>
      rw [lowerAfter_cons, List.head?_append,
        List.head?_eq_some_head lowerFirst_ne_nil, Option.some_or] at hd
      have hmem : d ∈ lowerFirst afterCased c rest :=
        Option.some.inj (Option.mem_def.mp hd) ▸ List.head_mem lowerFirst_ne_nil
      exact not_isBlank_of_mem_lowerFirst hmem (hhead c rfl)

/-- The last character of a text decides the last one of its lower-case form.  By induction from
the front, since a sigma looks at what stands behind it. -/
private theorem last_lowerAfter (hlast : ∀ c ∈ t.getLast?, isBlank c = false) :
    ∀ d ∈ (lowerAfter afterCased t).getLast?, isBlank d = false := by
  intro d hd
  induction t generalizing afterCased with
  | nil => exact absurd hd (by simp [lowerAfter])
  | cons c rest ih =>
      rw [lowerAfter_cons] at hd
      cases rest with
      | nil =>
          have hmem : d ∈ lowerFirst afterCased c [] := by
            simpa [lowerAfter] using List.mem_of_getLast? hd
          exact not_isBlank_of_mem_lowerFirst hmem (hlast c rfl)
      | cons next rest =>
          have hne : lowerAfter (if Case.isIgnorable c then afterCased else Case.isCased c)
              (next :: rest) ≠ [] := lowerAfter_ne_nil (by simp)
          rw [List.getLast?_append, List.getLast?_eq_some_getLast hne, Option.some_or,
            ← List.getLast?_eq_some_getLast hne] at hd
          exact ih (by simpa using hlast) hd

/-- **A trimmed text is still trimmed in lower case.** -/
theorem Trimmed.lower (h : Trimmed isBlank t) : Trimmed isBlank (lower t) :=
  ⟨head_lowerAfter h.head, last_lowerAfter h.last⟩

end TypedStyle.Text
