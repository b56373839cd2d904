import TypedStyle.Text.Basic
/-!
# Cutting texts at a character

The pieces of a text that is cut at a character hold all of the text but that character.

* `splitOn_append` — a text is cut on both sides of the character;
* `mem_of_mem_splitOn`, `not_mem_of_mem_splitOn`, `eq_or_mem_splitOn` — what stands in the pieces;
* `takeWhile_ne_append`, `dropWhile_ne_append` — the text before and from the first cut.
-/

namespace TypedStyle.Text

/-- The pieces tell the text. -/
theorem eq_of_splitOn_eq {separator : Char} {a b : Text}
    (h : splitOn separator a = splitOn separator b) : a = b := by
  rw [← intercalate_splitOn separator a, h, intercalate_splitOn]

/-- A text that is cut at a character is cut on both sides of it. -/
theorem splitOn_append (separator : Char) (a b : Text) :
    splitOn separator (a ++ separator :: b) = splitOn separator a ++ splitOn separator b := by
  induction a with
  | nil => simp [splitOn]
  | cons c rest ih =>
      rw [List.cons_append, splitOn, splitOn, ih]
      split
      · rfl
      · cases hpieces : splitOn separator rest with
        | nil => exact absurd hpieces (splitOn_ne_nil separator rest)
        | cons piece pieces => rfl

/-- A text without the character is one piece. -/
theorem splitOn_of_not_mem {separator : Char} {t : Text} (h : separator ∉ t) :
    splitOn separator t = [t] := by
  induction t with
  | nil => rfl
  | cons c rest ih =>
      obtain ⟨hc, hrest⟩ : separator ≠ c ∧ separator ∉ rest := by simpa using h
      rw [splitOn, if_neg (Ne.symm hc), ih hrest]

/-- Pieces without the character are found again, when they are joined by it. -/
theorem splitOn_intercalate {separator : Char} {pieces : List Text} (hne : pieces ≠ [])
    (h : ∀ piece ∈ pieces, separator ∉ piece) :
    splitOn separator (List.intercalate [separator] pieces) = pieces := by
  induction pieces with
  | nil => contradiction
  | cons piece pieces ih =>
      obtain ⟨hpiece, hpieces⟩ := List.forall_mem_cons.mp h
      cases pieces with
      | nil => simpa [List.intercalate] using splitOn_of_not_mem hpiece
      | cons other pieces =>
          have hjoined : List.intercalate [separator] (piece :: other :: pieces) =
              piece ++ separator :: List.intercalate [separator] (other :: pieces) := by
            simp [List.intercalate]
          rw [hjoined, splitOn_append, splitOn_of_not_mem hpiece, ih (by simp) hpieces]
          rfl

/-- What is added in front of a text goes to its first piece. -/
theorem splitOn_append_left {separator : Char} {front t piece : Text} {pieces : List Text}
    (hfront : separator ∉ front) (h : splitOn separator t = piece :: pieces) :
    splitOn separator (front ++ t) = (front ++ piece) :: pieces := by
  induction front with
  | nil => exact h
  | cons c front ih =>
      obtain ⟨hc, hfront⟩ : separator ≠ c ∧ separator ∉ front := by simpa using hfront
      simp [splitOn, hc.symm, ih hfront]

/-- What is added behind a text goes to its last piece. -/
theorem exists_splitOn_append_right {separator : Char} {back : Text} (hback : separator ∉ back)
    (t : Text) : ∃ pieces last, splitOn separator t = pieces ++ [last] ∧
      splitOn separator (t ++ back) = pieces ++ [last ++ back] := by
  induction t with
  | nil => exact ⟨[], [], rfl, splitOn_of_not_mem hback⟩
  | cons c t ih =>
      obtain ⟨pieces, last, ht, hback⟩ := ih
      rw [List.cons_append, splitOn, splitOn, ht, hback]
      split
      · exact ⟨[] :: pieces, last, rfl, rfl⟩
      · cases pieces with
        | nil => exact ⟨[], c :: last, rfl, rfl⟩
        | cons piece pieces => exact ⟨(c :: piece) :: pieces, last, rfl, rfl⟩

/-- No piece holds the character. -/
theorem not_mem_of_mem_splitOn {separator : Char} {t piece : Text}
    (h : piece ∈ splitOn separator t) : separator ∉ piece := by
  induction t generalizing piece with
  | nil => simp_all [splitOn]
  | cons c rest ih =>
      rw [splitOn] at h
      split at h
      · rcases List.mem_cons.mp h with rfl | hpiece
        · exact List.not_mem_nil
        · exact ih hpiece
      · next hc =>
        cases hpieces : splitOn separator rest with
        | nil => exact absurd hpieces (splitOn_ne_nil separator rest)
        | cons first pieces =>
            rw [hpieces] at h ih
            rcases List.mem_cons.mp h with rfl | hpiece
            · simpa [Ne.symm hc] using ih List.mem_cons_self
            · exact ih (List.mem_cons_of_mem _ hpiece)

/-- What stands in a piece stands in the text. -/
theorem mem_of_mem_splitOn {separator c : Char} {t piece : Text}
    (hpiece : piece ∈ splitOn separator t) (hc : c ∈ piece) : c ∈ t := by
  induction t generalizing piece with
  | nil => simp_all [splitOn]
  | cons d rest ih =>
      rw [splitOn] at hpiece
      split at hpiece
      · rcases List.mem_cons.mp hpiece with rfl | hlater
        · exact absurd hc List.not_mem_nil
        · exact List.mem_cons_of_mem _ (ih hlater hc)
      · cases hpieces : splitOn separator rest with
        | nil => exact absurd hpieces (splitOn_ne_nil separator rest)
        | cons first pieces =>
            rw [hpieces] at hpiece ih
            rcases List.mem_cons.mp hpiece with rfl | hlater
            · rcases List.mem_cons.mp hc with rfl | hfirst
              · exact List.mem_cons_self
              · exact List.mem_cons_of_mem _ (ih List.mem_cons_self hfirst)
            · exact List.mem_cons_of_mem _ (ih (List.mem_cons_of_mem _ hlater) hc)

/-- What stands in the text is the character, or it stands in a piece. -/
theorem eq_or_mem_splitOn (separator : Char) {c : Char} {t : Text} (hc : c ∈ t) :
    c = separator ∨ ∃ piece ∈ splitOn separator t, c ∈ piece := by
  induction t with
  | nil => exact absurd hc List.not_mem_nil
  | cons d rest ih =>
      by_cases hd : d = separator
      · rcases List.mem_cons.mp hc with rfl | hrest
        · exact Or.inl hd
        · rw [splitOn, if_pos hd]
          rcases ih hrest with hseparator | ⟨piece, hpiece, hmem⟩
          · exact Or.inl hseparator
          · exact Or.inr ⟨piece, List.mem_cons_of_mem _ hpiece, hmem⟩
      · rw [splitOn, if_neg hd]
        cases hpieces : splitOn separator rest with
        | nil => exact absurd hpieces (splitOn_ne_nil separator rest)
        | cons first pieces =>
            rw [hpieces] at ih
            rcases List.mem_cons.mp hc with rfl | hrest
            · exact Or.inr ⟨_, List.mem_cons_self, List.mem_cons_self⟩
            · rcases ih hrest with hseparator | ⟨piece, hpiece, hmem⟩
              · exact Or.inl hseparator
              · rcases List.mem_cons.mp hpiece with rfl | hlater
                · exact Or.inr ⟨_, List.mem_cons_self, List.mem_cons_of_mem _ hmem⟩
                · exact Or.inr ⟨piece, List.mem_cons_of_mem _ hlater, hmem⟩

/-! ## The first of the characters -/

section FirstCut

variable {c : Char} {t : Text}

/-- All characters of a text are different from one that is not in it. -/
theorem forall_ne_of_notMem (h : c ∉ t) : ∀ d ∈ t, decide (d ≠ c) = true :=
  fun _ hd => decide_eq_true fun heq => h (heq ▸ hd)

/-- A text up to the first of the characters that it is cut at. -/
theorem takeWhile_ne_append (h : c ∉ t) (rest : Text) :
    (t ++ c :: rest).takeWhile (· ≠ c) = t := by
  rw [List.takeWhile_append_of_pos (forall_ne_of_notMem h), List.takeWhile_cons_of_neg (by simp),
    List.append_nil]

/-- A text from the first of the characters on that it is cut at. -/
theorem dropWhile_ne_append (h : c ∉ t) (rest : Text) :
    (t ++ c :: rest).dropWhile (· ≠ c) = c :: rest := by
  rw [List.dropWhile_append_of_pos (forall_ne_of_notMem h), List.dropWhile_cons_of_neg (by simp)]

end FirstCut

end TypedStyle.Text
