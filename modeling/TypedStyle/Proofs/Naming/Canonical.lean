import TypedStyle.Proofs.Naming
/-!
# Canonical names

A name in capitals can be hyphenated again.  What comes out need not be the name that it was made
of: capitals inside a piece begin pieces of their own, as do the capitals that one character becomes
in upper case, and hyphens with no letter behind them are lost.  But nothing of this is seen in
capitals.  So the names with the same constant all lead to one name, which has that constant too and
leads to itself.

* `exists_pascalCase_eq_iff` — which texts names become in capitals;
* `pascalCase_kebabCase_iff` — they are the texts that are found again after they are hyphenated;
* `kebabCase_pascalCase_canonical` — what a name leads to stands for all names with its constant.
-/

namespace TypedStyle.Naming

/-- The text has no hyphen in it, and begins with no character that upper case would change. -/
structure IsCapitalForm (t : Text) : Prop where
  head : ∀ c ∈ t.head?, Text.upperChar c = [c]
  hyphen : '-' ∉ t

variable {t piece : Text}

/-! ## Forms in capitals -/

/-- What a name becomes in capitals is a form in capitals. -/
theorem isCapitalForm_pascalCase (name : Text) : IsCapitalForm (pascalCase name) := by
  refine ⟨?_, hyphen_not_mem_pascalCase name⟩
  intro c hc
  obtain ⟨first, hfirst⟩ := exists_upperChar_of_head?_pascalCase hc
  exact Text.upperChar_of_mem_upperChar hfirst

/-! ## Hyphenating a form in capitals -/

/-- Names on both sides of a hyphen are put in capitals one by one. -/
theorem pascalCase_append_hyphen (front behind : Text) :
    pascalCase (front ++ '-' :: behind) = pascalCase front ++ pascalCase behind := by
  rw [pascalCase, Text.splitOn_append, List.flatMap_append]
  rfl

/-- A name without hyphens is a single piece. -/
theorem pascalCase_of_hyphen_not_mem (h : '-' ∉ piece) : pascalCase piece = capitalize piece := by
  rw [pascalCase, Text.splitOn_of_not_mem h, List.flatMap_singleton]

/-- Behind its first character, a piece stays as it is. -/
theorem capitalize_append (hne : piece ≠ []) (behind : Text) :
    capitalize (piece ++ behind) = capitalize piece ++ behind := by
  cases piece with
  | nil => contradiction
  | cons c rest => simp [capitalize]

/-- Making a character small makes no hyphen of it. -/
theorem hyphen_not_mem_toLower {c : Char} (hc : '-' ≠ c) : '-' ∉ [c.toLower] := by
  intro hmem
  have hsame : c = '-' := eq_hyphen_of_toLower (List.mem_singleton.mp hmem).symm
  exact hc hsame.symm

/-- A capital of ASCII is what its small letter becomes in upper case. -/
theorem upperChar_toLower_of_isUpper {c : Char} (h : c.isUpper = true) :
    Text.upperChar c.toLower = [c] := by
  have hascii := Text.toNat_lt_of_isAlphanum (Text.isAlphanum_of_isUpper h)
  have hback : c.toLower.toNat < 128 ∧ c.toLower.toUpper = c :=
    Text.forall_ascii (p := fun c => c.isUpper = true →
        c.toLower.toNat < 128 ∧ c.toLower.toUpper = c)
      (by decide) hascii h
  rw [Text.upperChar_of_ascii hback.1, hback.2]

/-- A character in upper case is found again after it was made small. -/
theorem upperChar_toLower {c : Char} (h : Text.upperChar c = [c]) :
    Text.upperChar c.toLower = [c] := by
  by_cases hupper : c.isUpper = true
  · exact upperChar_toLower_of_isUpper hupper
  · rw [toLower_of_not_isUpper hupper, h]

/-- What stands behind the beginning of a piece is found again after it was hyphenated: a capital
begins a piece, and is put in upper case there; all else goes on with the piece in front of it. -/
theorem pascalCase_append_flatMap_hyphenate (hne : piece ≠ []) (hpiece : '-' ∉ piece)
    (ht : '-' ∉ t) : pascalCase (piece ++ t.flatMap hyphenate) = capitalize piece ++ t := by
  induction t generalizing piece with
  | nil => rw [List.flatMap_nil, List.append_nil, List.append_nil,
      pascalCase_of_hyphen_not_mem hpiece]
  | cons c rest ih =>
      obtain ⟨hc, hrest⟩ : '-' ≠ c ∧ '-' ∉ rest := by simpa using ht
      rw [List.flatMap_cons, hyphenate]
      by_cases hupper : c.isUpper = true
      · rw [if_pos hupper]
        calc pascalCase (piece ++ (['-', c.toLower] ++ rest.flatMap hyphenate))
            = pascalCase piece ++ pascalCase ([c.toLower] ++ rest.flatMap hyphenate) :=
              pascalCase_append_hyphen piece _
          _ = capitalize piece ++ (capitalize [c.toLower] ++ rest) := by
              rw [pascalCase_of_hyphen_not_mem hpiece,
                ih (by simp) (hyphen_not_mem_toLower hc) hrest]
          _ = capitalize piece ++ c :: rest := by
              rw [capitalize, upperChar_toLower_of_isUpper hupper]
              rfl
      · -- The piece in front grows until a capital ends it.
        have hlonger : '-' ∉ piece ++ [c] := by simp [hpiece, hc]
        rw [if_neg hupper]
        calc pascalCase (piece ++ ([c] ++ rest.flatMap hyphenate))
            = pascalCase ((piece ++ [c]) ++ rest.flatMap hyphenate) := by
              rw [List.append_assoc]
          _ = capitalize (piece ++ [c]) ++ rest := ih (by simp) hlonger hrest
          _ = capitalize piece ++ c :: rest := by
              rw [capitalize_append hne, List.append_assoc]
              rfl

/-- **A form in capitals is found again after it was hyphenated.** -/
theorem IsCapitalForm.pascalCase_kebabCase (h : IsCapitalForm t) :
    pascalCase (kebabCase t) = t := by
  cases t with
  | nil => rfl
  | cons c rest =>
      obtain ⟨hc, hrest⟩ : '-' ≠ c ∧ '-' ∉ rest := by simpa using h.hyphen
      have hupper : Text.upperChar c = [c] := h.head c rfl
      calc pascalCase (kebabCase (c :: rest))
          = capitalize [c.toLower] ++ rest :=
            pascalCase_append_flatMap_hyphenate (by simp) (hyphen_not_mem_toLower hc) hrest
        _ = c :: rest := by
            rw [capitalize, upperChar_toLower hupper]
            rfl

/-- A text is what some name becomes in capitals if and only if it is a form in capitals. -/
theorem exists_pascalCase_eq_iff : (∃ name, pascalCase name = t) ↔ IsCapitalForm t := by
  constructor
  · rintro ⟨name, rfl⟩
    exact isCapitalForm_pascalCase name
  · intro h
    exact ⟨kebabCase t, h.pascalCase_kebabCase⟩

/-- **The texts that are found again after they were hyphenated are the forms in capitals.** -/
theorem pascalCase_kebabCase_iff : pascalCase (kebabCase t) = t ↔ IsCapitalForm t := by
  constructor
  · intro h
    exact exists_pascalCase_eq_iff.mp ⟨kebabCase t, h⟩
  · exact IsCapitalForm.pascalCase_kebabCase

/-- **Hyphenating the form in capitals gives each name a canonical name.**  The canonical name has
the form in capitals of the name, so it is its own canonical name, and names with the same constant
are those with the same canonical name.  Of all texts, only forms in capitals are found again after
they were hyphenated. -/
theorem kebabCase_pascalCase_canonical (name other : Text) :
    pascalCase (kebabCase (pascalCase name)) = pascalCase name ∧
    (constant name = constant other ↔
      kebabCase (constant name) = kebabCase (constant other)) ∧
    kebabCase (pascalCase (kebabCase (pascalCase name))) = kebabCase (pascalCase name) ∧
    ∀ t, pascalCase (kebabCase t) = t ↔ IsCapitalForm t := by
  have hback : ∀ name, pascalCase (kebabCase (pascalCase name)) = pascalCase name := by
    intro name
    exact (isCapitalForm_pascalCase name).pascalCase_kebabCase
  have hconstant : constant name = constant other ↔
      kebabCase (constant name) = kebabCase (constant other) := by
    constructor
    · intro hsame
      rw [hsame]
    · intro hsame
      calc constant name
          = pascalCase (kebabCase (constant name)) := (hback name).symm
        _ = pascalCase (kebabCase (constant other)) := by rw [hsame]
        _ = constant other := hback other
  refine ⟨hback name, hconstant, ?_, fun t => pascalCase_kebabCase_iff⟩
  rw [hback name]

/-- Upper case makes two pieces of the first one, and the second hyphen has no letter behind it. -/
example : kebabCase (pascalCase "ßa-b-2") = ("s-sa-b2" : Text) := by
  decide +kernel

end TypedStyle.Naming
