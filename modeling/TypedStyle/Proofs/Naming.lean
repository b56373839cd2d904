import TypedStyle.Naming
import TypedStyle.Proofs.Text.Characters
import TypedStyle.Proofs.Text.Splitting
import TypedStyle.Proofs.Text.UpperCase
/-!
# Hyphenated names and names in capitals

A hyphenated name is made of pieces, each a small letter with small letters and digits behind it.
Its form in capitals is an identifier that begins with a capital letter, and the name can be read
off it: a capital stands where a piece begins.  Of names without capitals, those can be read off
that have something in front of the first hyphen and a small letter behind each.

* `isCapitalized_pascalCase` — the form in capitals of a hyphenated name is an identifier;
* `kebabCase_pascalCase_iff` — which names are read off their form in capitals;
* `reversible_names_told_apart` — no two of these have the same form in capitals.
-/

namespace TypedStyle

namespace Naming

/-! ## Hyphenated names -/

/-- Is the character a small letter, a digit or a hyphen? -/
def isKebabChar (c : Char) : Bool :=
  c.isLower || c.isDigit || c = '-'

/-- Is the text a small letter with small letters and digits behind it? -/
def isPiece : Text → Bool
  | [] => false
  | c :: rest => c.isLower && rest.all fun d => d.isLower || d.isDigit

/-- The name is made of pieces with hyphens between them. -/
def IsHyphenated (name : Text) : Prop :=
  ∀ piece ∈ Text.splitOn '-' name, isPiece piece = true

instance (name : Text) : Decidable (IsHyphenated name) :=
  inferInstanceAs (Decidable (∀ piece ∈ Text.splitOn '-' name, isPiece piece = true))

/-- The text is in ASCII, without capitals. -/
def IsUncapitalized (t : Text) : Prop :=
  ∀ c ∈ t, c.toNat < 128 ∧ c.isUpper = false

instance (t : Text) : Decidable (IsUncapitalized t) :=
  List.decidableBAll (fun c : Char => c.toNat < 128 ∧ c.isUpper = false) t

/-- Does the text begin with a small letter? -/
def startsSmall (t : Text) : Bool :=
  t.head?.any Char.isLower

/-- The name is empty, or something stands in front of its first hyphen and a small letter behind
each. -/
def IsReversible (name : Text) : Prop :=
  name = [] ∨ (Text.splitOn '-' name).head? ≠ some [] ∧
    ∀ piece ∈ (Text.splitOn '-' name).tail, startsSmall piece = true

instance (name : Text) : Decidable (IsReversible name) :=
  inferInstanceAs (Decidable (name = [] ∨ (Text.splitOn '-' name).head? ≠ some [] ∧
    ∀ piece ∈ (Text.splitOn '-' name).tail, startsSmall piece = true))

/-- What is read off the form in capitals of a piece that stood behind a hyphen. -/
def reread (piece : Text) : Text :=
  if startsSmall piece then '-' :: piece else piece

/-- The text begins with a capital letter, and has letters and digits behind it. -/
structure IsCapitalized (t : Text) : Prop where
  head : ∃ c ∈ t.head?, c.isUpper = true
  all : ∀ c ∈ t, c.isAlphanum = true

variable {name : Text}

/-- A piece begins with a small letter. -/
theorem exists_of_isPiece {piece : Text} (h : isPiece piece = true) :
    ∃ c rest, piece = c :: rest ∧ c.isLower = true ∧
      ∀ d ∈ rest, (d.isLower || d.isDigit) = true := by
  cases piece with
  | nil => contradiction
  | cons c rest =>
      obtain ⟨hc, hrest⟩ := Bool.and_eq_true_iff.mp h
      exact ⟨c, rest, rfl, hc, List.all_eq_true.mp hrest⟩

/-! ## Letters -/

/-- A small letter becomes a capital, and the capital is that of no other letter. -/
theorem toUpper_of_isLower {c : Char} (h : c.isLower = true) :
    c.toUpper.isUpper = true ∧ c.toUpper.toLower = c ∧ c.isUpper = false ∧ c.toLower = c := by
  have hascii := Text.toNat_lt_of_isAlphanum (Text.isAlphanum_of_isLower h)
  exact Text.forall_ascii (p := fun c => c.isLower = true →
      c.toUpper.isUpper = true ∧ c.toUpper.toLower = c ∧ c.isUpper = false ∧ c.toLower = c)
    (by decide) hascii h

/-- Only capitals have small letters of their own. -/
theorem toLower_of_not_isUpper {c : Char} (h : ¬ c.isUpper = true) : c.toLower = c :=
  dif_neg fun hupper => h (decide_eq_true hupper)

/-- No other character becomes a hyphen when it is made small. -/
theorem eq_hyphen_of_toLower {c : Char} (h : c.toLower = '-') : c = '-' := by
  by_cases hupper : c.isUpper = true
  · exact Text.forall_ascii (p := fun c => c.toLower = '-' → c = '-') (by decide)
      (Text.toNat_lt_of_isAlphanum (Text.isAlphanum_of_isUpper hupper)) h
  · rwa [toLower_of_not_isUpper hupper] at h

/-- No digit is a capital. -/
theorem not_isUpper_of_isDigit {c : Char} (h : c.isDigit = true) : c.isUpper = false := by
  have hascii := Text.toNat_lt_of_isAlphanum (Text.isAlphanum_of_isDigit h)
  exact Text.forall_ascii (p := fun c => c.isDigit = true → c.isUpper = false)
    (by decide) hascii h

/-- In ASCII capitalizing a text changes its first character alone. -/
theorem capitalize_of_ascii {c : Char} (hascii : c.toNat < 128) (rest : Text) :
    capitalize (c :: rest) = c.toUpper :: rest := by
  rw [capitalize, Text.upperChar_of_ascii hascii]
  rfl

/-! ## Characters of a name -/

/-- The form in capitals of a piece of small letters and digits has letters and digits only. -/
theorem isAlphanum_of_mem_capitalize {piece : Text}
    (h : ∀ c ∈ piece, (c.isLower || c.isDigit) = true) :
    ∀ c ∈ capitalize piece, c.isAlphanum = true := by
  have hchar : ∀ c : Char, (c.isLower || c.isDigit) = true → c.isAlphanum = true ∧
      c.toUpper.isAlphanum = true := by
    intro c hc
    have halphanum := Text.isAlphanum_of_isLower_or_isDigit hc
    exact ⟨halphanum, Text.forall_ascii
      (p := fun c => c.isAlphanum = true → c.toUpper.isAlphanum = true)
      (by decide) (Text.toNat_lt_of_isAlphanum halphanum) halphanum⟩
  cases piece with
  | nil => simp [capitalize]
  | cons first rest =>
      obtain ⟨hfirst, hrest⟩ := List.forall_mem_cons.mp h
      rw [capitalize,
        Text.upperChar_of_ascii (Text.toNat_lt_of_isAlphanum (hchar first hfirst).1)]
      exact List.forall_mem_cons.mpr ⟨(hchar first hfirst).2, fun c hc => (hchar c (hrest c hc)).1⟩

/-- The form in capitals of a name of small letters, digits and hyphens has letters and digits
only. -/
theorem isAlphanum_of_mem_pascalCase (h : ∀ c ∈ name, isKebabChar c = true) :
    ∀ c ∈ pascalCase name, c.isAlphanum = true := by
  intro c hc
  obtain ⟨piece, hpiece, hmem⟩ := List.mem_flatMap.mp hc
  apply isAlphanum_of_mem_capitalize _ c hmem
  intro d hd
  have hchar := h d (Text.mem_of_mem_splitOn hpiece hd)
  have hne : d ≠ '-' := by
    rintro rfl
    exact Text.not_mem_of_mem_splitOn hpiece hd
  simpa [isKebabChar, hne] using hchar

/-- A hyphenated name is made of small letters, digits and hyphens. -/
theorem isKebabChar_of_isHyphenated (h : IsHyphenated name) :
    ∀ c ∈ name, isKebabChar c = true := by
  intro c hc
  rcases Text.eq_or_mem_splitOn '-' hc with rfl | ⟨piece, hpiece, hmem⟩
  · rfl
  · obtain ⟨first, rest, rfl, hfirst, hrest⟩ := exists_of_isPiece (h piece hpiece)
    rcases List.mem_cons.mp hmem with rfl | hbehind
    · simp [isKebabChar, hfirst]
    · have hsmall := hrest c hbehind
      simp only [isKebabChar, hsmall, Bool.true_or]

/-- A character without case stays in the form in capitals, unless it is a hyphen. -/
theorem mem_pascalCase {c : Char} (hmem : c ∈ name) (hupper : Text.upperChar c = [c])
    (hne : c ≠ '-') : c ∈ pascalCase name := by
  rcases Text.eq_or_mem_splitOn '-' hmem with heq | ⟨piece, hpiece, hc⟩
  · exact absurd heq hne
  · refine List.mem_flatMap.mpr ⟨piece, hpiece, ?_⟩
    cases piece with
    | nil => contradiction
    | cons first rest =>
        rw [capitalize]
        rcases List.mem_cons.mp hc with rfl | hrest
        · simp [hupper]
        · exact List.mem_append_right _ hrest

/-- A character of ASCII in the form in capitals is one of the name, unless it is a capital; and it
is no hyphen. -/
theorem mem_of_mem_pascalCase {c : Char} (hmem : c ∈ pascalCase name) (hascii : c.toNat < 128)
    (hupper : c.isUpper = false) : c ∈ name ∧ c ≠ '-' := by
  obtain ⟨piece, hpiece, hin⟩ := List.mem_flatMap.mp hmem
  suffices hc : c ∈ piece by
    refine ⟨Text.mem_of_mem_splitOn hpiece hc, ?_⟩
    rintro rfl
    exact Text.not_mem_of_mem_splitOn hpiece hc
  cases piece with
  | nil => contradiction
  | cons first rest =>
      rcases List.mem_append.mp hin with hfirst | hrest
      · exact List.mem_cons.mpr (.inl (Text.eq_of_mem_upperChar hfirst hascii hupper))
      · exact List.mem_cons_of_mem first hrest

/-- No hyphen is left in the form in capitals. -/
theorem hyphen_not_mem_pascalCase (name : Text) : '-' ∉ pascalCase name := fun hmem =>
  (mem_of_mem_pascalCase hmem (by decide) (by decide)).2 rfl

/-- The form in capitals starts with a character in upper case. -/
theorem exists_upperChar_of_head?_pascalCase {c : Char} (h : (pascalCase name).head? = some c) :
    ∃ first, c ∈ Text.upperChar first := by
  unfold pascalCase at h
  generalize Text.splitOn '-' name = pieces at h
  induction pieces with
  | nil => contradiction
  | cons piece pieces ih =>
      cases piece with
      | nil => exact ih h
      | cons first rest =>
          rw [List.flatMap_cons, capitalize] at h
          cases hupper : Text.upperChar first with
          | nil => exact absurd hupper (Text.upperChar_ne_nil first)
          | cons d others =>
              rw [hupper] at h
              obtain rfl : d = c := Option.some.inj h
              exact ⟨first, by rw [hupper]; exact List.mem_cons_self⟩

/-- **The form in capitals starts with no small letter of ASCII.** -/
theorem isLower_of_head?_pascalCase {c : Char} (h : (pascalCase name).head? = some c) :
    c.isLower = false := by
  obtain ⟨first, hfirst⟩ := exists_upperChar_of_head?_pascalCase h
  exact Text.isLower_of_mem_upperChar hfirst

/-- What holds of all small letters, digits and hyphens can be checked one by one. -/
theorem forall_isKebabChar {p : Char → Prop}
    (h : ∀ n : Fin 128, isKebabChar (Char.ofNat n) = true → p (Char.ofNat n)) {c : Char}
    (hc : isKebabChar c = true) : p c := by
  have hascii : c.toNat < 128 := by
    simp only [isKebabChar, Bool.or_eq_true, decide_eq_true_eq] at hc
    rcases hc with (hlower | hdigit) | rfl
    · exact Text.toNat_lt_of_isAlphanum (Text.isAlphanum_of_isLower hlower)
    · exact Text.toNat_lt_of_isAlphanum (Text.isAlphanum_of_isDigit hdigit)
    · decide
  exact Text.forall_ascii (p := fun c => isKebabChar c = true → p c) h hascii hc

/-- **The form in capitals of a hyphenated name begins with a capital**, and has letters and digits
behind it. -/
theorem isCapitalized_pascalCase (h : IsHyphenated name) : IsCapitalized (pascalCase name) := by
  refine ⟨?_, isAlphanum_of_mem_pascalCase (isKebabChar_of_isHyphenated h)⟩
  unfold IsHyphenated at h
  rw [pascalCase]
  cases hpieces : Text.splitOn '-' name with
  | nil => exact absurd hpieces (Text.splitOn_ne_nil '-' name)
  | cons first pieces =>
      rw [hpieces] at h
      obtain ⟨c, rest, rfl, hc, -⟩ := exists_of_isPiece (h first List.mem_cons_self)
      have hascii := Text.toNat_lt_of_isAlphanum (Text.isAlphanum_of_isLower hc)
      rw [List.flatMap_cons, capitalize_of_ascii hascii]
      exact ⟨c.toUpper, rfl, (toUpper_of_isLower hc).1⟩

/-! ## Reading a name off its form in capitals -/

/-- Without capitals there is nothing to hyphenate. -/
theorem flatMap_hyphenate_of_not_isUpper {t : Text} (h : ∀ c ∈ t, c.isUpper = false) :
    t.flatMap hyphenate = t := by
  induction t with
  | nil => rfl
  | cons c rest ih =>
      obtain ⟨hc, hrest⟩ := List.forall_mem_cons.mp h
      simp [hyphenate, hc, ih hrest]

/-- A character of ASCII that is no capital is found again behind its form in capitals, with a
hyphen in front of it if it is a small letter. -/
theorem hyphenate_toUpper {c : Char} (hascii : c.toNat < 128) (hupper : c.isUpper = false) :
    c.toUpper.toLower = c ∧ hyphenate c.toUpper = if c.isLower then ['-', c] else [c] :=
  Text.forall_ascii (p := fun c => c.isUpper = false →
      c.toUpper.toLower = c ∧ hyphenate c.toUpper = if c.isLower then ['-', c] else [c])
    (by decide) hascii hupper

/-- A piece is read off its form in capitals, and the hyphen in front of it is found if the piece
begins with a small letter. -/
theorem flatMap_hyphenate_capitalize {piece : Text} (h : IsUncapitalized piece) :
    (capitalize piece).flatMap hyphenate = reread piece := by
  cases piece with
  | nil => rfl
  | cons c rest =>
      obtain ⟨⟨hascii, hupper⟩, hrest⟩ := List.forall_mem_cons.mp h
      rw [capitalize_of_ascii hascii, List.flatMap_cons, (hyphenate_toUpper hascii hupper).2,
        flatMap_hyphenate_of_not_isUpper fun d hd => (hrest d hd).2, reread, startsSmall,
        List.head?_cons, Option.any_some]
      split <;> rfl

/-- Pieces with hyphens between them are the first piece, and each other one behind a hyphen. -/
theorem intercalate_hyphen (first : Text) (pieces : List Text) :
    List.intercalate ['-'] (first :: pieces) = first ++ pieces.flatMap ('-' :: ·) := by
  induction pieces generalizing first with
  | nil => simp
  | cons piece pieces ih => simp [ih]

/-- What is read off the capitals of a piece in front and of the pieces behind it. -/
theorem kebabCase_flatMap_capitalize {first : Text} {pieces : List Text} (hne : first ≠ [])
    (hfirst : IsUncapitalized first) (hpieces : ∀ piece ∈ pieces, IsUncapitalized piece) :
    kebabCase ((first :: pieces).flatMap capitalize) = first ++ pieces.flatMap reread := by
  obtain ⟨c, rest, rfl⟩ := List.exists_cons_of_ne_nil hne
  obtain ⟨⟨hascii, hupper⟩, hrest⟩ := List.forall_mem_cons.mp hfirst
  have hbehind : (pieces.flatMap capitalize).flatMap hyphenate = pieces.flatMap reread := by
    rw [List.flatMap_assoc, List.flatMap_def, List.flatMap_def]
    exact congrArg List.flatten (List.map_congr_left fun piece hpiece =>
      flatMap_hyphenate_capitalize (hpieces piece hpiece))
  rw [List.flatMap_cons, capitalize_of_ascii hascii, List.cons_append, kebabCase,
    List.flatMap_append, hbehind, flatMap_hyphenate_of_not_isUpper fun d hd => (hrest d hd).2,
    (hyphenate_toUpper hascii hupper).1]
  rfl

/-- Pieces that are read back are no longer than they were. -/
theorem length_flatMap_reread_le (pieces : List Text) :
    (pieces.flatMap reread).length ≤ (pieces.flatMap ('-' :: ·)).length := by
  induction pieces with
  | nil => exact Nat.le_refl _
  | cons piece pieces ih =>
      have hpiece : (reread piece).length ≤ piece.length + 1 := by
        unfold reread
        split <;> simp
      simp only [List.flatMap_cons, List.length_append, List.length_cons]
      omega

/-- All hyphens are found if and only if a small letter stands behind each.  None is found where
there was none, so one that is lost makes the whole too short. -/
theorem flatMap_reread_eq_iff {pieces : List Text} :
    pieces.flatMap reread = pieces.flatMap ('-' :: ·) ↔
      ∀ piece ∈ pieces, startsSmall piece = true := by
  induction pieces with
  | nil => simp
  | cons piece pieces ih =>
      rw [List.forall_mem_cons, ← ih, List.flatMap_cons, List.flatMap_cons, reread]
      cases hsmall : startsSmall piece with
      | true => simp
      | false =>
          refine ⟨fun heq => ?_, fun h => absurd h.1 Bool.false_ne_true⟩
          have hlength := congrArg List.length heq
          have hle := length_flatMap_reread_le pieces
          simp only [Bool.false_eq_true, if_false, List.length_append, List.length_cons] at hlength
          omega

/-- What is read off a form in capitals has no hyphen in front. -/
theorem head?_kebabCase_pascalCase_ne (name : Text) :
    (kebabCase (pascalCase name)).head? ≠ some '-' := by
  cases hcapitals : pascalCase name with
  | nil => simp [kebabCase]
  | cons c rest =>
      intro hhead
      obtain rfl : c = '-' := eq_hyphen_of_toLower (Option.some.inj hhead)
      exact hyphen_not_mem_pascalCase name (by simp [hcapitals])

/-- **Of names without capitals the reversible ones are read off their form in capitals**, and no
others. -/
theorem kebabCase_pascalCase_iff (h : IsUncapitalized name) :
    kebabCase (pascalCase name) = name ↔ IsReversible name := by
  have hjoined := Text.intercalate_splitOn '-' name
  have hpieces : ∀ piece ∈ Text.splitOn '-' name, IsUncapitalized piece :=
    fun piece hpiece c hc => h c (Text.mem_of_mem_splitOn hpiece hc)
  cases hcut : Text.splitOn '-' name with
  | nil => exact absurd hcut (Text.splitOn_ne_nil '-' name)
  | cons first others =>
      rw [hcut, intercalate_hyphen] at hjoined
      rw [hcut] at hpieces
      obtain ⟨hfirst, hothers⟩ := List.forall_mem_cons.mp hpieces
      rw [IsReversible, hcut, List.head?_cons, List.tail_cons, ne_eq, Option.some_inj]
      by_cases hempty : first = []
      · -- The name is empty, or the hyphen in front of it is lost.
        subst hempty
        simp only [not_true_eq_false, false_and, or_false]
        refine ⟨fun heq => ?_, fun hname => hname ▸ rfl⟩
        cases others with
        | nil => exact hjoined.symm
        | cons piece others =>
            refine absurd ?_ (head?_kebabCase_pascalCase_ne name)
            rw [heq, ← hjoined]
            rfl
      · have hne : name ≠ [] := by
          rw [← hjoined]
          simp [hempty]
        have hback : kebabCase (pascalCase name) = first ++ others.flatMap reread := by
          rw [pascalCase, hcut]
          exact kebabCase_flatMap_capitalize hempty hfirst hothers
        have hcancel : kebabCase (pascalCase name) = name ↔
            others.flatMap reread = others.flatMap ('-' :: ·) := by
          rw [hback, ← List.append_cancel_left_eq first (others.flatMap reread), hjoined]
        rw [hcancel, flatMap_reread_eq_iff]
        simp [hempty, hne]

/-- Reversible names with the same form in capitals are the same. -/
theorem eq_of_pascalCase_eq_of_isReversible {other : Text} (hname : IsUncapitalized name)
    (hother : IsUncapitalized other) (hback : IsReversible name) (hbackOther : IsReversible other)
    (h : pascalCase name = pascalCase other) : name = other := by
  rw [← (kebabCase_pascalCase_iff hname).mpr hback, h,
    (kebabCase_pascalCase_iff hother).mpr hbackOther]

/-- **The reversible names without capitals are those that are read off their form in capitals, and
they are told apart** by it, by the constant, by the type of the keywords and by the setter. -/
theorem reversible_names_told_apart (name : Text) (hname : IsUncapitalized name) :
    (kebabCase (pascalCase name) = name ↔ IsReversible name) ∧
    ∀ other, IsUncapitalized other → IsReversible name → IsReversible other → name ≠ other →
      pascalCase name ≠ pascalCase other ∧ constant name ≠ constant other ∧
        keywordType name ≠ keywordType other ∧ setter name ≠ setter other := by
  refine ⟨kebabCase_pascalCase_iff hname, fun other hother hback hbackOther hne => ?_⟩
  have hcapitals : pascalCase name ≠ pascalCase other := fun heq =>
    hne (eq_of_pascalCase_eq_of_isReversible hname hother hback hbackOther heq)
  exact ⟨hcapitals, hcapitals, fun heq => hcapitals (List.append_cancel_right heq),
    fun heq => hcapitals (List.append_cancel_left heq)⟩

/-- A digit in front of a name does no harm; behind a hyphen it hides the hyphen. -/
theorem view_names_told_apart :
    (kebabCase (pascalCase "3d-view") = ("3d-view" : Text) ∧
      kebabCase (pascalCase "view-3d") ≠ ("view-3d" : Text)) ∧
    pascalCase "3d-view" ≠ pascalCase "3dview" :=
  have hview := reversible_names_told_apart "3d-view" (by decide)
  ⟨⟨hview.1.mpr (by decide),
      mt (reversible_names_told_apart "view-3d" (by decide)).1.mp (by decide)⟩,
    (hview.2 "3dview" (by decide) (by decide) (by decide) (by decide)).1⟩

/-- A hyphenated name is reversible. -/
theorem isReversible_of_isHyphenated (h : IsHyphenated name) : IsReversible name := by
  have hsmall : ∀ piece ∈ Text.splitOn '-' name, startsSmall piece = true := by
    intro piece hpiece
    obtain ⟨c, rest, rfl, hc, -⟩ := exists_of_isPiece (h piece hpiece)
    exact hc
  refine .inr ⟨fun hempty => ?_, fun piece hpiece => hsmall piece (List.mem_of_mem_tail hpiece)⟩
  exact absurd (hsmall [] (List.mem_of_mem_head? hempty)) (by decide)

/-- A hyphenated name has no capitals. -/
theorem isUncapitalized_of_isHyphenated (h : IsHyphenated name) : IsUncapitalized name :=
  fun _ hc => forall_isKebabChar (p := fun c => c.toNat < 128 ∧ c.isUpper = false) (by decide)
    (isKebabChar_of_isHyphenated h _ hc)

/-- **A hyphenated name is read off its form in capitals.** -/
theorem kebabCase_pascalCase (h : IsHyphenated name) : kebabCase (pascalCase name) = name :=
  (kebabCase_pascalCase_iff (isUncapitalized_of_isHyphenated h)).mpr
    (isReversible_of_isHyphenated h)

/-- Hyphenated names with the same form in capitals are the same. -/
theorem eq_of_pascalCase_eq {other : Text} (hname : IsHyphenated name)
    (hother : IsHyphenated other) (h : pascalCase name = pascalCase other) : name = other :=
  eq_of_pascalCase_eq_of_isReversible (isUncapitalized_of_isHyphenated hname)
    (isUncapitalized_of_isHyphenated hother) (isReversible_of_isHyphenated hname)
    (isReversible_of_isHyphenated hother) h

/-! ## Hyphens in names in capitals -/

/-- A capital at the beginning gets a hyphen too. -/
theorem flatMap_hyphenate_of_isCapitalized {t : Text} (h : IsCapitalized t) :
    t.flatMap hyphenate = '-' :: kebabCase t := by
  obtain ⟨c, hc, hupper⟩ := h.head
  obtain ⟨rest, rfl⟩ := List.head?_eq_some_iff.mp hc
  rw [List.flatMap_cons, hyphenate, if_pos hupper]
  rfl

/-- **The capitals of Pascal case stand where the hyphens were**, and one at the start. -/
theorem flatMap_hyphenate_pascalCase (h : IsHyphenated name) :
    (pascalCase name).flatMap hyphenate = '-' :: name := by
  rw [flatMap_hyphenate_of_isCapitalized (isCapitalized_pascalCase h), kebabCase_pascalCase h]

/-- A number has no capitals. -/
theorem pascalCase_of_isDigit (h : ∀ c ∈ name, c.isDigit = true) : pascalCase name = name := by
  have hdigit : ∀ c : Char, c.isDigit = true → c.toNat < 128 ∧ c ≠ '-' ∧ c.toUpper = c := by
    intro c hc
    have hascii := Text.toNat_lt_of_isAlphanum (Text.isAlphanum_of_isDigit hc)
    exact ⟨hascii, Text.forall_ascii (p := fun c => c.isDigit = true → c ≠ '-' ∧ c.toUpper = c)
      (by decide) hascii hc⟩
  have hhyphen : '-' ∉ name := fun hmem => (hdigit _ (h _ hmem)).2.1 rfl
  rw [pascalCase, Text.splitOn_of_not_mem hhyphen]
  cases name with
  | nil => rfl
  | cons c rest =>
      obtain ⟨hascii, -, hupper⟩ := hdigit c (h c List.mem_cons_self)
      simp [capitalize, Text.upperChar_of_ascii hascii, hupper]

end Naming

end TypedStyle
