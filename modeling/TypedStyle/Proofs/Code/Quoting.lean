import TypedStyle.Code.Token
import TypedStyle.Proofs.Text.Characters
import TypedStyle.Text.Quoted
/-!
# Reading string literals

The string literal of a text is read as one string up to its closing quote, whatever stands behind
it.  A character that is spelled by its number has no more than six digits, which number it.  None
of this depends on which of the other characters are numbered, so the spelling has that choice as
a parameter here.

* `ofDigits_toDigits` — digits in base sixteen denote the number that they are made of;
* `Text.Quoted.Denotes` — the grammar of what stands between the quotes of a literal;
* `denotes_spellWith` — the spelling of a text says the text;
* `behindString?_of_denotes` — what stands behind a literal by the grammar.
-/

namespace TypedStyle.Text.Quoted

/-- How one character is written where `numbered` decides which characters are numbered, of those
that have no escape of two characters. -/
def escapeWith (numbered : Char → Bool) (c : Char) : Text :=
  if c = '\x00' then "\\0"
  else if c = '\t' then "\\t"
  else if c = '\r' then "\\r"
  else if c = '\n' then "\\n"
  else if c = '"' then "\\\""
  else if c = '\\' then "\\\\"
  else if numbered c then byNumber c
  else [c]

/-- What stands between the quotes of the literal of a text. -/
def spellWith (numbered : Char → Bool) (t : Text) : Text :=
  t.flatMap (escapeWith numbered)

/-- The characters that a literal numbers. -/
def isNumbered (c : Char) : Bool :=
  joining.holds c || shapeless.holds c

/-- The escapes are those in which a character is numbered exactly when the tables say so. -/
theorem escape_eq_escapeWith (c : Char) : escape c = escapeWith isNumbered c :=
  rfl

/-- The character that an escape of two characters stands for, by the second of them. -/
def shortEscape? : Char → Option Char
  | '0' => some '\x00'
  | 't' => some '\t'
  | 'r' => some '\r'
  | 'n' => some '\n'
  | '"' => some '"'
  | '\\' => some '\\'
  | _ => none

/-- **What the inside of a literal says**, by its grammar.  A character other than a quote, a
backslash and a return says itself, and an escape says the character that it names or numbers. -/
inductive Denotes : Text → Text → Prop
  | nothing : Denotes [] []
  | itself {c : Char} {body t : Text} (hc : c ∉ ['"', '\\', '\r']) (h : Denotes body t) :
      Denotes (c :: body) (c :: t)
  | short {e c : Char} {body t : Text} (he : shortEscape? e = some c) (h : Denotes body t) :
      Denotes ('\\' :: e :: body) (c :: t)
  | number {digits : Text} {c : Char} {body t : Text}
      (hdigits : ∀ d ∈ digits, Code.isHexDigit d = true)
      (hnumber : Code.isCharacterNumber digits = true) (hc : Code.ofDigits 16 digits = c.toNat)
      (h : Denotes body t) : Denotes ('\\' :: 'u' :: '\x7b' :: (digits ++ '\x7d' :: body)) (c :: t)

end TypedStyle.Text.Quoted

namespace TypedStyle.Code

/-! ## Digits in base sixteen -/

/-- A digit below sixteen is written as a hexadecimal digit with its value. -/
theorem hexDigitValue_digitChar {n : Nat} (h : n < 16) :
    isHexDigit n.digitChar = true ∧ hexDigitValue n.digitChar = n := by
  have hall : ∀ d < 16,
      isHexDigit (Nat.digitChar d) = true ∧ hexDigitValue (Nat.digitChar d) = d := by
    decide
  exact hall n h

/-- Every digit of a number is one. -/
theorem isHexDigit_of_mem_toDigits {n : Nat} :
    ∀ c ∈ Nat.toDigits 16 n, isHexDigit c = true := by
  induction n using Nat.strongRecOn with
  | ind n ih =>
      intro c hc
      by_cases hsmall : n < 16
      · rw [Nat.toDigits_of_lt_base hsmall] at hc
        obtain rfl := List.mem_singleton.mp hc
        exact (hexDigitValue_digitChar hsmall).1
      · rw [Nat.toDigits_of_base_le (by omega) (by omega)] at hc
        rcases List.mem_append.mp hc with hfront | hlast
        · exact ih (n / 16) (by omega) c hfront
        · obtain rfl := List.mem_singleton.mp hlast
          exact (hexDigitValue_digitChar (Nat.mod_lt n (by omega))).1

/-- **Digits denote the number that they are made of.** -/
theorem ofDigits_toDigits (n : Nat) : ofDigits 16 (Nat.toDigits 16 n) = n := by
  induction n using Nat.strongRecOn with
  | ind n ih =>
      by_cases hsmall : n < 16
      · rw [Nat.toDigits_of_lt_base hsmall, ofDigits]
        simp [(hexDigitValue_digitChar hsmall).2]
      · have hfront := ih (n / 16) (by omega)
        rw [ofDigits] at hfront
        rw [Nat.toDigits_of_base_le (by omega) (by omega), ofDigits, List.foldl_append, hfront]
        simp [(hexDigitValue_digitChar (Nat.mod_lt n (by omega : 0 < 16))).2, Nat.div_add_mod]

/-- The number of a character is the number of one. -/
theorem isCharacterNumber_toDigits (c : Char) :
    isCharacterNumber (Nat.toDigits 16 c.toNat) = true := by
  have hdigits := isHexDigit_of_mem_toDigits (n := c.toNat)
  have hfilter : (Nat.toDigits 16 c.toNat).filter isHexDigit = Nat.toDigits 16 c.toNat :=
    List.filter_eq_self.mpr hdigits
  have hlength : (Nat.toDigits 16 c.toNat).length ≤ 6 := by
    rw [Nat.length_toDigits_le_iff (by omega) (by omega)]
    have hvalid : c.toNat.isValidChar := c.valid
    unfold Nat.isValidChar at hvalid
    omega
  have hhead : (Nat.toDigits 16 c.toNat).head?.any isHexDigit = true := by
    obtain ⟨first, others, hcons⟩ := List.exists_cons_of_ne_nil (Nat.toDigits_ne_nil (b := 16))
    rw [hcons]
    exact hdigits first (hcons ▸ List.mem_cons_self)
  have hall : (Nat.toDigits 16 c.toNat).all (fun d => isHexDigit d || d = '_') = true :=
    List.all_eq_true.mpr fun d hd => by simp [hdigits d hd]
  have hvalid : c.toNat.isValidChar := c.valid
  rw [isCharacterNumber, hfilter, hall, hhead, ofDigits_toDigits]
  simp [hvalid, Nat.lt_succ_of_le hlength]

/-! ## Spellings -/

section Spellings

open Text.Quoted

variable {numbered : Char → Bool}

/-- A character has an escape of two characters, or it is spelled by its number or by itself. -/
theorem escapeWith_cases (numbered : Char → Bool) (c : Char) :
    (c = '\x00' ∨ c = '\t' ∨ c = '\r' ∨ c = '\n' ∨ c = '"' ∨ c = '\\') ∨
      (escapeWith numbered c =
        '\\' :: 'u' :: '\x7b' :: (Nat.toDigits 16 c.toNat ++ ['\x7d'])) ∨
      (escapeWith numbered c = [c] ∧ c ∉ ['\x00', '\r', '\n', '"', '\\']) := by
  by_cases hshort : c = '\x00' ∨ c = '\t' ∨ c = '\r' ∨ c = '\n' ∨ c = '"' ∨ c = '\\'
  · exact .inl hshort
  · simp only [not_or] at hshort
    obtain ⟨hnull, htab, hreturn, hline, hquote, hslash⟩ := hshort
    rw [escapeWith, if_neg hnull, if_neg htab, if_neg hreturn, if_neg hline, if_neg hquote,
      if_neg hslash]
    split
    · exact .inr (.inl (by simp [byNumber, Text.ofString]))
    · exact .inr (.inr ⟨rfl, by simp [hnull, hreturn, hline, hquote, hslash]⟩)

/-- A character is spelled by itself, or by the characters of escapes and the digits of a number. -/
theorem mem_escape {c d : Char} (h : d ∈ Text.Quoted.escape c) :
    d = c ∨ d ∈ Text.ofString "\\0trnu\x7b\x7d" ∨ isHexDigit d = true := by
  rw [escape_eq_escapeWith] at h
  rcases escapeWith_cases isNumbered c with hshort | hnumber | ⟨hself, -⟩
  · -- The escapes of two characters are computed.
    rcases hshort with rfl | rfl | rfl | rfl | rfl | rfl <;>
    exact Text.forall_mem_of_all (p := fun d => d = _ ∨ d ∈ Text.ofString "\\0trnu\x7b\x7d" ∨
      isHexDigit d = true) (by decide) d h
  · have hpieces : ∀ e ∈ ['\\', 'u', '\x7b', '\x7d'],
        e ∈ Text.ofString "\\0trnu\x7b\x7d" := Text.forall_mem_of_all (by decide)
    rw [hnumber] at h
    have hcases : d ∈ ['\\', 'u', '\x7b', '\x7d'] ∨ d ∈ Nat.toDigits 16 c.toNat := by
      simpa [or_assoc, or_comm, or_left_comm] using h
    exact .inr (hcases.imp (hpieces d) (isHexDigit_of_mem_toDigits d))
  · rw [hself] at h
    exact .inl (List.mem_singleton.mp h)

/-- The spelling of a character says the character. -/
theorem denotes_escapeWith {body t : Text} (c : Char) (h : Denotes body t) :
    Denotes (escapeWith numbered c ++ body) (c :: t) := by
  rcases escapeWith_cases numbered c with hshort | hnumber | ⟨hself, hc⟩
  · -- The escapes of two characters are computed.
    rcases hshort with rfl | rfl | rfl | rfl | rfl | rfl <;> exact .short rfl h
  · rw [hnumber]
    simpa using Denotes.number isHexDigit_of_mem_toDigits (isCharacterNumber_toDigits c)
      (ofDigits_toDigits c.toNat) h
  · rw [hself]
    exact .itself (by simp_all) h

/-- **The spelling of a text says the text.** -/
theorem denotes_spellWith (numbered : Char → Bool) (t : Text) :
    Denotes (spellWith numbered t) t := by
  induction t with
  | nil => exact .nothing
  | cons c t ih => exact denotes_escapeWith c ih

end Spellings

namespace Spelling

/-! ## Strings -/

/-- The number of a character is read up to its brace. -/
theorem behindEscape?_number {digits : Text} (hdigits : ∀ d ∈ digits, isHexDigit d = true)
    (hnumber : isCharacterNumber digits = true) (t : Text) :
    behindEscape? .characters ('u' :: '\x7b' :: (digits ++ '\x7d' :: t)) = some t := by
  have hne : ∀ d ∈ digits, decide (d ≠ '\x7d') = true := by
    intro d hd
    have hdigit := hdigits d hd
    refine decide_eq_true ?_
    rintro rfl
    contradiction
  have htake : (digits ++ '\x7d' :: t).takeWhile (· ≠ '\x7d') = digits := by
    rw [List.takeWhile_append_of_pos hne]
    simp
  have hdrop : (digits ++ '\x7d' :: t).dropWhile (· ≠ '\x7d') = '\x7d' :: t := by
    rw [List.dropWhile_append_of_pos hne]
    simp
  rw [behindEscape?, htake, hdrop, hnumber]
  rfl

/-- **A literal ends at its closing quote**, where it says something by the grammar. -/
theorem behindString?_of_denotes {body t : Text} (h : Text.Quoted.Denotes body t) (behind : Text)
    {bound : Nat} (hbound : t.length ≤ bound) :
    behindString? .characters bound (body ++ '"' :: behind) = some behind := by
  -- Each constructor of the grammar is one step of the scanner.
  induction h generalizing bound with
  | nothing => cases bound <;> rfl
  | @itself c body t hc h ih =>
      obtain ⟨steps, rfl⟩ : ∃ steps, bound = steps + 1 :=
        ⟨bound - 1, by simp only [List.length_cons] at hbound; omega⟩
      rw [← ih (by simpa using hbound), List.cons_append]
      conv => lhs; unfold behindString?
      split <;> simp_all [isPlain]
  | @short e c body t he h ih =>
      obtain ⟨steps, rfl⟩ : ∃ steps, bound = steps + 1 :=
        ⟨bound - 1, by simp only [List.length_cons] at hbound; omega⟩
      rw [← ih (by simpa using hbound)]
      unfold Text.Quoted.shortEscape? at he
      split at he <;> first | rfl | simp at he
  | @number digits c body t hdigits hnumber hc h ih =>
      obtain ⟨steps, rfl⟩ : ∃ steps, bound = steps + 1 :=
        ⟨bound - 1, by simp only [List.length_cons] at hbound; omega⟩
      have hstep : ∀ rest, behindString? .characters (steps + 1) ('\\' :: 'u' :: rest) =
          (behindEscape? .characters ('u' :: rest)).bind (behindString? .characters steps) :=
        fun rest => rfl
      simp only [List.cons_append, List.append_assoc]
      rw [hstep, behindEscape?_number hdigits hnumber]
      exact ih (by simpa using hbound)

/-- The literal of a text ends at its closing quote. -/
theorem behindString?_quote (t behind : Text) {bound : Nat} (hbound : t.length ≤ bound) :
    behindString? .characters bound (t.flatMap Text.Quoted.escape ++ '"' :: behind) =
      some behind :=
  behindString?_of_denotes (denotes_spellWith Text.Quoted.isNumbered t) behind hbound

/-- What says a text is not shorter than the text. -/
theorem length_le_of_denotes {body t : Text} (h : Text.Quoted.Denotes body t) :
    t.length ≤ body.length := by
  induction h <;> simp only [List.length_cons, List.length_append, List.length_nil] at * <;> omega

/-- The literal of a text is not shorter than the text. -/
theorem length_le_quote (t : Text) : t.length ≤ (t.flatMap Text.Quoted.escape).length :=
  length_le_of_denotes (denotes_spellWith Text.Quoted.isNumbered t)

end Spelling

end TypedStyle.Code
