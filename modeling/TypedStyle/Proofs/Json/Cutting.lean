import TypedStyle.Json.Printer
import TypedStyle.Json.Token
/-!
# How written text is cut into tokens

Cutting a document looks at one token at a time, so it can be followed through a text that is put
together from pieces.  A piece that ends in a mark, a quote or a blank is cut in the same way
whatever stands behind it; one that ends in a word or a numeral needs something else than a word
behind it.

* `Cuts.append`, `CutsBefore.append` — how pieces are joined;
* `cuts_quotedString` — a string is written so that it is cut into one token, the string itself;
* `cutsBefore_word`, `isWordChar_of_isNumeral` — words and numerals.
-/

namespace TypedStyle.Json.Token

/-- The text is cut into the tokens, whatever stands behind it. -/
def Cuts (t : Text) (tokens : List Token) : Prop :=
  ∀ rest, tokens? (t ++ rest) = (tokens? rest).map (tokens ++ ·)

/-- The text does not start with a character that could go on with a word. -/
def Breaks (t : Text) : Prop :=
  ∀ c ∈ t.head?, isWordChar c = false

/-- The text is cut into the tokens, unless what stands behind it goes on with its last word. -/
def CutsBefore (t : Text) (tokens : List Token) : Prop :=
  ∀ rest, Breaks rest → tokens? (t ++ rest) = (tokens? rest).map (tokens ++ ·)

variable {a b t : Text} {s u : List Token} {c : Char} {rest behind : Text} {token : Token}

/-! ## Joining pieces -/

/-- What is cut in front of any text is cut in front of a text that breaks words. -/
theorem Cuts.before (h : Cuts t s) : CutsBefore t s :=
  fun rest _ => h rest

theorem cuts_nil : Cuts [] [] := by
  intro rest
  simp

private theorem map_append_append (found : Option (List Token)) :
    (found.map (u ++ ·)).map (s ++ ·) = found.map (s ++ u ++ ·) := by
  simp [Function.comp_def, List.append_assoc]

/-- **Pieces in a row are cut one by one.** -/
theorem Cuts.append (ha : Cuts a s) (hb : Cuts b u) : Cuts (a ++ b) (s ++ u) := by
  intro rest
  rw [List.append_assoc, ha, hb, map_append_append]

/-- So they are where the last one is cut only in front of a text that breaks words. -/
theorem Cuts.append_before (ha : Cuts a s) (hb : CutsBefore b u) :
    CutsBefore (a ++ b) (s ++ u) := by
  intro rest hrest
  rw [List.append_assoc, ha, hb rest hrest, map_append_append]

/-- A text breaks words if its first character does. -/
theorem breaks_cons (hc : isWordChar c = false) (t : Text) : Breaks (c :: t) := by
  intro d hd
  obtain rfl : c = d := Option.some.inj hd
  exact hc

/-- A text that breaks words still does when something is added to it, unless it was empty. -/
theorem Breaks.append (hb : Breaks b) (hne : b ≠ []) (rest : Text) : Breaks (b ++ rest) := by
  cases b with
  | nil => exact absurd rfl hne
  | cons c b => exact hb

/-- A piece that may end in a word is followed by one that breaks it off. -/
theorem CutsBefore.append (ha : CutsBefore a s) (hb : Cuts b u) (hbreaks : Breaks b)
    (hne : b ≠ []) : Cuts (a ++ b) (s ++ u) := by
  intro rest
  rw [List.append_assoc, ha _ (hbreaks.append hne rest), hb, map_append_append]

/-! ## Blanks and marks -/

/-- A blank does not go on with a word. -/
theorem isWordChar_of_isBlank (hc : isBlank c = true) : isWordChar c = false := by
  have hchar : c = ' ' ∨ c = '\t' ∨ c = '\n' ∨ c = '\r' := by
    simpa [isBlank, or_assoc] using hc
  rcases hchar with rfl | rfl | rfl | rfl <;> rfl

/-- A blank is no token. -/
theorem cuts_blank (hc : isBlank c = true) : Cuts [c] [] := by
  intro rest
  show tokens? (c :: rest) = _
  rw [tokens?, if_pos hc]
  simp

/-- Blanks are passed over. -/
theorem cuts_blanks (h : ∀ c ∈ t, isBlank c = true) : Cuts t [] := by
  induction t with
  | nil => exact cuts_nil
  | cons c t ih =>
      have hfirst : Cuts [c] [] := cuts_blank (h c List.mem_cons_self)
      have hothers : Cuts t [] := ih fun d hd => h d (List.mem_cons_of_mem c hd)
      exact hfirst.append hothers

/-- The token that starts a text is the first one of its tokens. -/
theorem tokens?_of_scan? (hc : isBlank c = false)
    (hscan : scan? (c :: rest) = some (token, behind)) :
    tokens? (c :: rest) = (tokens? behind).map (token :: ·) := by
  rw [tokens?, if_neg (by simp [hc])]
  split
  · next found left hfound =>
    have hsame := Option.some.inj (hscan.symm.trans hfound)
    obtain ⟨rfl, rfl⟩ := Prod.mk.inj hsame
    rfl
  · next hnone =>
    rw [hscan] at hnone
    contradiction

/-- A mark is a token by itself. -/
theorem cuts_mark (hc : isBlank c = false)
    (hscan : ∀ rest, scan? (c :: rest) = some (token, rest)) : Cuts [c] [token] := by
  intro rest
  exact tokens?_of_scan? hc (hscan rest)

/-! ## Strings -/

/-- Control characters are written by their two last digits in base sixteen. -/
private theorem hexCode?_digits :
    ∀ n < 32, hexCode? '0' '0' (Nat.digitChar (n / 16)) (Nat.digitChar (n % 16)) = some n := by
  decide

/-- **An escape names its character.** -/
theorem stringUnits?_escape (c : Char) (rest : Text) :
    stringUnits? (escape c ++ rest) =
      (stringUnits? rest).map fun found => (.char c :: found.1, found.2) := by
  by_cases hspecial : c ∈ ['"', '\\', '\x08', '\x0c', '\n', '\r', '\t']
  · simp only [List.mem_cons, List.not_mem_nil, or_false] at hspecial
    rcases hspecial with rfl | rfl | rfl | rfl | rfl | rfl | rfl <;>
      cases hrest : stringUnits? rest <;>
      simp [escape, Text.ofString, stringUnits?, unescape?, hrest]
  · simp only [List.mem_cons, List.not_mem_nil, or_false, not_or] at hspecial
    obtain ⟨hquote, hbackslash, hb, hf, hn, hr, ht⟩ := hspecial
    by_cases hcontrol : c < ' '
    · have hcode : c.toNat < 32 := hcontrol
      have hdigits := hexCode?_digits c.toNat hcode
      have hunit : StringUnit.ofCode c.toNat = .char c := by
        rw [StringUnit.ofCode, if_neg (by omega), Char.ofNat_toNat]
      have hescape : escape c = '\\' :: 'u' :: '0' :: '0' :: Nat.digitChar (c.toNat / 16) ::
          Nat.digitChar (c.toNat % 16) :: [] := by
        simp [escape, Text.ofString, hquote, hbackslash, hb, hf, hn, hr, ht, hcontrol]
      cases hrest : stringUnits? rest <;>
        simp [hescape, stringUnits?, hdigits, hunit, hrest]
    · have hescape : escape c = [c] := by
        simp [escape, hquote, hbackslash, hb, hf, hn, hr, ht, hcontrol]
      cases hrest : stringUnits? rest <;>
        simp [hescape, stringUnits?, hbackslash, hcontrol, hrest]

/-- The units of a written string are the characters of its text. -/
theorem stringUnits?_escaped (content rest : Text) :
    stringUnits? (content.flatMap escape ++ '"' :: rest) = some (content.map .char, rest) := by
  induction content with
  | nil => simp [stringUnits?]
  | cons c content ih =>
      rw [List.flatMap_cons, List.append_assoc, stringUnits?_escape, ih]
      rfl

/-- Units that are characters make up their text. -/
theorem assemble?_chars (content : Text) : assemble? (content.map .char) = some content := by
  induction content with
  | nil => rfl
  | cons c content ih => simp [assemble?, ih]

/-- A string is one token, whether it denotes a text or not. -/
theorem cuts_quotedString (content : JsonString) :
    Cuts (quotedString content) [.string content] := by
  intro rest
  cases content with
  | none =>
      have hscan : scan? ("\"\\ud800\"" ++ rest : Text) = some (.string none, rest) := by
        have hcode : hexCode? 'd' '8' '0' '0' = some 0xD800 := by
          decide
        simp [Text.ofString, scan?, stringUnits?, hcode, StringUnit.ofCode, assemble?]
      exact tokens?_of_scan? (by decide) hscan
  | some content =>
      have hscan : scan? ('"' :: (content.flatMap escape ++ '"' :: rest)) =
          some (.string (some content), rest) := by
        simp [scan?, stringUnits?_escaped, assemble?_chars]
      have hwritten : quotedString (some content) ++ rest =
          '"' :: (content.flatMap escape ++ '"' :: rest) := by
        simp [quotedString, quoted]
      rw [hwritten]
      exact tokens?_of_scan? (by decide) hscan

/-! ## Words and numerals -/

/-- A digit can stand in a word. -/
theorem isWordChar_of_isDigit (hc : c.isDigit = true) : isWordChar c = true := by
  simp [isWordChar, Char.isAlphanum, hc]

/-- A character of a word starts a token that goes on as far as there are such characters. -/
private theorem scan?_of_isWordChar (hc : isWordChar c = true) (rest : Text) :
    scan? (c :: rest) = (ofWord? ((c :: rest).takeWhile isWordChar)).map
      (·, (c :: rest).dropWhile isWordChar) := by
  have hmark : ∀ d, isWordChar d = false → c ≠ d := by
    intro d hd heq
    rw [heq, hd] at hc
    contradiction
  simp [scan?, hmark '[' rfl, hmark ']' rfl, hmark '\x7b' rfl, hmark '\x7d' rfl, hmark ':' rfl,
    hmark ',' rfl, hmark '"' rfl]

/-- A word is one token, as long as nothing goes on with it. -/
theorem cutsBefore_word {word : Text} (hword : ofWord? word = some token)
    (hall : word.all isWordChar = true) : CutsBefore word [token] := by
  intro rest hrest
  have hchars : ∀ c ∈ word, isWordChar c = true := List.all_eq_true.mp hall
  cases word with
  | nil =>
      rw [ofWord?_nil] at hword
      contradiction
  | cons c word =>
      have hc : isWordChar c = true := hchars c List.mem_cons_self
      have hblank : isBlank c = false := by
        by_cases hblank : isBlank c = true
        · rw [isWordChar_of_isBlank hblank] at hc
          contradiction
        · simpa using hblank
      have hstop : rest.takeWhile isWordChar = [] ∧ rest.dropWhile isWordChar = rest := by
        cases rest with
        | nil => exact ⟨rfl, rfl⟩
        | cons d rest =>
            have hd : isWordChar d = false := hrest d rfl
            exact ⟨by simp [hd], by simp [hd]⟩
      apply tokens?_of_scan? hblank
      show scan? (c :: (word ++ rest)) = some (token, rest)
      rw [scan?_of_isWordChar hc, ← List.cons_append, List.takeWhile_append_of_pos hchars,
        List.dropWhile_append_of_pos hchars, hstop.1, hstop.2, List.append_nil, hword]
      rfl

/-- So can all of an exponent. -/
private theorem isWordChar_of_isExponent (h : isExponent t = true) :
    ∀ c ∈ t, isWordChar c = true := by
  have hdigits : ∀ {digits : Text}, digits.all Char.isDigit = true →
      ∀ c ∈ digits, isWordChar c = true := by
    intro digits hall c hc
    exact isWordChar_of_isDigit (List.all_eq_true.mp hall c hc)
  cases t with
  | nil => exact fun c hc => absurd hc List.not_mem_nil
  | cons e rest =>
      simp only [isExponent, Bool.and_eq_true, Bool.or_eq_true, decide_eq_true_eq] at h
      obtain ⟨⟨he, _⟩, hall⟩ := h
      refine List.forall_mem_cons.mpr ⟨?_, ?_⟩
      · rcases he with rfl | rfl <;> decide
      · split at hall
        · exact List.forall_mem_cons.mpr ⟨by decide, hdigits hall⟩
        · exact List.forall_mem_cons.mpr ⟨by decide, hdigits hall⟩
        · exact hdigits hall

/-- Leading digits are characters of words; whether the rest is, is left to say. -/
private theorem isWordChar_of_dropWhile (h : ∀ c ∈ t.dropWhile Char.isDigit, isWordChar c = true) :
    ∀ c ∈ t, isWordChar c = true := by
  intro c hc
  rw [← List.takeWhile_append_dropWhile (p := Char.isDigit) (l := t)] at hc
  rcases List.mem_append.mp hc with hdigit | hrest
  · exact isWordChar_of_isDigit (List.all_eq_true.mp List.all_takeWhile c hdigit)
  · exact h c hrest

/-- So can all of a fraction. -/
private theorem isWordChar_of_isFraction (h : isFraction t = true) :
    ∀ c ∈ t, isWordChar c = true := by
  unfold isFraction at h
  split at h
  · obtain ⟨_, hexponent⟩ := Bool.and_eq_true_iff.mp h
    exact List.forall_mem_cons.mpr
      ⟨by decide, isWordChar_of_dropWhile (isWordChar_of_isExponent hexponent)⟩
  · exact isWordChar_of_isExponent h

/-- So can a number without its sign. -/
private theorem isWordChar_of_isUnsigned (h : isUnsigned t = true) :
    ∀ c ∈ t, isWordChar c = true := by
  apply isWordChar_of_dropWhile
  unfold isUnsigned at h
  split at h
  · contradiction
  · exact isWordChar_of_isFraction h
  · contradiction
  · exact isWordChar_of_isFraction h

/-- A numeral has characters of words only. -/
theorem isWordChar_of_isNumeral (h : isNumeral t = true) : ∀ c ∈ t, isWordChar c = true := by
  unfold isNumeral at h
  split at h
  · exact List.forall_mem_cons.mpr ⟨by decide, isWordChar_of_isUnsigned h⟩
  · exact isWordChar_of_isUnsigned h

/-- A numeral is a number, and none of the three words. -/
theorem ofWord?_of_isNumeral (h : isNumeral t = true) : ofWord? t = some (.number t) := by
  have hword : ∀ word, isNumeral word = false → t ≠ word := by
    intro word hnone heq
    rw [heq, hnone] at h
    contradiction
  have hnull := hword "null" rfl
  have htrue := hword "true" rfl
  have hfalse := hword "false" rfl
  rw [ofWord?, if_neg hnull, if_neg htrue, if_neg hfalse, if_pos h]

end TypedStyle.Json.Token
