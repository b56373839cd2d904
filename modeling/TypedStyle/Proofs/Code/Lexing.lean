import TypedStyle.Code.Tree
import TypedStyle.Proofs.Code.Quoting
import TypedStyle.Proofs.Text.Characters
import TypedStyle.Proofs.Text.LowerCase
/-!
# Cutting code into tokens

Code is cut from the front, and how it is cut at one place depends on the next few characters only.
So the tokens of a text are found from its end: what a piece in front contributes is known as soon
as the start of what stands behind it is.

* `Lexes.piece` — a piece whose characters are known is cut by computation;
* `Lexes.word`, `Lexes.note`, `Lexes.comment`, `Lexes.quote` — pieces of which the kind is known.
-/

namespace TypedStyle.Code.Token

variable {t u rest name : Text} {tokens more : List Token}

/-- The text is cut into these tokens, when there are steps enough. -/
def Lexes (t : Text) (tokens : List Token) : Prop :=
  ∀ bound found, t.length < bound → collect? bound found t = some (found.reverse ++ tokens)

/-- What is cut into tokens in steps enough is what the text is cut into. -/
theorem Lexes.ofText? (h : Lexes t tokens) : ofText? t = some tokens :=
  h (t.length + 1) [] (Nat.lt_succ_self _)

/-- The empty text has no tokens. -/
theorem lexes_nil : Lexes [] [] := by
  intro bound found hbound
  obtain ⟨steps, rfl⟩ : ∃ steps, bound = steps + 1 := ⟨bound - 1, by omega⟩
  simp [collect?, Gap.behind?]

/-- A gap in front makes no difference. -/
theorem Lexes.of_gap (hgap : Gap.behind? .blanks t = Gap.behind? .blanks u)
    (hlength : u.length ≤ t.length) (h : Lexes u tokens) : Lexes t tokens := by
  intro bound found hbound
  obtain ⟨steps, rfl⟩ : ∃ steps, bound = steps + 1 := ⟨bound - 1, by omega⟩
  rw [← h (steps + 1) found (by omega), collect?, collect?, hgap]

/-- What is scanned at the start comes in front of the tokens of the rest. -/
theorem Lexes.of_scan (hgap : Gap.behind? .blanks t = some t)
    (hscan : scan? t = some (tokens, rest)) (hlength : rest.length < t.length)
    (h : Lexes rest more) : Lexes t (tokens ++ more) := by
  intro bound found hbound
  obtain ⟨steps, rfl⟩ : ∃ steps, bound = steps + 1 := ⟨bound - 1, by omega⟩
  cases t with
  | nil => exact absurd hlength (Nat.not_lt_zero _)
  | cons c t =>
      rw [collect?, hgap]
      dsimp only
      rw [hscan]
      dsimp only
      rw [h steps (tokens.reverse ++ found) (by omega)]
      simp

/-- **A piece of known characters** comes with its tokens in front of those of the rest; that it is
cut into these tokens is found by computation. -/
theorem Lexes.piece (h : Lexes rest more) (piece : Text) (tokens : List Token)
    (hsteps : tokens.length ≤ piece.length)
    (hpiece : ∀ bound found, collect? (bound + 1 + tokens.length) found (piece ++ rest) =
      collect? (bound + 1) (tokens.reverse ++ found) rest) :
    Lexes (piece ++ rest) (tokens ++ more) := by
  intro bound found hbound
  rw [List.length_append] at hbound
  obtain ⟨others, rfl⟩ : ∃ others, bound = others + 1 + tokens.length :=
    ⟨bound - 1 - tokens.length, by omega⟩
  rw [hpiece, h (others + 1) (tokens.reverse ++ found) (by omega)]
  simp

/-! ## Words -/

/-- No word goes on here, and no literal starts with the word in front. -/
def EndsWord (rest : Text) : Prop :=
  ∀ c ∈ rest.head?, Text.Identifier.isContinue c = false ∧ c ≠ '#' ∧ c ≠ '"' ∧ c ≠ '\''

/-- These characters end a word. -/
theorem endsWord_cons {c : Char} (hc : c ∈ Text.ofString " :(),") : EndsWord (c :: rest) := by
  have hends : ∀ d ∈ Text.ofString " :(),",
      Text.Identifier.isContinue d = false ∧ d ≠ '#' ∧ d ≠ '"' ∧ d ≠ '\'' :=
    Text.forall_mem_of_all (by decide)
  intro d hd
  obtain rfl : c = d := Option.some.inj hd
  exact hends c hc

/-- A blank neither starts an identifier nor goes on in one. -/
theorem isContinue_of_isCodeBlank {c : Char} (h : Text.isCodeBlank c = true) :
    Text.Identifier.isStart c = false ∧ Text.Identifier.isContinue c = false := by
  have hranges : ∀ range ∈ Text.blanks, ∀ n < range.last + 1 - range.first,
      Text.Identifier.isStart (Char.ofNat (range.first + n)) = false ∧
        Text.Identifier.isContinue (Char.ofNat (range.first + n)) = false := by
    decide +kernel
  simp only [Text.isCodeBlank, Bool.or_eq_true, decide_eq_true_eq] at h
  rcases h with (hblank | rfl) | rfl
  · obtain ⟨range, hrange, hfirst, hlast⟩ :=
      (CharClass.covers_iff_of_ascending Text.blanks_ascending c.toNat).mp hblank
    have hchar := hranges range hrange (c.toNat - range.first) (by omega)
    rwa [Nat.add_sub_cancel' hfirst, Char.ofNat_toNat] at hchar
  · decide +kernel
  · decide +kernel

/-- What starts an identifier starts nothing else. -/
theorem of_isStart {c : Char} (h : Text.Identifier.isStart c = true) :
    c.isDigit = false ∧ isMark c = false ∧
      c ∉ Text.ofString "()[]\x7b\x7d/\"\'" ∧ Text.isCodeBlank c = false := by
  refine ⟨?_, ?_, ?_, ?_⟩
  · refine Bool.eq_false_iff.mpr fun hdigit => ?_
    have hascii : c.toNat < 128 :=
      Text.toNat_lt_of_isAlphanum (Text.isAlphanum_of_isDigit hdigit)
    have hstart := Text.forall_ascii
      (p := fun c => c.isDigit = true → Text.Identifier.isStart c = false)
      (by decide) hascii hdigit
    rw [hstart] at h
    contradiction
  · refine Bool.eq_false_iff.mpr fun hmark => ?_
    have hmarks : ∀ d ∈ Text.ofString "~!@#$%^&*-=+|;:,<.>/?'",
        Text.Identifier.isStart d = false := Text.forall_mem_of_all (by decide)
    rw [hmarks c (by simpa [isMark] using hmark)] at h
    contradiction
  · intro hmem
    have hothers : ∀ d ∈ Text.ofString "()[]\x7b\x7d/\"\'",
        Text.Identifier.isStart d = false := Text.forall_mem_of_all (by decide)
    rw [hothers c hmem] at h
    contradiction
  · refine Bool.eq_false_iff.mpr fun hblank => ?_
    rw [(isContinue_of_isCodeBlank hblank).1] at h
    contradiction

/-- What does not begin with a mark or a quote begins no raw string. -/
theorem behindHashes?_eq_none {content : Content}
    (h : ∀ c ∈ t.head?, c ≠ '#' ∧ c ≠ '"') : Spelling.behindHashes? content t = none := by
  cases t with
  | nil => rfl
  | cons c t =>
      obtain ⟨hmark, hquote⟩ := h c rfl
      have hhashes : Spelling.hashes (c :: t) = ([], c :: t) := by simp [Spelling.hashes, hmark]
      rw [Spelling.behindHashes?, hhashes]
      split
      · next heq => simp_all
      · rfl

/-- Where a word goes on or ends, no quote stands. -/
theorem head_of_endsWord (hname : ∀ d ∈ name, Text.Identifier.isContinue d = true)
    (hrest : EndsWord rest) :
    ∀ c ∈ (name ++ rest).head?, c ≠ '#' ∧ c ≠ '"' ∧ c ≠ '\'' := by
  intro c hc
  cases name with
  | nil => exact (hrest c hc).2
  | cons d name =>
      obtain rfl : d = c := Option.some.inj hc
      have hd := hname d List.mem_cons_self
      refine ⟨?_, ?_, ?_⟩ <;> rintro rfl <;> revert hd <;> decide

/-- Nor does a quote stand behind one more character of the word. -/
theorem head_of_endsWord_cons {c : Char} (hname : ∀ d ∈ name, Text.Identifier.isContinue d = true)
    (hrest : EndsWord rest) (h : name ++ rest = c :: t)
    (hc : Text.Identifier.isContinue c = true) :
    ∀ d ∈ t.head?, d ≠ '#' ∧ d ≠ '"' ∧ d ≠ '\'' := by
  cases name with
  | nil =>
      have hends := (hrest c (by rw [← List.nil_append rest, h]; rfl)).1
      rw [hends] at hc
      contradiction
  | cons d name =>
      obtain ⟨-, rfl⟩ := List.cons.inj h
      exact head_of_endsWord (fun d hd => hname d (List.mem_cons_of_mem _ hd)) hrest

/-- Where a word stands, no string and no character does. -/
theorem behind?_word {c : Char} (hc : Text.Identifier.isStart c = true)
    (hname : ∀ d ∈ name, Text.Identifier.isContinue d = true) (hrest : EndsWord rest) :
    Spelling.behind? (c :: (name ++ rest)) = none := by
  obtain ⟨-, -, hothers, -⟩ := of_isStart hc
  have hhead := head_of_endsWord hname hrest
  -- A letter in front of a raw string may stand in front of a word too.
  have hraw : ∀ {content : Content} {t : Text}, (∀ d ∈ t.head?, d ≠ '#' ∧ d ≠ '"' ∧ d ≠ '\'') →
      Spelling.behindHashes? content t = none :=
    fun h => behindHashes?_eq_none fun d hd => ⟨(h d hd).1, (h d hd).2.1⟩
  have hletter : Text.Identifier.isContinue 'r' = true := by decide
  have hquote : ∀ d t, name ++ rest = d :: t → d ≠ '"' ∧ d ≠ '\'' := by
    intro d t heq
    rw [heq] at hhead
    exact (hhead d rfl).2
  unfold Spelling.behind?
  split
  · next heq => simp_all [Text.ofString]
  · next heq => simp_all [Text.ofString]
  · next heq =>
    obtain ⟨-, rfl⟩ := List.cons.inj heq
    exact hraw hhead
  · next heq => exact absurd rfl (hquote _ _ (List.cons.inj heq).2).1
  · next heq => exact absurd rfl (hquote _ _ (List.cons.inj heq).2).2
  · next heq =>
    exact hraw (head_of_endsWord_cons hname hrest (List.cons.inj heq).2 hletter)
  · next heq => exact absurd rfl (hquote _ _ (List.cons.inj heq).2).1
  · next heq =>
    exact hraw (head_of_endsWord_cons hname hrest (List.cons.inj heq).2 hletter)
  · rfl

/-- Where a word can start, there is no number. -/
theorem behind?_number_word {c : Char} (hc : Text.Identifier.isStart c = true) :
    Number.behind? (c :: t) = none := by
  obtain ⟨hdigit, -, -, -⟩ := of_isStart hc
  have hletter : ¬ hexDigitValue c < 10 := by
    rw [hexDigitValue, hdigit]
    simp
  have hwhole : Number.behindDigits? 10 false (c :: t) = none := by
    simp [Number.behindDigits?, hdigit, hletter]
  have hzero : c ≠ '0' := by
    rintro rfl
    contradiction
  simp [Number.behind?, Number.behindDecimal?, hdigit, Number.behindWhole?, hzero, hwhole]

/-- No literal starts with a word that ends where no literal could go on. -/
theorem literal?_word {c : Char} (hc : Text.Identifier.isStart c = true)
    (hname : ∀ d ∈ name, Text.Identifier.isContinue d = true) (hrest : EndsWord rest) :
    literal? (c :: (name ++ rest)) = none := by
  rw [literal?, behind?_word hc hname hrest, behind?_number_word hc]
  rfl

/-- A word is read to its end, if none goes on behind it. -/
theorem word?_append {c : Char} (hc : Text.Identifier.isStart c = true)
    (hname : ∀ d ∈ name, Text.Identifier.isContinue d = true) (hrest : EndsWord rest) :
    word? (c :: (name ++ rest)) = some (c :: name, rest) := by
  have hends : rest.takeWhile Text.Identifier.isContinue = [] ∧
      rest.dropWhile Text.Identifier.isContinue = rest := by
    cases rest with
    | nil => exact ⟨rfl, rfl⟩
    | cons d rest => simp [(hrest d rfl).1]
  rw [word?, if_pos hc, List.takeWhile_append_of_pos hname, List.dropWhile_append_of_pos hname,
    hends.1, hends.2, List.append_nil]

/-- **A word is scanned as a word** where it ends. -/
theorem scan?_word {word : Text} (hword : Text.Identifier.isWord word = true)
    (hrest : EndsWord rest) : scan? (word ++ rest) = some ([.word word], rest) := by
  cases word with
  | nil => contradiction
  | cons c name =>
      obtain ⟨hc, hname⟩ := Bool.and_eq_true_iff.mp hword
      have hname := List.all_eq_true.mp hname
      obtain ⟨-, hmark, hothers, -⟩ := of_isStart hc
      have hbrackets : c ≠ '(' ∧ c ≠ '[' ∧ c ≠ '\x7b' ∧ c ≠ ')' ∧ c ≠ ']' ∧ c ≠ '\x7d' ∧ c ≠ '/' ∧
          c ≠ '"' ∧ c ≠ '\'' := by
        refine ⟨?_, ?_, ?_, ?_, ?_, ?_, ?_, ?_, ?_⟩ <;> rintro rfl <;> exact hothers (by decide)
      have hnote : note? (c :: (name ++ rest)) = none := by
        unfold note?
        split <;> simp_all
      have hplain : ofWord? (c :: name) rest = some (.word (c :: name), rest) :=
        ofWord?_of_plain fun d hd => (hrest d hd).2
      have hsign : startsWithMark (c :: (name ++ rest)) = false := by
        unfold startsWithMark
        split <;> simp_all
      have hwrong : (Text.ofString "(/*ERROR*/)").isPrefixOf (c :: (name ++ rest)) = false := by
        simp [Text.ofString, List.isPrefixOf, Ne.symm hbrackets.1]
      rw [List.cons_append, scan?]
      simp only [hwrong, hbrackets, hnote, literal?_word hc hname hrest, hsign,
        word?_append hc hname hrest]
      simp [hplain]

/-! ## Gaps, and what stands in none -/

/-- Blanks are passed over. -/
theorem behind?_blanks {front : Text} (h : ∀ c ∈ front, Text.isCodeBlank c = true) :
    Gap.behind? .blanks (front ++ t) = Gap.behind? .blanks t := by
  induction front with
  | nil => rfl
  | cons c front ih =>
      obtain ⟨hc, hfront⟩ := List.forall_mem_cons.mp h
      have hslash : c ≠ '/' := by
        rintro rfl
        contradiction
      rw [← ih hfront, List.cons_append]
      conv => lhs; unfold Gap.behind?
      split <;> simp_all

/-- What starts an identifier is no gap. -/
theorem behind?_of_isStart {c : Char} (h : Text.Identifier.isStart c = true) :
    Gap.behind? .blanks (c :: t) = some (c :: t) := by
  obtain ⟨-, -, hothers, hblank⟩ := of_isStart h
  have hslash : c ≠ '/' := by
    rintro rfl
    exact hothers (by decide)
  unfold Gap.behind?
  split <;> simp_all

/-- Blanks end a word, and so does what ends it behind blanks. -/
theorem EndsWord.blanks (h : EndsWord rest) {front : Text}
    (hfront : ∀ c ∈ front, Text.isCodeBlank c = true) : EndsWord (front ++ rest) := by
  cases front with
  | nil => exact h
  | cons c front =>
      intro d hd
      obtain rfl : c = d := Option.some.inj hd
      have hc := hfront c List.mem_cons_self
      refine ⟨(isContinue_of_isCodeBlank hc).2, ?_, ?_, ?_⟩ <;> rintro rfl <;> contradiction

/-- Blanks in front of a text leave its tokens as they are. -/
theorem Lexes.blanks (h : Lexes rest more) {front : Text}
    (hfront : ∀ c ∈ front, Text.isCodeBlank c = true) : Lexes (front ++ rest) more :=
  h.of_gap (behind?_blanks hfront) (by simp)

/-- **A name with blanks around it** is the word that is left without them. -/
theorem Lexes.word {pasted : Text} (h : Lexes rest more)
    (hword : Text.Identifier.isWord (Text.strip pasted) = true) (hrest : EndsWord rest) :
    Lexes (pasted ++ rest) (.word (Text.strip pasted) :: more) := by
  obtain ⟨front, back, hpasted, hfront, hback⟩ := Text.exists_eq_trimBy Text.isCodeBlank pasted
  have hscan : scan? (Text.strip pasted ++ (back ++ rest)) =
      some ([.word (Text.strip pasted)], back ++ rest) := scan?_word hword (hrest.blanks hback)
  have hsplit : pasted ++ rest = front ++ (Text.strip pasted ++ (back ++ rest)) := by
    conv => lhs; rw [hpasted]
    simp [Text.strip]
  rw [hsplit]
  generalize Text.strip pasted = word at hword hscan
  cases word with
  | nil => contradiction
  | cons c name =>
      have hgap := behind?_of_isStart (t := name ++ (back ++ rest))
        (Bool.and_eq_true_iff.mp hword).1
      have hlength : (back ++ rest).length < (c :: name ++ (back ++ rest)).length := by
        simp only [List.length_append, List.length_cons]
        omega
      exact ((h.blanks hback).of_scan hgap hscan hlength).blanks hfront

/-! ## Comments and notes -/

/-- A comment goes to the end of its line. -/
theorem behind?_line (h : '\n' ∉ u) :
    Gap.behind? .line (u ++ '\n' :: t) = Gap.behind? .blanks t := by
  induction u with
  | nil => rfl
  | cons c u ih =>
      obtain ⟨hc, hu⟩ : '\n' ≠ c ∧ '\n' ∉ u := by simpa using h
      rw [List.cons_append, Gap.behind?, if_neg (Ne.symm hc)]
      exact ih hu

/-- **A comment is no token.** -/
theorem Lexes.comment (h : Lexes rest more) (hline : '\n' ∉ u) :
    Lexes ("// " ++ (u ++ '\n' :: rest)) more := by
  refine h.of_gap ?_ (by simp only [List.length_append, List.length_cons]; omega)
  exact behind?_line (u := ' ' :: u) (by simpa using hline)

/-- A note on a line ends at its line feed. -/
theorem behindLineNote?_append (hline : '\n' ∉ u) (hreturn : '\r' ∉ u) :
    behindLineNote? (u ++ '\n' :: t) = some ('\n' :: t) := by
  induction u with
  | nil => rfl
  | cons c u ih =>
      obtain ⟨hc, hu⟩ : c ≠ '\n' ∧ '\n' ∉ u := by simpa [eq_comm] using hline
      obtain ⟨hd, hv⟩ : c ≠ '\r' ∧ '\r' ∉ u := by simpa [eq_comm] using hreturn
      rw [← ih hu hv, List.cons_append]
      conv => lhs; unfold behindLineNote?
      split <;> simp_all

/-- A note that starts with a slash is scanned as a note. -/
theorem scan?_note (h : note? ('/' :: t) = some (tokens, rest)) :
    scan? ('/' :: t) = some (tokens, rest) := by
  simp [scan?, h, Text.ofString, List.isPrefixOf]

/-- **A note to the end of its line** stands for an attribute. -/
theorem Lexes.note (h : Lexes ('\n' :: rest) more) (hline : '\n' ∉ u) (hreturn : '\r' ∉ u)
    (isInner : Bool) :
    Lexes ((if isInner then Text.ofString "//! " else "/// ") ++ (u ++ '\n' :: rest))
      (ofNote isInner ++ more) := by
  have hbehind : ∀ c, c ≠ '\n' → c ≠ '\r' →
      behindLineNote? (c :: ' ' :: (u ++ '\n' :: rest)) = some ('\n' :: rest) := by
    intro c hc hd
    exact behindLineNote?_append (u := c :: ' ' :: u) (by simp [Ne.symm hc, hline])
      (by simp [Ne.symm hd, hreturn])
  cases isInner with
  | true =>
      refine h.of_scan rfl ?_ (by simp [Text.ofString]; omega)
      have hnote : note? ('/' :: '/' :: '!' :: ' ' :: (u ++ '\n' :: rest)) =
          some (ofNote true, '\n' :: rest) := by
        simp [note?, startsLineNote, hbehind]
      exact scan?_note hnote
  | false =>
      refine h.of_scan rfl ?_ (by simp [Text.ofString]; omega)
      have hnote : note? ('/' :: '/' :: '/' :: ' ' :: (u ++ '\n' :: rest)) =
          some (ofNote false, '\n' :: rest) := by
        simp [note?, startsLineNote, hbehind]
      exact scan?_note hnote

/-! ## Literals -/

/-- **The literal of a text is scanned as one token** in brackets. -/
theorem scan?_quote (hrest : rest.head? = some ')') (t : Text) :
    scan? (Text.quote t ++ rest) = some ([.literal .string], rest) := by
  have hquote : Text.quote t ++ rest = '"' :: (t.flatMap Text.Quoted.escape ++ '"' :: rest) := by
    simp [Text.quote]
  have hlength : t.length ≤ (t.flatMap Text.Quoted.escape ++ '"' :: rest).length := by
    have hspelled := Spelling.length_le_quote t
    rw [List.length_append]
    omega
  have hbehind : Spelling.behind? ('"' :: (t.flatMap Text.Quoted.escape ++ '"' :: rest)) =
      some rest := Spelling.behindString?_quote t rest hlength
  have hsuffix : behindSuffix rest = rest := by
    have hbracket : Text.Identifier.isStart ')' = false := by decide
    obtain ⟨others, rfl⟩ := List.head?_eq_some_iff.mp hrest
    simp [behindSuffix, word?, hbracket]
  rw [hquote]
  simp [scan?, Text.ofString, List.isPrefixOf, note?, literal?, hbehind, hsuffix,
    Spelling.startsString]

/-- **A quoted text is one literal**, whatever it says. -/
theorem Lexes.quote (h : Lexes rest more) (hrest : rest.head? = some ')') (t : Text) :
    Lexes (Text.quote t ++ rest) (.literal .string :: more) :=
  h.of_scan rfl (scan?_quote hrest t) (by simp [Text.quote]; omega)

/-- **A zero is scanned as a number** where neither a word nor a point follows it. -/
theorem scan?_zero {c : Char} (hc : c = '\n' ∨ c = ')') :
    scan? ('0' :: c :: rest) = some ([.literal (.number "0")], c :: rest) := by
  obtain ⟨hspelling, hbehind⟩ : Spelling.behind? ('0' :: c :: rest) = none ∧
      Number.behind? ('0' :: c :: rest) = some (c :: rest) := by
    rcases hc with rfl | rfl <;> exact ⟨rfl, rfl⟩
  have hliteral : literal? ('0' :: c :: rest) = some (.literal (.number "0"), c :: rest) := by
    have htake : ('0' :: c :: rest).take (('0' :: c :: rest).length - (c :: rest).length) =
        Text.ofString "0" := by
      have hone : ('0' :: c :: rest).length - (c :: rest).length = 1 := by
        simp only [List.length_cons]
        omega
      rw [hone]
      rfl
    rw [literal?, hspelling, hbehind, ← htake]
    rfl
  simp [scan?, Text.ofString, List.isPrefixOf, note?, hliteral]

/-- A zero in front of the end of a line or a group is a number. -/
theorem Lexes.zero {c : Char} (h : Lexes (c :: rest) more) (hc : c = '\n' ∨ c = ')') :
    Lexes ('0' :: c :: rest) (.literal (.number "0") :: more) :=
  h.of_scan rfl (scan?_zero hc) (by simp)

/-- An opening bracket is one token, where no mark of an error follows it. -/
theorem Lexes.opening (h : Lexes rest more) (hrest : ∀ c ∈ rest.head?, c ≠ '/') :
    Lexes ('(' :: rest) (.opening '(' :: more) := by
  have hwrong : (Text.ofString "(/*ERROR*/)").isPrefixOf ('(' :: rest) = false := by
    cases rest with
    | nil => rfl
    | cons c rest =>
        have hc := hrest c rfl
        simp [Text.ofString, List.isPrefixOf, Ne.symm hc]
  have hscan : scan? ('(' :: rest) = some ([.opening '('], rest) := by
    simp [scan?, hwrong]
  exact h.of_scan rfl hscan (by simp)

end TypedStyle.Code.Token
