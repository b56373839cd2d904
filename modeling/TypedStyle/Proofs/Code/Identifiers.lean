import Mathlib.Data.List.Basic
import TypedStyle.Proofs.Code.Steps
/-!
# Code that is one identifier

A text that is cut into a single word is this word between two gaps.  The word is an identifier or a
raw one, so it is scanned wherever it stands and does not go on, and blanks at the ends of the text
make no difference.

* `Gap.behind?_congr`, `Gap.behind?_of_blanks` — gaps, whatever stands behind them;
* `eq_append_of_scan?`, `scan?_identifier` — where a word is scanned;
* `exists_of_ofText?` — the word and the gaps around it;
* `ofText?_of_blanks` — without blanks behind it, the text is the same word.
-/

namespace TypedStyle.Code

open Token

variable {t u rest front back name : Text} {c : Char}

/-! ## Gaps -/

namespace Gap

/-- What is left behind a gap is an end of the text. -/
theorem suffix_of_behind? {gap : Gap} (h : gap.behind? t = some rest) : rest <:+ t := by
  fun_induction Gap.behind? gap t with
  | case1 | case3 | case6 | case12 | case13 =>
      obtain rfl := Option.some.inj h
      exact List.suffix_rfl
  | case2 _ _ ih | case4 _ _ ih | case8 _ _ ih | case9 _ ih | case10 _ _ ih =>
      exact ((ih h).trans (List.suffix_cons _ _)).trans (List.suffix_cons _ _)
  | case5 _ _ _ _ _ ih | case7 _ _ ih | case11 _ _ _ _ _ _ ih =>
      exact (ih h).trans (List.suffix_cons _ _)
  | case14 => contradiction

/-- What starts an identifier makes neither a comment nor a note. -/
theorem ne_of_isStart (h : Text.Identifier.isStart c = true) : c ≠ '/' ∧ c ≠ '*' ∧ c ≠ '!' := by
  refine ⟨?_, ?_, ?_⟩ <;> rintro rfl <;> revert h <;> decide

/-- Whether a comment is a note is seen from its first two characters. -/
theorem startsNote_cons (d e : Char) (t : Text) :
    startsLineNote (d :: e :: t) = (d == '!' || (d == '/' && e != '/')) ∧
      startsBlockNote (d :: e :: t) = (d == '!' || (d == '*' && e != '*' && e != '/')) := by
  constructor
  · unfold startsLineNote
    split <;> simp_all
    grind
  · unfold startsBlockNote
    split <;> simp_all
    grind

/-- So it is known where an identifier starts in it. -/
theorem startsNote_congr (h : c ≠ '/' ∧ c ≠ '*' ∧ c ≠ '!') (front u v : Text) :
    startsLineNote (front ++ c :: u) = startsLineNote (front ++ c :: v) ∧
      startsBlockNote (front ++ c :: u) = startsBlockNote (front ++ c :: v) := by
  rcases front with _ | ⟨d, _ | ⟨e, front⟩⟩
  · simp [startsLineNote, startsBlockNote, h]
  · simp [startsNote_cons]
  · simp [startsNote_cons]

/-- In a comment a character is passed over alone, unless it begins or ends one. -/
theorem behind?_block_cons {outer : Nat} {d : Char} (hopening : d = '/' → t.head? ≠ some '*')
    (hclosing : d = '*' → t.head? ≠ some '/') :
    (block outer).behind? (d :: t) = (block outer).behind? t := by
  conv => lhs; unfold Gap.behind?
  split <;> simp_all

/-- Another character than the one that is known stands in front of it. -/
theorem exists_of_append {d : Char} (h : front ++ c :: u = d :: rest) (hne : d ≠ c) :
    ∃ others, front = d :: others ∧ others ++ c :: u = rest := by
  cases front with
  | nil => exact absurd (List.cons.inj h).1.symm hne
  | cons e front =>
      obtain ⟨rfl, hrest⟩ := List.cons.inj h
      exact ⟨front, rfl, hrest⟩

/-- So do two other characters. -/
theorem exists_of_append_two {d e : Char} (h : front ++ c :: u = d :: e :: rest) (hd : d ≠ c)
    (he : e ≠ c) : ∃ others, front = d :: e :: others ∧ others ++ c :: u = rest := by
  obtain ⟨others, rfl, hothers⟩ := exists_of_append h hd
  obtain ⟨front, rfl, hrest⟩ := exists_of_append hothers he
  exact ⟨front, rfl, hrest⟩

/-- What a gap leaves is shorter than the text with one more character in front. -/
theorem exists_of_append_of_behind? {gap : Gap} {d : Char} (h : front ++ c :: u = d :: rest)
    (hbehind : gap.behind? rest = some (c :: u)) :
    ∃ others, front = d :: others ∧ others ++ c :: u = rest := by
  cases front with
  | nil =>
      obtain ⟨rfl, rfl⟩ := List.cons.inj h
      exact absurd (Gap.length_behind?_le hbehind) (by simp)
  | cons e front =>
      obtain ⟨rfl, hrest⟩ := List.cons.inj h
      exact ⟨front, rfl, hrest⟩

/-- **A gap in front of an identifier** is one whatever stands behind the first character of it. -/
theorem behind?_congr {gap : Gap} (hc : Text.Identifier.isStart c = true)
    (h : gap.behind? (front ++ c :: u) = some (c :: u)) (v : Text) :
    gap.behind? (front ++ c :: v) = some (c :: v) := by
  have hne := ne_of_isStart hc
  generalize ht : front ++ c :: u = t at h
  fun_induction Gap.behind? gap t generalizing front with
  | case1 | case3 => exact absurd (List.cons.inj (Option.some.inj h)).1.symm hne.1
  | case2 rest hnote ih =>
      obtain ⟨front, rfl, rfl⟩ := exists_of_append_two ht hne.1.symm hne.1.symm
      rw [(startsNote_congr hne front u v).1] at hnote
      rw [List.cons_append, List.cons_append, Gap.behind?, if_neg hnote]
      exact ih rfl h
  | case4 rest hnote ih =>
      obtain ⟨front, rfl, rfl⟩ := exists_of_append_two ht hne.1.symm hne.2.1.symm
      rw [(startsNote_congr hne front u v).2] at hnote
      rw [List.cons_append, List.cons_append, Gap.behind?, if_neg hnote]
      exact ih rfl h
  | case5 d rest _ _ hblank ih =>
      have hslash : d ≠ '/' := by
        rintro rfl
        contradiction
      obtain ⟨front, rfl, rfl⟩ := exists_of_append_of_behind? ht h
      rw [List.cons_append, behind?_blanks_cons hslash, if_pos hblank]
      exact ih rfl h
  | case6 d rest _ _ hblank =>
      rw [Option.some.inj h] at ht
      obtain rfl : front = [] := by simpa using ht
      exact behind?_of_isStart hc
  | case7 d rest ih =>
      obtain ⟨front, rfl, rfl⟩ := exists_of_append_of_behind? ht h
      rw [List.cons_append, Gap.behind?]
      exact ih rfl h
  | case8 outer rest ih =>
      obtain ⟨front, rfl, rfl⟩ := exists_of_append_two ht hne.1.symm hne.2.1.symm
      exact ih rfl h
  | case9 rest ih =>
      obtain ⟨front, rfl, rfl⟩ := exists_of_append_two ht hne.2.1.symm hne.1.symm
      exact ih rfl h
  | case10 outer rest ih =>
      obtain ⟨front, rfl, rfl⟩ := exists_of_append_two ht hne.2.1.symm hne.1.symm
      exact ih rfl h
  | case11 outer d rest h1 h2 h3 ih =>
      obtain ⟨front, rfl, rfl⟩ := exists_of_append_of_behind? ht h
      have hhead : (front ++ c :: v).head? = (front ++ c :: u).head? := by
        cases front <;> rfl
      rw [List.cons_append, behind?_block_cons]
      · exact ih rfl h
      · rw [hhead]
        rintro rfl hstar
        obtain ⟨w, hw⟩ := List.head?_eq_some_iff.mp hstar
        exact h1 w rfl hw
      · rw [hhead]
        rintro rfl hslash
        obtain ⟨w, hw⟩ := List.head?_eq_some_iff.mp hslash
        cases outer with
        | zero => exact h2 w rfl rfl hw
        | succ outer => exact h3 outer w rfl rfl hw
  | case12 | case13 | case14 => simp at ht

/-- A blank makes neither a comment nor a note. -/
theorem ne_of_isCodeBlank (h : Text.isCodeBlank c = true) : c ≠ '/' ∧ c ≠ '*' ∧ c ≠ '!' := by
  refine ⟨?_, ?_, ?_⟩ <;> rintro rfl <;> contradiction

/-- Nor do blanks behind a comment. -/
theorem startsNote_blanks (hback : ∀ c ∈ back, Text.isCodeBlank c = true) (t : Text) :
    startsLineNote (t ++ back) = startsLineNote t ∧
      startsBlockNote (t ++ back) = startsBlockNote t := by
  cases back with
  | nil => simp
  | cons b back =>
      have hne := ne_of_isCodeBlank (hback b List.mem_cons_self)
      rcases t with _ | ⟨d, _ | ⟨e, t⟩⟩
      · simp [startsLineNote, startsBlockNote, hne]
      · simp only [List.cons_append, List.nil_append, startsNote_cons]
        constructor
        · unfold startsLineNote
          split <;> simp_all
        · unfold startsBlockNote
          split <;> simp_all
      · simp [startsNote_cons]

/-- The first character is the same with blanks behind the text, or it is a blank. -/
theorem head_append_blanks (hback : ∀ c ∈ back, Text.isCodeBlank c = true)
    (hc : c = '/' ∨ c = '*') (h : (t ++ back).head? = some c) : t.head? = some c := by
  cases t with
  | cons d t => exact h
  | nil =>
      obtain ⟨others, rfl⟩ := List.head?_eq_some_iff.mp h
      have hne := ne_of_isCodeBlank (hback c List.mem_cons_self)
      rcases hc with rfl | rfl
      · exact absurd rfl hne.1
      · exact absurd rfl hne.2.1

/-- A gap ends in front of what is neither blank nor begins a comment. -/
theorem behind?_blanks_stop (hblank : Text.isCodeBlank c = false)
    (h : c = '/' → t.head? ≠ some '/' ∧ t.head? ≠ some '*') :
    Gap.behind? .blanks (c :: t) = some (c :: t) := by
  unfold Gap.behind?
  split <;> simp_all

/-- Blanks alone close no comment. -/
theorem behind?_block_blanks (hback : ∀ c ∈ back, Text.isCodeBlank c = true) (outer : Nat) :
    (block outer).behind? back = none := by
  refine behind?_block_eq_none fun hpart => ?_
  have hstar := hback '*' (hpart.subset List.mem_cons_self)
  contradiction

/-- **A gap with blanks behind it** is one without them. -/
theorem behind?_of_blanks {gap : Gap} (hback : ∀ c ∈ back, Text.isCodeBlank c = true)
    (h : gap.behind? (t ++ back) = some []) : gap.behind? t = some [] := by
  fun_induction Gap.behind? gap t with
  | case1 rest hnote =>
      rw [← (startsNote_blanks hback rest).1] at hnote
      rw [List.cons_append, List.cons_append, Gap.behind?, if_pos hnote] at h
      exact absurd (Option.some.inj h) (List.cons_ne_nil _ _)
  | case2 rest hnote ih =>
      rw [← (startsNote_blanks hback rest).1] at hnote
      rw [List.cons_append, List.cons_append, Gap.behind?, if_neg hnote] at h
      exact ih h
  | case3 rest hnote =>
      rw [← (startsNote_blanks hback rest).2] at hnote
      rw [List.cons_append, List.cons_append, Gap.behind?, if_pos hnote] at h
      exact absurd (Option.some.inj h) (List.cons_ne_nil _ _)
  | case4 rest hnote ih =>
      rw [← (startsNote_blanks hback rest).2] at hnote
      rw [List.cons_append, List.cons_append, Gap.behind?, if_neg hnote] at h
      exact ih h
  | case5 d rest _ _ hblank ih =>
      rw [List.cons_append, behind?_blanks_cons (ne_of_isCodeBlank hblank).1, if_pos hblank] at h
      exact ih h
  | case6 d rest hline hblock hblank =>
      rw [List.cons_append, behind?_blanks_stop (by simpa using hblank)] at h
      · exact absurd (Option.some.inj h) (List.cons_ne_nil _ _)
      · rintro rfl
        constructor
        · intro hslash
          obtain ⟨w, rfl⟩ := List.head?_eq_some_iff.mp (head_append_blanks hback (.inl rfl) hslash)
          exact hline w rfl rfl
        · intro hstar
          obtain ⟨w, rfl⟩ := List.head?_eq_some_iff.mp (head_append_blanks hback (.inr rfl) hstar)
          exact hblock w rfl rfl
  | case7 d rest ih =>
      rw [List.cons_append, Gap.behind?] at h
      exact ih h
  | case8 outer rest ih => exact ih h
  | case9 rest ih => exact ih h
  | case10 outer rest ih => exact ih h
  | case11 outer d rest hopens hcloses hinner ih =>
      rw [List.cons_append, behind?_block_cons] at h
      · exact ih h
      · rintro rfl hstar
        obtain ⟨w, rfl⟩ := List.head?_eq_some_iff.mp (head_append_blanks hback (.inr rfl) hstar)
        exact hopens w rfl rfl
      · rintro rfl hslash
        obtain ⟨w, rfl⟩ := List.head?_eq_some_iff.mp (head_append_blanks hback (.inl rfl) hslash)
        cases outer with
        | zero => exact hcloses w rfl rfl rfl
        | succ outer => exact hinner outer w rfl rfl rfl
  | case12 => rfl
  | case13 => rfl
  | case14 outer =>
      rw [List.nil_append, behind?_block_blanks hback] at h
      contradiction

/-- Without a slash there is no comment, so a gap is the blanks in front. -/
theorem behind?_of_not_mem (h : '/' ∉ t) :
    Gap.behind? .blanks t = some (t.dropWhile Text.isCodeBlank) := by
  induction t with
  | nil => rfl
  | cons d t ih =>
      obtain ⟨hd, ht⟩ : '/' ≠ d ∧ '/' ∉ t := by simpa using h
      rw [behind?_blanks_cons hd.symm, ih ht, List.dropWhile_cons]
      split <;> rfl

end Gap

/-! ## Words -/

/-- What follows does not go on like a word. -/
theorem exists_of_word? (h : word? t = some (name, rest)) :
    t = name ++ rest ∧ Text.Identifier.isWord name = true ∧
      ∀ c ∈ rest.head?, Text.Identifier.isContinue c = false := by
  unfold word? at h
  split at h
  · next d u =>
    obtain ⟨hd, heq⟩ := Option.ite_some_none_eq_some.mp h
    obtain ⟨rfl, rfl⟩ := Prod.mk.inj heq
    refine ⟨by simp, ?_, fun c hc => ?_⟩
    · refine Bool.and_eq_true_iff.mpr ⟨hd, List.all_eq_true.mpr fun c hc => ?_⟩
      exact List.mem_takeWhile_imp hc
    · have hnot := List.head?_dropWhile_not Text.Identifier.isContinue u
      rw [Option.mem_def.mp hc] at hnot
      simpa using hnot
  · contradiction

/-- The name is that of an identifier, or of one that is spelled raw. -/
def IsIdentifier (name : Text) : Prop :=
  Text.Identifier.isWord name = true ∨ ∃ raw, name = "r#" ++ raw ∧
    Text.Identifier.isWord raw = true ∧ raw ≠ ['_'] ∧ raw ∉ Text.Identifier.reservedRaw

/-- It is not empty, and its first character starts an identifier. -/
theorem IsIdentifier.exists_cons (h : IsIdentifier name) :
    ∃ c others, name = c :: others ∧ Text.Identifier.isStart c = true := by
  rcases h with hword | ⟨raw, rfl, -⟩
  · cases name with
    | nil => contradiction
    | cons c others => exact ⟨c, others, rfl, (Bool.and_eq_true_iff.mp hword).1⟩
  · exact ⟨'r', '#' :: raw, rfl, by decide⟩

/-- No word has a blank in it. -/
theorem isCodeBlank_of_isWord {word : Text} (h : Text.Identifier.isWord word = true) :
    ∀ c ∈ word, Text.isCodeBlank c = false := by
  intro c hc
  cases word with
  | nil => contradiction
  | cons d others =>
      obtain ⟨hd, hothers⟩ := Bool.and_eq_true_iff.mp h
      refine Bool.eq_false_iff.mpr fun hblank => ?_
      obtain ⟨hstart, hcontinue⟩ := isContinue_of_isCodeBlank hblank
      rcases List.mem_cons.mp hc with rfl | hc
      · rw [hstart] at hd
        contradiction
      · rw [List.all_eq_true.mp hothers c hc] at hcontinue
        contradiction

/-- None of its characters is a blank. -/
theorem IsIdentifier.isCodeBlank_eq_false (h : IsIdentifier name) :
    ∀ c ∈ name, Text.isCodeBlank c = false := by
  rcases h with hword | ⟨raw, rfl, hword, -, -⟩
  · exact isCodeBlank_of_isWord hword
  · intro c hc
    rcases List.mem_append.mp hc with hprefix | hraw
    · exact Text.forall_mem_of_all (p := fun c => Text.isCodeBlank c = false) (by decide) c hprefix
    · exact isCodeBlank_of_isWord hword c hraw

namespace Token

variable {token : Token} {tokens : List Token}

/-- A note is an attribute, and no word. -/
theorem tokens_of_note? (h : note? t = some (tokens, rest)) :
    tokens ≠ [] ∧ ∀ name, tokens ≠ [.word name] := by
  have hnote : ∃ isInner, tokens = ofNote isInner := by
    unfold note? at h
    split at h
    · obtain ⟨-, hbehind⟩ := Option.ite_none_right_eq_some.mp h
      obtain ⟨u, -, heq⟩ := Option.map_eq_some_iff.mp hbehind
      exact ⟨_, (Prod.mk.inj heq).1.symm⟩
    · obtain ⟨-, hbehind⟩ := Option.ite_none_right_eq_some.mp h
      obtain ⟨u, -, heq⟩ := Option.map_eq_some_iff.mp hbehind
      exact ⟨_, (Prod.mk.inj heq).1.symm⟩
    · contradiction
  obtain ⟨isInner, rfl⟩ := hnote
  simp [ofNote]

/-- What is read as a literal is a literal. -/
theorem exists_of_literal? (h : literal? t = some (token, rest)) :
    ∃ kind, token = .literal kind := by
  unfold literal? at h
  split at h
  · exact ⟨_, (Prod.mk.inj (Option.some.inj h)).1.symm⟩
  · obtain ⟨u, -, heq⟩ := Option.map_eq_some_iff.mp h
    exact ⟨_, (Prod.mk.inj heq).1.symm⟩

/-- A scan finds some tokens, and these are a word only where a word stands. -/
theorem tokens_of_scan? (h : scan? t = some (tokens, rest)) :
    (tokens ≠ [] ∧ ∀ name, tokens ≠ [.word name]) ∨
      ∃ w u token, word? t = some (w, u) ∧ ofWord? w u = some (token, rest) ∧ tokens = [token] := by
  rcases scan?_cases h with ⟨-, rfl⟩ | ⟨c, -, -, -, token, rfl, hword⟩ | hnote |
    ⟨token, hliteral, rfl⟩ | hword
  · exact .inl (by simp)
  · exact .inl (by simpa using hword)
  · exact .inl (tokens_of_note? hnote)
  · obtain ⟨kind, rfl⟩ := exists_of_literal? hliteral
    exact .inl (by simp)
  · exact .inr hword

/-- A step of the scan finds a token at least. -/
theorem ne_nil_of_scan? (h : scan? t = some (tokens, rest)) : tokens ≠ [] := by
  rcases tokens_of_scan? h with ⟨hne, -⟩ | ⟨_, _, token, -, -, rfl⟩
  · exact hne
  · simp

/-- **Where a word is scanned**, the text starts with it, and it is an identifier. -/
theorem eq_append_of_scan? (h : scan? t = some ([.word name], rest)) :
    t = name ++ rest ∧ IsIdentifier name := by
  rcases tokens_of_scan? h with ⟨-, hother⟩ | ⟨w, u, token, hword, htoken, heq⟩
  · exact absurd rfl (hother name)
  · obtain rfl : token = .word name := (List.singleton_inj.mp heq).symm
    obtain ⟨rfl, hw, -⟩ := exists_of_word? hword
    rcases ofWord?_cases htoken with ⟨rfl, hname⟩ | ⟨v, raw, rfl, hraw, rfl, hname, hallowed⟩
    · obtain rfl := Token.word.inj hname
      exact ⟨rfl, .inl hw⟩
    · obtain rfl := Token.word.inj hname
      obtain ⟨rfl, hraw, -⟩ := exists_of_word? hraw
      exact ⟨by simp [Text.ofString], .inr ⟨raw, rfl, hraw, hallowed⟩⟩

/-- A raw word is no raw string. -/
theorem behind?_raw {raw : Text} (hraw : Text.Identifier.isWord raw = true) :
    Spelling.behind? ('r' :: '#' :: (raw ++ rest)) = none := by
  cases raw with
  | nil => contradiction
  | cons c others =>
      have hc : Text.Identifier.isStart c = true := (Bool.and_eq_true_iff.mp hraw).1
      obtain ⟨-, -, hothers, -⟩ := of_isStart hc
      have hhash : c ≠ '#' := by
        rintro rfl
        exact absurd hc (by decide)
      have hquote : c ≠ '"' := by
        rintro rfl
        exact hothers (by decide)
      have hhashes : Spelling.hashes ('#' :: (c :: others ++ rest)) =
          (['#'], c :: others ++ rest) := by
        simp [Spelling.hashes, hhash]
      show Spelling.behindHashes? .characters ('#' :: (c :: others ++ rest)) = none
      rw [Spelling.behindHashes?, hhashes]
      split
      · next heq => exact absurd (List.cons.inj (Prod.mk.inj heq).2).1 hquote
      · rfl

/-- **An identifier is scanned as a word** where it ends. -/
theorem scan?_identifier (h : IsIdentifier name) (hrest : EndsWord rest) :
    scan? (name ++ rest) = some ([.word name], rest) := by
  rcases h with hword | ⟨raw, rfl, hraw, hne, hallowed⟩
  · exact scan?_word hword hrest
  · have hliteral : literal? ('r' :: '#' :: (raw ++ rest)) = none := by
      rw [literal?, behind?_raw hraw, behind?_number_word (by decide)]
      rfl
    have hbehind : word? (raw ++ rest) = some (raw, rest) := by
      cases raw with
      | nil => contradiction
      | cons c others =>
          obtain ⟨hc, hothers⟩ := Bool.and_eq_true_iff.mp hraw
          exact word?_append hc (List.all_eq_true.mp hothers) hrest
    have hfirst : word? ('r' :: '#' :: (raw ++ rest)) = some (['r'], '#' :: (raw ++ rest)) := by
      have hstart : Text.Identifier.isStart 'r' = true := by decide
      have hends : Text.Identifier.isContinue '#' = false := by decide
      simp [word?, hstart, hends]
    have hfound : ofWord? ['r'] ('#' :: (raw ++ rest)) = some (.word ("r#" ++ raw), rest) := by
      have hallowed : ¬ (decide (raw = Text.ofString "_")
          || Text.Identifier.reservedRaw.contains raw) = true := by
        simp only [Bool.or_eq_true, decide_eq_true_eq, List.contains_eq_mem, not_or]
        exact ⟨hne, hallowed⟩
      show (word? (raw ++ rest)).bind _ = _
      rw [hbehind]
      exact if_neg hallowed
    show scan? ('r' :: '#' :: (raw ++ rest)) = _
    simp [scan?, Text.ofString, List.isPrefixOf, note?, hliteral, startsWithMark, isMark, hfirst,
      hfound]

/-! ## Texts of one word -/

/-- Only a gap has no tokens. -/
theorem behind?_of_ofText?_nil (h : ofText? t = some []) : Gap.behind? .blanks t = some [] := by
  cases hgap : Gap.behind? .blanks t with
  | none =>
      rw [ofText?, collect?, hgap] at h
      contradiction
  | some u =>
      cases u with
      | nil => rfl
      | cons c u =>
          cases hscan : scan? (c :: u) with
          | none =>
              rw [ofText?_of_stuck hgap hscan] at h
              contradiction
          | some scanned =>
              obtain ⟨tokens, rest⟩ := scanned
              rw [ofText?_of_scan hgap hscan] at h
              obtain ⟨more, -, hnil⟩ := Option.map_eq_some_iff.mp h
              exact absurd (List.append_eq_nil_iff.mp hnil).1 (ne_nil_of_scan? hscan)

/-- A gap has no tokens. -/
theorem ofText?_of_gap_nil (h : Gap.behind? .blanks t = some []) : ofText? t = some [] := by
  rw [ofText?, collect?, h]
  rfl

/-- **A text of one word** is the word between two gaps. -/
theorem exists_of_ofText? (h : ofText? t = some [.word name]) :
    IsIdentifier name ∧ ∃ rest, Gap.behind? .blanks t = some (name ++ rest) ∧
      Gap.behind? .blanks rest = some [] := by
  cases hgap : Gap.behind? .blanks t with
  | none =>
      rw [ofText?, collect?, hgap] at h
      contradiction
  | some u =>
      cases u with
      | nil =>
          rw [ofText?_of_gap_nil hgap] at h
          exact absurd (Option.some.inj h).symm (List.cons_ne_nil _ _)
      | cons c u =>
          cases hscan : scan? (c :: u) with
          | none =>
              rw [ofText?_of_stuck hgap hscan] at h
              contradiction
          | some scanned =>
              obtain ⟨tokens, rest⟩ := scanned
              rw [ofText?_of_scan hgap hscan] at h
              obtain ⟨more, hmore, hword⟩ := Option.map_eq_some_iff.mp h
              obtain ⟨d, others, rfl⟩ := List.exists_cons_of_ne_nil (ne_nil_of_scan? hscan)
              obtain ⟨rfl, hnil⟩ := List.cons.inj hword
              obtain ⟨rfl, rfl⟩ := List.append_eq_nil_iff.mp hnil
              obtain ⟨heq, hname⟩ := eq_append_of_scan? hscan
              exact ⟨hname, rest, by rw [heq], behind?_of_ofText?_nil hmore⟩

/-- A gap ends a word. -/
theorem endsWord_of_gap (h : Gap.behind? .blanks rest = some []) : EndsWord rest := by
  intro c hc
  obtain ⟨others, rfl⟩ := List.head?_eq_some_iff.mp hc
  by_cases hslash : c = '/'
  · subst hslash
    decide
  · rw [behind?_blanks_cons hslash] at h
    split at h
    · next hblank =>
      refine ⟨(isContinue_of_isCodeBlank hblank).2, ?_, ?_, ?_⟩ <;>
      · rintro rfl
        contradiction
    · exact absurd (Option.some.inj h) (List.cons_ne_nil _ _)

/-- Where an identifier is scanned, the tokens of the rest follow it. -/
theorem ofText?_identifier (hname : IsIdentifier name) (hrest : EndsWord rest)
    (hgap : Gap.behind? .blanks t = some (name ++ rest)) :
    ofText? t = (ofText? rest).map ([.word name] ++ ·) := by
  have hscan := scan?_identifier hname hrest
  obtain ⟨c, others, rfl, -⟩ := hname.exists_cons
  exact ofText?_of_scan hgap hscan

/-- What does not end in a blank ends in front of all blanks. -/
theorem exists_of_append_blanks (hname : IsIdentifier name)
    (hback : ∀ c ∈ back, Text.isCodeBlank c = true) (h : t ++ back = front ++ name ++ rest) :
    ∃ others, t = front ++ name ++ others ∧ rest = others ++ back := by
  rcases List.append_eq_append_iff.mp h with ⟨a, ha, hrest⟩ | ⟨a, ht, hrest⟩
  · rcases List.eq_nil_or_concat a with rfl | ⟨others, d, rfl⟩
    · exact ⟨[], by simpa using ha.symm, by simpa using hrest.symm⟩
    · have hd : Text.isCodeBlank d = true := hback d (by simp [hrest])
      have hlast : name.getLast? = some d := by
        obtain ⟨c, word, rfl, -⟩ := hname.exists_cons
        have heq := congrArg List.getLast? ha
        rw [List.getLast?_append_of_ne_nil _ (List.cons_ne_nil _ _), List.concat_eq_append,
          ← List.append_assoc, List.getLast?_concat] at heq
        exact heq
      rw [hname.isCodeBlank_eq_false d (List.mem_of_getLast? hlast)] at hd
      contradiction
  · exact ⟨a, ht, hrest⟩

/-- **Blanks behind a text of one word** make no difference. -/
theorem ofText?_of_blanks (hback : ∀ c ∈ back, Text.isCodeBlank c = true)
    (h : ofText? (t ++ back) = some [.word name]) : ofText? t = some [.word name] := by
  obtain ⟨hname, rest, hgap, hrest⟩ := exists_of_ofText? h
  obtain ⟨front, hfront⟩ := Gap.suffix_of_behind? hgap
  have hsplit : t ++ back = front ++ name ++ rest := by
    rw [List.append_assoc]
    exact hfront.symm
  obtain ⟨others, rfl, rfl⟩ := exists_of_append_blanks hname hback hsplit
  have hothers := Gap.behind?_of_blanks hback hrest
  have hgap' : Gap.behind? .blanks (front ++ name ++ others) = some (name ++ others) := by
    obtain ⟨c, word, rfl, hc⟩ := hname.exists_cons
    rw [hsplit, List.append_assoc] at hgap
    rw [List.append_assoc]
    exact Gap.behind?_congr hc hgap _
  rw [ofText?_identifier hname (endsWord_of_gap hothers) hgap', ofText?_of_gap_nil hothers]
  rfl

end Token

end TypedStyle.Code
