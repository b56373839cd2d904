import Mathlib.Data.List.Basic
import TypedStyle.Grammar.Token
import TypedStyle.Proofs.Text.Characters
/-!
# Tokens as leftmost longest spans

A span of a text is valid when it is a run of small letters and hyphens, or a run of digits, and
both its ends are word boundaries.  The scanner looks at one character after the other and cuts a
run back to the last boundary in it; what it finds can be said without it.  The first token is the
longest valid span at the smallest start that any valid span has, each later one is found in the
same way behind the token before it, and so there is just one list of spans that the tokens can be.

* `fits_cons` — the spans that start a text, one character after the other;
* `valid_iff` — a span is valid when it fits behind what stands before it;
* `leftmost_spans`, `Leftmost.unique` — the scanner finds the one list of leftmost longest spans;
* `tokens_leftmost_longest` — the tokens are its texts, they do not overlap, and no valid span lies
  outside of all of them.
-/

namespace TypedStyle.Grammar

/-! ## Characters of the two kinds -/

section Characters

variable {c : Char}

/-- Letters and digits are word characters. -/
theorem isWordChar_of_isAlphanum (h : c.isAlphanum = true) : isWordChar c = true :=
  Bool.or_eq_true_iff.mpr (.inl h)

theorem isWordChar_of_isLower (h : c.isLower = true) : isWordChar c = true :=
  isWordChar_of_isAlphanum (Text.isAlphanum_of_isLower h)

theorem isWordChar_of_isDigit (h : c.isDigit = true) : isWordChar c = true :=
  isWordChar_of_isAlphanum (Text.isAlphanum_of_isDigit h)

theorem isNameChar_of_isLower (h : c.isLower = true) : isNameChar c = true :=
  Bool.or_eq_true_iff.mpr (.inl h)

/-- The characters of names are those of ASCII. -/
theorem toNat_lt_of_isNameChar (h : isNameChar c = true) : c.toNat < 128 := by
  rcases Bool.or_eq_true_iff.mp h with hlower | hhyphen
  · exact Text.toNat_lt_of_isAlphanum (Text.isAlphanum_of_isLower hlower)
  · rw [of_decide_eq_true hhyphen]
    decide

/-- None of them is a digit. -/
theorem isDigit_of_isNameChar (h : isNameChar c = true) : c.isDigit = false :=
  Text.forall_ascii (p := fun c => isNameChar c = true → c.isDigit = false) (by decide)
    (toNat_lt_of_isNameChar h) h

end Characters

/-! ## Spans and their validity -/

/-- A stretch of a text, from the place of its first character to the place behind its last one. -/
structure Span where
  start : Nat
  stop : Nat
  deriving DecidableEq, Repr

/-- Is the place behind so many characters of a text a word boundary? -/
def isBoundaryAt (t : Text) (place : Nat) : Bool :=
  isBoundary (t.take place).getLast? (t.drop place).head?

namespace Span

/-- The characters of a text within a span. -/
def text (t : Text) (span : Span) : Text :=
  (t.drop span.start).take (span.stop - span.start)

/-- A span is valid when it is a run of one kind between two word boundaries. -/
structure Valid (t : Text) (span : Span) : Prop where
  start_lt_stop : span.start < span.stop
  stop_le_length : span.stop ≤ t.length
  oneKind : (∀ c ∈ span.text t, isNameChar c = true) ∨ ∀ c ∈ span.text t, c.isDigit = true
  starts : isBoundaryAt t span.start = true
  stops : isBoundaryAt t span.stop = true

/-- Two spans overlap when some character is in both. -/
def Overlaps (a b : Span) : Prop :=
  a.start < b.stop ∧ b.start < a.stop

end Span

open TypedStyle.Grammar.Span (Valid)

/-- The list of the spans of a text that are found from a place on, from left to right: each is the
longest valid one at the smallest start behind the one before it, and none is left at the end. -/
inductive Leftmost (t : Text) : Nat → List Span → Prop
  | done {place : Nat} (none_left : ∀ span, Valid t span → span.start < place) :
      Leftmost t place []
  | next {place : Nat} {span : Span} {later : List Span} (valid : Valid t span)
      (behind : place ≤ span.start)
      (leftmost : ∀ other, Valid t other → place ≤ other.start → span.start ≤ other.start)
      (longest : ∀ other, Valid t other → other.start = span.start → other.stop ≤ span.stop)
      (rest : Leftmost t span.stop later) :
      Leftmost t place (span :: later)

/-- What is found from a place on is determined.  By induction on one of the two lists: the start of
the first span is the smallest one, and its end the largest for this start. -/
theorem Leftmost.unique {t : Text} {place : Nat} {a b : List Span} (ha : Leftmost t place a)
    (hb : Leftmost t place b) : a = b := by
  induction ha generalizing b with
  | done none_left =>
      cases hb with
      | done => rfl
      | next valid behind => exact absurd (none_left _ valid) (Nat.not_lt.mpr behind)
  | @next place span later valid behind leftmost longest _ ih =>
      cases hb with
      | done none_left => exact absurd (none_left _ valid) (Nat.not_lt.mpr behind)
      | @next _ span' later' valid' behind' leftmost' longest' rest' =>
          have hstart : span.start = span'.start :=
            Nat.le_antisymm (leftmost _ valid' behind') (leftmost' _ valid behind)
          have hstop : span.stop = span'.stop :=
            Nat.le_antisymm (longest' _ valid hstart) (longest _ valid' hstart.symm)
          have hspan : span = span' := by
            cases span; cases span'; simp_all
          subst hspan
          rw [ih rest']

/-- Every span that is found is valid, and starts where it may. -/
theorem Leftmost.valid_of_mem {t : Text} {place : Nat} {found : List Span}
    (h : Leftmost t place found) {span : Span} (hmem : span ∈ found) :
    Valid t span ∧ place ≤ span.start := by
  induction h with
  | done => exact absurd hmem List.not_mem_nil
  | @next place first later valid behind _ _ _ ih =>
      rcases List.mem_cons.mp hmem with rfl | hlater
      · exact ⟨valid, behind⟩
      · obtain ⟨hvalid, hplace⟩ := ih hlater
        have hproper := valid.start_lt_stop
        exact ⟨hvalid, by omega⟩

/-- Spans that are found come one behind the other. -/
theorem Leftmost.pairwise {t : Text} {place : Nat} {found : List Span}
    (h : Leftmost t place found) : found.Pairwise fun a b => a.stop ≤ b.start := by
  induction h with
  | done => exact List.Pairwise.nil
  | next _ _ _ _ rest ih =>
      exact List.pairwise_cons.mpr ⟨fun later hmem => (rest.valid_of_mem hmem).2, ih⟩

/-- Every valid span behind the place overlaps one that is found: it starts before the first one
ends, or behind it. -/
theorem Leftmost.exists_overlaps {t : Text} {place : Nat} {found : List Span}
    (h : Leftmost t place found) {span : Span} (hvalid : Valid t span)
    (hbehind : place ≤ span.start) : ∃ token ∈ found, token.Overlaps span := by
  induction h with
  | done none_left => exact absurd (none_left _ hvalid) (Nat.not_lt.mpr hbehind)
  | @next place first later _ _ leftmost _ _ ih =>
      have hproper := hvalid.start_lt_stop
      have hstart := leftmost span hvalid hbehind
      rcases Nat.lt_or_ge span.start first.stop with hinside | hlater
      · exact ⟨first, List.mem_cons_self, by omega, hinside⟩
      · obtain ⟨token, hmem, hoverlaps⟩ := ih hlater
        exact ⟨token, List.mem_cons_of_mem _ hmem, hoverlaps⟩

/-- Where no valid span starts, nothing is found. -/
theorem Leftmost.of_succ {t : Text} {place : Nat} {found : List Span}
    (hnone : ∀ span, Valid t span → span.start ≠ place) (h : Leftmost t (place + 1) found) :
    Leftmost t place found := by
  cases h with
  | done none_left =>
      refine .done fun span hvalid => ?_
      have hlt := none_left span hvalid
      have hne := hnone span hvalid
      omega
  | next valid behind leftmost longest rest =>
      refine .next valid (by omega) (fun other hother hplace => ?_) longest rest
      have hne := hnone other hother
      exact leftmost other hother (by omega)

/-! ## Runs at the start of a text -/

/-- The first characters of a text, so many, are a run of a kind that ends at a word boundary. -/
structure Fits (kind : Char → Bool) (t : Text) (n : Nat) : Prop where
  pos : 0 < n
  le_length : n ≤ t.length
  all : ∀ c ∈ t.take n, kind c = true
  stops : isBoundary (t.take n).getLast? (t.drop n).head? = true

/-- What fits is not empty. -/
theorem Fits.exists_succ {kind : Char → Bool} {t : Text} {n : Nat} (h : Fits kind t n) :
    ∃ m, n = m + 1 :=
  Nat.exists_eq_succ_of_ne_zero (Nat.ne_of_gt h.pos)

/-- Nothing fits into the empty text. -/
theorem not_fits_nil {kind : Char → Bool} {n : Nat} : ¬ Fits kind [] n := by
  intro h
  have hpos := h.pos
  have hle := h.le_length
  simp at hle
  omega

/-- A run is a single character in front of a boundary, or a character and a run behind it. -/
theorem fits_cons {kind : Char → Bool} {c : Char} {rest : Text} {n : Nat} :
    Fits kind (c :: rest) (n + 1) ↔
      kind c = true ∧ (n = 0 ∧ isBoundary (some c) rest.head? = true ∨ Fits kind rest n) := by
  cases n with
  | zero =>
      have hnot : ¬ Fits kind rest 0 := fun h => absurd h.pos (Nat.lt_irrefl 0)
      constructor
      · intro h
        exact ⟨h.all c (by simp), .inl ⟨rfl, by simpa using h.stops⟩⟩
      · rintro ⟨hkind, ⟨-, hstops⟩ | hfits⟩
        · exact ⟨by simp, by simp, by simpa using hkind, by simpa using hstops⟩
        · exact absurd hfits hnot
  | succ n =>
      have hlast : ∀ hle : n + 1 ≤ rest.length,
          ((c :: rest).take (n + 2)).getLast? = (rest.take (n + 1)).getLast? := by
        intro hle
        cases rest with
        | nil => simp at hle
        | cons d more => simp [List.take_succ_cons, List.getLast?_cons_cons]
      constructor
      · intro h
        have hle : n + 1 ≤ rest.length := by simpa using h.le_length
        have hstops := h.stops
        rw [hlast hle] at hstops
        exact ⟨h.all c (by simp), .inr ⟨by simp, hle,
          fun d hd => h.all d (by simp [hd]), by simpa using hstops⟩⟩
      · rintro ⟨hkind, ⟨hzero, -⟩ | hfits⟩
        · exact absurd hzero (Nat.succ_ne_zero n)
        · have hstops := hfits.stops
          rw [← hlast hfits.le_length] at hstops
          refine ⟨by simp, by simpa using hfits.le_length, ?_, by simpa using hstops⟩
          simpa [List.take_succ_cons] using ⟨hkind, by simpa using hfits.all⟩

/-- If the scanner finds no run, there is none. -/
theorem not_fits_of_longestSpan {kind : Char → Bool} {t : Text}
    (h : longestSpan kind t = none) (n : Nat) : ¬ Fits kind t n := by
  fun_induction longestSpan kind t generalizing n with
  | case1 => exact not_fits_nil
  | case2 => contradiction
  | case3 => contradiction
  | case4 c rest hkind hinner hboundary ih =>
      intro hfits
      obtain ⟨n, rfl⟩ := hfits.exists_succ
      rcases (fits_cons.mp hfits).2 with ⟨-, hends⟩ | hlater
      · exact hboundary hends
      · exact ih hinner n hlater
  | case5 c rest hkind =>
      intro hfits
      obtain ⟨n, rfl⟩ := hfits.exists_succ
      exact hkind (fits_cons.mp hfits).1

/-- What the scanner finds is a run, and no run is longer. -/
theorem fits_of_longestSpan {kind : Char → Bool} {t span : Text}
    (h : longestSpan kind t = some span) :
    Fits kind t span.length ∧ ∀ n, Fits kind t n → n ≤ span.length := by
  fun_induction longestSpan kind t generalizing span with
  | case1 => contradiction
  | case2 c rest hkind inner hinner ih =>
      obtain rfl := Option.some.inj h
      obtain ⟨hfits, hmost⟩ := ih hinner
      refine ⟨fits_cons.mpr ⟨hkind, .inr hfits⟩, fun n hn => ?_⟩
      obtain ⟨n, rfl⟩ := hn.exists_succ
      rcases (fits_cons.mp hn).2 with ⟨rfl, -⟩ | hlater
      · simp
      · simpa using hmost n hlater
  | case3 c rest hkind hinner hboundary =>
      obtain rfl := Option.some.inj h
      refine ⟨fits_cons.mpr ⟨hkind, .inl ⟨rfl, hboundary⟩⟩, fun n hn => ?_⟩
      obtain ⟨n, rfl⟩ := hn.exists_succ
      rcases (fits_cons.mp hn).2 with ⟨rfl, -⟩ | hlater
      · simp
      · exact absurd hlater (not_fits_of_longestSpan hinner n)
  | case4 => contradiction
  | case5 => contradiction

/-- No text starts with runs of both kinds. -/
theorem not_fits_both {t : Text} {m n : Nat} (hname : Fits isNameChar t m) :
    ¬ Fits Char.isDigit t n := by
  intro hdigits
  cases t with
  | nil => exact not_fits_nil hname
  | cons c rest =>
      obtain ⟨m, rfl⟩ := hname.exists_succ
      obtain ⟨n, rfl⟩ := hdigits.exists_succ
      have hdigit := (fits_cons.mp hdigits).1
      rw [isDigit_of_isNameChar (fits_cons.mp hname).1] at hdigit
      contradiction

/-- Behind the given character, the first characters of a text, so many, are a run of one of the
two kinds between word boundaries. -/
def FitsBehind (before : Option Char) (t : Text) (n : Nat) : Prop :=
  isBoundary before t.head? = true ∧ (Fits isNameChar t n ∨ Fits Char.isDigit t n)

/-- **Where no token is found, none fits.** -/
theorem not_fitsBehind_of_tokenAt? {before : Option Char} {t : Text}
    (h : tokenAt? before t = none) (n : Nat) : ¬ FitsBehind before t n := by
  rintro ⟨hboundary, hfits⟩
  rw [tokenAt?, if_pos hboundary, Option.or_eq_none_iff] at h
  rcases hfits with hname | hdigits
  · exact not_fits_of_longestSpan h.1 n hname
  · exact not_fits_of_longestSpan h.2 n hdigits

/-- A token that starts a text is the longest one that could. -/
theorem fitsBehind_of_tokenAt? {before : Option Char} {t token : Text}
    (h : tokenAt? before t = some token) :
    token = t.take token.length ∧ FitsBehind before t token.length ∧
      ∀ n, FitsBehind before t n → n ≤ token.length := by
  unfold tokenAt? at h
  split at h
  · next hboundary =>
    rcases Option.or_eq_some_iff.mp h with hname | ⟨hnone, hdigits⟩
    · obtain ⟨hfits, hmost⟩ := fits_of_longestSpan hname
      have hprefix := longestSpan_prefix hname
      refine ⟨List.prefix_iff_eq_take.mp hprefix, ⟨hboundary, .inl hfits⟩, ?_⟩
      rintro n ⟨-, hn | hn⟩
      · exact hmost n hn
      · exact absurd hn (not_fits_both hfits)
    · obtain ⟨hfits, hmost⟩ := fits_of_longestSpan hdigits
      have hprefix := longestSpan_prefix hdigits
      refine ⟨List.prefix_iff_eq_take.mp hprefix, ⟨hboundary, .inr hfits⟩, ?_⟩
      rintro n ⟨-, hn | hn⟩
      · exact absurd hn (not_fits_of_longestSpan hnone n)
      · exact hmost n hn
  · contradiction

/-- A span is valid when it fits behind the character before it. -/
theorem valid_iff {front rest : Text} {span : Span} (hstart : span.start = front.length) :
    Valid (front ++ rest) span ↔
      ∃ n, span.stop = front.length + n ∧ FitsBehind front.getLast? rest n := by
  obtain ⟨start, stop⟩ := span
  obtain rfl : start = front.length := hstart
  have htext : ∀ n, Span.text (front ++ rest) ⟨front.length, front.length + n⟩ = rest.take n := by
    simp [Span.text]
  have hfirst : isBoundaryAt (front ++ rest) front.length =
      isBoundary front.getLast? rest.head? := by
    rw [isBoundaryAt, List.take_left, List.drop_left]
  have hlast : ∀ n, 0 < n → n ≤ rest.length →
      isBoundaryAt (front ++ rest) (front.length + n) =
        isBoundary (rest.take n).getLast? (rest.drop n).head? := by
    intro n hpos hle
    have hne : rest.take n ≠ [] := by
      rw [← List.length_pos_iff, List.length_take]
      omega
    rw [isBoundaryAt, List.take_length_add_append, List.drop_length_add_append,
      List.getLast?_append_of_ne_nil _ hne]
  constructor
  · intro h
    have hproper := h.start_lt_stop
    have hlength := h.stop_le_length
    simp only [List.length_append] at hproper hlength
    obtain ⟨n, rfl⟩ : ∃ n, stop = front.length + n := ⟨stop - front.length, by omega⟩
    have hpos : 0 < n := by omega
    have hle : n ≤ rest.length := by omega
    have hstops := h.stops
    have hkind := h.oneKind
    rw [htext] at hkind
    rw [hlast n hpos hle] at hstops
    exact ⟨n, rfl, hfirst ▸ h.starts,
      hkind.imp (fun hall => ⟨hpos, hle, hall, hstops⟩) fun hall => ⟨hpos, hle, hall, hstops⟩⟩
  · rintro ⟨n, rfl, hstarts, hfits⟩
    have hall : (∀ c ∈ rest.take n, isNameChar c = true) ∨ ∀ c ∈ rest.take n, c.isDigit = true :=
      hfits.imp Fits.all Fits.all
    obtain ⟨hpos, hle, hstops⟩ :
        0 < n ∧ n ≤ rest.length ∧
          isBoundary (rest.take n).getLast? (rest.drop n).head? = true := by
      rcases hfits with h | h <;> exact ⟨h.pos, h.le_length, h.stops⟩
    refine ⟨by simpa using hpos, by simpa using hle, ?_, ?_, ?_⟩
    · rwa [htext]
    · rwa [hfirst]
    · rwa [hlast n hpos hle]

/-! ## What the scanner finds -/

/-- The spans of the tokens in the part of a text that is left at a place, given the character
before it and how many characters still belong to the token found last. -/
def spansFrom (place : Nat) (before : Option Char) (inside : Nat) : Text → List Span
  | [] => []
  | c :: rest =>
    match inside with
    | more + 1 => spansFrom (place + 1) (some c) more rest
    | 0 =>
      match tokenAt? before (c :: rest) with
      | some token =>
        ⟨place, place + token.length⟩ :: spansFrom (place + 1) (some c) (token.length - 1) rest
      | none => spansFrom (place + 1) (some c) 0 rest

/-- The spans of the tokens of a text. -/
def spans (t : Text) : List Span :=
  spansFrom 0 none 0 t

/-- The invariant of the scan: what is found in the rest of a text are the leftmost longest spans
behind the token that the rest begins in.  By induction on the rest. -/
theorem leftmost_spansFrom (front rest : Text) {inside : Nat} (hinside : inside ≤ rest.length) :
    Leftmost (front ++ rest) (front.length + inside)
      (spansFrom front.length front.getLast? inside rest) := by
  induction rest generalizing front inside with
  | nil =>
      obtain rfl : inside = 0 := by simpa using hinside
      refine .done fun span hvalid => ?_
      have hproper := hvalid.start_lt_stop
      have hle := hvalid.stop_le_length
      simp only [List.append_nil] at hle
      omega
  | cons c rest ih =>
      have hmove : ∀ inside, inside ≤ rest.length →
          Leftmost (front ++ c :: rest) (front.length + (inside + 1))
            (spansFrom (front.length + 1) (some c) inside rest) := by
        intro inside hle
        have := ih (front ++ [c]) hle
        simpa [Nat.add_assoc, Nat.add_comm 1] using this
      cases inside with
      | succ more => exact hmove more (by simpa using hinside)
      | zero =>
          rw [spansFrom]
          split
          · next token hfound =>
            obtain ⟨-, hfits, hmost⟩ := fitsBehind_of_tokenAt? hfound
            have hvalid : Valid (front ++ c :: rest) ⟨front.length, front.length + token.length⟩ :=
              (valid_iff rfl).mpr ⟨token.length, rfl, hfits⟩
            have hproper := hvalid.start_lt_stop
            have hinside := hvalid.stop_le_length
            simp only [List.length_append, List.length_cons] at hproper hinside
            refine .next hvalid (Nat.le_refl _) (fun other _ hplace => hplace)
              (fun other hother hstart => ?_) ?_
            · obtain ⟨n, hstop, hn⟩ := (valid_iff hstart).mp hother
              have hle := hmost n hn
              show other.stop ≤ front.length + token.length
              omega
            · have hlater := hmove (token.length - 1) (by omega)
              rwa [show token.length - 1 + 1 = token.length by omega] at hlater
          · next hfound =>
            refine .of_succ (fun span hvalid hstart => ?_) (hmove 0 (Nat.zero_le _))
            obtain ⟨n, -, hfits⟩ := (valid_iff hstart).mp hvalid
            exact not_fitsBehind_of_tokenAt? hfound n hfits

/-- The scanner finds the leftmost longest spans of a text. -/
theorem leftmost_spans (t : Text) : Leftmost t 0 (spans t) :=
  leftmost_spansFrom [] t (Nat.zero_le _)

/-- The tokens found in a part of a text are the texts of the spans found there. -/
theorem tokensFrom_eq (front rest : Text) (before : Option Char) (inside : Nat) :
    tokensFrom before inside rest =
      (spansFrom front.length before inside rest).map (Span.text (front ++ rest)) := by
  induction rest generalizing front before inside with
  | nil => rfl
  | cons c rest ih =>
      have hmove : ∀ inside, tokensFrom (some c) inside rest =
          (spansFrom (front.length + 1) (some c) inside rest).map
            (Span.text (front ++ c :: rest)) := by
        intro inside
        simpa using ih (front ++ [c]) (some c) inside
      cases inside with
      | succ more => exact hmove more
      | zero =>
          rw [tokensFrom, spansFrom]
          cases hfound : tokenAt? before (c :: rest) with
          | none => exact hmove 0
          | some token =>
              have htoken : Span.text (front ++ c :: rest)
                  ⟨front.length, front.length + token.length⟩ = token := by
                rw [Span.text, List.drop_left, Nat.add_sub_cancel_left]
                exact (fitsBehind_of_tokenAt? hfound).1.symm
              simp only [List.map_cons, htoken, hmove]

/-- The tokens of a text are the texts of the spans that the scanner finds. -/
theorem tokens_eq (t : Text) : tokens t = (spans t).map (Span.text t) :=
  tokensFrom_eq [] t none 0

/-- **The tokens are the leftmost longest valid spans.**  There is exactly one list of spans of
which each is the longest valid one at the smallest start behind the one before it, until there is
no valid span left, and the tokens are the texts of these spans.  They do not overlap, they come in
the order of the text, and every valid span of the text overlaps one of them. -/
theorem tokens_leftmost_longest (t : Text) :
    ∃ found : List Span,
      (∀ other, Leftmost t 0 other ↔ other = found) ∧
      tokens t = found.map (Span.text t) ∧
      (found.Pairwise fun a b => a.stop ≤ b.start) ∧
      ∀ span, Valid t span → ∃ token ∈ found, token.Overlaps span := by
  have hfound := leftmost_spans t
  refine ⟨spans t, fun other => ⟨fun h => h.unique hfound, ?_⟩, tokens_eq t, hfound.pairwise,
    fun span hvalid => hfound.exists_overlaps hvalid (Nat.zero_le _)⟩
  rintro rfl
  exact hfound

/-- A hyphen behind a digit starts a token, and one in front of a capital ends a token. -/
example : spans "1-ab foo-Bar x_y" = [⟨0, 1⟩, ⟨1, 4⟩, ⟨5, 9⟩] := by decide

end TypedStyle.Grammar
