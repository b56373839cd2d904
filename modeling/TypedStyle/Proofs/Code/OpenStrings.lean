import Mathlib.Data.List.TakeWhile
import TypedStyle.Proofs.Code.Stopping
/-!
# Strings that reach too far

A string that is not closed where it should be ends at the next quote behind, which is the one that
opens the next string.  From there on what was code is read as strings, and what was strings as
code.  Where quotes come in pairs, with little between the two of a pair that could mean anything as
code, the last of these strings is never closed.

* `Closes` — where a string can end;
* `LeavesOpen` — a text with quotes in pairs;
* `LeavesOpen.isSwapped` — a string that goes on into such a text ends inside a pair.
-/

namespace TypedStyle.Code

variable {t u v w rest stop : Text} {content : Content}

/-! ## Where strings end -/

/-- A string read from the text on ends at a quote, which marks follow if it is a raw one, and no
other quote in it stands there without a backslash. -/
def Closes (t rest : Text) : Prop :=
  ∃ u marks, t = u ++ '"' :: (marks ++ rest) ∧ (∀ c ∈ marks, c = '#') ∧
    (marks = [] → ∀ x y, u = x ++ '"' :: y → x.getLast? = some '\\')

/-- The first quote, or one behind it. -/
theorem split_at_quote {s : Text} (hu : '"' ∉ u) (h : u ++ '"' :: t = v ++ '"' :: s) :
    (v = u ∧ s = t) ∨ ∃ w, v = u ++ '"' :: w ∧ t = w ++ '"' :: s := by
  induction u generalizing v with
  | nil =>
      cases v with
      | nil => exact .inl ⟨rfl, (List.cons.inj h).2.symm⟩
      | cons c v =>
          obtain ⟨rfl, ht⟩ := List.cons.inj h
          exact .inr ⟨v, rfl, ht⟩
  | cons c u ih =>
      obtain ⟨hc, hu⟩ : '"' ≠ c ∧ '"' ∉ u := by simpa using hu
      cases v with
      | nil => exact absurd (List.cons.inj h).1.symm hc
      | cons d v =>
          obtain ⟨rfl, hrest⟩ := List.cons.inj h
          rcases ih hu hrest with ⟨rfl, rfl⟩ | ⟨w, rfl, ht⟩
          · exact .inl ⟨rfl, rfl⟩
          · exact .inr ⟨w, rfl, ht⟩

/-- A string may go on with characters in front, if a quote among them has a backslash before it. -/
theorem Closes.append (h : Closes t rest)
    (hu : ∀ x y, u = x ++ '"' :: y → x.getLast? = some '\\') : Closes (u ++ t) rest := by
  obtain ⟨v, marks, rfl, hmarks, hv⟩ := h
  refine ⟨u ++ v, marks, by simp, hmarks, fun hnil x y heq => ?_⟩
  rcases List.append_eq_append_iff.mp heq with ⟨a, rfl, ha⟩ | ⟨a, rfl, ha⟩
  · have hlast := hv hnil a y ha
    simp [hlast]
  · cases a with
    | nil =>
        have hlast := hv hnil [] y (by simpa using ha.symm)
        contradiction
    | cons c a =>
        obtain ⟨rfl, -⟩ := List.cons.inj ha
        exact hu x a rfl

/-- A string goes on over a character that is no quote. -/
theorem Closes.cons (h : Closes t rest) {c : Char} (hc : c ≠ '"') : Closes (c :: t) rest := by
  refine h.append (u := [c]) fun x y heq => ?_
  cases x with
  | nil => exact absurd (List.cons.inj heq).1 hc
  | cons d x => simp at heq

namespace Spelling

/-- The digits of a byte are digits in base sixteen. -/
theorem isHexDigit_of_isByteNumber {high low : Char} (h : isByteNumber high low content = true) :
    isHexDigit high = true ∧ isHexDigit low = true := by
  cases content with
  | characters =>
      simp only [isByteNumber, Bool.and_eq_true, decide_eq_true_eq] at h
      have hlast : high ≤ '9' := Char.le_trans h.1.2 (by decide)
      have hdigit : high.isDigit = true := by simpa [Char.isDigit] using ⟨h.1.1, hlast⟩
      exact ⟨by simp [isHexDigit, hdigit], h.2⟩
  | bytes => exact Bool.and_eq_true_iff.mp h
  | terminated => exact Bool.and_eq_true_iff.mp (Bool.and_eq_true_iff.mp h).1

/-- Neither a quote nor a back quote is among the digits of a number or in the brace behind it. -/
theorem exists_of_isCharacterNumber {c : Char}
    (hnumber : isCharacterNumber (t.takeWhile (· ≠ '\x7d')) = true)
    (hbehind : t.dropWhile (· ≠ '\x7d') = c :: rest) :
    ∃ u, t = u ++ rest ∧ '\x60' ∉ u ∧ '"' ∉ u := by
  have hdigits : ∀ c ∈ t.takeWhile (· ≠ '\x7d'), c ≠ '"' ∧ c ≠ '\x60' := by
    intro c hc
    simp only [isCharacterNumber, Bool.and_eq_true] at hnumber
    exact ne_stop (p := fun c => isHexDigit c || c = '_') (by decide) (by decide)
      (List.all_eq_true.mp hnumber.1.1.1 c hc)
  have hsplit := List.takeWhile_append_dropWhile (p := (· ≠ '\x7d')) (l := t)
  have hbrace : c = '\x7d' := by
    have hhead := List.head?_dropWhile_not (· ≠ '\x7d') t
    rw [hbehind] at hhead
    simpa using hhead
  subst hbrace
  rw [hbehind] at hsplit
  refine ⟨t.takeWhile (· ≠ '\x7d') ++ ['\x7d'], by simpa using hsplit.symm, ?_, ?_⟩
  · simpa using fun hmem => (hdigits _ hmem).2 rfl
  · simpa using fun hmem => (hdigits _ hmem).1 rfl

/-- An escape has no back quote in it, and no quote that is not all of it. -/
theorem exists_of_behindEscape? (h : behindEscape? content t = some rest) :
    ∃ u, t = u ++ rest ∧ '\x60' ∉ u ∧ ('"' ∈ u → u = ['"']) := by
  have hhex : ∀ {c : Char}, isHexDigit c = true → c ≠ '"' ∧ c ≠ '\x60' :=
    ne_stop (by decide) (by decide)
  unfold behindEscape? at h
  split at h
  · next high low others =>
    obtain ⟨hnumber, heq⟩ := Option.ite_some_none_eq_some.mp h
    obtain rfl := heq
    obtain ⟨hhigh, hlow⟩ := isHexDigit_of_isByteNumber hnumber
    have hhigh := hhex hhigh
    have hlow := hhex hlow
    exact ⟨['x', high, low], rfl, by simp [hhigh.2.symm, hlow.2.symm],
      by simp [hhigh.1.symm, hlow.1.symm]⟩
  · next others =>
    dsimp only at h
    split at h
    · next hnumber =>
      split at h
      · next hbehind =>
        obtain rfl := Option.some.inj h
        simp only [Bool.and_eq_true] at hnumber
        obtain ⟨u, hu, hback, hquote⟩ := exists_of_isCharacterNumber hnumber.1.2 hbehind
        exact ⟨'u' :: '\x7b' :: u, by rw [hu]; rfl, by simpa using hback, by simp [hquote]⟩
      · cases h
    · cases h
  · next c others _ _ =>
    obtain ⟨hshort, heq⟩ := Option.ite_some_none_eq_some.mp h
    obtain rfl := heq
    refine ⟨[c], rfl, ?_, by simp [eq_comm]⟩
    rintro hmem
    obtain rfl := List.mem_singleton.mp hmem
    simp [isShortEscape, Text.ofString] at hshort
  · cases h

/-- A character ends at a quote, and a back quote in front of it is all of the character. -/
theorem exists_of_behindCharacter? (h : behindCharacter? content t = some rest) :
    ∃ u, t = u ++ '\'' :: rest ∧ ('\x60' ∈ u → u = ['\x60']) := by
  unfold behindCharacter? at h
  split at h
  · obtain ⟨u, hescape, hquote⟩ := Option.bind_eq_some_iff.mp h
    obtain ⟨v, rfl, hv, -⟩ := exists_of_behindEscape? hescape
    split at hquote
    · obtain rfl := Option.some.inj hquote
      exact ⟨'\\' :: v, rfl, by simp [hv]⟩
    · contradiction
  · obtain ⟨-, heq⟩ := Option.ite_some_none_eq_some.mp h
    obtain rfl := heq
    exact ⟨[_], rfl, by simp [eq_comm]⟩
  · contradiction

/-- What is read as a string closes at a quote, with any escaped quotes in it. -/
theorem closes_of_behindString? {bound : Nat} (h : behindString? content bound t = some rest) :
    Closes t rest := by
  fun_induction behindString? content bound t with
  | case1 bound t =>
      obtain rfl := Option.some.inj h
      exact ⟨[], [], rfl, by simp, by simp⟩
  | case2 bound t ih => exact ((ih h).cons (by decide)).cons (by decide)
  | case3 bound t ih => exact (((ih h).cons (by decide)).cons (by decide)).cons (by decide)
  | case4 bound t _ _ ih =>
      obtain ⟨behind, hescape, hstring⟩ := Option.bind_eq_some_iff.mp h
      obtain ⟨u, rfl, -, hquote⟩ := exists_of_behindEscape? hescape
      refine (ih behind hstring).append (u := '\\' :: u) fun x y heq => ?_
      have hu : u = ['"'] := by
        refine hquote ?_
        have hmem : '"' ∈ '\\' :: u := by simp [heq]
        simpa using hmem
      subst hu
      rcases x with _ | ⟨c, _ | ⟨d, x⟩⟩
      · exact absurd (List.cons.inj heq).1 (by decide)
      · obtain rfl := (List.cons.inj heq).1
        rfl
      · simp at heq
  | case5 bound t ih => exact ((ih h).cons (by decide)).cons (by decide)
  | case6 bound c t hquote _ _ _ _ _ ih => exact (ih h).cons hquote
  | case7 => contradiction
  | case8 => contradiction

/-- A raw string closes at a quote with the marks behind it; without any marks, at the first
quote. -/
theorem exists_of_behindRaw? {marks : Text} (h : behindRaw? content marks t = some rest) :
    ∃ u, t = u ++ '"' :: (marks ++ rest) ∧ (marks = [] → '"' ∉ u) := by
  fun_induction behindRaw? content marks t with
  | case1 t ih =>
      obtain ⟨u, rfl, hu⟩ := ih h
      exact ⟨'\r' :: '\n' :: u, rfl, fun hnil => by simpa using hu hnil⟩
  | case2 c t _ htest =>
      obtain ⟨hc, hprefix⟩ := Bool.and_eq_true_iff.mp htest
      obtain rfl := of_decide_eq_true hc
      obtain ⟨behind, rfl⟩ := List.isPrefixOf_iff_prefix.mp hprefix
      obtain rfl : behind = rest := by simpa using h
      exact ⟨[], rfl, by simp⟩
  | case3 c t _ htest _ ih =>
      obtain ⟨u, rfl, hu⟩ := ih h
      refine ⟨c :: u, rfl, ?_⟩
      rintro rfl
      have hc : '"' ≠ c := by
        rintro rfl
        simp at htest
      simpa [hc] using hu rfl
  | case4 => contradiction
  | case5 => contradiction

/-- Behind the marks of a raw string stands its opening quote. -/
theorem exists_of_behindHashes? (h : behindHashes? content t = some rest) :
    ∃ marks u, t = marks ++ '"' :: u ∧ (∀ c ∈ marks, c = '#') ∧ Closes u rest := by
  unfold behindHashes? at h
  split at h
  · next marks u heq =>
    obtain ⟨htake, hdrop⟩ := Prod.mk.inj heq
    have hmarks : ∀ c ∈ marks, c = '#' := by
      intro c hc
      rw [← htake] at hc
      simpa using List.mem_takeWhile_imp hc
    split at h
    · obtain ⟨v, rfl, hv⟩ := exists_of_behindRaw? h
      have hsplit := List.takeWhile_append_dropWhile (p := fun c => decide (c = '#')) (l := t)
      rw [htake, hdrop] at hsplit
      refine ⟨marks, _, hsplit.symm, hmarks, v, marks, rfl, hmarks, ?_⟩
      rintro hnil x y rfl
      simpa using hv hnil
    · contradiction
  · contradiction

end Spelling

/-! ## Texts with quotes in pairs -/

/-- May the character stand between two quotes?  It starts neither a comment nor a literal, and
there is no raw string or raw word with it. -/
def IsHarmless (c : Char) : Prop :=
  c ≠ '"' ∧ c ≠ '/' ∧ c ≠ '\'' ∧ c ≠ '#'

/-- Quotes come in pairs, with harmless characters between the two of a pair and without any
backslash in front of it. -/
inductive LeavesOpen : Text → Prop where
  | unquoted {u : Text} (hu : '"' ∉ u) : LeavesOpen u
  | pair {u v w : Text} (hu : '"' ∉ u ∧ '\\' ∉ u) (hv : ∀ c ∈ v, IsHarmless c)
    (hw : w.head? ≠ some '#') (h : LeavesOpen w) : LeavesOpen (u ++ '"' :: (v ++ '"' :: w))

/-- The text behind the first quote of a pair. -/
def IsSwapped (t : Text) : Prop :=
  ∃ v w, t = v ++ '"' :: w ∧ (∀ c ∈ v, IsHarmless c) ∧ w.head? ≠ some '#' ∧ LeavesOpen w

/-- Harmless characters are no quotes. -/
theorem not_mem_of_isHarmless (hv : ∀ c ∈ v, IsHarmless c) : '"' ∉ v :=
  fun hmem => (hv _ hmem).1 rfl

/-- A text without quotes and backslashes may stand in front. -/
theorem LeavesOpen.append (h : LeavesOpen t) (hu : '"' ∉ u ∧ '\\' ∉ u) : LeavesOpen (u ++ t) := by
  cases h with
  | unquoted ht => exact .unquoted (by simp [hu.1, ht])
  | @pair x v w hx hv hw h =>
      rw [← List.append_assoc]
      exact .pair (by simp [hu, hx]) hv hw h

/-- No mark stands behind a quote. -/
theorem LeavesOpen.not_hash (h : LeavesOpen t) : t ≠ u ++ '"' :: '#' :: v := by
  induction h generalizing u with
  | unquoted hu =>
      rintro rfl
      simp at hu
  | @pair x y w hx hy hw h ih =>
      intro heq
      rcases split_at_quote hx.1 heq with ⟨-, hhash⟩ | ⟨z, -, hz⟩
      · cases y with
        | nil => exact absurd (List.cons.inj hhash).1 (by decide)
        | cons c y => exact (hy c List.mem_cons_self).2.2.2 (List.cons.inj hhash).1.symm
      · rcases split_at_quote (not_mem_of_isHarmless hy) hz with ⟨-, rfl⟩ | ⟨z, -, hz⟩
        · exact hw rfl
        · exact ih hz

/-- **A string that goes on into such a text ends at the first quote of a pair.** -/
theorem LeavesOpen.isSwapped (h : LeavesOpen t) (hcloses : Closes t rest) : IsSwapped rest := by
  obtain ⟨u, marks, heq, hmarks, hu⟩ := hcloses
  obtain rfl : marks = [] := by
    cases marks with
    | nil => rfl
    | cons c marks =>
        obtain rfl := hmarks c List.mem_cons_self
        exact absurd heq h.not_hash
  cases h with
  | unquoted ht =>
      subst heq
      simp at ht
  | @pair x v w hx hv hw h =>
      rcases split_at_quote hx.1 heq with ⟨-, rfl⟩ | ⟨y, rfl, -⟩
      · exact ⟨v, w, rfl, hv, hw, h⟩
      · have hlast := hu rfl x y rfl
        exact absurd (List.mem_of_getLast? hlast) hx.2

/-- Or it is closed earlier, in front of a back quote. -/
theorem LeavesOpen.suffix_or_isSwapped (h : LeavesOpen t)
    (hcloses : Closes (u ++ '\x60' :: t) rest) : '\x60' :: t <:+ rest ∨ IsSwapped rest := by
  obtain ⟨v, marks, heq, hmarks, hv⟩ := hcloses
  rcases List.append_eq_append_iff.mp heq with ⟨a, rfl, ha⟩ | ⟨a, rfl, ha⟩
  · cases a with
    | nil => exact absurd (List.cons.inj ha).1 (by decide)
    | cons c a =>
        obtain ⟨rfl, rfl⟩ := List.cons.inj ha
        refine .inr (h.isSwapped ⟨a, marks, rfl, hmarks, fun hnil x y hx => ?_⟩)
        subst hx
        have hlast := hv hnil (u ++ '\x60' :: x) y (by simp)
        -- It is not the back quote that stands in front of the quote.
        have hne : x ≠ [] := by
          rintro rfl
          simp at hlast
        simpa [List.getLast?_cons, List.getLast?_eq_some_getLast hne] using hlast
  · cases a with
    | nil => exact absurd (List.cons.inj ha).1 (by decide)
    | cons c a =>
        have hsuffix : '\x60' :: t <:+ marks ++ rest := by
          rw [(List.cons.inj ha).2]
          exact List.suffix_append a _
        refine .inl (IsStop.suffix_of_append ⟨'\x60', rfl, by decide⟩ hsuffix fun c hc => ?_)
        rw [hmarks c hc]
        decide

end TypedStyle.Code
