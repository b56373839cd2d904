import TypedStyle.Text.Basic
/-!
# Trimmed texts

A text is trimmed when neither of its two ends is a character of the class that is trimmed away.
Trimming gives a trimmed text, and trimmed texts are those that it leaves alone.

* `trimmed_trimBy` — what trimming gives is trimmed;
* `trimBy_eq_self` — a trimmed text stays as it is;
* `exists_eq_trimBy` — what is trimmed away;
* `trimBy_append` — trimming stops at a piece that has nothing to trim.
-/

namespace TypedStyle.Text

/-- Neither end of the text is in the class.  The empty text has no ends. -/
structure Trimmed (p : Char → Bool) (t : Text) : Prop where
  head : ∀ c ∈ t.head?, p c = false
  last : ∀ c ∈ t.getLast?, p c = false

/-- What is left behind a run of the class does not start with a character of the class. -/
private theorem head_dropWhile {p : Char → Bool} {t : Text} :
    ∀ c ∈ (t.dropWhile p).head?, p c = false := by
  intro c hc
  have hnot := List.head?_dropWhile_not p t
  rw [Option.mem_def.mp hc] at hnot
  simpa using hnot

/-- A text that does not start with a character of the class loses nothing at its front. -/
private theorem dropWhile_eq_self {p : Char → Bool} {t : Text} (h : ∀ c ∈ t.head?, p c = false) :
    t.dropWhile p = t := by
  cases t with
  | nil => rfl
  | cons c rest =>
      have hc : p c = false := h c rfl
      simp [hc]

/-- What trimming gives is a start of what is left behind the leading run. -/
private theorem trimBy_prefix (p : Char → Bool) (t : Text) :
    trimBy p t <+: t.dropWhile p := by
  have hsuffix := List.dropWhile_suffix p (l := (t.dropWhile p).reverse)
  have hprefix := List.reverse_prefix.mpr hsuffix
  rwa [List.reverse_reverse] at hprefix

/-- Trimming gives a trimmed text. -/
theorem trimmed_trimBy (p : Char → Bool) (t : Text) : Trimmed p (trimBy p t) := by
  constructor
  · intro c hc
    obtain ⟨after, hafter⟩ := trimBy_prefix p t
    apply head_dropWhile (t := t) c
    rw [← hafter, List.head?_append, Option.mem_def.mp hc]
    rfl
  · intro c hc
    rw [trimBy, List.getLast?_reverse] at hc
    exact head_dropWhile c hc

/-- Trimming leaves a trimmed text alone. -/
theorem trimBy_eq_self {p : Char → Bool} {t : Text} (h : Trimmed p t) : trimBy p t = t := by
  have hfront : t.dropWhile p = t := dropWhile_eq_self h.head
  have hback : t.reverse.dropWhile p = t.reverse := by
    apply dropWhile_eq_self
    rw [List.head?_reverse]
    exact h.last
  rw [trimBy, hfront, hback, List.reverse_reverse]

/-- **A text is what is left of it**, between two runs of the class that is trimmed away. -/
theorem exists_eq_trimBy (p : Char → Bool) (t : Text) :
    ∃ front back, t = front ++ (trimBy p t ++ back) ∧ (∀ c ∈ front, p c = true) ∧
      ∀ c ∈ back, p c = true := by
  have htake : ∀ u : Text, ∀ c ∈ u.takeWhile p, p c = true :=
    fun u => List.all_eq_true.mp List.all_takeWhile
  refine ⟨t.takeWhile p, ((t.dropWhile p).reverse.takeWhile p).reverse, ?_, htake t, ?_⟩
  · rw [trimBy, ← List.reverse_append, List.takeWhile_append_dropWhile, List.reverse_reverse,
      List.takeWhile_append_dropWhile]
  · exact fun c hc => htake _ c (List.mem_reverse.mp hc)

/-- A leading run of the class ends at the latest at a piece that has nothing of the class. -/
private theorem dropWhile_append_of_head {p : Char → Bool} {middle : Text} (hne : middle ≠ [])
    (hmiddle : ∀ c ∈ middle, p c = false) (front behind : Text) :
    (front ++ middle ++ behind).dropWhile p = front.dropWhile p ++ middle ++ behind := by
  obtain ⟨c, rest, rfl⟩ := List.exists_cons_of_ne_nil hne
  have hc : p c = false := hmiddle c List.mem_cons_self
  induction front with
  | nil => simp [hc]
  | cons d front ih =>
      by_cases hd : p d = true
      · simpa [hd] using ih
      · simp [hd]

/-- **Trimming does not reach beyond a piece that has nothing to trim.** -/
theorem trimBy_append {p : Char → Bool} {middle : Text} (hne : middle ≠ [])
    (hmiddle : ∀ c ∈ middle, p c = false) (front behind : Text) :
    trimBy p (front ++ middle ++ behind) =
      front.dropWhile p ++ middle ++ (behind.reverse.dropWhile p).reverse := by
  have hback := dropWhile_append_of_head (p := p)
    (by simpa using hne : middle.reverse ≠ []) (by simpa using hmiddle) behind.reverse
    (front.dropWhile p).reverse
  rw [trimBy, dropWhile_append_of_head hne hmiddle, List.reverse_append, List.reverse_append,
    ← List.append_assoc, hback]
  simp [List.append_assoc]

end TypedStyle.Text
