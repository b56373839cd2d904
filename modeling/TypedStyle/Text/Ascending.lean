import TypedStyle.Text.Basic
/-!
# Ascending lists of texts

A set of texts is kept as the strictly ascending list of its members, so that equal sets are equal
lists.

* `mem_ascending` — the list has exactly the given members;
* `ascending_pairwise` — it is strictly ascending;
* `eq_of_ascending` — two strictly ascending lists with the same members are equal.
-/

namespace TypedStyle.Text

/-- Puts a text at its place in an ascending list, unless it is there already. -/
def insertAscending (t : Text) : List Text → List Text
  | [] => [t]
  | u :: us =>
    if t < u then t :: u :: us
    else if t = u then u :: us
    else u :: insertAscending t us

/-- The strictly ascending list of the given texts. -/
def ascending (texts : List Text) : List Text :=
  texts.foldr insertAscending []

/-- The members behind an insertion are the new text and those from before. -/
theorem mem_insertAscending {t x : Text} {texts : List Text} :
    x ∈ insertAscending t texts ↔ x = t ∨ x ∈ texts := by
  induction texts with
  | nil => simp [insertAscending]
  | cons u us ih =>
    simp only [insertAscending]
    split
    · simp
    · split
      · next h => simp [h]
      · simp [ih, or_left_comm]

/-- Insertion keeps texts in ascending order, each of them once. -/
theorem insertAscending_pairwise {t : Text} {texts : List Text}
    (h : texts.Pairwise (· < ·)) : (insertAscending t texts).Pairwise (· < ·) := by
  induction texts with
  | nil => simp [insertAscending]
  | cons u us ih =>
    obtain ⟨hu, hus⟩ := List.pairwise_cons.1 h
    simp only [insertAscending]
    split
    · next hlt =>
      refine List.pairwise_cons.2 ⟨fun x hx => ?_, h⟩
      rcases List.mem_cons.1 hx with rfl | hx
      · exact hlt
      · exact List.lt_trans hlt (hu x hx)
    · next hlt =>
      split
      · exact h
      · next hne =>
        refine List.pairwise_cons.2 ⟨fun x hx => ?_, ih hus⟩
        rcases mem_insertAscending.1 hx with rfl | hx
        · rcases Std.lt_trichotomy x u with hxu | hxu | hxu
          · exact absurd hxu hlt
          · exact absurd hxu hne
          · exact hxu
        · exact hu x hx

/-- Sorting keeps the members. -/
@[simp] theorem mem_ascending {x : Text} {texts : List Text} :
    x ∈ ascending texts ↔ x ∈ texts := by
  induction texts with
  | nil => simp [ascending]
  | cons t ts ih =>
    have : ascending (t :: ts) = insertAscending t (ascending ts) := rfl
    simp [this, mem_insertAscending, ih]

/-- **Sorted texts ascend**, so none is there twice. -/
theorem ascending_pairwise (texts : List Text) : (ascending texts).Pairwise (· < ·) := by
  induction texts with
  | nil => simp [ascending]
  | cons t ts ih => exact insertAscending_pairwise ih

/-- A strictly ascending list is determined by its members. -/
theorem eq_of_ascending {a b : List Text} (ha : a.Pairwise (· < ·)) (hb : b.Pairwise (· < ·))
    (h : ∀ x, x ∈ a ↔ x ∈ b) : a = b := by
  induction a generalizing b with
  | nil =>
    cases b with
    | nil => rfl
    | cons y ys => exact absurd ((h y).2 List.mem_cons_self) List.not_mem_nil
  | cons x xs ih =>
    cases b with
    | nil => exact absurd ((h x).1 List.mem_cons_self) List.not_mem_nil
    | cons y ys =>
      obtain ⟨hx, hxs⟩ := List.pairwise_cons.1 ha
      obtain ⟨hy, hys⟩ := List.pairwise_cons.1 hb
      have head : x = y := by
        rcases List.mem_cons.1 ((h x).1 List.mem_cons_self) with hxy | hxy
        · exact hxy
        · rcases List.mem_cons.1 ((h y).2 List.mem_cons_self) with hyx | hyx
          · exact hyx.symm
          · exact absurd (List.lt_trans (hy x hxy) (hx y hyx)) (List.lt_irrefl y)
      subst head
      refine congrArg (x :: ·) (ih hxs hys fun z => ?_)
      have lift := h z
      simp only [List.mem_cons] at lift
      constructor
      · intro hz
        rcases lift.1 (.inr hz) with rfl | hz'
        · exact absurd (hx z hz) (List.lt_irrefl z)
        · exact hz'
      · intro hz
        rcases lift.2 (.inr hz) with rfl | hz'
        · exact absurd (hy z hz) (List.lt_irrefl z)
        · exact hz'

/-- An ascending list is its own ascending list. -/
theorem ascending_eq_self {texts : List Text} (h : texts.Pairwise (· < ·)) :
    ascending texts = texts :=
  eq_of_ascending (ascending_pairwise texts) h fun _ => mem_ascending

end TypedStyle.Text
