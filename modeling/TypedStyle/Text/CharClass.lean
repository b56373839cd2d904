import TypedStyle.Text.Basic
/-!
# Character classes

A property of characters is given by its runs of code points, in ascending order.  Looking a
character up stops at the first run that starts behind it.

* `covers_iff_of_ascending` — for ascending runs, the early stop misses nothing.
-/

namespace TypedStyle

/-- A run of consecutive code points, both ends included. -/
structure CodeRange where
  first : Nat
  last : Nat
  deriving DecidableEq, Repr

/-- A class of characters, as the ascending runs of its code points. -/
abbrev CharClass := List CodeRange

namespace CharClass

/-- Is the code point in the class? -/
def covers : CharClass → Nat → Bool
  | [], _ => false
  | run :: runs, n =>
    if n < run.first then false else decide (n ≤ run.last) || covers runs n

/-- Is the character in the class? -/
def holds (runs : CharClass) (c : Char) : Bool :=
  covers runs c.toNat

/-- Every later run starts behind the start of every earlier one. -/
def Ascending (runs : CharClass) : Prop :=
  runs.Pairwise fun a b => a.first ≤ b.first

/-- **In an ascending table the search is complete**: it finds a character exactly when one of the
runs has it. -/
theorem covers_iff_of_ascending {runs : CharClass} (h : Ascending runs) (n : Nat) :
    covers runs n = true ↔ ∃ run ∈ runs, run.first ≤ n ∧ n ≤ run.last := by
  induction runs with
  | nil => simp [covers]
  | cons run runs ih =>
    obtain ⟨hhead, htail⟩ := List.pairwise_cons.1 h
    by_cases hn : n < run.first
    · simp only [covers, hn, ↓reduceIte, Bool.false_eq_true, false_iff, not_exists, not_and]
      intro later hmem hle
      rcases List.mem_cons.1 hmem with rfl | hmem
      · omega
      · have := hhead later hmem
        omega
    · simp only [covers, hn, ↓reduceIte, Bool.or_eq_true, decide_eq_true_eq, ih htail,
        List.mem_cons, exists_eq_or_imp]
      constructor
      · rintro (hle | hrest)
        · exact .inl ⟨by omega, hle⟩
        · exact .inr hrest
      · rintro (⟨_, hle⟩ | hrest)
        · exact .inl hle
        · exact .inr hrest

end CharClass

end TypedStyle
