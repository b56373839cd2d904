import Mathlib.Data.List.Chain
import Mathlib.Data.List.TakeWhile
import TypedStyle.Text.Identifier
/-!
# Characters of identifiers

What may start an identifier may go on in one.  The tables are runs of code points in ascending
order, so they are compared in one pass through both: each run of the one takes off the runs of the
other that lie within it.

* `isContinue_of_isStart` — what starts an identifier goes on in one.
-/

namespace TypedStyle

namespace CharClass

/-- Does the first run lie within the second? -/
def isWithin (run other : CodeRange) : Bool :=
  Nat.ble other.first run.first && Nat.ble run.last other.last

/-- The runs that are left when those in front that lie within some other runs are taken off. -/
def leftOver (runs others : CharClass) : CharClass :=
  others.foldl (fun left other => left.dropWhile (isWithin · other)) runs

variable {runs others : CharClass} {run : CodeRange} {n : Nat}

/-- If none is left, each run lies within another. -/
theorem exists_within (h : leftOver runs others = []) (hrun : run ∈ runs) :
    ∃ other ∈ others, isWithin run other = true := by
  induction others generalizing runs with
  | nil =>
      obtain rfl : runs = [] := h
      contradiction
  | cons other others ih =>
      rw [← List.takeWhile_append_dropWhile (p := (isWithin · other)) (l := runs)] at hrun
      rcases List.mem_append.mp hrun with htaken | hleft
      · exact ⟨other, List.mem_cons_self, List.mem_takeWhile_imp (p := (isWithin · other)) htaken⟩
      · obtain ⟨found, hfound, hwithin⟩ := ih h hleft
        exact ⟨found, List.mem_cons_of_mem _ hfound, hwithin⟩

/-- What is in the class lies in one of its runs. -/
theorem exists_of_covers (h : covers runs n = true) :
    ∃ run ∈ runs, run.first ≤ n ∧ n ≤ run.last := by
  induction runs with
  | nil => contradiction
  | cons run runs ih =>
      unfold covers at h
      split at h
      · contradiction
      · next hfirst =>
        rcases Bool.or_eq_true_iff.mp h with hlast | hlater
        · exact ⟨run, List.mem_cons_self, by omega, of_decide_eq_true hlast⟩
        · obtain ⟨other, hother, hwithin⟩ := ih hlater
          exact ⟨other, List.mem_cons_of_mem _ hother, hwithin⟩

/-- **Runs within others have no other characters.** -/
theorem covers_of_leftOver (h : leftOver runs others = []) (hothers : Ascending others)
    (hcovers : covers runs n = true) : covers others n = true := by
  obtain ⟨run, hrun, hfirst, hlast⟩ := exists_of_covers hcovers
  obtain ⟨other, hother, hwithin⟩ := exists_within h hrun
  obtain ⟨hbelow, habove⟩ := Bool.and_eq_true_iff.mp hwithin
  refine (covers_iff_of_ascending hothers n).mpr ⟨other, hother, ?_, ?_⟩
  · exact Nat.le_trans (Nat.le_of_ble_eq_true hbelow) hfirst
  · exact Nat.le_trans hlast (Nat.le_of_ble_eq_true habove)

end CharClass

namespace Text.Identifier

/-- The table of the characters with which an identifier goes on is in ascending order. -/
theorem continues_ascending : CharClass.Ascending continues := by
  have hchain : (continues.map CodeRange.first).IsChain (· ≤ ·) := by decide +kernel
  exact List.pairwise_map.mp (List.isChain_iff_pairwise.mp hchain)

/-- **What starts an identifier goes on in one.** -/
theorem isContinue_of_isStart {c : Char} (h : isStart c = true) : isContinue c = true := by
  rcases Bool.or_eq_true_iff.mp h with hunderscore | hstarts
  · obtain rfl := of_decide_eq_true hunderscore
    decide
  · exact CharClass.covers_of_leftOver (by decide +kernel) continues_ascending hstarts

end Text.Identifier

end TypedStyle
