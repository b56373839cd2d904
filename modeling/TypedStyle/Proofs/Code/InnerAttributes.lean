import TypedStyle.Proofs.Code.Landmarks
/-!
# Attributes of a whole file

No part of code takes the marks of an attribute of what it stands in, except where such attributes
are due: at the start of a file or inside a group.  So in a file everything in front of them is read
up to them and no further; and since the items of a file go to its end, there are no items in front
of an attribute of the file.

* `keeps_item` — no item reaches behind such marks;
* `file_of_append` — what stands in front of an attribute of the file defines nothing.
-/

namespace TypedStyle.Code

open Reading Landmark

variable {read : Reader} {n : Nat} {names : List Text} {inner trees mid rest : Trees}

/-! ## Items -/

instance keeps_visibility : Keeps .innerAttribute (visibility) :=
  inferInstanceAs (Keeps .innerAttribute
    (maybe (Trees.startsWord ["pub"]) (word "pub" >>= fun _ => scope)))

/-- **No item reaches behind the marks of an inner attribute.** -/
instance keeps_item : Keeps .innerAttribute (readUpTo n .item) := by
  cases n with
  | zero => exact keeps_failure
  | succ n =>
      obtain ⟨others, heq, hothers⟩ := exists_itemRule_eq .innerAttribute (readUpTo n)
      show Keeps .innerAttribute (itemRule (readUpTo n))
      rw [heq]
      exact .bind keeps_visibility hothers

/-! ## Files -/

/-- Reads an attribute of what it stands in. -/
def innerAttribute (read : Reader) : Reading Unit := do
  discard do
    marks "#"
    marks "!"
    inside '[' (attributeContent read)

/-- An attribute of what it stands in is two marks and a tree that is none. -/
theorem exists_of_innerAttribute {u : Unit} (h : innerAttribute read trees = some (u, rest)) :
    ∃ joined spaced tree, trees = .mark '#' joined :: .mark '!' spaced :: tree :: rest ∧
      (∀ c joined, tree ≠ .mark c joined) ∧ tree ≠ .word "pub" := by
  obtain ⟨_, hread⟩ := exists_of_discard h
  obtain ⟨_, behind, hhash, hothers⟩ := exists_of_bind hread
  obtain ⟨_, last, hbang, hinside⟩ := exists_of_bind hothers
  obtain ⟨joined, rfl⟩ := exists_of_marks hhash
  obtain ⟨spaced, rfl⟩ := exists_of_marks hbang
  obtain ⟨tree, rfl, htree⟩ := (takesTree_inside _ _).exists_cons hinside
  exact ⟨joined, spaced, tree, rfl, htree⟩

/-- One more such attribute in front makes no difference. -/
theorem file_of_innerAttribute (hattribute : innerAttribute read trees = some ((), mid))
    (h : file read mid = some (names, rest)) : file read trees = some (names, rest) := by
  obtain ⟨_, last, hattributes, hitems⟩ := exists_of_bind h
  suffices hread : innerAttributes read trees = some ((), last) from (bind_of hread).trans hitems
  obtain ⟨joined, spaced, tree, rfl, -⟩ := exists_of_innerAttribute hattribute
  unfold innerAttributes loopWhile at hattributes ⊢
  rw [loop_eq] at hattributes ⊢
  refine (loopUpTo_of_step () mid rfl hattribute _).trans ?_
  exact loopUpTo_mono (by simp only [List.length_cons]; omega) hattributes

/-- Attributes of the file are read on from `inner`, or they end in front of it. -/
theorem suffix_or_of_innerAttributes {bound : Nat} (hinner : inner.startsInner = true)
    (hsuffix : inner <:+ trees)
    (h : loopUpTo (fun _ => Trees.startsInner) (fun _ => innerAttribute read) bound () trees =
      some ((), rest)) :
    inner <:+ rest ∨ innerAttributes read inner = some ((), rest) := by
  have hshorter : ∀ (_ b : Unit) (trees rest : Trees),
      innerAttribute read trees = some (b, rest) → rest.length < trees.length := by
    intro _ _ trees rest hread
    obtain ⟨_, _, _, rfl, -⟩ := exists_of_innerAttribute hread
    simp only [List.length_cons]
    omega
  induction bound generalizing trees with
  | zero =>
      unfold loopUpTo at h
      split at h
      · contradiction
      · obtain ⟨-, rfl⟩ := Prod.mk.inj (Option.some.inj h)
        exact .inl hsuffix
  | succ bound ih =>
      by_cases heq : inner = trees
      · subst heq
        exact .inr (loop_of_loopUpTo hshorter h)
      unfold loopUpTo at h
      split at h
      · obtain ⟨⟨_, behind⟩, hread, hloop⟩ := Option.bind_eq_some_iff.mp h
        obtain ⟨joined, spaced, tree, rfl, htree, hword⟩ := exists_of_innerAttribute hread
        refine ih ?_ hloop
        rcases List.suffix_cons_iff.mp hsuffix with rfl | hmark
        · exact absurd rfl heq
        · have hleads : Leads .innerAttribute (.mark '!' spaced :: tree :: behind) behind :=
            .cons_cons htree (.inr hword) (by decide)
          exact hleads inner hinner hmark
      · obtain ⟨-, rfl⟩ := Prod.mk.inj (Option.some.inj h)
        exact .inl hsuffix

/-- An item of a file leaves the marks in place, whatever it defines. -/
instance keeps_itemOfFile (found : List Text) :
    Keeps .innerAttribute (itemOfFile (readUpTo n) found) := by
  unfold itemOfFile
  refine .bind inferInstance fun _ => .bind inferInstance fun form => ?_
  cases form <;> infer_instance

/-- **What stands in front of an attribute of the file makes no difference**: there are only other
such attributes. -/
theorem file_of_append {front : Trees} (hinner : inner.startsInner = true)
    (h : file (readUpTo n) (front ++ inner) = some (names, rest)) :
    file (readUpTo n) inner = some (names, rest) := by
  obtain ⟨_, mid, hattributes, hitems⟩ := exists_of_bind h
  have hsuffix : inner <:+ front ++ inner := List.suffix_append front inner
  unfold innerAttributes loopWhile at hattributes
  rw [loop_eq] at hattributes
  rcases suffix_or_of_innerAttributes hinner hsuffix hattributes with hmid | hread
  · -- The items go to the end, but they leave the marks in place.
    obtain ⟨found, last, hloop, -⟩ := exists_of_bind hitems
    rw [loop_eq] at hloop
    change loopUpTo _ (itemOfFile (readUpTo n)) _ _ _ = _ at hloop
    have hleads : Leads .innerAttribute mid last := leads_of_loopUpTo hloop
    have hlast := hleads inner hinner hmid
    have hend : last = [] := by simpa using test_of_loopUpTo hloop
    obtain rfl : inner = [] := by simpa [hend] using hlast
    contradiction
  · exact (bind_of hread).trans hitems

end TypedStyle.Code
