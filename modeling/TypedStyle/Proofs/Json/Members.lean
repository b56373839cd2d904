import Mathlib.Logic.Relation
import TypedStyle.Proofs.Json.Denoted
/-!
# Members that a reader does not notice

A reader of objects asks for members of certain names, and takes some of them for missing if they
are `null`.  It does not notice in which order the members stand, nor members of other names, nor
whether such a member is missing or `null`.

* `MembersChange` — one change of that kind;
* `member?_of_change` — what the reader finds after it;
* `printable_of_change` — the values stay such that a document can denote them;
* `eq_of_eqvGen` — from one change to any number of them.
-/

namespace TypedStyle

/-- What no change alters is the same after any changes, made or undone in whatever order. -/
theorem eq_of_eqvGen {α β : Type} {change : α → α → Prop} (f : α → β)
    (hstep : ∀ a b, change a b → f b = f a) {a b : α} (h : Relation.EqvGen change a b) :
    f b = f a := by
  induction h with
  | rel a b h => exact hstep a b h
  | refl a => rfl
  | symm a b _ ih => exact ih.symm
  | trans a b c _ _ first second => exact second.trans first

namespace Json

variable {known optional : List Text} {a b front back : List (JsonString × Json)}
variable {name other : Text} {value : Json}

/-- One change to the members of an object: another order, a further member of a name that is not
known, or `null` for an optional member that is missing. -/
inductive MembersChange (known optional : List Text) :
    List (JsonString × Json) → List (JsonString × Json) → Prop
  | permuted {a b : List (JsonString × Json)} (h : a.Perm b) : MembersChange known optional a b
  | inserted (front back : List (JsonString × Json)) {name : Text} {value : Json}
      (hname : name ∉ known) (hvalue : value.Printable) :
      MembersChange known optional (front ++ back) (front ++ (some name, value) :: back)
  | filled (front back : List (JsonString × Json)) {name : Text} (hname : name ∈ optional)
      (habsent : valuesOf name (front ++ back) = []) :
      MembersChange known optional (front ++ back) (front ++ (some name, .null) :: back)

/-! ## Values of a name -/

/-- The values of a name in members in a row are those in the one and then those in the other. -/
theorem valuesOf_append (name : Text) (a b : List (JsonString × Json)) :
    valuesOf name (a ++ b) = valuesOf name a ++ valuesOf name b := by
  simp [valuesOf]

/-- A member that is put in adds its value to those of its name. -/
theorem valuesOf_insert_self (name : Text) (value : Json) (front back : List (JsonString × Json)) :
    valuesOf name (front ++ (some name, value) :: back) =
      valuesOf name front ++ value :: valuesOf name back := by
  simp [valuesOf]

/-- It makes no difference to any other name. -/
theorem valuesOf_insert_of_ne (h : other ≠ name) (value : Json)
    (front back : List (JsonString × Json)) :
    valuesOf other (front ++ (some name, value) :: back) = valuesOf other (front ++ back) := by
  simp [valuesOf, Ne.symm h]

/-- A member of another name changes nothing. -/
theorem member?_insert_of_ne (h : other ≠ name) (value : Json)
    (front back : List (JsonString × Json)) :
    member? other (front ++ (some name, value) :: back) = member? other (front ++ back) := by
  rw [member?, member?, valuesOf_insert_of_ne h]

/-- In place of the value of a member another one is found, unless the member is repeated. -/
theorem member?_insert_self (name : Text) (value : Json) (front back : List (JsonString × Json)) :
    member? name (front ++ (some name, value) :: back) =
      if valuesOf name (front ++ back) = [] then some (some value) else none := by
  rw [member?, valuesOf_insert_self, valuesOf_append]
  cases valuesOf name front with
  | nil => cases valuesOf name back <;> simp
  | cons first others => cases others <;> simp

/-- The order of members makes no difference to what is found. -/
theorem member?_of_perm (h : a.Perm b) (name : Text) : member? name b = member? name a := by
  have hvalues : (valuesOf name b).Perm (valuesOf name a) := (h.symm.filter _).map _
  rw [member?, member?]
  cases ha : valuesOf name a with
  | nil =>
      rw [ha] at hvalues
      rw [hvalues.eq_nil]
  | cons first others =>
      rw [ha] at hvalues
      cases others with
      | nil => rw [List.perm_singleton.mp hvalues]
      | cons next others =>
          obtain ⟨x, y, rest, hb⟩ : ∃ x y rest, valuesOf name b = x :: y :: rest := by
            have hlength := hvalues.length_eq
            match hvalues' : valuesOf name b with
            | [] | [_] => simp [hvalues'] at hlength
            | x :: y :: rest => exact ⟨x, y, rest, rfl⟩
          rw [hb]

/-! ## One change -/

/-- **A known member is found as before, but where it is optional and missing it may be `null`.** -/
theorem member?_of_change (h : MembersChange known optional a b) (name : Text)
    (hname : name ∈ known) :
    member? name b = member? name a ∨
      name ∈ optional ∧ member? name a = some none ∧ member? name b = some (some .null) := by
  cases h with
  | permuted h => exact .inl (member?_of_perm h name)
  | inserted front back hother hvalue =>
      refine .inl (member?_insert_of_ne ?_ _ _ _)
      rintro rfl
      exact hother hname
  | @filled front back optionalName hoptional habsent =>
      by_cases hsame : name = optionalName
      · subst hsame
        refine .inr ⟨hoptional, ?_, ?_⟩
        · rw [member?, habsent]
        · rw [member?_insert_self, if_pos habsent]
      · exact .inl (member?_insert_of_ne hsame _ _ _)

/-- A known member that is not optional is found as before. -/
theorem member?_eq_of_change (h : MembersChange known optional a b) (name : Text)
    (hname : name ∈ known) (hrequired : name ∉ optional) : member? name b = member? name a :=
  (member?_of_change h name hname).resolve_right fun hfilled => hrequired hfilled.1

/-- A change makes no difference to whether all names are texts. -/
theorem namesAreTexts_of_change (h : MembersChange known optional a b) :
    namesAreTexts b = namesAreTexts a := by
  cases h with
  | permuted h => exact (h.all_eq).symm
  | inserted => simp [namesAreTexts]
  | filled => simp [namesAreTexts]

/-- A change keeps all values such that they can be written, and so does undoing it. -/
theorem printable_of_change (h : MembersChange known optional a b) :
    (∀ member ∈ a, member.2.Printable) ↔ ∀ member ∈ b, member.2.Printable := by
  cases h with
  | permuted h => simp only [h.mem_iff]
  | inserted _ _ _ hvalue => simp [hvalue, or_imp, forall_and]
  | filled => simp [Printable.null, or_imp, forall_and]

end Json

end TypedStyle
