import TypedStyle.Proofs.Json.Members
import TypedStyle.Spec.Document
/-!
# The known members of a spec

What a spec document denotes depends on its known members only, those of the object itself and those
of the objects that stand for properties.  Their order, members of other names with any values, and
`null` for a member that may be missing make no difference.

* `Change` — one change to a document that is not noticed;
* `ofJson?_of_change`, `ofJson?_of_changes` — a changed value denotes the same spec, or none as
  before;
* `printable_of_changes` — a document can be changed in this way.
-/

namespace TypedStyle

open Json

variable {a b : List (JsonString × Json)} {v w : Json}

namespace Property

/-- The names of the members of a property. -/
def knownNames : List Text := ["name", "keywords", "syntax", "status"]

/-- The names of those members of a property that may be `null`. -/
def optionalNames : List Text := ["keywords", "status"]

/-- **A property does not depend on unknown members**, nor on the order of its members. -/
theorem ofJson?_of_change (h : MembersChange knownNames optionalNames a b) :
    ofJson? (.object b) = ofJson? (.object a) := by
  have hname := member?_eq_of_change h "name" (by decide) (by decide)
  have hgrammar := member?_eq_of_change h "syntax" (by decide) (by decide)
  rw [ofJson?, ofJson?, namesAreTexts_of_change h, hname, hgrammar]
  rcases member?_of_change h "keywords" (by decide) with hkeywords | ⟨-, hmissing, hnull⟩
  · rcases member?_of_change h "status" (by decide) with hstatus | ⟨-, hmissing, hnull⟩
    · rw [hkeywords, hstatus]
    · rw [hkeywords, hmissing, hnull]
      rfl
  · rw [hmissing, hnull]
    rcases member?_of_change h "status" (by decide) with hstatus | ⟨-, hmissing, hnull⟩
    · rw [hstatus]
      rfl
    · rw [hmissing, hnull]
      rfl

end Property

namespace Spec

/-- The names of the members of a spec. -/
def knownNames : List Text := ["version", "properties"]

/-- The names of those members of a spec that may be `null`. -/
def optionalNames : List Text := ["properties"]

/-- The object with these members, and between them one with these properties. -/
def withProperties (front back : List (JsonString × Json)) (properties : List Json) : Json :=
  .object (front ++ (some (Text.ofString "properties"), .array properties) :: back)

/-- One change that the reader of a spec does not notice: to the members of the object that stands
for the spec, or to those of an object that stands for one of its properties. -/
inductive Change : Json → Json → Prop
  | spec {a b : List (JsonString × Json)} (h : MembersChange knownNames optionalNames a b) :
      Change (.object a) (.object b)
  | property (front back : List (JsonString × Json)) (before after : List Json)
      {a b : List (JsonString × Json)}
      (h : MembersChange Property.knownNames Property.optionalNames a b) :
      Change (withProperties front back (before ++ .object a :: after))
        (withProperties front back (before ++ .object b :: after))

/-- **A spec denotes the same after one change.** -/
theorem ofJson?_of_change (h : Change v w) : ofJson? w = ofJson? v := by
  cases h with
  | spec h =>
      have hversion := member?_eq_of_change h "version" (by decide) (by decide)
      rw [ofJson?, ofJson?, namesAreTexts_of_change h, hversion]
      rcases member?_of_change h "properties" (by decide) with
        hproperties | ⟨-, hmissing, hnull⟩
      · rw [hproperties]
      · rw [hmissing, hnull]
        rfl
  | @property front back before after a b h =>
      have hnames : ∀ value : Json,
          namesAreTexts (front ++ (some (Text.ofString "properties"), value) :: back) =
            namesAreTexts (front ++ back) := fun value => by simp [namesAreTexts]
      have hversion : ∀ value : Json,
          member? "version" (front ++ (some (Text.ofString "properties"), value) :: back) =
            member? "version" (front ++ back) :=
        fun value => member?_insert_of_ne (by decide) value front back
      have hitems : itemsOrNone? Property.ofJson? (some (.array (before ++ .object b :: after))) =
          itemsOrNone? Property.ofJson? (some (.array (before ++ .object a :: after))) := by
        simp only [itemsOrNone?, List.mapM_append, List.mapM_cons, Property.ofJson?_of_change h]
      simp only [withProperties, ofJson?, hnames, hversion, member?_insert_self]
      split
      · split
        · simp only [Option.bind_eq_bind, Option.bind_some, ofMembers?, hitems]
        · rfl
      · rfl

/-- One change keeps a value such that a document can denote it, and so does undoing it. -/
theorem printable_of_change (h : Change v w) : v.Printable ↔ w.Printable := by
  have hobject : ∀ members : List (JsonString × Json),
      (Json.object members).Printable ↔ ∀ member ∈ members, member.2.Printable :=
    fun members => ⟨fun h => by cases h with | object h => exact h, .object⟩
  have harray : ∀ items : List Json,
      (Json.array items).Printable ↔ ∀ item ∈ items, item.Printable :=
    fun items => ⟨fun h => by cases h with | array h => exact h, .array⟩
  cases h with
  | spec h => rw [hobject, hobject, Json.printable_of_change h]
  | property front back before after h =>
      have hproperty := Json.printable_of_change h
      simp only [withProperties, hobject, harray, List.forall_mem_append, List.forall_mem_cons,
        hproperty]

/-- **A spec denotes the same after any changes**, in whatever order they are made or undone. -/
theorem ofJson?_of_changes (h : Relation.EqvGen Change v w) : ofJson? w = ofJson? v :=
  eq_of_eqvGen ofJson? (fun _ _ => ofJson?_of_change) h

/-- So do any changes, however often they are made or undone. -/
theorem printable_of_changes (h : Relation.EqvGen Change v w) : v.Printable ↔ w.Printable :=
  (eq_of_eqvGen Printable (fun _ _ h => propext (printable_of_change h).symm) h).symm.to_iff

end Spec

end TypedStyle
