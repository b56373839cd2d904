import Mathlib.Data.List.Sigma
import TypedStyle.Proofs.Artifact.Distinct
import TypedStyle.Proofs.Artifact.Modules
/-!
# Names that are defined twice

An artifact is refused for the first name that it defines a second time.  If nothing but names is
pasted into it, each of its items comes from a place in the spec, and so the name comes from two
different places; and in an artifact that is written, different places define different names.

* `exists_of_firstRepeated` — what is known of the first name that is repeated;
* `map_snd_places` — the places of an artifact define what it defines, in order;
* `places_of_run_emit` — names in written artifacts, and names that artifacts are refused for.
-/

namespace TypedStyle

namespace Artifact

variable {spec : Spec} {artifact : Artifact} {name : Text} {names : List Text}

/-! ## The first name that is repeated -/

/-- The induction is on the names that are left; those that have been seen are behind. -/
theorem exists_of_firstRepeatedAfter {seen : List Text}
    (h : firstRepeatedAfter seen names = some name) :
    ∃ front back, names = front ++ name :: back ∧ front.Nodup ∧ (∀ t ∈ front, t ∉ seen) ∧
      (name ∈ front ∨ name ∈ seen) := by
  induction names generalizing seen with
  | nil => contradiction
  | cons t rest ih =>
      unfold firstRepeatedAfter at h
      split at h
      · next hseen =>
        obtain rfl := Option.some.inj h
        exact ⟨[], rest, rfl, List.nodup_nil, by simp, .inr hseen⟩
      · next hfresh =>
        obtain ⟨front, back, rfl, hnodup, hnew, hname⟩ := ih h
        have ht : t ∉ front := fun hmem => hnew t hmem List.mem_cons_self
        refine ⟨t :: front, back, rfl, List.nodup_cons.mpr ⟨ht, hnodup⟩,
          List.forall_mem_cons.mpr ⟨hfresh, fun u hu hseen =>
            hnew u hu (List.mem_cons_of_mem t hseen)⟩, ?_⟩
        rcases hname with hfront | hseen
        · exact .inl (List.mem_cons_of_mem t hfront)
        · rcases List.mem_cons.mp hseen with rfl | hearlier
          · exact .inl List.mem_cons_self
          · exact .inr hearlier

/-- **The first name that is repeated** stands behind names that are all different, and is one of
them. -/
theorem exists_of_firstRepeated (h : firstRepeated names = some name) :
    ∃ front back, names = front ++ name :: back ∧ front.Nodup ∧ name ∈ front := by
  obtain ⟨front, back, hnames, hnodup, -, hname⟩ := exists_of_firstRepeatedAfter h
  exact ⟨front, back, hnames, hnodup, hname.resolve_right List.not_mem_nil⟩

/-! ## Places -/

/-- A place in a spec: the property at an index, or one of its keywords. -/
inductive Place where
  | property (i : Nat)
  | keyword (i j : Nat)
  deriving DecidableEq, Repr

/-- The property at an index, if it has keywords. -/
def keywordProperty? (spec : Spec) (i : Nat) : Option Property :=
  spec.properties[i]?.filter fun property => !property.keywords.isEmpty

/-- The identifier that a place produces in an artifact, if it defines an item there. -/
def identifierAt (spec : Spec) : Artifact → Place → Option Text
  | .properties, .property i =>
    spec.properties[i]?.map fun p => Text.strip (Naming.constant p.name)
  | .keywords, .property i =>
    (keywordProperty? spec i).map fun p => Text.strip (Naming.keywordType p.name)
  | .keywords, .keyword i j => do
    let p ← spec.properties[i]?
    let keyword ← p.keywords[j]?
    return Text.strip (Naming.keywordConstant p.name keyword)
  | .setters, .property i =>
    (keywordProperty? spec i).map fun p => Text.strip (Naming.setter p.name)
  | .properties, .keyword _ _ | .setters, .keyword _ _ => none

/-- The properties that have keywords, with their indices. -/
def numbered (spec : Spec) : List (Property × Nat) :=
  spec.properties.zipIdx.filter fun x => !x.1.keywords.isEmpty

/-- The places of a property and of its keywords in the artifact of the keywords. -/
def keywordPlaces (x : Property × Nat) : List (Place × Text) :=
  (.property x.2, Text.strip (Naming.keywordType x.1.name)) ::
    x.1.keywords.zipIdx.map fun k =>
      (.keyword x.2 k.2, Text.strip (Naming.keywordConstant x.1.name k.1))

/-- The places that define the items of an artifact, in order, with the identifiers. -/
def places (spec : Spec) : Artifact → List (Place × Text)
  | .properties =>
    spec.properties.zipIdx.map fun x => (.property x.2, Text.strip (Naming.constant x.1.name))
  | .keywords => (numbered spec).flatMap keywordPlaces
  | .setters =>
    (numbered spec).map fun x => (.property x.2, Text.strip (Naming.setter x.1.name))

/-- Numbering keeps the properties that have keywords, in their order. -/
theorem map_fst_numbered (spec : Spec) : (numbered spec).map (·.1) = spec.keywordProperties := by
  have hproperties : spec.properties.zipIdx.map (·.1) = spec.properties := by simp
  rw [Spec.keywordProperties, ← hproperties, List.filter_map]
  simp [numbered, Function.comp_def]

/-- Indices make no difference to what is made of the items only. -/
theorem map_zipIdx {α β : Type} (f : α → β) (items : List α) :
    items.zipIdx.map (fun x => f x.1) = items.map f := by
  have hitems : items.zipIdx.map (·.1) = items := by simp
  conv => rhs; rw [← hitems]
  rw [List.map_map]
  rfl

/-- The places of a block have the names that the block defines. -/
theorem map_snd_keywordPlaces (x : Property × Nat) :
    (keywordPlaces x).map (·.2) = (Naming.keywordType x.1.name ::
      x.1.keywords.map (Naming.keywordConstant x.1.name)).map Text.strip := by
  have hkeywords := map_zipIdx
    (fun keyword => Text.strip (Naming.keywordConstant x.1.name keyword)) x.1.keywords
  simp [keywordPlaces, Function.comp_def, hkeywords]

/-- **The places of an artifact define what it defines**, in order. -/
theorem map_snd_places (spec : Spec) (artifact : Artifact) :
    (artifact.places spec).map (·.2) = artifact.identifiers spec := by
  unfold identifiers defined
  cases artifact with
  | properties =>
      have hproperties := map_zipIdx
        (fun property => Text.strip (Naming.constant property.name)) spec.properties
      simp [places, Function.comp_def, hproperties]
  | keywords =>
      simp only [places, ← map_fst_numbered, List.flatMap_map, List.map_flatMap,
        map_snd_keywordPlaces]
  | setters =>
      simp [places, ← map_fst_numbered, Function.comp_def]

/-- Different entries have different indices. -/
theorem pairwise_zipIdx {α : Type} (items : List α) : items.zipIdx.Pairwise (·.2 ≠ ·.2) :=
  List.pairwise_map.mp (List.nodup_zipIdx_map_snd items)

/-- No place of a block occurs twice in it. -/
theorem nodup_keywordPlaces (x : Property × Nat) : (keywordPlaces x).Nodup := by
  refine List.nodup_cons.mpr ⟨by simp, List.pairwise_map.mpr ?_⟩
  exact (pairwise_zipIdx x.1.keywords).imp fun hne heq => hne (by simpa using (Prod.mk.inj heq).1)

/-- The index of the property is in each place. -/
theorem index_of_mem_keywordPlaces {x : Property × Nat} {place : Place}
    (h : (place, name) ∈ keywordPlaces x) :
    place = .property x.2 ∨ ∃ j, place = .keyword x.2 j := by
  rcases List.mem_cons.mp h with heq | hkeyword
  · exact .inl (Prod.mk.inj heq).1
  · obtain ⟨k, -, heq⟩ := List.mem_map.mp hkeyword
    exact .inr ⟨k.2, (Prod.mk.inj heq).1.symm⟩

/-- **No place is listed twice.** -/
theorem nodup_places (spec : Spec) (artifact : Artifact) : (artifact.places spec).Nodup := by
  have hnumbered : (numbered spec).Pairwise (·.2 ≠ ·.2) := (pairwise_zipIdx _).filter _
  cases artifact with
  | properties =>
      exact List.pairwise_map.mpr ((pairwise_zipIdx _).imp fun hne heq =>
        hne (Place.property.inj (Prod.mk.inj heq).1))
  | keywords =>
      refine List.nodup_flatMap.mpr ⟨fun x _ => nodup_keywordPlaces x, hnumbered.imp ?_⟩
      rintro x y hne ⟨place, name⟩ hx hy
      rcases index_of_mem_keywordPlaces hx with rfl | ⟨j, rfl⟩ <;>
      rcases index_of_mem_keywordPlaces hy with heq | ⟨k, heq⟩ <;>
      simp_all
  | setters =>
      exact List.pairwise_map.mpr (hnumbered.imp fun hne heq =>
        hne (Place.property.inj (Prod.mk.inj heq).1))

/-- A property has the number under which it is found. -/
theorem mem_numbered {property : Property} {i : Nat} :
    (property, i) ∈ numbered spec ↔ keywordProperty? spec i = some property := by
  simp [numbered, keywordProperty?, List.mk_mem_zipIdx_iff_getElem?]

/-- **The places of an artifact are those that produce an identifier in it.** -/
theorem mem_places {place : Place} :
    (place, name) ∈ artifact.places spec ↔ artifact.identifierAt spec place = some name := by
  cases artifact with
  | properties =>
      cases place <;> simp [places, identifierAt, List.mk_mem_zipIdx_iff_getElem?]
  | setters =>
      cases place <;> simp [places, identifierAt, mem_numbered]
  | keywords =>
      cases place with
      | property i =>
          simp only [places, keywordPlaces, identifierAt, List.mem_flatMap, Prod.exists,
            mem_numbered, List.mem_cons, Option.map_eq_some_iff]
          constructor
          · rintro ⟨property, _, hproperty, heq | hkeyword⟩
            · obtain ⟨hplace, rfl⟩ := Prod.mk.inj heq
              obtain rfl := Place.property.inj hplace
              exact ⟨property, hproperty, rfl⟩
            · simp at hkeyword
          · rintro ⟨property, hproperty, rfl⟩
            exact ⟨property, i, hproperty, .inl rfl⟩
      | keyword i j =>
          simp only [places, keywordPlaces, identifierAt, mem_numbered, keywordProperty?,
            List.mem_flatMap, List.mem_cons, List.mem_map, List.mk_mem_zipIdx_iff_getElem?,
            Prod.exists, Prod.mk.injEq, Place.keyword.injEq, reduceCtorEq, false_and, false_or,
            true_and, and_true, ↓existsAndEq, exists_and_left, Option.filter_eq_some_iff,
            Bool.not_eq_eq_eq_not, Bool.not_true, List.isEmpty_eq_false_iff, ne_eq,
            Option.pure_def, Option.bind_eq_bind, Option.bind_eq_some_iff, Option.some.injEq]
          constructor
          · rintro ⟨property, ⟨hproperty, -⟩, hkeyword⟩
            exact ⟨property, hproperty, hkeyword⟩
          · rintro ⟨property, hproperty, keyword, hkeyword, rfl⟩
            have hne : property.keywords ≠ [] := by
              intro hnil
              simp [hnil] at hkeyword
            exact ⟨property, ⟨hproperty, hne⟩, keyword, hkeyword, rfl⟩

/-- Where different names are defined, they come from different places. -/
theorem eq_of_identifierAt {a b : Place} (hnodup : (artifact.identifiers spec).Nodup)
    (ha : artifact.identifierAt spec a = some name)
    (hb : artifact.identifierAt spec b = some name) : a = b := by
  rw [← map_snd_places] at hnodup
  have heq := List.inj_on_of_nodup_map hnodup (mem_places.mpr ha) (mem_places.mpr hb) rfl
  exact (Prod.mk.inj heq).1

/-- A name that is repeated comes from two places. -/
theorem exists_places_of_repeated {front back : List Text}
    (hnames : artifact.identifiers spec = front ++ name :: back) (hname : name ∈ front) :
    ∃ a b, a ≠ b ∧ artifact.identifierAt spec a = some name ∧
      artifact.identifierAt spec b = some name := by
  have hnodup := nodup_places spec artifact
  have hplaces : ∀ place, (place, name) ∈ artifact.places spec →
      artifact.identifierAt spec place = some name := fun _ => mem_places.mp
  rw [← map_snd_places] at hnames
  obtain ⟨first, others, heq, hfirst, hothers⟩ := List.map_eq_append_iff.mp hnames
  obtain ⟨⟨b, _⟩, last, rfl, rfl, -⟩ := List.map_eq_cons_iff.mp hothers
  rw [← hfirst] at hname
  obtain ⟨⟨a, _⟩, ha, rfl⟩ := List.mem_map.mp hname
  rw [heq] at hnodup hplaces
  have hne := (List.nodup_append.mp hnodup).2.2 _ ha _ List.mem_cons_self
  refine ⟨a, b, ?_, hplaces a (List.mem_append_left _ ha), hplaces b (by simp)⟩
  rintro rfl
  exact hne rfl

/-! ## Written and refused artifacts -/

/-- **Names are compared as the items of an artifact have them.**  An artifact that is written can
be read as code whose items have different names.  If one is refused for a name, those before it
have passed, and it can be read as code in which items with different names, one of them with this
name, stand in front of another one with it.
If nothing but names is pasted into the artifact, these are names that come from different places of
the spec, whatever the module is: in one that is written different places have different names, and
in one that is refused two different places have the name. -/
theorem places_of_run_emit (spec : Spec) (out : Path) (module clock : Text) (tree : FileTree)
    (artifact : Artifact) :
    (artifact.path out ∈ (spec.emit out module).written clock tree →
      ∃ names, artifact.definitions? spec module = some names ∧ names.Nodup ∧
        (artifact.PastesNames spec → ∀ a b name, artifact.identifierAt spec a = some name →
          artifact.identifierAt spec b = some name → a = b)) ∧
    ∀ name, ((spec.emit out module).run clock tree).1 = .error (.duplicate artifact name) →
      (∀ other ∈ artifact.earlier, other.check spec module = .ok ()) ∧
      ∃ front back, artifact.definitions? spec module = some (front ++ name :: back) ∧
        front.Nodup ∧ name ∈ front ∧
        (artifact.PastesNames spec → ∃ a b, a ≠ b ∧ artifact.identifierAt spec a = some name ∧
          artifact.identifierAt spec b = some name) := by
  constructor
  · intro hwritten
    obtain ⟨names, hnames, hnodup⟩ := check_eq_ok_iff.mp (check_of_mem_written hwritten)
    refine ⟨names, hnames, hnodup, fun hpastes a b name ha hb => ?_⟩
    rw [eq_identifiers_of_definitions? hpastes hnames] at hnodup
    exact eq_of_identifierAt hnodup ha hb
  · intro name hrun
    obtain ⟨hcheck, hearlier⟩ := check_of_run_failure (.duplicate _) hrun
    obtain ⟨names, hnames, hrepeated⟩ := exists_of_check_duplicate hcheck
    obtain ⟨front, back, rfl, hnodup, hmem⟩ := exists_of_firstRepeated hrepeated
    refine ⟨hearlier, front, back, hnames, hnodup, hmem, fun hpastes => ?_⟩
    exact exists_places_of_repeated (eq_identifiers_of_definitions? hpastes hnames).symm hmem

/-- Two properties, of which the second is called like the type and a keyword of the first. -/
def twins : Spec where
  version := "1"
  properties := [propertyOf "a" ["val-x", "x"], propertyOf "a-val" ["x"]]

/-- The artifact of the properties is written, and that of the keywords is refused for a name that
comes from a keyword of each. -/
theorem places_of_twins :
    (∀ artifact : Artifact, artifact.PastesNames twins) ∧
      (∀ a b name, properties.identifierAt twins a = some name →
        properties.identifierAt twins b = some name → a = b) ∧
      ∃ a b, a ≠ b ∧ keywords.identifierAt twins a = some "AValValX" ∧
        keywords.identifierAt twins b = some "AValValX" := by
  have hplain : ∀ artifact : Artifact, artifact.isPlain twins "css" = true := by
    intro artifact
    cases artifact <;> decide
  have hpastes : ∀ artifact : Artifact, artifact.PastesNames twins := fun artifact =>
    pastesNames_of_isPlain (hplain artifact)
  have hwritten : properties.path "out" ∈ (twins.emit "out" "css").written [] bareTree := by
    decide
  have hrun : ((twins.emit "out" "css").run [] bareTree).1 =
      .error (.duplicate .keywords "AValValX") := by decide
  obtain ⟨names, -, -, hnames⟩ := (places_of_run_emit twins "out" "css" [] bareTree .properties).1
    hwritten
  obtain ⟨-, front, back, -, -, -, hplaces⟩ :=
    (places_of_run_emit twins "out" "css" [] bareTree .keywords).2 _ hrun
  exact ⟨hpastes, hnames (hpastes _), hplaces (hpastes _)⟩

/-- Four properties, of which two are called the same; the others are called by code that puts the
second of these two into a block. -/
def nested : Spec where
  version := "1"
  properties := [propertyOf "a" [], propertyOf "b: u8 = \x7b const C" [], propertyOf "a" [],
    propertyOf "d: u8 = 0; 0 \x7d; const e" []]

/-- A property that is called by the code of two constants with the same name. -/
def doubled : Spec where
  version := "1"
  properties := [propertyOf "a: u8 = 0; const A" []]

/-- Where code is pasted, an artifact may be written although two places have the same name, and it
may be refused although there is only one place. -/
theorem nested_and_doubled :
    (properties.path "out" ∈ (nested.emit "out" "css").written [] bareTree ∧
      properties.identifierAt nested (.property 0) = some "A" ∧
      properties.identifierAt nested (.property 2) = some "A") ∧
    ((doubled.emit "out" "css").run [] bareTree).1 = .error (.duplicate .properties "A") ∧
      ∀ a b, (properties.identifierAt doubled a).isSome = true →
        (properties.identifierAt doubled b).isSome = true → a = b := by
  have honly : ∀ a, (properties.identifierAt doubled a).isSome = true → a = .property 0 := by
    rintro ((_ | i) | ⟨i, j⟩) h
    · rfl
    · contradiction
    · contradiction
  refine ⟨⟨by decide +kernel, by decide +kernel, by decide +kernel⟩, by decide +kernel, ?_⟩
  exact fun a b ha hb => (honly a ha).trans (honly b hb).symm

end Artifact

end TypedStyle
