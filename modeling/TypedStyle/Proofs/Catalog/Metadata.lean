import Mathlib.Data.List.Forall2
import TypedStyle.Catalog.Document
import TypedStyle.Proofs.Spec.KnownMembers
/-!
# Metadata does not matter

Of an entry of a catalog only the grammar and the status are used.  So two documents of properties
that differ in the metadata of their entries give the same grammars and statuses, and with the same
dictionary the same spec.  Together with the known members of spec documents this says what of a
document a spec can depend on.

* `map_ofList` — a table of images is the table of the images;
* `outline_eq_of_changes` — one entry under changes to its metadata;
* `map_outline_eq` — the table of all entries;
* `reads_known_members_only` — what a spec depends on, for both kinds of documents.
-/

namespace TypedStyle

/-! ## Images of tables -/

namespace Table

variable {α β : Type}

/-- Tables with the same entries are the same. -/
theorem ext_entries {a b : Table α} (h : a.entries = b.entries) : a = b := by
  cases a
  cases b
  cases h
  rfl

/-- Entries may be changed before or after one is inserted. -/
theorem map_insertEntry (f : α → β) (key : Text) (value : α) (entries : List (Text × α)) :
    (insertEntry key value entries).map (fun entry => (entry.1, f entry.2)) =
      insertEntry key (f value) (entries.map fun entry => (entry.1, f entry.2)) := by
  induction entries with
  | nil => rfl
  | cons first rest ih =>
      obtain ⟨k, v⟩ := first
      simp only [insertEntry, List.map_cons]
      split
      · rfl
      · split
        · rfl
        · rw [List.map_cons, ih]

/-- So may tables. -/
theorem map_insert (f : α → β) (table : Table α) (key : Text) (value : α) :
    (table.insert key value).map f = (table.map f).insert key (f value) :=
  ext_entries (map_insertEntry f key value table.entries)

/-- **A table of images is the table of the images**, since values do not decide which entries stay.
-/
theorem map_ofList (f : α → β) (entries : List (Text × α)) :
    (ofList entries).map f = ofList (entries.map fun entry => (entry.1, f entry.2)) := by
  have hfold : ∀ table : Table α,
      (entries.foldl (fun table entry => table.insert entry.1 entry.2) table).map f =
        (entries.map fun entry => (entry.1, f entry.2)).foldl
          (fun table entry => table.insert entry.1 entry.2) (table.map f) := by
    induction entries with
    | nil => exact fun table => rfl
    | cons entry entries ih =>
        intro table
        rw [List.foldl_cons, ih, map_insert, List.map_cons, List.foldl_cons]
  exact hfold empty

/-- What is found in a changed table is changed. -/
theorem get?_map (f : α → β) (table : Table α) (key : Text) :
    (table.map f).get? key = (table.get? key).map f := by
  show (table.entries.map fun entry => (entry.1, f entry.2)).lookup key =
    (table.entries.lookup key).map f
  induction table.entries with
  | nil => rfl
  | cons first rest ih =>
      obtain ⟨k, v⟩ := first
      simp only [List.map_cons, List.lookup_cons, ih]
      cases key == k <;> rfl

end Table

namespace Catalog

open Json

/-! ## Entries -/

/-- The names of the members of an entry that are not metadata. -/
def Entry.knownNames : List Text := ["syntax", "status"]

/-- The grammar and the status of an entry. -/
def Entry.outline (entry : Entry) : Text × Text :=
  (entry.grammar, entry.status)

/-- Two members for properties of one name, of which the second comes from the first by changes to
the metadata, made or undone. -/
inductive SameButMetadata : JsonString × Json → JsonString × Json → Prop
  | changed (name : JsonString) {a b : List (JsonString × Json)}
      (h : Relation.EqvGen (MembersChange Entry.knownNames []) a b) :
      SameButMetadata (name, .object a) (name, .object b)

variable {a b : List (JsonString × Json)} {e e' : Entry}

/-- Changes to the metadata do not change which grammar and which status are found. -/
theorem member?_eq_of_changes (h : Relation.EqvGen (MembersChange Entry.knownNames []) a b)
    {name : Text} (hname : name ∈ Entry.knownNames) : member? name b = member? name a :=
  eq_of_eqvGen (member? name) (fun _ _ h => member?_eq_of_change h name hname List.not_mem_nil) h

/-- The grammar and the status of an entry are those of its members. -/
theorem outline_of_ofJson? (h : Entry.ofJson? (.object a) = some e) :
    (do some (← textOrEmpty? (← member? "syntax" a), ← textOrEmpty? (← member? "status" a))) =
      some e.outline := by
  obtain ⟨grammarMember, hgrammarMember, h⟩ := Option.bind_eq_some_iff.mp h
  obtain ⟨grammar, hgrammar, h⟩ := Option.bind_eq_some_iff.mp h
  obtain ⟨statusMember, hstatusMember, h⟩ := Option.bind_eq_some_iff.mp h
  obtain ⟨status, hstatus, h⟩ := Option.bind_eq_some_iff.mp h
  obtain ⟨metadata, -, h⟩ := Option.bind_eq_some_iff.mp h
  obtain rfl := Option.some.inj h
  simp only [hgrammarMember, hstatusMember, Option.bind_eq_bind, Option.bind_some, hgrammar,
    hstatus, Entry.outline]

/-- **An entry has the same grammar and status after changes to its metadata.** -/
theorem outline_eq_of_changes (h : Relation.EqvGen (MembersChange Entry.knownNames []) a b)
    (ha : Entry.ofJson? (.object a) = some e) (hb : Entry.ofJson? (.object b) = some e') :
    e'.outline = e.outline := by
  have houtline := outline_of_ofJson? hb
  rw [member?_eq_of_changes h (by decide), member?_eq_of_changes h (by decide),
    outline_of_ofJson? ha] at houtline
  exact (Option.some.inj houtline).symm

/-! ## Documents -/

/-- How a member of a document of properties is read. -/
def readEntry? (member : JsonString × Json) : Option (Text × Entry) := do
  let (name, value) ← namedMember? member
  some (name, ← Entry.ofJson? value)

/-- Member by member, the names, grammars and statuses are the same. -/
theorem outlines_eq_of_sameButMetadata {members members' : List (JsonString × Json)}
    {entries entries' : List (Text × Entry)} (h : List.Forall₂ SameButMetadata members members')
    (hentries : members.mapM readEntry? = some entries)
    (hentries' : members'.mapM readEntry? = some entries') :
    entries'.map (fun entry => (entry.1, entry.2.outline)) =
      entries.map fun entry => (entry.1, entry.2.outline) := by
  induction h generalizing entries entries' with
  | nil =>
      obtain rfl : [] = entries := Option.some.inj hentries
      obtain rfl : [] = entries' := Option.some.inj hentries'
      rfl
  | cons hfirst hothers ih =>
      rw [List.mapM_cons] at hentries hentries'
      obtain ⟨first, hread, h⟩ := Option.bind_eq_some_iff.mp hentries
      obtain ⟨others, hmapM, h⟩ := Option.bind_eq_some_iff.mp h
      obtain rfl := Option.some.inj h
      obtain ⟨first', hread', h⟩ := Option.bind_eq_some_iff.mp hentries'
      obtain ⟨others', hmapM', h⟩ := Option.bind_eq_some_iff.mp h
      obtain rfl := Option.some.inj h
      rw [List.map_cons, List.map_cons, ih hmapM hmapM']
      cases hfirst with
      | changed name hchanges =>
          obtain ⟨⟨key, value⟩, hnamed, h⟩ := Option.bind_eq_some_iff.mp hread
          obtain ⟨key', rfl, hpair⟩ := Option.map_eq_some_iff.mp hnamed
          obtain ⟨rfl, rfl⟩ := Prod.mk.inj hpair
          obtain ⟨e, he, h⟩ := Option.bind_eq_some_iff.mp h
          obtain rfl := Option.some.inj h
          obtain ⟨e', he', h⟩ := Option.bind_eq_some_iff.mp hread'
          obtain rfl := Option.some.inj h
          rw [outline_eq_of_changes hchanges he he']

/-- **Every property has the same grammar and status in both documents.** -/
theorem map_outline_eq {members members' : List (JsonString × Json)} {old new : Table Entry}
    (h : List.Forall₂ SameButMetadata members members')
    (hold : tableOfJson? Entry.ofJson? (.object members) = some old)
    (hnew : tableOfJson? Entry.ofJson? (.object members') = some new) :
    new.map Entry.outline = old.map Entry.outline := by
  obtain ⟨entries, hentries, hold⟩ := Option.bind_eq_some_iff.mp hold
  obtain ⟨entries', hentries', hnew⟩ := Option.bind_eq_some_iff.mp hnew
  obtain rfl := Option.some.inj hold
  obtain rfl := Option.some.inj hnew
  rw [Table.map_ofList, Table.map_ofList,
    outlines_eq_of_sameButMetadata h hentries hentries']

/-- The spec made from a catalog depends on the grammars and statuses of its entries. -/
theorem toSpec_eq_of_outlines {old new : Table Entry}
    (h : new.map Entry.outline = old.map Entry.outline) (grammars : Grammar.Dictionary) :
    toSpec ⟨new, grammars⟩ = toSpec ⟨old, grammars⟩ := by
  have hspec : ∀ table : Table Entry, toSpec ⟨table, grammars⟩ = ⟨specVersion,
      ((table.map Entry.outline).entries.filter fun entry => !isPrefixed entry.1).map fun entry =>
        ⟨entry.1, Grammar.keywords grammars entry.2.1, entry.2.1, Status.ofText entry.2.2⟩⟩ := by
    intro table
    simp only [toSpec, Table.map, List.filter_map, List.map_map, Function.comp_def]
    rfl
  rw [hspec, hspec, h]

/-- **What is read depends on known members only.**  A document that is changed in its unknown
members, in the order of its members, or in whether an optional member is missing or `null`, any
number of times, can be written, and every document of the changed value is read as the same spec.
And of two documents of properties that can both be read and differ in metadata only, every property
has the same grammar and status, so with one dictionary the same spec is made from both. -/
theorem reads_known_members_only :
    (∀ document v w, Json.parse? document = some v → Relation.EqvGen Spec.Change v w →
      (∃ changed, Json.parse? changed = some w) ∧
      ∀ changed, Json.parse? changed = some w → Spec.parse? changed = Spec.parse? document) ∧
    ∀ first second members members' old new, Json.parse? first = some (.object members) →
      Json.parse? second = some (.object members') →
      List.Forall₂ SameButMetadata members members' →
      parseProperties? first = some old → parseProperties? second = some new →
      (∀ name, (new.get? name).map Entry.outline = (old.get? name).map Entry.outline) ∧
      ∀ grammars, toSpec ⟨new, grammars⟩ = toSpec ⟨old, grammars⟩ := by
  refine ⟨fun document v w hdocument hchanges => ⟨?_, fun changed hchanged => ?_⟩,
    fun first second members members' old new hfirst hsecond hsame hold hnew => ?_⟩
  · have hprintable := printable_iff.mpr ⟨document, hdocument⟩
    exact printable_iff.mp ((Spec.printable_of_changes hchanges).mp hprintable)
  · rw [Spec.parse?, Spec.parse?, hdocument, hchanged]
    exact Spec.ofJson?_of_changes hchanges
  · rw [parseProperties?, hfirst] at hold
    rw [parseProperties?, hsecond] at hnew
    have houtlines := map_outline_eq hsame hold hnew
    refine ⟨fun name => ?_, toSpec_eq_of_outlines houtlines⟩
    rw [← Table.get?_map, ← Table.get?_map, houtlines]

/-- The members of a property of which all is missing but the name. -/
def bareProperty : List (JsonString × Json) :=
  [(some (Text.ofString "name"), .text "a")]

/-- The properties of a spec with that property, as a member. -/
def bareProperties : JsonString × Json :=
  (some (Text.ofString "properties"), .array [.object bareProperty])

/-- The version of the spec, as a member. -/
def bareVersion : JsonString × Json :=
  (some (Text.ofString "version"), .text "1")

/-- The members of the spec with everything that is not noticed: a member of another name with a
number that fits no double, and with a name that denotes no text inside; the other order; and no
keywords. -/
def ornateMembers : List (JsonString × Json) :=
  [(some (Text.ofString "note"), .array [.number "1e999", .object [(none, .null)]]),
   (some (Text.ofString "properties"),
    .array [.object (bareProperty ++ [(some (Text.ofString "keywords"), .null)])]),
   bareVersion]

/-- The members of an entry with some metadata. -/
def displayMembers : List (JsonString × Json) :=
  [(some (Text.ofString "syntax"), .text "block"),
   (some (Text.ofString "status"), .text "standard"),
   (some (Text.ofString "inherited"), .bool false)]

/-- The members of the entry without the metadata, and in another order. -/
def plainDisplayMembers : List (JsonString × Json) :=
  [(some (Text.ofString "status"), .text "standard"),
   (some (Text.ofString "syntax"), .text "block")]

/-- The object with one property, whose entry has these members. -/
def onlyDisplay (members : List (JsonString × Json)) : List (JsonString × Json) :=
  [(some (Text.ofString "display"), .object members)]

/-- A spec is read as the bare one when everything that is not noticed has been changed, and one
entry makes the same spec as the other. -/
theorem reads_ornate_as_bare :
    (∃ changed, Json.parse? changed = some (.object ornateMembers) ∧
      Spec.parse? changed = some ⟨"1", [⟨"a", [], [], .standard⟩]⟩) ∧
    ∃ old new, parseProperties? (Json.object (onlyDisplay displayMembers)).print = some old ∧
      parseProperties? (Json.object (onlyDisplay plainDisplayMembers)).print = some new ∧
      ∀ grammars, toSpec ⟨new, grammars⟩ = toSpec ⟨old, grammars⟩ := by
  have hread : ∀ {v : Json}, v.Printable → Json.parse? v.print = some v := fun {v} hv => by
    simpa using parse?_print hv (rfl : List.all [] Token.isBlank = true)
  have hbare : (Json.object [bareVersion, bareProperties]).Printable := by
    refine .object (List.forall_mem_cons.mpr ⟨.string _, List.forall_mem_cons.mpr ⟨?_, nofun⟩⟩)
    refine .array (List.forall_mem_cons.mpr ⟨?_, nofun⟩)
    exact .object (List.forall_mem_cons.mpr ⟨.string _, nofun⟩)
  have hnote : (Json.array [.number "1e999", .object [(none, .null)]]).Printable := by
    refine .array (List.forall_mem_cons.mpr ⟨.number (by decide), ?_⟩)
    refine List.forall_mem_cons.mpr ⟨.object ?_, nofun⟩
    exact List.forall_mem_cons.mpr ⟨.null, nofun⟩
  -- One change after the other: the order, the missing keywords, and the further member.
  have hchanges : Relation.EqvGen Spec.Change (.object [bareVersion, bareProperties])
      (.object ornateMembers) := by
    apply Relation.EqvGen.trans _ (.object [bareProperties, bareVersion])
    · exact .rel _ _ (.spec (.permuted (.swap _ _ _)))
    apply Relation.EqvGen.trans _ (.object (ornateMembers.drop 1))
    · have hfilled : MembersChange Property.knownNames Property.optionalNames bareProperty
          (bareProperty ++ [(some (Text.ofString "keywords"), .null)]) :=
        .filled bareProperty [] (by decide) (by decide)
      exact .rel _ _ (.property [] [bareVersion] [] [] hfilled)
    · exact .rel _ _ (.spec (.inserted [] (ornateMembers.drop 1) (by decide) hnote))
  have hmetadata : Relation.EqvGen (MembersChange Entry.knownNames []) displayMembers
      plainDisplayMembers := by
    apply Relation.EqvGen.trans _ (displayMembers.take 2)
    · exact .symm _ _ (.rel _ _ (.inserted (displayMembers.take 2) []
        (by decide) (.bool false)))
    · exact .rel _ _ (.permuted (.swap _ _ _))
  have hdisplay : (Json.object (onlyDisplay displayMembers)).Printable :=
    .object (List.forall_mem_cons.mpr ⟨.object (List.forall_mem_cons.mpr ⟨.string _,
      List.forall_mem_cons.mpr ⟨.string _, List.forall_mem_cons.mpr ⟨.bool _, nofun⟩⟩⟩), nofun⟩)
  have hplain : (Json.object (onlyDisplay plainDisplayMembers)).Printable :=
    .object (List.forall_mem_cons.mpr ⟨.object (List.forall_mem_cons.mpr ⟨.string _,
      List.forall_mem_cons.mpr ⟨.string _, nofun⟩⟩), nofun⟩)
  obtain ⟨old, hold⟩ : ∃ old,
      parseProperties? (Json.object (onlyDisplay displayMembers)).print = some old :=
    Option.isSome_iff_exists.mp (by decide +kernel)
  obtain ⟨new, hnew⟩ : ∃ new,
      parseProperties? (Json.object (onlyDisplay plainDisplayMembers)).print = some new :=
    Option.isSome_iff_exists.mp (by decide +kernel)
  obtain ⟨⟨changed, hchanged⟩, hsame⟩ := reads_known_members_only.1 _ _ _ (hread hbare) hchanges
  refine ⟨⟨changed, hchanged, ?_⟩, old, new, hold, hnew, ?_⟩
  · rw [hsame changed hchanged]
    decide +kernel
  · exact (reads_known_members_only.2 _ _ _ _ old new (hread hdisplay) (hread hplain)
      (.cons (.changed _ hmetadata) .nil) hold hnew).2

end Catalog

end TypedStyle
