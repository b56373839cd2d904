import Mathlib.Data.List.Nodup
import TypedStyle.Proofs.Files.Writing
import TypedStyle.Proofs.Json.RoundTrip
import TypedStyle.Tool.Input
/-!
# Saved specs are loaded again

The value that denotes a spec has each member once, and each member denotes what it was made from;
only a status that is spelled like another one would be read as that other one.  A saved spec is the
document of that value with a line feed behind it.

* `Json.member?_ofMembers`, `Json.itemsOrNone?_map` — members and items are found again;
* `Property.ofJson?_toJson`, `Spec.ofJson?_toJson` — canonical specs are read as what they were;
* `Spec.loadFile_save` — so they survive being saved and loaded, whatever texts they consist of.
-/

namespace TypedStyle

/-! ## Values -/

namespace Json

/-- Members with distinct names are found by their names. -/
theorem member?_ofMembers {members : List (Text × Json)} (hnames : (members.map (·.1)).Nodup)
    {name : Text} {value : Json} (hmem : (name, value) ∈ members) :
    member? name (members.map fun member => (some member.1, member.2)) = some (some value) := by
  have hvalues : valuesOf name (members.map fun member => (some member.1, member.2)) = [value] := by
    induction members with
    | nil => exact absurd hmem List.not_mem_nil
    | cons first others ih =>
        obtain ⟨hfresh, hothers⟩ := List.nodup_cons.mp hnames
        rcases List.mem_cons.mp hmem with rfl | hlater
        · have hnone : ∀ member ∈ others, member.1 ≠ name := by
            intro member hmember heq
            exact hfresh (List.mem_map.mpr ⟨member, hmember, heq⟩)
          simpa [valuesOf, List.filter_map, Function.comp_def] using hnone
        · have hne : first.1 ≠ name := by
            intro heq
            exact hfresh (List.mem_map.mpr ⟨(name, value), hlater, heq.symm⟩)
          simpa [valuesOf, hne] using ih hothers hlater
  simp [member?, hvalues]

/-- Members that are written have texts for names. -/
theorem namesAreTexts_ofMembers (members : List (Text × Json)) :
    namesAreTexts (members.map fun member => (some member.1, member.2)) = true := by
  simp [namesAreTexts]

/-- A text is read as itself. -/
theorem textOrEmpty?_text (t : Text) : textOrEmpty? (some (.text t)) = some t :=
  rfl

/-- Items are read back one by one. -/
theorem itemsOrNone?_map {α : Type} {read : Json → Option α} {write : α → Json} {items : List α}
    (h : ∀ item ∈ items, read (write item) = some item) :
    itemsOrNone? read (some (.array (items.map write))) = some items := by
  show (items.map write).mapM read = some items
  induction items with
  | nil => rfl
  | cons item items ih =>
      have hfirst := h item List.mem_cons_self
      have hothers := ih fun other hother => h other (List.mem_cons_of_mem item hother)
      simp [hfirst, hothers]

/-- An object can be written if its values can. -/
theorem printable_ofMembers {members : List (Text × Json)}
    (h : ∀ member ∈ members, Printable member.2) : Printable (.ofMembers members) := by
  apply Printable.object
  intro member hmember
  obtain ⟨written, hwritten, rfl⟩ := List.mem_map.mp hmember
  exact h written hwritten

end Json

/-! ## Specs -/

/-- **A canonical status is read back from its text.** -/
theorem Status.ofMember?_text {status : Status} (h : status.Canonical) :
    ofMember? (some (.text status.text)) = some status := by
  show some (ofText status.text) = some status
  rw [h]

namespace Property

/-- The members of the value that denotes a property. -/
def members (property : Property) : List (Text × Json) :=
  [("name", .text property.name),
   ("keywords", .array (property.keywords.map Json.text)),
   ("syntax", .text property.grammar),
   ("status", .text property.status.text)]

theorem toJson_eq (property : Property) : property.toJson = .ofMembers property.members :=
  rfl

theorem nodup_members (property : Property) : (property.members.map (·.1)).Nodup := by
  show (["name", "keywords", "syntax", "status"].map Text.ofString).Nodup
  decide

/-- **A property with a canonical status is the one that its value denotes.** -/
theorem ofJson?_toJson {property : Property} (h : property.status.Canonical) :
    ofJson? property.toJson = some property := by
  have hmember : ∀ name value, (name, value) ∈ property.members →
      Json.member? name (property.members.map fun member => (some member.1, member.2)) =
        some (some value) :=
    fun name value hmem => Json.member?_ofMembers property.nodup_members hmem
  have hname := hmember "name" (.text property.name) (by simp [members])
  have hkeywords :=
    hmember "keywords" (.array (property.keywords.map Json.text)) (by simp [members])
  have hgrammar := hmember "syntax" (.text property.grammar) (by simp [members])
  have hstatus := hmember "status" (.text property.status.text) (by simp [members])
  have hitems : Json.itemsOrNone? Json.text? (some (.array (property.keywords.map Json.text))) =
      some property.keywords :=
    Json.itemsOrNone?_map fun keyword _ => rfl
  have hread := Status.ofMember?_text h
  simp only [toJson_eq, Json.ofMembers, ofJson?, Json.namesAreTexts_ofMembers, if_true, hname,
    hkeywords, hgrammar, hstatus, Option.bind_eq_bind, Option.bind_some]
  simp only [ofMembers?, Json.textOrEmpty?_text, hitems, hread, Option.bind_eq_bind,
    Option.bind_some]

/-- The document of a property can be written. -/
theorem printable_toJson (property : Property) : Json.Printable property.toJson := by
  apply Json.printable_ofMembers
  simp only [List.forall_mem_cons]
  refine ⟨.string _, .array ?_, .string _, .string _, ?_⟩
  · intro item hitem
    obtain ⟨keyword, _, rfl⟩ := List.mem_map.mp hitem
    exact .string _
  · exact fun member hmember => absurd hmember List.not_mem_nil

end Property

namespace Spec

/-- The members of the value that denotes a spec. -/
def members (spec : Spec) : List (Text × Json) :=
  [("version", .text spec.version),
   ("properties", .array (spec.properties.map Property.toJson))]

theorem toJson_eq (spec : Spec) : spec.toJson = .ofMembers spec.members :=
  rfl

theorem nodup_members (spec : Spec) : (spec.members.map (·.1)).Nodup := by
  show (["version", "properties"].map Text.ofString).Nodup
  decide

/-- **A canonical spec is the one that its value denotes.** -/
theorem ofJson?_toJson {spec : Spec} (h : spec.Canonical) : ofJson? spec.toJson = some spec := by
  have hmember : ∀ name value, (name, value) ∈ spec.members →
      Json.member? name (spec.members.map fun member => (some member.1, member.2)) =
        some (some value) :=
    fun name value hmem => Json.member?_ofMembers spec.nodup_members hmem
  have hversion := hmember "version" (.text spec.version) (by simp [members])
  have hproperties :=
    hmember "properties" (.array (spec.properties.map Property.toJson)) (by simp [members])
  have hitems : Json.itemsOrNone? Property.ofJson?
      (some (.array (spec.properties.map Property.toJson))) = some spec.properties := by
    apply Json.itemsOrNone?_map
    intro property hproperty
    exact Property.ofJson?_toJson (h property hproperty)
  simp only [toJson_eq, Json.ofMembers, ofJson?, Json.namesAreTexts_ofMembers, if_true, hversion,
    hproperties, Option.bind_eq_bind, Option.bind_some]
  simp only [ofMembers?, Json.textOrEmpty?_text, hitems, Option.bind_eq_bind, Option.bind_some]

/-- **The document of a spec can be written.** -/
theorem printable_toJson (spec : Spec) : Json.Printable spec.toJson := by
  apply Json.printable_ofMembers
  simp only [List.forall_mem_cons]
  refine ⟨.string _, .array ?_, ?_⟩
  · intro item hitem
    obtain ⟨property, _, rfl⟩ := List.mem_map.mp hitem
    exact property.printable_toJson
  · exact fun member hmember => absurd hmember List.not_mem_nil

/-- A canonical spec is read from its document, also when blanks follow. -/
theorem parse?_print {spec : Spec} (h : spec.Canonical) {blanks : Text}
    (hblanks : blanks.all Json.Token.isBlank = true) :
    parse? (spec.print ++ blanks) = some spec := by
  rw [parse?, print, Json.parse?_print spec.printable_toJson hblanks]
  exact ofJson?_toJson h

/-! ## Files -/

/-- A file that holds a document is loaded as what the document denotes. -/
theorem run_loadFile (clock : Text) {tree : FileTree} {path : Path} {document : Text} {spec : Spec}
    (hread : (Script.readText path).run clock tree = (.ok document, tree))
    (hparse : parse? document = some spec) :
    (loadFile path).run clock tree = (.ok spec, tree) := by
  rw [loadFile, readDocument, Script.run_bind, hread]
  simp [hparse]

/-- Saving writes the document with a line feed, and reports whether it was written. -/
theorem run_save (spec : Spec) (path : Path) (clock : Text) (tree : FileTree) :
    (spec.save path).run clock tree =
      match tree.write path (Text.toBytes (spec.print ++ "\n")) with
      | .ok after => (.ok (), after)
      | .error fault => (.error ⟨path, fault⟩, tree) := by
  rw [save, Script.run_bind, Script.run_writeText]
  cases tree.write path (Text.toBytes (spec.print ++ "\n")) <;> rfl

/-- **A canonical spec survives being written and read, whatever texts it consists of.**  It is read
from its document, with or without the line feed that saving adds; where its path can be written,
saving succeeds, and whenever saving has succeeded, loading the same path gives the spec back and
leaves the files as they are. -/
theorem loadFile_save {spec : Spec} (h : spec.Canonical) :
    parse? spec.print = some spec ∧
    parse? (spec.print ++ "\n") = some spec ∧
    (∀ clock tree path place, tree.writable path = .ok place →
      ∃ after, (spec.save path).run clock tree = (.ok (), after)) ∧
    ∀ clock later tree path after, (spec.save path).run clock tree = (.ok (), after) →
      (loadFile path).run later after = (.ok spec, after) := by
  have hline : parse? (spec.print ++ "\n") = some spec :=
    parse?_print h rfl
  refine ⟨?_, hline, ?_, ?_⟩
  · have hplain := parse?_print h (List.all_nil)
    rwa [List.append_nil] at hplain
  · intro clock tree path place hwritable
    refine ⟨tree.put place (.file (Text.toBytes (spec.print ++ "\n"))), ?_⟩
    rw [run_save, FileTree.write, hwritable]
    rfl
  · intro clock later tree path after hsave
    rw [run_save] at hsave
    cases hwrite : tree.write path (Text.toBytes (spec.print ++ "\n")) with
    | error fault =>
        rw [hwrite] at hsave
        simp at hsave
    | ok written =>
        rw [hwrite] at hsave
        obtain rfl : written = after := by simpa using hsave
        have hread := Script.run_readText later (FileTree.read_write hwrite)
        exact run_loadFile later hread hline

/-- A spec of texts that are hard to write, and of empty lists. -/
def awkward : Spec where
  version := "1.0 \"beta\" \\ \x00\x1f"
  properties :=
    [⟨"", ["\n", "", "😀"], "a\tb / c", .other "nonstandard"⟩, ⟨"\u2028", [], "", .deprecated⟩]

/-- A tree with an empty working folder. -/
def emptyFolder : FileTree where
  home := ["work"]
  nodes := [(["work"], .folder)]

/-- The awkward spec is saved in the empty folder and loaded again. -/
theorem loadFile_save_awkward :
    awkward.Canonical ∧
    parse? (awkward.print ++ "\n") = some awkward ∧
    ∃ after, (awkward.save "spec.json").run [] emptyFolder = (.ok (), after) ∧
      (loadFile "spec.json").run [] after = (.ok awkward, after) := by
  have hcanonical : awkward.Canonical := by
    unfold Canonical Status.Canonical
    decide
  obtain ⟨_, hline, hsave, hload⟩ := loadFile_save hcanonical
  have hwritable : emptyFolder.writable "spec.json" = .ok ["work", "spec.json"] := by
    rfl
  obtain ⟨after, hafter⟩ := hsave [] emptyFolder "spec.json" _ hwritable
  exact ⟨hcanonical, hline, after, hafter, hload [] [] emptyFolder "spec.json" after hafter⟩

end Spec

end TypedStyle
