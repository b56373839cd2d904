import TypedStyle.Proofs.Files.Joining
/-!
# Dictionaries that cannot break a load

A catalog has a file of properties and may have a file of grammars, and only the first can make it
fail to load.  So whatever stands at the place of the second, nothing at all, a folder or a file
with any bytes, a folder is loaded to the same failure or to the same properties, and a spec is
loaded from it that differs in keywords at most.  A file of grammars that cannot be read to its end
counts for nothing.

* `Spec.run_load` — what is loaded from a path, as a function of the answers;
* `Spec.loadsAlike_load` — specs are loaded alike where catalogs are;
* `load_sameBut_grammars` — what the file of grammars can change.
-/

namespace TypedStyle

/-- Two loads fail in the same way, or both give a result and the results are alike. -/
inductive LoadsAlike {α : Type} (alike : α → α → Prop) :
    Except LoadFailure α → Except LoadFailure α → Prop
  | failed (failure : LoadFailure) : LoadsAlike alike (.error failure) (.error failure)
  | loaded {a b : α} (h : alike a b) : LoadsAlike alike (.ok a) (.ok b)

namespace LoadsAlike

variable {α β : Type} {alike : α → α → Prop} {a b : Except LoadFailure α}

theorem refl (h : ∀ result, alike result result) (a : Except LoadFailure α) :
    LoadsAlike alike a a := by
  cases a with
  | error failure => exact .failed failure
  | ok result => exact .loaded (h result)

/-- What is loaded alike is alike once it has been turned into something else. -/
theorem map {alikeMapped : β → β → Prop} (h : LoadsAlike alike a b) (f : α → β)
    (hf : ∀ a b, alike a b → alikeMapped (f a) (f b)) :
    LoadsAlike alikeMapped (a.map f) (b.map f) := by
  cases h with
  | failed failure => exact .failed failure
  | loaded h => exact .loaded (hf _ _ h)

/-- Loading alike up to equality is loading the same. -/
theorem eq (h : LoadsAlike Eq a b) : a = b := by
  cases h with
  | failed failure => rfl
  | loaded h => rw [h]

end LoadsAlike

namespace Spec

/-- The property without its keywords. -/
def outline (property : Property) : Text × Text × Status :=
  (property.name, property.grammar, property.status)

/-- The specs have the same version, and the same names, grammars and statuses in the same order. -/
structure SameButKeywords (a b : Spec) : Prop where
  version : b.version = a.version
  outlines : b.properties.map outline = a.properties.map outline

theorem SameButKeywords.refl (spec : Spec) : SameButKeywords spec spec :=
  ⟨rfl, rfl⟩

/-- The keywords of a spec that is made from a catalog are all that depends on the dictionary. -/
theorem sameButKeywords_toSpec {a b : Catalog} (h : b.properties = a.properties) :
    SameButKeywords a.toSpec b.toSpec where
  version := rfl
  outlines := by
    rw [Catalog.toSpec, Catalog.toSpec, h, List.map_map, List.map_map]
    rfl

/-- **A spec is loaded from the answers about a path and the files in it.** -/
theorem run_load (path : Path) (clock : Text) (tree : FileTree) :
    ((load path).run clock tree).1 =
      match tree.inspect path with
      | .error fault => .error (.access path fault)
      | .ok .file => documentOf parse? path (tree.read path)
      | .ok .folder =>
        if (tree.inspect (path.join Catalog.propertiesFile)).toOption = some .file then
          (((Catalog.load path).run clock tree).1).map Catalog.toSpec
        else documentOf parse? (path.join fileName) (tree.read (path.join fileName)) := by
  rw [load, Script.run]
  cases tree.inspect path with
  | error fault => rfl
  | ok kind =>
      cases kind with
      | file => exact congrArg Prod.fst (run_readDocument clock tree)
      | folder =>
          dsimp only
          rw [Script.run_bind, Catalog.run_isIn]
          by_cases h : (tree.inspect (path.join Catalog.propertiesFile)).toOption = some .file
          · rw [if_pos h, decide_eq_true h, if_pos rfl, loadCatalog, Script.run_bind]
            rfl
          · rw [if_neg h, decide_eq_false h, if_neg Bool.false_ne_true, loadFile, run_readDocument]

end Spec

/-! ## Two trees -/

section Trees

open Catalog

/-- The names of the files that are loaded from a folder can stand on a path. -/
theorem isWritten_fileNames : ∀ name ∈ [propertiesFile, grammarsFile, Spec.fileName],
    (Path.Step.down name).IsWritten := by
  simp only [List.forall_mem_cons, Path.Step.IsWritten]
  decide

variable {tree other : FileTree} {folder : Path}

/-- Another file of the folder does not stand at the place of the grammars or below it. -/
theorem not_prefix_of_ne {name : Text} (hname : name ≠ grammarsFile) :
    ¬ tree.named (folder.join grammarsFile) <+: tree.named folder ++ [name] := by
  rw [FileTree.named_join (isWritten_fileNames _ (by decide)), List.prefix_append_right_inj,
    List.cons_prefix_cons]
  exact fun h => hname h.1.symm

variable (h : tree.SameBut other (tree.named (folder.join grammarsFile)))
variable (hfolder : other.inspect folder = tree.inspect folder)

include h hfolder

/-- **The catalog is loaded to the same failure or to the same properties.** -/
theorem Catalog.loadsAlike_load (clock : Text) :
    LoadsAlike (fun a b => b.properties = a.properties) ((Catalog.load folder).run clock tree).1
      ((Catalog.load folder).run clock other).1 := by
  have hread : other.read (folder.join propertiesFile) = tree.read (folder.join propertiesFile) :=
    h.read_join (isWritten_fileNames _ (by decide)) hfolder (not_prefix_of_ne (by decide))
  rw [Catalog.run_load, Catalog.run_load, hread]
  cases documentOf parseProperties? (folder.join propertiesFile)
    (tree.read (folder.join propertiesFile)) with
  | error failure => exact .failed failure
  | ok properties => exact .loaded rfl

/-- **Specs are loaded alike where catalogs are**, if specs from alike catalogs are alike: all other
files of the folder are the same. -/
theorem Spec.loadsAlike_load (clock : Text) {alike : Catalog → Catalog → Prop}
    {alikeSpecs : Spec → Spec → Prop} (hrefl : ∀ spec, alikeSpecs spec spec)
    (htoSpec : ∀ a b, alike a b → alikeSpecs a.toSpec b.toSpec)
    (hcatalogs : LoadsAlike alike ((Catalog.load folder).run clock tree).1
      ((Catalog.load folder).run clock other).1) :
    LoadsAlike alikeSpecs ((Spec.load folder).run clock tree).1
      ((Spec.load folder).run clock other).1 := by
  rw [Spec.run_load, Spec.run_load, hfolder]
  cases hkind : tree.inspect folder with
  | error fault => exact .failed _
  | ok kind =>
      cases kind with
      | file =>
          have hread : other.read folder = tree.read folder := by
            apply h.read_of_inspect_file hkind hfolder
            rw [FileTree.named_join (isWritten_fileNames _ (by decide))]
            exact fun hprefix => absurd hprefix.length_le (by simp)
          dsimp only
          rw [hread]
          exact .refl hrefl _
      | folder =>
          have hinspect : other.inspect (folder.join propertiesFile) =
              tree.inspect (folder.join propertiesFile) :=
            h.inspect_join (isWritten_fileNames _ (by decide)) hfolder
              (not_prefix_of_ne (by decide))
          have hread : other.read (folder.join Spec.fileName) =
              tree.read (folder.join Spec.fileName) :=
            h.read_join (isWritten_fileNames _ (by decide)) hfolder (not_prefix_of_ne (by decide))
          dsimp only
          rw [hinspect, hread]
          split
          · exact hcatalogs.map Catalog.toSpec htoSpec
          · exact .refl hrefl _

end Trees

namespace Catalog

/-- Where nothing stands, no dictionary is read. -/
theorem grammarsOf_of_absent {tree : FileTree} {path : Path}
    (h : tree.at? (tree.named path) = none) : grammarsOf path (tree.read path) = Table.empty := by
  cases hread : tree.read path with
  | error fault => rfl
  | ok content =>
      obtain ⟨place, hnode⟩ := FileTree.read_eq_ok_iff.mp hread
      obtain ⟨parent, name, hfind, -, -, rfl, hat⟩ := FileTree.node_eq_file_iff.mp hnode
      rw [← FileTree.place_of_find hfind] at h
      exact absurd (h.symm.trans hat) (by simp)

/-- **A dictionary cannot break a load.**  Let two trees differ at the file of grammars of a folder
only, and let the path of the folder lead to the same kind of thing in both, as it does unless it
passes through that very file.  Then the catalog in the folder is loaded to the same failure, or in
both trees to the same properties; a spec is loaded from the folder with the same failure, or in
both trees with the same version and the same names, grammars and statuses in the same order.  And
if in one tree the dictionary cannot be read, or is none, and in the other nothing stands there,
then both results are the same altogether. -/
theorem load_sameBut_grammars {tree other : FileTree} {folder : Path}
    (h : tree.SameBut other (tree.named (folder.join grammarsFile)))
    (hfolder : other.inspect folder = tree.inspect folder) (clock : Text) :
    LoadsAlike (fun a b => b.properties = a.properties)
      ((load folder).run clock tree).1 ((load folder).run clock other).1 ∧
    LoadsAlike Spec.SameButKeywords
      ((Spec.load folder).run clock tree).1 ((Spec.load folder).run clock other).1 ∧
    ∀ failure, ((readDocument parseGrammars? (folder.join grammarsFile)).run clock tree).1 =
        .error failure →
      other.at? (tree.named (folder.join grammarsFile)) = none →
      ((load folder).run clock other).1 = ((load folder).run clock tree).1 ∧
      ((Spec.load folder).run clock other).1 = ((Spec.load folder).run clock tree).1 := by
  have hcatalogs := loadsAlike_load h hfolder clock
  refine ⟨hcatalogs, Spec.loadsAlike_load h hfolder clock Spec.SameButKeywords.refl
    (fun a b => Spec.sameButKeywords_toSpec) hcatalogs, fun failure hbroken habsent => ?_⟩
  -- Neither tree has a dictionary, so the catalogs have the same properties and the empty one.
  have hbrokenTree : grammarsOf (folder.join grammarsFile)
      (tree.read (folder.join grammarsFile)) = Table.empty := by
    rw [run_readDocument] at hbroken
    have hdocument : documentOf parseGrammars? (folder.join grammarsFile)
      (tree.read (folder.join grammarsFile)) = .error failure := hbroken
    rw [grammarsOf, hdocument]
    rfl
  have hbrokenOther : grammarsOf (folder.join grammarsFile)
      (other.read (folder.join grammarsFile)) = Table.empty :=
    grammarsOf_of_absent (by rwa [h.named_eq])
  have hsame : LoadsAlike Eq ((load folder).run clock tree).1
      ((load folder).run clock other).1 := by
    rw [run_load, run_load, hbrokenTree, hbrokenOther] at hcatalogs ⊢
    revert hcatalogs
    cases documentOf parseProperties? (folder.join propertiesFile)
        (tree.read (folder.join propertiesFile)) <;>
      cases documentOf parseProperties? (folder.join propertiesFile)
        (other.read (folder.join propertiesFile)) <;>
      rintro (_ | ⟨⟨⟩⟩)
    · exact .failed _
    · exact .loaded rfl
  exact ⟨hsame.eq.symm,
    (Spec.loadsAlike_load h hfolder clock (fun _ => rfl) (fun a b hab => by rw [hab])
      hsame).eq.symm⟩

/-- A folder with the properties of a catalog and no dictionary. -/
def withoutDictionary : FileTree where
  home := ["work"]
  nodes :=
    [(["work"], .folder), (["work", "mdn"], .folder),
     (["work", "mdn", "properties.json"],
      .file (Text.toBytes "\x7b\"display\": \x7b\"syntax\": \"<box> | none\"\x7d\x7d"))]

/-- A dictionary with an entry that can be read and one that cannot. -/
def halfADictionary : Text := "\x7b\"box\": [\"block\"], \"rest\": 1\x7d"

/-- The folder with that dictionary. -/
def withHalfADictionary : FileTree :=
  withoutDictionary.put ["work", "mdn", "syntaxes.json"] (.file (Text.toBytes halfADictionary))

/-- No entry of a dictionary counts if one of them cannot be read: the spec is the one without any
dictionary. -/
theorem load_withHalfADictionary :
    withHalfADictionary.SameBut withoutDictionary
      (withHalfADictionary.named (Path.join "mdn" grammarsFile)) ∧
    withoutDictionary.inspect "mdn" = withHalfADictionary.inspect "mdn" ∧
    (∃ failure, ((readDocument parseGrammars? (Path.join "mdn" grammarsFile)).run []
      withHalfADictionary).1 = .error failure) ∧
    withoutDictionary.at? (withHalfADictionary.named (Path.join "mdn" grammarsFile)) = none ∧
    ((Spec.load "mdn").run [] withoutDictionary).1 =
      ((Spec.load "mdn").run [] withHalfADictionary).1 := by
  have hplace : withHalfADictionary.named (Path.join "mdn" grammarsFile) =
      (["work", "mdn", "syntaxes.json"] : Place) := by decide
  have hsame : withHalfADictionary.SameBut withoutDictionary
      (withHalfADictionary.named (Path.join "mdn" grammarsFile)) := by
    rw [hplace]
    exact .of_put _ _ _
  have hfolder : withoutDictionary.inspect "mdn" = withHalfADictionary.inspect "mdn" := rfl
  have hparse : parseGrammars? halfADictionary = none := by
    rw [← Option.isNone_iff_eq_none]
    decide +kernel
  have hread : withHalfADictionary.read (Path.join "mdn" grammarsFile) =
      .ok (Text.toBytes halfADictionary) := rfl
  have hbroken : ((readDocument parseGrammars? (Path.join "mdn" grammarsFile)).run []
      withHalfADictionary).1 = .error (.parse (Path.join "mdn" grammarsFile)) := by
    rw [run_readDocument, hread, documentOf, Text.ofBytes?_toBytes]
    simp only [hparse]
  have habsent : withoutDictionary.at?
      (withHalfADictionary.named (Path.join "mdn" grammarsFile)) = none := rfl
  obtain ⟨-, -, hequal⟩ := load_sameBut_grammars hsame hfolder []
  exact ⟨hsame, hfolder, ⟨_, hbroken⟩, habsent, (hequal _ hbroken habsent).2⟩

end Catalog

end TypedStyle
