import TypedStyle.Proofs.Files.Loading
import TypedStyle.Proofs.Files.Overwriting
import TypedStyle.Proofs.Spec.Canonical
import TypedStyle.Proofs.Spec.Saving
import TypedStyle.Tool.Audit
/-!
# Auditing again after an update

An audit that brings the spec up to date in its own place leaves a file that the next audit reads as
the updated spec.  The files of the catalog are other files, so the next audit finds the same
catalog; it has nothing to correct, writes the same bytes, and reports every property that the
catalog has as clean.

* `run_of_load`, `exists_of_run` — a run of the auditor, taken apart;
* `run_load_again` — the second audit starts from the same catalog and the updated spec;
* `isClean_of_mem_audit_update` — what it finds;
* `run_again_after_update` — the second run as a whole.
-/

namespace TypedStyle

/-! ## Findings on an updated spec -/

namespace Catalog

/-- In the audit of an updated spec the clean findings are those on the properties that the catalog
has. -/
theorem isClean_of_mem_audit_update (catalog : Catalog) {spec : Spec} {finding : Finding}
    (hmem : finding ∈ catalog.audit (catalog.update spec)) :
    finding.isClean = (catalog.properties.get? finding.name).isSome := by
  rw [audit_update] at hmem
  obtain ⟨property, -, rfl⟩ := List.mem_map.mp hmem
  have hname : (catalog.examine (catalog.updateProperty property)).name = property.name :=
    catalog.name_updateProperty property
  rw [hname]
  cases hfound : catalog.properties.get? property.name with
  | none =>
      rw [catalog.examine_updateProperty_of_absent hfound]
      simp [Finding.isClean, examine, hfound]
  | some entry =>
      obtain ⟨c, hc, hmissing, hextra⟩ := catalog.examine_updateProperty_of_entry hfound
      exact isClean_of_comparison hc hmissing hextra

/-- The number of clean findings on an updated spec is that of its properties in the catalog. -/
theorem countP_isClean_audit_update (catalog : Catalog) (spec : Spec) :
    (catalog.audit (catalog.update spec)).countP Finding.isClean =
      (catalog.update spec).properties.countP fun property =>
        (catalog.properties.get? property.name).isSome := by
  have hclean : ∀ finding ∈ catalog.audit (catalog.update spec),
      finding.isClean = true ↔ (catalog.properties.get? finding.name).isSome = true := by
    intro finding hmem
    rw [catalog.isClean_of_mem_audit_update hmem]
  rw [List.countP_congr hclean, audit, List.countP_map]
  rfl

end Catalog

/-- A report ends in the number of clean findings among all. -/
theorem Audit.report_eq (verbose : Bool) (findings : List Finding) :
    ∃ paragraphs, report verbose findings = paragraphs ++
      (Text.ofNat (findings.countP Finding.isClean) ++ " of " ++ Text.ofNat findings.length ++
        " properties match MDN\n") :=
  ⟨_, rfl⟩

namespace AuditArguments

variable {arguments : AuditArguments} {clock later : Text} {tree after : FileTree}
variable {folder : Path} {catalog : Catalog} {spec : Spec}

/-! ## The parts of a run -/

/-- Loading answers about the catalog first, and about the spec only if there is a catalog. -/
theorem run_load (hfolder : (Catalog.resolve arguments.catalog).run clock tree = (folder, tree)) :
    arguments.load.run clock tree =
      (((Catalog.load folder).run clock tree).1 >>= fun catalog =>
        (documentOf Spec.parse? arguments.spec (tree.read arguments.spec)).map (catalog, ·),
        tree) := by
  rw [load, Script.run_bind, hfolder, Script.run_bind, Catalog.run_load]
  dsimp only
  cases (documentOf Catalog.parseProperties? (folder.join Catalog.propertiesFile)
      (tree.read (folder.join Catalog.propertiesFile))).map fun properties =>
        (⟨properties, Catalog.grammarsOf (folder.join Catalog.grammarsFile)
          (tree.read (folder.join Catalog.grammarsFile))⟩ : Catalog) with
  | error failure => rfl
  | ok catalog =>
      dsimp only
      rw [Script.run_bind, Spec.loadFile, run_readDocument]
      cases documentOf Spec.parse? arguments.spec (tree.read arguments.spec) <;> rfl

/-- What a run makes of the catalog and the spec that it has loaded. -/
theorem run_of_load (hload : arguments.load.run clock tree = (.ok (catalog, spec), tree)) :
    arguments.run.run clock tree =
      (.ok ⟨Audit.report arguments.verbose (catalog.audit spec),
          ((arguments.writeUpdate catalog spec).run clock tree).1⟩,
        ((arguments.writeUpdate catalog spec).run clock tree).2) := by
  rw [run, Script.run_bind, hload]
  dsimp only
  rw [Script.run_bind]
  rfl

/-- An update is written to its target, and it is reported whether that succeeded. -/
theorem run_writeUpdate (hupdate : arguments.update = true) :
    (arguments.writeUpdate catalog spec).run clock tree =
      match tree.write arguments.target (Text.toBytes ((catalog.update spec).print ++ "\n")) with
      | .ok after => (some (.ok arguments.target), after)
      | .error fault => (some (.error ⟨arguments.target, fault⟩), tree) := by
  rw [writeUpdate, if_pos hupdate, Script.run_bind, Spec.run_save]
  cases tree.write arguments.target (Text.toBytes ((catalog.update spec).print ++ "\n")) <;> rfl

/-- **A run that has written an update, taken apart**: it has loaded a catalog and a spec, and it
has written the updated spec to its target. -/
theorem exists_of_run {report : Text} {path : Path} (hupdate : arguments.update = true)
    (hfolder : (Catalog.resolve arguments.catalog).run clock tree = (folder, tree))
    (hrun : arguments.run.run clock tree = (.ok ⟨report, some (.ok path)⟩, after)) :
    ∃ catalog spec, (Catalog.load folder).run clock tree = (.ok catalog, tree) ∧
      documentOf Spec.parse? arguments.spec (tree.read arguments.spec) = .ok spec ∧
      tree.write arguments.target (Text.toBytes ((catalog.update spec).print ++ "\n")) =
        .ok after ∧
      arguments.target = path := by
  have hload : arguments.load.run clock tree = _ := run_load hfolder
  cases hloaded : ((Catalog.load folder).run clock tree).1 >>= fun catalog =>
      (documentOf Spec.parse? arguments.spec (tree.read arguments.spec)).map (catalog, ·) with
  | error failure =>
      rw [hloaded] at hload
      rw [run, Script.run_bind, hload] at hrun
      simp at hrun
  | ok loaded =>
      obtain ⟨catalog, hcatalog, hspec⟩ := exists_of_bind_eq_ok hloaded
      cases hdocument : documentOf Spec.parse? arguments.spec (tree.read arguments.spec) with
      | error failure =>
          rw [hdocument] at hspec
          contradiction
      | ok spec =>
          rw [hdocument] at hspec
          obtain rfl : (catalog, spec) = loaded := Except.ok.inj hspec
          rw [hloaded] at hload
          rw [run_of_load hload, run_writeUpdate hupdate] at hrun
          have hkept := (Catalog.readsOnly_load folder).run clock tree
          refine ⟨catalog, spec, Prod.ext hcatalog hkept, rfl, ?_⟩
          cases hwrite : tree.write arguments.target
              (Text.toBytes ((catalog.update spec).print ++ "\n")) with
          | error fault => simp [hwrite] at hrun
          | ok written =>
              rw [hwrite] at hrun
              simp only [Prod.mk.injEq, Except.ok.injEq, AuditOutcome.mk.injEq,
                Option.some.injEq] at hrun
              obtain ⟨⟨-, rfl⟩, rfl⟩ := hrun
              exact ⟨rfl, rfl⟩

/-! ## The second run -/

/-- **The second audit starts from the same catalog and from the updated spec.**  Where the file of
the spec is overwritten, no other file changes, and every path leads to the same kind of thing. -/
theorem run_load_again
    (hfolder : (Catalog.resolve arguments.catalog).run clock tree = (folder, tree))
    (hproperties : ¬ tree.SameFile arguments.spec (folder.join Catalog.propertiesFile))
    (hgrammars : ¬ tree.SameFile arguments.spec (folder.join Catalog.grammarsFile))
    (hcatalog : (Catalog.load folder).run clock tree = (.ok catalog, tree))
    (hspec : documentOf Spec.parse? arguments.spec (tree.read arguments.spec) = .ok spec)
    (hwrite : tree.write arguments.spec (Text.toBytes ((catalog.update spec).print ++ "\n")) =
      .ok after) :
    arguments.load.run later after = (.ok (catalog, catalog.update spec), after) := by
  obtain ⟨old, document, hold, -, hparse⟩ := documentOf_eq_ok_iff.mp hspec
  cases hwritable : tree.writable arguments.spec with
  | error fault => simp [FileTree.write, hwritable, Except.map] at hwrite
  | ok target =>
      obtain ⟨hself, hfile⟩ := FileTree.file_of_read_of_writable hold hwritable
      have hafter : tree.put target
          (.file (Text.toBytes ((catalog.update spec).print ++ "\n"))) = after := by
        rw [FileTree.write, hwritable] at hwrite
        exact Except.ok.inj hwrite
      have hother : ∀ path, ¬ tree.SameFile arguments.spec path →
          after.read path = tree.read path := by
        intro path hdifferent
        rw [← hafter]
        apply FileTree.read_overwrite hfile
        exact fun hnode => hdifferent ⟨target, old, hself, hnode⟩
      have hfolderAgain : (Catalog.resolve arguments.catalog).run later after =
          (folder, after) := by
        rw [Catalog.run_resolve] at hfolder ⊢
        rw [← hafter, (FileTree.sameShape_overwrite hfile _).inspect_congr]
        rw [(Prod.mk.inj hfolder).1]
      have hcatalogAgain : ((Catalog.load folder).run later after).1 = .ok catalog := by
        rw [Catalog.run_load] at hcatalog ⊢
        rw [hother _ hproperties, hother _ hgrammars]
        exact (Prod.mk.inj hcatalog).1
      have hspecAgain : documentOf Spec.parse? arguments.spec (after.read arguments.spec) =
          .ok (catalog.update spec) := by
        have hcanonical := catalog.canonical_update (Spec.canonical_of_parse? hparse)
        exact documentOf_eq_ok_iff.mpr
          ⟨_, _, FileTree.read_write hwrite, Text.ofBytes?_toBytes _,
            Spec.parse?_print hcanonical rfl⟩
      rw [run_load hfolderAgain, hcatalogAgain, hspecAgain]
      rfl

/-- **Once a spec has been brought up to date in its own place, a second audit finds it settled.**
Let an audit succeed that writes the updated spec to the file that it was read from, and let this
file be none of the two that the catalog is read from.  Then the same audit succeeds again and
leaves every file as it was, to the byte; it starts from the same catalog and from the updated spec;
and its findings are on the properties of that spec, in order, of which exactly those are clean, and
are counted so at the end of the report, whose names the catalog has. -/
theorem run_again_after_update {report : Text} {path : Path} (hupdate : arguments.update = true)
    (hout : arguments.out = none)
    (hfolder : (Catalog.resolve arguments.catalog).run clock tree = (folder, tree))
    (hproperties : ¬ tree.SameFile arguments.spec (folder.join Catalog.propertiesFile))
    (hgrammars : ¬ tree.SameFile arguments.spec (folder.join Catalog.grammarsFile))
    (hrun : arguments.run.run clock tree = (.ok ⟨report, some (.ok path)⟩, after)) :
    ∃ catalog spec, (Catalog.load folder).run clock tree = (.ok catalog, tree) ∧
      (∀ later, (Spec.loadFile arguments.spec).run later after = (.ok spec, after)) ∧
      (∀ later, arguments.run.run later after =
        (.ok ⟨Audit.report arguments.verbose (catalog.audit spec), some (.ok path)⟩, after)) ∧
      (catalog.audit spec).map Finding.name = spec.properties.map Property.name ∧
      (∀ finding ∈ catalog.audit spec,
        finding.isClean = (catalog.properties.get? finding.name).isSome) ∧
      ∃ paragraphs, Audit.report arguments.verbose (catalog.audit spec) = paragraphs ++
        (Text.ofNat (spec.properties.countP fun property =>
            (catalog.properties.get? property.name).isSome) ++
          " of " ++ Text.ofNat spec.properties.length ++ " properties match MDN\n") := by
  obtain ⟨catalog, old, hcatalog, hspec, hwrite, hpath⟩ := exists_of_run hupdate hfolder hrun
  have htarget : arguments.target = arguments.spec := by
    simp [target, hout]
  rw [htarget] at hwrite hpath
  subst hpath
  have hload : ∀ later, arguments.load.run later after = _ := fun later =>
    run_load_again hfolder hproperties hgrammars hcatalog hspec hwrite
  obtain ⟨bytes, _, hbytes, -, hparse⟩ := documentOf_eq_ok_iff.mp hspec
  refine ⟨catalog, catalog.update old, hcatalog, ?_, ?_, catalog.names_audit _, ?_, ?_⟩
  · intro later
    have hcanonical := catalog.canonical_update (Spec.canonical_of_parse? hparse)
    exact Spec.run_loadFile later (Script.run_readText later (FileTree.read_write hwrite))
      (Spec.parse?_print hcanonical rfl)
  · intro later
    have hwriteAgain := FileTree.write_again hbytes hwrite
    rw [run_of_load (hload later), run_writeUpdate hupdate, htarget, Catalog.update_update,
      hwriteAgain]
  · exact fun finding hmem => catalog.isClean_of_mem_audit_update hmem
  · obtain ⟨paragraphs, hreport⟩ :=
      Audit.report_eq arguments.verbose (catalog.audit (catalog.update old))
    rw [catalog.countP_isClean_audit_update, catalog.audit_length] at hreport
    exact ⟨paragraphs, hreport⟩

/-- The arguments of an audit that brings a spec up to date in its place. -/
def inPlace : AuditArguments where
  catalog := "mdn"
  spec := "spec.json"
  out := none
  verbose := true
  update := true

/-- A spec document that lags behind, and has a property of its own. -/
def outdatedDocument : Text :=
  "[\"1\", [[\"display\", [\"old\"]], [\"made-up\", [\"foo\"]]]]"

/-- The documents of a catalog of one property that refers to the dictionary. -/
def catalogDocuments : Text × Text :=
  ("\x7b\"display\": \x7b\"syntax\": \"<box> | none\", \"status\": \"obsolete\"\x7d\x7d",
   "\x7b\"box\": [\"block\"]\x7d")

/-- A working folder with that catalog, in a folder of its own, and that spec. -/
def unsettledFolder : FileTree where
  home := ["work"]
  nodes :=
    [(["work"], .folder), (["work", "mdn"], .folder),
     (["work", "mdn", "properties.json"], .file (Text.toBytes catalogDocuments.1)),
     (["work", "mdn", "syntaxes.json"], .file (Text.toBytes catalogDocuments.2)),
     (["work", "spec.json"], .file (Text.toBytes outdatedDocument))]

/-- The catalog and the spec of the folder can be loaded. -/
theorem run_load_unsettledFolder : ∃ catalog spec,
    inPlace.load.run [] unsettledFolder = (.ok (catalog, spec), unsettledFolder) := by
  obtain ⟨properties, hparsed⟩ : ∃ properties,
      Catalog.parseProperties? catalogDocuments.1 = some properties :=
    Option.isSome_iff_exists.mp (by decide +kernel)
  obtain ⟨spec, hspec⟩ : ∃ spec, Spec.parse? outdatedDocument = some spec :=
    Option.isSome_iff_exists.mp (by decide +kernel)
  have hcatalogLoaded : documentOf Catalog.parseProperties?
      (inPlace.catalog.join Catalog.propertiesFile)
      (unsettledFolder.read (inPlace.catalog.join Catalog.propertiesFile)) = .ok properties :=
    documentOf_eq_ok_iff.mpr ⟨_, _, rfl, Text.ofBytes?_toBytes _, hparsed⟩
  have hspecLoaded : documentOf Spec.parse? inPlace.spec (unsettledFolder.read inPlace.spec) =
      .ok spec :=
    documentOf_eq_ok_iff.mpr ⟨_, _, rfl, Text.ofBytes?_toBytes _, hspec⟩
  have hfolder : (Catalog.resolve inPlace.catalog).run [] unsettledFolder =
      (inPlace.catalog, unsettledFolder) := rfl
  have hload : inPlace.load.run [] unsettledFolder = _ := run_load hfolder
  rw [Catalog.run_load, hcatalogLoaded, hspecLoaded] at hload
  exact ⟨_, _, hload⟩

/-- The first audit of the folder writes an update, and the second one finds it settled. -/
theorem run_again_unsettledFolder :
    (Catalog.resolve inPlace.catalog).run [] unsettledFolder =
      (inPlace.catalog, unsettledFolder) ∧
    ¬ unsettledFolder.SameFile inPlace.spec (inPlace.catalog.join Catalog.propertiesFile) ∧
    ¬ unsettledFolder.SameFile inPlace.spec (inPlace.catalog.join Catalog.grammarsFile) ∧
    ∃ report after,
      inPlace.run.run [] unsettledFolder = (.ok ⟨report, some (.ok inPlace.spec)⟩, after) ∧
      ∃ again, inPlace.run.run [] after = (.ok ⟨again, some (.ok inPlace.spec)⟩, after) ∧
        ∃ paragraphs properties total, again = paragraphs ++
          (Text.ofNat properties ++ " of " ++ Text.ofNat total ++ " properties match MDN\n") := by
  have hfolder : (Catalog.resolve inPlace.catalog).run [] unsettledFolder =
      (inPlace.catalog, unsettledFolder) := rfl
  have hspecNode : unsettledFolder.node inPlace.spec =
      .ok (["work", "spec.json"], .file (Text.toBytes outdatedDocument)) := rfl
  have hproperties : ¬ unsettledFolder.SameFile inPlace.spec
      (inPlace.catalog.join Catalog.propertiesFile) :=
    FileTree.not_sameFile_of_ne hspecNode (q := (["work", "mdn", "properties.json"], _)) rfl
      (by decide)
  have hgrammars : ¬ unsettledFolder.SameFile inPlace.spec
      (inPlace.catalog.join Catalog.grammarsFile) :=
    FileTree.not_sameFile_of_ne hspecNode (q := (["work", "mdn", "syntaxes.json"], _)) rfl
      (by decide)
  obtain ⟨_, _, hload⟩ := run_load_unsettledFolder
  have hrun := run_of_load hload
  rw [run_writeUpdate (rfl : inPlace.update = true)] at hrun
  obtain ⟨_, _, _, _, hagain, _, _, paragraphs, hreport⟩ :=
    run_again_after_update rfl rfl hfolder hproperties hgrammars hrun
  exact ⟨hfolder, hproperties, hgrammars, _, _, hrun, _, hagain [], paragraphs, _, _, hreport⟩

end AuditArguments

end TypedStyle
