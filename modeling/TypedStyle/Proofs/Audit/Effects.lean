import TypedStyle.Proofs.Audit.Rerun
import TypedStyle.Proofs.Files.Places
/-!
# What an audit reports and what it writes

An audit reads, compares, reports and, on demand, writes, in this order.  The paths it is given may
lead to one and the same file, and the storage that its files are kept on may fail.  Whatever they
lead to, an audit that cannot load its catalog or its spec ends in that failure and writes nothing;
any other audit makes its report of what stood in the files before the run, and the updated spec is
all that it writes, at one place.  An update is written over the file itself: where storage breaks
off, the file is lost, though the report is made.

* `FileTree.replaced_of_writable` — a file that is put where a path can be written changes one
  place;
* `updated_writeUpdate` — the ways in which an update can end;
* `run_of_documents` — a run, by what its catalog and its spec load as;
* `run_writes_target_only` — the report and the files of every run.
-/

namespace TypedStyle

/-- The file that a path leads to has been given this content; every other place is as it was. -/
structure FileTree.Replaced (tree after : FileTree) (path : Path) (content : ByteArray) : Prop where
  home : after.home = tree.home
  read : after.read path = .ok content
  content : after.content? (tree.named path) = some content
  rest : ∀ place, place ≠ tree.named path → after.at? place = tree.at? place

/-- **A file that is put where a path can be written changes one place**, which was not that of a
folder. -/
theorem FileTree.replaced_of_writable {tree : FileTree} {path : Path} {place : Place}
    (h : tree.writable path = .ok place) (content : ByteArray) :
    tree.Replaced (tree.put place (.file content)) path content := by
  have hwrite : tree.write path content = .ok (tree.put place (.file content)) := by
    rw [FileTree.write, h]
    rfl
  obtain ⟨hfree, heq⟩ := FileTree.put_of_write hwrite
  have hroot : tree.named path ≠ [] := fun hroot => hfree (by rw [hroot]; rfl)
  refine ⟨rfl, FileTree.read_write hwrite, ?_, ?_⟩
  · rw [heq, FileTree.content?, FileTree.at?_put_self tree hroot]
  · intro other hne
    rw [heq, FileTree.at?_put_of_ne tree hne]

namespace AuditArguments

variable {arguments : AuditArguments} {storage : Storage} {clock : Text} {tree : FileTree}
variable {folder : Path} {catalog : Catalog} {spec : Spec}

/-! ## The update -/

/-- The bytes of an updated spec: its document and a line feed. -/
def updateBytes (catalog : Catalog) (spec : Spec) : ByteArray :=
  Text.toBytes ((catalog.update spec).print ++ "\n")

/-- How an update can end on storage, and what is in the files then. -/
inductive Updated (arguments : AuditArguments) (storage : Storage) (catalog : Catalog) (spec : Spec)
    (tree : FileTree) : Option (Except SpecWriteFailure Path) → FileTree → Prop where
  /-- It was not wanted, and nothing is written. -/
  | unwanted (h : arguments.update = false) :
      Updated arguments storage catalog spec tree none tree
  /-- The updated spec is written to its target, and nowhere else. -/
  | written {place : Place} {after : FileTree} (h : arguments.update = true)
      (hplace : tree.writable arguments.target = .ok place)
      (hstored : storage tree place (updateBytes catalog spec) = .kept)
      (hreplaced : tree.Replaced after arguments.target (updateBytes catalog spec)) :
      Updated arguments storage catalog spec tree (some (.ok arguments.target)) after
  /-- The target leads to no place for a file, and nothing is written. -/
  | misplaced {fault : FileFault} (h : arguments.update = true)
      (hplace : tree.writable arguments.target = .error fault) :
      Updated arguments storage catalog spec tree (some (.error ⟨arguments.target, fault⟩)) tree
  /-- The file is not opened, and nothing is written. -/
  | refused {place : Place} {fault : FileFault} (h : arguments.update = true)
      (hplace : tree.writable arguments.target = .ok place)
      (hstored : storage tree place (updateBytes catalog spec) = .refused fault) :
      Updated arguments storage catalog spec tree (some (.error ⟨arguments.target, fault⟩)) tree
  /-- The storage breaks off: the target has the first bytes only, and nothing else is written. -/
  | broken {place : Place} {fault : FileFault} {length : Nat} {after : FileTree}
      (h : arguments.update = true) (hplace : tree.writable arguments.target = .ok place)
      (hstored : storage tree place (updateBytes catalog spec) = .broken fault length)
      (hreplaced : tree.Replaced after arguments.target
        ((updateBytes catalog spec).extract 0 length)) :
      Updated arguments storage catalog spec tree (some (.error ⟨arguments.target, fault⟩)) after

/-- An update is written to its target, and it is reported whether that succeeded. -/
theorem runOn_writeUpdate (hupdate : arguments.update = true) :
    (arguments.writeUpdate catalog spec).runOn storage clock tree =
      match tree.writeOn storage arguments.target (updateBytes catalog spec) with
      | (.ok (), after) => (some (.ok arguments.target), after)
      | (.error fault, after) => (some (.error ⟨arguments.target, fault⟩), after) := by
  rw [writeUpdate, if_pos hupdate, Script.runOn_bind, Spec.save, Script.runOn_bind,
    Script.writeText, Script.runOn]
  unfold updateBytes
  rcases tree.writeOn storage arguments.target
    (Text.toBytes ((catalog.update spec).print ++ "\n")) with ⟨_ | _, after⟩ <;> rfl

/-- **An update is not wanted, or written to its target only, or it fails.**  Only where the storage
breaks off has anything changed then, and only the target. -/
theorem updated_writeUpdate (arguments : AuditArguments) (storage : Storage) (catalog : Catalog)
    (spec : Spec) (clock : Text) (tree : FileTree) :
    arguments.Updated storage catalog spec tree
      ((arguments.writeUpdate catalog spec).runOn storage clock tree).1
      ((arguments.writeUpdate catalog spec).runOn storage clock tree).2 := by
  cases hupdate : arguments.update with
  | false =>
      rw [writeUpdate, hupdate]
      exact .unwanted hupdate
  | true =>
      rw [runOn_writeUpdate hupdate]
      cases hplace : tree.writable arguments.target with
      | error fault =>
          rw [FileTree.writeOn_of_error hplace]
          exact .misplaced hupdate hplace
      | ok place =>
          have hreplaced := FileTree.replaced_of_writable hplace
          rw [FileTree.writeOn_of_ok hplace]
          cases hstored : storage tree place (updateBytes catalog spec) with
          | kept => exact .written hupdate hplace hstored (hreplaced _)
          | refused fault => exact .refused hupdate hplace hstored
          | broken fault length => exact .broken hupdate hplace hstored (hreplaced _)

/-- **A failed update changes nothing** on storage that leaves a file as it was when it cannot be
written. -/
theorem Updated.eq_of_isAtomic {after : FileTree} {failure : SpecWriteFailure}
    (hatomic : storage.IsAtomic)
    (h : arguments.Updated storage catalog spec tree (some (.error failure)) after) :
    after = tree := by
  cases h with
  | misplaced | refused => rfl
  | broken _ _ hstored => exact absurd hstored (hatomic _ _ _ _ _)

/-! ## The run -/

/-- How an audit ends, by what its catalog and its spec load as: in the first failure to load them,
or with the report on the two and an update. -/
def Ends (arguments : AuditArguments) (storage : Storage) (tree : FileTree) :
    Except LoadFailure Catalog → Except LoadFailure Spec →
      Except LoadFailure AuditOutcome × FileTree → Prop
  | .error failure, _, ending => ending = (.error failure, tree)
  | .ok _, .error failure, ending => ending = (.error failure, tree)
  | .ok catalog, .ok spec, ending => ∃ update after,
      ending = (.ok ⟨Audit.report arguments.verbose (catalog.audit spec), update⟩, after) ∧
      arguments.Updated storage catalog spec tree update after

/-- Loading only reads. -/
theorem readsOnly_load (arguments : AuditArguments) : arguments.load.ReadsOnly := by
  refine (Catalog.readsOnly_resolve _).bind fun folder => (Catalog.readsOnly_load folder).bind ?_
  rintro (failure | catalog)
  · exact Script.readsOnly_pure _
  · refine readsOnly_readDocument.bind ?_
    rintro (failure | spec) <;> exact Script.readsOnly_pure _

/-- A run that cannot load its catalog or its spec ends there. -/
theorem runOn_of_load_error {failure : LoadFailure}
    (hload : arguments.load.run clock tree = (.error failure, tree)) :
    arguments.run.runOn storage clock tree = (.error failure, tree) := by
  rw [run, Script.runOn_bind, arguments.readsOnly_load.runOn, hload]
  rfl

/-- Any other run makes its report and goes on to the update. -/
theorem runOn_of_load (storage : Storage)
    (hload : arguments.load.run clock tree = (.ok (catalog, spec), tree)) :
    arguments.run.runOn storage clock tree =
      (.ok ⟨Audit.report arguments.verbose (catalog.audit spec),
          ((arguments.writeUpdate catalog spec).runOn storage clock tree).1⟩,
        ((arguments.writeUpdate catalog spec).runOn storage clock tree).2) := by
  rw [run, Script.runOn_bind, arguments.readsOnly_load.runOn, hload]
  dsimp only
  rw [Script.runOn_bind]
  rfl

/-- **A run ends as its catalog and its spec require**, both as they load before the run. -/
theorem run_of_documents (storage : Storage)
    (hfolder : (Catalog.resolve arguments.catalog).run clock tree = (folder, tree)) :
    arguments.Ends storage tree ((Catalog.load folder).run clock tree).1
      ((Spec.loadFile arguments.spec).run clock tree).1
      (arguments.run.runOn storage clock tree) := by
  have hload : arguments.load.run clock tree = _ := run_load hfolder
  rw [Spec.loadFile, run_readDocument]
  cases hcatalog : ((Catalog.load folder).run clock tree).1 with
  | error failure =>
      rw [hcatalog] at hload
      exact runOn_of_load_error hload
  | ok catalog =>
      cases hspec : documentOf Spec.parse? arguments.spec (tree.read arguments.spec) with
      | error failure =>
          rw [hcatalog, hspec] at hload
          exact runOn_of_load_error hload
      | ok spec =>
          rw [hcatalog, hspec] at hload
          exact ⟨_, _, runOn_of_load storage hload, updated_writeUpdate _ _ _ _ _ _⟩

/-- Loading does not depend on whether and where an update is to be written. -/
theorem load_with (arguments : AuditArguments) (update : Bool) (out : Option Path) :
    { arguments with update, out }.load = arguments.load :=
  rfl

/-- **The report does not depend on whether and where an update is to be written**, nor on whether
the storage takes it; nor does the failure of a run that makes no report. -/
theorem report_with (arguments : AuditArguments) (update : Bool) (out : Option Path)
    (storage other : Storage) (clock : Text) (tree : FileTree) :
    ({ arguments with update, out }.run.runOn other clock tree).1.map AuditOutcome.report =
      (arguments.run.runOn storage clock tree).1.map AuditOutcome.report := by
  have hreads := arguments.readsOnly_load
  rw [run, run, load_with, Script.runOn_bind, Script.runOn_bind, hreads.runOn, hreads.runOn]
  cases (arguments.load.run clock tree).1 with
  | error failure => rfl
  | ok loaded =>
      dsimp only
      rw [Script.runOn_bind, Script.runOn_bind]
      rfl

/-- **An audit reports on the files as they were, and writes one file at most**, whatever storage
they are kept on.  If its catalog or its spec cannot be loaded it ends in that failure and changes
nothing.  Otherwise its report is that on the two, the same whether an update is wanted or not,
wherever it is written and whether that succeeds; without an update nothing changes; the updated
spec, with a line feed at its end, is written to the target of the update, and all other places are
as they were, also where this fails; and so is the target, if storage leaves a file as it was when
it cannot be written. -/
theorem run_writes_target_only (arguments : AuditArguments) (storage : Storage) (clock : Text)
    (tree : FileTree) :
    (∃ folder, (Catalog.resolve arguments.catalog).run clock tree = (folder, tree) ∧
      arguments.Ends storage tree ((Catalog.load folder).run clock tree).1
        ((Spec.loadFile arguments.spec).run clock tree).1
        (arguments.run.runOn storage clock tree)) ∧
    (∀ (update : Bool) (out : Option Path) (other : Storage),
      ({ arguments with update, out }.run.runOn other clock tree).1.map AuditOutcome.report =
        (arguments.run.runOn storage clock tree).1.map AuditOutcome.report) ∧
    (storage.IsAtomic → ∀ report failure after,
      arguments.run.runOn storage clock tree = (.ok ⟨report, some (.error failure)⟩, after) →
      after = tree) := by
  have hfolder := Catalog.run_resolve arguments.catalog clock tree
  have hends := run_of_documents storage hfolder
  refine ⟨⟨_, hfolder, hends⟩,
    fun update out other => report_with arguments update out storage other clock tree, ?_⟩
  intro hatomic report failure after hrun
  rw [hrun] at hends
  unfold Ends at hends
  split at hends
  · simp at hends
  · simp at hends
  · obtain ⟨update, files, heq, hupdated⟩ := hends
    obtain ⟨houtcome, rfl⟩ := Prod.mk.inj heq
    obtain ⟨-, rfl⟩ := AuditOutcome.mk.inj (Except.ok.inj houtcome)
    exact hupdated.eq_of_isAtomic hatomic

/-- Where there is no room for the update, the audit makes its report, and says that the spec could
not be written; but the spec is lost. -/
theorem run_inPlace_withoutRoom :
    ∃ report after, inPlace.run.runOn (.withRoom 0) [] unsettledFolder =
        (.ok ⟨report, some (.error ⟨inPlace.spec, .noSpace⟩)⟩, after) ∧
      unsettledFolder.read inPlace.spec = .ok (Text.toBytes outdatedDocument) ∧
      after.read inPlace.spec = .ok ByteArray.empty ∧
      after.read inPlace.spec ≠ unsettledFolder.read inPlace.spec := by
  obtain ⟨catalog, spec, hload⟩ := run_load_unsettledFolder
  have hrun := runOn_of_load (.withRoom 0) hload
  have hplace : unsettledFolder.writable inPlace.target = .ok ["work", "spec.json"] := rfl
  have hroom : Storage.withRoom 0 unsettledFolder ["work", "spec.json"]
      (updateBytes catalog spec) = .broken .noSpace 0 := by
    refine if_neg ?_
    simpa [updateBytes, Text.toBytes] using fun _ => (by decide : Text.ofString "\n" ≠ [])
  have hnothing : (updateBytes catalog spec).extract 0 0 = ByteArray.empty := by simp
  rw [runOn_writeUpdate rfl, FileTree.writeOn_of_ok hplace, hroom, FileTree.stored,
    hnothing] at hrun
  have hstood : unsettledFolder.read inPlace.spec = .ok (Text.toBytes outdatedDocument) := rfl
  have hlost : (unsettledFolder.put ["work", "spec.json"] (.file ByteArray.empty)).read
      inPlace.spec = .ok ByteArray.empty :=
    (FileTree.replaced_of_writable hplace ByteArray.empty).read
  refine ⟨_, _, hrun, hstood, hlost, fun heq => ?_⟩
  have hsame := Except.ok.inj ((hlost.symm.trans heq).trans hstood)
  have hsize := congrArg ByteArray.size hsame
  revert hsize
  decide +kernel

end AuditArguments

end TypedStyle
