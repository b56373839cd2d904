import TypedStyle.Files.Storage
import TypedStyle.Proofs.Files.Writing
import TypedStyle.Tool.Input
/-!
# Loading documents

What is loaded from a path depends on the answers to a few requests only, and loading leaves the
files as they are.  So two trees that give the same answers are loaded alike.

* `ReadsOnly.run` — a script that only reads leaves the tree as it is;
* `ReadsOnly.runOn` — it cannot tell what storage the tree is kept on;
* `run_readDocument`, `Catalog.run_load`, `Catalog.run_resolve` — what is loaded, as a function of
  the answers.
-/

namespace TypedStyle

namespace Script

variable {α β : Type}

/-- The script makes no request that could change the tree, whatever the answers are. -/
def ReadsOnly : Script α → Prop
  | .done _ => True
  | .inspect _ next => ∀ answer, (next answer).ReadsOnly
  | .read _ next => ∀ answer, (next answer).ReadsOnly
  | .write .. | .makeFolder .. => False
  | .timestamp next => ∀ time, (next time).ReadsOnly

/-- A result that is there already needs no request. -/
theorem readsOnly_pure (result : α) : (pure result : Script α).ReadsOnly :=
  trivial

/-- Two scripts that only read, one behind the other, only read. -/
theorem ReadsOnly.bind {script : Script α} {f : α → Script β} (h : script.ReadsOnly)
    (hf : ∀ result, (f result).ReadsOnly) : (script >>= f).ReadsOnly := by
  show (script.bind f).ReadsOnly
  induction script with
  | done result => exact hf result
  | inspect path next ih => exact fun answer => ih answer (h answer)
  | read path next ih => exact fun answer => ih answer (h answer)
  | write path content next ih => exact h.elim
  | makeFolder path next ih => exact h.elim
  | timestamp next ih => exact fun time => ih time (h time)

/-- **A script that only reads leaves the tree as it is.** -/
theorem ReadsOnly.run {script : Script α} (h : script.ReadsOnly) (clock : Text) (tree : FileTree) :
    (script.run clock tree).2 = tree := by
  induction script with
  | done result => rfl
  | inspect path next ih => exact ih _ (h _)
  | read path next ih => exact ih _ (h _)
  | write path content next ih => exact h.elim
  | makeFolder path next ih => exact h.elim
  | timestamp next ih => exact ih _ (h _)

/-- **A script that only reads cannot tell on what storage it is run.** -/
theorem ReadsOnly.runOn {script : Script α} (h : script.ReadsOnly) (storage : Storage)
    (clock : Text) (tree : FileTree) :
    script.runOn storage clock tree = script.run clock tree := by
  induction script with
  | done result => rfl
  | inspect path next ih => exact ih _ (h _)
  | read path next ih => exact ih _ (h _)
  | write path content next ih => exact h.elim
  | makeFolder path next ih => exact h.elim
  | timestamp next ih => exact ih _ (h _)

/-- Asking whether there is a file changes nothing. -/
theorem readsOnly_isFile (path : Path) : (isFile path).ReadsOnly :=
  fun _ => trivial

/-- Nor does reading a text. -/
theorem readsOnly_readText (path : Path) : (readText path).ReadsOnly :=
  fun _ => trivial

end Script

/-! ## Documents -/

/-- What is loaded from a path where the answer to reading it is this. -/
def documentOf {α : Type} (parse? : Text → Option α) (path : Path) :
    Except FileFault ByteArray → Except LoadFailure α
  | .error fault => .error (.read path fault)
  | .ok content =>
    match Text.ofBytes? content with
    | none => .error (.read path .notText)
    | some document =>
      match parse? document with
      | some value => .ok value
      | none => .error (.parse path)

variable {α : Type} {parse? : Text → Option α} {path : Path}

/-- A document that is loaded is that of a text in the file. -/
theorem documentOf_eq_ok_iff {answer : Except FileFault ByteArray} {value : α} :
    documentOf parse? path answer = .ok value ↔
      ∃ content document, answer = .ok content ∧ Text.ofBytes? content = some document ∧
        parse? document = some value := by
  cases answer with
  | error fault => simp [documentOf]
  | ok content =>
      cases hdocument : Text.ofBytes? content with
      | none => simp [documentOf, hdocument]
      | some document => cases hvalue : parse? document <;> simp [documentOf, hdocument, hvalue]

/-- What is loaded from a path depends on the answer to reading it. -/
theorem run_readDocument (clock : Text) (tree : FileTree) :
    (readDocument parse? path).run clock tree =
      (documentOf parse? path (tree.read path), tree) := by
  rw [readDocument, Script.run_bind]
  cases hread : tree.read path with
  | error fault =>
      simp [Script.readText, Script.run, hread, documentOf, Bind.bind, Except.bind]
  | ok content =>
      cases hdocument : Text.ofBytes? content with
      | none => simp [Script.readText, Script.run, hread, hdocument, documentOf, Bind.bind,
          Except.bind]
      | some document =>
          cases hvalue : parse? document <;>
            simp [Script.readText, Script.run, hread, hdocument, hvalue, documentOf, Bind.bind,
              Except.bind]

/-- A document is only read. -/
theorem readsOnly_readDocument : (readDocument parse? path).ReadsOnly := by
  apply (Script.readsOnly_readText path).bind
  rintro (fault | document)
  · exact Script.readsOnly_pure _
  · show Script.ReadsOnly (match parse? document with | some _ => _ | none => _)
    cases parse? document <;> exact Script.readsOnly_pure _

/-! ## Catalogs -/

namespace Catalog

/-- The grammars that are loaded from a path where the answer to reading it is this. -/
def grammarsOf (path : Path) (answer : Except FileFault ByteArray) : Grammar.Dictionary :=
  (documentOf parseGrammars? path answer).toOption.getD Table.empty

/-- The grammars of a catalog depend on one answer. -/
theorem run_loadGrammars (path : Path) (clock : Text) (tree : FileTree) :
    (loadGrammars path).run clock tree = (grammarsOf path (tree.read path), tree) := by
  rw [loadGrammars, Script.run_bind, run_readDocument, grammarsOf]
  cases documentOf parseGrammars? path (tree.read path) <;> rfl

/-- **A catalog is loaded from the answers about its two files.**  Only those about the first can
make it fail. -/
theorem run_load (folder : Path) (clock : Text) (tree : FileTree) :
    (load folder).run clock tree =
      ((documentOf parseProperties? (folder.join propertiesFile)
          (tree.read (folder.join propertiesFile))).map fun properties =>
        ⟨properties, grammarsOf (folder.join grammarsFile)
          (tree.read (folder.join grammarsFile))⟩, tree) := by
  rw [load, Script.run_bind, run_readDocument]
  cases documentOf parseProperties? (folder.join propertiesFile)
    (tree.read (folder.join propertiesFile)) with
  | error failure => rfl
  | ok properties =>
      dsimp only
      rw [Script.run_bind, run_loadGrammars]
      rfl

/-- Whether there is a catalog depends on one answer. -/
theorem run_isIn (folder : Path) (clock : Text) (tree : FileTree) :
    (isIn folder).run clock tree =
      (decide ((tree.inspect (folder.join propertiesFile)).toOption = some .file), tree) :=
  rfl

/-- Which folder a path names depends on one answer. -/
theorem run_resolve (path : Path) (clock : Text) (tree : FileTree) :
    (resolve path).run clock tree =
      (if (tree.inspect ((path.join "css").join propertiesFile)).toOption = some .file then
        path.join "css" else path, tree) := by
  rw [resolve, Script.run_bind, run_isIn]
  by_cases h : (tree.inspect ((path.join "css").join propertiesFile)).toOption = some .file
  · simp [h]
  · simp [h]

/-- The folder of a catalog is found by asking. -/
theorem readsOnly_resolve (path : Path) : (resolve path).ReadsOnly := by
  apply (Script.readsOnly_isFile _).bind
  rintro (_ | _) <;> exact Script.readsOnly_pure _

/-- The grammars of a catalog are only read. -/
theorem readsOnly_loadGrammars (path : Path) : (loadGrammars path).ReadsOnly := by
  apply readsOnly_readDocument.bind
  rintro (failure | grammars) <;> exact Script.readsOnly_pure _

/-- So is a catalog as a whole. -/
theorem readsOnly_load (folder : Path) : (load folder).ReadsOnly := by
  apply readsOnly_readDocument.bind
  rintro (failure | properties)
  · exact Script.readsOnly_pure _
  · exact (readsOnly_loadGrammars _).bind fun grammars => Script.readsOnly_pure _

end Catalog

/-! ## Specs -/

namespace Spec

/-- A spec that is made from a catalog is only read. -/
theorem readsOnly_loadCatalog (folder : Path) : (loadCatalog folder).ReadsOnly :=
  (Catalog.readsOnly_load folder).bind fun _ => Script.readsOnly_pure _

/-- **Loading a spec only reads**, whatever the path leads to. -/
theorem readsOnly_load (path : Path) : (load path).ReadsOnly := by
  rintro (fault | kind)
  · exact Script.readsOnly_pure _
  · cases kind with
    | file => exact readsOnly_readDocument
    | folder =>
        apply (Script.readsOnly_isFile _).bind
        rintro (_ | _)
        · exact readsOnly_readDocument
        · exact readsOnly_loadCatalog path

end Spec

end TypedStyle
