import TypedStyle.Catalog.Document
import TypedStyle.Files.Script
import TypedStyle.Spec.Document
import TypedStyle.Tool.Failure
/-!
# Getting specs and catalogs from files

A catalog is a folder with the file of its properties and, perhaps, the file of its grammars; a file
of grammars that is missing or cannot be read as one gives the empty dictionary.  A spec is a file,
or a folder that holds a file of that kind or a catalog.
-/

namespace TypedStyle

/-- The document in a file, read in some way. -/
def readDocument {α : Type} (parse? : Text → Option α) (path : Path) :
    Script (Except LoadFailure α) := do
  match ← Script.readText path with
  | .error fault => pure (.error (.read path fault))
  | .ok document =>
    match parse? document with
    | some value => pure (.ok value)
    | none => pure (.error (.parse path))

namespace Catalog

/-- The file of the properties of a catalog. -/
def propertiesFile : Text := "properties.json"

/-- The file of the grammars of a catalog. -/
def grammarsFile : Text := "syntaxes.json"

/-- Is there a catalog in the folder? -/
def isIn (folder : Path) : Script Bool :=
  Script.isFile (folder.join propertiesFile)

/-- The dictionary in a file; the empty one if it cannot be read. -/
def loadGrammars (path : Path) : Script Grammar.Dictionary := do
  match ← readDocument parseGrammars? path with
  | .ok grammars => pure grammars
  | .error _ => pure Table.empty

/-- The catalog in a folder. -/
def load (folder : Path) : Script (Except LoadFailure Catalog) := do
  match ← readDocument parseProperties? (folder.join propertiesFile) with
  | .error failure => pure (.error failure)
  | .ok properties => do
    let grammars ← loadGrammars (folder.join grammarsFile)
    pure (.ok ⟨properties, grammars⟩)

/-- The folder of the catalog that a path names: its subfolder `css` if the catalog is there, else
the path itself. -/
def resolve (path : Path) : Script Path := do
  let nested := path.join "css"
  if ← isIn nested then pure nested else pure path

end Catalog

namespace Spec

/-- The file of a spec in a folder. -/
def fileName : Text := "spec.json"

/-- The spec in a file. -/
def loadFile (path : Path) : Script (Except LoadFailure Spec) :=
  readDocument parse? path

/-- The spec made from the catalog in a folder. -/
def loadCatalog (folder : Path) : Script (Except LoadFailure Spec) := do
  let catalog ← Catalog.load folder
  pure (catalog.map Catalog.toSpec)

/-- The spec that a path names. -/
def load (path : Path) : Script (Except LoadFailure Spec) :=
  .inspect path fun
    | .error fault => pure (.error (.access path fault))
    | .ok .file => loadFile path
    | .ok .folder => do
      if ← Catalog.isIn path then loadCatalog path else loadFile (path.join fileName)

/-- Writes the document of a spec, with a line feed at its end. -/
def save (spec : Spec) (path : Path) : Script (Except SpecWriteFailure Unit) := do
  match ← Script.writeText path (spec.print ++ "\n") with
  | .ok () => pure (.ok ())
  | .error fault => pure (.error ⟨path, fault⟩)

end Spec

end TypedStyle
