import TypedStyle.Audit.Report
import TypedStyle.Tool.Arguments
import TypedStyle.Tool.Input
/-!
# The auditor

The auditor loads a catalog and a spec and reports how they compare.  On demand it writes the spec
that the catalog brings up to date; the report is made in any case, whether or not that succeeds.
-/

namespace TypedStyle

/-- What comes of an audit: the report and, if the spec was to be brought up to date, where it was
written. -/
structure AuditOutcome where
  report : Text
  update : Option (Except SpecWriteFailure Path)

namespace AuditArguments

/-- Where the updated spec is written: in the place of the spec unless another one is given. -/
def target (arguments : AuditArguments) : Path :=
  arguments.out.getD arguments.spec

/-- The catalog and the spec that are compared. -/
def load (arguments : AuditArguments) : Script (Except LoadFailure (Catalog × Spec)) := do
  let folder ← Catalog.resolve arguments.catalog
  match ← Catalog.load folder with
  | .error failure => pure (.error failure)
  | .ok catalog => do
    match ← Spec.loadFile arguments.spec with
    | .error failure => pure (.error failure)
    | .ok spec => pure (.ok (catalog, spec))

/-- Writes the updated spec, if that is wanted. -/
def writeUpdate (arguments : AuditArguments) (catalog : Catalog) (spec : Spec) :
    Script (Option (Except SpecWriteFailure Path)) :=
  if arguments.update then do
    let written ← (catalog.update spec).save arguments.target
    pure (some (written.map fun _ => arguments.target))
  else pure none

/-- Compares the spec with the catalog. -/
def run (arguments : AuditArguments) : Script (Except LoadFailure AuditOutcome) := do
  match ← arguments.load with
  | .error failure => pure (.error failure)
  | .ok (catalog, spec) => do
    let report := Audit.report arguments.verbose (catalog.audit spec)
    let update ← arguments.writeUpdate catalog spec
    pure (.ok ⟨report, update⟩)

end AuditArguments

end TypedStyle
