import TypedStyle.Artifact.Check
import TypedStyle.Files.Script
import TypedStyle.Tool.Failure
/-!
# Writing the artifacts

The artifacts are checked and written one after the other, so a failure on one of them leaves those
before it in place.
-/

namespace TypedStyle

/-- What was written. -/
structure EmitSummary where
  out : Path
  files : List Path
  properties : Nat
  keywordTypes : Nat
  deriving DecidableEq, Repr

namespace Artifact

/-- Where an artifact is written in a folder. -/
def path (artifact : Artifact) (out : Path) : Path :=
  out.join artifact.fileName

/-- The failure that a defect of an artifact is. -/
def failure (artifact : Artifact) : Defect → EmitFailure
  | .malformed => .malformed artifact
  | .duplicate name => .duplicate artifact name

/-- Checks and writes some artifacts, as far as there is no failure. -/
def writeAll (spec : Spec) (module timestamp : Text) (out : Path) :
    List Artifact → Script (Except EmitFailure Unit)
  | [] => pure (.ok ())
  | artifact :: rest =>
    match artifact.check spec module with
    | .error defect => pure (.error (artifact.failure defect))
    | .ok () => do
      match ← Script.writeText (artifact.path out) (artifact.render spec module timestamp) with
      | .error fault => pure (.error (.write (artifact.path out) fault))
      | .ok () => writeAll spec module timestamp out rest

end Artifact

namespace Spec

/-- Writes the artifacts of a spec into a folder, for a module. -/
def emit (spec : Spec) (out : Path) (module : Text) : Script (Except EmitFailure EmitSummary) :=
  if Artifact.isModuleName module then do
    match ← Script.makeFolders out with
    | .error fault => pure (.error (.createFolder out fault))
    | .ok () =>
      .timestamp fun timestamp => do
        match ← Artifact.writeAll spec module timestamp out Artifact.all with
        | .error failure => pure (.error failure)
        | .ok () =>
          pure (.ok
            { out := out
              files := Artifact.all.map (·.path out)
              properties := spec.properties.length
              keywordTypes := spec.keywordProperties.length })
  else pure (.error (.module module))

end Spec

end TypedStyle
