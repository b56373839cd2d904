import TypedStyle.Artifact.Basic
import TypedStyle.Files.Tree
/-!
# How a run can fail

Each failure names what was being done, the path or the name it was done with, and the cause.  Where
a document or an artifact was refused by a reader, the message ends in the reader's reason, which is
left to whoever shows the message.
-/

namespace TypedStyle

/-- Failures to get the data that a run starts from. -/
inductive LoadFailure where
  | access (path : Path) (fault : FileFault)
  | read (path : Path) (fault : FileFault)
  | parse (path : Path)
  deriving DecidableEq, Repr

/-- Failures to write the artifacts. -/
inductive EmitFailure where
  | createFolder (path : Path) (fault : FileFault)
  | write (path : Path) (fault : FileFault)
  | malformed (artifact : Artifact)
  | duplicate (artifact : Artifact) (name : Text)
  | module (name : Text)
  deriving DecidableEq, Repr

/-- Failures to get the settings. -/
inductive SettingsFailure where
  | read (path : Path) (fault : FileFault)
  | parse (path : Path)
  deriving DecidableEq, Repr

/-- A spec that could not be written. -/
structure SpecWriteFailure where
  path : Path
  fault : FileFault
  deriving DecidableEq, Repr

namespace LoadFailure

/-- The failure in words, given the reason of a reader that refused a document. -/
def message (reason : Text) : LoadFailure → Text
  | .access path fault => "cannot access path " ++ path ++ ": " ++ fault.message
  | .read path fault => "cannot read file " ++ path ++ ": " ++ fault.message
  | .parse path => "cannot parse JSON from " ++ path ++ ": " ++ reason

end LoadFailure

namespace EmitFailure

/-- The failure in words, given the reason of a reader that refused an artifact. -/
def message (reason : Text) : EmitFailure → Text
  | .createFolder path fault =>
    "cannot create output directory " ++ path ++ ": " ++ fault.message
  | .write path fault => "cannot write " ++ path ++ ": " ++ fault.message
  | .malformed artifact => "failed to format generated " ++ artifact.label ++ ": " ++ reason
  | .duplicate artifact name =>
    "generated " ++ artifact.label ++ " would define `" ++ name ++ "` twice"
  | .module name => "invalid module name '" ++ name ++ "': expected a Rust identifier"

end EmitFailure

namespace SettingsFailure

/-- The failure in words, given the reason of a reader that refused a document. -/
def message (reason : Text) : SettingsFailure → Text
  | .read path fault => "failed to read config " ++ path ++ ": " ++ fault.message
  | .parse path => "failed to parse config " ++ path ++ ": " ++ reason

end SettingsFailure

namespace SpecWriteFailure

/-- The failure in words. -/
def message (failure : SpecWriteFailure) : Text :=
  "cannot write spec " ++ failure.path ++ ": " ++ failure.fault.message

end SpecWriteFailure

/-- Failures of a run that generates artifacts. -/
inductive GenerateFailure where
  | settings (failure : SettingsFailure)
  | load (failure : LoadFailure)
  | emit (failure : EmitFailure)
  deriving DecidableEq, Repr

/-- The failure in words, given the reason of a reader that refused something. -/
def GenerateFailure.message (reason : Text) : GenerateFailure → Text
  | .settings failure => failure.message reason
  | .load failure => "loading spec: " ++ failure.message reason
  | .emit failure => "generating code: " ++ failure.message reason

end TypedStyle
