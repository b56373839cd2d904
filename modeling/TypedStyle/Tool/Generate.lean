import TypedStyle.Artifact.Emission
import TypedStyle.Settings
import TypedStyle.Spec.Normal
import TypedStyle.Tool.Arguments
import TypedStyle.Tool.Input
/-!
# The generator

The generator gets its settings, loads a spec, normalizes it and writes the artifacts of the result.
The settings come first, so a settings file that cannot be used stops it before it looks at the
spec; and nothing is written before the spec is there.
-/

namespace TypedStyle

/-- The preferences in a settings file. -/
def Preferences.load (path : Path) : Script (Except SettingsFailure Preferences) := do
  match ← Script.readText path with
  | .error fault => pure (.error (.read path fault))
  | .ok document =>
    match parse? document with
    | some preferences => pure (.ok preferences)
    | none => pure (.error (.parse path))

namespace GenerateArguments

/-- The preferences in the settings file, if one is named. -/
def preferences (arguments : GenerateArguments) :
    Script (Except SettingsFailure Preferences) :=
  match arguments.settings with
  | some path => Preferences.load path
  | none => pure (.ok Preferences.empty)

/-- The settings of a run. -/
def settingsWith (arguments : GenerateArguments) (file : Preferences) : Settings :=
  Settings.resolve file arguments.out arguments.module arguments.strict
    arguments.allowExperimental

/-- Generates the artifacts. -/
def run (arguments : GenerateArguments) : Script (Except GenerateFailure EmitSummary) := do
  match ← arguments.preferences with
  | .error failure => pure (.error (.settings failure))
  | .ok file => do
    let settings := arguments.settingsWith file
    match ← Spec.load arguments.input with
    | .error failure => pure (.error (.load failure))
    | .ok spec => do
      let policy : Policy := ⟨settings.allowExperimental, settings.strict⟩
      match ← (spec.normalize policy).emit settings.out settings.module with
      | .error failure => pure (.error (.emit failure))
      | .ok summary => pure (.ok summary)

end GenerateArguments

end TypedStyle
