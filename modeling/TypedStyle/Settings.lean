import TypedStyle.Files.Path
import TypedStyle.Toml.Reader
/-!
# Settings of the generator

Each setting comes from the command line, else from a settings file, else it has a default.  The two
switches are on when either place turns them on.  A settings file is a TOML document with a table
`generator`, or with an array under that name that starts with the four settings.  A point in time
there counts as a table without settings.
-/

namespace TypedStyle

/-- What a settings file or a command line says; what it does not say is missing. -/
structure Preferences where
  out : Option Path
  module : Option Text
  strict : Option Bool
  allowExperimental : Option Bool
  deriving DecidableEq, Repr

/-- The settings that a run uses. -/
structure Settings where
  out : Path
  module : Text
  strict : Bool
  allowExperimental : Bool
  deriving DecidableEq, Repr

namespace Preferences

/-- Says nothing. -/
def empty : Preferences := ⟨none, none, none, none⟩

/-- The text of an entry, if there is one. -/
def text? : Option Toml.Node → Option (Option Text)
  | none => some none
  | some (.string content) => some (some content)
  | some _ => none

/-- The truth value of an entry, if there is one. -/
def switch? : Option Toml.Node → Option (Option Bool)
  | none => some none
  | some (.boolean value) => some (some value)
  | some _ => none

/-- The preferences with these entries, any of which may be missing. -/
def ofEntries? (out module strict allowExperimental : Option Toml.Node) : Option Preferences := do
  let out ← text? out
  let module ← text? module
  let strict ← switch? strict
  let allowExperimental ← switch? allowExperimental
  some ⟨out, module, strict, allowExperimental⟩

/-- The preferences in a settings file; entries that are not settings are ignored. -/
def ofToml? (root : Toml.Entries) : Option Preferences :=
  match root.get? "generator" with
  | none => some empty
  | some (.table _ entries) =>
    let get? := Toml.Entries.get? entries
    ofEntries? (get? "out") (get? "pkg") (get? "strict") (get? "allow_experimental")
  | some (.array (out :: module :: strict :: allowExperimental :: _)) =>
    ofEntries? (some out) (some module) (some strict) (some allowExperimental)
  | some (.time _) => some empty
  | some _ => none

/-- The preferences that the text of a settings file says. -/
def parse? (document : Text) : Option Preferences :=
  (Toml.parse? document).bind ofToml?

end Preferences

namespace Settings

/-- The folder that artifacts are written to unless another one is given. -/
def defaultOut : Path := "./cssgen"

/-- The module of the artifacts unless another one is given. -/
def defaultModule : Text := "css"

/-- The settings that follow from a settings file and from what the command line gives. -/
def resolve (file : Preferences) (out : Option Path) (module : Option Text)
    (strict allowExperimental : Bool) : Settings where
  out := (out.or file.out).getD defaultOut
  module := (module.or file.module).getD defaultModule
  strict := strict || file.strict.getD false
  allowExperimental := allowExperimental || file.allowExperimental.getD false

end Settings

end TypedStyle
