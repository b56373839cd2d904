import TypedStyle.CommandLine
import TypedStyle.Files.Path
/-!
# The arguments of the two tools

The generator reads a spec and writes artifacts; the auditor compares a spec with a catalog and can
bring it up to date.
-/

namespace TypedStyle

open CommandLine (Flag FlagKind Given Refusal)

/-- What the generator is asked to do. -/
structure GenerateArguments where
  input : Path
  out : Option Path
  module : Option Text
  strict : Bool
  allowExperimental : Bool
  settings : Option Path
  verbose : Bool
  deriving DecidableEq, Repr

/-- What the auditor is asked to do. -/
structure AuditArguments where
  catalog : Path
  spec : Path
  out : Option Path
  verbose : Bool
  update : Bool
  deriving DecidableEq, Repr

/-- A flag that may be left out and whose name may stand behind one dash. -/
def optionalFlag (name : Text) (kind : FlagKind) : Flag :=
  ⟨name, none, kind, false, true⟩

/-- The flags that every tool knows. -/
def commonFlags : List Flag :=
  [⟨"help", some 'h', .help, false, false⟩, ⟨"version", some 'V', .version, false, false⟩]

namespace GenerateArguments

/-- The flags of the generator. -/
def flags : List Flag :=
  [⟨"in", none, .path, true, true⟩, optionalFlag "out" .path, optionalFlag "pkg" .text,
    optionalFlag "strict" .switch, optionalFlag "allow-experimental" .switch,
    ⟨"config", some 'c', .path, false, true⟩, ⟨"verbose", some 'v', .switch, false, false⟩]
    ++ commonFlags

/-- The arguments that some given flags are. -/
def ofGiven (given : Given) : GenerateArguments where
  input := (given.value? "in").getD []
  out := given.value? "out"
  module := given.value? "pkg"
  strict := given.has "strict"
  allowExperimental := given.has "allow-experimental"
  settings := given.value? "config"
  verbose := given.has "verbose"

/-- The arguments on a command line. -/
def parse (args : List Text) : Except Refusal GenerateArguments :=
  (CommandLine.parse flags args).map ofGiven

end GenerateArguments

namespace AuditArguments

/-- The flags of the auditor. -/
def flags : List Flag :=
  [⟨"mdn", none, .path, true, true⟩, ⟨"spec", none, .path, true, true⟩, optionalFlag "out" .path,
    ⟨"verbose", some 'v', .switch, false, true⟩, optionalFlag "update" .switch]
    ++ commonFlags

/-- The arguments that some given flags are. -/
def ofGiven (given : Given) : AuditArguments where
  catalog := (given.value? "mdn").getD []
  spec := (given.value? "spec").getD []
  out := given.value? "out"
  verbose := given.has "verbose"
  update := given.has "update"

/-- The arguments on a command line. -/
def parse (args : List Text) : Except Refusal AuditArguments :=
  (CommandLine.parse flags args).map ofGiven

end AuditArguments

end TypedStyle
