import TypedStyle.Tool.Audit
import TypedStyle.Tool.Generate
/-!
# The tools on a console

On a console a tool prints what came of it and ends with an exit code: zero if all went well, one if
the work failed, two if the command line was refused.
-/

namespace TypedStyle

/-- The tools, by what they do. -/
inductive Tool where
  | generator
  | auditor
  deriving DecidableEq, Repr

/-- What a tool prints, and the exit code that it ends with. -/
structure ConsoleOutcome where
  code : Nat
  output : Text
  error : Text
  deriving DecidableEq, Repr

namespace ConsoleOutcome

/-- All went well. -/
def success (output : Text) : ConsoleOutcome := ⟨0, output, []⟩

/-- The work failed, after some output. -/
def failure (output message : Text) : ConsoleOutcome :=
  ⟨1, output, "error: " ++ message ++ "\n"⟩

end ConsoleOutcome

namespace Tool

/-- The name that a tool is called by. -/
def name : Tool → Text
  | .generator => "cssgen"
  | .auditor => "mdnvalidate"

/-- The tool with a name. -/
def ofName? (name : Text) : Option Tool :=
  [generator, auditor].find? fun tool => tool.name = name

/-- The version of the tools. -/
def version : Text := "0.1.0"

/-- The flags of a tool. -/
def flags : Tool → List CommandLine.Flag
  | .generator => GenerateArguments.flags
  | .auditor => AuditArguments.flags

/-- How a flag is written. -/
def flagUsage (flag : CommandLine.Flag) : Text :=
  let written : Text :=
    "--" ++ flag.name ++ (if flag.takesValue then Text.ofString " <VALUE>" else [])
  if flag.required then written else "[" ++ written ++ "]"

/-- How a tool is called. -/
def usage (tool : Tool) : Text :=
  "Usage: " ++ tool.name ++ tool.flags.flatMap (fun flag => ' ' :: flagUsage flag) ++ "\n"

/-- Why a command line was refused, in words. -/
def refusalMessage : CommandLine.Refusal → Text
  | .missing => "a required argument is missing"
  | .unknown => "unexpected argument"
  | .invalidValue => "a value is missing or invalid"
  | .needlessValue => "unexpected value"
  | .repeated => "an argument was given twice"
  | .help | .version => []

/-- What a tool prints for a command line that gives it nothing to do. -/
def refused (tool : Tool) : CommandLine.Refusal → ConsoleOutcome
  | .help => .success tool.usage
  | .version => .success (tool.name ++ " " ++ version ++ "\n")
  | refusal => ⟨2, [], "error: " ++ refusalMessage refusal ++ "\n\n" ++ tool.usage⟩

/-- What the generator prints. -/
def generated (reason : Text) : Except GenerateFailure EmitSummary → ConsoleOutcome
  | .error failure => .failure [] (failure.message reason)
  | .ok summary => .success <|
    "Generated CSS property definitions in " ++ summary.out ++ " ("
      ++ Text.ofNat summary.properties ++ " properties, "
      ++ Text.ofNat summary.keywordTypes ++ " keyword types)\n"

/-- What the auditor prints. -/
def audited (reason : Text) : Except LoadFailure AuditOutcome → ConsoleOutcome
  | .error failure => .failure [] (failure.message reason)
  | .ok ⟨report, none⟩ => .success report
  | .ok ⟨report, some (.ok path)⟩ => .success (report ++ "Updated spec written to " ++ path ++ "\n")
  | .ok ⟨report, some (.error failure)⟩ => .failure report failure.message

/-- Runs a tool on a command line.  The reason stands at the end of messages about documents and
artifacts that a reader refused. -/
def run (reason : Text) (tool : Tool) (args : List Text) : Script ConsoleOutcome :=
  match tool with
  | .generator =>
    match GenerateArguments.parse args with
    | .error refusal => pure (tool.refused refusal)
    | .ok arguments => do pure (generated reason (← arguments.run))
  | .auditor =>
    match AuditArguments.parse args with
    | .error refusal => pure (tool.refused refusal)
    | .ok arguments => do pure (audited reason (← arguments.run))

end Tool

end TypedStyle
