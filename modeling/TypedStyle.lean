import TypedStyle.Artifact.Basic
import TypedStyle.Artifact.Check
import TypedStyle.Artifact.Emission
import TypedStyle.Audit.Basic
import TypedStyle.Audit.Report
import TypedStyle.Catalog.Basic
import TypedStyle.Catalog.Document
import TypedStyle.Code.Attribute
import TypedStyle.Code.Definitions
import TypedStyle.Code.Expression
import TypedStyle.Code.Gap
import TypedStyle.Code.Item
import TypedStyle.Code.Literal
import TypedStyle.Code.Part
import TypedStyle.Code.Path
import TypedStyle.Code.Pattern
import TypedStyle.Code.Reading
import TypedStyle.Code.Statement
import TypedStyle.Code.Token
import TypedStyle.Code.Tree
import TypedStyle.Code.Type
import TypedStyle.CommandLine
import TypedStyle.Decimal.Double
import TypedStyle.Decimal.Fixed
import TypedStyle.Decimal.Magnitude
import TypedStyle.Decimal.Power
import TypedStyle.Decimal.Rounding
import TypedStyle.Decimal.Scaled
import TypedStyle.Files.Change
import TypedStyle.Files.Path
import TypedStyle.Files.Script
import TypedStyle.Files.Tree
import TypedStyle.Grammar.Keyword
import TypedStyle.Grammar.Reference
import TypedStyle.Grammar.Token
import TypedStyle.Json.Basic
import TypedStyle.Json.Printer
import TypedStyle.Json.Reader
import TypedStyle.Json.Token
import TypedStyle.Main
import TypedStyle.Naming
import TypedStyle.Proofs.Artifact.Acceptance
import TypedStyle.Proofs.Artifact.Blocks
import TypedStyle.Proofs.Artifact.Capitals
import TypedStyle.Proofs.Artifact.Distinct
import TypedStyle.Proofs.Artifact.Emission
import TypedStyle.Proofs.Artifact.Following
import TypedStyle.Proofs.Artifact.Lines
import TypedStyle.Proofs.Artifact.Listing
import TypedStyle.Proofs.Artifact.ModuleNames
import TypedStyle.Proofs.Artifact.Modules
import TypedStyle.Proofs.Artifact.PastedNames
import TypedStyle.Proofs.Artifact.Progress
import TypedStyle.Proofs.Artifact.ReadBack
import TypedStyle.Proofs.Artifact.Reading
import TypedStyle.Proofs.Artifact.Renaming
import TypedStyle.Proofs.Artifact.Repeated
import TypedStyle.Proofs.Artifact.Trees
import TypedStyle.Proofs.Artifact.Trimming
import TypedStyle.Proofs.Artifact.Unambiguous
import TypedStyle.Proofs.Audit.Alternatives
import TypedStyle.Proofs.Audit.Differences
import TypedStyle.Proofs.Audit.Effects
import TypedStyle.Proofs.Audit.Rerun
import TypedStyle.Proofs.Audit.Update
import TypedStyle.Proofs.Catalog.Dictionaries
import TypedStyle.Proofs.Catalog.Metadata
import TypedStyle.Proofs.Catalog.Normal
import TypedStyle.Proofs.Catalog.Routes
import TypedStyle.Proofs.Code.Fronts
import TypedStyle.Proofs.Code.Identifiers
import TypedStyle.Proofs.Code.InnerAttributes
import TypedStyle.Proofs.Code.Keeping
import TypedStyle.Proofs.Code.Landmarks
import TypedStyle.Proofs.Code.Lexing
import TypedStyle.Proofs.Code.OpenStrings
import TypedStyle.Proofs.Code.Parsing
import TypedStyle.Proofs.Code.PastedTrees
import TypedStyle.Proofs.Code.Pasting
import TypedStyle.Proofs.Code.PublicItems
import TypedStyle.Proofs.Code.Quoting
import TypedStyle.Proofs.Code.Scanning
import TypedStyle.Proofs.Code.Steps
import TypedStyle.Proofs.Code.Stopping
import TypedStyle.Proofs.Code.Trees
import TypedStyle.Proofs.CommandLine.Arguments
import TypedStyle.Proofs.CommandLine.Spellings
import TypedStyle.Proofs.Decimal.Nearest
import TypedStyle.Proofs.Decimal.Numerals
import TypedStyle.Proofs.Files.Joining
import TypedStyle.Proofs.Files.Loading
import TypedStyle.Proofs.Files.Overwriting
import TypedStyle.Proofs.Files.Places
import TypedStyle.Proofs.Files.Shapes
import TypedStyle.Proofs.Files.Writing
import TypedStyle.Proofs.Grammar.Alternatives
import TypedStyle.Proofs.Grammar.Hyphens
import TypedStyle.Proofs.Grammar.Keywords
import TypedStyle.Proofs.Grammar.References
import TypedStyle.Proofs.Grammar.Spans
import TypedStyle.Proofs.Grammar.Tokens
import TypedStyle.Proofs.Json.Cutting
import TypedStyle.Proofs.Json.Denoted
import TypedStyle.Proofs.Json.Members
import TypedStyle.Proofs.Json.RoundTrip
import TypedStyle.Proofs.Naming
import TypedStyle.Proofs.Naming.Canonical
import TypedStyle.Proofs.Sheet.EmptyRules
import TypedStyle.Proofs.Sheet.Indentation
import TypedStyle.Proofs.Sheet.Layout
import TypedStyle.Proofs.Sheet.Reading
import TypedStyle.Proofs.Spec.Canonical
import TypedStyle.Proofs.Spec.KnownMembers
import TypedStyle.Proofs.Spec.Normal
import TypedStyle.Proofs.Spec.NormalForm
import TypedStyle.Proofs.Spec.Rearranging
import TypedStyle.Proofs.Spec.Saving
import TypedStyle.Proofs.Spec.Sorting
import TypedStyle.Proofs.Text.CaseRuns
import TypedStyle.Proofs.Text.Characters
import TypedStyle.Proofs.Text.Identifiers
import TypedStyle.Proofs.Text.Literals
import TypedStyle.Proofs.Text.LowerCase
import TypedStyle.Proofs.Text.Splitting
import TypedStyle.Proofs.Text.Trimming
import TypedStyle.Proofs.Text.Unquoting
import TypedStyle.Proofs.Text.UpperCase
import TypedStyle.Settings
import TypedStyle.Sheet.Basic
import TypedStyle.Sheet.Bundle
import TypedStyle.Sheet.Printer
import TypedStyle.Sheet.Value
import TypedStyle.Sheet.Vocabulary
import TypedStyle.Spec.Basic
import TypedStyle.Spec.Document
import TypedStyle.Spec.Normal
import TypedStyle.Table
import TypedStyle.Text.Ascending
import TypedStyle.Text.Basic
import TypedStyle.Text.Blank
import TypedStyle.Text.Case
import TypedStyle.Text.Case.Tables
import TypedStyle.Text.CharClass
import TypedStyle.Text.Identifier
import TypedStyle.Text.Identifier.Tables
import TypedStyle.Text.Quoted
import TypedStyle.Text.Quoted.Tables
import TypedStyle.Text.Utf8
import TypedStyle.Toml.Assembly
import TypedStyle.Toml.Basic
import TypedStyle.Toml.Quoted
import TypedStyle.Toml.Reader
import TypedStyle.Toml.Scalar
import TypedStyle.Tool.Arguments
import TypedStyle.Tool.Audit
import TypedStyle.Tool.Console
import TypedStyle.Tool.Failure
import TypedStyle.Tool.Generate
import TypedStyle.Tool.Input
