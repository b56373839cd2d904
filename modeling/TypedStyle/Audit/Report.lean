import TypedStyle.Audit.Basic
/-!
# The report of an audit

The report has a paragraph for each finding and ends in the number of clean ones.
-/

namespace TypedStyle.Audit

/-- A list in brackets, its items separated by spaces. -/
def bracketed (texts : List Text) : Text :=
  "[" ++ Text.join " " texts ++ "]"

/-- A list in brackets, behind a label and the number of its items. -/
def counted (label : Text) (texts : List Text) : Text :=
  "  " ++ label ++ " (" ++ Text.ofNat texts.length ++ "): " ++ bracketed texts ++ "\n"

/-- A truth value in words. -/
def yesNo : Bool → Text
  | true => "true"
  | false => "false"

/-- A warning about some keywords, if there are any. -/
def warning (label : Text) (texts : List Text) : Text :=
  Text.onlyIf (!texts.isEmpty) ("  ⚠️  " ++ label ++ " keywords: " ++ bracketed texts ++ "\n")

/-- The lines on a property that the catalog has. -/
def comparisonLines (verbose : Bool) (finding : Finding) (c : Comparison) : Text :=
  "  Status: " ++ c.status ++ "\n"
    ++ counted "Spec keywords" finding.keywords
    ++ counted "MDN keywords" c.keywords
    ++ Text.onlyIf verbose ("  Syntax match: " ++ yesNo c.inGrammar ++ "\n")
    ++ warning "Missing" c.missing
    ++ warning "Extra" c.extra
    ++ Text.onlyIf finding.isClean "  ✅ Keywords match MDN\n"

/-- The paragraph on a finding, with a blank line behind it. -/
def paragraph (verbose : Bool) (finding : Finding) : Text :=
  "Property: " ++ finding.name ++ "\n"
    ++ "  Exists in MDN: " ++ yesNo finding.comparison.isSome ++ "\n"
    ++ (match finding.comparison with
      | some c => comparisonLines verbose finding c
      | none => "  ❌ Property not found in MDN data\n")
    ++ "\n"

/-- The number of clean findings among all. -/
def summary (findings : List Finding) : Text :=
  Text.ofNat (findings.countP Finding.isClean) ++ " of " ++ Text.ofNat findings.length
    ++ " properties match MDN\n"

/-- The report on some findings. -/
def report (verbose : Bool) (findings : List Finding) : Text :=
  "=== MDN Validation Results ===\n\n" ++ findings.flatMap (paragraph verbose)
    ++ summary findings

end TypedStyle.Audit
