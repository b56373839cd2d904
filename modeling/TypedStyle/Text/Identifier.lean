import TypedStyle.Text.Blank
import TypedStyle.Text.Identifier.Tables
/-!
# Identifiers of generated code

A name in generated code is one identifier: a character that may start one or `_`, then characters
that may go on, and the whole not a reserved word.  Blanks around it do not count.  A name may also
be spelled raw, with `r#` in front, which lets it be most of the reserved words.
-/

namespace TypedStyle.Text

/-- The text without the code blanks at its ends. -/
def strip (t : Text) : Text :=
  trimBy isCodeBlank t

namespace Identifier

/-- May the character start an identifier? -/
def isStart (c : Char) : Bool :=
  c = '_' || starts.holds c

/-- May the character go on in an identifier? -/
def isContinue (c : Char) : Bool :=
  continues.holds c

/-- The words that generated code may not use as names. -/
def reserved : List Text :=
  List.map Text.ofString
  ["abstract", "as", "async", "await", "become", "box", "break", "const", "continue", "crate",
   "do", "dyn", "else", "enum", "extern", "false", "final", "fn", "for", "if", "impl", "in",
   "let", "loop", "macro", "match", "mod", "move", "mut", "override", "priv", "pub", "ref",
   "return", "Self", "self", "static", "struct", "super", "trait", "true", "try", "type",
   "typeof", "unsafe", "unsized", "use", "virtual", "where", "while", "yield"]

/-- The words that stay reserved even when they are spelled raw. -/
def reservedRaw : List Text :=
  ["crate", "self", "super", "Self"]

/-- Has the text the shape of an identifier? -/
def isWord : Text → Bool
  | [] => false
  | c :: rest => isStart c && rest.all isContinue

/-- Is the text an identifier or the lone underscore? -/
def isNameOrUnderscore (t : Text) : Bool :=
  isWord t && !reserved.contains t

end Identifier

end TypedStyle.Text
