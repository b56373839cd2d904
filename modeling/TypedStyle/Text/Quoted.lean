import TypedStyle.Text.Quoted.Tables
/-!
# String literals of generated code

A text is written between double quotes.  Quotes, backslashes and the common controls have
escapes of two characters; a character without a visible shape, or one that would join the
character before it, is spelled by its number in base sixteen; every other character stands for
itself.
-/

namespace TypedStyle.Text

namespace Quoted

/-- The code point of a character in base sixteen, between `\u{` and `}`. -/
def byNumber (c : Char) : Text :=
  "\\u\x7b" ++ Nat.toDigits 16 c.toNat ++ "\x7d"

/-- How one character is written inside a literal. -/
def escape (c : Char) : Text :=
  if c = '\x00' then "\\0"
  else if c = '\t' then "\\t"
  else if c = '\r' then "\\r"
  else if c = '\n' then "\\n"
  else if c = '"' then "\\\""
  else if c = '\\' then "\\\\"
  else if joining.holds c || shapeless.holds c then byNumber c
  else [c]

end Quoted

/-- The string literal that stands for a text. -/
def quote (t : Text) : Text :=
  '"' :: t.flatMap Quoted.escape ++ ['"']

end TypedStyle.Text
