import TypedStyle.Text.CharClass
/-!
# Blank characters

The blanks are the characters with the property `White_Space`.  They are removed from both ends of
a keyword, and they do not count around a name in generated code, where the two marks of writing
direction do not count either.
-/

namespace TypedStyle.Text

/-- The characters with the property `White_Space`. -/
def blanks : CharClass :=
  [⟨0x9, 0xD⟩, ⟨0x20, 0x20⟩, ⟨0x85, 0x85⟩, ⟨0xA0, 0xA0⟩, ⟨0x1680, 0x1680⟩, ⟨0x2000, 0x200A⟩,
   ⟨0x2028, 0x2029⟩, ⟨0x202F, 0x202F⟩, ⟨0x205F, 0x205F⟩, ⟨0x3000, 0x3000⟩]

/-- Is the character blank? -/
def isBlank (c : Char) : Bool :=
  blanks.holds c

/-- Is the character one that code may have between its tokens: a blank, or a left-to-right or
right-to-left mark? -/
def isCodeBlank (c : Char) : Bool :=
  isBlank c || c = '\u200E' || c = '\u200F'

/-- The text without the blanks at its ends. -/
def trim (t : Text) : Text :=
  trimBy isBlank t

end TypedStyle.Text
