import TypedStyle.Text.Basic
/-!
# Text files

A text file holds the UTF-8 form of its text.  Reading refuses every sequence of bytes that is not
the UTF-8 form of a text.

* `ofBytes?_toBytes` — what was written reads back.
-/

namespace TypedStyle.Text

/-- The UTF-8 form of a text. -/
def toBytes (t : Text) : ByteArray :=
  (String.ofList t).toByteArray

/-- The text with this UTF-8 form, if there is one. -/
def ofBytes? (bytes : ByteArray) : Option Text :=
  (String.fromUTF8? bytes).map String.toList

/-- **A text is read back from its bytes.** -/
@[simp] theorem ofBytes?_toBytes (t : Text) : ofBytes? (toBytes t) = some t := by
  have valid : (String.ofList t).toByteArray.IsValidUTF8 := (String.ofList t).isValidUTF8
  have same : String.fromUTF8 (String.ofList t).toByteArray valid = String.ofList t := rfl
  rw [ofBytes?, toBytes, String.fromUTF8?, dif_pos valid, same, Option.map_some,
    String.toList_ofList]

/-- The number of bytes of the UTF-8 form. -/
def byteCount : Text → Nat
  | [] => 0
  | c :: rest => c.utf8Size + byteCount rest

end TypedStyle.Text
