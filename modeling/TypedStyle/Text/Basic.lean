/-!
# Text

Names, keywords, value grammars and whole files are texts: finite lists of characters, so that
every law about them is proved by induction on the list.  Order is the order of code points, from
left to right, which is also the order of the UTF-8 bytes.

* `splitOn_ne_nil`, `intercalate_splitOn` — cutting a text at a character loses nothing;
* `contains_iff` — `Text.contains` decides "is a contiguous piece of".
-/

namespace TypedStyle

/-- A text is the list of its characters. -/
abbrev Text := List Char

namespace Text

/-- The characters of a string. -/
def ofString (s : String) : Text :=
  s.toList

/-- A string has the characters that it is made of.  A literal is made of the characters that it is
written with, so this tells them without reading its bytes. -/
theorem ofString_ofList (t : Text) : ofString (String.ofList t) = t :=
  String.toList_ofList

/-- A string literal may stand wherever a text is expected. -/
instance : Coe String Text := ⟨ofString⟩

/-- Cuts a text at every occurrence of a character; there is one piece more than there are cuts. -/
def splitOn (separator : Char) : Text → List Text
  | [] => [[]]
  | c :: rest =>
    if c = separator then [] :: splitOn separator rest
    else match splitOn separator rest with
      | [] => [[c]]
      | piece :: pieces => (c :: piece) :: pieces

/-- Splitting a text gives one piece at least. -/
theorem splitOn_ne_nil (separator : Char) (t : Text) : splitOn separator t ≠ [] := by
  cases t with
  | nil => simp [splitOn]
  | cons c rest =>
    simp only [splitOn]
    split
    · simp
    · split <;> simp

/-- The pieces, joined by the character they were cut at, are the text again. -/
theorem intercalate_splitOn (separator : Char) (t : Text) :
    List.intercalate [separator] (splitOn separator t) = t := by
  induction t with
  | nil => simp [splitOn, List.intercalate]
  | cons c rest ih =>
    simp only [splitOn]
    cases hs : splitOn separator rest with
    | nil => exact absurd hs (splitOn_ne_nil separator rest)
    | cons piece pieces =>
      rw [hs] at ih
      split
      · next hc => subst hc; simpa [List.intercalate] using ih
      · cases pieces <;> simp_all [List.intercalate]

/-- The text if the condition holds, and nothing otherwise. -/
def onlyIf (condition : Bool) (t : Text) : Text :=
  if condition then t else []

/-- Texts joined by a separator. -/
def join (separator : Text) (texts : List Text) : Text :=
  List.intercalate separator texts

/-- Is the second text a contiguous piece of the first? -/
def contains (t piece : Text) : Bool :=
  piece.isPrefixOf t || match t with
    | [] => false
    | _ :: rest => contains rest piece

/-- A text contains a piece if the piece stands somewhere in it. -/
theorem contains_iff (t piece : Text) : contains t piece = true ↔ piece <:+: t := by
  induction t with
  | nil => simp [contains]
  | cons c rest ih => simp [contains, ih, List.infix_cons_iff]

/-- The letters `A` to `Z` become small; every other character stays. -/
def lowerAscii (t : Text) : Text :=
  t.map Char.toLower

/-- The decimal numeral of a number. -/
def ofNat (n : Nat) : Text :=
  Nat.toDigits 10 n

/-- The decimal numeral of an integer, with a minus sign in front when it is negative. -/
def ofInt : Int → Text
  | .ofNat n => ofNat n
  | .negSucc n => '-' :: ofNat (n + 1)

/-- Drops the characters of a class from both ends. -/
def trimBy (p : Char → Bool) (t : Text) : Text :=
  (((t.dropWhile p).reverse).dropWhile p).reverse

end Text

end TypedStyle
