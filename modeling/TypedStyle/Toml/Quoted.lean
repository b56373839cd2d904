import TypedStyle.Text.Basic
/-!
# TOML strings

A string stands between double quotes, where a backslash starts an escape, or between apostrophes,
where every character stands for itself.  Between three quotes or apostrophes it may go over several
lines; a line break right behind the opening marks does not count, and every other one counts as a
line feed.
-/

namespace TypedStyle.Toml

/-- May the character stand in a string or a comment as it is?  Controls other than the tabulator
may not. -/
def isPrintable (c : Char) : Bool :=
  c = '\t' || (' ' ≤ c && c != '\x7f')

/-- The character that a backslash and this character stand for. -/
def unescape? : Char → Option Char
  | 'b' => some '\x08'
  | 't' => some '\t'
  | 'n' => some '\n'
  | 'f' => some '\x0c'
  | 'r' => some '\r'
  | '"' => some '"'
  | '\\' => some '\\'
  | _ => none

/-- The value of a digit in base sixteen. -/
def hexValue? (c : Char) : Option Nat :=
  if c.isDigit then some (c.toNat - '0'.toNat)
  else if 'a' ≤ c.toLower ∧ c.toLower ≤ 'f' then some (c.toLower.toNat - 'a'.toNat + 10)
  else none

/-- The character whose number these digits denote in base sixteen. -/
def charOf? (digits : Text) : Option Char := do
  let n ← digits.foldlM (fun n c => (hexValue? c).map (16 * n + ·)) 0
  if n < 0xD800 ∨ (0xE000 ≤ n ∧ n < 0x110000) then some (Char.ofNat n) else none

/-- One more character in front of what a string holds. -/
def withFirst (first : Option Char) (found : Option (Text × Text)) : Option (Text × Text) := do
  let c ← first
  let (content, rest) ← found
  some (c :: content, rest)

/-- Behind an opening double quote, what the string holds and the text behind it. -/
def quoted? : Text → Option (Text × Text)
  | [] => none
  | '"' :: rest => some ([], rest)
  | '\\' :: 'u' :: a :: b :: c :: d :: rest => withFirst (charOf? [a, b, c, d]) (quoted? rest)
  | '\\' :: 'U' :: a :: b :: c :: d :: e :: f :: g :: h :: rest =>
    withFirst (charOf? [a, b, c, d, e, f, g, h]) (quoted? rest)
  | '\\' :: c :: rest => withFirst (unescape? c) (quoted? rest)
  | c :: rest => if isPrintable c then withFirst (some c) (quoted? rest) else none

/-- Behind an opening apostrophe, what the string holds and the text behind it. -/
def literal? : Text → Option (Text × Text)
  | [] => none
  | '\'' :: rest => some ([], rest)
  | c :: rest => if isPrintable c then withFirst (some c) (literal? rest) else none

/-- Does the text start with a line break? -/
def startsLine : Text → Bool
  | '\n' :: _ => true
  | '\r' :: '\n' :: _ => true
  | _ => false

/-- Is the character white space that a folded line break takes in, given the text behind it? -/
def isFolded (c : Char) (rest : Text) : Bool :=
  c = ' ' || c = '\t' || startsLine (c :: rest)

/-- Behind the opening marks of a string between three double quotes, what it holds and the text
behind it.  A backslash at the end of a line folds the line break and all white space behind it
away. -/
def quotedLines? (folding : Bool) : Text → Option (Text × Text)
  | [] => none
  | c :: rest =>
    if folding && isFolded c rest then quotedLines? true rest
    else
      match c, rest with
      | '"', '"' :: '"' :: '"' :: '"' :: rest => some (['"', '"'], rest)
      | '"', '"' :: '"' :: '"' :: rest => some (['"'], rest)
      | '"', '"' :: '"' :: rest => some ([], rest)
      | '\\', 'u' :: a :: b :: c :: d :: rest =>
        withFirst (charOf? [a, b, c, d]) (quotedLines? false rest)
      | '\\', 'U' :: a :: b :: c :: d :: e :: f :: g :: h :: rest =>
        withFirst (charOf? [a, b, c, d, e, f, g, h]) (quotedLines? false rest)
      | '\\', d :: rest =>
        if startsLine ((d :: rest).dropWhile fun c => c = ' ' || c = '\t') then
          quotedLines? true (d :: rest)
        else withFirst (unescape? d) (quotedLines? false rest)
      | '\r', '\n' :: rest => withFirst (some '\n') (quotedLines? false rest)
      | c, rest =>
        if isPrintable c || c = '\n' then withFirst (some c) (quotedLines? false rest) else none

/-- Behind the opening marks of a string between three apostrophes, what it holds and the text
behind it. -/
def literalLines? : Text → Option (Text × Text)
  | [] => none
  | '\'' :: '\'' :: '\'' :: '\'' :: '\'' :: rest => some (['\'', '\''], rest)
  | '\'' :: '\'' :: '\'' :: '\'' :: rest => some (['\''], rest)
  | '\'' :: '\'' :: '\'' :: rest => some ([], rest)
  | '\r' :: '\n' :: rest => withFirst (some '\n') (literalLines? rest)
  | c :: rest =>
    if isPrintable c || c = '\n' then withFirst (some c) (literalLines? rest) else none

/-- The text without the line break that it may start with. -/
def skipLineBreak : Text → Text
  | '\n' :: rest => rest
  | '\r' :: '\n' :: rest => rest
  | t => t

/-- The string at the start of a text, of any of the four forms, and the text behind it. -/
def string? : Text → Option (Text × Text)
  | '"' :: '"' :: '"' :: rest => quotedLines? false (skipLineBreak rest)
  | '"' :: rest => quoted? rest
  | '\'' :: '\'' :: '\'' :: rest => literalLines? (skipLineBreak rest)
  | '\'' :: rest => literal? rest
  | _ => none

end TypedStyle.Toml
