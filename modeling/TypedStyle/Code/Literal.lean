import TypedStyle.Text.Identifier
/-!
# Literals of code

A literal is a string, a character, a byte or a number, and a word may follow it directly, as its
suffix.  A string stands between double quotes, where a backslash begins an escape, or it is a raw
one, where nothing does and where the quotes have marks around them.  There are strings of
characters, of bytes, and such that a null character ends.
-/

namespace TypedStyle.Code

/-- Is the character a digit in base sixteen? -/
def isHexDigit (c : Char) : Bool :=
  c.isDigit || ('a' ≤ c.toLower && c.toLower ≤ 'f')

/-- The number that a digit in base sixteen stands for. -/
def hexDigitValue (c : Char) : Nat :=
  if c.isDigit then c.toNat - '0'.toNat else c.toLower.toNat - 'a'.toNat + 10

/-- The number that digits denote in a base. -/
def ofDigits (base : Nat) (digits : Text) : Nat :=
  digits.foldl (fun n c => base * n + hexDigitValue c) 0

/-- Do these characters, between the braces of an escape, number a character?  Behind the first
digit there may be underscores. -/
def isCharacterNumber (t : Text) : Bool :=
  let digits := t.filter isHexDigit
  t.all (fun c => isHexDigit c || c = '_') && t.head?.any isHexDigit
    && decide (digits.length < 7) && decide (ofDigits 16 digits).isValidChar

/-- The word at the start of a text, and the text behind it. -/
def word? : Text → Option (Text × Text)
  | c :: rest =>
    if Text.Identifier.isStart c then
      some (c :: rest.takeWhile Text.Identifier.isContinue,
        rest.dropWhile Text.Identifier.isContinue)
    else none
  | [] => none

/-- The text behind the suffix of a literal, which may be missing. -/
def behindSuffix (t : Text) : Text :=
  match word? t with
  | some (_, rest) => rest
  | none => t

/-! ## Strings and characters -/

/-- What a string holds. -/
inductive Content where
  | characters
  | bytes
  /-- Characters of which none is null. -/
  | terminated
  deriving DecidableEq, Repr

namespace Spelling

/-- May the character stand for itself in a string? -/
def isPlain (c : Char) : Content → Bool
  | .characters => true
  | .bytes => c.toNat < 128
  | .terminated => c ≠ '\x00'

/-- May these two digits follow `\x` in a string? -/
def isByteNumber (high low : Char) : Content → Bool
  | .characters => '0' ≤ high && high ≤ '7' && isHexDigit low
  | .bytes => isHexDigit high && isHexDigit low
  | .terminated => isHexDigit high && isHexDigit low && (high ≠ '0' || low ≠ '0')

/-- May the character follow a backslash, and be all of the escape? -/
def isShortEscape (c : Char) (content : Content) : Bool :=
  List.contains (Text.ofString "nrt\\'\"") c || (c = '0' && content ≠ .terminated)

/-- The text behind an escape, given the text behind its backslash. -/
def behindEscape? (content : Content) : Text → Option Text
  | 'x' :: high :: low :: rest => if isByteNumber high low content then some rest else none
  | 'u' :: '\x7b' :: rest =>
    let number := rest.takeWhile (· ≠ '\x7d')
    if content ≠ .bytes && isCharacterNumber number
        && (content ≠ .terminated || ofDigits 16 (number.filter isHexDigit) ≠ 0) then
      match rest.dropWhile (· ≠ '\x7d') with
      | _ :: behind => some behind
      | [] => none
    else none
  | c :: rest => if isShortEscape c content then some rest else none
  | [] => none

/-- The text behind a string, given the text behind its opening quote.  A return stands only in
front of a line feed.  The bound is on the number of characters. -/
def behindString? (content : Content) : Nat → Text → Option Text
  | _, '"' :: rest => some rest
  | bound + 1, '\\' :: '\n' :: rest => behindString? content bound rest
  | bound + 1, '\\' :: '\r' :: '\n' :: rest => behindString? content bound rest
  | bound + 1, '\\' :: rest => do behindString? content bound (← behindEscape? content rest)
  | bound + 1, '\r' :: '\n' :: rest => behindString? content bound rest
  | bound + 1, c :: rest =>
    if c ≠ '\r' && isPlain c content then behindString? content bound rest else none
  | _, _ => none

/-- The text behind a raw string, given the marks around it and the text behind its opening quote.
-/
def behindRaw? (content : Content) (hashes : Text) : Text → Option Text
  | '\r' :: '\n' :: rest => behindRaw? content hashes rest
  | c :: rest =>
    if c = '"' && hashes.isPrefixOf rest then some (rest.drop hashes.length)
    else if c ≠ '\r' && isPlain c content then behindRaw? content hashes rest
    else none
  | [] => none

/-- The marks in front of a raw string, and the text behind them. -/
def hashes (t : Text) : Text × Text :=
  (t.takeWhile (· = '#'), t.dropWhile (· = '#'))

/-- The text behind a raw string with the marks that it starts with, of which there are no more than
255. -/
def behindHashes? (content : Content) (t : Text) : Option Text :=
  match hashes t with
  | (marks, '"' :: rest) => if marks.length < 256 then behindRaw? content marks rest else none
  | _ => none

/-- The text behind a character or a byte, given the text behind its opening quote. -/
def behindCharacter? (content : Content) : Text → Option Text
  | '\\' :: rest => do
    match ← behindEscape? content rest with
    | '\'' :: rest => some rest
    | _ => none
  | c :: '\'' :: rest => if isPlain c content then some rest else none
  | _ => none

/-- The text behind a string or a character, without its suffix. -/
def behind? : Text → Option Text
  | '"' :: rest => behindString? .characters rest.length rest
  | '\'' :: rest => behindCharacter? .characters rest
  | 'r' :: rest => behindHashes? .characters rest
  | 'b' :: '"' :: rest => behindString? .bytes rest.length rest
  | 'b' :: '\'' :: rest => behindCharacter? .bytes rest
  | 'b' :: 'r' :: rest => behindHashes? .bytes rest
  | 'c' :: '"' :: rest => behindString? .terminated rest.length rest
  | 'c' :: 'r' :: rest => behindHashes? .terminated rest
  | _ => none

/-- Is the literal at the start of a text a string of characters? -/
def startsString : Text → Bool
  | '"' :: _ | 'r' :: _ => true
  | _ => false

end Spelling

/-! ## Numbers -/

namespace Number

/-- Is the character a digit, or an underscore between digits? -/
def isPlace (c : Char) : Bool :=
  c.isDigit || c = '_'

/-- The text behind an exponent, given the text behind its letter.  An exponent without digits is
none: then the number ends earlier, if it may. -/
def behindExponent? (earlier : Option Text) (isSigned hasDigits : Bool) : Text → Option Text
  | c :: rest =>
    if (c = '+' || c = '-') && !hasDigits then
      if isSigned then earlier else behindExponent? earlier true false rest
    else if c.isDigit then behindExponent? earlier isSigned true rest
    else if c = '_' then behindExponent? earlier isSigned hasDigits rest
    else if hasDigits then some (c :: rest)
    else earlier
  | [] => if hasDigits then some [] else earlier

/-- The text behind a number with a point or an exponent, without its suffix. -/
def behindDecimal? : Text → Option Text
  | first :: rest =>
    if first.isDigit then
      match rest.dropWhile isPlace with
      | '.' :: rest =>
        if rest.head?.any fun c => c = '.' || Text.Identifier.isStart c then none
        else
          match rest.dropWhile isPlace with
          | 'e' :: behind => behindExponent? (some ('e' :: behind)) false false behind
          | 'E' :: behind => behindExponent? (some ('E' :: behind)) false false behind
          | behind => some behind
      | 'e' :: behind | 'E' :: behind => behindExponent? none false false behind
      | _ => none
    else none
  | [] => none

/-- The text behind digits in a base, one of them at least.  A digit that is too large spoils them,
but a letter only ends them. -/
def behindDigits? (base : Nat) (isFound : Bool) : Text → Option Text
  | c :: rest =>
    if c = '_' then
      if isFound || base ≠ 10 then behindDigits? base isFound rest else none
    else if isHexDigit c && (c.isDigit || hexDigitValue c < base) then
      if hexDigitValue c < base then behindDigits? base true rest else none
    else if isFound then some (c :: rest)
    else none
  | [] => if isFound then some [] else none

/-- The text behind a whole number, without its suffix. -/
def behindWhole? : Text → Option Text
  | '0' :: 'x' :: rest => behindDigits? 16 false rest
  | '0' :: 'o' :: rest => behindDigits? 8 false rest
  | '0' :: 'b' :: rest => behindDigits? 2 false rest
  | t => behindDigits? 10 false t

/-- The text behind the suffix of a number.  What is left may not go on like a word. -/
def behindSuffix? (t : Text) : Option Text :=
  match word? t with
  | some (_, rest) => some rest
  | none => if t.head?.any Text.Identifier.isContinue then none else some t

/-- The text behind a number. -/
def behind? (t : Text) : Option Text :=
  ((behindDecimal? t).bind behindSuffix?).or ((behindWhole? t).bind behindSuffix?)

/-- The value and the suffix of a number in base ten, if it is a whole one. -/
def ofDecimal? (t : Text) : Option (Nat × Text) :=
  let value := ofDigits 10 ((t.takeWhile isPlace).filter Char.isDigit)
  match t.dropWhile isPlace with
  | '.' :: _ => none
  | c :: rest =>
    if c = 'e' || c = 'E' then
      let digits := (rest.takeWhile isPlace).any Char.isDigit
      match rest.dropWhile isPlace with
      | d :: _ => if digits || d = '+' || d = '-' then none else some (value, c :: rest)
      | [] => if digits then none else some (value, c :: rest)
    else some (value, c :: rest)
  | [] => some (value, [])

/-- The value and the suffix of a number, if it is a whole one. -/
def value? : Text → Option (Nat × Text)
  | '0' :: 'x' :: rest => some (ofBase 16 isHexDigit rest)
  | '0' :: 'o' :: rest => some (ofBase 8 Char.isDigit rest)
  | '0' :: 'b' :: rest => some (ofBase 2 Char.isDigit rest)
  | t => ofDecimal? t
where
  /-- The value of the digits at the start, and what follows them. -/
  ofBase (base : Nat) (isDigit : Char → Bool) (t : Text) : Nat × Text :=
    (ofDigits base ((t.takeWhile fun c => isDigit c || c = '_').filter isDigit),
      t.dropWhile fun c => isDigit c || c = '_')

/-- May the number stand behind a point, for the place of a field?  It is a whole one of 32 bits and
has no suffix. -/
def isPlaceOfField (t : Text) : Bool :=
  match value? t with
  | some (n, []) => n < 4294967296
  | _ => false

end Number

end TypedStyle.Code
