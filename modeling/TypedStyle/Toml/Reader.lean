import TypedStyle.Toml.Assembly
import TypedStyle.Toml.Quoted
import TypedStyle.Toml.Scalar
/-!
# Reading TOML documents

A document is read line by line into statements, which are then assembled into one table.  A value
may go over several lines, and containers may stand inside one another, up to a limit; the length of
the text bounds how long reading goes on.
-/

namespace TypedStyle.Toml

/-- Is the character a blank within a line? -/
def isBlank (c : Char) : Bool :=
  c = ' ' || c = '\t'

/-- The text without the blanks that it starts with. -/
def skipBlanks (t : Text) : Text :=
  t.dropWhile isBlank

/-- The text behind the blanks, line breaks and comments that it starts with. -/
def skipGaps? (inComment : Bool) : Text → Option Text
  | [] => some []
  | c :: rest =>
    if startsLine (c :: rest) then skipGaps? (inComment && c = '\r') rest
    else if inComment then if isPrintable c then skipGaps? true rest else none
    else if isBlank c then skipGaps? false rest
    else if c = '#' then skipGaps? true rest
    else some (c :: rest)

/-- Behind the last part of a statement, the text of the next line. -/
def nextLine? (t : Text) : Option Text :=
  let behind := match skipBlanks t with
    | '#' :: comment => comment.dropWhile isPrintable
    | rest => rest
  if behind.isEmpty || startsLine behind then some (skipLineBreak behind) else none

/-- May the character stand in a key without quotes? -/
def isKeyChar (c : Char) : Bool :=
  c.isAlphanum || c = '_' || c = '-'

/-- The name at the start of a text, and the text behind it. -/
def name? (t : Text) : Option (Text × Text) :=
  match t with
  | '"' :: rest => quoted? rest
  | '\'' :: rest => literal? rest
  | _ =>
    let name := t.takeWhile isKeyChar
    if name.isEmpty then none else some (name, t.dropWhile isKeyChar)

/-- How many names a dotted key may have, and how many containers may stand inside one another. -/
def limit : Nat := 79

/-- The names of the dotted key at the start of a text, the last one apart, and the text behind
the key and the blanks that follow it.  The bound is on the number of names. -/
def names? : Nat → Text → Option (List Text × Text × Text)
  | 0, _ => none
  | bound + 1, t => do
    let (name, rest) ← name? (skipBlanks t)
    match skipBlanks rest with
    | '.' :: rest => do
      let (path, last, rest) ← names? bound rest
      some (name :: path, last, rest)
    | rest => some ([], name, rest)

/-- The dotted key at the start of a text, as its names. -/
def key? (t : Text) : Option (List Text × Text × Text) :=
  names? limit t

/-- May the character stand in a value of one word? -/
def isWordChar (c : Char) : Bool :=
  isKeyChar c || c = '+' || c = '.' || c = ':'

/-- The value of one word at the start of a text, and the text behind it.  A date and a time of day
behind it count as one word. -/
def word? (t : Text) : Option (Node × Text) :=
  let word := t.takeWhile isWordChar
  let rest := t.dropWhile isWordChar
  match behindDate? word, rest with
  | some [], ' ' :: d :: more =>
    if d.isDigit then
      (wordOf? (word ++ ' ' :: (d :: more).takeWhile isWordChar)).map
        (·, (d :: more).dropWhile isWordChar)
    else (wordOf? word).map (·, rest)
  | _, _ => (wordOf? word).map (·, rest)

mutual

/-- The value at the start of a text, and the text behind it.  The bound is on the number of
parts. -/
def value? : Nat → Text → Option (Node × Text)
  | 0, _ => none
  | bound + 1, t =>
    match t with
    | '[' :: rest => do
      let (items, rest) ← items? bound rest
      some (.array items, rest)
    | '\x7b' :: rest =>
      match skipBlanks rest with
      | '\x7d' :: rest => some (.table .inline [], rest)
      | rest => do
        let (pairs, rest) ← pairs? bound rest
        let table ← inlineTable? pairs
        some (table, rest)
    | c :: _ =>
      if c = '"' ∨ c = '\'' then (string? t).map fun found => (.string found.1, found.2)
      else word? t
    | [] => none

/-- Behind the opening bracket of an array or a comma in it, the remaining items and the text behind
the array. -/
def items? : Nat → Text → Option (List Node × Text)
  | 0, _ => none
  | bound + 1, t => do
    match ← skipGaps? false t with
    | ']' :: rest => some ([], rest)
    | rest => do
      let (item, rest) ← value? bound rest
      match ← skipGaps? false rest with
      | ',' :: rest => do
        let (items, rest) ← items? bound rest
        some (item :: items, rest)
      | ']' :: rest => some ([item], rest)
      | _ => none

/-- Behind the opening brace of a table or a comma in it, the remaining pairs and the text behind
the table. -/
def pairs? : Nat → Text → Option (List (List Text × Text × Node) × Text)
  | 0, _ => none
  | bound + 1, t => do
    let (path, name, rest) ← key? t
    match rest with
    | '=' :: rest => do
      let (value, rest) ← value? bound (skipBlanks rest)
      match skipBlanks rest with
      | ',' :: rest => do
        let (pairs, rest) ← pairs? bound rest
        some ((path, name, value) :: pairs, rest)
      | '\x7d' :: rest => some ([(path, name, value)], rest)
      | _ => none
    | _ => none

end

/-- The statement at the start of a text, and the text behind it. -/
def statement? (bound : Nat) : Text → Option (Statement × Text)
  | '[' :: '[' :: rest => do
    let (path, name, rest) ← key? rest
    match rest with
    | ']' :: ']' :: rest => some (.member path name, rest)
    | _ => none
  | '[' :: rest => do
    let (path, name, rest) ← key? rest
    match rest with
    | ']' :: rest => some (.table path name, rest)
    | _ => none
  | t => do
    let (path, name, rest) ← key? t
    match rest with
    | '=' :: rest => do
      let (value, rest) ← value? bound (skipBlanks rest)
      if value.nesting ≤ limit then some (.pair path name value, rest) else none
    | _ => none

/-- The statements of a text, of which there are at most as many as the bound says. -/
def statements? : Nat → Text → Option (List Statement)
  | 0, _ => none
  | bound + 1, t => do
    match ← skipGaps? false t with
    | [] => some []
    | rest => do
      let (statement, rest) ← statement? (rest.length + 1) rest
      let rest ← nextLine? rest
      let statements ← statements? bound rest
      some (statement :: statements)

/-- The entries of the table that a document denotes.  A mark of byte order in front of it does not
count. -/
def parse? (document : Text) : Option Entries := do
  let t := match document with
    | '\uFEFF' :: rest => rest
    | t => t
  assemble? (← statements? (t.length + 1) t)

end TypedStyle.Toml
