import TypedStyle.Code.Gap
import TypedStyle.Code.Literal
/-!
# Tokens of code

Code is cut into words, literals, marks and brackets, with gaps between them.  A mark knows whether
another one follows it directly, since several marks in a row may mean one thing; the quote in front
of a lifetime is such a mark.  A note counts as the tokens of the attribute that it stands for.

* `ofWord?_of_plain` — a word that no mark of a literal follows is a token of its own.
-/

namespace TypedStyle.Code

/-- What a literal is, as far as it matters where it stands. -/
inductive Literal where
  /-- A string of characters. -/
  | string
  | number (spelling : Text)
  | other
  deriving DecidableEq, Repr

/-- A token of code. -/
inductive Token where
  /-- An identifier or a reserved word; one that is spelled raw keeps its `r#`. -/
  | word (name : Text)
  | literal (kind : Literal)
  | mark (c : Char) (joined : Bool)
  | opening (bracket : Char)
  | closing (bracket : Char)
  deriving DecidableEq, Repr

namespace Token

/-- Is the character a mark? -/
def isMark (c : Char) : Bool :=
  List.contains (Text.ofString "~!@#$%^&*-=+|;:,<.>/?'") c

/-- Does the text start with a mark, and not with a comment? -/
def startsWithMark : Text → Bool
  | '/' :: '/' :: _ => false
  | '/' :: '*' :: _ => false
  | c :: _ => isMark c
  | [] => false

/-- The tokens of a note: those of an attribute, an inner or an outer one. -/
def ofNote (isInner : Bool) : List Token :=
  mark '#' isInner :: (if isInner then [mark '!' false] else [])
    ++ [opening '[', word "doc", mark '=' false, literal .string, closing ']']

/-- The text behind a note that goes to the end of its line.  A return stands in a note only in
front of a line feed. -/
def behindLineNote? : Text → Option Text
  | '\r' :: '\n' :: rest => some ('\n' :: rest)
  | c :: rest =>
    if c = '\n' then some (c :: rest) else if c = '\r' then none else behindLineNote? rest
  | [] => some []

/-- The text behind a note between marks, with comments in it that are so many deep. -/
def behindBlockNote? : Nat → Text → Option Text
  | outer, '/' :: '*' :: rest => behindBlockNote? (outer + 1) rest
  | 0, '*' :: '/' :: rest => some rest
  | outer + 1, '*' :: '/' :: rest => behindBlockNote? outer rest
  | outer, '\r' :: '\n' :: rest => behindBlockNote? outer rest
  | outer, c :: rest => if c = '\r' then none else behindBlockNote? outer rest
  | _, [] => none

/-- The tokens of a note at the start of a text, and the text behind it. -/
def note? : Text → Option (List Token × Text)
  | '/' :: '/' :: rest =>
    if startsLineNote rest then (behindLineNote? rest).map (ofNote (rest.head? = some '!'), ·)
    else none
  | '/' :: '*' :: rest =>
    if startsBlockNote rest then (behindBlockNote? 0 rest).map (ofNote (rest.head? = some '!'), ·)
    else none
  | _ => none

/-- The literal at the start of a text, and the text behind it. -/
def literal? (t : Text) : Option (Token × Text) :=
  match Spelling.behind? t with
  | some rest =>
    some (literal (if Spelling.startsString t then .string else .other), behindSuffix rest)
  | none =>
    (Number.behind? t).map fun rest =>
      (literal (.number (t.take (t.length - rest.length))), rest)

/-- The token that a word is, with the text behind it, where no literal starts with the word. -/
def ofWord? (name rest : Text) : Option (Token × Text) :=
  match rest with
  | '#' :: behind =>
    if name = "r" then do
      let (name, behind) ← word? behind
      if name = "_" || Text.Identifier.reservedRaw.contains name then none
      else some (word ("r#" ++ name), behind)
    else if name = "br" || name = "cr" then none
    else some (word name, rest)
  | '"' :: _ =>
    if List.contains (["r", "b", "c", "br", "cr"].map Text.ofString) name then none
    else some (word name, rest)
  | '\'' :: _ => if name = "b" then none else some (word name, rest)
  | _ => some (word name, rest)

/-- Do these characters go on from a quote as the name of a lifetime? -/
def startsLifetime (t : Text) : Bool :=
  match t with
  | 'r' :: '#' :: rest =>
    match word? rest with
    | some (name, behind) =>
      name ≠ "_" && !Text.Identifier.reservedRaw.contains name && behind.head? ≠ some '\''
    | none => false
  | _ =>
    match word? t with
    | some (_, behind) => behind.head? ≠ some '\'' && behind.head? ≠ some '#'
    | none => false

/-- The tokens at the start of a text without a gap in front, and the text behind them. -/
def scan? : Text → Option (List Token × Text)
  | [] => none
  | c :: rest =>
    let wrong := Text.ofString "(/*ERROR*/)"
    if wrong.isPrefixOf (c :: rest) then
      some ([literal .other], (c :: rest).drop wrong.length)
    else if c = '(' || c = '[' || c = '\x7b' then some ([opening c], rest)
    else if c = ')' || c = ']' || c = '\x7d' then some ([closing c], rest)
    else
      match note? (c :: rest) with
      | some found => some found
      | none =>
        match literal? (c :: rest) with
        | some (token, behind) => some ([token], behind)
        | none =>
          if c = '\'' then if startsLifetime rest then some ([mark c true], rest) else none
          else if startsWithMark (c :: rest) then some ([mark c (startsWithMark rest)], rest)
          else do
            let (name, behind) ← word? (c :: rest)
            (ofWord? name behind).map fun found => ([found.1], found.2)

/-- A word is a token by itself unless a mark or a quote that could belong to it follows. -/
theorem ofWord?_of_plain {name rest : Text}
    (h : ∀ c ∈ rest.head?, c ≠ '#' ∧ c ≠ '"' ∧ c ≠ '\'') :
    ofWord? name rest = some (word name, rest) := by
  unfold ofWord?
  split <;> simp_all

/-- The tokens found so far, of which the last stands first, and those of the rest of the code.  The
bound is on the number of steps. -/
def collect? : Nat → List Token → Text → Option (List Token)
  | 0, _, _ => none
  | bound + 1, found, t =>
    match Gap.behind? .blanks t with
    | none => none
    | some [] => some found.reverse
    | some t =>
      match scan? t with
      | none => none
      | some (tokens, rest) => collect? bound (tokens.reverse ++ found) rest

/-- The tokens of code. -/
def ofText? (code : Text) : Option (List Token) :=
  collect? (code.length + 1) [] code

end Token

end TypedStyle.Code
