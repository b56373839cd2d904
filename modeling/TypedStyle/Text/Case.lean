import TypedStyle.Text.Case.Tables
/-!
# Upper and lower case

Lower-casing a text maps each character by itself, with one exception: a capital sigma at the end
of a word becomes the final sigma.  A sigma ends a word when a cased character stands before it and
none stands behind it, where the characters that case ignores are passed over on both sides.
-/

namespace TypedStyle.Text

namespace Case

/-- Does the run move this code point? -/
def ShiftRun.covers (run : ShiftRun) (n : Nat) : Bool :=
  run.first ≤ n && n ≤ run.last && (n - run.first) % run.step == 0

/-- The character moved by the first run that covers it, or the character itself. -/
def shift (runs : List ShiftRun) (c : Char) : Char :=
  match runs.find? (·.covers c.toNat) with
  | some run => Char.ofNat (c.toNat + run.shift).toNat
  | none => c

/-- Is the character a letter with case? -/
def isCased (c : Char) : Bool :=
  cased.holds c

/-- Does case pass over the character? -/
def isIgnorable (c : Char) : Bool :=
  ignorable.holds c

/-- Is the first character that case does not pass over a cased one? -/
def meetsCased (t : Text) : Bool :=
  match t.dropWhile isIgnorable with
  | c :: _ => isCased c
  | [] => false

end Case

/-- The lower-case form of one character. -/
def lowerChar (c : Char) : Text :=
  if c = 'İ' then ['i', '\u0307'] else [Case.shift Case.lowerRuns c]

/-- The upper-case form of one character. -/
def upperChar (c : Char) : Text :=
  match Case.upperExpansions.lookup c.toNat with
  | some codes => codes.map Char.ofNat
  | none => [Case.shift Case.upperRuns c]

/-- Lower case behind a text that does (`afterCased`) or does not end in a cased character, the
characters that case ignores not counting. -/
def lowerAfter (afterCased : Bool) : Text → Text
  | [] => []
  | c :: rest =>
    let first :=
      if c = 'Σ' then [if afterCased && !Case.meetsCased rest then 'ς' else 'σ'] else lowerChar c
    first ++ lowerAfter (if Case.isIgnorable c then afterCased else Case.isCased c) rest

/-- The lower-case form of a text. -/
def lower (t : Text) : Text :=
  lowerAfter false t

end TypedStyle.Text
