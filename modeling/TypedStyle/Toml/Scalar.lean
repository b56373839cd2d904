import TypedStyle.Decimal.Magnitude
import TypedStyle.Toml.Basic
/-!
# TOML numbers, truth values and points in time

A value that is neither a string nor a container is one word.  Digits of a number may be separated
by single underscores; integers fit 64 bits; a float may not be so large that it becomes infinite.
-/

namespace TypedStyle.Toml

/-- The digits of a run in which single underscores may separate digits. -/
def digitRun? (isDigit : Char → Bool) (t : Text) : Option Text :=
  let groups := Text.splitOn '_' t
  if groups.all fun group => !group.isEmpty && group.all isDigit then some groups.flatten else none

/-- A word without its sign, and whether the sign is a minus. -/
def signed : Text → Bool × Text
  | '-' :: rest => (true, rest)
  | '+' :: rest => (false, rest)
  | t => (false, t)

/-- The digits of a decimal integer, which has no superfluous zeros in front. -/
def wholeDigits? (t : Text) : Option Text := do
  let digits ← digitRun? Char.isDigit t
  if digits.head? = some '0' ∧ digits ≠ ['0'] then none else some digits

/-- The value of a digit in a base up to sixteen. -/
def digitValue (c : Char) : Nat :=
  if c.isDigit then c.toNat - '0'.toNat else c.toLower.toNat - 'a'.toNat + 10

/-- The number that digits denote in a base. -/
def ofDigits (base : Nat) (digits : Text) : Nat :=
  digits.foldl (fun n c => base * n + digitValue c) 0

/-- The integer, if it fits 64 bits. -/
def integer? (n : Int) : Option Node :=
  if -(Decimal.powerOfTwo 63 : Int) ≤ n ∧ n < (Decimal.powerOfTwo 63 : Int) then
    some (.integer n)
  else
    none

/-- Is the character a digit in base sixteen? -/
def isHexDigit (c : Char) : Bool :=
  c.isDigit || ('a' ≤ c.toLower && c.toLower ≤ 'f')

/-- The integer that a word denotes. -/
def integerOf? : Text → Option Node
  | '0' :: 'x' :: rest => do integer? (ofDigits 16 (← digitRun? isHexDigit rest))
  | '0' :: 'o' :: rest => do
    integer? (ofDigits 8 (← digitRun? (fun c => '0' ≤ c && c ≤ '7') rest))
  | '0' :: 'b' :: rest => do integer? (ofDigits 2 (← digitRun? (fun c => c = '0' || c = '1') rest))
  | t => do
    let (negative, rest) := signed t
    let n : Int := ofDigits 10 (← wholeDigits? rest)
    integer? (if negative then -n else n)

/-- Has the text the form of an exponent, without the letter in front? -/
def isExponent (t : Text) : Bool :=
  (digitRun? Char.isDigit (signed t).2).isSome

/-- Has the text the form of a decimal integer, a fraction and an exponent, either of the latter two
but not both missing? -/
def isFloatForm (t : Text) : Bool :=
  let isMark (c : Char) : Bool := c = 'e' || c = 'E'
  let mantissa := t.takeWhile fun c => !isMark c
  let whole := mantissa.takeWhile (· ≠ '.')
  let isFraction := match mantissa.dropWhile (· ≠ '.') with
    | _ :: fraction => (digitRun? Char.isDigit fraction).isSome
    | [] => t.any isMark
  let isScale := match t.dropWhile fun c => !isMark c with
    | _ :: exponent => isExponent exponent
    | [] => true
  (wholeDigits? whole).isSome && isFraction && isScale

/-- The float that a word denotes. -/
def floatOf? (t : Text) : Option Node :=
  let (negative, rest) := signed t
  if rest = "inf" ∨ rest = "nan" then some (.float t)
  else if isFloatForm rest
      && (negative || !Decimal.numeralOverflows (rest.filter (· ≠ '_'))) then some (.float t)
  else none

/-- The number that exactly two digits denote. -/
def twoDigits? : Text → Option (Nat × Text)
  | a :: b :: rest =>
    if a.isDigit && b.isDigit then some (ofDigits 10 [a, b], rest) else none
  | _ => none

/-- The text behind a character that it starts with. -/
def behind? (c : Char) : Text → Option Text
  | d :: rest => if d = c then some rest else none
  | [] => none

/-- The number of days of a month. -/
def daysOf (year month : Nat) : Nat :=
  if month = 2 then
    if year % 4 = 0 ∧ (year % 100 ≠ 0 ∨ year % 400 = 0) then 29 else 28
  else if month = 4 ∨ month = 6 ∨ month = 9 ∨ month = 11 then 30
  else 31

/-- The text behind a date that it starts with. -/
def behindDate? (t : Text) : Option Text := do
  let (century, t) ← twoDigits? t
  let (decade, t) ← twoDigits? t
  let (month, t) ← twoDigits? (← behind? '-' t)
  let (day, t) ← twoDigits? (← behind? '-' t)
  if 1 ≤ month ∧ month ≤ 12 ∧ 1 ≤ day ∧ day ≤ daysOf (century * 100 + decade) month then some t
  else none

/-- The text behind a time of day that it starts with. -/
def behindClock? (t : Text) : Option Text := do
  let (hour, t) ← twoDigits? t
  let (minute, t) ← twoDigits? (← behind? ':' t)
  let (second, t) ← twoDigits? (← behind? ':' t)
  if 23 < hour ∨ 59 < minute ∨ 60 < second then none
  else
    match t with
    | '.' :: fraction =>
      if (fraction.head?).any Char.isDigit then some (fraction.dropWhile Char.isDigit) else none
    | t => some t

/-- Is the text the offset of a time from the standard one, which may be missing? -/
def isOffset : Text → Bool
  | [] => true
  | ['Z'] | ['z'] => true
  | sign :: t =>
    (sign = '+' || sign = '-') &&
      ((do
        let (hour, t) ← twoDigits? t
        let (minute, t) ← twoDigits? (← behind? ':' t)
        some (decide (hour ≤ 23) && decide (minute ≤ 59) && t.isEmpty)).getD false)

/-- Is the text a time of day, which may have an offset? -/
def isClock (t : Text) : Bool :=
  (behindClock? t).any isOffset

/-- The point in time that a word denotes: a date, a time of day, or both. -/
def timeOf? (t : Text) : Option Node :=
  let isTime := match behindDate? t with
    | some [] => true
    | some (mark :: clock) => (mark = 'T' || mark = 't' || mark = ' ') && isClock clock
    | none => behindClock? t = some []
  if isTime then some (.time t) else none

/-- The value that a word denotes. -/
def wordOf? (t : Text) : Option Node :=
  if t = "true" then some (.boolean true)
  else if t = "false" then some (.boolean false)
  else (integerOf? t).or ((floatOf? t).or (timeOf? t))

end TypedStyle.Toml
