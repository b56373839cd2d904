import TypedStyle.Text.Blank
/-!
# Gaps between the tokens of code

Blanks and comments stand between tokens and mean nothing.  A comment goes to the end of its line,
or it stands between two marks and may hold further comments of that kind.  A note is written like a
comment, with one more mark at its start; it is a token and not part of a gap.

* `Gap.length_behind?_le` — passing over a gap leaves no more text than there was.
-/

namespace TypedStyle.Code

/-- Behind `//`, do the next characters make a note of it? -/
def startsLineNote : Text → Bool
  | '!' :: _ => true
  | '/' :: '/' :: _ => false
  | '/' :: _ => true
  | _ => false

/-- Behind `/*`, do the next characters make a note of it? -/
def startsBlockNote : Text → Bool
  | '!' :: _ => true
  | '*' :: '*' :: _ => false
  | '*' :: '/' :: _ => false
  | '*' :: _ => true
  | _ => false

/-- What a character of a gap is part of. -/
inductive Gap where
  | blanks
  | line
  /-- A comment between marks, inside so many others. -/
  | block (outer : Nat)
  deriving DecidableEq, Repr

/-- The text behind a gap, unless a comment in it is not closed. -/
def Gap.behind? : Gap → Text → Option Text
  | .blanks, '/' :: '/' :: rest =>
    if startsLineNote rest then some ('/' :: '/' :: rest) else behind? .line rest
  | .blanks, '/' :: '*' :: rest =>
    if startsBlockNote rest then some ('/' :: '*' :: rest) else behind? (.block 0) rest
  | .blanks, c :: rest => if Text.isCodeBlank c then behind? .blanks rest else some (c :: rest)
  | .line, c :: rest => behind? (if c = '\n' then .blanks else .line) rest
  | .block outer, '/' :: '*' :: rest => behind? (.block (outer + 1)) rest
  | .block 0, '*' :: '/' :: rest => behind? .blanks rest
  | .block (outer + 1), '*' :: '/' :: rest => behind? (.block outer) rest
  | .block outer, _ :: rest => behind? (.block outer) rest
  | .blanks, [] | .line, [] => some []
  | .block _, [] => none

/-- A gap leaves no more than the text that it is looked for in. -/
theorem Gap.length_behind?_le {gap : Gap} {t rest : Text} (h : gap.behind? t = some rest) :
    rest.length ≤ t.length := by
  fun_induction Gap.behind? gap t <;> simp_all <;> grind

end TypedStyle.Code
