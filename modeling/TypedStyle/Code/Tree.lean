import TypedStyle.Code.Token
/-!
# Code as trees

Brackets come in pairs, so code is a list of trees: a pair of brackets is one tree with all that
stands between them.  A machine with a stack of unfinished groups builds the trees from tokens.

* `run_append` — the machine takes a sequence of tokens in parts.
-/

namespace TypedStyle.Code

/-- A token, or a pair of brackets and what stands between them. -/
inductive Tree where
  | word (name : Text)
  | literal (kind : Literal)
  | mark (c : Char) (joined : Bool)
  | group (bracket : Char) (content : List Tree)

namespace Tree

/-- A group that is not closed yet: its bracket and what stands in it so far, last tree first. -/
abbrev Frame := Char × List Tree

/-- The bracket that closes a group. -/
def closingOf (bracket : Char) : Char :=
  if bracket = '(' then ')' else if bracket = '[' then ']' else '\x7d'

/-- What one more token makes of the innermost group and those around it. -/
def step : List Tree × List Frame → Token → Option (List Tree × List Frame)
  | (trees, frames), .word name => some (.word name :: trees, frames)
  | (trees, frames), .literal kind => some (.literal kind :: trees, frames)
  | (trees, frames), .mark c joined => some (.mark c joined :: trees, frames)
  | (trees, frames), .opening bracket => some ([], (bracket, trees) :: frames)
  | (trees, (bracket, outer) :: frames), .closing c =>
    if c = closingOf bracket then some (.group bracket trees.reverse :: outer, frames) else none
  | (_, []), .closing _ => none

/-- What some more tokens make of the groups. -/
def run (tokens : List Token) (state : List Tree × List Frame) :
    Option (List Tree × List Frame) :=
  tokens.foldlM step state

/-- Tokens can be collected into trees in two parts, one after the other. -/
theorem run_append (a b : List Token) (state : List Tree × List Frame) :
    run (a ++ b) state = (run a state).bind (run b) := by
  simp [run, List.foldlM_append]
  rfl

/-- The trees of some tokens, if all brackets come in pairs. -/
def ofTokens? (tokens : List Token) : Option (List Tree) :=
  match run tokens ([], []) with
  | some (trees, []) => some trees.reverse
  | _ => none

/-- The trees of code. -/
def ofText? (code : Text) : Option (List Tree) :=
  (Token.ofText? code).bind ofTokens?

end Tree

/-- May the word be used as a name?  A word that is spelled raw always may. -/
def isName (name : Text) : Bool :=
  name != ['_'] && !Text.Identifier.reserved.contains name

end TypedStyle.Code
