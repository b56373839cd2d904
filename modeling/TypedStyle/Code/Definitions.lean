import TypedStyle.Code.Item
/-!
# Definitions in a file of code

The rules for all parts of code are tied together here.  Reading a file of code gives the names that
its functions, structures and constants define, in order.
-/

namespace TypedStyle.Code

open Reading

/-- How a part of code is read, by one who knows how to read parts. -/
def rule (read : Reader) : Reader
  | .type mayAdd => typeRule read mayAdd
  | .argument => argument read
  | .pattern => patternRule read
  | .expression mayBuild => expressionRule read mayBuild
  | .operand mayBuild => operandRule read mayBuild
  | .operations left mayBuild rank => operationsRule read left mayBuild rank
  | .right rank mayBuild => rightRule read rank mayBuild
  | .rightFrom left rank mayBuild => rightFromRule read left rank mayBuild
  | .construct => constructRule read
  | .statements => statementsRule read
  | .fields => fieldsRule read
  | .item => itemRule read
  | .imports mayRoot => importsRule read mayRoot

/-- Reads a part of code.  The bound is on how many parts stand in each other. -/
def readUpTo : Nat → Reader
  | 0, _ => failure
  | bound + 1, part => rule (readUpTo bound) part

/-- Reads a file of code, and gives the names that it defines. -/
def file (read : Reader) : Reading (List Text) := do
  innerAttributes read
  let found ← loop (fun _ trees => !trees.isEmpty)
    (fun found => do
      discard (attributes read)
      match ← read .item with
      | .definition name => return name :: found
      | _ => return found) []
  return found.reverse

/-- The names that a file with these tokens defines, if it can be read.  No parts stand in each
other deeper than the number of tokens lets them. -/
def definitionsOf? (tokens : List Token) : Option (List Text) := do
  let trees ← Tree.ofTokens? tokens
  let (names, _) ← file (readUpTo (16 * (tokens.length + 1))) trees
  return names

/-- The names that a file of code defines, if it can be read. -/
def definitions? (code : Text) : Option (List Text) :=
  (Token.ofText? code).bind definitionsOf?

end TypedStyle.Code
