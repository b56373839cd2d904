import TypedStyle.Code.Expression
/-!
# Statements in code

A block holds statements: bindings, items, uses of a template, and expressions.  An expression needs
a semicolon behind it unless it is the last one or ends with a block of its own.
-/

namespace TypedStyle.Code

open Reading

variable (read : Reader)

/-- Reads the binding of a pattern to a value.  Behind the value may stand a block for the case that
it does not fit, unless it ends in braces itself. -/
def binding : Reading Unit := do
  word "let"
  discard (read .pattern)
  if ← maybeMarks ":" then discard (read (.type true))
  if ← maybeMarks "=" then
    if !(← endsInBraces (read (.expression true))) then
      if ← maybeWord "else" then block read
  marks ";"

/-- Does an item start here that is no use of a template? -/
def startsItem (trees : Trees) : Bool :=
  let second := trees.later
  let third := second.later
  trees.startsWord ["pub", "extern", "use", "fn", "mod", "type", "struct", "enum", "trait", "impl",
      "macro"]
    || trees.startsWord ["crate"] && !second.starts "::"
    || trees.startsWord ["static"] && (second.startsWord ["mut"] || second.startsName)
    || trees.startsWord ["const"]
      && !(second.startsGroup '\x7b' || second.startsWord ["static", "move"] || second.starts "|"
        || second.startsWord ["async"] && !third.startsWord ["unsafe", "extern", "fn"])
    || trees.startsWord ["unsafe"] && !second.startsGroup '\x7b'
    || trees.startsWord ["async"] && second.startsWord ["unsafe", "extern", "fn"]
    || trees.startsWord ["union"] && second.startsName
    || trees.startsWord ["auto"] && second.startsWord ["trait"]
    || trees.startsWord ["default"] && second.startsWord ["unsafe", "impl"]

/-- What a use of a template is, where a statement stands. -/
inductive Use where
  | item
  /-- It is closed by its braces. -/
  | statement
  /-- It may go on as an expression. -/
  | expression
  deriving DecidableEq, Repr

/-- What the use of a template at the start is; the use of one needs a name and a mark. -/
def useAhead (trees : Trees) : Use :=
  match behind? namesPath trees with
  | none => .expression
  | some rest =>
    let second := rest.later
    let third := second.later
    if !rest.starts "!" then .expression
    else if second.startsName || second.startsWord ["try"] then .item
    else if second.startsGroup '\x7b' && !(third.startsPoint || third.starts "?") then .statement
    else .expression

/-- Reads a statement, and tells whether it is closed, or else its form as an expression. -/
def statement : Reading Form := do
  discard (attributes read)
  let trees ← get
  let use := useAhead trees
  if use = .statement then
    namesPath
    discard templateContent
    discard (maybeMarks ";")
    return .closed
  else if trees.startsWord ["let"] then
    binding read
    return .closed
  else if use = .item || startsItem trees then
    discard (read .item)
    return .closed
  else
    let form ← earlyExpression read
    if ← maybeMarks ";" then return .closed else return form

/-- Reads statements to the end. -/
def statementsRule : Reading Form := do
  let _ ← loop (fun goesOn trees => goesOn && !trees.isEmpty)
    (fun _ => do
      if ← maybeMarks ";" then return true
      let form ← statement read
      return form = .closed || form = .block || form = .braced) true
  return .plain

end TypedStyle.Code
