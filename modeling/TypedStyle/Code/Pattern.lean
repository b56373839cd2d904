import TypedStyle.Code.Type
/-!
# Patterns in code

A pattern is a name, a literal or a range of them, a structure or a tuple of patterns, a reference
or a slice.  Several patterns with bars between them are a pattern where it is not taken for a
closure.
-/

namespace TypedStyle.Code

open Reading

variable (read : Reader)

/-- Reads the marks of a range, and tells whether its end belongs to it.  An older mark for this is
read in patterns only. -/
def rangeMarks (isPattern : Bool) : Reading Bool := do
  if ← maybeMarks "..=" then return true
  else if (← get).starts "..." then
    if !isPattern then failure
    marks "..."
    return true
  else
    marks ".."
    return false

/-- Reads an end of a range in a pattern, and tells whether there is one. -/
def rangeEnd : Reading Bool := do
  let trees ← get
  if trees.isEmpty || ["|", "=", ",", ";"].any (fun mark => trees.starts (Text.ofString mark))
      || trees.starts ":" && !trees.starts "::" || trees.startsWord ["if"] then
    return false
  if trees.startsLiteral then literal
  else if trees.startsPath || trees.starts "<" then discard (path read true)
  else
    word "const"
    blockWithAttributes read
  return true

/-- Reads the marks and the end of a range in a pattern, and tells whether there is an end. -/
def restOfRange (isPattern : Bool) : Reading Bool := do
  let isClosed ← rangeMarks isPattern
  let hasEnd ← rangeEnd read
  if isClosed && !hasEnd then failure
  return hasEnd

/-- Reads the rest of a pattern that starts with an end of a range. -/
def maybeRange : Reading Form := do
  if (← get).starts ".." then
    if ← restOfRange read true then return .plain else return .halfRange
  else return .plain

/-- Does a bar between patterns stand here? -/
def startsBar (trees : Trees) : Bool :=
  trees.starts "|" && !trees.starts "||" && !trees.starts "|="

/-- Reads patterns with bars between them; one more may stand in front. -/
def choice : Reading Form := do
  let isLed ← maybeMarks "|"
  let form ← read .pattern
  if isLed || startsBar (← get) then
    loopWhile startsBar do
      marks "|"
      discard (read .pattern)
    return .plain
  else return form

/-- Reads the pattern of a field: its name, or its place or name and a pattern. -/
def fieldPattern : Reading Unit := do
  let isBoxed ← maybeWord "box"
  let isReference ← maybeWord "ref"
  let isMutable ← maybeWord "mut"
  let isMarked := isBoxed || isReference || isMutable
  let isNamed := isMarked || (← get).startsName
  if isNamed then discard name else place
  if !isNamed || !isMarked && (← get).starts ":" then
    marks ":"
    discard (choice read)

/-- Reads the patterns of the fields of a structure; two points stand for the rest of them. -/
def fieldPatterns : Reading Unit := do
  let _ ← loop (fun goesOn trees => goesOn && !trees.isEmpty)
    (fun _ => do
      discard (attributes read)
      if ← maybeMarks ".." then return false
      else
        fieldPattern read
        maybeMarks ",") true

/-- Reads a pattern that starts with a path. -/
def pathPattern : Reading Form := do
  let form ← path read true
  let trees ← get
  if startsTemplate form trees then
    discard templateContent
    return .plain
  else if trees.startsGroup '\x7b' then
    inside '\x7b' (fieldPatterns read)
    return .plain
  else if trees.startsGroup '(' then
    inside '(' (listed (choice read))
    return .plain
  else maybeRange read

/-- Reads a name as a pattern, and behind a sign what it is a name for. -/
def namePattern : Reading Unit := do
  discard (maybeWord "ref")
  discard (maybeWord "mut")
  discard (nameOr ["self"])
  if ← maybeMarks "@" then discard (read .pattern)

/-- Does a name stand here that a path or what follows a path goes on from? -/
def startsPathPattern (trees : Trees) : Bool :=
  let second := trees.later
  trees.startsName
      && (second.starts "::" || second.starts "!" || second.startsGroup '\x7b'
        || second.startsGroup '(' || second.starts "..")
    || trees.startsWord ["self"] && second.starts "::"
    || trees.startsWord ["Self", "super", "crate"] || trees.starts "::" || trees.starts "<"

/-- Reads a single pattern. -/
def patternRule : Reading Form := do
  let trees ← get
  if startsPathPattern trees then pathPattern read
  else if trees.startsWord ["_"] then
    word "_"
    return .plain
  else if trees.startsWord ["box"] then
    word "box"
    discard (read .pattern)
    return .plain
  else if trees.starts "-" || trees.startsLiteral || trees.startsWord ["const"] then
    if !(← rangeEnd read) then failure
    maybeRange read
  else if trees.startsName || trees.startsWord ["ref", "mut", "self"] then
    namePattern read
    return .plain
  else if trees.starts "&" then
    marks "&"
    discard (maybeWord "mut")
    discard (read .pattern)
    return .plain
  else if trees.startsGroup '(' then
    inside '(' (listed (choice read))
    return .plain
  else if trees.startsGroup '[' then
    inside '[' <| listed do
      if (← choice read) = .halfRange then failure
    return .plain
  else
    if ← restOfRange read false then return .halfRange else return .plain

end TypedStyle.Code
