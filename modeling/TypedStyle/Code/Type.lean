import TypedStyle.Code.Path
/-!
# Types in code

A type is a path, a reference or a pointer, a tuple, a slice or an array, the type of a function, a
use of a template, or a list of bounds with plus signs between them.  Where a type stands behind a
sign for a reference or an arrow, a plus sign ends it.
-/

namespace TypedStyle.Code

open Reading

variable (read : Reader)

/-- Reads the mark and the group of a use of a template, and tells the bracket. -/
def templateContent : Reading Char := do
  marks "!"
  group

/-- Does a use of a template go on from this path? -/
def startsTemplate (form : PathForm) (trees : Trees) : Bool :=
  !form.isQualified && form.isPlain && trees.starts "!" && !trees.starts "!="

/-- Reads the word for functions of other languages and the name of the language. -/
def linkage : Reading Unit := do
  word "extern"
  discard (maybe Trees.startsString literal)

/-- Reads one input of the type of a function.  The first may be the value that the function belongs
to, without a type. -/
def inputOfType (isFirst : Bool) : Reading Unit := do
  let trees ← get
  let isMutable := isFirst && trees.startsWord ["mut"] && trees.later.startsWord ["self"]
  if isMutable then word "mut"
  let trees ← get
  let startsWithName := trees.startsName || trees.startsWord ["_"]
    || isFirst && trees.startsWord ["self"]
  let isNamed := startsWithName && trees.later.starts ":" && !trees.later.starts "::"
  if isNamed then
    discard anyWord
    marks ":"
  let rest ← get
  if isMutable && !isNamed then word "self"
  else if isFirst && !(isNamed && trees.startsWord ["self"]) && rest.startsWord ["mut"]
      && rest.later.startsWord ["self"] then
    word "mut"
    word "self"
  else discard (read (.type true))

/-- Reads the inputs of the type of a function, the last of which may be three points. -/
def inputsOfType : Reading Unit := do
  let _ ← loop (fun (state : Bool × Bool) trees => state.2 && !trees.isEmpty)
    (fun (isFirst, _) => do
      discard (attributes read)
      let trees ← get
      let second := trees.later
      let isNamed := (trees.startsName || trees.startsWord ["_"]) && second.starts ":"
        && second.later.starts "..."
      if isNamed || trees.starts "..." then
        if isNamed then
          discard anyWord
          marks ":"
        marks "..."
        discard (maybeMarks ",")
        return (false, false)
      else
        inputOfType read isFirst
        return (false, ← maybeMarks ",")) (true, true)

/-- Reads the type of a function. -/
def functionType : Reading Unit := do
  discard (maybeWord "unsafe")
  discard (maybe (Trees.startsWord ["extern"]) linkage)
  word "fn"
  inside '(' (inputsOfType read)
  discard (returned read false)

/-- Reads bounds, each behind a plus sign, to the last sign. -/
def addedBounds : Reading Unit :=
  loopWhile (Trees.starts "+") do
    marks "+"
    discard (bound read false false)

/-- Reads what stands in the round brackets of a type.  The form is that of a tuple, or of a bound
with a question mark in front, or else the form of the single type is given. -/
def contentOfBrackets : Reading (Form × Bool) := do
  let trees ← get
  if trees.isEmpty then return (.plain, false)
  else if trees.startsLifetime then
    if !(← boundsOfType read true false false) then failure
    return (.bracketed, false)
  else if trees.starts "?" then
    trait read false
    return (.bound, false)
  else
    let form ← read (.type true)
    if (← get).starts "," then
      marks ","
      listed (read (.type true))
      return (.plain, false)
    else return (form, true)

/-- Reads a type in round brackets, or a tuple. -/
def bracketedType (mayAdd : Bool) : Reading Form := do
  let (form, isSingle) ← inside '(' (contentOfBrackets read)
  let starts := (← get).starts "+"
  if !isSingle then
    if form = .bound && starts then
      addedBounds read
      return .plain
    else return form
  else
    let isBound := match form with
      | .path path => !path.isQualified
      | .bound => true
      | _ => false
    if mayAdd && starts && isBound then
      addedBounds read
      return .plain
    else return .bracketed

/-- Reads a path as a type, or a use of a template, or bounds of which the path is the first. -/
def pathType (mayAdd isGeneral : Bool) : Reading Form := do
  let form ← pathOfType read
  let trees ← get
  if form.isQualified then return .path form
  else if startsTemplate form trees then
    discard templateContent
    return .plain
  else if isGeneral || mayAdd && trees.starts "+" then
    if mayAdd && trees.starts "+" then
      marks "+"
      if startsBound false (← get) then discard (boundsOfType read true false false)
      return .plain
    else return .bound
  else return .path form

/-- Reads a slice or an array. -/
def sliceType : Reading Unit :=
  inside '[' do
    discard (read (.type true))
    if ← maybeMarks ";" then discard (read (.expression true))

/-- Reads a type. -/
def typeRule (mayAdd : Bool) : Reading Form := do
  let isGeneral ← maybe (Trees.startsWord ["for"]) (lifetimes read)
  let trees ← get
  let isFunction := trees.startsWord ["fn", "unsafe", "extern"]
  let isPath := trees.startsPath
  if isGeneral && !isFunction && !(isPath && !trees.starts "::") then failure
  if trees.startsGroup '(' then bracketedType read mayAdd
  else if isFunction then
    functionType read
    return .plain
  else if isPath || trees.starts "<" then pathType read mayAdd isGeneral
  else if trees.startsWord ["dyn", "impl"] then
    let isHidden := trees.startsWord ["impl"]
    discard anyWord
    if !isHidden then discard (maybeMarks "*")
    if !(← boundsOfType read mayAdd isHidden isHidden) then failure
    return .plain
  else if trees.startsGroup '[' then
    sliceType read
    return .plain
  else if trees.starts "*" then
    marks "*"
    wordOf ["const", "mut"]
    discard (read (.type false))
    return .plain
  else if trees.starts "&" then
    marks "&"
    discard (maybe Trees.startsLifetime lifetime)
    discard (maybeWord "mut")
    discard (read (.type false))
    return .plain
  else if trees.starts "!" then
    marks "!"
    return .plain
  else if trees.startsWord ["_"] then
    word "_"
    return .plain
  else
    if !trees.startsLifetime then failure
    if !(← boundsOfType read true false false) then failure
    return .plain

end TypedStyle.Code
