import TypedStyle.Code.Attribute
/-!
# Paths, bounds and parameters

A path is a list of names with double colons between them, any of which may have arguments.  In an
expression arguments in angle brackets stand behind a double colon, so that a comparison is not
taken for them.  A bound is a lifetime or a path; definitions have parameters with bounds, and
conditions on them.

* `parameters_of_not_starts` — without an angle bracket there are no parameters.
-/

namespace TypedStyle.Code

open Reading

variable (read : Reader)

/-! ## Names and arguments -/

/-- Reads a constant as an argument: a literal, a name or a block. -/
def constant : Reading Unit := do
  let trees ← get
  if trees.startsLiteral then literal
  else if trees.startsName then discard name
  else blockWithAttributes read

/-- Reads the type behind an arrow, if there is one. -/
def returned (mayAdd : Bool) : Reading (Option Form) := do
  if (← get).starts "->" then
    marks "->"
    return some (← read (.type mayAdd))
  else return none

/-- Reads arguments in round brackets and what they give, and tells whether a name may follow. -/
def bracketedArguments : Reading Bool := do
  inside '(' (listed (read (.type true)))
  match ← returned read false with
  | none => return true
  | some form => return form = .bracketed

/-- Do arguments in round brackets follow, perhaps behind a double colon? -/
def startsBracketed (form : PathForm) (trees : Trees) : Bool :=
  form.last ≠ .some &&
    (trees.startsGroup '(' || trees.starts "::" && trees.later.later.startsGroup '(')

/-- Reads arguments in angle brackets. -/
def arguments : Reading Arguments := do
  let isEmpty := (← get).later.starts ">"
  angled (read .argument)
  return if isEmpty then .empty else .some

/-- Reads a name of a path and its arguments. -/
def nameOfPath (isExpression : Bool) : Reading Arguments := do
  if (← get).startsWord ["super", "self", "crate", "try"] then
    discard anyWord
    return .none
  discard (nameOr ["Self"])
  let trees ← get
  if !isExpression && trees.starts "<" && !trees.starts "<=" && !trees.starts "<<="
      || trees.starts "::" && trees.later.later.starts "<" then
    discard (maybeMarks "::")
    arguments read
  else return .none

/-- Reads one more name of a path, behind a double colon. -/
def nextName (isExpression : Bool) (form : PathForm) : Reading PathForm := do
  marks "::"
  let last ← nameOfPath read isExpression
  return ⟨form.isQualified, form.isPlain && last = .none, false, last⟩

/-- Reads the names that follow on a path. -/
def moreNames (isExpression : Bool) : PathForm → Reading PathForm :=
  loop (fun _ trees => trees.starts "::" && !trees.later.later.startsGroup '(')
    (nextName read isExpression)

/-- Reads a path that starts with a name. -/
def namedPath (isExpression : Bool) : Reading PathForm := do
  let isRooted ← maybeMarks "::"
  let first ← nameOfPath read isExpression
  moreNames read isExpression ⟨false, first = .none, !isRooted, first⟩

/-- Reads a path that starts with a type in angle brackets, perhaps as a trait. -/
def qualifiedPath (isExpression : Bool) : Reading PathForm := do
  marks "<"
  discard (read (.type true))
  if ← maybeWord "as" then discard (namedPath read false)
  marks ">"
  marks "::"
  let first ← nameOfPath read isExpression
  loop (fun _ trees => trees.starts "::") (nextName read isExpression) ⟨true, false, false, first⟩

/-- Reads a path. -/
def path (isExpression : Bool) : Reading PathForm := do
  if (← get).starts "<" then qualifiedPath read isExpression else namedPath read isExpression

/-- Reads a path in a type, where a name may have arguments in round brackets. -/
def pathOfType : Reading PathForm := do
  let form ← path read false
  loop startsBracketed (fun form => do
    discard (maybeMarks "::")
    let goesOn ← bracketedArguments read
    let form : PathForm := ⟨form.isQualified, false, false, .some⟩
    if goesOn then moreNames read false form else return form) form

/-! ## Bounds -/

/-- Reads lifetimes that what follows is general in. -/
def lifetimes : Reading Unit := do
  word "for"
  angled do
    discard (attributes read)
    lifetime

/-- Reads a trait as a bound: a path, perhaps behind lifetimes, a question mark, or a word that asks
for it in constants. -/
def trait (mayConst : Bool) : Reading Unit := do
  let isGeneral ← maybe (Trees.startsWord ["for"]) (lifetimes read)
  let trees ← get
  if trees.startsGroup '[' || trees.startsWord ["const"] then
    if trees.startsGroup '[' then inside '[' (word "const") else word "const"
    if !mayConst then failure
  let isRelaxed ← maybeMarks "?"
  if isRelaxed && (isGeneral || (← get).startsWord ["for"]) then failure
  let form ← namedPath read false
  if startsBracketed form (← get) then
    discard (maybeMarks "::")
    discard (bracketedArguments read)

/-- Reads a bound, and tells whether it is a trait. -/
def bound (mayCapture mayConst : Bool) : Reading Bool := do
  let trees ← get
  if trees.startsLifetime then
    lifetime
    return false
  else if trees.startsWord ["use"] then
    word "use"
    angled do
      if (← get).startsLifetime then lifetime else discard (nameOr ["Self"])
    if !mayCapture then failure
    return false
  else
    if trees.startsGroup '(' then inside '(' (trait read mayConst) else trait read mayConst
    return true

/-- Reads bounds with plus signs between them up to where they stop. -/
def bounds (stop : Trees → Bool) : Reading Unit :=
  separated '+' stop (bound read false true)

/-- May a bound of a type start here? -/
def startsBound (mayConst : Bool) (trees : Trees) : Bool :=
  trees.startsAnyWord || trees.starts "::" || trees.starts "?" || trees.startsLifetime
    || trees.startsGroup '(' || mayConst && trees.startsGroup '['

/-- Reads the bounds of a type, of which there are several only where that is allowed, and tells
whether one of them is a trait. -/
def boundsOfType (mayAdd mayCapture mayConst : Bool) : Reading Bool := do
  let (found, _) ← loop (fun (state : Bool × Bool) _ => state.2)
    (fun (found, _) => do
      let isTrait ← bound read mayCapture mayConst
      let goesOn ←
        if mayAdd && (← get).starts "+" then
          marks "+"
          pure (startsBound mayConst (← get))
        else pure false
      return (found || isTrait, goesOn)) (false, true)
  return found

/-! ## Arguments, parameters and conditions -/

/-- Reads an argument in angle brackets: a lifetime, a constant, a type, or what a name stands for
or is bound by. -/
def argument : Reading Form := do
  let trees ← get
  if trees.startsLifetime && !trees.later.starts "+" then lifetime
  else if trees.startsLiteral || trees.startsGroup '\x7b' then constant read
  else
    let isName ← match ← read (.type true) with
      | .path form => pure (form.isSingle && !form.isQualified)
      | _ => pure false
    if isName then
      if ← maybeMarks "=" then
        let trees ← get
        if trees.startsLiteral || trees.startsGroup '\x7b' then constant read
        else discard (read (.type true))
      else if ← maybeMarks ":" then
        bounds read fun trees => trees.starts "," || trees.starts ">"
  return .plain

/-- Reads a parameter of a definition: a lifetime, a type or a constant. -/
def parameter : Reading Unit := do
  discard (attributes read)
  let trees ← get
  if trees.startsLifetime then
    lifetime
    if ← maybeMarks ":" then
      separated '+' (fun trees => trees.starts "," || trees.starts ">") lifetime
  else if trees.startsWord ["const"] then
    word "const"
    discard name
    marks ":"
    discard (read (.type true))
    if ← maybeMarks "=" then constant read
  else if trees.startsWord ["_"] then word "_"
  else
    discard name
    if ← maybeMarks ":" then
      bounds read fun trees => trees.starts "," || trees.starts ">" || trees.starts "="
    if ← maybeMarks "=" then discard (read (.type true))

/-- Reads the parameters of a definition, and tells whether there are brackets for them. -/
def parameters : Reading Bool :=
  maybe (Trees.starts "<") (angled (parameter read))

/-- Where no angle bracket opens, there are no parameters. -/
theorem parameters_of_not_starts {trees : Trees} (h : trees.starts "<" = false) :
    parameters read trees = some (false, trees) := by
  simp [parameters, maybe, h]

/-- Do the conditions of a definition, or the bounds in one, stop here? -/
def stopsConditions (trees : Trees) : Bool :=
  trees.startsGroup '\x7b' || trees.starts "," || trees.starts ";" || trees.starts "="
    || trees.starts ":" && !trees.starts "::"

/-- Reads a condition: bounds on a lifetime or on a type. -/
def condition : Reading Unit := do
  let trees ← get
  if trees.startsLifetime && trees.later.starts ":" then
    lifetime
    marks ":"
    separated '+' (fun trees => stopsConditions trees || trees.starts ":") lifetime
  else
    discard (maybe (Trees.startsWord ["for"]) (lifetimes read))
    discard (read (.type true))
    marks ":"
    bounds read stopsConditions

/-- Reads the conditions on parameters, and tells whether there is the word for them. -/
def conditions : Reading Bool :=
  maybe (Trees.startsWord ["where"]) do
    word "where"
    separated ',' stopsConditions (condition read)

end TypedStyle.Code
