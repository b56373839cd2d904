import TypedStyle.Code.Pattern
/-!
# Expressions in code

An expression is a sequence of operands with operators between them.  Operators of a higher rank
bind more closely; two comparisons in a row have no meaning, and nothing goes on from a range.  An
operand has signs in front and calls, indices and fields behind, and between them stands a literal,
a path, a group or a construct that a word starts.  In front of a block, braces behind a path belong
to the block and not to the path.
-/

namespace TypedStyle.Code

open Reading

/-! ## Operators -/

/-- The operators between two operands, each behind those that it starts. -/
def operators : List (String × Rank) :=
  [("+=", .assignment), ("-=", .assignment), ("*=", .assignment), ("/=", .assignment),
   ("%=", .assignment), ("^=", .assignment), ("&=", .assignment), ("|=", .assignment),
   ("<<=", .assignment), (">>=", .assignment), ("&&", .and), ("||", .or), ("<<", .shift),
   (">>", .shift), ("==", .comparison), ("<=", .comparison), ("!=", .comparison),
   (">=", .comparison), ("+", .sum), ("-", .sum), ("*", .product), ("/", .product),
   ("%", .product), ("^", .bitXor), ("&", .bitAnd), ("|", .bitOr), ("<", .comparison),
   (">", .comparison)]

/-- The rank of the operator at the start, and the trees behind it. -/
def operator? (trees : Trees) : Option (Rank × Trees) :=
  operators.findSome? fun (marks, rank) =>
    (Trees.behindMarks? (Text.ofString marks) trees).map (rank, ·)

/-- Does an assignment stand at the start? -/
def startsAssignment (trees : Trees) : Bool :=
  trees.starts "=" && !trees.starts "=>"

/-- The rank of what goes on at the start of the trees. -/
def rankAhead (trees : Trees) : Rank :=
  match operator? trees with
  | some (rank, _) => rank
  | none =>
    if startsAssignment trees then .assignment
    else if trees.starts ".." then .range
    else if trees.startsWord ["as"] then .cast
    else .least

/-- Does a range have no end where these trees follow? -/
def endsRange (mayBuild : Bool) (trees : Trees) : Bool :=
  trees.isEmpty || trees.startsPoint || !mayBuild && trees.startsGroup '\x7b'
    || trees.startsWord ["as"]
    || [",", ";", "?", "=>", "=", "+", "/", "%", "^", ">", "<=", "!=", "-=", "*=", "&=", "|=",
        "<<="].any fun mark => trees.starts (Text.ofString mark)

variable (read : Reader)

/-- Reads the marks of a range and what stands behind them. -/
def rangeFrom (mayBuild : Bool) : Reading Unit := do
  let isClosed ← rangeMarks false
  if isClosed || !endsRange mayBuild (← get) then discard (read (.right .range mayBuild))

/-- Reads the type behind the word for a cast.  No call, index or field goes on from a cast. -/
def castTo : Reading Unit := do
  word "as"
  discard (read (.type false))
  let trees ← get
  if trees.startsPoint || trees.starts "?" || trees.startsGroup '[' || trees.startsGroup '(' then
    failure

/-- Reads the operators that follow an operand and are not looser than a rank. -/
def operationsRule (left : Form) (mayBuild : Bool) (rank : Rank) : Reading Form :=
  if left = .range then pure left
  else do
    let trees ← get
    match operator? trees with
    | some (found, rest) =>
      if found.level < rank.level then return left
      else
        if found = .comparison && left = .comparison then failure
        set rest
        discard (read (.right found mayBuild))
        read (.operations (if found = .comparison then .comparison else .plain) mayBuild rank)
    | none =>
      if rank.level ≤ Rank.assignment.level && startsAssignment trees then
        marks "="
        discard (read (.right .assignment mayBuild))
        read (.operations .plain mayBuild rank)
      else if rank.level ≤ Rank.range.level && trees.starts ".." then
        rangeFrom read mayBuild
        return .range
      else if trees.startsWord ["as"] then
        castTo read
        read (.operations .plain mayBuild rank)
      else return left

/-- Reads what an operator takes on its right: an operand, and the operators that bind it more
closely.  An assignment takes another one. -/
def rightRule (rank : Rank) (mayBuild : Bool) : Reading Form := do
  read (.rightFrom (← read (.operand mayBuild)) rank mayBuild)

/-- Reads the operators that bind what has been read more closely than an operator on its left. -/
def rightFromRule (left : Form) (rank : Rank) (mayBuild : Bool) : Reading Form := do
  let trees ← get
  let ahead := rankAhead trees
  if rank.level < ahead.level || ahead = .assignment && rank = .assignment then
    let form ← read (.operations left mayBuild ahead)
    if (← get).length = trees.length then return form
    else read (.rightFrom form rank mayBuild)
  else return left

/-! ## What goes on from an operand -/

/-- Does a call, an index, a field or a question mark go on from what has been read? -/
def goesOn (form : Form) (trees : Trees) : Bool :=
  trees.startsGroup '(' || trees.startsGroup '['
    || form ≠ .range && (trees.startsPoint || trees.starts "?")

/-- Reads a call. -/
def call : Reading Unit :=
  inside '(' (listed (read (.expression true)))

/-- The parts of a number with points, without the one at its end, and whether it has one there. -/
def placesOfNumber (number : Text) : List Text × Bool :=
  match (Text.splitOn '.' number).reverse with
  | [] :: earlier => (earlier.reverse, true)
  | parts => (parts.reverse, false)

/-- Reads the places of fields in fields that a number with points stands for, and tells whether
there are any and a field has still to follow. -/
def places : Reading (Option Bool) := do
  match ← get with
  | .literal (.number number) :: rest =>
    if (Number.value? number).isSome then return none
    else
      let (parts, goesOn) := placesOfNumber number
      if !parts.all Number.isPlaceOfField then failure
      set rest
      return some goesOn
  | _ => return none

/-- Reads the field or the call of a method behind a point. -/
def field : Reading Unit := do
  marks "."
  if (← places) = some false then return
  let trees ← get
  if trees.startsWord ["await"] then word "await"
  else if trees.startsName then
    discard name
    if (← get).starts "::" then
      marks "::"
      discard (arguments read)
      call read
    else if (← get).startsGroup '(' then call read
  else place

/-- Reads all that goes on from what has been read. -/
def trailers : Form → Reading Form :=
  loop goesOn fun _ => do
    let trees ← get
    if trees.startsGroup '(' then call read
    else if trees.startsGroup '[' then inside '[' do
      discard (read (.expression true))
    else if trees.starts "?" then marks "?"
    else field read
    return .plain

/-! ## Constructs that end with a block -/

/-- Does a closure start here? -/
def startsClosure (trees : Trees) : Bool :=
  let second := trees.later
  trees.starts "|" || trees.startsWord ["move", "static"]
    || trees.startsWord ["for"] && second.startsParameters
    || trees.startsWord ["const"] && !second.startsGroup '\x7b'
    || trees.startsWord ["async"] && (second.starts "|" || second.startsWord ["move"])

/-- Does a construct start here that ends with a block of its own? -/
def startsBlock (trees : Trees) : Bool :=
  let second := trees.later
  trees.startsWord ["if", "while", "loop", "match", "unsafe"] || trees.startsGroup '\x7b'
    || trees.startsLifetime || trees.startsWord ["for"] && !second.startsParameters
    || trees.startsWord ["try", "const"] && second.startsGroup '\x7b'

/-- Reads conditions and their blocks, each behind the word for the other case of the last. -/
def branches : Reading Unit := do
  let _ ← loop (fun goesOn _ => goesOn)
    (fun _ => do
      word "if"
      discard (read (.expression false))
      block read
      if ← maybeWord "else" then
        if (← get).startsWord ["if"] then return true
        block read
      return false) true

/-- Reads an expression that a construct with a block of its own ends early. -/
def earlyExpression : Reading Form := do
  discard (attributes read)
  if startsBlock (← get) then
    let form ← read .construct
    let trees ← get
    if trees.startsPoint || trees.starts "?" then
      read (.operations (← trailers read form) true .least)
    else return form
  else read (.operations (← read (.operand true)) true .least)

/-- Reads one case: patterns, perhaps a condition, and an expression that a comma ends unless it
ends with a block. -/
def case : Reading Unit := do
  discard (attributes read)
  discard (choice read)
  if ← maybeWord "if" then discard (read (.expression true))
  marks "=>"
  let form ← earlyExpression read
  if form = .block || (← get).isEmpty then discard (maybeMarks ",") else marks ","

/-- Reads a construct that ends with a block of its own; it may have a label. -/
def constructRule : Reading Form := do
  let isLabelled ← maybe Trees.startsLifetime do
    lifetime
    marks ":"
  let trees ← get
  if trees.startsWord ["while"] then
    word "while"
    discard (read (.expression false))
    blockWithAttributes read
  else if trees.startsWord ["for"] then
    word "for"
    discard (choice read)
    word "in"
    discard (read (.expression false))
    blockWithAttributes read
  else if trees.startsWord ["loop"] then
    word "loop"
    blockWithAttributes read
  else if trees.startsGroup '\x7b' then blockWithAttributes read
  else
    if isLabelled then failure
    if trees.startsWord ["if"] then branches read
    else if trees.startsWord ["match"] then
      word "match"
      discard (read (.expression false))
      inside '\x7b' do
        innerAttributes read
        toEnd (case read)
    else if trees.startsWord ["try"] then
      word "try"
      block read
    else
      wordOf ["unsafe", "const"]
      blockWithAttributes read
  return .block

/-! ## Operands -/

/-- Reads a closure: its inputs between bars, and an expression, or a type and a block. -/
def closure (mayBuild : Bool) : Reading Unit := do
  discard (maybe (Trees.startsWord ["for"]) (lifetimes read))
  discard (maybeWord "const")
  discard (maybeWord "static")
  discard (maybeWord "async")
  discard (maybeWord "move")
  marks "|"
  separated ',' (Trees.starts "|") do
    discard (attributes read)
    discard (read .pattern)
    if ← maybeMarks ":" then discard (read (.type true))
  marks "|"
  match ← returned read true with
  | some _ => block read
  | none => discard (read (.expression mayBuild))

/-- Reads the fields of a structure and their values; behind two points stands where the rest of
them comes from. -/
def fieldValues : Reading Unit := do
  let _ ← loop (fun goesOn trees => goesOn && !trees.isEmpty)
    (fun _ => do
      if ← maybeMarks ".." then
        if !(← get).isEmpty then discard (read (.expression true))
        return false
      discard (attributes read)
      let isNamed := (← get).startsName
      if isNamed then discard name else place
      if !isNamed || (← get).starts ":" then
        marks ":"
        discard (read (.expression true))
      maybeMarks ",") true

/-- Reads a path in an expression, and what makes a use of a template or a structure of it. -/
def named (mayBuild : Bool) : Reading Form := do
  let form ← path read true
  let trees ← get
  if startsTemplate form trees then
    if (← templateContent) = '\x7b' then return .braced else return .plain
  else
    if mayBuild && trees.startsGroup '\x7b' then inside '\x7b' (fieldValues read)
    return .plain

/-- May an expression start here, behind a word that one can follow? -/
def startsExpression (trees : Trees) : Bool :=
  let startsSign (mark : String) (others : List String) : Bool :=
    trees.starts (Text.ofString mark)
      && others.all fun other => !trees.starts (Text.ofString other)
  trees.startsAnyWord && !trees.startsWord ["as"] || trees.startsGroup '(' || trees.startsGroup '['
    || trees.startsGroup '\x7b' || trees.startsLiteral || startsSign "!" ["!="]
    || startsSign "-" ["-=", "->"] || startsSign "*" ["*="] || startsSign "|" ["|="]
    || startsSign "&" ["&="] || trees.starts ".." || startsSign "<" ["<=", "<<="]
    || trees.starts "::" || trees.startsLifetime || trees.starts "#"

/-- Reads an expression, if one starts here. -/
def maybeExpression : Reading Unit :=
  discard (maybe startsExpression (read (.expression true)))

/-- Reads the label and the value behind the word for leaving a loop.  A value with a label of its
own may not stand right behind it. -/
def leaving (mayBuild : Bool) : Reading Unit := do
  word "break"
  let isLabelled ← maybe Trees.startsLifetime lifetime
  let trees ← get
  if isLabelled && trees.starts ":" then failure
  if mayBuild || !trees.startsGroup '\x7b' then maybeExpression read

/-- Reads an array, or a value and how often it is repeated. -/
def array : Reading Unit :=
  inside '[' do
    if !(← get).isEmpty then
      discard (read (.expression true))
      if ← maybeMarks ";" then discard (read (.expression true))
      else if ← maybeMarks "," then listed (read (.expression true))

/-- Reads an operand without signs in front and without anything that goes on from it. -/
def atom (mayBuild : Bool) : Reading Form := do
  let trees ← get
  let second := trees.later
  if trees.startsLiteral then
    literal
    return .plain
  else if trees.startsWord ["async"] && (second.startsGroup '\x7b'
      || second.startsWord ["move"] && second.later.startsGroup '\x7b') then
    word "async"
    discard (maybeWord "move")
    block read
    return .plain
  else if startsBlock trees then read .construct
  else if startsClosure trees then
    closure read mayBuild
    return .plain
  else if trees.startsWord ["builtin"] && second.starts "#" then
    word "builtin"
    marks "#"
    discard name
    groupIn '('
    return .plain
  else if trees.startsPath || trees.starts "<"
      || trees.startsWord ["try"] && (second.starts "!" || second.starts "::") then
    named read mayBuild
  else if trees.startsGroup '(' then
    call read
    return .plain
  else if trees.startsGroup '[' then
    array read
    return .plain
  else if trees.startsWord ["break"] then
    leaving read mayBuild
    return .plain
  else if trees.startsWord ["continue"] then
    word "continue"
    discard (maybe Trees.startsLifetime lifetime)
    return .plain
  else if trees.startsWord ["return", "yield"] then
    discard anyWord
    maybeExpression read
    return .plain
  else if trees.startsWord ["become"] then
    word "become"
    discard (read (.expression true))
    return .plain
  else if trees.startsWord ["let"] then
    word "let"
    discard (choice read)
    marks "="
    discard (read (.operations (← read (.operand mayBuild)) mayBuild .comparison))
    return .plain
  else if trees.startsWord ["_"] then
    word "_"
    return .plain
  else
    rangeFrom read mayBuild
    return .range

/-- Reads an operand: attributes and signs in front, and all that goes on from it.  No attributes
stand in front of a range. -/
def operandRule (mayBuild : Bool) : Reading Form := do
  let hasAttributes ← attributes read
  let trees ← get
  if trees.starts "&" then
    marks "&"
    let trees ← get
    if trees.startsWord ["raw"] && trees.later.startsWord ["mut", "const"] then
      word "raw"
      discard anyWord
    else discard (maybeWord "mut")
    discard (read (.operand mayBuild))
    return .plain
  else if trees.starts "*" || trees.starts "!" || trees.starts "-" then
    set trees.tail
    discard (read (.operand mayBuild))
    return .plain
  else
    let form ← trailers read (← atom read mayBuild)
    if hasAttributes && form = .range then failure
    return form

/-- Reads an expression. -/
def expressionRule (mayBuild : Bool) : Reading Form := do
  read (.operations (← read (.operand mayBuild)) mayBuild .least)

end TypedStyle.Code
