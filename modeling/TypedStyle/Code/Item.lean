import TypedStyle.Code.Statement
/-!
# Items in code

A file of code is a list of items: definitions, imports, implementations and uses of a template.
Some of them define a name that matters in the whole file: functions with a body, structures, and
constants with a value that have neither parameters nor conditions.

* `visibility_of_not_starts` — what is not public needs no word.
-/

namespace TypedStyle.Code

open Reading

/-- Reads how far an item can be seen, and tells whether there is a word for it. -/
def visibility : Reading Bool :=
  maybe (Trees.startsWord ["pub"]) do
    word "pub"
    match ← get with
    | .group '(' scope :: rest =>
      if Trees.startsWord ["in"] scope then inside '(' do
        word "in"
        namesPath
      else if Trees.startsWord ["crate", "self", "super"] scope && scope.length = 1 then set rest
    | _ => return ()

/-- Where the word for what is public does not stand, nothing is said about who can see an item. -/
theorem visibility_of_not_starts {trees : Trees} (h : trees.startsWord ["pub"] = false) :
    visibility trees = some (false, trees) := by
  simp [visibility, maybe, h]

variable (read : Reader)

/-! ## Functions -/

/-- Does a function start here, perhaps behind words for its kind? -/
def startsFunction (maySafe : Bool) (trees : Trees) : Bool :=
  let skip (words : List String) (trees : Trees) : Trees :=
    if trees.startsWord words then trees.later else trees
  let trees := skip ["async"] (skip ["const"] trees)
  let trees := skip (if maySafe && trees.startsWord ["safe"] then ["safe"] else ["unsafe"]) trees
  let trees :=
    if trees.startsWord ["extern"] then
      if trees.later.startsString then trees.later.later else trees.later
    else trees
  trees.startsWord ["fn"]

/-- Reads the value that a function belongs to, as its first input. -/
def receiver : Reading Unit := do
  let isReference ← maybe (Trees.starts "&") do
    marks "&"
    discard (maybe Trees.startsLifetime lifetime)
  discard (maybeWord "mut")
  word "self"
  if !isReference && (← maybeMarks ":") then discard (read (.type true))

/-- Reads the inputs of a function; the last may be any number of values. -/
def inputs : Reading Unit := do
  let openEnd : Reading (Bool × Bool) := do
    if !(← get).isEmpty then marks ","
    return (false, false)
  let _ ← loop (fun (state : Bool × Bool) trees => state.2 && !trees.isEmpty)
    (fun (isFirst, _) => do
      discard (attributes read)
      if ← maybeMarks "..." then openEnd
      else
        let trees ← get
        match behind? (receiver read) trees with
        | some rest =>
          if !isFirst then failure
          set rest
          return (false, ← maybeMarks ",")
        | none =>
          if trees.startsName && trees.later.starts "<" then
            discard (read (.type true))
            return (false, ← maybeMarks ",")
          else
            discard (read .pattern)
            marks ":"
            if ← maybeMarks "..." then openEnd
            else
              discard (read (.type true))
              return (false, ← maybeMarks ",")) (true, true)

/-- Reads a function up to its body, and gives its name. -/
def functionFront (maySafe : Bool) : Reading Text := do
  discard (maybeWord "const")
  discard (maybeWord "async")
  let isUnsafe ← maybeWord "unsafe"
  if maySafe && !isUnsafe then discard (maybeWord "safe")
  discard (maybe (Trees.startsWord ["extern"]) linkage)
  word "fn"
  let name ← name
  discard (parameters read)
  inside '(' (inputs read)
  discard (returned read true)
  discard (conditions read)
  return name

/-- Reads a function; without a body it defines nothing. -/
def functionItem (maySafe : Bool) : Reading Form := do
  let name ← functionFront read maySafe
  if ← maybeMarks ";" then return .plain
  else
    blockWithAttributes read
    return .definition name

/-! ## Values, types and imports -/

/-- Reads the value of a definition, if it has one, and tells whether it has. -/
def maybeValue : Reading Bool :=
  maybe (Trees.starts "=") do
    marks "="
    discard (read (.expression true))

/-- Reads a constant. -/
def constantItem : Reading Form := do
  word "const"
  let name ← nameOr ["_"]
  let isGeneral ← parameters read
  marks ":"
  discard (read (.type true))
  let hasValue ← maybeValue read
  let isConditional ← conditions read
  marks ";"
  if hasValue && !isGeneral && !isConditional then return .definition name else return .plain

/-- Reads a variable of the whole program, whose type or value may be missing. -/
def variableItem : Reading Unit := do
  word "static"
  discard (maybeWord "mut")
  discard name
  if !(← maybeValue read) then
    marks ":"
    discard (read (.type true))
    discard (maybeValue read)
  marks ";"

/-- Reads a name for a type.  Its conditions stand in front of the type or behind it. -/
def typeItem (mayBefore mayAfter : Bool) : Reading Unit := do
  word "type"
  discard name
  discard (parameters read)
  if ← maybeMarks ":" then
    bounds read fun trees => trees.startsWord ["where"] || trees.starts "=" || trees.starts ";"
  let isConditional ← if mayBefore then conditions read else pure false
  if ← maybeMarks "=" then discard (read (.type true))
  if mayAfter && !isConditional then discard (conditions read)
  marks ";"

/-- Reads what an import takes in: a path, everything, or several of them in braces. -/
def importsRule (mayRoot : Bool) : Reading Form := do
  let trees ← get
  if trees.starts "*" then marks "*"
  else if trees.startsGroup '\x7b' then
    inside '\x7b' <| listed do
      let isRooted ← maybe (fun trees => mayRoot && trees.starts "::") (marks "::")
      read (.imports (mayRoot && !isRooted))
  else
    discard (nameOr ["self", "super", "crate", "try"])
    if (← get).starts "::" then
      marks "::"
      discard (read (.imports false))
    else if ← maybeWord "as" then discard (nameOr ["_"])
  return .plain

/-- Reads an import. -/
def importItem : Reading Unit := do
  word "use"
  let isRooted ← maybeMarks "::"
  discard (read (.imports !isRooted))
  marks ";"

/-- Reads the import of another program. -/
def programItem : Reading Unit := do
  word "extern"
  word "crate"
  discard (nameOr ["self"])
  if ← maybeWord "as" then discard (nameOr ["_"])
  marks ";"

/-! ## Structures, unions and enumerations -/

/-- Reads the fields of a definition that have no names. -/
def tuple : Reading Unit :=
  inside '(' <| listed do
    discard (attributes read)
    discard visibility
    read (.type true)

/-- Reads the fields of a definition that have names.  One without a name may hold fields of its
own. -/
def fieldsRule : Reading Form := do
  inside '\x7b' <| listed do
    discard (attributes read)
    discard visibility
    let name ← nameOr ["_"]
    marks ":"
    let trees ← get
    if name = "_" && (trees.startsWord ["struct"]
        || trees.startsWord ["union"] && trees.later.startsGroup '\x7b') then
      discard anyWord
      discard (read .fields)
    else discard (read (.type true))
  return .plain

/-- Reads a structure. -/
def structureItem : Reading Form := do
  word "struct"
  let name ← name
  discard (parameters read)
  let isConditional ← conditions read
  let trees ← get
  if trees.startsGroup '(' && !isConditional then
    tuple read
    discard (conditions read)
    marks ";"
  else if trees.startsGroup '\x7b' then discard (read .fields)
  else marks ";"
  return .definition name

/-- Reads a union of fields. -/
def unionItem : Reading Unit := do
  word "union"
  discard name
  discard (parameters read)
  discard (conditions read)
  discard (read .fields)

/-- Reads a case of an enumeration, which may have fields and a value. -/
def variant : Reading Unit := do
  discard (attributes read)
  discard visibility
  discard name
  let trees ← get
  if trees.startsGroup '\x7b' then discard (read .fields)
  else if trees.startsGroup '(' then tuple read
  discard (maybeValue read)

/-- Reads an enumeration. -/
def enumerationItem : Reading Unit := do
  word "enum"
  discard name
  discard (parameters read)
  discard (conditions read)
  inside '\x7b' (listed (variant read))

/-! ## Items that hold others -/

/-- Reads items of a kind in braces, behind attributes of what they stand in. -/
def members {α : Type} (member : Reading α) : Reading Unit :=
  inside '\x7b' do
    innerAttributes read
    toEnd do
      discard (attributes read)
      member

/-- May the use of a template start here, where an item is due? -/
def startsUse (trees : Trees) : Bool :=
  trees.startsName || trees.startsWord ["self", "super", "crate"] || trees.starts "::"

/-- Reads the use of a template as an item: without braces a semicolon follows it. -/
def useItem (mayName : Bool) : Reading Unit := do
  if !startsUse (← get) then failure
  namesPath
  marks "!"
  if mayName then
    discard (maybe (fun trees => trees.startsName || trees.startsWord ["try"]) anyWord)
  if (← group) ≠ '\x7b' then marks ";"

/-- Reads an item of a trait. -/
def traitMember : Reading Unit := do
  let isVisible ← visibility
  let isDefault ← maybeWord "default"
  let trees ← get
  if startsFunction false trees then discard (functionItem read false)
  else if trees.startsWord ["const"] then discard (constantItem read)
  else if trees.startsWord ["type"] then typeItem read false true
  else
    if isVisible || isDefault then failure
    useItem false

/-- Reads an item of an implementation. -/
def implementationMember : Reading Unit := do
  let isVisible ← visibility
  let isDefault ← maybe (fun trees => trees.startsWord ["default"] && !trees.later.starts "!")
    (word "default")
  let trees ← get
  if startsFunction false trees then discard (functionItem read false)
  else if trees.startsWord ["const"] then discard (constantItem read)
  else if trees.startsWord ["type"] then typeItem read false true
  else
    if isVisible || isDefault then failure
    useItem false

/-- Reads an item of a library in another language. -/
def foreignMember : Reading Unit := do
  let isVisible ← visibility
  let trees ← get
  if startsFunction true trees then discard (functionItem read true)
  else if trees.startsWord ["static"]
      || trees.startsWord ["unsafe", "safe"] && trees.later.startsWord ["static"] then
    if !trees.startsWord ["static"] then discard anyWord
    word "static"
    discard (maybeWord "mut")
    discard name
    marks ":"
    discard (read (.type true))
    discard (maybeValue read)
    marks ";"
  else if trees.startsWord ["type"] then typeItem read true true
  else
    if isVisible then failure
    useItem false

/-- Reads the items of a library in another language. -/
def foreignItem : Reading Unit := do
  discard (maybeWord "unsafe")
  linkage
  members read (foreignMember read)

/-- Reads a module, whose items may stand elsewhere. -/
def moduleItem : Reading Unit := do
  discard (maybeWord "unsafe")
  word "mod"
  discard (nameOr ["try"])
  if !(← maybeMarks ";") then members read (read .item)

/-- Reads a trait, or a name for several of them. -/
def traitItem : Reading Unit := do
  let isUnsafe ← maybeWord "unsafe"
  let isAutomatic ← maybeWord "auto"
  word "trait"
  discard name
  discard (parameters read)
  if !isUnsafe && !isAutomatic && (← get).starts "=" then
    marks "="
    separated '+' (fun trees => trees.startsWord ["where"] || trees.starts ";")
      (bound read false false)
    discard (conditions read)
    marks ";"
  else
    if ← maybeMarks ":" then
      bounds read fun trees => trees.startsWord ["where"] || trees.startsGroup '\x7b'
    discard (conditions read)
    members read (traitMember read)

/-- Reads an implementation, of a trait for a type or of a type alone.  Only of a trait may be said
that a type has none. -/
def implementationItem : Reading Unit := do
  discard (maybeWord "default")
  discard (maybeWord "unsafe")
  word "impl"
  if (← get).startsParameters then discard (parameters read)
  let trees ← get
  if trees.startsWord ["const"] || trees.starts "?" && trees.later.startsWord ["const"] then
    discard (maybeMarks "?")
    word "const"
  let isNegative ← maybe (fun trees => trees.starts "!" && !trees.later.startsGroup '\x7b')
    (marks "!")
  discard (read (.type true))
  if ← maybeWord "for" then discard (read (.type true))
  else if isNegative then failure
  discard (conditions read)
  members read (implementationMember read)

/-- Reads the definition of a template. -/
def templateItem : Reading Unit := do
  word "macro"
  discard name
  discard (maybe (Trees.startsGroup '(') group)
  groupIn '\x7b'

/-- Reads an item, behind its attributes. -/
def itemRule : Reading Form := do
  let isVisible ← visibility
  let trees ← get
  let second := trees.later
  if startsFunction false trees then functionItem read false
  else if trees.startsWord ["const"] then constantItem read
  else if trees.startsWord ["struct"] then structureItem read
  else
    if trees.startsWord ["extern"] && second.startsWord ["crate"] then programItem
    else if trees.startsWord ["extern"] || trees.startsWord ["unsafe"]
        && second.startsWord ["extern"] then
      if isVisible then failure
      foreignItem read
    else if trees.startsWord ["use"] then importItem read
    else if trees.startsWord ["static"] then variableItem read
    else if trees.startsWord ["mod"]
        || trees.startsWord ["unsafe"] && second.startsWord ["mod"] then
      moduleItem read
    else if trees.startsWord ["type"] then typeItem read true false
    else if trees.startsWord ["enum"] then enumerationItem read
    else if trees.startsWord ["union"] && second.startsName then unionItem read
    else if trees.startsWord ["trait"] || trees.startsWord ["auto"] && second.startsWord ["trait"]
        || trees.startsWord ["unsafe"] && second.startsWord ["trait"]
        || trees.startsWord ["unsafe"] && second.startsWord ["auto"]
          && second.later.startsWord ["trait"] then
      traitItem read
    else if trees.startsWord ["impl"] || trees.startsWord ["unsafe"] && second.startsWord ["impl"]
        || trees.startsWord ["default"] && !second.starts "!" then
      implementationItem read
    else if trees.startsWord ["macro"] then templateItem
    else
      if isVisible then failure
      useItem true
    return .plain

end TypedStyle.Code
