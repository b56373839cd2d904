import TypedStyle.Code.Part
/-!
# Attributes and blocks

An attribute stands between square brackets behind `#`, in front of what it belongs to, or behind
`#!`, inside it.  It is a path of names, which a group or a value may follow.  A block is a list of
statements in braces.

* `attributes_of_not_starts` — where no attribute starts, none is taken.
-/

namespace TypedStyle.Code

open Reading

/-- Reads a path of names without arguments. -/
def namesPath : Reading Unit := do
  let name := nameOr ["super", "self", "Self", "crate"]
  discard (maybeMarks "::")
  discard name
  loopWhile (Trees.starts "::") do
    marks "::"
    discard name

variable (read : Reader)

/-- Reads what stands between the brackets of an attribute. -/
def attributeContent : Reading Unit := do
  if (← get).startsWord ["unsafe"] then word "unsafe" else namesPath
  match ← get with
  | .group _ _ :: _ => discard group
  | trees =>
    if trees.starts "=" then
      marks "="
      let trees ← get
      if trees.starts "#" && trees.later.startsGroup '[' then failure
      discard (read (.expression true))

/-- Reads attributes, and tells whether there are any. -/
def attributes : Reading Bool :=
  maybe (Trees.starts "#") <| loopWhile (Trees.starts "#") do
    marks "#"
    inside '[' (attributeContent read)

/-- Reads the attributes of what they stand in. -/
def innerAttributes : Reading Unit :=
  loopWhile (fun trees => trees.starts "#" && trees.later.starts "!") do
    marks "#"
    marks "!"
    inside '[' (attributeContent read)

/-- Reads a block that has no attributes inside. -/
def block : Reading Unit :=
  inside '\x7b' do
    discard (read .statements)

/-- Reads a block that may have attributes inside. -/
def blockWithAttributes : Reading Unit :=
  inside '\x7b' do
    innerAttributes read
    discard (read .statements)

/-- Where no mark of an attribute stands, there are no attributes. -/
theorem attributes_of_not_starts {trees : Trees} (h : trees.starts "#" = false) :
    attributes read trees = some (false, trees) := by
  simp [attributes, maybe, h]

end TypedStyle.Code
