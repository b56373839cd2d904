import Mathlib.Data.List.Basic
import TypedStyle.Artifact.Check
import TypedStyle.Proofs.Naming
import TypedStyle.Proofs.Text.Unquoting
/-!
# What artifacts list

Each definition in an artifact begins with a line of its own, which starts with `pub`.  Where no
name has a blank in it, these lines can be cut into words, and the definitions are read back.

* `propertyListing?`, `keywordListing?`, `setterListing?` — what is read from the artifacts;
* `constant?_constantWords`, `type?_typeWords`, `setter?_setterWords` — what is read from lines.
-/

namespace TypedStyle.Artifact

/-! ## Reading lines -/

/-- What a line says that defines a constant: its name, its type and the text in its literal. -/
structure Constant where
  name : Text
  type : Text
  text : Text
  deriving DecidableEq, Repr

/-- What a block says that defines a setter: its name, the type it takes and what it sets. -/
structure Setter where
  name : Text
  type : Text
  constant : Text
  deriving DecidableEq, Repr

/-- The text in the literal that something is called with. -/
def argument? (callee value : Text) : Option Text := do
  let literal ← value.dropPrefix? (callee ++ "(")
  let (text, behind) ← Text.unquote? literal
  if behind = ");" then some text else none

/-- Reads the line of a constant.  Its value is a call, of what the type tells. -/
def constant? (callee : Text → Text) (line : Text) : Option Constant :=
  match Text.splitOn ' ' line with
  | [_, _, name, type, equals, value] => do
    let name ← name.dropSuffix? ":"
    let text ← argument? (callee type) value
    if equals = "=" then some ⟨name, type, text⟩ else none
  | _ => none

/-- Reads the line of a type. -/
def type? (line : Text) : Option Text :=
  match Text.splitOn ' ' line with
  | [_, _, name, str] => if str = "str);" then name.dropSuffix? "(&'static" else none
  | _ => none

/-- Reads the lines of a setter. -/
def setter? (line call closing : Text) : Option Setter :=
  match Text.splitOn ' ' line, Text.splitOn ' ' call with
  | [_, _, name, type, arrow, result, opening], [[], [], [], [], constant, value] => do
    let name ← name.dropSuffix? "(v:"
    let type ← type.dropSuffix? ")"
    let constant ← constant.dropPrefix? "set("
    let constant ← constant.dropSuffix? ","
    if arrow = "->" ∧ result = "Decl" ∧ opening = "\x7b" ∧ value = "Keyword::new(v.as_str()))" ∧
      closing = "\x7d" then some ⟨name, type, constant⟩ else none
  | _, _ => none

/-- The properties that the artifact of the properties lists. -/
def propertyListing? (t : Text) : Option (List Constant) :=
  ((Text.splitOn '\n' t).filter fun line => (Text.ofString "pub const ").isPrefixOf line).mapM
    (constant? fun _ => "Property::new")

/-- The constants in front of the first type, and each type with the constants behind it. -/
def typeGroups? : List Text → Option (List Constant × List (Text × List Constant))
  | [] => some ([], [])
  | line :: rest => do
    let (loose, types) ← typeGroups? rest
    if (Text.ofString "pub struct ").isPrefixOf line then
      let type ← type? line
      some ([], (type, loose) :: types)
    else if (Text.ofString "pub const ").isPrefixOf line then
      let constant ← constant? id line
      some (constant :: loose, types)
    else some (loose, types)

/-- The types that the artifact of the keywords lists, each with its keywords. -/
def keywordListing? (t : Text) : Option (List (Text × List Constant)) :=
  match typeGroups? (Text.splitOn '\n' t) with
  | some ([], types) => some types
  | _ => none

/-- The setters in some lines. -/
def setters? : List Text → Option (List Setter)
  | [] => some []
  | line :: rest => do
    let setters ← setters? rest
    if (Text.ofString "pub fn ").isPrefixOf line then
      match rest with
      | call :: closing :: _ =>
        let setter ← setter? line call closing
        some (setter :: setters)
      | _ => none
    else some setters

/-- The setters that the artifact of the setters lists. -/
def setterListing? (t : Text) : Option (List Setter) :=
  setters? (Text.splitOn '\n' t)

variable {artifact : Artifact} {spec : Spec} {property : Property}
  {t u name type text line call : Text} {module timestamp : Text} {lines : List Text}

/-! ## Lines -/

/-- The text is these lines, each to its end. -/
def LinesOf (t : Text) (lines : List Text) : Prop :=
  ∀ rest, Text.splitOn '\n' (t ++ rest) = lines ++ Text.splitOn '\n' rest

/-- The lines of two texts are those of the one and then those of the other. -/
theorem LinesOf.append {others : List Text} (ht : LinesOf t lines) (hu : LinesOf u others) :
    LinesOf (t ++ u) (lines ++ others) := by
  intro rest
  rw [List.append_assoc, ht, hu, List.append_assoc]

/-- The lines of texts in a row are theirs in the same order. -/
theorem LinesOf.flatMap {α : Type} {items : List α} {f : α → Text} {g : α → List Text}
    (h : ∀ item ∈ items, LinesOf (f item) (g item)) :
    LinesOf (items.flatMap f) (items.flatMap g) := by
  induction items with
  | nil => exact fun _ => rfl
  | cons item items ih =>
      obtain ⟨hitem, hitems⟩ := List.forall_mem_cons.mp h
      exact hitem.append (ih hitems)

/-- A text with a line feed behind it has the lines between its line feeds. -/
theorem linesOf_text (t : Text) : LinesOf (t ++ "\n") (Text.splitOn '\n' t) := by
  intro rest
  rw [List.append_assoc]
  exact Text.splitOn_append '\n' t rest

/-- A line with its line feed is that line. -/
theorem linesOf_line (h : '\n' ∉ t) : LinesOf (t ++ "\n") [t] := by
  rw [← Text.splitOn_of_not_mem h]
  exact linesOf_text t

/-- The text of some lines, each to its end. -/
def unlines (lines : List Text) : Text :=
  lines.flatMap fun line => line ++ "\n"

theorem unlines_nil : unlines [] = [] :=
  rfl

theorem unlines_cons (line : Text) (lines : List Text) :
    unlines (line :: lines) = line ++ "\n" ++ unlines lines :=
  rfl

/-- Lines are written one behind the other. -/
theorem unlines_append (lines others : List Text) :
    unlines (lines ++ others) = unlines lines ++ unlines others :=
  List.flatMap_append

/-- Lines are the lines of their text, if none of them has an end of a line in it. -/
theorem linesOf_unlines (h : ∀ line ∈ lines, '\n' ∉ line) : LinesOf (unlines lines) lines := by
  induction lines with
  | nil => exact fun _ => rfl
  | cons line lines ih =>
      obtain ⟨hline, hlines⟩ := List.forall_mem_cons.mp h
      exact (linesOf_line hline).append (ih hlines)

/-- Does a definition begin with the line? -/
def isPublic (line : Text) : Bool :=
  (Text.ofString "pub ").isPrefixOf line

/-- The text goes on without an end of a line or a blank. -/
structure IsUnbroken (t : Text) : Prop where
  blank : ' ' ∉ t
  line : '\n' ∉ t

/-- A text is unbroken exactly when its parts are. -/
theorem isUnbroken_append : IsUnbroken (t ++ u) ↔ IsUnbroken t ∧ IsUnbroken u := by
  constructor
  · rintro ⟨hblank, hline⟩
    simp only [List.mem_append, not_or] at hblank hline
    exact ⟨⟨hblank.1, hline.1⟩, ⟨hblank.2, hline.2⟩⟩
  · rintro ⟨ht, hu⟩
    exact ⟨by simp [ht.blank, hu.blank], by simp [ht.line, hu.line]⟩

/-- Pascal case breaks no text. -/
theorem isUnbroken_pascalCase (h : IsUnbroken t) : IsUnbroken (Naming.pascalCase t) :=
  ⟨fun hmem => h.blank (Naming.mem_of_mem_pascalCase hmem (by decide) (by decide)).1,
    fun hmem => h.line (Naming.mem_of_mem_pascalCase hmem (by decide) (by decide)).1⟩

/-- Neither does quoting it. -/
theorem isUnbroken_quote (h : IsUnbroken t) : IsUnbroken (Text.quote t) := by
  have hpieces : ∀ c ∈ [' ', '\n'], c ∉ Text.ofString "\\0trnu\x7b\x7d" ∧
      Code.isHexDigit c = false ∧ c ≠ '"' := Text.forall_mem_of_all (by decide)
  have hspelled : ∀ c ∈ [' ', '\n'], c ∉ t → c ∉ Text.quote t := by
    intro c hc ht hmem
    obtain ⟨hpiece, hdigit, hquote⟩ := hpieces c hc
    obtain ⟨d, hd, hescape⟩ : ∃ d ∈ t, c ∈ Text.Quoted.escape d := by
      simpa [Text.quote, hquote] using hmem
    rcases Code.mem_escape hescape with rfl | hin | hhex
    · exact ht hd
    · exact hpiece hin
    · rw [hdigit] at hhex
      exact absurd hhex Bool.false_ne_true
  exact ⟨hspelled _ (by decide) h.blank, hspelled _ (by decide) h.line⟩

/-! ## Lines of definitions -/

theorem dropPrefix?_append (t u : Text) : (t ++ u).dropPrefix? t = some u :=
  List.dropPrefix?_append_of_beq u (beq_self_eq_true t)

theorem dropSuffix?_append (t u : Text) : (t ++ u).dropSuffix? u = some t :=
  List.dropSuffix?_eq_some_iff.mpr ⟨u, rfl, beq_self_eq_true u⟩

/-- The argument of a call can be read from the line that makes it. -/
theorem argument?_call (callee text : Text) :
    argument? callee (callee ++ "(" ++ Text.quote text ++ ");") = some text := by
  rw [argument?, List.append_assoc (callee ++ Text.ofString "("), dropPrefix?_append]
  show (Text.unquote? (Text.quote text ++ ");")).bind _ = _
  rw [Text.unquote?_quote]
  rfl

/-- The words of a line that defines a constant. -/
def constantWords (name type callee text : Text) : List Text :=
  ["pub", "const", name ++ ":", type, "=", callee ++ "(" ++ Text.quote text ++ ");"]

/-- **A line that defines a constant is read back.** -/
theorem constant?_constantWords {callee : Text → Text} (hname : IsUnbroken name)
    (htype : IsUnbroken type) (hcallee : IsUnbroken (callee type)) (htext : IsUnbroken text) :
    constant? callee (List.intercalate [' '] (constantWords name type (callee type) text)) =
      some ⟨name, type, text⟩ := by
  have hwords : ∀ word ∈ constantWords name type (callee type) text, ' ' ∉ word := by
    have hquote := (isUnbroken_quote htext).blank
    simp [constantWords, Text.ofString, hname.blank, htype.blank, hcallee.blank, hquote]
  rw [constant?, Text.splitOn_intercalate (by simp [constantWords]) hwords, constantWords]
  show ((name ++ ":").dropSuffix? ":").bind _ = _
  rw [dropSuffix?_append]
  show (argument? (callee type) _).bind _ = _
  rw [argument?_call]
  rfl

/-- The words of a line that defines a type. -/
def typeWords (type : Text) : List Text :=
  ["pub", "struct", type ++ "(&'static", "str);"]

/-- **A line that defines a type is read back.** -/
theorem type?_typeWords (htype : IsUnbroken type) :
    type? (List.intercalate [' '] (typeWords type)) = some type := by
  have hwords : ∀ word ∈ typeWords type, ' ' ∉ word := by
    simp [typeWords, Text.ofString, htype.blank]
  rw [type?, Text.splitOn_intercalate (by simp [typeWords]) hwords]
  exact dropSuffix?_append type _

/-- The words of the line that declares a setter. -/
def setterWords (name type : Text) : List Text :=
  ["pub", "fn", name ++ "(v:", type ++ ")", "->", "Decl", "\x7b"]

/-- The words of the only line in its body. -/
def callWords (constant : Text) : List Text :=
  [[], [], [], [], "set(" ++ constant ++ ",", "Keyword::new(v.as_str()))"]

/-- **The lines of a setter are read back.** -/
theorem setter?_setterWords {constant : Text} (hname : IsUnbroken name) (htype : IsUnbroken type)
    (hconstant : IsUnbroken constant) :
    setter? (List.intercalate [' '] (setterWords name type))
      (List.intercalate [' '] (callWords constant)) "\x7d" = some ⟨name, type, constant⟩ := by
  have hline : ∀ word ∈ setterWords name type, ' ' ∉ word := by
    simp [setterWords, Text.ofString, hname.blank, htype.blank]
  have hcall : ∀ word ∈ callWords constant, ' ' ∉ word := by
    simp [callWords, Text.ofString, hconstant.blank]
  rw [setter?, Text.splitOn_intercalate (by simp [setterWords]) hline,
    Text.splitOn_intercalate (by simp [callWords]) hcall]
  show ((name ++ "(v:").dropSuffix? "(v:").bind _ = _
  rw [dropSuffix?_append]
  show ((type ++ ")").dropSuffix? ")").bind _ = _
  rw [dropSuffix?_append]
  show (("set(" ++ constant ++ ",").dropPrefix? "set(").bind _ = _
  rw [List.append_assoc, dropPrefix?_append]
  show ((constant ++ ",").dropSuffix? ",").bind _ = _
  rw [dropSuffix?_append]
  rfl

end TypedStyle.Artifact
