import Mathlib.Data.List.Basic
import TypedStyle.Sheet.Printer
/-!
# One printer for both forms of a sheet

The two forms of a sheet have the same marks, an opening and a closing brace and a semicolon, in the
same order, but for the semicolon behind the last declaration of a rule.  They differ in the blanks
around the marks and in their line feeds, and the line feeds tell a reader nothing that the marks do
not tell.  So both forms are what one printer writes, with a layout that says where the blanks are.

* `minified_eq_written` — the minified form is written without any blanks;
* `unbroken_pretty_eq_written` — without its line feeds, the indented form is written with margins.
-/

namespace TypedStyle

/-! ## Marks -/

/-- What the texts of a sheet end at. -/
inductive Mark where
  | opens
  | closes
  | ends
  deriving DecidableEq, Repr

namespace Mark

/-- The character of a mark. -/
def char : Mark → Char
  | .opens => '\x7b'
  | .closes => '\x7d'
  | .ends => ';'

/-- The mark that a character is. -/
def ofChar? (c : Char) : Option Mark :=
  if c = '\x7b' then some .opens
  else if c = '\x7d' then some .closes
  else if c = ';' then some .ends
  else none

/-- A mark is read back from its character. -/
@[simp] theorem ofChar?_char (mark : Mark) : ofChar? mark.char = some mark := by
  cases mark <;> decide

end Mark

/-- No character of the text is a mark. -/
def Unmarked (t : Text) : Prop :=
  ∀ c ∈ t, Mark.ofChar? c = none

instance (t : Text) : Decidable (Unmarked t) :=
  List.decidableBAll (fun c => Mark.ofChar? c = none) t

/-- Two texts without marks have none in a row either. -/
theorem Unmarked.append {a b : Text} (ha : Unmarked a) (hb : Unmarked b) : Unmarked (a ++ b) :=
  List.forall_mem_append.mpr ⟨ha, hb⟩

/-! ## Sheets that can be read -/

/-- The text fits on a line and has no mark in it. -/
def IsInline (t : Text) : Prop :=
  Unmarked t ∧ '\n' ∉ t

instance (t : Text) : Decidable (IsInline t) :=
  inferInstanceAs (Decidable (Unmarked t ∧ '\n' ∉ t))

/-- The property ends at the first colon. -/
structure Declaration.Legible (declaration : Declaration) : Prop where
  property_inline : IsInline declaration.property
  property_colon : ':' ∉ declaration.property
  value_inline : IsInline declaration.value.text

/-- The texts of the item end at its marks, rules are told from at-rules by their first character,
and the name of an at-rule ends at the first space. -/
inductive Item.Legible : Item → Prop
  | rule {selector : Text} {declarations : List Declaration} (selector_inline : IsInline selector)
      (selector_at : selector.head? ≠ some '@')
      (declarations_legible : ∀ declaration ∈ declarations, declaration.Legible) :
      Legible (.rule selector declarations)
  | atRule {name params : Text} {body : List Item} (name_inline : IsInline name)
      (name_space : ' ' ∉ name) (params_inline : IsInline params)
      (body_legible : ∀ item ∈ body, Legible item) :
      Legible (.atRule name params body)

/-- Every item of the sheet is legible. -/
def StyleSheet.Legible (sheet : StyleSheet) : Prop :=
  ∀ item ∈ sheet.items, item.Legible

/-! ## Layouts -/

/-- Where the blanks of a form are: in front of each part at a depth of nesting, and in front of an
opening brace and behind a colon.  If there are margins, all declarations end with a semicolon, and
otherwise all but the last one of a rule. -/
structure Layout where
  margin : Nat → Text
  gap : Text
  endsLast : Bool
  unmarked_margin : ∀ depth, Unmarked (margin depth)
  unmarked_gap : Unmarked gap
  margin_eq_nil : endsLast = false → ∀ depth, margin depth = []

namespace Layout

/-- The layout of the minified form. -/
def minified : Layout where
  margin _ := []
  gap := []
  endsLast := false
  unmarked_margin _ := by decide
  unmarked_gap := by decide
  margin_eq_nil _ _ := rfl

/-- The layout of the indented form. -/
def pretty : Layout where
  margin := Item.margin
  gap := [' ']
  endsLast := true
  unmarked_margin depth c hc := by rw [List.eq_of_mem_replicate hc]; decide
  unmarked_gap := by decide
  margin_eq_nil := nofun

variable (layout : Layout)

/-- A declaration at some depth of nesting, as it is written. -/
def declaration (depth : Nat) (declaration : Declaration) : Text :=
  layout.margin (depth + 1) ++ declaration.property ++ ':' :: layout.gap ++ declaration.value.text

/-- The declarations of a rule at some depth of nesting, as they are written. -/
def declarations (depth : Nat) : List Declaration → Text
  | [] => []
  | [last] => layout.declaration depth last ++ Text.onlyIf layout.endsLast [Mark.ends.char]
  | first :: rest => layout.declaration depth first ++ Mark.ends.char :: declarations depth rest

/-- Something that is opened and closed at some depth of nesting, with what is inside. -/
def block (depth : Nat) (head inside : Text) : Text :=
  layout.margin depth ++ head ++ layout.gap ++ Mark.opens.char :: inside ++ layout.margin depth
    ++ [Mark.closes.char]

mutual

/-- An item at some depth of nesting, as it is written. -/
def item (depth : Nat) : Item → Text
  | .rule selector declarations =>
    if declarations.isEmpty then []
    else layout.block depth selector (layout.declarations depth declarations)
  | .atRule name params items =>
    if items.isEmpty then layout.margin depth ++ Item.head name params ++ [Mark.ends.char]
    else layout.block depth (Item.head name params) (body (depth + 1) items)

/-- Items at some depth of nesting, as they are written. -/
def body (depth : Nat) : List Item → Text
  | [] => []
  | first :: rest => item depth first ++ body depth rest

end

/-- The items of a body stand one behind the other. -/
theorem body_eq_flatten (depth : Nat) (items : List Item) :
    layout.body depth items = (items.map (layout.item depth)).flatten := by
  induction items with
  | nil => rw [body]; rfl
  | cons first rest ih => rw [body, ih, List.map_cons, List.flatten_cons]

/-- A sheet as it is written. -/
def sheet (sheet : StyleSheet) : Text :=
  layout.body 0 sheet.items

end Layout

/-! ## The minified form -/

/-- In the minified layout declarations are joined by semicolons. -/
theorem Layout.declarations_minified (depth : Nat) (declarations : List Declaration) :
    Layout.minified.declarations depth declarations =
      Text.join ";" (declarations.map Item.minifiedDeclaration) := by
  have hone : ∀ declaration : Declaration,
      Layout.minified.declaration depth declaration = Item.minifiedDeclaration declaration := by
    intro declaration
    simp [Layout.declaration, Layout.minified, Item.minifiedDeclaration]
  fun_induction Layout.declarations Layout.minified depth declarations with
  | case1 => rfl
  | case2 last =>
    rw [hone]
    simp [Text.onlyIf, Text.join, List.intercalate, Layout.minified]
  | case3 first rest hrest ih =>
    obtain ⟨second, more, rfl⟩ := List.exists_cons_of_ne_nil hrest
    rw [ih, hone]
    simp [Text.join, List.intercalate, Text.ofString, Mark.char]

mutual

/-- A minified item is written without blanks, at any depth. -/
theorem Item.minified_eq (depth : Nat) :
    ∀ item : Item, item.minified = Layout.minified.item depth item
  | .rule selector declarations => by
    rw [minified, Layout.item, Layout.declarations_minified]
    split
    · rfl
    · simp [Layout.block, Layout.minified, Mark.char, Text.ofString]
  | .atRule name params body => by
    rw [minified, Layout.item, minifiedBody_eq (depth + 1) body]
    split
    · simp [Layout.minified, Mark.char, Text.ofString]
    · simp [Layout.block, Layout.minified, Mark.char, Text.ofString]

/-- Minified items are written without blanks, at any depth. -/
theorem Item.minifiedBody_eq (depth : Nat) :
    ∀ items : List Item, Item.minifiedBody items = Layout.minified.body depth items
  | [] => by rw [minifiedBody, Layout.body]
  | first :: rest => by
    rw [minifiedBody, Layout.body, minified_eq depth first, minifiedBody_eq depth rest]

end

/-- **The minified form of a sheet is written without any blanks.** -/
theorem StyleSheet.minified_eq_written (sheet : StyleSheet) :
    sheet.minified = Layout.minified.sheet sheet := by
  rw [minified, Layout.sheet, Layout.body_eq_flatten, List.flatMap_def]
  exact congrArg List.flatten (List.map_congr_left fun item _ => item.minified_eq 0)

/-! ## The indented form -/

/-- The text without its line feeds. -/
def Text.unbroken (t : Text) : Text :=
  t.filter fun c => decide (c ≠ '\n')

namespace Text

/-- Line feeds are left out of each part of a text. -/
@[simp] theorem unbroken_append (a b : Text) : unbroken (a ++ b) = unbroken a ++ unbroken b :=
  List.filter_append a b

/-- Where there are none, nothing is left out. -/
theorem unbroken_eq_self {t : Text} (h : '\n' ∉ t) : unbroken t = t := by
  refine List.filter_eq_self.mpr fun c hc => decide_eq_true ?_
  rintro rfl
  exact h hc

/-- So a margin stays as it is. -/
theorem unbroken_margin (depth : Nat) : unbroken (Item.margin depth) = Item.margin depth := by
  refine unbroken_eq_self fun hmem => ?_
  exact absurd (List.eq_of_mem_replicate hmem) (by decide)

/-- Nothing is left of separators that are line feeds. -/
theorem unbroken_join {separator : Text} (h : unbroken separator = []) (texts : List Text) :
    unbroken (join separator texts) = (texts.map unbroken).flatten := by
  induction texts with
  | nil => rfl
  | cons first rest ih =>
    cases rest with
    | nil => simp [join, List.intercalate]
    | cons second more =>
      have hcons : join separator (first :: second :: more) =
          first ++ separator ++ join separator (second :: more) := by
        simp [join, List.intercalate]
      rw [hcons, unbroken_append, unbroken_append, h, ih, List.append_nil]
      rfl

end Text

/-- A legible declaration has no line feed. -/
theorem Declaration.Legible.unbroken_text {declaration : Declaration} (h : declaration.Legible) :
    Text.unbroken declaration.text = declaration.text := by
  refine Text.unbroken_eq_self ?_
  simp [text, h.property_inline.2, h.value_inline.2, Text.ofString]

/-- Each line of a declaration is the declaration with its margin and a semicolon. -/
theorem Layout.unbroken_declarationLine (depth : Nat) {declaration : Declaration}
    (h : declaration.Legible) :
    Text.unbroken (Item.declarationLine depth declaration) =
      Layout.pretty.declaration depth declaration ++ [Mark.ends.char] := by
  have hend : Text.unbroken (Text.ofString ";\n") = [Mark.ends.char] := by decide
  rw [Item.declarationLine, Text.unbroken_append, Text.unbroken_append, Text.unbroken_margin,
    h.unbroken_text, hend]
  simp [Layout.declaration, Layout.pretty, Declaration.text, Text.ofString]

/-- Without their line feeds, the lines of declarations are the declarations in the indented
layout. -/
theorem Layout.unbroken_declarationLines (depth : Nat) {declarations : List Declaration}
    (h : ∀ declaration ∈ declarations, declaration.Legible) :
    Text.unbroken (declarations.flatMap (Item.declarationLine depth)) =
      Layout.pretty.declarations depth declarations := by
  fun_induction Layout.declarations Layout.pretty depth declarations with
  | case1 => rfl
  | case2 last =>
    rw [List.flatMap_cons, List.flatMap_nil, List.append_nil,
      unbroken_declarationLine depth (h last List.mem_cons_self)]
    rfl
  | case3 first rest _ ih =>
    rw [List.flatMap_cons, Text.unbroken_append,
      unbroken_declarationLine depth (h first List.mem_cons_self),
      ih fun declaration hmem => h declaration (List.mem_cons_of_mem _ hmem), List.append_assoc]
    rfl

/-- The name of an at-rule and what follows it have no line feed. -/
theorem Item.unbroken_head {name params : Text} (hname : IsInline name)
    (hparams : IsInline params) :
    Text.unbroken (Item.head name params) = Item.head name params := by
  refine Text.unbroken_eq_self ?_
  unfold Item.head
  split <;> simp [hname.2, hparams.2]

/-- The indented form of items is made of those of each item, and line feeds. -/
theorem Layout.unbroken_prettyBody {depth : Nat} {items : List Item}
    (h : ∀ item ∈ items, ∀ depth,
      Text.unbroken (item.pretty depth) = Layout.pretty.item depth item) :
    Text.unbroken (Item.prettyBody depth items) = Layout.pretty.body depth items := by
  induction items with
  | nil => rw [Item.prettyBody, Layout.body]; rfl
  | cons first rest ih =>
    have hfeed : ∀ t : Text, Text.unbroken ('\n' :: t) = Text.unbroken t := fun _ => rfl
    rw [Item.prettyBody, Layout.body, Text.unbroken_append, hfeed, h first List.mem_cons_self,
      ih fun item hmem => h item (List.mem_cons_of_mem _ hmem)]

/-- Without its line feeds, an indented item is written with margins. -/
theorem Item.Legible.unbroken_pretty {item : Item} (h : item.Legible) (depth : Nat) :
    Text.unbroken (item.pretty depth) = Layout.pretty.item depth item := by
  have hopen : Text.unbroken (Text.ofString " \x7b\n") = [' ', Mark.opens.char] := by decide
  have hclose : Text.unbroken (Text.ofString "\x7d") = [Mark.closes.char] := by decide
  have hend : Text.unbroken (Text.ofString ";") = [Mark.ends.char] := by decide
  induction h generalizing depth with
  | @rule selector declarations hselector _ hdeclarations =>
    rw [Item.pretty, Layout.item]
    split
    · rfl
    · simp only [Text.unbroken_append, Text.unbroken_margin,
        Text.unbroken_eq_self hselector.2, hopen, hclose,
        Layout.unbroken_declarationLines depth hdeclarations]
      simp [Layout.block, Layout.pretty]
  | @atRule name params body hname _ hparams _ ih =>
    rw [Item.pretty, Layout.item]
    split
    · simp only [Text.unbroken_append, Text.unbroken_margin, Item.unbroken_head hname hparams, hend]
      rfl
    · simp only [Text.unbroken_append, Text.unbroken_margin, Item.unbroken_head hname hparams,
        hopen, hclose, Layout.unbroken_prettyBody ih]
      simp [Layout.block, Layout.pretty]

/-- **Without its line feeds, the indented form of a sheet is written with margins.** -/
theorem StyleSheet.unbroken_pretty_eq_written {sheet : StyleSheet} (h : sheet.Legible) :
    Text.unbroken sheet.pretty = Layout.pretty.sheet sheet := by
  have hmap : sheet.items.map (fun item => Text.unbroken (item.pretty 0)) =
      sheet.items.map (Layout.pretty.item 0) :=
    List.map_congr_left fun item hmem => (h item hmem).unbroken_pretty 0
  rw [pretty, Text.unbroken_join (by decide), List.map_map, Layout.sheet, Layout.body_eq_flatten]
  exact congrArg List.flatten hmap

end TypedStyle
