import Mathlib.Data.List.TakeWhile
import TypedStyle.Proofs.Sheet.Layout
import TypedStyle.Proofs.Text.Splitting
/-!
# Written sheets are read back

A written sheet is read from mark to mark.  The reader keeps what it has read of the items that are
still open: the at-rules with the items in front of them, the items of the innermost body, and a
rule with its declarations, if one is open.  One reader serves both forms, given the layout; for the
indented form the line feeds are left out first.  Which kind of value a declaration has is not
written, so all values that are read are raw.

* `follow_mark` — what the reader makes of a part and the mark behind it;
* `follow_item` — a written item leads from any draft to the draft with this item more, or to the
  same one if the item is a rule without declarations;
* `read?_written` — both forms of a sheet are read as the sheet without such rules.
-/

namespace TypedStyle

/-! ## What is left of a sheet -/

/-- The declaration with its value as it is written, of whatever kind it is. -/
def Declaration.plain (declaration : Declaration) : Declaration :=
  ⟨declaration.property, Value.raw declaration.value.text⟩

namespace Item

mutual

/-- The item with plain declarations. -/
def plain : Item → Item
  | .rule selector declarations => .rule selector (declarations.map Declaration.plain)
  | .atRule name params body => .atRule name params (plainBody body)

/-- Items with plain declarations. -/
def plainBody : List Item → List Item
  | [] => []
  | first :: rest => plain first :: plainBody rest

end

mutual

/-- What is left of an item without the rules that declare nothing: nothing of such a rule itself,
and all of any other item, but for such rules in its body. -/
def kept : Item → List Item
  | .rule selector declarations =>
    if declarations.isEmpty then [] else [.rule selector declarations]
  | .atRule name params body => [.atRule name params (keptBody body)]

/-- What is left of some items. -/
def keptBody : List Item → List Item
  | [] => []
  | first :: rest => kept first ++ keptBody rest

end

/-- What is left of items in a row is what is left of the one and then of the other. -/
theorem plainBody_append (front back : List Item) :
    plainBody (front ++ back) = plainBody front ++ plainBody back := by
  induction front with
  | nil => rw [List.nil_append, plainBody, List.nil_append]
  | cons first rest ih => rw [List.cons_append, plainBody, plainBody, ih, List.cons_append]

end Item

namespace StyleSheet

/-- The sheet with plain declarations. -/
def plain (sheet : StyleSheet) : StyleSheet :=
  ⟨Item.plainBody sheet.items⟩

/-- The sheet without the rules that declare nothing, at any depth of nesting. -/
def withoutEmptyRules (sheet : StyleSheet) : StyleSheet :=
  ⟨Item.keptBody sheet.items⟩

end StyleSheet

/-! ## From mark to mark -/

/-- The parts of a text that a mark stands behind, with their marks. -/
def Mark.parts : Text → List (Text × Mark)
  | [] => []
  | c :: rest =>
    match Mark.ofChar? c with
    | some mark => ([], mark) :: parts rest
    | none =>
      match parts rest with
      | [] => []
      | (part, mark) :: more => (c :: part, mark) :: more

/-- A text without marks is the part in front of the next mark. -/
theorem Mark.parts_append {part : Text} (h : Unmarked part) (mark : Mark) (rest : Text) :
    parts (part ++ mark.char :: rest) = (part, mark) :: parts rest := by
  induction part with
  | nil => simp [parts]
  | cons c part ih =>
    obtain ⟨hc, hpart⟩ := List.forall_mem_cons.mp h
    rw [List.cons_append, parts, hc, ih hpart]

/-- The name of an at-rule and what follows it, if the text begins like an at-rule. -/
def readHead? : Text → Option (Text × Text)
  | '@' :: rest => some (rest.takeWhile (· ≠ ' '), (rest.dropWhile (· ≠ ' ')).drop 1)
  | _ => none

/-- The head of an at-rule is read back, if its name has no space. -/
theorem readHead?_head {name params : Text} (h : ' ' ∉ name) :
    readHead? (Item.head name params) = some (name, params) := by
  cases params with
  | nil =>
    have hname := Text.forall_ne_of_notMem h
    have hhead : Item.head name [] = '@' :: name := by simp [Item.head]
    rw [hhead, readHead?, List.takeWhile_eq_self_iff.mpr hname, List.dropWhile_eq_nil_iff.mpr hname]
    rfl
  | cons c params =>
    have hhead : Item.head name (c :: params) = '@' :: (name ++ ' ' :: c :: params) := by
      simp [Item.head]
    rw [hhead, readHead?, Text.takeWhile_ne_append h, Text.dropWhile_ne_append h]
    rfl

/-- It has no mark in it if its name and what follows it have none. -/
theorem unmarked_head {name params : Text} (hname : Unmarked name) (hparams : Unmarked params) :
    Unmarked (Item.head name params) := by
  have hat : Unmarked ('@' :: name) := List.forall_mem_cons.mpr ⟨by decide, hname⟩
  unfold Item.head
  split
  · simpa using hat
  · exact hat.append (List.forall_mem_cons.mpr ⟨by decide, hparams⟩)

/-- A text that does not begin with its character is no head of an at-rule. -/
theorem readHead?_eq_none {t : Text} (h : t.head? ≠ some '@') : readHead? t = none := by
  unfold readHead?
  split
  · exact absurd rfl h
  · rfl

/-! ## The reader -/

/-- An at-rule that is still open, and the items in front of it. -/
structure OpenAtRule where
  name : Text
  params : Text
  before : List Item

/-- What has been read of a sheet: the at-rules that are open, the innermost one first, the items of
its body, and the selector and the declarations of the rule that is open, if one is. -/
structure Draft where
  outer : List OpenAtRule
  items : List Item
  rule : Option (Text × List Declaration)

namespace Layout

variable (layout : Layout)

/-- A part without the margin in front of it. -/
def withoutMargin (depth : Nat) (part : Text) : Text :=
  part.drop (layout.margin depth).length

/-- What stands between the margin and the gap in front of an opening brace. -/
def readOpening (depth : Nat) (part : Text) : Text :=
  let opening := layout.withoutMargin depth part
  opening.take (opening.length - layout.gap.length)

/-- The declaration that a part is. -/
def readDeclaration (depth : Nat) (part : Text) : Declaration :=
  let declaration := layout.withoutMargin (depth + 1) part
  ⟨declaration.takeWhile (· ≠ ':'),
   Value.raw ((declaration.dropWhile (· ≠ ':')).drop (1 + layout.gap.length))⟩

/-- What the reader makes of a part and the mark behind it. -/
def step (draft : Draft) (part : Text) (mark : Mark) : Option Draft :=
  let depth := draft.outer.length
  match draft.rule, mark with
  | none, .opens =>
    match readHead? (layout.readOpening depth part) with
    | some (name, params) => some ⟨⟨name, params, draft.items⟩ :: draft.outer, [], none⟩
    | none => some { draft with rule := some (layout.readOpening depth part, []) }
  | none, .ends =>
    (readHead? (layout.withoutMargin depth part)).map fun (name, params) =>
      { draft with items := draft.items ++ [.atRule name params []] }
  | none, .closes =>
    match draft.outer with
    | [] => none
    | ⟨name, params, before⟩ :: outer =>
      some ⟨outer, before ++ [.atRule name params draft.items], none⟩
  | some _, .opens => none
  | some (selector, declarations), .ends =>
    some { draft with
      rule := some (selector, declarations ++ [layout.readDeclaration depth part]) }
  | some (selector, declarations), .closes =>
    let declarations :=
      if layout.endsLast then declarations
      else declarations ++ [layout.readDeclaration depth part]
    some ⟨draft.outer, draft.items ++ [.rule selector declarations], none⟩

/-- The draft behind a text. -/
def follow (draft : Draft) (t : Text) : Option Draft :=
  (Mark.parts t).foldlM (fun draft (part, mark) => layout.step draft part mark) draft

/-- The sheet that a text is, if nothing is open at its end. -/
def read? (t : Text) : Option StyleSheet :=
  match layout.follow ⟨[], [], none⟩ t with
  | some ⟨[], items, none⟩ => some ⟨items⟩
  | _ => none

end Layout

/-- The sheet that a minified text is. -/
def StyleSheet.ofMinified? (t : Text) : Option StyleSheet :=
  Layout.minified.read? t

/-- The sheet that an indented text is. -/
def StyleSheet.ofPretty? (t : Text) : Option StyleSheet :=
  Layout.pretty.read? t.unbroken

/-! ## Part by part -/

namespace Layout

variable (layout : Layout) {depth : Nat}

/-- The reader goes on from the draft behind a part and its mark. -/
theorem follow_mark {part : Text} (h : Unmarked part) (draft : Draft) (mark : Mark) (rest : Text) :
    layout.follow draft (part ++ mark.char :: rest) =
      (layout.step draft part mark).bind fun draft => layout.follow draft rest := by
  rw [follow, Mark.parts_append h, List.foldlM_cons]
  rfl

/-- The margin that is written is the one that is taken away. -/
theorem withoutMargin_append (depth : Nat) (t : Text) :
    layout.withoutMargin depth (layout.margin depth ++ t) = t :=
  List.drop_left

/-- So is the gap in front of a brace. -/
theorem readOpening_append (depth : Nat) (t : Text) :
    layout.readOpening depth (layout.margin depth ++ t ++ layout.gap) = t := by
  rw [readOpening, List.append_assoc, withoutMargin_append, List.length_append,
    Nat.add_sub_cancel, List.take_left]

/-- **A declaration is read back**, with a raw value. -/
theorem readDeclaration_declaration {declaration : Declaration} (h : declaration.Legible) :
    layout.readDeclaration depth (layout.declaration depth declaration) = declaration.plain := by
  have hsplit : layout.declaration depth declaration = layout.margin (depth + 1) ++
      (declaration.property ++ ':' :: (layout.gap ++ declaration.value.text)) := by
    simp [Layout.declaration]
  simp only [readDeclaration, hsplit, withoutMargin_append,
    Text.takeWhile_ne_append h.property_colon, Text.dropWhile_ne_append h.property_colon]
  rw [Nat.add_comm 1, List.drop_succ_cons, List.drop_left]
  rfl

/-- A declaration has no mark in it. -/
theorem unmarked_declaration {declaration : Declaration} (h : declaration.Legible) :
    Unmarked (layout.declaration depth declaration) := by
  have hcolon : Unmarked (':' :: layout.gap) :=
    List.forall_mem_cons.mpr ⟨by decide, layout.unmarked_gap⟩
  exact (((layout.unmarked_margin _).append h.property_inline.1).append hcolon).append
    h.value_inline.1

/-- The declarations of an open rule and what closes it are read to its end. -/
theorem follow_declarations {outer : List OpenAtRule} {items : List Item} {selector rest : Text}
    {declarations : List Declaration} (before : List Declaration) (hne : declarations ≠ [])
    (h : ∀ declaration ∈ declarations, declaration.Legible) :
    layout.follow ⟨outer, items, some (selector, before)⟩
        (layout.declarations outer.length declarations
          ++ (layout.margin outer.length ++ Mark.closes.char :: rest)) =
      layout.follow
        ⟨outer, items ++ [.rule selector (before ++ declarations.map Declaration.plain)], none⟩
        rest := by
  fun_induction Layout.declarations layout outer.length declarations generalizing before with
  | case1 => exact absurd rfl hne
  | case2 last =>
    have hlast := h last List.mem_cons_self
    cases hends : layout.endsLast with
    | true =>
      have hsplit : layout.declaration outer.length last ++ Text.onlyIf true [Mark.ends.char]
            ++ (layout.margin outer.length ++ Mark.closes.char :: rest) =
          layout.declaration outer.length last ++ Mark.ends.char ::
            (layout.margin outer.length ++ Mark.closes.char :: rest) := by
        simp [Text.onlyIf]
      rw [hsplit, layout.follow_mark (layout.unmarked_declaration hlast)]
      simp only [step, Option.bind_some, layout.readDeclaration_declaration hlast]
      rw [layout.follow_mark (layout.unmarked_margin _)]
      simp [step, hends]
    | false =>
      have hsplit : layout.declaration outer.length last ++ Text.onlyIf false [Mark.ends.char]
            ++ (layout.margin outer.length ++ Mark.closes.char :: rest) =
          layout.declaration outer.length last ++ Mark.closes.char :: rest := by
        simp [Text.onlyIf, layout.margin_eq_nil hends]
      rw [hsplit, layout.follow_mark (layout.unmarked_declaration hlast)]
      simp [step, hends, layout.readDeclaration_declaration hlast]
  | case3 first others hothers ih =>
    have hfirst := h first List.mem_cons_self
    rw [List.append_assoc, List.cons_append,
      layout.follow_mark (layout.unmarked_declaration hfirst)]
    simp only [step, Option.bind_some, layout.readDeclaration_declaration hfirst]
    rw [ih _ hothers fun declaration hmem => h declaration (List.mem_cons_of_mem _ hmem)]
    simp

/-- An opening brace is read with what stands between the margin and the gap. -/
theorem follow_opening {outer : List OpenAtRule} {items : List Item} {head inside rest : Text}
    (hhead : Unmarked head) :
    layout.follow ⟨outer, items, none⟩ (layout.block outer.length head inside ++ rest) =
      layout.follow
        (match readHead? head with
          | some (name, params) => ⟨⟨name, params, items⟩ :: outer, [], none⟩
          | none => ⟨outer, items, some (head, [])⟩)
        (inside ++ (layout.margin outer.length ++ Mark.closes.char :: rest)) := by
  have hsplit : layout.block outer.length head inside ++ rest =
      (layout.margin outer.length ++ head ++ layout.gap) ++ Mark.opens.char ::
        (inside ++ (layout.margin outer.length ++ Mark.closes.char :: rest)) := by
    simp [block]
  rw [hsplit, layout.follow_mark
    (((layout.unmarked_margin _).append hhead).append layout.unmarked_gap)]
  simp only [step, layout.readOpening_append]
  cases readHead? head <;> rfl

/-- A rule with declarations is read as the rule. -/
theorem follow_rule {outer : List OpenAtRule} {items : List Item} {selector rest : Text}
    {declarations : List Declaration} (hselector : Unmarked selector)
    (hat : selector.head? ≠ some '@') (hne : declarations ≠ [])
    (h : ∀ declaration ∈ declarations, declaration.Legible) :
    layout.follow ⟨outer, items, none⟩
        (layout.block outer.length selector (layout.declarations outer.length declarations)
          ++ rest) =
      layout.follow ⟨outer, items ++ [.rule selector (declarations.map Declaration.plain)], none⟩
        rest := by
  rw [layout.follow_opening hselector, readHead?_eq_none hat]
  exact layout.follow_declarations [] hne h

/-- Items are read one by one. -/
theorem follow_body {body : List Item} {outer : List OpenAtRule} (items : List Item) (rest : Text)
    (h : ∀ item ∈ body, ∀ (items : List Item) (rest : Text),
      layout.follow ⟨outer, items, none⟩ (layout.item outer.length item ++ rest) =
        layout.follow ⟨outer, items ++ Item.plainBody item.kept, none⟩ rest) :
    layout.follow ⟨outer, items, none⟩ (layout.body outer.length body ++ rest) =
      layout.follow ⟨outer, items ++ Item.plainBody (Item.keptBody body), none⟩ rest := by
  induction body generalizing items with
  | nil => simp [Layout.body, Item.keptBody, Item.plainBody]
  | cons first others ih =>
    rw [Layout.body, List.append_assoc, h first List.mem_cons_self,
      ih _ fun item hmem => h item (List.mem_cons_of_mem _ hmem), Item.keptBody,
      Item.plainBody_append, List.append_assoc]

end Layout

/-- **A written item is read as what is left of it**, whatever is open around it.  By induction on
the item, with all drafts and all texts behind it. -/
theorem Item.Legible.follow_item (layout : Layout) {item : Item} (h : item.Legible)
    (outer : List OpenAtRule) (items : List Item) (rest : Text) :
    layout.follow ⟨outer, items, none⟩ (layout.item outer.length item ++ rest) =
      layout.follow ⟨outer, items ++ Item.plainBody item.kept, none⟩ rest := by
  induction h generalizing outer items rest with
  | @rule selector declarations hselector hat hdeclarations =>
    rw [Layout.item, Item.kept]
    split
    · simp [Item.plainBody]
    · next hne =>
      rw [layout.follow_rule hselector.1 hat (by simpa using hne) hdeclarations]
      simp [Item.plainBody, Item.plain]
  | @atRule name params body hname hspace hparams _ ih =>
    have hhead : Unmarked (Item.head name params) := unmarked_head hname.1 hparams.1
    rw [Layout.item, Item.kept]
    split
    · next hempty =>
      obtain rfl : body = [] := by simpa using hempty
      have hsplit :
          layout.margin outer.length ++ Item.head name params ++ [Mark.ends.char] ++ rest =
            (layout.margin outer.length ++ Item.head name params) ++ Mark.ends.char :: rest := by
        simp
      rw [hsplit, layout.follow_mark ((layout.unmarked_margin _).append hhead)]
      simp [Layout.step, layout.withoutMargin_append, readHead?_head hspace, Item.plainBody,
        Item.plain, Item.keptBody]
    · rw [layout.follow_opening hhead, readHead?_head hspace]
      have hbody := layout.follow_body [] (layout.margin outer.length ++ Mark.closes.char :: rest)
        fun item hmem => ih item hmem (⟨name, params, items⟩ :: outer)
      rw [List.length_cons, List.nil_append] at hbody
      simp only [hbody]
      rw [layout.follow_mark (layout.unmarked_margin _)]
      simp [Layout.step, Item.plainBody, Item.plain]

/-- A written sheet is read as what is left of it. -/
theorem StyleSheet.Legible.read?_sheet (layout : Layout) {sheet : StyleSheet} (h : sheet.Legible) :
    layout.read? (layout.sheet sheet) = some sheet.withoutEmptyRules.plain := by
  have hbody := layout.follow_body [] [] fun item hmem => (h item hmem).follow_item layout []
  rw [List.append_nil, List.nil_append] at hbody
  rw [Layout.read?, Layout.sheet]
  simp only [List.length_nil] at hbody
  rw [hbody]
  rfl

/-- **Both forms of a sheet are read as the sheet without the rules that declare nothing.**  The
texts of the sheet must not have a brace, a semicolon or a line feed in them, no selector may begin
with `@`, no property may have a colon and no name of an at-rule a space.  All other items are read
as they are, in their order and at their depth; only the kinds of the values are not written. -/
theorem StyleSheet.read?_written {sheet : StyleSheet} (h : sheet.Legible) :
    StyleSheet.ofMinified? sheet.minified = some sheet.withoutEmptyRules.plain ∧
      StyleSheet.ofPretty? sheet.pretty = some sheet.withoutEmptyRules.plain := by
  constructor
  · rw [ofMinified?, minified_eq_written]
    exact h.read?_sheet Layout.minified
  · rw [ofPretty?, unbroken_pretty_eq_written h]
    exact h.read?_sheet Layout.pretty

/-- A sheet with empty rules at two depths, a statement, a rule without a selector and a colon in a
value. -/
def nestedSheet : StyleSheet where
  items :=
    [.rule ".unused" [],
     .atRule "import" "url(base.css)" [],
     .atRule "media" " print"
       [.rule "a:hover" [⟨"color", Value.keyword "red"⟩, ⟨"--icon", Value.raw "url(data:x)"⟩],
        .rule "p" [],
        .atRule "supports" "(gap: 0)" [.rule "" [⟨" margin", Value.px (-4)⟩]]]]

/-- Both forms of the sheet are read as its items but for the empty rules. -/
theorem StyleSheet.read?_nestedSheet :
    nestedSheet.Legible ∧
    StyleSheet.ofMinified? nestedSheet.minified = some nestedSheet.withoutEmptyRules.plain ∧
    StyleSheet.ofPretty? nestedSheet.pretty = some nestedSheet.withoutEmptyRules.plain ∧
    nestedSheet.withoutEmptyRules.plain.items =
      [.atRule "import" "url(base.css)" [],
       .atRule "media" " print"
         [.rule "a:hover" [⟨"color", Value.raw "red"⟩, ⟨"--icon", Value.raw "url(data:x)"⟩],
          .atRule "supports" "(gap: 0)" [.rule "" [⟨" margin", Value.raw "-4px"⟩]]]] := by
  have hlegible : nestedSheet.Legible := by
    refine List.forall_mem_cons.mpr ⟨.rule (by decide) (by decide) nofun, ?_⟩
    refine List.forall_mem_cons.mpr ⟨.atRule (by decide) (by decide) (by decide) nofun, ?_⟩
    refine List.forall_mem_singleton.mpr (.atRule (by decide) (by decide) (by decide) ?_)
    refine List.forall_mem_cons.mpr ⟨.rule (by decide) (by decide) ?_, ?_⟩
    · refine List.forall_mem_cons.mpr ⟨⟨by decide, by decide, by decide⟩, ?_⟩
      exact List.forall_mem_singleton.mpr ⟨by decide, by decide, by decide⟩
    refine List.forall_mem_cons.mpr ⟨.rule (by decide) (by decide) nofun, ?_⟩
    refine List.forall_mem_singleton.mpr (.atRule (by decide) (by decide) (by decide) ?_)
    refine List.forall_mem_singleton.mpr (.rule (by decide) (by decide) ?_)
    exact List.forall_mem_singleton.mpr ⟨by decide, by decide, by decide⟩
  obtain ⟨hminified, hpretty⟩ := StyleSheet.read?_written hlegible
  exact ⟨hlegible, hminified, hpretty, rfl⟩

/-- A rule that sets a color. -/
def coloredSheet (value : Value) : StyleSheet where
  items := [.rule "a" [⟨"color", value⟩]]

/-- A keyword and a raw value are written alike, so no reader tells them apart, in neither form. -/
theorem StyleSheet.not_exists_reader_of_kinds :
    (∀ value ∈ [Value.keyword "red", Value.raw "red"], (coloredSheet value).Legible) ∧
    (¬ ∃ read? : Text → Option StyleSheet, ∀ value ∈ [Value.keyword "red", Value.raw "red"],
      read? (coloredSheet value).minified = some (coloredSheet value).withoutEmptyRules) ∧
    ¬ ∃ read? : Text → Option StyleSheet, ∀ value ∈ [Value.keyword "red", Value.raw "red"],
      read? (coloredSheet value).pretty = some (coloredSheet value).withoutEmptyRules := by
  have hdiffer : (coloredSheet (Value.keyword "red")).withoutEmptyRules ≠
      (coloredSheet (Value.raw "red")).withoutEmptyRules := by
    simp [coloredSheet, withoutEmptyRules, Item.keptBody, Item.kept, Value.keyword, Value.raw]
  have hwritten : ∀ (write : StyleSheet → Text) (read? : Text → Option StyleSheet),
      write (coloredSheet (Value.keyword "red")) = write (coloredSheet (Value.raw "red")) →
      ¬ ∀ value ∈ [Value.keyword "red", Value.raw "red"],
        read? (write (coloredSheet value)) = some (coloredSheet value).withoutEmptyRules := by
    intro write read? halike hread
    have hkeyword := hread (Value.keyword "red") (by simp)
    have hraw := hread (Value.raw "red") (by simp)
    rw [halike, hraw] at hkeyword
    exact hdiffer (Option.some.inj hkeyword).symm
  refine ⟨?_, ?_, ?_⟩
  · intro value hvalue
    have hproperty : IsInline (Text.ofString "color") ∧ ':' ∉ Text.ofString "color" := by decide
    have hinline : IsInline value.text := by
      revert value
      decide
    have hdeclaration : (Declaration.mk "color" value).Legible :=
      ⟨hproperty.1, hproperty.2, hinline⟩
    exact List.forall_mem_singleton.mpr
      (.rule (by decide) (by decide) (List.forall_mem_singleton.mpr hdeclaration))
  · rintro ⟨read?, hread⟩
    exact hwritten minified read? rfl hread
  · rintro ⟨read?, hread⟩
    exact hwritten pretty read? rfl hread

end TypedStyle
