import TypedStyle.Proofs.Sheet.EmptyRules
/-!
# Indentation

The depth of an item is seen in the blanks in front of its lines and nowhere else.  A line on which
nothing stands, as a rule without declarations leaves it, gets no blanks at any depth.  So an item
can be written as if it stood at the top, and moved to its place as a whole; and the body of an
at-rule is what its items are by themselves, moved by two blanks.

* `indented_line`, `indented_append` — a text is moved line by line;
* `pretty_add` — an item that is deeper by some levels is moved by two blanks for each;
* `pretty_eq_indented` — an item, and the body of an at-rule, by what they are at the top.
-/

namespace TypedStyle

/-! ## Moving a text -/

namespace Text

/-- The line with blanks in front of it, unless nothing stands on it. -/
def indentLine (width : Nat) (line : Text) : Text :=
  if line.isEmpty then [] else List.replicate width ' ' ++ line

/-- The text with blanks in front of every line on which something stands. -/
def indented (width : Nat) (t : Text) : Text :=
  join "\n" ((splitOn '\n' t).map (indentLine width))

variable {width : Nat} {line : Text}

@[simp] theorem indented_nil (width : Nat) : indented width [] = [] := rfl

/-- A single line gets its blanks. -/
theorem indented_line (hne : line ≠ []) (hline : '\n' ∉ line) :
    indented width line = List.replicate width ' ' ++ line := by
  have hfull : line.isEmpty ≠ true := by simpa using hne
  rw [indented, splitOn_of_not_mem hline, List.map_singleton, indentLine, if_neg hfull]
  simp [join, List.intercalate]

/-- Texts in a row are joined part by part, with a separator between the parts. -/
theorem join_append {separator : Text} {front behind : List Text} (hfront : front ≠ [])
    (hbehind : behind ≠ []) :
    join separator (front ++ behind) =
      join separator front ++ separator ++ join separator behind := by
  induction front with
  | nil => contradiction
  | cons first rest ih =>
    cases rest with
    | nil =>
      obtain ⟨second, more, rfl⟩ := List.exists_cons_of_ne_nil hbehind
      rw [List.singleton_append, join_cons_cons]
      simp [join, List.intercalate]
    | cons second rest =>
      have hrest := ih (by simp)
      rw [List.cons_append] at hrest
      rw [List.cons_append, List.cons_append, join_cons_cons, hrest, join_cons_cons]
      simp only [List.append_assoc]

/-- What stands before a line feed and what stands behind it are moved by themselves. -/
theorem indented_append (width : Nat) (front behind : Text) :
    indented width (front ++ '\n' :: behind) =
      indented width front ++ '\n' :: indented width behind := by
  have hne : ∀ t, (splitOn '\n' t).map (indentLine width) ≠ [] := by
    intro t hnil
    exact splitOn_ne_nil '\n' t (List.map_eq_nil_iff.mp hnil)
  rw [indented, splitOn_append, List.map_append, join_append (hne front) (hne behind),
    List.append_assoc]
  rfl

end Text

/-! ## Items on lines of their own -/

namespace Item

mutual

/-- The texts that an item is made of. -/
def texts : Item → List Text
  | .rule selector declarations =>
    selector :: declarations.flatMap fun declaration =>
      [declaration.property, declaration.value.text]
  | .atRule name params body => name :: params :: bodyTexts body

/-- The texts that the items in a body are made of. -/
def bodyTexts : List Item → List Text
  | [] => []
  | item :: rest => texts item ++ bodyTexts rest

end

/-- No text of the item runs on to the next line. -/
def IsOnLines (item : Item) : Prop :=
  ∀ t ∈ item.texts, '\n' ∉ t

instance (item : Item) : Decidable (IsOnLines item) :=
  inferInstanceAs (Decidable (∀ t ∈ item.texts, '\n' ∉ t))

variable {name params selector : Text} {declarations : List Declaration} {body : List Item}
  {more depth : Nat}

/-! ## Lines at two depths -/

/-- A margin for more levels has two blanks more for each. -/
theorem margin_add (more depth : Nat) :
    margin (more + depth) = List.replicate (2 * more) ' ' ++ margin depth := by
  rw [margin, margin, List.replicate_append_replicate, Nat.mul_add]

/-- No margin has a line feed in it. -/
theorem feed_not_mem_margin (depth : Nat) : '\n' ∉ margin depth := by
  intro hmem
  exact absurd (List.eq_of_mem_replicate hmem) (by decide)

/-- A line behind its margin gets the margin of the greater depth. -/
theorem indented_margin (more depth : Nat) {line : Text} (hne : line ≠ []) (hline : '\n' ∉ line) :
    Text.indented (2 * more) (margin depth ++ line) = margin (more + depth) ++ line := by
  have hfeed : '\n' ∉ margin depth ++ line := by
    simp [feed_not_mem_margin, hline]
  rw [Text.indented_line (by simp [hne]) hfeed, margin_add, List.append_assoc]

/-- So does a line in front of others. -/
theorem indented_margin_append (more depth : Nat) {line : Text} (hne : line ≠ [])
    (hline : '\n' ∉ line) (behind : Text) :
    Text.indented (2 * more) (margin depth ++ line ++ '\n' :: behind) =
      margin (more + depth) ++ line ++ '\n' :: Text.indented (2 * more) behind := by
  rw [Text.indented_append, indented_margin more depth hne hline]

/-- The opening brace goes on the line of what it opens. -/
theorem feed_not_mem_opening {opened : Text} (h : '\n' ∉ opened) :
    '\n' ∉ opened ++ Text.ofString " \x7b" := by
  have hbrace : '\n' ∉ Text.ofString " \x7b" := by decide
  simp [h, hbrace]

/-- A line that opens a block is not blank. -/
theorem opening_ne_nil (opened : Text) : opened ++ Text.ofString " \x7b" ≠ [] := by
  intro hnil
  exact absurd (List.append_eq_nil_iff.mp hnil).2 (by decide)

/-- The head of an at-rule stays on its line if its name and what follows it do. -/
theorem feed_not_mem_head (hname : '\n' ∉ name) (hparams : '\n' ∉ params) :
    '\n' ∉ head name params := by
  unfold head
  split <;> simp [hname, hparams]

/-! ## The lines of a rule -/

/-- So does a declaration if its property and its value do. -/
theorem feed_not_mem_declaration {declaration : Declaration}
    (hproperty : '\n' ∉ declaration.property) (hvalue : '\n' ∉ declaration.value.text) :
    '\n' ∉ declaration.text ++ [';'] := by
  have hcolon : '\n' ∉ Text.ofString ": " := by decide
  simp [Declaration.text, hproperty, hcolon, hvalue]

/-- The line of a declaration is its margin, the declaration and a line feed. -/
theorem declarationLine_eq (depth : Nat) (declaration : Declaration) :
    declarationLine depth declaration =
      margin (depth + 1) ++ (declaration.text ++ [';']) ++ ['\n'] := by
  have hend : Text.ofString ";\n" = [';', '\n'] := rfl
  simp [declarationLine, hend]

/-- The lines of declarations get the margin of the greater depth. -/
theorem indented_declarations
    (h : ∀ declaration ∈ declarations,
      '\n' ∉ declaration.property ∧ '\n' ∉ declaration.value.text) (behind : Text) :
    Text.indented (2 * more) (declarations.flatMap (declarationLine depth) ++ behind) =
      declarations.flatMap (declarationLine (more + depth)) ++
        Text.indented (2 * more) behind := by
  induction declarations with
  | nil => rfl
  | cons first rest ih =>
    obtain ⟨⟨hproperty, hvalue⟩, hrest⟩ := List.forall_mem_cons.mp h
    have hfirst := indented_margin_append more (depth + 1) (by simp)
      (feed_not_mem_declaration hproperty hvalue)
      (rest.flatMap (declarationLine depth) ++ behind)
    rw [ih hrest, ← Nat.add_assoc] at hfirst
    simpa [declarationLine_eq] using hfirst

/-- A rule with declarations is its selector, the declarations on lines of their own, and a
brace. -/
theorem pretty_rule_of_ne_nil (h : declarations ≠ []) :
    pretty depth (.rule selector declarations) =
      margin depth ++ (selector ++ " \x7b") ++
        '\n' :: (declarations.flatMap (declarationLine depth) ++ (margin depth ++ "\x7d")) := by
  have hdeclarations : declarations.isEmpty ≠ true := by simpa using h
  rw [pretty, if_neg hdeclarations]
  simp [Text.ofString]

/-! ## Items at two depths -/

/-- A closing brace stands on a line of its own. -/
theorem indented_closing (more depth : Nat) :
    Text.indented (2 * more) (margin depth ++ "\x7d") = margin (more + depth) ++ "\x7d" :=
  indented_margin more depth (by decide) (by decide)

/-- **A rule that stands deeper is the same rule, indented.** -/
theorem pretty_rule_add (h : IsOnLines (.rule selector declarations)) :
    pretty (more + depth) (.rule selector declarations) =
      Text.indented (2 * more) (pretty depth (.rule selector declarations)) := by
  by_cases hempty : declarations = []
  · -- Nothing is written at any depth.
    subst hempty
    rw [pretty_rule_nil, pretty_rule_nil, Text.indented_nil]
  · obtain ⟨hselector, htexts⟩ := List.forall_mem_cons.mp h
    have hdeclarations : ∀ declaration ∈ declarations,
        '\n' ∉ declaration.property ∧ '\n' ∉ declaration.value.text := by
      intro declaration hmem
      constructor
      · exact htexts _ (List.mem_flatMap.mpr ⟨declaration, hmem, by simp⟩)
      · exact htexts _ (List.mem_flatMap.mpr ⟨declaration, hmem, by simp⟩)
    rw [pretty_rule_of_ne_nil hempty, pretty_rule_of_ne_nil hempty,
      indented_margin_append more depth (opening_ne_nil selector) (feed_not_mem_opening hselector),
      indented_declarations hdeclarations, indented_closing]

mutual

/-- **An item that is deeper by some levels is moved by two blanks for each.**  By induction on the
item, at all depths at once. -/
theorem pretty_add (more depth : Nat) : ∀ item : Item, item.IsOnLines →
    pretty (more + depth) item = Text.indented (2 * more) (pretty depth item)
  | .rule selector declarations, h => pretty_rule_add h
  | .atRule name params body, h => by
    obtain ⟨hname, hbehind⟩ := List.forall_mem_cons.mp h
    obtain ⟨hparams, hbody⟩ := List.forall_mem_cons.mp hbehind
    have hhead := feed_not_mem_head hname hparams
    by_cases hempty : body = []
    · subst hempty
      have hline : '\n' ∉ head name params ++ ";" := by
        have hend : '\n' ∉ Text.ofString ";" := by decide
        simp [hhead, hend]
      have hmoved := indented_margin more depth (by simp [head]) hline
      simpa [pretty] using hmoved.symm
    · have hinside := indented_prettyBody more (depth + 1) body hbody (margin depth ++ "\x7d")
      rw [pretty_atRule_of_ne_nil hempty, pretty_atRule_of_ne_nil hempty,
        List.append_assoc (margin depth), List.append_assoc (margin (more + depth)),
        indented_margin_append more depth (opening_ne_nil _) (feed_not_mem_opening hhead), hinside,
        indented_closing, Nat.add_assoc]

/-- The items in a body are moved one by one, and the line feeds behind them stay.  Any text may
stand behind the body, as the line of the closing brace does. -/
theorem indented_prettyBody (more depth : Nat) : ∀ items : List Item,
    (∀ t ∈ bodyTexts items, '\n' ∉ t) → ∀ behind : Text,
      Text.indented (2 * more) (prettyBody depth items ++ behind) =
        prettyBody (more + depth) items ++ Text.indented (2 * more) behind
  | [], _, behind => by
    rw [prettyBody, prettyBody]
    rfl
  | item :: rest, h, behind => by
    obtain ⟨hitem, hrest⟩ := List.forall_mem_append.mp h
    rw [prettyBody, prettyBody, List.append_assoc, List.cons_append, Text.indented_append,
      ← pretty_add more depth item hitem, indented_prettyBody more depth rest hrest behind,
      List.append_assoc, List.cons_append]

end

/-- The indented items stand one behind the other, each with a line feed. -/
theorem prettyBody_eq_flatMap (depth : Nat) (items : List Item) :
    prettyBody depth items = items.flatMap fun item => pretty depth item ++ ['\n'] := by
  induction items with
  | nil => rw [prettyBody, List.flatMap_nil]
  | cons item rest ih => simp [prettyBody, ih]

/-- The body of an at-rule is what its items are at the depth of the at-rule, moved by two
blanks. -/
theorem pretty_atRule_eq_indented (hbody : ∀ t ∈ bodyTexts body, '\n' ∉ t) (hne : body ≠ []) :
    pretty depth (.atRule name params body) =
      margin depth ++ head name params ++ " \x7b\n" ++
        Text.indented 2 (body.flatMap fun inner => pretty depth inner ++ ['\n']) ++
        margin depth ++ "\x7d" := by
  have hinside : prettyBody (depth + 1) body = Text.indented 2 (prettyBody depth body) := by
    have hmoved := indented_prettyBody 1 depth body hbody []
    rw [Text.indented_nil, List.append_nil, List.append_nil] at hmoved
    rw [Nat.add_comm depth 1, ← hmoved]
  rw [pretty_atRule_of_ne_nil hne, hinside, prettyBody_eq_flatMap]
  simp [Text.ofString]

/-- **The depth of an item is seen in the blanks in front of its lines, and in nothing else.**  At
any depth, an item without line feeds in its texts is written as at the top, with two blanks for
each level in front of every line on which something stands.  So what is inside an at-rule, at
whatever level, is what the items in its body are by themselves, with two blanks more. -/
theorem pretty_eq_indented (item : Item) (h : item.IsOnLines) :
    (∀ depth, pretty depth item = Text.indented (2 * depth) (pretty 0 item)) ∧
    ∀ name params body, item = .atRule name params body → body ≠ [] → ∀ depth,
      pretty depth item =
        margin depth ++ head name params ++ " \x7b\n" ++
          Text.indented 2 (body.flatMap fun inner => pretty depth inner ++ ['\n']) ++
          margin depth ++ "\x7d" := by
  constructor
  · intro depth
    exact pretty_add depth 0 item h
  · rintro name params body rfl hne depth
    have hbody : ∀ t ∈ bodyTexts body, '\n' ∉ t := by
      intro t ht
      exact h t (List.mem_cons_of_mem _ (List.mem_cons_of_mem _ ht))
    exact pretty_atRule_eq_indented hbody hne

/-- An at-rule with an empty rule, and with an at-rule that has a rule and a statement in it. -/
def layeredRule : Item :=
  .atRule "layer" "base"
    [.rule "p" [],
     .atRule "media" "" [.rule "a" [⟨"top", Value.px (-4)⟩], .atRule "import" "b.css" []]]

/-- At the second level all lines have four blanks more, but for the one that the empty rule
leaves. -/
theorem pretty_layeredRule_indented :
    layeredRule.IsOnLines ∧
    pretty 2 layeredRule = Text.indented 4 (pretty 0 layeredRule) ∧
    pretty 2 layeredRule =
      "    @layer base \x7b\n\n      @media \x7b\n        a \x7b\n          top: -4px;\n" ++
        "        \x7d\n        @import b.css;\n      \x7d\n    \x7d" ∧
    pretty 0 layeredRule =
      "@layer base \x7b\n" ++
        Text.indented 2
          "\n@media \x7b\n  a \x7b\n    top: -4px;\n  \x7d\n  @import b.css;\n\x7d\n" ++
        "\x7d" := by
  have hlines : layeredRule.IsOnLines := by decide
  obtain ⟨hdepth, hbody⟩ := pretty_eq_indented layeredRule hlines
  refine ⟨hlines, hdepth 2, by decide, ?_⟩
  exact hbody "layer" "base" _ rfl (by simp) 0

end Item

end TypedStyle
