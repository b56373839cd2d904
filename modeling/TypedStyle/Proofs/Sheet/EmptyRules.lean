import Mathlib.Data.List.Basic
import TypedStyle.Proofs.Text.Splitting
import TypedStyle.Sheet.Printer
/-!
# Rules without declarations

A rule without declarations is written as nothing, but what stands between the items of a sheet or
behind the items of a body is written for it as well.  In the minified form that is nothing.  In the
indented form it is line feeds, so there a sheet without these rules is written differently from the
sheet with them, by as many blank lines as they leave behind.

* `pretty_shown_iff`, `pretty_atRule_shown_iff` — the indented form tells the two apart, but for a
  sheet of a single item;
* `empty_rules_leave_blank_lines` — it does so by blank lines only, and the minified form does not.
-/

namespace TypedStyle

/-! ## Lines with something on them -/

namespace Text

/-- The lines of the text that are not blank lines. -/
def writtenLines (t : Text) : List Text :=
  (splitOn '\n' t).filter fun line => !line.isEmpty

@[simp] theorem writtenLines_nil : writtenLines [] = [] := rfl

/-- The written lines of a text are those in front of a line feed and those behind it. -/
theorem writtenLines_append (a b : Text) :
    writtenLines (a ++ '\n' :: b) = writtenLines a ++ writtenLines b := by
  rw [writtenLines, splitOn_append, List.filter_append]
  rfl

/-- A separator stands between the first two of some texts. -/
theorem join_cons_cons (separator first second : Text) (rest : List Text) :
    join separator (first :: second :: rest) =
      first ++ separator ++ join separator (second :: rest) := by
  simp [join, List.intercalate]

/-- Joined texts are as long as all of them, with a separator for each but the first. -/
theorem length_join (separator : Text) (texts : List Text) :
    (join separator texts).length =
      texts.flatten.length + separator.length * (texts.length - 1) := by
  induction texts with
  | nil => simp [join, List.intercalate]
  | cons first rest ih =>
    cases rest with
    | nil => simp [join, List.intercalate]
    | cons second rest =>
      rw [join_cons_cons, List.length_append, List.length_append, ih]
      simp only [List.flatten_cons, List.length_append, List.length_cons, Nat.add_sub_cancel,
        Nat.mul_add, Nat.mul_one]
      omega

/-- Blank lines between texts are not seen on the lines that are written. -/
theorem writtenLines_join (texts : List Text) :
    writtenLines (join "\n\n" texts) = texts.flatMap writtenLines := by
  induction texts with
  | nil => rfl
  | cons first rest ih =>
    cases rest with
    | nil => simp [join, List.intercalate]
    | cons second rest =>
      have hsplit : join "\n\n" (first :: second :: rest) =
          first ++ '\n' :: ([] ++ '\n' :: join "\n\n" (second :: rest)) := by
        rw [join_cons_cons, List.append_assoc]
        rfl
      rw [hsplit, writtenLines_append, writtenLines_append, ih, writtenLines_nil, List.nil_append]
      rfl

end Text

/-! ## Leaving out rules without declarations -/

namespace Item

variable {items body : List Item} {name params : Text} {depth : Nat}

/-- Is the item a rule without declarations? -/
def isEmptyRule : Item → Bool
  | .rule _ declarations => declarations.isEmpty
  | .atRule _ _ _ => false

/-- The items but for the rules without declarations; the bodies of at-rules stay as they are. -/
def shown (items : List Item) : List Item :=
  items.filter fun item => !item.isEmptyRule

/-- What declares nothing is a rule without declarations. -/
theorem eq_rule_of_isEmptyRule {item : Item} (h : item.isEmptyRule = true) :
    ∃ selector, item = .rule selector [] := by
  cases item with
  | rule selector declarations =>
    obtain rfl := List.isEmpty_iff.mp h
    exact ⟨selector, rfl⟩
  | atRule name params body => contradiction

/-- As many items are shown as there are exactly when none is a rule without declarations. -/
theorem length_shown_eq_iff :
    (shown items).length = items.length ↔ ∀ item ∈ items, item.isEmptyRule = false := by
  simp [shown, List.length_filter_eq_length_iff]

/-- Where there is no such rule, all items are shown. -/
theorem shown_eq_self (h : ∀ item ∈ items, item.isEmptyRule = false) : shown items = items :=
  List.filter_eq_self.mpr fun item hmem => by simp [h item hmem]

/-- Where something is shown, there is something. -/
theorem ne_nil_of_shown_ne_nil (h : shown items ≠ []) : items ≠ [] := by
  rintro rfl
  exact h rfl

/-- What is nothing for a rule without declarations is the same without these rules. -/
theorem flatMap_shown {α : Type} {f : Item → List α}
    (hf : ∀ selector, f (.rule selector []) = []) (items : List Item) :
    (shown items).flatMap f = items.flatMap f := by
  induction items with
  | nil => rfl
  | cons item rest ih =>
    rw [shown, List.filter_cons, List.flatMap_cons, ← ih]
    cases hempty : item.isEmptyRule with
    | true =>
      obtain ⟨selector, rfl⟩ := eq_rule_of_isEmptyRule hempty
      simp [hf, shown]
    | false => simp [shown]

/-- The minified items stand one behind the other. -/
theorem minifiedBody_eq_flatMap (items : List Item) :
    minifiedBody items = items.flatMap minified := by
  induction items with
  | nil => rw [minifiedBody, List.flatMap_nil]
  | cons item rest ih => rw [minifiedBody, ih, List.flatMap_cons]

/-! ## At-rules -/

/-- An indented body is as long as its items, with a line feed for each. -/
theorem length_prettyBody (depth : Nat) (items : List Item) :
    (prettyBody depth items).length = (items.flatMap (pretty depth)).length + items.length := by
  induction items with
  | nil => simp [prettyBody]
  | cons item rest ih =>
    rw [prettyBody, List.length_append, List.length_cons, ih, List.flatMap_cons,
      List.length_append, List.length_cons]
    omega

/-- The written lines of a body are those of its items, and then those of what follows. -/
theorem writtenLines_prettyBody (depth : Nat) (items : List Item) (behind : Text) :
    Text.writtenLines (prettyBody depth items ++ behind) =
      items.flatMap (fun item => Text.writtenLines (pretty depth item)) ++
        Text.writtenLines behind := by
  induction items with
  | nil => simp [prettyBody]
  | cons item rest ih =>
    rw [prettyBody, List.append_assoc, List.cons_append, Text.writtenLines_append, ih,
      List.flatMap_cons, List.append_assoc]

/-- An at-rule with a body is its head, the body on lines of its own, and a brace. -/
theorem pretty_atRule_of_ne_nil (h : body ≠ []) :
    pretty depth (.atRule name params body) =
      (margin depth ++ head name params ++ " \x7b") ++
        '\n' :: (prettyBody (depth + 1) body ++ (margin depth ++ "\x7d")) := by
  have hbody : body.isEmpty ≠ true := by simpa using h
  rw [pretty, if_neg hbody]
  simp [Text.ofString]

/-- **A rule without declarations leaves a blank line in the body of an at-rule.** -/
theorem pretty_atRule_shown_iff (h : shown body ≠ []) :
    pretty depth (.atRule name params (shown body)) = pretty depth (.atRule name params body) ↔
      ∀ item ∈ body, item.isEmptyRule = false := by
  have hbody := ne_nil_of_shown_ne_nil h
  refine ⟨fun heq => ?_, fun hnone => by rw [shown_eq_self hnone]⟩
  rw [pretty_atRule_of_ne_nil h, pretty_atRule_of_ne_nil hbody] at heq
  have hinside := List.append_cancel_right (List.cons.inj (List.append_cancel_left heq)).2
  have hlength := congrArg List.length hinside
  rw [length_prettyBody, length_prettyBody, flatMap_shown (pretty_rule_nil _)] at hlength
  exact length_shown_eq_iff.mp (Nat.add_left_cancel hlength)

/-- Without the empty rules in its body, an at-rule has the same written lines, if something is
left. -/
theorem writtenLines_atRule_shown (h : shown body ≠ []) :
    Text.writtenLines (pretty depth (.atRule name params (shown body))) =
      Text.writtenLines (pretty depth (.atRule name params body)) := by
  have hbody := ne_nil_of_shown_ne_nil h
  rw [pretty_atRule_of_ne_nil h, pretty_atRule_of_ne_nil hbody, Text.writtenLines_append,
    Text.writtenLines_append, writtenLines_prettyBody, writtenLines_prettyBody,
    flatMap_shown fun selector => by rw [pretty_rule_nil, Text.writtenLines_nil]]

/-- Its minified form stays the same. -/
theorem minified_atRule_shown (h : shown body ≠ []) :
    minified (.atRule name params (shown body)) = minified (.atRule name params body) := by
  have hbody := ne_nil_of_shown_ne_nil h
  rw [minified, minified, if_neg (by simpa using h), if_neg (by simpa using hbody),
    minifiedBody_eq_flatMap, minifiedBody_eq_flatMap, flatMap_shown minified_rule_nil]

end Item

/-! ## Sheets -/

namespace StyleSheet

/-- The sheet without the rules at its top that have no declarations. -/
def shown (sheet : StyleSheet) : StyleSheet :=
  ⟨Item.shown sheet.items⟩

/-- **A rule without declarations leaves blank lines in a sheet**, unless it is all that the sheet
has. -/
theorem pretty_shown_iff (sheet : StyleSheet) :
    sheet.shown.pretty = sheet.pretty ↔
      sheet.items.length ≤ 1 ∨ ∀ item ∈ sheet.items, item.isEmptyRule = false := by
  obtain ⟨items⟩ := sheet
  simp only [shown, pretty]
  constructor
  · intro heq
    have hle : (Item.shown items).length ≤ items.length := List.length_filter_le _ items
    have hlength := congrArg List.length heq
    rw [Text.length_join, Text.length_join, ← List.flatMap_def, ← List.flatMap_def,
      Item.flatMap_shown (Item.pretty_rule_nil 0), List.length_map, List.length_map] at hlength
    have hcount : (Item.shown items).length - 1 = items.length - 1 :=
      Nat.eq_of_mul_eq_mul_left (by decide) (Nat.add_left_cancel hlength)
    by_cases hsingle : items.length ≤ 1
    · exact .inl hsingle
    · exact .inr (Item.length_shown_eq_iff.mp (by omega))
  · rintro (hsingle | hnone)
    · match items, hsingle with
      | [], _ => rfl
      | [item], _ =>
        cases hempty : item.isEmptyRule with
        | true =>
          obtain ⟨selector, rfl⟩ := Item.eq_rule_of_isEmptyRule hempty
          simp [Item.shown, Item.isEmptyRule, Text.join, List.intercalate]
        | false => rw [Item.shown_eq_self (by simpa using hempty)]
    · rw [Item.shown_eq_self hnone]

/-- **Empty rules write nothing on any line** of the indented form. -/
theorem writtenLines_shown (sheet : StyleSheet) :
    Text.writtenLines sheet.shown.pretty = Text.writtenLines sheet.pretty := by
  rw [pretty, pretty, Text.writtenLines_join, Text.writtenLines_join, List.flatMap_map,
    List.flatMap_map, shown,
    Item.flatMap_shown fun selector => by rw [Item.pretty_rule_nil, Text.writtenLines_nil]]

/-- **The minified form has no trace of them** at all. -/
theorem minified_shown (sheet : StyleSheet) : sheet.shown.minified = sheet.minified :=
  Item.flatMap_shown Item.minified_rule_nil sheet.items

/-- **Rules without declarations leave blank lines, and nothing else.**  Without those at its top,
the indented form of a sheet is the same if and only if there are none or there is at most one item;
an at-rule with something else in its body is the same if and only if there are none in its body.
The lines that are not blank are the same in any case, and so is the minified form. -/
theorem empty_rules_leave_blank_lines (sheet : StyleSheet) (depth : Nat) (name params : Text)
    (body : List Item) (h : ∃ item ∈ body, item.isEmptyRule = false) :
    ((sheet.shown.pretty = sheet.pretty ↔
        sheet.items.length ≤ 1 ∨ ∀ item ∈ sheet.items, item.isEmptyRule = false) ∧
      Text.writtenLines sheet.shown.pretty = Text.writtenLines sheet.pretty ∧
      sheet.shown.minified = sheet.minified) ∧
    (Item.pretty depth (.atRule name params (Item.shown body)) =
        Item.pretty depth (.atRule name params body) ↔
      ∀ item ∈ body, item.isEmptyRule = false) ∧
    Text.writtenLines (Item.pretty depth (.atRule name params (Item.shown body))) =
      Text.writtenLines (Item.pretty depth (.atRule name params body)) ∧
    Item.minified (.atRule name params (Item.shown body)) =
      Item.minified (.atRule name params body) := by
  obtain ⟨item, hmem, hitem⟩ := h
  have hshown : Item.shown body ≠ [] :=
    List.ne_nil_of_mem (List.mem_filter.mpr ⟨hmem, by simp [hitem]⟩)
  exact ⟨⟨sheet.pretty_shown_iff, sheet.writtenLines_shown, sheet.minified_shown⟩,
    Item.pretty_atRule_shown_iff hshown, Item.writtenLines_atRule_shown hshown,
    Item.minified_atRule_shown hshown⟩

/-- A rule that is shown. -/
def shownRule : Item :=
  .rule "b" [⟨"color", Value.keyword "red"⟩]

/-- An empty rule in front of a rule that is shown. -/
def clearedSheet : StyleSheet :=
  ⟨[.rule "a" [], shownRule]⟩

/-- The sheet has two line feeds in front and the at-rule a line feed too many, but their lines are
those without the empty rule. -/
theorem cleared_rule_leaves_blank_lines :
    clearedSheet.shown.pretty ≠ clearedSheet.pretty ∧
    Text.writtenLines clearedSheet.shown.pretty = Text.writtenLines clearedSheet.pretty ∧
    clearedSheet.shown.minified = clearedSheet.minified ∧
    Item.pretty 0 (.atRule "media" "print" [shownRule]) ≠
      Item.pretty 0 (.atRule "media" "print" [.rule "a" [], shownRule]) := by
  obtain ⟨⟨hsheet, hlines, hminified⟩, hatRule, -, -⟩ :=
    empty_rules_leave_blank_lines clearedSheet 0 "media" "print" clearedSheet.items
      ⟨shownRule, by simp [clearedSheet], rfl⟩
  exact ⟨mt hsheet.mp (by decide), hlines, hminified, mt hatRule.mp (by decide)⟩

/-- The empty rule is seen: the sheet begins with a blank line, and so does the body of the
at-rule. -/
theorem empty_rule_is_seen :
    (clearedSheet.pretty = "\n\nb \x7b\n  color: red;\n\x7d" ∧
      clearedSheet.shown.pretty = "b \x7b\n  color: red;\n\x7d" ∧
      clearedSheet.shown.pretty ≠ clearedSheet.pretty) ∧
    Item.pretty 0 (.atRule "media" "print" clearedSheet.items) =
      "@media print \x7b\n\n  b \x7b\n    color: red;\n  \x7d\n\x7d" ∧
    Item.pretty 0 (.atRule "media" "print" (Item.shown clearedSheet.items)) =
      "@media print \x7b\n  b \x7b\n    color: red;\n  \x7d\n\x7d" ∧
    Item.pretty 0 (.atRule "media" "print" (Item.shown clearedSheet.items)) ≠
      Item.pretty 0 (.atRule "media" "print" clearedSheet.items) := by
  decide

end StyleSheet

end TypedStyle
