import TypedStyle.Json.Reader
import TypedStyle.Proofs.Json.Cutting
/-!
# Written documents are read back

A written value is cut into the tokens of the value, and the tokens of a value lead the reader from
the state that awaits a value to the one behind it, whatever containers are open around it.

* `cutsBefore_printAt` — the tokens of a written value, at every level of nesting;
* `run_tokensOf` — what the reader makes of them;
* `parse?_print` — reading undoes writing, also when blanks follow.
-/

namespace TypedStyle.Json

mutual

/-- The tokens of a value. -/
def tokensOf : Json → List Token
  | .null => [.null]
  | .bool value => [.bool value]
  | .number numeral => [.number numeral]
  | .string content => [.string content]
  | .array items => .beginArray :: (List.intercalate [.comma] (tokensOfItems items) ++ [.endArray])
  | .object members =>
    .beginObject :: (List.intercalate [.comma] (tokensOfMembers members) ++ [.endObject])

/-- The tokens of each of some items. -/
def tokensOfItems : List Json → List (List Token)
  | [] => []
  | item :: items => tokensOf item :: tokensOfItems items

/-- The tokens of each of some members. -/
def tokensOfMembers : List (JsonString × Json) → List (List Token)
  | [] => []
  | (name, value) :: members =>
    (.string name :: .colon :: tokensOf value) :: tokensOfMembers members

end

/-- A value whose numbers are numerals, which is what can be written. -/
inductive Printable : Json → Prop
  | null : Printable .null
  | bool (value : Bool) : Printable (.bool value)
  | number {numeral : Text} (h : Token.isNumeral numeral = true) : Printable (.number numeral)
  | string (content : JsonString) : Printable (.string content)
  | array {items : List Json} (h : ∀ item ∈ items, Printable item) : Printable (.array items)
  | object {members : List (JsonString × Json)} (h : ∀ member ∈ members, Printable member.2) :
    Printable (.object members)

variable {v : Json} {stack : List Frame}

/-! ## Item by item -/

/-- How a member is written at a level of nesting. -/
def printMember (level : Nat) (member : JsonString × Json) : Text :=
  quotedString member.1 ++ ": " ++ printAt level member.2

/-- The tokens of a member. -/
def tokensOfMember (member : JsonString × Json) : List Token :=
  .string member.1 :: .colon :: tokensOf member.2

/-- Items are printed one by one. -/
theorem printItems_eq_map (level : Nat) (items : List Json) :
    printItems level items = items.map (printAt level) := by
  induction items with
  | nil => rfl
  | cons item items ih => rw [printItems, ih, List.map_cons]

/-- So are members. -/
theorem printMembers_eq_map (level : Nat) (members : List (JsonString × Json)) :
    printMembers level members = members.map (printMember level) := by
  induction members with
  | nil => rfl
  | cons member members ih =>
      obtain ⟨name, value⟩ := member
      rw [printMembers, ih, List.map_cons, printMember]

/-- The tokens of items are found item by item. -/
theorem tokensOfItems_eq_map (items : List Json) : tokensOfItems items = items.map tokensOf := by
  induction items with
  | nil => rfl
  | cons item items ih => rw [tokensOfItems, ih, List.map_cons]

/-- Those of members are, too. -/
theorem tokensOfMembers_eq_map (members : List (JsonString × Json)) :
    tokensOfMembers members = members.map tokensOfMember := by
  induction members with
  | nil => rfl
  | cons member members ih =>
      obtain ⟨name, value⟩ := member
      rw [tokensOfMembers, ih, List.map_cons, tokensOfMember]

/-! ## Cutting -/

section Cutting

open Token

variable {α : Type} {items : List α} {written : α → Text} {tokens : α → List Token}

/-- A line feed and the blanks behind it are no token. -/
theorem cuts_newline (level : Nat) : Cuts (newline level) [] := by
  apply cuts_blanks
  intro c hc
  rcases List.mem_cons.mp hc with rfl | hspace
  · decide
  · have hc : c = ' ' := List.eq_of_mem_replicate hspace
    rw [hc]
    decide

/-- What stands between two items is a comma. -/
theorem cuts_separator (level : Nat) : Cuts ("," ++ newline level) [.comma] :=
  (cuts_mark rfl fun _ => rfl : Cuts [','] [.comma]).append (cuts_newline level)

/-- Items on lines of their own are cut into their tokens with commas between them. -/
theorem cutsBefore_join (level : Nat)
    (h : ∀ item ∈ items, CutsBefore (written item) (tokens item)) :
    CutsBefore (Text.join ("," ++ newline level) (items.map written))
      (List.intercalate [.comma] (items.map tokens)) := by
  induction items with
  | nil => exact cuts_nil.before
  | cons item items ih =>
      have hfirst : CutsBefore (written item) (tokens item) := h item List.mem_cons_self
      cases items with
      | nil => simpa [Text.join] using hfirst
      | cons next items =>
          have hothers := ih fun other hother => h other (List.mem_cons_of_mem item hother)
          have hbreaks : Breaks ("," ++ newline level) := breaks_cons rfl (newline level)
          have hseparated := hfirst.append (cuts_separator level) hbreaks (by simp [Text.ofString])
          have hjoined := hseparated.append_before hothers
          simpa [Text.join, List.append_assoc] using hjoined

/-- **A written container is cut into its marks and, between them, the tokens of its items.** -/
theorem cuts_enclose (level : Nat) {opening closing : Char} {first last : Token}
    (hfirst : Cuts [opening] [first]) (hlast : Cuts [closing] [last])
    (h : ∀ item ∈ items, CutsBefore (written item) (tokens item)) :
    Cuts (enclose level [opening] [closing] (items.map written))
      (first :: (List.intercalate [.comma] (items.map tokens) ++ [last])) := by
  cases hitems : items with
  | nil => exact hfirst.append hlast
  | cons item others =>
      rw [← hitems]
      have hnonempty : (items.map written).isEmpty = false := by
        simp [hitems]
      have hbreaks : Breaks (newline level) := breaks_cons rfl _
      have hopened := hfirst.append (cuts_newline (level + 1))
      have hfilled := hopened.append_before (cutsBefore_join (level + 1) h)
      have hended := hfilled.append (cuts_newline level) hbreaks (by simp [newline])
      have hclosed := hended.append hlast
      simpa [enclose, hnonempty] using hclosed

/-- **A written value is cut into its tokens, at every level of nesting.** -/
theorem cutsBefore_printAt (h : Printable v) :
    ∀ level, CutsBefore (printAt level v) (tokensOf v) := by
  induction h with
  | null =>
      intro level
      have hnull : CutsBefore "null" [.null] := cutsBefore_word rfl rfl
      exact hnull
  | bool value =>
      intro level
      have htrue : CutsBefore "true" [.bool true] := cutsBefore_word rfl rfl
      have hfalse : CutsBefore "false" [.bool false] := cutsBefore_word rfl rfl
      cases value with
      | true => exact htrue
      | false => exact hfalse
  | number hnumeral =>
      intro level
      have hchars := List.all_eq_true.mpr (isWordChar_of_isNumeral hnumeral)
      exact cutsBefore_word (ofWord?_of_isNumeral hnumeral) hchars
  | string content =>
      intro level
      exact (cuts_quotedString content).before
  | array _ ih =>
      intro level
      rw [printAt, tokensOf, printItems_eq_map, tokensOfItems_eq_map]
      have hopening : Cuts ['['] [.beginArray] := cuts_mark rfl fun _ => rfl
      have hclosing : Cuts [']'] [.endArray] := cuts_mark rfl fun _ => rfl
      have hitems := cuts_enclose level hopening hclosing
        fun item hitem => ih item hitem (level + 1)
      exact hitems.before
  | object _ ih =>
      intro level
      rw [printAt, tokensOf, printMembers_eq_map, tokensOfMembers_eq_map]
      have hopening : Cuts ['\x7b'] [.beginObject] := cuts_mark rfl fun _ => rfl
      have hclosing : Cuts ['\x7d'] [.endObject] := cuts_mark rfl fun _ => rfl
      refine (cuts_enclose level hopening hclosing fun member hmember => ?_).before
      have hcolon : Cuts [':', ' '] [.colon] :=
        (cuts_mark rfl fun _ => rfl : Cuts [':'] [.colon]).append (cuts_blank rfl)
      have hname := (cuts_quotedString member.1).append hcolon
      exact hname.append_before (ih member hmember (level + 1))

end Cutting

/-! ## Reading -/

section Reading

open ReaderState

variable {α : Type} {items : List α} {tokens : α → List Token}

/-- **Items with commas between them are read one by one, up to the mark that closes them.**  The
items read so far are kept in the state, the newest first. -/
theorem run_separated (between behind : List α → ReaderState) {last : Token}
    (hcomma : ∀ item ∈ items, ∀ done,
      run (between done) (tokens item ++ [.comma]) = some (between (item :: done)))
    (hlast : ∀ item ∈ items, ∀ done,
      run (between done) (tokens item ++ [last]) = some (behind (item :: done).reverse))
    (hne : items ≠ []) (done : List α) :
    run (between done) (List.intercalate [.comma] (items.map tokens) ++ [last]) =
      some (behind (done.reverse ++ items)) := by
  induction items generalizing done with
  | nil => exact absurd rfl hne
  | cons item items ih =>
      cases items with
      | nil => simpa using hlast item List.mem_cons_self done
      | cons next items =>
          have hfirst := hcomma item List.mem_cons_self done
          have hothers := ih
            (fun other hother => hcomma other (List.mem_cons_of_mem item hother))
            (fun other hother => hlast other (List.mem_cons_of_mem item hother))
            (List.cons_ne_nil next items) (item :: done)
          rw [List.map_cons, List.map_cons, List.intercalate_cons_cons, List.append_assoc,
            run_append, hfirst, Option.bind_some, ← List.map_cons, hothers]
          simp

/-- No value starts with the mark that closes an array, so the first item is read like any other. -/
theorem run_firstItem (first : Json) (others : List Json) (rest : List Token) :
    run (.firstItem stack)
        (List.intercalate [.comma] ((first :: others).map tokensOf) ++ rest) =
      run (.value (.array [] :: stack))
        (List.intercalate [.comma] ((first :: others).map tokensOf) ++ rest) := by
  cases others <;> cases first <;> rfl

/-- The first name of an object is read like any other one. -/
theorem run_firstName (first : JsonString × Json) (others : List (JsonString × Json))
    (rest : List Token) :
    run (.firstName stack)
        (List.intercalate [.comma] ((first :: others).map tokensOfMember) ++ rest) =
      run (.nextName [] stack)
        (List.intercalate [.comma] ((first :: others).map tokensOfMember) ++ rest) := by
  cases others <;> rfl

/-- Items that are read as values make up an array. -/
theorem run_items {items : List Json}
    (h : ∀ item ∈ items, ∀ stack,
      run (.value stack) (tokensOf item) = some (.complete item stack)) :
    run (.firstItem stack) (List.intercalate [.comma] (items.map tokensOf) ++ [.endArray]) =
      some (.complete (.array items) stack) := by
  cases items with
  | nil => rfl
  | cons first others =>
      rw [run_firstItem]
      apply run_separated (fun done => .value (.array done :: stack))
        fun all => .complete (.array all) stack
      · intro item hitem done
        rw [run_append, h item hitem]
        rfl
      · intro item hitem done
        rw [run_append, h item hitem]
        rfl
      · exact List.cons_ne_nil first others

/-- Members whose values are read as values make up an object. -/
theorem run_members {members : List (JsonString × Json)}
    (h : ∀ member ∈ members, ∀ stack,
      run (.value stack) (tokensOf member.2) = some (.complete member.2 stack)) :
    run (.firstName stack)
        (List.intercalate [.comma] (members.map tokensOfMember) ++ [.endObject]) =
      some (.complete (.object members) stack) := by
  have hmember : ∀ member ∈ members, ∀ done rest,
      run (.nextName done stack) (tokensOfMember member ++ rest) =
        run (.complete member.2 (.object done member.1 :: stack)) rest := by
    intro member hmember done rest
    show run (.value (.object done member.1 :: stack)) (tokensOf member.2 ++ rest) = _
    rw [run_append, h member hmember, Option.bind_some]
  cases members with
  | nil => rfl
  | cons first others =>
      rw [run_firstName]
      apply run_separated (fun done => .nextName done stack)
        fun all => .complete (.object all) stack
      · intro member hmem done
        rw [hmember member hmem]
        rfl
      · intro member hmem done
        rw [hmember member hmem]
        rfl
      · exact List.cons_ne_nil first others

/-- **The tokens of a value are read as the value, in whatever containers it stands.** -/
theorem run_tokensOf (h : Printable v) :
    ∀ stack, run (.value stack) (tokensOf v) = some (.complete v stack) := by
  induction h with
  | null => exact fun stack => rfl
  | bool value => exact fun stack => rfl
  | number hnumeral => exact fun stack => rfl
  | string content => exact fun stack => rfl
  | array _ ih =>
      intro stack
      rw [tokensOf, tokensOfItems_eq_map]
      exact run_items ih
  | object _ ih =>
      intro stack
      rw [tokensOf, tokensOfMembers_eq_map]
      exact run_members ih

end Reading

/-! ## Documents -/

/-- **Reading undoes writing**, and blanks behind the document change nothing. -/
theorem parse?_print (h : Printable v) {blanks : Text}
    (hall : blanks.all Token.isBlank = true) : parse? (v.print ++ blanks) = some v := by
  have hblanks : ∀ c ∈ blanks, Token.isBlank c = true := List.all_eq_true.mp hall
  have hbreaks : Token.Breaks blanks := by
    intro c hc
    have hmem : c ∈ blanks := List.mem_of_mem_head? hc
    exact Token.isWordChar_of_isBlank (hblanks c hmem)
  have hnothing : Token.tokens? blanks = some [] := by
    have hcuts := Token.cuts_blanks hblanks []
    simpa [Token.tokens?] using hcuts
  have htokens : Token.tokens? (v.print ++ blanks) = some (tokensOf v) := by
    rw [print, cutsBefore_printAt h 0 blanks hbreaks, hnothing]
    simp
  have hread := run_tokensOf h []
  simp [parse?, htokens, hread]

end TypedStyle.Json
