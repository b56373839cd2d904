import Mathlib.Data.List.DropRight
import TypedStyle.Grammar.Reference
import TypedStyle.Proofs.Text.Splitting
/-!
# References and their replacement

A reference begins at a `<` that has at least one character other than `>` right behind it and a `>`
somewhere later.  The first such `>` ends it, and all that stands between is its key, even if it
holds another `<` or a line feed.  A pass over a text takes the reference that begins first, goes on
behind it, and ends where there is none left.  There is just one pass over a text, and expanding the
text is to make it once, with definitions in place of the references that have one.

* `reference?_eq_some_iff` — the scanner sees a reference exactly where one begins;
* `Pass.unique`, `madeByPass_pieces` — there is one pass over a text, and the scanner makes it;
* `expand_eq_replaced` — expanding replaces the references of this pass and keeps all else;
* `expand_append` — a text in which no `<` is left open is expanded on its own.
-/

namespace TypedStyle.Grammar

variable {dictionary : Dictionary} {t front key back rest : Text} {c : Char}

/-! ## Where a reference begins -/

/-- A text is a front, a reference and a back.  The key is not empty and has no `>`, so it is all
that stands between the `<` and the first `>` that can end the reference. -/
structure Refers (t front key back : Text) : Prop where
  key_ne_nil : key ≠ []
  notMem_key : '>' ∉ key
  eq_append : t = front ++ '<' :: key ++ '>' :: back

/-- What the scanner sees behind a `<` when a `>` comes somewhere. -/
theorem reference?_append_closing (h : '>' ∉ key) (back : Text) :
    reference? (key ++ '>' :: back) = if key = [] then none else some (key, back) := by
  rw [reference?, Text.takeWhile_ne_append h, Text.dropWhile_ne_append h]
  cases key <;> rfl

/-- **The scanner sees a reference exactly where one begins.** -/
theorem reference?_eq_some_iff :
    reference? rest = some (key, back) ↔ Refers ('<' :: rest) [] key back := by
  constructor
  · intro h
    have hsplit := eq_of_reference? h
    have hclosing : '>' ∈ rest := by simp [hsplit]
    obtain ⟨first, later, heq, hfirst⟩ := List.eq_append_cons_of_mem hclosing
    rw [heq, reference?_append_closing hfirst] at h
    split at h
    · contradiction
    · next hne =>
      obtain ⟨rfl, rfl⟩ : first = key ∧ later = back := by simpa using h
      exact ⟨hne, hfirst, by simpa using heq⟩
  · intro h
    obtain ⟨hne, hclosing, heq⟩ := h
    obtain rfl : rest = key ++ '>' :: back := by simpa using heq
    rw [reference?_append_closing hclosing, if_neg hne]

/-- A text that begins with another character has no reference at its start. -/
theorem not_refers_nil (hc : c ≠ '<') : ¬ Refers (c :: rest) [] key back := by
  intro h
  have heq := h.eq_append
  simp only [List.nil_append, List.cons_append, List.cons.injEq] at heq
  exact hc heq.1

/-- Behind the start, the references of a text are those of its rest. -/
theorem refers_cons {d : Char} :
    Refers (c :: t) (d :: front) key back ↔ c = d ∧ Refers t front key back := by
  constructor
  · intro h
    obtain ⟨hchar, hrest⟩ := List.cons.inj h.eq_append
    exact ⟨hchar, h.key_ne_nil, h.notMem_key, hrest⟩
  · intro h
    obtain ⟨rfl, hne, hclosing, rfl⟩ := h
    exact ⟨hne, hclosing, rfl⟩

/-! ## Passing over a text -/

/-- A reference that is taken, with the plain text in front of it. -/
structure Occurrence where
  front : Text
  key : Text
  deriving DecidableEq, Repr

namespace Occurrence

/-- The plain text and the reference as they are written. -/
def text (occurrence : Occurrence) : Text :=
  occurrence.front ++ '<' :: occurrence.key ++ ['>']

/-- The plain text and what stands for the reference: its definition, or else the reference itself.
-/
def replaced (dictionary : Dictionary) (occurrence : Occurrence) : Text :=
  match dictionary.get? occurrence.key with
  | some definition => occurrence.front ++ definition
  | none => occurrence.text

/-- The plain characters and the reference. -/
def pieces (occurrence : Occurrence) : List Piece :=
  occurrence.front.map Piece.plain ++ [Piece.reference occurrence.key]

end Occurrence

/-- A pass over a text takes the reference that begins first and goes on behind it.  The text behind
the last reference is left over. -/
inductive Pass : Text → List Occurrence → Text → Prop
  | done {t : Text} (none_left : ∀ front key back, ¬ Refers t front key back) : Pass t [] t
  | next {t front key back last : Text} {later : List Occurrence} (refers : Refers t front key back)
      (leftmost : ∀ other key' back', Refers t other key' back' → front.length ≤ other.length)
      (rest : Pass back later last) :
      Pass t (⟨front, key⟩ :: later) last

/-- Two references that begin at the same place of a text are the same. -/
theorem Refers.eq_of_length {other key' back' : Text} (h : Refers t front key back)
    (h' : Refers t other key' back') (hlength : front.length = other.length) :
    front = other ∧ key = key' ∧ back = back' := by
  have heq := h.eq_append.symm.trans h'.eq_append
  rw [List.append_assoc, List.append_assoc] at heq
  obtain ⟨rfl, hrest⟩ := List.append_inj heq hlength
  have hfound : reference? (key ++ '>' :: back) = some (key, back) :=
    reference?_eq_some_iff.mpr ⟨h.key_ne_nil, h.notMem_key, rfl⟩
  have hfound' : reference? (key ++ '>' :: back) = some (key', back') :=
    reference?_eq_some_iff.mpr ⟨h'.key_ne_nil, h'.notMem_key, hrest⟩
  rw [hfound] at hfound'
  simpa using hfound'

/-- **There is at most one pass over a text.**  By induction on one of the two: both take the
reference that begins first. -/
theorem Pass.unique {a b : List Occurrence} {last last' : Text} (ha : Pass t a last)
    (hb : Pass t b last') : b = a ∧ last' = last := by
  induction ha generalizing b with
  | done none_left =>
      cases hb with
      | done => exact ⟨rfl, rfl⟩
      | next refers => exact absurd refers (none_left _ _ _)
  | next refers leftmost _ ih =>
      cases hb with
      | done none_left => exact absurd refers (none_left _ _ _)
      | next refers' leftmost' rest' =>
          have hlength := Nat.le_antisymm (leftmost _ _ _ refers') (leftmost' _ _ _ refers)
          obtain ⟨rfl, rfl, rfl⟩ := refers.eq_of_length refers' hlength
          obtain ⟨rfl, rfl⟩ := ih rest'
          exact ⟨rfl, rfl⟩

/-! ## The pass that the scanner makes -/

/-- A reference in front is the first piece. -/
theorem pieces_reference (h : reference? rest = some (key, back)) :
    pieces ('<' :: rest) = .reference key :: pieces back := by
  rw [pieces, if_pos rfl]
  split <;> simp_all

/-- Any other character in front is one by itself. -/
theorem pieces_plain (h : c = '<' → reference? rest = none) :
    pieces (c :: rest) = .plain c :: pieces rest := by
  rw [pieces]
  split
  · next hc =>
    split
    · next hfound => rw [h hc] at hfound; contradiction
    · rfl
  · rfl

/-- The pieces are the plain characters and the references of a pass over the text. -/
def MadeByPass (t : Text) (pieces : List Piece) : Prop :=
  ∃ found last, Pass t found last ∧
    pieces = found.flatMap Occurrence.pieces ++ last.map Piece.plain

/-- Where no reference begins, a pass goes on to the next character. -/
theorem MadeByPass.cons {rest : List Piece} (hnone : ∀ key back, ¬ Refers (c :: t) [] key back)
    (h : MadeByPass t rest) : MadeByPass (c :: t) (.plain c :: rest) := by
  obtain ⟨found, last, hpass, rfl⟩ := h
  cases hpass with
  | done none_left =>
      refine ⟨[], c :: t, .done fun front key back h => ?_, rfl⟩
      -- a reference would begin at the first character or in the rest, and neither has one
      cases front with
      | nil => exact hnone key back h
      | cons d front => exact none_left front key back (refers_cons.mp h).2
  | @next _ front key _ _ later refers leftmost rest =>
      refine ⟨⟨c :: front, key⟩ :: later, last,
        .next (refers_cons.mpr ⟨rfl, refers⟩) (fun other key' back' h => ?_) rest, by
          simp [Occurrence.pieces]⟩
      cases other with
      | nil => exact absurd h (hnone key' back')
      | cons d other => exact Nat.succ_le_succ (leftmost other key' back' (refers_cons.mp h).2)

/-- **The scanner passes over every text.**  The induction is on the scanner. -/
theorem madeByPass_pieces (t : Text) : MadeByPass t (pieces t) := by
  fun_induction pieces t with
  | case1 => exact ⟨[], [], .done fun front key back h => by simpa using h.eq_append, rfl⟩
  | case2 rest key behind hfound _ ih =>
      obtain ⟨found, last, hpass, hpieces⟩ := ih
      refine ⟨⟨[], key⟩ :: found, last,
        .next (reference?_eq_some_iff.mp hfound) (fun _ _ _ _ => Nat.zero_le _) hpass, ?_⟩
      simp [Occurrence.pieces, hpieces]
  | case3 rest hnone ih =>
      refine ih.cons fun key back h => ?_
      rw [← reference?_eq_some_iff, hnone] at h
      contradiction
  | case4 c rest hc ih => exact ih.cons fun key back => not_refers_nil hc

/-! ## Replacing the references of the pass -/

/-- Plain characters are left as they are. -/
theorem flatMap_expand_plain (dictionary : Dictionary) (t : Text) :
    (t.map Piece.plain).flatMap (Piece.expand dictionary) = t := by
  simp [List.flatMap_map, Piece.expand]

/-- The pieces of an occurrence are replaced by what stands for it. -/
theorem Occurrence.flatMap_expand_pieces (dictionary : Dictionary) (occurrence : Occurrence) :
    occurrence.pieces.flatMap (Piece.expand dictionary) = occurrence.replaced dictionary := by
  rw [pieces, List.flatMap_append, flatMap_expand_plain, List.flatMap_singleton, Piece.expand,
    replaced]
  cases dictionary.get? occurrence.key <;> simp [text, Piece.text]

/-- Expanding a text replaces the references of a pass over it. -/
theorem expand_of_pass {found : List Occurrence} {last : Text} (h : Pass t found last) :
    expand dictionary t = found.flatMap (Occurrence.replaced dictionary) ++ last := by
  obtain ⟨found', last', hpass, hpieces⟩ := madeByPass_pieces t
  obtain ⟨rfl, rfl⟩ := h.unique hpass
  rw [expand_eq_flatMap, hpieces, List.flatMap_append, flatMap_expand_plain, List.flatMap_assoc]
  simp only [Occurrence.flatMap_expand_pieces]

/-- A pass over a text loses nothing of it. -/
theorem Pass.text_eq {found : List Occurrence} {last : Text} (h : Pass t found last) :
    t = found.flatMap Occurrence.text ++ last := by
  induction h with
  | done => rfl
  | next refers _ _ ih =>
      rw [refers.eq_append]
      nth_rewrite 1 [ih]
      simp [Occurrence.text]

/-- Where the dictionary has no definition, a reference stays as it is written. -/
theorem Occurrence.replaced_eq_text {occurrence : Occurrence}
    (h : dictionary.get? occurrence.key = none) :
    occurrence.replaced dictionary = occurrence.text := by
  rw [replaced, h]

/-- **Expanding a text is one substitution pass over it.**  There is exactly one pass over the text,
and it loses nothing.  Expanding puts the definitions in place of the references of this pass that
have one, without looking at them again, and keeps every other character.  Hence dictionaries that
agree on the keys of these references expand the text alike; it stays as it is under a dictionary
that has none of them, and in particular under an empty one. -/
theorem expand_eq_replaced (t : Text) :
    ∃ (found : List Occurrence) (last : Text),
      (∀ others rest, Pass t others rest ↔ others = found ∧ rest = last) ∧
      t = found.flatMap Occurrence.text ++ last ∧
      (∀ dictionary, expand dictionary t =
        found.flatMap (Occurrence.replaced dictionary) ++ last) ∧
      (∀ dictionary dictionary' : Dictionary,
        (∀ occurrence ∈ found,
          dictionary.get? occurrence.key = dictionary'.get? occurrence.key) →
        expand dictionary t = expand dictionary' t) ∧
      (∀ dictionary : Dictionary,
        (∀ occurrence ∈ found, dictionary.get? occurrence.key = none) →
        expand dictionary t = t) ∧
      ∀ dictionary : Dictionary, dictionary.size = 0 → expand dictionary t = t := by
  obtain ⟨found, last, hpass, -⟩ := madeByPass_pieces t
  have hexpand : ∀ dictionary, expand dictionary t =
      found.flatMap (Occurrence.replaced dictionary) ++ last := fun _ => expand_of_pass hpass
  have hunknown : ∀ dictionary : Dictionary,
      (∀ occurrence ∈ found, dictionary.get? occurrence.key = none) → expand dictionary t = t := by
    intro dictionary hnone
    have hsame : found.flatMap (Occurrence.replaced dictionary) = found.flatMap Occurrence.text :=
      List.flatMap_congr fun occurrence hmem => Occurrence.replaced_eq_text (hnone occurrence hmem)
    rw [hexpand, hsame, ← hpass.text_eq]
  refine ⟨found, last, fun others rest => ⟨hpass.unique, fun h => ?_⟩, hpass.text_eq, hexpand, ?_,
    hunknown, ?_⟩
  · rw [h.1, h.2]
    exact hpass
  · intro dictionary dictionary' hagree
    rw [hexpand, hexpand]
    refine congrArg (· ++ last) (List.flatMap_congr fun occurrence hmem => ?_)
    rw [Occurrence.replaced, Occurrence.replaced, hagree occurrence hmem]
  · intro dictionary hsize
    exact hunknown dictionary fun occurrence _ => dictionary.get?_of_size_eq_zero hsize _

/-- Right behind the first `<` comes a `>`, the next one begins a reference with a `<` in its key,
and the last one is left open. -/
example : expand (Table.ofList [("a<b", "<c>"), ("c", "none")]) "<> <a<b> <c" =
    Text.ofString "<> <c> <c" := by
  decide +kernel

/-! ## Texts that leave no reference open -/

/-- No `<` of the text comes after the last `>`; without any `>`, there is none at all. -/
def EndsClosed (t : Text) : Prop :=
  '<' ∉ t.rtakeWhile (· ≠ '>')

instance (t : Text) : Decidable (EndsClosed t) :=
  inferInstanceAs (Decidable ('<' ∉ t.rtakeWhile (· ≠ '>')))

/-- A text ends closed when every `<` has a `>` behind it. -/
theorem endsClosed_iff : EndsClosed t ↔ ∀ front back, t = front ++ '<' :: back → '>' ∈ back := by
  constructor
  · intro h front back heq
    subst heq
    by_contra hclosing
    have hback : ∀ c ∈ back.reverse, decide (c ≠ '>') = true :=
      Text.forall_ne_of_notMem (by simpa using hclosing)
    apply h
    rw [List.rtakeWhile, List.reverse_append, List.reverse_cons, List.append_assoc,
      List.takeWhile_append_of_pos hback]
    simp
  · intro h hopen
    obtain ⟨middle, back, heq⟩ := List.append_of_mem hopen
    have hclosing : '>' ∈ back := by
      apply h (t.rdropWhile (· ≠ '>') ++ middle) back
      rw [List.append_assoc, ← heq, List.rdropWhile_append_rtakeWhile]
    have hin : '>' ∈ t.rtakeWhile (· ≠ '>') := by
      rw [heq]
      simp [hclosing]
    simpa using List.mem_rtakeWhile_imp hin

/-- A text that ends closed still does so without its front. -/
theorem EndsClosed.of_append (front : Text) (h : EndsClosed (front ++ t)) : EndsClosed t := by
  rw [endsClosed_iff] at h ⊢
  intro middle back heq
  exact h (front ++ middle) back (by rw [heq, List.append_assoc])

/-- Where all references are closed, a bracket that opens is followed by one that closes. -/
theorem EndsClosed.mem_closing (h : EndsClosed ('<' :: rest)) : '>' ∈ rest :=
  endsClosed_iff.mp h [] rest rfl

/-- Where none opens, all are closed. -/
theorem endsClosed_of_notMem (h : '<' ∉ t) : EndsClosed t :=
  endsClosed_iff.mpr fun front back heq => absurd (by simp [heq]) h

/-- What the scanner sees behind a `<` does not depend on what comes after a `>`. -/
theorem reference?_append (h : '>' ∈ t) (back : Text) :
    reference? (t ++ back) = (reference? t).map fun found => (found.1, found.2 ++ back) := by
  obtain ⟨key, rest, rfl, hkey⟩ := List.eq_append_cons_of_mem h
  rw [List.append_assoc, List.cons_append, reference?_append_closing hkey,
    reference?_append_closing hkey]
  split <;> rfl

/-- **Behind a text that ends closed, the scanner starts anew.**  The induction is on the scanner: a
`<` that begins no reference has a `>` behind it, which keeps it from beginning one with more text.
-/
theorem pieces_append (h : EndsClosed t) (back : Text) :
    pieces (t ++ back) = pieces t ++ pieces back := by
  fun_induction pieces t with
  | case1 => rfl
  | case2 rest key behind hfound _ ih =>
      have hbehind : EndsClosed behind := by
        rw [eq_of_reference? hfound] at h
        exact EndsClosed.of_append ('<' :: key ++ ['>']) (by simpa using h)
      have hmore : reference? (rest ++ back) = some (key, behind ++ back) := by
        rw [reference?_append h.mem_closing, hfound, Option.map_some]
      rw [List.cons_append, pieces_reference hmore, ih hbehind, List.cons_append]
  | case3 rest hnone ih =>
      -- the `>` behind this `<` stands right behind it, or else a reference would begin here
      have hmore : reference? (rest ++ back) = none := by
        rw [reference?_append h.mem_closing, hnone, Option.map_none]
      rw [List.cons_append, pieces_plain fun _ => hmore, ih (h.of_append ['<']),
        List.cons_append]
  | case4 c rest hc ih =>
      rw [List.cons_append, pieces_plain fun heq => absurd heq hc,
        ih (h.of_append [c]), List.cons_append]

/-- A text that ends closed is expanded on its own, whatever stands behind it. -/
theorem expand_append (h : EndsClosed t) (back : Text) :
    expand dictionary (t ++ back) = expand dictionary t ++ expand dictionary back := by
  rw [expand_eq_flatMap, expand_eq_flatMap, expand_eq_flatMap, pieces_append h,
    List.flatMap_append]

/-- A text without `<` has no references. -/
theorem expand_of_notMem (h : '<' ∉ t) : expand dictionary t = t :=
  expand_of_pass (.done fun front key back hrefers => h (by simp [hrefers.eq_append]))

end TypedStyle.Grammar
