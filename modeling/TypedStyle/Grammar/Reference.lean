import TypedStyle.Table
/-!
# References in a value grammar

A value grammar names other grammars between angle brackets, as in `<color> | none`.  A reference
is a `<`, then at least one character other than `>`, then a `>`; what stands between is its key.
Expanding a grammar replaces, in one pass from left to right, each reference that a dictionary
knows by its definition; definitions are not looked at again.

* `flatMap_text_pieces` — cutting a grammar into pieces loses nothing;
* `expand_eq_flatMap` — an empty dictionary, for which a grammar is not even read, is no special
  case.
-/

namespace TypedStyle.Grammar

/-- The named grammars that references are looked up in. -/
abbrev Dictionary := Table Text

/-- A grammar is read as single characters and references. -/
inductive Piece where
  | plain (c : Char)
  | reference (key : Text)
  deriving DecidableEq, Repr

/-- The piece as it is written. -/
def Piece.text : Piece → Text
  | .plain c => [c]
  | .reference key => '<' :: key ++ ['>']

/-- Behind a `<`, the key of the reference that starts there and the text behind it. -/
def reference? (t : Text) : Option (Text × Text) :=
  match t.takeWhile (· ≠ '>'), t.dropWhile (· ≠ '>') with
  | c :: key, _ :: rest => some (c :: key, rest)
  | _, _ => none

/-- A reference is what it names, its bracket and what is left. -/
theorem eq_of_reference? {t key rest : Text} (h : reference? t = some (key, rest)) :
    t = key ++ '>' :: rest := by
  have split := List.takeWhile_append_dropWhile (p := fun c : Char => decide (c ≠ '>')) (l := t)
  simp only [reference?] at h
  split at h
  · next c k d r htake hdrop =>
    simp only [Option.some.injEq, Prod.mk.injEq] at h
    obtain ⟨rfl, rfl⟩ := h
    have hd : d = '>' := by
      have := List.head?_dropWhile_not (fun c : Char => decide (c ≠ '>')) t
      rw [hdrop] at this
      simpa using this
    rw [← split, htake, hdrop, hd]
  · exact absurd h (by simp)

/-- A reference leaves less than there was. -/
theorem length_lt_of_reference? {t key rest : Text} (h : reference? t = some (key, rest)) :
    rest.length < t.length := by
  rw [eq_of_reference? h]
  simp
  omega

/-- The pieces of a grammar, from left to right. -/
def pieces : Text → List Piece
  | [] => []
  | c :: rest =>
    if c = '<' then
      match h : reference? rest with
      | some (key, behind) =>
        have : behind.length < rest.length := length_lt_of_reference? h
        .reference key :: pieces behind
      | none => .plain c :: pieces rest
    else .plain c :: pieces rest
termination_by t => t.length

/-- The pieces, written one behind the other, are the grammar. -/
theorem flatMap_text_pieces (t : Text) : (pieces t).flatMap Piece.text = t := by
  fun_induction pieces t with
  | case1 => rfl
  | case2 rest key behind h _ ih => simp [Piece.text, ih, eq_of_reference? h]
  | case3 rest _ ih => simp [Piece.text, ih]
  | case4 c rest _ ih => simp [Piece.text, ih]

/-- What stands for a piece once references are replaced. -/
def Piece.expand (dictionary : Dictionary) : Piece → Text
  | .plain c => [c]
  | .reference key => (dictionary.get? key).getD (Piece.reference key).text

/-- The grammar with every reference that the dictionary knows replaced by its definition.  A
dictionary without definitions has nothing to look up, so the grammar is not read at all. -/
def expand (dictionary : Dictionary) (t : Text) : Text :=
  if dictionary.size = 0 then t
  else (pieces t).flatMap (Piece.expand dictionary)

/-- A dictionary without definitions replaces no piece. -/
theorem Piece.expand_of_size_eq_zero {dictionary : Dictionary} (h : dictionary.size = 0)
    (piece : Piece) : piece.expand dictionary = piece.text := by
  cases piece with
  | plain c => rfl
  | reference key => rw [Piece.expand, dictionary.get?_of_size_eq_zero h, Option.getD_none]

/-- **A grammar is expanded piece by piece**, under a dictionary without definitions as well. -/
theorem expand_eq_flatMap (dictionary : Dictionary) (t : Text) :
    expand dictionary t = (pieces t).flatMap (Piece.expand dictionary) := by
  by_cases hempty : dictionary.size = 0
  · have hsame : Piece.expand dictionary = Piece.text :=
      funext (Piece.expand_of_size_eq_zero hempty)
    rw [expand, if_pos hempty, hsame, flatMap_text_pieces]
  · rw [expand, if_neg hempty]

end TypedStyle.Grammar
