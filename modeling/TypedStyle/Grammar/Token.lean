import TypedStyle.Text.Basic
/-!
# Tokens of a value grammar

A token is a run of small letters and hyphens, or a run of digits, whose two ends are word
boundaries: of the two characters that meet there, exactly one is a letter, a digit or `_`, where
the ends of the text count as neither.  Tokens are found from left to right, and of the runs that
start at one place the longest is taken.

* `longestSpan_prefix`, `longestSpan_all` — the run found is the start of the text and of one kind.
-/

namespace TypedStyle.Grammar

/-- Is the character a letter, a digit or `_`? -/
def isWordChar (c : Char) : Bool :=
  c.isAlphanum || c = '_'

/-- Is the place between two neighbours, either of which may be missing, a word boundary? -/
def isBoundary (left right : Option Char) : Bool :=
  left.any isWordChar != right.any isWordChar

/-- Is the character a small letter or a hyphen? -/
def isNameChar (c : Char) : Bool :=
  c.isLower || c = '-'

/-- The longest run of a kind of characters at the start of a text that ends at a word boundary. -/
def longestSpan (kind : Char → Bool) : Text → Option Text
  | [] => none
  | c :: rest =>
    if kind c then
      match longestSpan kind rest with
      | some span => some (c :: span)
      | none => if isBoundary (some c) rest.head? then some [c] else none
    else none

/-- The longest span stands at the front of the text. -/
theorem longestSpan_prefix {kind : Char → Bool} {t span : Text}
    (h : longestSpan kind t = some span) : span <+: t := by
  fun_induction longestSpan kind t generalizing span with
  | case1 => simp at h
  | case2 c rest _ inner hinner ih =>
    obtain rfl := Option.some.inj h
    exact (List.prefix_cons_inj c).2 (ih hinner)
  | case3 c rest =>
    obtain rfl := Option.some.inj h
    exact ⟨rest, rfl⟩
  | case4 => simp at h
  | case5 => simp at h

/-- All of its characters are of the kind that is looked for. -/
theorem longestSpan_all {kind : Char → Bool} {t span : Text}
    (h : longestSpan kind t = some span) : ∀ c ∈ span, kind c = true := by
  fun_induction longestSpan kind t generalizing span with
  | case1 => simp at h
  | case2 c rest hc inner hinner ih =>
    obtain rfl := Option.some.inj h
    exact List.forall_mem_cons.2 ⟨hc, ih hinner⟩
  | case3 c rest hc =>
    obtain rfl := Option.some.inj h
    simpa using hc
  | case4 => simp at h
  | case5 => simp at h

/-- The token that starts a text, given the character before the text. -/
def tokenAt? (before : Option Char) (t : Text) : Option Text :=
  if isBoundary before t.head? then
    (longestSpan isNameChar t).or (longestSpan Char.isDigit t)
  else none

/-- The tokens of a text, given the character before it, when its first `inside` characters still
belong to the token found last. -/
def tokensFrom (before : Option Char) (inside : Nat) : Text → List Text
  | [] => []
  | c :: rest =>
    match inside with
    | more + 1 => tokensFrom (some c) more rest
    | 0 =>
      match tokenAt? before (c :: rest) with
      | some token => token :: tokensFrom (some c) (token.length - 1) rest
      | none => tokensFrom (some c) 0 rest

/-- The tokens of a text, from left to right. -/
def tokens (t : Text) : List Text :=
  tokensFrom none 0 t

end TypedStyle.Grammar
