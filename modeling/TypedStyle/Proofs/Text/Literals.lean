import Mathlib.Data.List.DropRight
import TypedStyle.Proofs.Text.Unquoting
/-!
# Literals that cannot be left

Generated code holds the texts of a spec in string literals only.  Whatever such a text is, its
literal has no raw line end in it, each quote inside has a backslash of its own, and by the grammar
of literals it says that text and no other.  So nothing in a spec ends a literal early, and the code
behind the literal is what was written there.  It does not matter which of the characters without
an escape of two characters are numbered.

* `isEscaped_of_denotes` — inside of what the grammar accepts, every quote is escaped;
* `Denotes.unique` — the grammar lets a literal say one text only;
* `quote_denotes_exactly` — the literal of a text, in all these respects.
-/

namespace TypedStyle.Text

namespace Quoted

variable {numbered : Char → Bool} {body front back t u : Text}

/-! ## Escaped quotes -/

/-- Is the character behind this text escaped, inside of a literal?  It is if the backslashes in
front of it are odd in number, since two of them are one that is escaped. -/
def isEscaped (front : Text) : Bool :=
  (front.rtakeWhile (· = '\\')).length % 2 = 1

/-- Is the next character escaped, given whether this one is? -/
def escapesNext (escaped : Bool) (c : Char) : Bool :=
  !escaped && c = '\\'

/-- From left to right, a backslash escapes the next character unless it is escaped itself. -/
theorem isEscaped_eq_foldl (front : Text) : isEscaped front = front.foldl escapesNext false := by
  induction front using List.reverseRecOn with
  | nil => rfl
  | append_singleton front c ih =>
      rw [List.foldl_append, ← ih, List.foldl_cons, List.foldl_nil, isEscaped, isEscaped,
        escapesNext]
      by_cases hc : c = '\\'
      · rw [List.rtakeWhile_concat_pos _ _ _ (by simpa using hc), List.length_append,
          List.length_singleton, decide_eq_true hc, Bool.and_true, ← decide_not]
        exact decide_eq_decide.mpr (by omega)
      · rw [List.rtakeWhile_concat_neg _ _ _ (by simpa using hc), decide_eq_false hc,
          Bool.and_false]
        rfl

/-- A part without a quote stands in front of the first quote. -/
theorem exists_of_append_eq (piece : Text) (hpiece : '"' ∉ piece)
    (h : piece ++ body = front ++ '"' :: back) :
    ∃ rest, front = piece ++ rest ∧ body = rest ++ '"' :: back := by
  rcases List.append_eq_append_iff.mp h with ⟨rest, hfront, hbody⟩ | ⟨rest, hfront, hbody⟩
  · exact ⟨rest, hfront, hbody⟩
  · cases rest with
    | nil => exact ⟨[], by simpa using hfront.symm, by simpa using hbody.symm⟩
    | cons c rest =>
        obtain ⟨rfl, -⟩ := List.cons.inj hbody
        exact absurd (hfront ▸ by simp) hpiece

/-- Digits of base sixteen escape nothing, and the brace behind them does not either. -/
theorem foldl_escapesNext_digits {digits : Text}
    (h : ∀ d ∈ digits, Code.isHexDigit d = true) :
    (digits ++ ['\x7d']).foldl escapesNext false = false := by
  induction digits with
  | nil => rfl
  | cons d digits ih =>
      obtain ⟨hd, hdigits⟩ := List.forall_mem_cons.mp h
      have hne : d ≠ '\\' := by
        rintro rfl
        contradiction
      rw [List.cons_append, List.foldl_cons, escapesNext, decide_eq_false hne, Bool.and_false]
      exact ih hdigits

/-- **Every quote inside of a literal is escaped**, where it says something by the grammar. -/
theorem isEscaped_of_denotes (h : Denotes body t) (hbody : body = front ++ '"' :: back) :
    isEscaped front = true := by
  rw [isEscaped_eq_foldl]
  -- Behind what says one character, nothing is escaped: so the scan begins anew.
  induction h generalizing front with
  | nothing => simp at hbody
  | @itself c body t hc h ih =>
      simp only [List.mem_cons, not_or] at hc
      obtain ⟨rest, rfl, hrest⟩ := exists_of_append_eq [c]
        (by simpa using Ne.symm hc.1) hbody
      rw [List.foldl_append, List.foldl_cons, List.foldl_nil, escapesNext,
        decide_eq_false hc.2.1]
      exact ih hrest
  | @short e c body t he h ih =>
      obtain ⟨rest, rfl, hrest⟩ := exists_of_append_eq ['\\'] (by decide) hbody
      cases rest with
      | nil => rfl
      | cons d rest =>
          obtain ⟨rfl, htail⟩ := List.cons.inj hrest
          show rest.foldl escapesNext false = true
          exact ih htail
  | @number digits c body t hdigits hnumber hc h ih =>
      have hquote : '"' ∉ digits := fun hmem => absurd (hdigits _ hmem) (by decide)
      have hsplit : ('\\' :: 'u' :: '\x7b' :: (digits ++ ['\x7d'])) ++ body =
          front ++ '"' :: back := by simpa using hbody
      obtain ⟨rest, rfl, hrest⟩ := exists_of_append_eq _ (by simp [hquote]) hsplit
      have hopen : ('\\' :: 'u' :: '\x7b' :: (digits ++ ['\x7d'])).foldl escapesNext false =
          (digits ++ ['\x7d']).foldl escapesNext false := rfl
      rw [List.foldl_append, hopen, foldl_escapesNext_digits hdigits]
      exact ih hrest

/-! ## One text -/

/-- **A literal says one text at most.** -/
theorem Denotes.unique (h : Denotes body t) (h' : Denotes body u) : t = u := by
  have hread := (content?_of_denotes h []).symm.trans (content?_of_denotes h' [])
  exact (Prod.mk.inj (Option.some.inj hread)).1

/-- No line end and no null character is left as it is. -/
theorem not_mem_spellWith {c : Char} (hc : c ∈ ['\n', '\r', '\x00']) :
    c ∉ spellWith numbered t := by
  have hpieces : ∀ c ∈ ['\n', '\r', '\x00'], Code.isHexDigit c = false ∧
      c ∉ ['\\', 'u', '\x7b', '\x7d'] ∧ c ∈ ['\x00', '\r', '\n', '"', '\\'] :=
    forall_mem_of_all (by decide)
  obtain ⟨hdigit, hpiece, hraw⟩ := hpieces c hc
  intro hmem
  obtain ⟨d, -, hspelled⟩ := List.mem_flatMap.mp hmem
  rcases Code.escapeWith_cases numbered d with hshort | hnumber | ⟨hself, hd⟩
  · -- The escapes of two characters are computed.
    have hescapes : ∀ c ∈ ['\n', '\r', '\x00'],
        ['\x00', '\t', '\r', '\n', '"', '\\'].all (fun e =>
          decide (c ∉ escapeWith (fun _ => false) e)) = true := forall_mem_of_all (by decide)
    have hsame : escapeWith numbered d = escapeWith (fun _ => false) d := by
      rcases hshort with rfl | rfl | rfl | rfl | rfl | rfl <;> rfl
    exact forall_mem_of_all (hescapes c hc) d (by simpa using hshort) (hsame ▸ hspelled)
  · rw [hnumber] at hspelled
    have hdigits : c ∉ Nat.toDigits 16 d.toNat := fun hmem =>
      absurd (Code.isHexDigit_of_mem_toDigits c hmem) (by simp [hdigit])
    simp_all
  · rw [hself] at hspelled
    obtain rfl := List.mem_singleton.mp hspelled
    exact hd hraw

end Quoted

/-! ## Literals -/

/-- The string literal of a text where `numbered` decides which characters are numbered, of those
that have no escape of two characters. -/
def quoteWith (numbered : Char → Bool) (t : Text) : Text :=
  '"' :: Quoted.spellWith numbered t ++ ['"']

open Quoted in
/-- **The literal of a text says the text and ends at its closing quote.**  There is no line end and
no null character in it and no quote inside that is not escaped; by the grammar it says the text and
nothing else; a reader of code finds what stands behind it, and finds the text in it.  So of two
texts in code, each with anything behind it, neither the literals nor the code behind them can be
taken for one another. -/
theorem quote_denotes_exactly (numbered : Char → Bool) (t : Text) :
    quote t = quoteWith isNumbered t ∧
    (∀ c ∈ ['\n', '\r', '\x00'], c ∉ quoteWith numbered t) ∧
    (∀ front back, spellWith numbered t = front ++ '"' :: back → isEscaped front = true) ∧
    (∀ u, Denotes (spellWith numbered t) u ↔ u = t) ∧
    (∀ behind, Code.Spelling.behind? (quoteWith numbered t ++ behind) = some behind ∧
      unquote? (quoteWith numbered t ++ behind) = some (t, behind)) ∧
    ∀ other u behind behind', quoteWith numbered t ++ behind = quoteWith other u ++ behind' →
      t = u ∧ behind = behind' := by
  have hdenotes := Code.denotes_spellWith numbered t
  have hread : ∀ choice v rest, unquote? (quoteWith choice v ++ rest) = some (v, rest) := by
    intro choice v rest
    rw [quoteWith, List.append_assoc, List.cons_append]
    exact content?_of_denotes (Code.denotes_spellWith choice v) rest
  refine ⟨rfl, fun c hc hmem => ?_, fun front back => isEscaped_of_denotes hdenotes, fun u => ?_,
    fun behind => ⟨?_, hread numbered t behind⟩, fun other u behind behind' heq => ?_⟩
  · have hquote : c ≠ '"' := by
      rintro rfl
      exact absurd hc (by decide)
    exact not_mem_spellWith hc (by simpa [quoteWith, hquote] using hmem)
  · exact ⟨fun hu => hu.unique hdenotes, fun hu => hu ▸ hdenotes⟩
  · have hlength := Code.Spelling.length_le_of_denotes hdenotes
    rw [quoteWith, List.append_assoc, List.cons_append]
    exact Code.Spelling.behindString?_of_denotes hdenotes behind
      (hlength.trans (by rw [List.length_append]; exact Nat.le_add_right _ _))
  · have hsame := (hread numbered t behind).symm.trans (heq ▸ hread other u behind')
    exact Prod.mk.inj (Option.some.inj hsame)

/-- A quote behind two backslashes does not end the literal, and a character that is joined to the
one before it is numbered. -/
example : quote ['\\', '"', '\u0301'] = "\"\\\\\\\"\\u\x7b301\x7d\"" := by decide

end TypedStyle.Text
