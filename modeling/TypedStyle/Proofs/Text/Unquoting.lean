import TypedStyle.Proofs.Code.Quoting
/-!
# What string literals say

A string literal is read back one character after the other, and says the text that it was made of.

* `content?_of_denotes` — the reader follows the grammar of literals;
* `unquote?_quote` — the literal of a text says the text, whatever stands behind it.
-/

namespace TypedStyle.Text

namespace Quoted

/-- A character in front of what has been read. -/
def push (c : Char) (read : Text × Text) : Text × Text :=
  (c :: read.1, read.2)

/-- What a literal says up to its closing quote, and the text behind that.  Within the braces of an
escape the first argument is the number that has been read so far. -/
def content? : Option Nat → Text → Option (Text × Text)
  | _, [] => none
  | some n, c :: rest =>
    if c = '\x7d' then (content? none rest).map (push (Char.ofNat n))
    else if Code.isHexDigit c then content? (some (16 * n + Code.hexDigitValue c)) rest
    else none
  | none, '"' :: rest => some ([], rest)
  | none, '\\' :: 'u' :: '\x7b' :: rest => content? (some 0) rest
  | none, '\\' :: c :: rest => do
    let d ← shortEscape? c
    (content? none rest).map (push d)
  | none, c :: rest => (content? none rest).map (push c)

/-- The digits of a number are read up to the brace. -/
theorem content?_digits {digits : Text} (h : ∀ c ∈ digits, Code.isHexDigit c = true) (n : Nat)
    (rest : Text) : content? (some n) (digits ++ '\x7d' :: rest) = (content? none rest).map
      (push (Char.ofNat (digits.foldl (fun n c => 16 * n + Code.hexDigitValue c) n))) := by
  induction digits generalizing n with
  | nil => rfl
  | cons c digits ih =>
      obtain ⟨hc, hdigits⟩ := List.forall_mem_cons.mp h
      have hne : c ≠ '\x7d' := by
        rintro rfl
        contradiction
      rw [List.cons_append, content?, if_neg hne, if_pos hc, ih hdigits]
      rfl

/-- **What a literal says by the grammar is read**, up to its closing quote. -/
theorem content?_of_denotes {body t : Text} (h : Denotes body t) (rest : Text) :
    content? none (body ++ '"' :: rest) = some (t, rest) := by
  induction h with
  | nothing => rfl
  | @itself c body t hc h ih =>
      have hstep : content? none (c :: (body ++ '"' :: rest)) =
          (content? none (body ++ '"' :: rest)).map (push c) := by
        conv => lhs; unfold content?
        split <;> simp_all
      rw [List.cons_append, hstep, ih]
      rfl
  | @short e c body t he h ih =>
      have hstep : content? none ('\\' :: e :: (body ++ '"' :: rest)) =
          (content? none (body ++ '"' :: rest)).map (push c) := by
        unfold shortEscape? at he
        split at he <;> first | (obtain rfl := Option.some.inj he; rfl) | simp at he
      rw [List.cons_append, List.cons_append, hstep, ih]
      rfl
  | @number digits c body t hdigits hnumber hc h ih =>
      have hstep : ∀ t, content? none ('\\' :: 'u' :: '\x7b' :: t) = content? (some 0) t :=
        fun t => rfl
      have hvalue : digits.foldl (fun n c => 16 * n + Code.hexDigitValue c) 0 = c.toNat := hc
      simp only [List.cons_append, List.append_assoc]
      rw [hstep, content?_digits hdigits, hvalue, Char.ofNat_toNat, ih]
      rfl

end Quoted

/-- What the string literal at the start of a text says, and the text behind it. -/
def unquote? : Text → Option (Text × Text)
  | '"' :: rest => Quoted.content? none rest
  | _ => none

/-- **The literal of a text says the text.** -/
theorem unquote?_quote (t rest : Text) : unquote? (quote t ++ rest) = some (t, rest) := by
  rw [quote, List.append_assoc, List.cons_append]
  exact Quoted.content?_of_denotes (Code.denotes_spellWith Quoted.isNumbered t) rest

end TypedStyle.Text
