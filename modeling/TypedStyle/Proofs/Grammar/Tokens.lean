import TypedStyle.Grammar.Keyword
import TypedStyle.Proofs.Naming
/-!
# Characters of tokens and keywords

Whatever a grammar holds, its tokens are runs of small letters and hyphens or runs of digits, and so
are its keywords.

* `forall_mem_of_mem_tokens` — a token is a run of one kind;
* `mem_keywords_iff` — a keyword is an accepted token;
* `isKebabChar_of_mem_keywords` — a keyword has small letters, digits and hyphens only.
-/

namespace TypedStyle.Grammar

/-- A token that starts a text is a run of one kind. -/
theorem forall_mem_of_tokenAt? {before : Option Char} {t token : Text}
    (h : tokenAt? before t = some token) :
    (∀ c ∈ token, isNameChar c = true) ∨ ∀ c ∈ token, c.isDigit = true := by
  unfold tokenAt? at h
  split at h
  · rcases Option.or_eq_some_iff.mp h with hname | ⟨-, hdigits⟩
    · exact Or.inl (longestSpan_all hname)
    · exact Or.inr (longestSpan_all hdigits)
  · contradiction

/-- Every token that is found is a run of one kind.  The induction is on the text. -/
theorem forall_mem_of_mem_tokensFrom {before : Option Char} {inside : Nat} {t token : Text}
    (h : token ∈ tokensFrom before inside t) :
    (∀ c ∈ token, isNameChar c = true) ∨ ∀ c ∈ token, c.isDigit = true := by
  induction t generalizing before inside with
  | nil => exact absurd h List.not_mem_nil
  | cons c rest ih =>
      cases inside with
      | succ more => exact ih h
      | zero =>
          rw [tokensFrom] at h
          split at h
          · next found hfound =>
            rcases List.mem_cons.mp h with rfl | hlater
            · exact forall_mem_of_tokenAt? hfound
            · exact ih hlater
          · exact ih h

/-- **A token is a run of small letters and hyphens, or of digits.** -/
theorem forall_mem_of_mem_tokens {t token : Text} (h : token ∈ tokens t) :
    (∀ c ∈ token, isNameChar c = true) ∨ ∀ c ∈ token, c.isDigit = true :=
  forall_mem_of_mem_tokensFrom h

/-- The characters of a token are small letters, digits and hyphens. -/
theorem isKebabChar_of_mem_tokens {t token : Text} (h : token ∈ tokens t) :
    ∀ c ∈ token, Naming.isKebabChar c = true := by
  intro c hc
  rcases forall_mem_of_mem_tokens h with hname | hdigits
  · rcases Bool.or_eq_true_iff.mp (hname c hc) with hlower | hhyphen
    · simp [Naming.isKebabChar, hlower]
    · simp [Naming.isKebabChar, of_decide_eq_true hhyphen]
  · simp [Naming.isKebabChar, hdigits c hc]

/-- Small letters, digits and hyphens are in small letters already. -/
theorem lowerAscii_eq_self {word : Text} (h : ∀ c ∈ word, Naming.isKebabChar c = true) :
    word.lowerAscii = word := by
  have hsame : ∀ c ∈ word, c.toLower = c := fun c hc =>
    Naming.forall_isKebabChar (p := fun c => c.toLower = c) (by decide) (h c hc)
  rw [Text.lowerAscii, List.map_congr_left hsame, List.map_id']

/-- **A keyword is an accepted token**, as it stands. -/
theorem mem_keywords_iff {dictionary : Dictionary} {grammar keyword : Text} :
    keyword ∈ keywords dictionary grammar ↔
      keyword ∈ tokens (expand dictionary grammar) ∧ isKeyword keyword = true := by
  rw [mem_keywords]
  constructor
  · rintro ⟨token, htoken, haccepted, rfl⟩
    rw [lowerAscii_eq_self (isKebabChar_of_mem_tokens htoken)]
    exact ⟨htoken, haccepted⟩
  · rintro ⟨htoken, haccepted⟩
    exact ⟨keyword, htoken, haccepted, lowerAscii_eq_self (isKebabChar_of_mem_tokens htoken)⟩

/-- A keyword has small letters, digits and hyphens only, whatever the grammar is. -/
theorem isKebabChar_of_mem_keywords {dictionary : Dictionary} {grammar keyword : Text}
    (h : keyword ∈ keywords dictionary grammar) :
    ∀ c ∈ keyword, Naming.isKebabChar c = true :=
  isKebabChar_of_mem_tokens (mem_keywords_iff.mp h).1

end TypedStyle.Grammar
