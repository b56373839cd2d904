import TypedStyle.Proofs.Grammar.Spans
import TypedStyle.Proofs.Grammar.Tokens
/-!
# Which tokens are keywords

Whether a word can be a value by itself is asked of words of any kind, so its case is set aside
first and its characters are looked at.  The words that are asked about are tokens, and of these
neither changes anything: what counts of a token is its length, whether it is a number, and that it
is no stopword.

* `isKeyword_iff` — the test on a word of small letters, digits and hyphens;
* `infix_of_mem_tokens`, `ne_nil_of_mem_tokens` — a token is a piece of its text, and not empty;
* `keywords_are_accepted_tokens` — the keywords of a grammar, from the tokens of its expansion.
-/

namespace TypedStyle.Grammar

variable {t token word : Text}

/-! ## Words of small letters, digits and hyphens -/

/-- Small letters, digits and hyphens are one byte each. -/
theorem byteCount_eq_length (h : ∀ c ∈ word, Naming.isKebabChar c = true) :
    word.byteCount = word.length := by
  induction word with
  | nil => rfl
  | cons c rest ih =>
      obtain ⟨hc, hrest⟩ := List.forall_mem_cons.mp h
      have hsize : c.utf8Size = 1 :=
        Naming.forall_isKebabChar (p := fun c => c.utf8Size = 1) (by decide) hc
      rw [Text.byteCount, hsize, ih hrest, List.length_cons, Nat.add_comm]

/-- None of the characters is one of the grammar notation. -/
theorem any_isNotation_eq_false (h : ∀ c ∈ word, Naming.isKebabChar c = true) :
    word.any isNotation = false := by
  rw [List.any_eq_false]
  intro c hc
  rw [Bool.not_eq_true]
  exact Naming.forall_isKebabChar (p := fun c => isNotation c = false) (by decide) (h c hc)

/-- A numeral is made of digits, of one at least. -/
theorem isNumeral_iff : isNumeral word = true ↔ word ≠ [] ∧ ∀ c ∈ word, c.isDigit = true := by
  simp [isNumeral]

/-- **The test on a word of small letters, digits and hyphens**: it is a number or not too short,
and no stopword. -/
theorem isKeyword_iff (h : ∀ c ∈ word, Naming.isKebabChar c = true) :
    isKeyword word = true ↔
      (isNumeral word = true ∨ 2 ≤ word.length) ∧ word ∉ stopwords := by
  simp only [isKeyword, lowerAscii_eq_self h, any_isNotation_eq_false h, byteCount_eq_length h]
  simp [or_comm]

/-! ## Tokens -/

/-- A token is a contiguous piece of its text. -/
theorem infix_of_mem_tokens (h : token ∈ tokens t) : token <:+: t := by
  rw [tokens_eq] at h
  obtain ⟨span, -, rfl⟩ := List.mem_map.mp h
  exact (List.take_prefix _ _).isInfix.trans (List.drop_suffix _ _).isInfix

/-- No token is empty. -/
theorem ne_nil_of_mem_tokens (h : token ∈ tokens t) : token ≠ [] := by
  rw [tokens_eq] at h
  obtain ⟨span, hspan, rfl⟩ := List.mem_map.mp h
  have hvalid := ((leftmost_spans t).valid_of_mem hspan).1
  have hproper := hvalid.start_lt_stop
  have hinside := hvalid.stop_le_length
  rw [← List.length_pos_iff, Span.text, List.length_take, List.length_drop]
  omega

/-- A run of small letters and hyphens is no number. -/
theorem two_le_length_of_isNameChar (hne : word ≠ []) (hnames : ∀ c ∈ word, isNameChar c = true)
    (h : isNumeral word = true ∨ 2 ≤ word.length) : 2 ≤ word.length := by
  refine h.resolve_left fun hnumeral => ?_
  obtain ⟨c, rest, rfl⟩ := List.exists_cons_of_ne_nil hne
  have hdigit := (isNumeral_iff.mp hnumeral).2 c List.mem_cons_self
  rw [isDigit_of_isNameChar (hnames c List.mem_cons_self)] at hdigit
  contradiction

/-- **The keywords of a grammar** come in strictly ascending order, and so without repetition.  They
are just the tokens of the expanded grammar that are numbers or have two characters at least, and
are no stopwords.  Each of them is a contiguous piece of the expanded grammar, and is a run of two
or more small letters and hyphens or a run of digits.  No token has capitals to be made small, and
none has a character of the grammar notation. -/
theorem keywords_are_accepted_tokens (dictionary : Dictionary) (grammar : Text) :
    (keywords dictionary grammar).Pairwise (· < ·) ∧
    (keywords dictionary grammar).Nodup ∧
    (∀ keyword, keyword ∈ keywords dictionary grammar ↔
      keyword ∈ tokens (expand dictionary grammar) ∧
        ((∀ c ∈ keyword, c.isDigit = true) ∨ 2 ≤ keyword.length) ∧ keyword ∉ stopwords) ∧
    (∀ keyword ∈ keywords dictionary grammar,
      keyword <:+: expand dictionary grammar ∧
        (2 ≤ keyword.length ∧ (∀ c ∈ keyword, isNameChar c = true) ∨
          keyword ≠ [] ∧ ∀ c ∈ keyword, c.isDigit = true)) ∧
    ∀ token ∈ tokens (expand dictionary grammar),
      token.lowerAscii = token ∧ token.any isNotation = false := by
  have hascending := keywords_pairwise dictionary grammar
  have haccepted : ∀ token ∈ tokens (expand dictionary grammar),
      (isKeyword token = true ↔
        (isNumeral token = true ∨ 2 ≤ token.length) ∧ token ∉ stopwords) :=
    fun token htoken => isKeyword_iff (isKebabChar_of_mem_tokens htoken)
  refine ⟨hascending, hascending.imp Std.ne_of_lt, fun keyword => ?_, fun keyword hkeyword => ?_,
    fun token htoken => ?_⟩
  · rw [mem_keywords_iff]
    refine and_congr_right fun htoken => ?_
    have hnumeral : isNumeral keyword = true ↔ ∀ c ∈ keyword, c.isDigit = true := by
      rw [isNumeral_iff]
      exact and_iff_right (ne_nil_of_mem_tokens htoken)
    rw [haccepted keyword htoken, hnumeral]
  · obtain ⟨htoken, hkept⟩ := mem_keywords_iff.mp hkeyword
    have hlong := ((haccepted keyword htoken).mp hkept).1
    have hne := ne_nil_of_mem_tokens htoken
    refine ⟨infix_of_mem_tokens htoken, ?_⟩
    rcases forall_mem_of_mem_tokens htoken with hnames | hdigits
    · exact .inl ⟨two_le_length_of_isNameChar hne hnames hlong, hnames⟩
    · exact .inr ⟨hne, hdigits⟩
  · have hchars := isKebabChar_of_mem_tokens htoken
    exact ⟨lowerAscii_eq_self hchars, any_isNotation_eq_false hchars⟩

end TypedStyle.Grammar
