import TypedStyle.Proofs.Grammar.Keywords
import TypedStyle.Proofs.Grammar.References
/-!
# Alternatives in a grammar

Grammars are put together with marks such as `|` and `&&` and spaces between them.  No token reaches
over such a character, and no reference does if the grammar in front of it leaves no `<` open.  So
the keywords of the whole are those of its parts, and a list of words can be read off the grammar
that has the words as its alternatives.

* `tokens_append` — tokens are found on both sides of a separator;
* `keywords_append_eq_union` — keywords of two grammars with a separator between them;
* `tokens_eq_self` — a word is its own token;
* `mem_keywords_join` — the keywords of words that are alternatives are the words.
-/

namespace TypedStyle.Grammar

variable {t rest separator : Text} {c : Char} {kind : Char → Bool} {before : Option Char}

/-! ## Separators -/

/-- Can the character separate two grammars?  It is no letter, digit, `_` or hyphen, so that no
token holds it, and it begins no reference.  Letters beyond ASCII can, and so can `>`, which ends no
reference where no `<` was left open. -/
def isSeparator (c : Char) : Bool :=
  !isWordChar c && c ≠ '-' && c ≠ '<'

/-- A separator is neither a word character nor a hyphen nor the start of a reference. -/
theorem isSeparator_iff : isSeparator c = true ↔ isWordChar c = false ∧ c ≠ '-' ∧ c ≠ '<' := by
  simp [isSeparator, and_assoc]

theorem isWordChar_of_isSeparator (h : isSeparator c = true) : isWordChar c = false :=
  (isSeparator_iff.mp h).1

/-- A separator is in no run. -/
theorem isNameChar_of_isSeparator (h : isSeparator c = true) : isNameChar c = false := by
  obtain ⟨hword, hhyphen, -⟩ := isSeparator_iff.mp h
  have hlower : c.isLower = false := by
    rw [← Bool.not_eq_true]
    intro hlower
    rw [isWordChar_of_isLower hlower] at hword
    contradiction
  exact Bool.or_eq_false_iff.mpr ⟨hlower, decide_eq_false hhyphen⟩

theorem isDigit_of_isSeparator (h : isSeparator c = true) : c.isDigit = false := by
  rw [← Bool.not_eq_true]
  intro hdigit
  have hword := isWordChar_of_isSeparator h
  rw [isWordChar_of_isDigit hdigit] at hword
  contradiction

/-! ## Tokens around a separator -/

/-- A separator is to its neighbours as the end of the text. -/
theorem isBoundary_head?_append (hword : isWordChar c = false) (left : Option Char)
    (t rest : Text) : isBoundary left (t ++ c :: rest).head? = isBoundary left t.head? := by
  cases t <;> simp [isBoundary, hword]

/-- A run ends in front of a separator, if not earlier. -/
theorem longestSpan_append (hkind : kind c = false) (hword : isWordChar c = false)
    (t rest : Text) : longestSpan kind (t ++ c :: rest) = longestSpan kind t := by
  induction t with
  | nil => simp [longestSpan, hkind]
  | cons d t ih =>
      rw [List.cons_append, longestSpan, longestSpan, ih, isBoundary_head?_append hword]

/-- **A separator ends a token**, whatever stands behind it. -/
theorem tokenAt?_append (h : isSeparator c = true) (before : Option Char) (t rest : Text) :
    tokenAt? before (t ++ c :: rest) = tokenAt? before t := by
  have hword := isWordChar_of_isSeparator h
  rw [tokenAt?, tokenAt?, isBoundary_head?_append hword,
    longestSpan_append (isNameChar_of_isSeparator h) hword,
    longestSpan_append (isDigit_of_isSeparator h) hword]

theorem tokenAt?_nil (before : Option Char) : tokenAt? before [] = none := by
  simp [tokenAt?, longestSpan]

/-- Where no token starts, the next character is looked at. -/
theorem tokensFrom_of_none (h : tokenAt? before (c :: rest) = none) :
    tokensFrom before 0 (c :: rest) = tokensFrom (some c) 0 rest := by
  rw [tokensFrom, h]

/-- Where one starts, its characters are passed over. -/
theorem tokensFrom_of_some {token : Text} (h : tokenAt? before (c :: rest) = some token) :
    tokensFrom before 0 (c :: rest) = token :: tokensFrom (some c) (token.length - 1) rest := by
  rw [tokensFrom, h]

/-- Behind a separator the scan goes on as at the start of a text. -/
theorem tokensFrom_behind (hword : isWordChar c = false) (t : Text) :
    tokensFrom (some c) 0 t = tokens t := by
  have hboundary : ∀ right, isBoundary (some c) right = isBoundary none right := by
    intro right
    simp [isBoundary, hword]
  cases t with
  | nil => rfl
  | cons d t => simp only [tokens, tokensFrom, tokenAt?, hboundary]

/-- What the scan finds on the two sides of a separator.  The induction is on the text in front of
it, and the invariant is that the token the scan is inside of ends there. -/
theorem tokensFrom_append (h : isSeparator c = true) {inside : Nat} (hinside : inside ≤ t.length) :
    tokensFrom before inside (t ++ c :: rest) = tokensFrom before inside t ++ tokens rest := by
  induction t generalizing before inside with
  | nil =>
      obtain rfl : inside = 0 := by simpa using hinside
      have hnone : tokenAt? before (c :: rest) = none :=
        (tokenAt?_append h before [] rest).trans (tokenAt?_nil before)
      rw [List.nil_append, tokensFrom_of_none hnone,
        tokensFrom_behind (isWordChar_of_isSeparator h)]
      rfl
  | cons d t ih =>
      cases inside with
      | succ more => exact ih (Nat.le_of_succ_le_succ hinside)
      | zero =>
          -- the token at this place, if any, is the same with and without the separator
          have hsame := tokenAt?_append h before (d :: t) rest
          rw [List.cons_append] at hsame
          cases hfound : tokenAt? before (d :: t) with
          | none =>
              rw [List.cons_append, tokensFrom_of_none (hsame.trans hfound),
                tokensFrom_of_none hfound, ih (Nat.zero_le _)]
          | some token =>
              have hstart := (fitsBehind_of_tokenAt? hfound).1
              have hlength : token.length ≤ (d :: t).length := by
                rw [hstart]
                exact List.length_take_le' _ _
              rw [List.cons_append, tokensFrom_of_some (hsame.trans hfound),
                tokensFrom_of_some hfound, ih (Nat.sub_le_of_le_add hlength), List.cons_append]

/-- Tokens are found on both sides of a separator. -/
theorem tokens_append_cons (h : isSeparator c = true) (t rest : Text) :
    tokens (t ++ c :: rest) = tokens t ++ tokens rest :=
  tokensFrom_append h (Nat.zero_le _)

/-- There are no tokens among separators. -/
theorem tokens_separator_append (h : ∀ c ∈ separator, isSeparator c = true) (rest : Text) :
    tokens (separator ++ rest) = tokens rest := by
  induction separator with
  | nil => rfl
  | cons c more ih =>
      obtain ⟨hc, hmore⟩ := List.forall_mem_cons.mp h
      calc tokens (c :: (more ++ rest))
          = tokens [] ++ tokens (more ++ rest) := tokens_append_cons hc [] (more ++ rest)
        _ = tokens rest := ih hmore

/-- **Tokens are found on both sides of some separators.** -/
theorem tokens_append (hne : separator ≠ []) (h : ∀ c ∈ separator, isSeparator c = true)
    (t rest : Text) : tokens (t ++ separator ++ rest) = tokens t ++ tokens rest := by
  obtain ⟨c, more, rfl⟩ := List.exists_cons_of_ne_nil hne
  obtain ⟨hc, hmore⟩ := List.forall_mem_cons.mp h
  rw [List.append_assoc, List.cons_append, tokens_append_cons hc, tokens_separator_append hmore]

/-! ## Keywords of alternatives -/

/-- The keywords of two grammars with some separators between them are the keywords of either. -/
theorem mem_keywords_append {dictionary : Dictionary} {a b keyword : Text} (hclosed : EndsClosed a)
    (hne : separator ≠ []) (h : ∀ c ∈ separator, isSeparator c = true) :
    keyword ∈ keywords dictionary (a ++ separator ++ b) ↔
      keyword ∈ keywords dictionary a ∨ keyword ∈ keywords dictionary b := by
  have hopen : '<' ∉ separator := fun hmem => (isSeparator_iff.mp (h '<' hmem)).2.2 rfl
  have hexpand : expand dictionary (a ++ separator ++ b) =
      expand dictionary a ++ separator ++ expand dictionary b := by
    rw [List.append_assoc, expand_append hclosed, expand_append (endsClosed_of_notMem hopen),
      expand_of_notMem hopen, List.append_assoc]
  simp only [mem_keywords_iff, hexpand, tokens_append hne h, List.mem_append, or_and_right]

/-- **Keywords turn alternation into union.**  Let the first grammar have no `<` behind its last
`>`, and none at all if it has no `>`; let one character or more stand behind it, none of which is
an ASCII letter, a digit, `_`, a hyphen or `<`.  Then, whatever grammar follows and whatever the
dictionary is, the keywords of the whole are the strictly ascending list of the keywords of the two
grammars. -/
theorem keywords_append_eq_union {a separator : Text} (hclosed : EndsClosed a)
    (hne : separator ≠ []) (hseparator : ∀ c ∈ separator, isSeparator c = true)
    (dictionary : Dictionary) (b : Text) :
    keywords dictionary (a ++ separator ++ b) =
      Text.ascending (keywords dictionary a ++ keywords dictionary b) ∧
    (keywords dictionary (a ++ separator ++ b)).Pairwise (· < ·) ∧
    ∀ keyword, keyword ∈ keywords dictionary (a ++ separator ++ b) ↔
      keyword ∈ keywords dictionary a ∨ keyword ∈ keywords dictionary b := by
  have hascending := keywords_pairwise dictionary (a ++ separator ++ b)
  have hmem : ∀ keyword, keyword ∈ keywords dictionary (a ++ separator ++ b) ↔
      keyword ∈ keywords dictionary a ∨ keyword ∈ keywords dictionary b :=
    fun _ => mem_keywords_append hclosed hne hseparator
  refine ⟨?_, hascending, hmem⟩
  refine Text.eq_of_ascending hascending (Text.ascending_pairwise _) fun keyword => ?_
  rw [hmem, Text.mem_ascending, List.mem_append]

/-- A dictionary with a definition under a key that has a `<` in it. -/
def unevenDictionary : Dictionary :=
  Table.ofList [("a<b", "none | auto"), ("c", "none")]

/-- In the first grammar a `<` stands within a key and a `>` ends nothing; in the second one a `<`
is left open.  Both refer to a definition with the keyword `none`. -/
theorem keywords_unevenBrackets :
    EndsClosed "<a<b> xy>z" ∧ (" && " : Text) ≠ [] ∧
    (∀ c ∈ (" && " : Text), isSeparator c = true) ∧
    keywords unevenDictionary ("<a<b> xy>z" ++ " && " ++ "<c> <dd") =
      Text.ascending (keywords unevenDictionary "<a<b> xy>z" ++
        keywords unevenDictionary "<c> <dd") ∧
    keywords unevenDictionary ("<a<b> xy>z" ++ " && " ++ "<c> <dd") =
      List.map Text.ofString ["auto", "dd", "none", "xy"] := by
  have hclosed : EndsClosed "<a<b> xy>z" := by decide
  have hne : (" && " : Text) ≠ [] := by decide
  have hseparator : ∀ c ∈ (" && " : Text), isSeparator c = true :=
    Text.forall_mem_of_all (by decide)
  have hunion := keywords_append_eq_union hclosed hne hseparator unevenDictionary "<c> <dd"
  exact ⟨hclosed, hne, hseparator, hunion.1, by decide +kernel⟩

/-- A `<` that is left open can take the separator into the key of a reference. -/
example : keywords (Table.ofList [("ab | cd", "none")]) ("<ab" ++ " | " ++ "cd>") =
    [Text.ofString "none"] := by
  decide +kernel

/-! ## Words as alternatives -/

/-- Is the text made of small letters and hyphens, at least two, with a letter at either end? -/
def isName (word : Text) : Bool :=
  decide (2 ≤ word.length) && word.all isNameChar && word.head?.any Char.isLower
    && word.getLast?.any Char.isLower

/-- Can the word be an alternative of its own?  It is a number or a name, and no stopword. -/
def isAlternative (word : Text) : Bool :=
  (isNumeral word || isName word) && !stopwords.contains word

/-- A run of one kind that begins and ends with a word character is its own token. -/
theorem tokens_eq_self {word : Text}
    (hkind : (∀ c ∈ word, isNameChar c = true) ∨ ∀ c ∈ word, c.isDigit = true)
    (hhead : word.head?.any isWordChar = true) (hlast : word.getLast?.any isWordChar = true) :
    tokens word = [word] := by
  have hne : word ≠ [] := by
    intro hnil
    rw [hnil] at hhead
    contradiction
  have hvalid : Span.Valid word ⟨0, word.length⟩ :=
    { start_lt_stop := List.length_pos_iff.mpr hne
      stop_le_length := Nat.le_refl _
      oneKind := by simpa [Span.text] using hkind
      starts := by simpa [isBoundaryAt, isBoundary] using hhead
      stops := by simpa [isBoundaryAt, isBoundary] using hlast }
  have hfound : Leftmost word 0 [⟨0, word.length⟩] :=
    .next hvalid (Nat.le_refl 0) (fun _ _ _ => Nat.zero_le _)
      (fun _ hother _ => hother.stop_le_length)
      (.done fun _ hother => Nat.lt_of_lt_of_le hother.start_lt_stop hother.stop_le_length)
  rw [tokens_eq, (leftmost_spans word).unique hfound]
  simp [Span.text]

section Word

variable {dictionary : Dictionary} {word keyword : Text}

/-- A numeral has word characters at its ends. -/
theorem ends_of_isNumeral (h : isNumeral word = true) :
    word.head?.any isWordChar = true ∧ word.getLast?.any isWordChar = true := by
  obtain ⟨hne, hdigits⟩ := isNumeral_iff.mp h
  rw [List.head?_eq_some_head hne, List.getLast?_eq_some_getLast hne]
  exact ⟨isWordChar_of_isDigit (hdigits _ (List.head_mem hne)),
    isWordChar_of_isDigit (hdigits _ (List.getLast_mem hne))⟩

/-- A name has two characters at least, all of them small letters or hyphens, and letters at its
ends. -/
theorem isName_iff : isName word = true ↔ 2 ≤ word.length ∧ (∀ c ∈ word, isNameChar c = true) ∧
    word.head?.any Char.isLower = true ∧ word.getLast?.any Char.isLower = true := by
  simp [isName, and_assoc]

theorem any_isWordChar_of_isLower {edge : Option Char} (h : edge.any Char.isLower = true) :
    edge.any isWordChar = true := by
  obtain ⟨c, hc, hlower⟩ := (Option.any_eq_true _ _).mp h
  exact (Option.any_eq_true _ _).mpr ⟨c, hc, isWordChar_of_isLower hlower⟩

/-- A word that can be an alternative is cut out whole. -/
theorem tokens_of_isAlternative (h : isAlternative word = true) : tokens word = [word] := by
  obtain ⟨hshape, -⟩ := Bool.and_eq_true_iff.mp h
  rcases Bool.or_eq_true_iff.mp hshape with hnumeral | hname
  · obtain ⟨hhead, hlast⟩ := ends_of_isNumeral hnumeral
    exact tokens_eq_self (.inr (isNumeral_iff.mp hnumeral).2) hhead hlast
  · obtain ⟨-, hall, hhead, hlast⟩ := isName_iff.mp hname
    exact tokens_eq_self (.inl hall) (any_isWordChar_of_isLower hhead)
      (any_isWordChar_of_isLower hlast)

/-- An alternative is made of small letters, digits and hyphens. -/
theorem isKebabChar_of_isAlternative (h : isAlternative word = true) :
    ∀ c ∈ word, Naming.isKebabChar c = true :=
  isKebabChar_of_mem_tokens (t := word) (by simp [tokens_of_isAlternative h])

/-- No reference starts in it. -/
theorem notMem_of_isAlternative (h : isAlternative word = true) : '<' ∉ word :=
  fun hmem => absurd (isKebabChar_of_isAlternative h '<' hmem) (by decide)

/-- **It is accepted as a keyword.** -/
theorem isKeyword_of_isAlternative (h : isAlternative word = true) : isKeyword word = true := by
  obtain ⟨hshape, hstop⟩ := Bool.and_eq_true_iff.mp h
  refine (isKeyword_iff (isKebabChar_of_isAlternative h)).mpr ⟨?_, by simpa using hstop⟩
  exact (Bool.or_eq_true_iff.mp hshape).imp id fun hname => (isName_iff.mp hname).1

/-- A word that can be an alternative is its own keyword, and the only one. -/
theorem mem_keywords_of_isAlternative (h : isAlternative word = true) :
    keyword ∈ keywords dictionary word ↔ keyword = word := by
  rw [mem_keywords_iff, expand_of_notMem (notMem_of_isAlternative h), tokens_of_isAlternative h,
    List.mem_singleton, and_iff_left_iff_imp]
  intro hsame
  rw [hsame]
  exact isKeyword_of_isAlternative h

/-- **The keywords of words that are alternatives are the words.**  The induction is on the words:
one more of them is one more grammar in front of a separator. -/
theorem mem_keywords_join (hne : separator ≠ [])
    (hseparator : ∀ c ∈ separator, isSeparator c = true) {words : List Text}
    (hwords : ∀ word ∈ words, isAlternative word = true) :
    keyword ∈ keywords dictionary (Text.join separator words) ↔ keyword ∈ words := by
  induction words with
  | nil => simp [Text.join, mem_keywords_iff, expand_of_notMem, tokens, tokensFrom]
  | cons word others ih =>
      obtain ⟨hword, hothers⟩ := List.forall_mem_cons.mp hwords
      cases others with
      | nil => simpa [Text.join] using mem_keywords_of_isAlternative hword
      | cons other others =>
          have hjoin : Text.join separator (word :: other :: others) =
              word ++ separator ++ Text.join separator (other :: others) := by
            simp [Text.join]
          have hclosed := endsClosed_of_notMem (notMem_of_isAlternative hword)
          rw [hjoin, mem_keywords_append hclosed hne hseparator,
            mem_keywords_of_isAlternative hword, ih hothers]
          exact List.mem_cons.symm

end Word

end TypedStyle.Grammar
