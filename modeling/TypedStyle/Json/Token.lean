import TypedStyle.Json.Basic
/-!
# JSON tokens

The text of a document is first cut into tokens: the six punctuation marks, strings, numerals and
the three words.  Blanks separate tokens and mean nothing else.

* `length_lt_of_scan?` — reading a token uses up some of the text.
-/

namespace TypedStyle.Json

/-- A token of a document. -/
inductive Token where
  | beginArray
  | endArray
  | beginObject
  | endObject
  | colon
  | comma
  | null
  | bool (value : Bool)
  | number (numeral : Text)
  | string (content : JsonString)
  deriving DecidableEq, Repr

namespace Token

/-- The four blanks of a document. -/
def isBlank (c : Char) : Bool :=
  c = ' ' || c = '\t' || c = '\n' || c = '\r'

/-- The value of a digit in base sixteen. -/
def hexDigit? (c : Char) : Option Nat :=
  if c.isDigit then some (c.toNat - '0'.toNat)
  else if 'a' ≤ c ∧ c ≤ 'f' then some (c.toNat - 'a'.toNat + 10)
  else if 'A' ≤ c ∧ c ≤ 'F' then some (c.toNat - 'A'.toNat + 10)
  else none

/-- The value of four digits in base sixteen. -/
def hexCode? (a b c d : Char) : Option Nat := do
  let a ← hexDigit? a
  let b ← hexDigit? b
  let c ← hexDigit? c
  let d ← hexDigit? d
  some (((a * 16 + b) * 16 + c) * 16 + d)

/-- One unit of a string: a character, or half of a surrogate pair. -/
inductive StringUnit where
  | char (c : Char)
  | half (code : Nat)
  deriving DecidableEq, Repr

/-- The unit that an escape by number names. -/
def StringUnit.ofCode (code : Nat) : StringUnit :=
  if 0xD800 ≤ code ∧ code ≤ 0xDFFF then .half code else .char (Char.ofNat code)

/-- The character that a backslash and this character stand for. -/
def unescape? : Char → Option Char
  | '"' => some '"'
  | '\\' => some '\\'
  | '/' => some '/'
  | 'b' => some '\x08'
  | 'f' => some '\x0c'
  | 'n' => some '\n'
  | 'r' => some '\r'
  | 't' => some '\t'
  | _ => none

/-- Behind an opening quote, the units of the string and the text behind its closing quote. -/
def stringUnits? : Text → Option (List StringUnit × Text)
  | [] => none
  | '"' :: rest => some ([], rest)
  | '\\' :: 'u' :: a :: b :: c :: d :: rest => do
    let code ← hexCode? a b c d
    let (units, rest) ← stringUnits? rest
    some (.ofCode code :: units, rest)
  | '\\' :: c :: rest => do
    let c ← unescape? c
    let (units, rest) ← stringUnits? rest
    some (.char c :: units, rest)
  | c :: rest =>
    if c < ' ' then none
    else do
      let (units, rest) ← stringUnits? rest
      some (.char c :: units, rest)

/-- The text of some units, if every half of a surrogate pair is followed by its other half. -/
def assemble? : List StringUnit → JsonString
  | [] => some []
  | .char c :: units => (assemble? units).map (c :: ·)
  | .half high :: .half low :: units =>
    if high < 0xDC00 ∧ 0xDC00 ≤ low then
      (assemble? units).map
        (Char.ofNat (0x10000 + (high - 0xD800) * 0x400 + (low - 0xDC00)) :: ·)
    else none
  | .half _ :: _ => none

/-- Characters of numerals and of the three words. -/
def isWordChar (c : Char) : Bool :=
  c.isAlphanum || c = '+' || c = '-' || c = '.'

/-- Is the text an exponent, which may be missing? -/
def isExponent : Text → Bool
  | [] => true
  | e :: rest =>
    let digits := match rest with
      | '+' :: digits => digits
      | '-' :: digits => digits
      | digits => digits
    (e = 'e' || e = 'E') && !digits.isEmpty && digits.all Char.isDigit

/-- Is the text a fraction, which may be missing, and then an exponent? -/
def isFraction : Text → Bool
  | '.' :: rest =>
    !(rest.takeWhile Char.isDigit).isEmpty && isExponent (rest.dropWhile Char.isDigit)
  | rest => isExponent rest

/-- Is the text a numeral without a sign? -/
def isUnsigned (t : Text) : Bool :=
  match t.takeWhile Char.isDigit with
  | [] => false
  | ['0'] => isFraction (t.dropWhile Char.isDigit)
  | '0' :: _ => false
  | _ => isFraction (t.dropWhile Char.isDigit)

/-- Is the text a numeral? -/
def isNumeral : Text → Bool
  | '-' :: rest => isUnsigned rest
  | t => isUnsigned t

/-- The token that a run of word characters is. -/
def ofWord? (word : Text) : Option Token :=
  if word = "null" then some .null
  else if word = "true" then some (.bool true)
  else if word = "false" then some (.bool false)
  else if isNumeral word then some (.number word)
  else none

/-- The token at the start of a text that does not start with a blank, and the text behind it. -/
def scan? : Text → Option (Token × Text)
  | [] => none
  | '[' :: rest => some (.beginArray, rest)
  | ']' :: rest => some (.endArray, rest)
  | '\x7b' :: rest => some (.beginObject, rest)
  | '\x7d' :: rest => some (.endObject, rest)
  | ':' :: rest => some (.colon, rest)
  | ',' :: rest => some (.comma, rest)
  | '"' :: rest => do
    let (units, rest) ← stringUnits? rest
    some (.string (assemble? units), rest)
  | t => (ofWord? (t.takeWhile isWordChar)).map (·, t.dropWhile isWordChar)

/-- A string leaves less than there was, since its last quote is gone at least. -/
theorem length_lt_of_stringUnits? {t : Text} {units : List StringUnit} {rest : Text}
    (h : stringUnits? t = some (units, rest)) : rest.length < t.length := by
  fun_induction stringUnits? t generalizing units rest with
  | case1 => simp at h
  | case2 => simp_all
  | case3 a b c d behind ih =>
    simp only [Option.bind_eq_bind, Option.bind_eq_some_iff] at h
    obtain ⟨_, _, ⟨inner, left⟩, hinner, heq⟩ := h
    have := ih hinner
    simp_all
    omega
  | case4 c behind _ ih =>
    simp only [Option.bind_eq_bind, Option.bind_eq_some_iff] at h
    obtain ⟨_, _, ⟨inner, left⟩, hinner, heq⟩ := h
    have := ih hinner
    simp_all
    omega
  | case5 => simp at h
  | case6 c behind _ _ _ _ ih =>
    simp only [Option.bind_eq_bind, Option.bind_eq_some_iff] at h
    obtain ⟨⟨inner, left⟩, hinner, heq⟩ := h
    have := ih hinner
    simp_all
    omega

/-- The empty word is no token, so a scan of the empty text finds none. -/
theorem ofWord?_nil : ofWord? [] = none := by
  decide

/-- **Each step of a scan leaves less than there was**, so the scan comes to its end. -/
theorem length_lt_of_scan? {t : Text} {token : Token} {rest : Text}
    (h : scan? t = some (token, rest)) : rest.length < t.length := by
  unfold scan? at h
  split at h
  · simp at h
  all_goals try (simp at h; obtain ⟨_, rfl⟩ := h; simp)
  · simp only [Option.bind_eq_bind, Option.bind_eq_some_iff] at h
    obtain ⟨⟨inner, left⟩, hinner, heq⟩ := h
    have := length_lt_of_stringUnits? hinner
    simp_all
    omega
  · obtain ⟨word, hword, heq⟩ := Option.map_eq_some_iff.1 h
    obtain ⟨rfl, rfl⟩ := Prod.mk.inj heq
    have split := congrArg List.length
      (List.takeWhile_append_dropWhile (p := isWordChar) (l := t))
    have nonempty : t.takeWhile isWordChar ≠ [] := fun hnil => by
      rw [hnil, ofWord?_nil] at hword
      exact absurd hword (by simp)
    have := List.length_pos_iff.2 nonempty
    rw [List.length_append] at split
    omega

/-- The tokens of a document. -/
def tokens? : Text → Option (List Token)
  | [] => some []
  | c :: rest =>
    if isBlank c then tokens? rest
    else
      match h : scan? (c :: rest) with
      | some (token, behind) =>
        have : behind.length < rest.length + 1 := length_lt_of_scan? h
        (tokens? behind).map (token :: ·)
      | none => none
termination_by t => t.length

end Token

end TypedStyle.Json
