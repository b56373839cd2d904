import TypedStyle.Proofs.Code.Identifiers
/-!
# Pasted text that opens nothing

Text that is pasted into code is cut into tokens by itself if it opens neither a comment nor a
string nor a group, and if a character stands behind it over which nothing goes on.  What stands
behind that character makes no difference to its tokens, and it makes none to those behind it.

* `exists_scan?_append` — a scan of such a text, whatever stands behind it;
* `Finds` — what such a scan finds;
* `exists_ofText?_append` — its tokens, none of which opens a group.
-/

namespace TypedStyle.Code

/-- Characters that open a comment, a string or a group. -/
def openers : Text :=
  "/\"([\x7b"

/-- The text opens neither a comment nor a string nor a group. -/
def OpensNothing (t : Text) : Prop :=
  ∀ c ∈ t, c ∉ openers

/-- Characters that may follow a name where it is pasted. -/
def seams : Text :=
  ":( \n>"

variable {t u v rest name : Text} {c d : Char} {content : Content}

/-- An end of a text that opens nothing opens nothing. -/
theorem OpensNothing.of_suffix (h : OpensNothing t) (hrest : rest <:+ t) : OpensNothing rest :=
  fun c hc => h c (hrest.subset hc)

/-- Neither does its beginning. -/
theorem OpensNothing.of_prefix (h : OpensNothing t) (hrest : rest <+: t) : OpensNothing rest :=
  fun c hc => h c (hrest.subset hc)

/-- Two such texts in a row open nothing. -/
theorem OpensNothing.append (ht : OpensNothing t) (hu : OpensNothing u) :
    OpensNothing (t ++ u) := by
  intro c hc
  rcases List.mem_append.mp hc with hc | hc
  · exact ht c hc
  · exact hu c hc

/-- Whether a text opens nothing can be found out character by character. -/
theorem opensNothing_of_all (h : t.all (fun c => c ∉ openers) = true) : OpensNothing t :=
  fun c hc => by simpa using List.all_eq_true.mp h c hc

instance (t : Text) : Decidable (OpensNothing t) :=
  decidable_of_iff (t.all (fun c => c ∉ openers) = true)
    ⟨opensNothing_of_all, fun h => List.all_eq_true.mpr fun c hc => decide_eq_true (h c hc)⟩

/-- The first character of such a text is none that opens something. -/
theorem OpensNothing.head (h : OpensNothing (c :: t)) :
    c ≠ '/' ∧ c ≠ '"' ∧ c ≠ '(' ∧ c ≠ '[' ∧ c ≠ '\x7b' := by
  have hc := h c List.mem_cons_self
  refine ⟨?_, ?_, ?_, ?_, ?_⟩ <;> rintro rfl <;> exact hc (by decide)

/-- Nothing goes on over such a character, and no escape starts with it. -/
theorem of_mem_seams (hc : c ∈ seams) (content : Content) :
    c ∈ stops ∧ c ∉ Text.ofString "/\"'#\\\x7bux" ∧
      Spelling.isShortEscape c content = false := by
  have hall : ∀ c ∈ seams, c ∈ stops ∧ c ∉ Text.ofString "/\"'#\\\x7bux" ∧
      c ∉ Text.ofString "nrt\\'\"" ∧ c ≠ '0' := Text.forall_mem_of_all (by decide)
  obtain ⟨hstop, hother, hescape, hzero⟩ := hall c hc
  exact ⟨hstop, hother, by simp [Spelling.isShortEscape, hescape, hzero]⟩

/-- Neither a word nor a number goes on over a character that may follow a name. -/
theorem isStop_of_mem_seams (hc : c ∈ seams) (v : Text) : IsStop (c :: v) :=
  ⟨c, rfl, (of_mem_seams hc .characters).1⟩

namespace Spelling

/-- A character that is no digit is part of no byte. -/
theorem isByteNumber_eq_false {high low : Char}
    (h : isHexDigit high = false ∨ isHexDigit low = false) :
    isByteNumber high low content = false := by
  refine Bool.eq_false_iff.mpr fun hnumber => ?_
  obtain ⟨hhigh, hlow⟩ := isHexDigit_of_isByteNumber hnumber
  rcases h with h | h <;> simp_all

/-- An escape of one character. -/
theorem behindEscape?_cons (hbyte : c ≠ 'x') (hbrace : c = 'u' → t.head? ≠ some '\x7b') :
    behindEscape? content (c :: t) = if isShortEscape c content then some t else none := by
  unfold behindEscape?
  split <;> simp_all

/-- **An escape without braces** is the same whatever such a character begins. -/
theorem behindEscape?_append (hbrace : '\x7b' ∉ t) (hc : c ∈ seams) (v : Text) :
    behindEscape? content (t ++ c :: v) = (behindEscape? content t).map (· ++ c :: v) := by
  obtain ⟨hstop, hother, hescape⟩ := of_mem_seams hc content
  have hdigit := (Number.of_mem_stops hstop).2.1
  have hne : c ≠ 'x' ∧ c ≠ 'u' ∧ c ≠ '\x7b' := by
    refine ⟨?_, ?_, ?_⟩ <;> rintro rfl <;> exact hother (by decide)
  have hbyte : isShortEscape 'x' content = false := by cases content <;> decide
  rcases t with _ | ⟨d, t⟩
  · rw [List.nil_append, behindEscape?_cons hne.1 fun hu => absurd hu hne.2.1, hescape]
    rfl
  by_cases hd : d = 'x'
  · subst hd
    rcases t with _ | ⟨high, _ | ⟨low, t⟩⟩
    · cases v with
      | nil => simp [behindEscape?, hbyte]
      | cons e v => simp [behindEscape?, hbyte, isByteNumber_eq_false (.inl hdigit)]
    · simp [behindEscape?, hbyte, isByteNumber_eq_false (.inr hdigit)]
    · simp only [List.cons_append, behindEscape?]
      split <;> rfl
  · have hhead : t.head? ≠ some '\x7b' ∧ (t ++ c :: v).head? ≠ some '\x7b' := by
      cases t with
      | nil => exact ⟨by simp, fun heq => hne.2.2 (Option.some.inj heq)⟩
      | cons e t =>
          have he : some e ≠ some '\x7b' := fun heq =>
            hbrace (by rw [← Option.some.inj heq]; simp)
          exact ⟨he, he⟩
    rw [List.cons_append, behindEscape?_cons hd fun _ => hhead.2,
      behindEscape?_cons hd fun _ => hhead.1]
    split <;> rfl

/-- **A character without braces** is the same whatever such a character begins, if no quote stands
behind it. -/
theorem behindCharacter?_append (hbrace : '\x7b' ∉ t) (hc : c ∈ seams)
    (hv : v.head? ≠ some '\'') :
    behindCharacter? content (t ++ c :: v) = (behindCharacter? content t).map (· ++ c :: v) := by
  obtain ⟨-, hother, -⟩ := of_mem_seams hc content
  have hne : c ≠ '\\' ∧ c ≠ '\'' := by
    constructor <;> rintro rfl <;> exact hother (by decide)
  rcases t with _ | ⟨d, t⟩
  · unfold behindCharacter?
    split <;> simp_all
  by_cases hd : d = '\\'
  · subst hd
    have hescape : behindEscape? content (t ++ c :: v) =
        (behindEscape? content t).map (· ++ c :: v) := behindEscape?_append (by simp_all) hc v
    simp only [List.cons_append, behindCharacter?, hescape]
    cases behindEscape? content t with
    | none => rfl
    | some rest =>
        cases rest with
        | nil => simp [hne]
        | cons e rest =>
          by_cases he : e = '\''
          · subst he
            rfl
          · simp [he]
  · rcases t with _ | ⟨e, t⟩
    · simp [behindCharacter?, hd, hne]
    · by_cases he : e = '\''
      · subst he
        simp only [List.cons_append, behindCharacter?]
        split <;> rfl
      · simp [behindCharacter?, hd, he]

/-- What is left behind it is an end of the text. -/
theorem suffix_of_behindCharacter? (h : behindCharacter? content t = some rest) : rest <:+ t := by
  obtain ⟨u, rfl, -⟩ := exists_of_behindCharacter? h
  exact ⟨u ++ ['\''], by simp⟩

/-- Without a quote there is no raw string. -/
theorem behindHashes?_of_not_mem (hquote : '"' ∉ t) (hu : ∀ c ∈ u.head?, c ≠ '#' ∧ c ≠ '"') :
    behindHashes? content (t ++ u) = none := by
  have hbehind : ((t ++ u).dropWhile (· = '#')).head? ≠ some '"' := by
    induction t with
    | nil =>
        cases u with
        | nil => simp
        | cons c u => simp [hu c rfl]
    | cons d t ih =>
        obtain ⟨hd, ht⟩ : '"' ≠ d ∧ '"' ∉ t := by simpa using hquote
        rw [List.cons_append, List.dropWhile_cons]
        split
        · exact ih ht
        · simpa using hd.symm
  unfold behindHashes? hashes
  split
  · next heq =>
    rw [(Prod.mk.inj heq).2] at hbehind
    exact absurd rfl hbehind
  · rfl

/-- **A character or no literal at all** stands at the start of a text that opens nothing, whatever
stands behind it. -/
theorem behind?_append (ht : OpensNothing (d :: t)) (hc : c ∈ seams) (hv : v.head? ≠ some '\'') :
    behind? (d :: (t ++ c :: v)) = (behind? (d :: t)).map (· ++ c :: v) := by
  have hquote : '"' ∉ t ∧ '\x7b' ∉ t := by
    constructor <;> exact fun hmem => ht _ (List.mem_cons_of_mem d hmem) (by decide)
  have hne : c ≠ '"' ∧ c ≠ '\'' ∧ c ≠ 'r' ∧ c ≠ '#' := by
    refine ⟨?_, ?_, ?_, ?_⟩ <;> rintro rfl <;> revert hc <;> decide
  have hraw : ∀ {content : Content} {u : Text}, '"' ∉ u → behindHashes? content (u ++ c :: v) =
      (behindHashes? content u).map (· ++ c :: v) := by
    intro content u hu
    have hnone : behindHashes? content (u ++ []) = none := behindHashes?_of_not_mem hu (by simp)
    rw [List.append_nil] at hnone
    rw [hnone, behindHashes?_of_not_mem hu (by simp [hne])]
    rfl
  by_cases hd : d = '\''
  · subst hd
    exact behindCharacter?_append hquote.2 hc hv
  by_cases hr : d = 'r'
  · subst hr
    exact hraw hquote.1
  by_cases hb : d = 'b'
  · subst hb
    rcases t with _ | ⟨e, t⟩
    · simp [behind?, hne]
    by_cases he : e = '\''
    · subst he
      exact behindCharacter?_append (fun hmem => hquote.2 (List.mem_cons_of_mem _ hmem)) hc hv
    by_cases her : e = 'r'
    · subst her
      exact hraw fun hmem => hquote.1 (List.mem_cons_of_mem _ hmem)
    · have heq : e ≠ '"' := by
        rintro rfl
        exact hquote.1 List.mem_cons_self
      simp [behind?, he, her, heq]
  by_cases hcc : d = 'c'
  · subst hcc
    rcases t with _ | ⟨e, t⟩
    · simp [behind?, hne]
    by_cases her : e = 'r'
    · subst her
      exact hraw fun hmem => hquote.1 (List.mem_cons_of_mem _ hmem)
    · have heq : e ≠ '"' := by
        rintro rfl
        exact hquote.1 List.mem_cons_self
      simp [behind?, her, heq]
  · simp [behind?, hd, hr, hb, hcc, ht.head]

/-- What is left behind it is an end of the text. -/
theorem isRest_of_behind? (ht : OpensNothing t) (h : behind? t = some rest) : IsRest rest t := by
  rcases exists_of_behind? h with ⟨u, v, content, rfl, -, hcharacter⟩ | ⟨u, v, rfl, -⟩
  · have hv : IsRest v (u ++ '\'' :: v) := by
      cases u with
      | nil => exact ⟨_, _, rfl, List.suffix_rfl⟩
      | cons e u => exact ⟨e, u ++ '\'' :: v, rfl, u ++ ['\''], by simp⟩
    exact .of_suffix (suffix_of_behindCharacter? hcharacter) hv
  · exact absurd (by decide) (ht '"' (by simp))

end Spelling

namespace Token

/-- A literal in front of such a character is the same, whatever it begins. -/
theorem literal?_append (ht : OpensNothing (d :: t)) (hc : c ∈ seams) (hv : v.head? ≠ some '\'') :
    literal? (d :: (t ++ c :: v)) =
      (literal? (d :: t)).map fun found => (found.1, found.2 ++ c :: v) := by
  have hstop := isStop_of_mem_seams hc v
  have hstring : Spelling.startsString (d :: (t ++ c :: v)) = Spelling.startsString (d :: t) := by
    unfold Spelling.startsString
    split <;> simp_all
  rw [literal?, literal?, Spelling.behind?_append ht hc hv, hstring]
  cases hbehind : Spelling.behind? (d :: t) with
  | some rest => simp [behindSuffix_append hstop]
  | none =>
      have hnumber := Number.behind?_append hstop (d :: t)
      rw [List.cons_append] at hnumber
      dsimp only [Option.map_none]
      rw [hnumber]
      cases hrest : Number.behind? (d :: t) with
      | none => rfl
      | some rest =>
          have hlength := (Number.isRest_of_behind? hrest).length_lt
          have htake : (d :: (t ++ c :: v)).take
              ((d :: (t ++ c :: v)).length - (rest ++ c :: v).length) =
                (d :: t).take ((d :: t).length - rest.length) := by
            rw [← List.cons_append, List.length_append, List.length_append,
              Nat.add_sub_add_right, List.take_append_of_le_length (Nat.sub_le _ _)]
          exact congrArg (fun spelling => some (literal (.number spelling), rest ++ c :: v)) htake

/-- A literal is read within a text that opens nothing. -/
theorem isRest_of_literal? {token : Token} (ht : OpensNothing t)
    (h : literal? t = some (token, rest)) : IsRest rest t := by
  rcases literal?_cases h with ⟨u, hu, rfl⟩ | hnumber
  · exact .of_suffix (behindSuffix_suffix u) (Spelling.isRest_of_behind? ht hu)
  · exact Number.isRest_of_behind? hnumber

/-- What follows a pasted name does not change which token a word is. -/
theorem ofWord?_append (hc : c ∈ seams) (v : Text) :
    ofWord? name (t ++ c :: v) =
      (ofWord? name t).map fun found => (found.1, found.2 ++ c :: v) := by
  have hstop := isStop_of_mem_seams hc v
  have hne : c ≠ '#' ∧ c ≠ '"' ∧ c ≠ '\'' := by
    refine ⟨?_, ?_, ?_⟩ <;> rintro rfl <;> revert hc <;> decide
  rcases t with _ | ⟨d, t⟩
  · rw [List.nil_append, ofWord?_of_plain (by simp [hne]), ofWord?_of_plain (by simp)]
    rfl
  by_cases hhash : d = '#'
  · subst hhash
    simp only [List.cons_append, ofWord?, word?_append_stop hstop]
    cases word? t with
    | none => split <;> [rfl; split <;> rfl]
    | some found =>
        dsimp only [Option.map_some, Option.bind_eq_bind, Option.bind_some]
        split
        · split <;> rfl
        · split <;> rfl
  by_cases hquote : d = '"'
  · subst hquote
    simp only [List.cons_append, ofWord?]
    split <;> rfl
  by_cases hsingle : d = '\''
  · subst hsingle
    simp only [List.cons_append, ofWord?]
    split <;> rfl
  · rw [List.cons_append, ofWord?_of_plain (by simp [hhash, hquote, hsingle]),
      ofWord?_of_plain (by simp [hhash, hquote, hsingle])]
    rfl

/-- What is left behind a word is an end of the text. -/
theorem suffix_of_ofWord? {token : Token} (h : ofWord? name t = some (token, rest)) :
    rest <:+ t := by
  rcases ofWord?_cases h with ⟨rfl, -⟩ | ⟨u, raw, rfl, hraw, -⟩
  · exact List.suffix_rfl
  · exact (isRest_of_word? hraw).suffix.trans (List.suffix_cons _ _)

/-- Neither a quote nor a mark stands behind a word in front of such a character, if none does
without it. -/
theorem head?_append_ne (hc : c ∈ seams) (t v : Text) :
    decide ((t ++ c :: v).head? ≠ some '\'') = decide (t.head? ≠ some '\'') ∧
      decide ((t ++ c :: v).head? ≠ some '#') = decide (t.head? ≠ some '#') := by
  have hne : c ≠ '#' ∧ c ≠ '\'' := by
    constructor <;> rintro rfl <;> revert hc <;> decide
  cases t <;> simp [hne]

/-- Whether a quote begins the name of a lifetime is seen in front of such a character. -/
theorem startsLifetime_append (hc : c ∈ seams) (t v : Text) :
    startsLifetime (t ++ c :: v) = startsLifetime t := by
  have hstop := isStop_of_mem_seams hc v
  have hplain : ∀ u : Text, (∀ w, u ≠ 'r' :: '#' :: w) → startsLifetime u =
      (word? u).any fun found => found.2.head? ≠ some '\'' && found.2.head? ≠ some '#' := by
    intro u hu
    unfold startsLifetime
    split
    · exact absurd rfl (hu _)
    · cases word? u <;> rfl
  by_cases hraw : ∃ w, t = 'r' :: '#' :: w
  · obtain ⟨w, rfl⟩ := hraw
    simp only [List.cons_append, startsLifetime, word?_append_stop hstop]
    cases word? w with
    | none => rfl
    | some found => simp only [Option.map_some, (head?_append_ne hc found.2 v).1]
  · have ht : ∀ w, t ≠ 'r' :: '#' :: w := fun w heq => hraw ⟨w, heq⟩
    have happend : ∀ w, t ++ c :: v ≠ 'r' :: '#' :: w := by
      rintro w heq
      rcases t with _ | ⟨d, _ | ⟨e, t⟩⟩
      · obtain rfl := (List.cons.inj heq).1
        revert hc
        decide
      · obtain rfl := (List.cons.inj (List.cons.inj heq).2).1
        revert hc
        decide
      · obtain ⟨rfl, hrest⟩ := List.cons.inj heq
        obtain ⟨rfl, -⟩ := List.cons.inj hrest
        exact ht t rfl
    rw [hplain _ ht, hplain _ happend, word?_append_stop hstop]
    cases word? t with
    | none => rfl
    | some found => simp only [Option.map_some, Option.any_some, head?_append_ne hc found.2 v]

/-- Where no comment can start, a mark is one by its first character. -/
theorem startsWithMark_cons (hd : d ≠ '/') (t : Text) : startsWithMark (d :: t) = isMark d := by
  unfold startsWithMark
  split <;> simp_all

/-- Where no slash stands, the first character tells. -/
theorem startsWithMark_append (hslash : '/' ∉ t) (hc : c ∈ seams) (v : Text) :
    startsWithMark (t ++ c :: v) = startsWithMark (t ++ [c]) := by
  cases t with
  | nil =>
      have hne : c ≠ '/' := by
        rintro rfl
        revert hc
        decide
      simp only [List.nil_append, startsWithMark_cons hne]
  | cons e t =>
      have hne : e ≠ '/' := by
        rintro rfl
        exact hslash List.mem_cons_self
      simp only [List.cons_append, startsWithMark_cons hne]

/-- Where neither a bracket nor a slash stands, there is a literal, a lifetime, a mark or a word. -/
theorem scan?_of_inner (hd : d ∉ openers) (hclosing : d ∉ Text.ofString ")]\x7d") :
    (∀ token rest, literal? (d :: u) = some (token, rest) →
      scan? (d :: u) = some ([token], rest)) ∧
    (literal? (d :: u) = none → scan? (d :: u) =
      if d = '\'' then if startsLifetime u then some ([mark d true], u) else none
      else if isMark d then some ([mark d (startsWithMark u)], u)
      else (word? (d :: u)).bind fun word =>
        (ofWord? word.1 word.2).map fun found => ([found.1], found.2)) := by
  have hopens : d ≠ '/' ∧ d ≠ '(' ∧ d ≠ '[' ∧ d ≠ '\x7b' := by
    refine ⟨?_, ?_, ?_, ?_⟩ <;> rintro rfl <;> exact hd (by decide)
  have hcloses : d ≠ ')' ∧ d ≠ ']' ∧ d ≠ '\x7d' := by
    refine ⟨?_, ?_, ?_⟩ <;> rintro rfl <;> exact hclosing (by decide)
  have hwrong : (Text.ofString "(/*ERROR*/)").isPrefixOf (d :: u) = false := by
    simp [Text.ofString, List.isPrefixOf, hopens.2.1.symm]
  have hnote : note? (d :: u) = none := by
    unfold note?
    split <;> simp_all
  constructor
  · intro token rest hliteral
    simp [scan?, hwrong, hopens, hcloses, hnote, hliteral]
  · intro hliteral
    simp [scan?, hwrong, hopens, hcloses, hnote, hliteral, startsWithMark_cons hopens.1]

/-- A closing bracket is a token by itself. -/
theorem scan?_closing (hd : d ∈ Text.ofString ")]\x7d") (u : Text) :
    scan? (d :: u) = some ([closing d], u) := by
  have hcases : d = ')' ∨ d = ']' ∨ d = '\x7d' := by simpa [Text.ofString] using hd
  rcases hcases with rfl | rfl | rfl <;> simp [scan?, Text.ofString, List.isPrefixOf]

/-- What a scan finds where such a text starts, and the text that it leaves: never the opening of a
group. -/
inductive Finds (d : Char) (t : Text) : Token → Text → Prop where
  | closing : Finds d t (.closing d) t
  | mark (joined : Bool) : Finds d t (.mark d joined) t
  | literal {rest : Text} (kind : Literal) (hrest : IsRest rest (d :: t)) :
    Finds d t (.literal kind) rest
  | word {name behind rest : Text} {token : Token} (hname : word? (d :: t) = some (name, behind))
    (htoken : ofWord? name behind = some (token, rest)) : Finds d t token rest

namespace Finds

variable {token : Token}

/-- The scan passes over one character at least. -/
theorem isRest (h : Finds d t token rest) : IsRest rest (d :: t) := by
  cases h with
  | closing | mark => exact ⟨d, t, rfl, List.suffix_rfl⟩
  | literal _ hrest => exact hrest
  | word hname htoken => exact .of_suffix (suffix_of_ofWord? htoken) (isRest_of_word? hname)

/-- No group is opened. -/
theorem ne_opening (h : Finds d t token rest) (bracket : Char) : token ≠ .opening bracket := by
  cases h with
  | closing | mark | literal => simp
  | word _ htoken => rcases ofWord?_cases htoken with ⟨-, rfl⟩ | ⟨_, _, -, -, -, rfl, -⟩ <;> simp

/-- A mark is the character itself. -/
theorem of_mark {mark : Char} {joined : Bool} (h : Finds d t (.mark mark joined) rest) :
    d = mark ∧ rest = t := by
  cases h with
  | mark => exact ⟨rfl, rfl⟩
  | word _ htoken =>
      rcases ofWord?_cases htoken with ⟨-, heq⟩ | ⟨_, _, -, -, -, heq, -⟩ <;> simp at heq

/-- A word that is not spelled raw is one as it stands. -/
theorem of_word (hraw : d ≠ 'r') (h : Finds d t (.word name) rest) :
    word? (d :: t) = some (name, rest) := by
  cases h with
  | word hname htoken =>
      rcases ofWord?_cases htoken with ⟨rfl, heq⟩ | ⟨_, _, -, -, rfl, -⟩
      · rw [Token.word.inj heq, hname]
      · exact absurd (List.cons.inj (exists_of_word? hname).1).1 hraw

end Finds

/-- **A scan of a text that opens nothing** goes as far and finds the same, whatever stands behind
the character that follows the text. -/
theorem exists_scan?_append (ht : OpensNothing (d :: t)) (hc : c ∈ seams) :
    ∃ found : Option (Token × Text),
      (∀ v, v.head? ≠ some '\'' → scan? (d :: (t ++ c :: v)) =
        found.map fun found => ([found.1], found.2 ++ c :: v)) ∧
      ∀ token rest, found = some (token, rest) → Finds d t token rest := by
  have hd := ht d List.mem_cons_self
  by_cases hclosing : d ∈ Text.ofString ")]\x7d"
  · refine ⟨some (closing d, t), fun v _ => scan?_closing hclosing _, ?_⟩
    rintro _ _ heq
    obtain ⟨rfl, rfl⟩ := Prod.mk.inj (Option.some.inj heq)
    exact .closing
  cases hliteral : literal? (d :: t) with
  | some found =>
      obtain ⟨token, rest⟩ := found
      refine ⟨some (token, rest), fun v hv => ?_, ?_⟩
      · refine (scan?_of_inner hd hclosing).1 token _ ?_
        rw [literal?_append ht hc hv, hliteral]
        rfl
      · rintro _ _ heq
        obtain ⟨rfl, rfl⟩ := Prod.mk.inj (Option.some.inj heq)
        obtain ⟨kind, rfl⟩ := exists_of_literal? hliteral
        exact .literal kind (isRest_of_literal? ht hliteral)
  | none =>
  have hscan := fun (v : Text) (hv : v.head? ≠ some '\'') =>
    (scan?_of_inner hd hclosing).2
      ((literal?_append ht hc hv).trans (congrArg (Option.map _) hliteral))
  by_cases hquote : d = '\''
  · refine ⟨if startsLifetime t then some (mark d true, t) else none, fun v hv => ?_, ?_⟩
    · rw [hscan v hv, if_pos hquote, startsLifetime_append hc]
      split <;> rfl
    · intro _ _ heq
      obtain ⟨-, heq⟩ := Option.ite_none_right_eq_some.mp heq
      obtain ⟨rfl, rfl⟩ := Prod.mk.inj (Option.some.inj heq)
      exact .mark true
  by_cases hmark : isMark d = true
  · refine ⟨some (mark d (startsWithMark (t ++ [c])), t), fun v hv => ?_, ?_⟩
    · have hslash : '/' ∉ t := fun hmem => ht '/' (List.mem_cons_of_mem d hmem) (by decide)
      rw [hscan v hv, if_neg hquote, if_pos hmark, startsWithMark_append hslash hc v]
      rfl
    · intro _ _ heq
      obtain ⟨rfl, rfl⟩ := Prod.mk.inj (Option.some.inj heq)
      exact .mark _
  · refine ⟨(word? (d :: t)).bind fun word => ofWord? word.1 word.2, fun v hv => ?_, ?_⟩
    · rw [hscan v hv, if_neg hquote, if_neg hmark]
      have hword := word?_append_stop (isStop_of_mem_seams hc v) (d :: t)
      rw [List.cons_append] at hword
      rw [hword]
      cases word? (d :: t) with
      | none => rfl
      | some found => simp [ofWord?_append hc, Function.comp_def]
    · intro _ _ heq
      obtain ⟨⟨name, u⟩, hword, htoken⟩ := Option.bind_eq_some_iff.mp heq
      exact .word hword htoken

/-- **A text that opens nothing is cut by itself**, whatever stands behind the character that
follows it; and it opens no group. -/
theorem exists_ofText?_append (ht : OpensNothing t) (hc : c ∈ seams) :
    ∃ front : Option (List Token),
      (∀ v, v.head? ≠ some '\'' → ofText? (t ++ c :: v) =
        front.bind fun tokens => (ofText? (c :: v)).map (tokens ++ ·)) ∧
      ∀ tokens, front = some tokens → ∀ bracket, .opening bracket ∉ tokens := by
  generalize hlength : t.length = n
  induction n using Nat.strongRecOn generalizing t with
  | ind n ih =>
      subst hlength
      cases t with
      | nil => exact ⟨some [], fun v _ => by simp, by simp⟩
      | cons d t =>
          have hslash := ht.head.1
          have hshorter : t.length < (d :: t).length := Nat.lt_succ_self _
          by_cases hblank : Text.isCodeBlank d = true
          · obtain ⟨front, hfront, hflat⟩ := ih _ hshorter (ht.of_suffix (List.suffix_cons d t)) rfl
            refine ⟨front, fun v hv => (ofText?_of_gap ?_).trans (hfront v hv), hflat⟩
            rw [List.cons_append, behind?_blanks_cons hslash, if_pos hblank]
          · have hgap : ∀ v, Gap.behind? .blanks (d :: (t ++ c :: v)) = some (d :: (t ++ c :: v)) :=
              fun v => by rw [behind?_blanks_cons hslash, if_neg hblank]
            obtain ⟨found, hscan, hfound⟩ := exists_scan?_append ht hc
            cases found with
            | none => exact ⟨none, fun v hv => ofText?_of_stuck (hgap v) (hscan v hv), by simp⟩
            | some found =>
                obtain ⟨token, rest⟩ := found
                have hfinds := hfound token rest rfl
                have hrest := hfinds.isRest
                obtain ⟨front, hfront, hflat⟩ :=
                  ih _ hrest.length_lt (ht.of_suffix hrest.suffix) rfl
                refine ⟨front.map ([token] ++ ·), fun v hv => ?_, ?_⟩
                · rw [List.cons_append, ofText?_of_scan (hgap v) (hscan v hv), hfront v hv]
                  cases front <;> simp [Function.comp_def]
                · intro _ heq bracket
                  obtain ⟨tokens, rfl, rfl⟩ := Option.map_eq_some_iff.mp heq
                  simpa [hfinds.ne_opening bracket, eq_comm] using hflat tokens rfl bracket

end Token

end TypedStyle.Code
