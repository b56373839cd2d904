import TypedStyle.Code.Token
import TypedStyle.Proofs.Text.Characters
/-!
# Where words and numbers stop

Words and numbers go on over certain characters only, and neither quotes nor blanks nor brackets are
among them.  How a word or a number in front of such a character is passed over does not depend on
what stands from the character on, and all of that is left in place.

* `word?_append_stop`, `Number.behind?_append` — words and numbers in front of such a character;
* `isRest_of_word?`, `Number.isRest_of_behind?` — they pass over some of the text;
* `Leaves` — what is left is an end of the text, and has in it all from the character on;
* `leaves_of_word?`, `Number.leaves_of_behind?` — what words and numbers leave.
-/

namespace TypedStyle.Code

/-- Characters over which neither a word nor a number goes on. -/
def stops : Text :=
  "\"\x60:( \n>"

/-- The text starts with such a character. -/
def IsStop (stop : Text) : Prop :=
  ∃ c ∈ stop.head?, c ∈ stops

variable {stop t u rest name : Text} {c : Char} {p : Char → Bool}

/-- A character of a class without a quote and a back quote is neither of them. -/
theorem ne_stop (hquote : p '"' = false) (hback : p '\x60' = false) (hc : p c = true) :
    c ≠ '"' ∧ c ≠ '\x60' := by
  constructor
  · rintro rfl
    exact Bool.false_ne_true (hquote.symm.trans hc)
  · rintro rfl
    exact Bool.false_ne_true (hback.symm.trans hc)

/-- What is left is an end of the text, and its first character at least is passed over. -/
def IsRest (rest t : Text) : Prop :=
  ∃ c others, t = c :: others ∧ rest <:+ others

namespace IsRest

/-- What is left is an end of the text. -/
theorem suffix (h : IsRest rest t) : rest <:+ t := by
  obtain ⟨c, others, rfl, hothers⟩ := h
  exact hothers.trans (List.suffix_cons c others)

/-- It is shorter than the text. -/
theorem length_lt (h : IsRest rest t) : rest.length < t.length := by
  obtain ⟨c, others, rfl, hothers⟩ := h
  exact Nat.lt_succ_of_le hothers.length_le

/-- So is an end of what is left. -/
theorem of_suffix (h : rest <:+ u) (hu : IsRest u t) : IsRest rest t := by
  obtain ⟨c, others, rfl, hothers⟩ := hu
  exact ⟨c, others, rfl, h.trans hothers⟩

end IsRest

namespace IsStop

/-- A text that starts with a stop has it in front. -/
theorem exists_cons (hstop : IsStop stop) : ∃ c behind, stop = c :: behind ∧ c ∈ stops := by
  obtain ⟨c, hc, hmem⟩ := hstop
  obtain ⟨behind, rfl⟩ := List.head?_eq_some_iff.mp hc
  exact ⟨c, behind, rfl, hmem⟩

/-- A character that is none of these stands in front of the stop. -/
theorem suffix_of_cons (hstop : IsStop stop) (h : stop <:+ c :: t) (hc : c ∉ stops) :
    stop <:+ t := by
  obtain ⟨d, behind, rfl, hd⟩ := hstop.exists_cons
  rcases List.suffix_cons_iff.mp h with heq | ht
  · obtain rfl := (List.cons.inj heq).1
    exact absurd hd hc
  · exact ht

/-- Other characters stand in front of a stop as a whole. -/
theorem suffix_of_append (hstop : IsStop stop) (h : stop <:+ u ++ t) (hu : ∀ c ∈ u, c ∉ stops) :
    stop <:+ t := by
  induction u with
  | nil => exact h
  | cons c u ih =>
      obtain ⟨hc, hu⟩ := List.forall_mem_cons.mp hu
      exact ih (hstop.suffix_of_cons h hc) hu

/-- Characters of a class without these are passed over up to the stop. -/
theorem dropWhile_append (hstop : IsStop stop) (hp : ∀ c ∈ stops, p c = false) (t : Text) :
    (t ++ stop).dropWhile p = t.dropWhile p ++ stop := by
  induction t with
  | nil =>
      obtain ⟨c, behind, rfl, hc⟩ := hstop.exists_cons
      exact List.dropWhile_cons_of_neg (by simp [hp c hc])
  | cons c t ih =>
      rw [List.cons_append, List.dropWhile_cons, List.dropWhile_cons, ih]
      split <;> rfl

/-- Characters of a kind that has no stop in it are taken up to the stop. -/
theorem takeWhile_append (hstop : IsStop stop) (hp : ∀ c ∈ stops, p c = false) (t : Text) :
    (t ++ stop).takeWhile p = t.takeWhile p := by
  induction t with
  | nil =>
      obtain ⟨c, behind, rfl, hc⟩ := hstop.exists_cons
      exact List.takeWhile_cons_of_neg (by simp [hp c hc])
  | cons c t ih => rw [List.cons_append, List.takeWhile_cons, List.takeWhile_cons, ih]

end IsStop

/-! ## Words -/

/-- No word goes on over a stop. -/
theorem isContinue_stop : ∀ c ∈ stops, Text.Identifier.isContinue c = false :=
  Text.forall_mem_of_all (by decide)

/-- Neither does one start at it. -/
theorem isStart_stop : ∀ c ∈ stops, Text.Identifier.isStart c = false :=
  Text.forall_mem_of_all (by decide)

/-- **A word in front of a stop** is the same, whatever the stop is. -/
theorem word?_append_stop (hstop : IsStop stop) (t : Text) :
    word? (t ++ stop) = (word? t).map fun found => (found.1, found.2 ++ stop) := by
  cases t with
  | nil =>
      obtain ⟨c, behind, rfl, hc⟩ := hstop.exists_cons
      simp [word?, isStart_stop c hc]
  | cons c t =>
      rw [List.cons_append, word?, word?, hstop.takeWhile_append isContinue_stop,
        hstop.dropWhile_append isContinue_stop]
      split <;> rfl

/-- The suffix of a literal ends at the stop, whatever follows it. -/
theorem behindSuffix_append (hstop : IsStop stop) (t : Text) :
    behindSuffix (t ++ stop) = behindSuffix t ++ stop := by
  rw [behindSuffix, behindSuffix, word?_append_stop hstop]
  cases word? t <;> rfl

/-- What is left behind a word is shorter than the text. -/
theorem isRest_of_word? (h : word? t = some (name, rest)) : IsRest rest t := by
  unfold word? at h
  split at h
  · obtain ⟨-, heq⟩ := Option.ite_some_none_eq_some.mp h
    obtain ⟨-, rfl⟩ := Prod.mk.inj heq
    exact ⟨_, _, rfl, List.dropWhile_suffix _⟩
  · contradiction

/-- What is left behind a suffix is an end of the text. -/
theorem behindSuffix_suffix (t : Text) : behindSuffix t <:+ t := by
  unfold behindSuffix
  split
  · next hword => exact (isRest_of_word? hword).suffix
  · exact List.suffix_rfl

/-! ## Numbers -/

namespace Number

/-- So does the suffix of a number. -/
theorem behindSuffix?_append (hstop : IsStop stop) (t : Text) :
    behindSuffix? (t ++ stop) = (behindSuffix? t).map (· ++ stop) := by
  rw [behindSuffix?, behindSuffix?, word?_append_stop hstop]
  cases word? t with
  | some found => rfl
  | none =>
      cases t with
      | nil =>
          obtain ⟨c, behind, rfl, hc⟩ := hstop.exists_cons
          simp [isContinue_stop c hc]
      | cons c t =>
          cases hc : Text.Identifier.isContinue c <;> simp [hc]

/-- None of these characters is part of a number, whatever its base. -/
theorem of_mem_stops (hc : c ∈ stops) :
    c.isDigit = false ∧ isHexDigit c = false ∧ c ∉ Text.ofString "+-_.eExob" := by
  have hall : ∀ c ∈ stops,
      c.isDigit = false ∧ isHexDigit c = false ∧ c ∉ Text.ofString "+-_.eExob" :=
    Text.forall_mem_of_all (by decide)
  exact hall c hc

/-- An exponent is passed over, or else the number ends earlier. -/
theorem behindExponent?_append (hstop : IsStop stop) (earlier : Option Text)
    (isSigned hasDigits : Bool) (t : Text) :
    behindExponent? (earlier.map (· ++ stop)) isSigned hasDigits (t ++ stop) =
      (behindExponent? earlier isSigned hasDigits t).map (· ++ stop) := by
  fun_induction behindExponent? earlier isSigned hasDigits t with
  | case1 hasDigits c t hsign => rw [List.cons_append, behindExponent?, if_pos hsign]; rfl
  | case2 isSigned hasDigits c t hsign hnot ih =>
      rw [List.cons_append, behindExponent?, if_pos hsign, if_neg hnot, ih]
  | case3 isSigned hasDigits c t hsign hdigit ih =>
      rw [List.cons_append, behindExponent?, if_neg hsign, if_pos hdigit, ih]
  | case4 isSigned hasDigits t hsign hdigit ih =>
      rw [List.cons_append, behindExponent?, if_neg hsign, if_neg hdigit, if_pos rfl, ih]
  | case5 | case6 => simp_all [behindExponent?]
  | case7 | case8 =>
      obtain ⟨c, behind, rfl, hc⟩ := hstop.exists_cons
      obtain ⟨hdigit, -, hother⟩ := of_mem_stops hc
      simp_all [behindExponent?, Text.ofString]

/-- So do its digits, in any base. -/
theorem behindDigits?_append (hstop : IsStop stop) (base : Nat) (isFound : Bool) (t : Text) :
    behindDigits? base isFound (t ++ stop) = (behindDigits? base isFound t).map (· ++ stop) := by
  fun_induction behindDigits? base isFound t with
  | case1 isFound t hgoes ih => rw [List.cons_append, behindDigits?, if_pos rfl, if_pos hgoes, ih]
  | case2 isFound t hends => rw [List.cons_append, behindDigits?, if_pos rfl, if_neg hends]; rfl
  | case3 isFound c t hplace hdigit hsmall ih =>
      rw [List.cons_append, behindDigits?, if_neg hplace, if_pos hdigit, if_pos hsmall, ih]
  | case4 isFound c t hplace hdigit hlarge =>
      rw [List.cons_append, behindDigits?, if_neg hplace, if_pos hdigit, if_neg hlarge]; rfl
  | case5 c t hplace hdigit =>
      rw [List.cons_append, behindDigits?, if_neg hplace, if_neg hdigit]; rfl
  | case6 isFound c t hplace hdigit hfound =>
      rw [List.cons_append, behindDigits?, if_neg hplace, if_neg hdigit, if_neg hfound]; rfl
  | case7 | case8 =>
      obtain ⟨c, behind, rfl, hc⟩ := hstop.exists_cons
      obtain ⟨-, hdigit, hother⟩ := of_mem_stops hc
      simp_all [behindDigits?, Text.ofString]

/-- Without a letter for the base, the number is one in base ten. -/
theorem behindWhole?_of_plain (h : ∀ c u, t = '0' :: c :: u → c ∉ Text.ofString "xob") :
    behindWhole? t = behindDigits? 10 false t := by
  unfold behindWhole?
  split
  · exact absurd (by decide) (h _ _ rfl)
  · exact absurd (by decide) (h _ _ rfl)
  · exact absurd (by decide) (h _ _ rfl)
  · rfl

/-- So does a whole number. -/
theorem behindWhole?_append (hstop : IsStop stop) (t : Text) :
    behindWhole? (t ++ stop) = (behindWhole? t).map (· ++ stop) := by
  by_cases hbase : ∃ c u, t = '0' :: c :: u ∧ c ∈ Text.ofString "xob"
  · obtain ⟨c, u, rfl, hc⟩ := hbase
    have hletter : c = 'x' ∨ c = 'o' ∨ c = 'b' := by simpa [Text.ofString] using hc
    rcases hletter with rfl | rfl | rfl <;> exact behindDigits?_append hstop _ _ u
  · have hplain : ∀ c u, t = '0' :: c :: u → c ∉ Text.ofString "xob" :=
      fun c u heq hc => hbase ⟨c, u, heq, hc⟩
    have happend : ∀ c u, t ++ stop = '0' :: c :: u → c ∉ Text.ofString "xob" := by
      obtain ⟨d, behind, rfl, hd⟩ := hstop.exists_cons
      obtain ⟨hdigit, -, hother⟩ := of_mem_stops hd
      intro c u heq
      rcases t with _ | ⟨e, _ | ⟨f, t⟩⟩
      · obtain rfl := (List.cons.inj heq).1
        contradiction
      · obtain rfl := (List.cons.inj (List.cons.inj heq).2).1
        exact fun hmem => hother (List.mem_append_right (Text.ofString "+-_.eE") hmem)
      · obtain ⟨rfl, hrest⟩ := List.cons.inj heq
        obtain rfl := (List.cons.inj hrest).1
        exact hplain f t rfl
    rw [behindWhole?_of_plain hplain, behindWhole?_of_plain happend, behindDigits?_append hstop]

/-- A stop is no place of a number. -/
theorem isPlace_stop : ∀ c ∈ stops, isPlace c = false :=
  Text.forall_mem_of_all (by decide)

/-- Neither a point nor a word goes on from the point of a number in front of a stop. -/
theorem any_head?_append (hstop : IsStop stop) (t : Text) :
    ((t ++ stop).head?.any fun c => c = '.' || Text.Identifier.isStart c) =
      t.head?.any fun c => c = '.' || Text.Identifier.isStart c := by
  cases t with
  | nil =>
      obtain ⟨c, behind, rfl, hc⟩ := hstop.exists_cons
      have hpoint : c ≠ '.' := by
        rintro rfl
        exact (of_mem_stops hc).2.2 (by decide)
      simp [isStart_stop c hc, hpoint]
  | cons c t => rfl

/-- So does a number with a point or an exponent. -/
theorem behindDecimal?_append (hstop : IsStop stop) (t : Text) :
    behindDecimal? (t ++ stop) = (behindDecimal? t).map (· ++ stop) := by
  obtain ⟨d, behind, rfl, hd⟩ := hstop.exists_cons
  obtain ⟨hdigit, -, hother⟩ := of_mem_stops hd
  have hletters : d ≠ '.' ∧ d ≠ 'e' ∧ d ≠ 'E' := by
    refine ⟨?_, ?_, ?_⟩ <;> rintro rfl <;> exact hother (by decide)
  have hexponent := fun earlier => behindExponent?_append hstop earlier false false
  cases t with
  | nil => simp [behindDecimal?, hdigit]
  | cons first t =>
      rw [List.cons_append, behindDecimal?, behindDecimal?, hstop.dropWhile_append isPlace_stop]
      split
      · rcases t.dropWhile isPlace with _ | ⟨c, u⟩
        · simp [hletters]
        by_cases hpoint : c = '.'
        · subst hpoint
          simp only [List.cons_append, any_head?_append hstop,
            hstop.dropWhile_append isPlace_stop]
          split
          · rfl
          rcases u.dropWhile isPlace with _ | ⟨c, v⟩
          · simp [hletters]
          by_cases hsmall : c = 'e'
          · subst hsmall
            exact hexponent (some ('e' :: v)) v
          by_cases hlarge : c = 'E'
          · subst hlarge
            exact hexponent (some ('E' :: v)) v
          · simp [hsmall, hlarge]
        by_cases hsmall : c = 'e'
        · subst hsmall
          exact hexponent none u
        by_cases hlarge : c = 'E'
        · subst hlarge
          exact hexponent none u
        · simp [hpoint, hsmall, hlarge]
      · rfl

/-- **A number in front of a stop** is the same, whatever the stop is. -/
theorem behind?_append (hstop : IsStop stop) (t : Text) :
    behind? (t ++ stop) = (behind? t).map (· ++ stop) := by
  have hsuffix : ∀ found : Option Text, (found.map (· ++ stop)).bind behindSuffix? =
      (found.bind behindSuffix?).map (· ++ stop) := by
    intro found
    cases found with
    | none => rfl
    | some rest => exact behindSuffix?_append hstop rest
  rw [behind?, behind?, behindDecimal?_append hstop, behindWhole?_append hstop, hsuffix, hsuffix,
    Option.map_or]

/-! ## What is left is an end of the text -/

/-- What is left behind the suffix of a number is an end of the text. -/
theorem suffix_of_behindSuffix? (h : behindSuffix? t = some rest) : rest <:+ t := by
  unfold behindSuffix? at h
  split at h
  · next hword =>
    obtain rfl := Option.some.inj h
    exact (isRest_of_word? hword).suffix
  · obtain ⟨-, heq⟩ := Option.ite_none_left_eq_some.mp h
    obtain rfl := Option.some.inj heq
    exact List.suffix_rfl

/-- What is left behind an exponent is such an end, or what was left in front of it. -/
theorem suffix_of_behindExponent? {earlier : Option Text} {isSigned hasDigits : Bool}
    (h : behindExponent? earlier isSigned hasDigits t = some rest) :
    earlier = some rest ∨ rest <:+ t := by
  fun_induction behindExponent? earlier isSigned hasDigits t with
  | case1 | case6 | case8 => exact .inl h
  | case2 _ _ _ _ _ _ ih | case3 _ _ _ _ _ _ ih | case4 _ _ _ _ _ ih =>
      exact (ih h).imp_right fun hrest => hrest.trans (List.suffix_cons _ _)
  | case5 | case7 =>
      obtain rfl := Option.some.inj h
      exact .inr List.suffix_rfl

/-- Where no digit has been found, one is passed over. -/
theorem suffix_of_behindDigits? {base : Nat} {isFound : Bool}
    (h : behindDigits? base isFound t = some rest) :
    rest <:+ t ∧ (isFound = false → IsRest rest t) := by
  fun_induction behindDigits? base isFound t with
  | case1 _ _ _ ih | case3 _ _ _ _ _ _ ih =>
      exact ⟨(ih h).1.trans (List.suffix_cons _ _), fun _ => ⟨_, _, rfl, (ih h).1⟩⟩
  | case5 | case7 =>
      obtain rfl := Option.some.inj h
      exact ⟨List.suffix_rfl, fun hfound => by contradiction⟩
  | case2 | case4 | case6 | case8 => contradiction

/-- A whole number has one character at least. -/
theorem isRest_of_behindWhole? (h : behindWhole? t = some rest) : IsRest rest t := by
  unfold behindWhole? at h
  split at h
  case h_4 => exact (suffix_of_behindDigits? h).2 rfl
  all_goals exact ⟨_, _, rfl, (suffix_of_behindDigits? h).1.trans (List.suffix_cons _ _)⟩

/-- So has one with a point or an exponent. -/
theorem isRest_of_behindDecimal? (h : behindDecimal? t = some rest) : IsRest rest t := by
  -- Behind the letter of an exponent, or in front of it.
  have hexponent : ∀ {u v : Text} {letter : Char} {earlier : Option Text},
      (∀ w ∈ earlier, w = letter :: v) → u.dropWhile isPlace = letter :: v →
      behindExponent? earlier false false v = some rest → rest <:+ u := by
    intro u v letter earlier hearlier hplaces hbehind
    have hletter : letter :: v <:+ u := hplaces ▸ List.dropWhile_suffix isPlace
    rcases suffix_of_behindExponent? hbehind with hback | hrest
    · rwa [hearlier rest hback]
    · exact (hrest.trans (List.suffix_cons _ _)).trans hletter
  unfold behindDecimal? at h
  split at h
  · next first others =>
    split at h
    · refine ⟨first, others, rfl, ?_⟩
      split at h
      · next fraction hpoint =>
        have hfraction : '.' :: fraction <:+ others := hpoint ▸ List.dropWhile_suffix isPlace
        refine List.IsSuffix.trans ?_ ((List.suffix_cons _ _).trans hfraction)
        obtain ⟨-, h⟩ := Option.ite_none_left_eq_some.mp h
        split at h
        · next heq => exact hexponent (by simp) heq h
        · next heq => exact hexponent (by simp) heq h
        · obtain rfl := Option.some.inj h
          exact List.dropWhile_suffix isPlace
      · next heq => exact hexponent (by simp) heq h
      · next heq => exact hexponent (by simp) heq h
      · contradiction
    · contradiction
  · contradiction

/-- **What is left behind a number is an end of the text**, with one character less at least. -/
theorem isRest_of_behind? (h : behind? t = some rest) : IsRest rest t := by
  rcases Option.or_eq_some_iff.mp h with hdecimal | ⟨-, hwhole⟩
  · obtain ⟨mid, hmid, hsuffix⟩ := Option.bind_eq_some_iff.mp hdecimal
    exact .of_suffix (suffix_of_behindSuffix? hsuffix) (isRest_of_behindDecimal? hmid)
  · obtain ⟨mid, hmid, hsuffix⟩ := Option.bind_eq_some_iff.mp hwhole
    exact .of_suffix (suffix_of_behindSuffix? hsuffix) (isRest_of_behindWhole? hmid)

end Number

/-! ## Both together -/

/-- What is left is an end of the text, and all of `stop` is in it. -/
structure Leaves (stop t rest : Text) : Prop where
  suffix : stop <:+ rest
  ofText : rest <:+ t

/-- **A word leaves the stop** and all that is behind it. -/
theorem leaves_of_word? (hstop : IsStop stop) (h : stop <:+ t)
    (hword : word? t = some (name, rest)) : Leaves stop t rest := by
  refine ⟨?_, (isRest_of_word? hword).suffix⟩
  obtain ⟨front, rfl⟩ := h
  rw [word?_append_stop hstop] at hword
  obtain ⟨found, -, heq⟩ := Option.map_eq_some_iff.mp hword
  exact ⟨found.2, (Prod.mk.inj heq).2⟩

/-- So does a suffix. -/
theorem leaves_behindSuffix (hstop : IsStop stop) (h : stop <:+ t) :
    Leaves stop t (behindSuffix t) := by
  refine ⟨?_, behindSuffix_suffix t⟩
  obtain ⟨front, rfl⟩ := h
  rw [behindSuffix_append hstop]
  exact List.suffix_append _ _

/-- **So does a number.** -/
theorem Number.leaves_of_behind? (hstop : IsStop stop) (h : stop <:+ t)
    (hrest : behind? t = some rest) : Leaves stop t rest := by
  refine ⟨?_, (isRest_of_behind? hrest).suffix⟩
  obtain ⟨front, rfl⟩ := h
  rw [behind?_append hstop] at hrest
  obtain ⟨behind, -, rfl⟩ := Option.map_eq_some_iff.mp hrest
  exact List.suffix_append _ _

end TypedStyle.Code
