import TypedStyle.Proofs.Code.OpenStrings
/-!
# What a scan passes over

One step of cutting code into tokens passes over a gap and one piece of code.  What kinds of pieces
there are, and what is left behind each of them, is said here once.

* `scan?_cases` — the kinds of pieces;
* `Spelling.exists_of_behind?` — where a string or a character can end;
* `collect?_of_isSwapped` — code that is read from inside a string on cannot be cut.
-/

namespace TypedStyle.Code

variable {t u v rest name : Text} {content : Content}

/-! ## Literals -/

/-- A string or a character starts behind a few letters and marks. -/
theorem Spelling.exists_of_behind? (h : Spelling.behind? t = some rest) :
    (∃ u v content, t = u ++ '\'' :: v ∧ (u = [] ∨ u = ['b']) ∧
      Spelling.behindCharacter? content v = some rest) ∨
    ∃ u v, t = u ++ '"' :: v ∧ (∀ c ∈ u, c ≠ '"' ∧ c ≠ '\x60') ∧ Closes v rest := by
  have hraw : ∀ {content : Content} {u t : Text}, (∀ c ∈ u, c ≠ '"' ∧ c ≠ '\x60') →
      Spelling.behindHashes? content t = some rest → ∃ w v, u ++ t = w ++ '"' :: v ∧
        (∀ c ∈ w, c ≠ '"' ∧ c ≠ '\x60') ∧ Closes v rest := by
    intro content u t hu hbehind
    obtain ⟨marks, v, rfl, hmarks, hcloses⟩ := Spelling.exists_of_behindHashes? hbehind
    refine ⟨u ++ marks, v, by simp, fun c hc => ?_, hcloses⟩
    rcases List.mem_append.mp hc with hc | hc
    · exact hu c hc
    · rw [hmarks c hc]
      decide
  unfold Spelling.behind? at h
  split at h
  · exact .inr ⟨[], _, rfl, by simp, Spelling.closes_of_behindString? h⟩
  · exact .inl ⟨[], _, _, rfl, .inl rfl, h⟩
  · exact .inr (hraw (u := ['r']) (by simp) h)
  · exact .inr ⟨['b'], _, rfl, by simp, Spelling.closes_of_behindString? h⟩
  · exact .inl ⟨['b'], _, _, rfl, .inr rfl, h⟩
  · exact .inr (hraw (u := ['b', 'r']) (by simp) h)
  · exact .inr ⟨['c'], _, rfl, by simp, Spelling.closes_of_behindString? h⟩
  · exact .inr (hraw (u := ['c', 'r']) (by simp) h)
  · contradiction

namespace Token

variable {token : Token} {tokens found : List Token}

/-- A literal is a string or a character with a suffix, or a number. -/
theorem literal?_cases (h : literal? t = some (token, rest)) :
    (∃ u, Spelling.behind? t = some u ∧ rest = behindSuffix u) ∨ Number.behind? t = some rest := by
  unfold literal? at h
  split at h
  · next u hu =>
    exact .inl ⟨u, hu, (Prod.mk.inj (Option.some.inj h)).2.symm⟩
  · obtain ⟨u, hu, heq⟩ := Option.map_eq_some_iff.mp h
    exact .inr (by rw [hu, (Prod.mk.inj heq).2])

/-- A word is passed over alone, or it is the one in front of a word that is spelled raw. -/
theorem ofWord?_cases (h : ofWord? name t = some (token, rest)) :
    (rest = t ∧ token = word name) ∨ ∃ u raw, t = '#' :: u ∧ word? u = some (raw, rest) ∧
      name = "r" ∧ token = word ("r#" ++ raw) ∧ raw ≠ ['_'] ∧
      raw ∉ Text.Identifier.reservedRaw := by
  have hplain : some (word name, t) = some (token, rest) → rest = t ∧ token = word name := by
    intro heq
    obtain ⟨rfl, rfl⟩ := Prod.mk.inj (Option.some.inj heq)
    exact ⟨rfl, rfl⟩
  unfold ofWord? at h
  split at h
  · next behind =>
    split at h
    · next hname =>
      obtain ⟨⟨raw, u⟩, hraw, heq⟩ := Option.bind_eq_some_iff.mp h
      dsimp only at heq
      split at heq
      · contradiction
      · next hallowed =>
        obtain ⟨rfl, rfl⟩ := Prod.mk.inj (Option.some.inj heq)
        simp only [Bool.or_eq_true, List.contains_eq_mem, decide_eq_true_eq, not_or] at hallowed
        exact .inr ⟨behind, raw, rfl, hraw, hname, rfl, hallowed⟩
    · split at h
      · contradiction
      · exact .inl (hplain h)
  · split at h
    · contradiction
    · exact .inl (hplain h)
  · split at h
    · contradiction
    · exact .inl (hplain h)
  · exact .inl (hplain h)

/-- Neither of the two is a mark. -/
theorem ne_stop_of_startsWithMark {c : Char} (h : startsWithMark (c :: t) = true) :
    c ≠ '"' ∧ c ≠ '\x60' := by
  have hmark : isMark c = true := by
    unfold startsWithMark at h
    split at h
    · contradiction
    · contradiction
    · next heq =>
      obtain rfl := (List.cons.inj heq).1
      exact h
    · contradiction
  exact ne_stop (by decide) (by decide) hmark

/-- **What a scan passes over**: a mark of an error, a single character, a note, a literal or a
word.  Only in the last two cases and the second there is one token, and only in the last one it can
be a word. -/
theorem scan?_cases (h : scan? t = some (tokens, rest)) :
    (t = Text.ofString "(/*ERROR*/)" ++ rest ∧ tokens = [.literal .other]) ∨
    (∃ c, t = c :: rest ∧ c ≠ '"' ∧ c ≠ '\x60' ∧
      ∃ token, tokens = [token] ∧ ∀ name, token ≠ word name) ∨
    note? t = some (tokens, rest) ∨
    (∃ token, literal? t = some (token, rest) ∧ tokens = [token]) ∨
    ∃ name u token, word? t = some (name, u) ∧ ofWord? name u = some (token, rest) ∧
      tokens = [token] := by
  unfold scan? at h
  split at h
  · contradiction
  · next c u =>
    dsimp only at h
    split at h
    · next hwrong =>
      obtain ⟨behind, hbehind⟩ := List.isPrefixOf_iff_prefix.mp hwrong
      obtain ⟨htokens, hrest⟩ := Prod.mk.inj (Option.some.inj h)
      rw [← hbehind, List.drop_left] at hrest
      exact .inl ⟨by rw [← hbehind, hrest], htokens.symm⟩
    have hsingle : ∀ {token : Token}, c ≠ '"' ∧ c ≠ '\x60' → (∀ name, token ≠ word name) →
        some ([token], u) = some (tokens, rest) → ∃ d, c :: u = d :: rest ∧ d ≠ '"' ∧ d ≠ '\x60' ∧
          ∃ token, tokens = [token] ∧ ∀ name, token ≠ word name := by
      intro token hc hword heq
      obtain ⟨rfl, rfl⟩ := Prod.mk.inj (Option.some.inj heq)
      exact ⟨c, rfl, hc.1, hc.2, token, rfl, hword⟩
    split at h
    · next hopening =>
      exact .inr (.inl (hsingle (ne_stop (p := fun c => c = '(' || c = '[' || c = '\x7b') rfl rfl
        hopening) (fun _ => Token.noConfusion) h))
    split at h
    · next hclosing =>
      exact .inr (.inl (hsingle (ne_stop (p := fun c => c = ')' || c = ']' || c = '\x7d') rfl rfl
        hclosing) (fun _ => Token.noConfusion) h))
    split at h
    · next hnote => exact .inr (.inr (.inl (hnote.trans h)))
    split at h
    · next hliteral =>
      obtain ⟨rfl, rfl⟩ := Prod.mk.inj (Option.some.inj h)
      exact .inr (.inr (.inr (.inl ⟨_, hliteral, rfl⟩)))
    split at h
    · next hquote =>
      obtain ⟨-, heq⟩ := Option.ite_some_none_eq_some.mp h
      exact .inr (.inl (hsingle (by rw [hquote]; decide) (fun _ => Token.noConfusion)
        (congrArg some heq)))
    split at h
    · next hmark =>
      exact .inr (.inl (hsingle (ne_stop_of_startsWithMark hmark) (fun _ => Token.noConfusion) h))
    · obtain ⟨⟨name, v⟩, hword, hfound⟩ := Option.bind_eq_some_iff.mp h
      obtain ⟨⟨token, w⟩, htoken, heq⟩ := Option.map_eq_some_iff.mp hfound
      obtain ⟨rfl, rfl⟩ := Prod.mk.inj heq
      exact .inr (.inr (.inr (.inr ⟨name, v, token, hword, htoken, rfl⟩)))

/-! ## Behind a string that reaches too far -/

/-- A first character that is no quote stands between the two of the pair. -/
theorem exists_of_isSwapped_cons {c : Char} (h : IsSwapped (c :: t)) (hc : c ≠ '"') :
    IsHarmless c ∧ IsSwapped t := by
  obtain ⟨v, w, heq, hv, hw⟩ := h
  cases v with
  | nil => exact absurd (List.cons.inj heq).1 hc
  | cons d v =>
      obtain ⟨rfl, rfl⟩ := List.cons.inj heq
      obtain ⟨hharmless, hv⟩ := List.forall_mem_cons.mp hv
      exact ⟨hharmless, v, w, rfl, hv, hw⟩

/-- What words and numbers leave of such a text is one again. -/
theorem isSwapped_of_leaves (h : IsSwapped t)
    (hleaves : ∀ {stop : Text}, IsStop stop → stop <:+ t → Leaves stop t rest) :
    IsSwapped rest := by
  obtain ⟨v, w, rfl, hv, hw⟩ := h
  have hquote : IsStop ('"' :: w) := ⟨'"', rfl, by decide⟩
  obtain ⟨⟨x, hx⟩, y, hy⟩ := hleaves hquote (List.suffix_append _ _)
  have hsplit : y ++ x = v := by
    rw [← hx, ← List.append_assoc] at hy
    exact List.append_cancel_right hy
  exact ⟨x, w, hx.symm, fun c hc => hv c (by simp [← hsplit, hc]), hw⟩

/-- Where no comment can start, a blank is passed over alone. -/
theorem behind?_blanks_cons {c : Char} (hc : c ≠ '/') :
    Gap.behind? .blanks (c :: t) =
      if Text.isCodeBlank c then Gap.behind? .blanks t else some (c :: t) := by
  conv => lhs; unfold Gap.behind?
  split <;> simp_all

/-- A gap that is passed over leaves such a text. -/
theorem isSwapped_of_gap (h : IsSwapped t) (hgap : Gap.behind? .blanks t = some rest) :
    IsSwapped rest := by
  obtain ⟨v, w, rfl, hv, hw⟩ := h
  induction v with
  | nil =>
      obtain rfl : '"' :: w = rest := Option.some.inj hgap
      exact ⟨[], w, rfl, hv, hw⟩
  | cons c v ih =>
      obtain ⟨hc, hv'⟩ := List.forall_mem_cons.mp hv
      rw [List.cons_append, behind?_blanks_cons hc.2.1] at hgap
      split at hgap
      · exact ih hgap hv'
      · obtain rfl := Option.some.inj hgap
        exact ⟨c :: v, w, rfl, hv, hw⟩

/-- So does a literal. -/
theorem isSwapped_of_behind? (h : IsSwapped t) (hbehind : Spelling.behind? t = some rest) :
    IsSwapped rest := by
  rcases Spelling.exists_of_behind? hbehind with
    ⟨u, v, content, rfl, hu, -⟩ | ⟨u, v, rfl, hu, hcloses⟩
  · rcases hu with rfl | rfl
    · exact absurd rfl (exists_of_isSwapped_cons h (by decide)).1.2.2.1
    · have hquote := (exists_of_isSwapped_cons h (by decide)).2
      exact absurd rfl (exists_of_isSwapped_cons hquote (by decide)).1.2.2.1
  · obtain ⟨x, w, heq, hx, -, hw⟩ := h
    rcases split_at_quote (not_mem_of_isHarmless hx) heq.symm with ⟨-, rfl⟩ | ⟨y, rfl, -⟩
    · exact hw.isSwapped hcloses
    · exact absurd rfl (hu '"' (by simp)).1

/-- **A scan does not change anything about it.** -/
theorem isSwapped_of_scan? (h : IsSwapped t) (hscan : scan? t = some (tokens, rest)) :
    IsSwapped rest := by
  have hslash : ∀ {u : Text}, ¬ IsSwapped ('/' :: u) :=
    fun h => (exists_of_isSwapped_cons h (by decide)).1.2.1 rfl
  rcases scan?_cases hscan with ⟨rfl, -⟩ | ⟨c, rfl, hc, -⟩ | hnote | ⟨token, hliteral, -⟩ |
    ⟨name, u, token, hword, htoken, -⟩
  · exact absurd (exists_of_isSwapped_cons h (by decide)).2 hslash
  · exact (exists_of_isSwapped_cons h hc).2
  · unfold note? at hnote
    split at hnote
    · exact absurd h hslash
    · exact absurd h hslash
    · contradiction
  · rcases literal?_cases hliteral with ⟨u, hbehind, rfl⟩ | hnumber
    · exact isSwapped_of_leaves (isSwapped_of_behind? h hbehind) leaves_behindSuffix
    · exact isSwapped_of_leaves h fun hstop hsuffix =>
        Number.leaves_of_behind? hstop hsuffix hnumber
  · have hu := isSwapped_of_leaves h fun hstop hsuffix => leaves_of_word? hstop hsuffix hword
    rcases ofWord?_cases htoken with ⟨rfl, -⟩ | ⟨v, raw, rfl, -⟩
    · exact hu
    · exact absurd rfl (exists_of_isSwapped_cons hu (by decide)).1.2.2.2

/-- **Code that is read from inside a string on cannot be cut into tokens.** -/
theorem collect?_of_isSwapped {bound : Nat} (h : IsSwapped t) : collect? bound found t = none := by
  induction bound generalizing found t with
  | zero => rfl
  | succ bound ih =>
      rw [collect?]
      split
      · rfl
      · next hgap =>
        obtain ⟨v, w, hnil, -⟩ := isSwapped_of_gap h hgap
        simp at hnil
      · next u hgap =>
        split
        · rfl
        · next hscan => exact ih (isSwapped_of_scan? (isSwapped_of_gap h hgap) hscan)

end Token

end TypedStyle.Code
