import TypedStyle.Proofs.Code.Scanning
import TypedStyle.Proofs.Code.Trees
/-!
# Code behind unknown text

A back quote is part of no token, so where it stands in code it is in a comment, a note or a string.
If the code on the lines behind it neither closes a comment nor lets a string end well, the comment
or the note ends with its line.  Then that code is cut into its own tokens and read as its own
trees, whatever stands in front.

* `IsSealed` — code that neither closes a comment nor lets a string end well;
* `suffix_of_ofText?` — the trees of such code are the last ones.
-/

namespace TypedStyle.Code

variable {code t rest : Text}

/-- Code behind the end of a line that ends with a back quote and a point. -/
def behindQuote (code : Text) : Text :=
  '\x60' :: '.' :: '\n' :: code

/-- Nothing that is open in front of the code is closed in it. -/
structure IsSealed (code : Text) : Prop where
  leavesOpen : LeavesOpen code
  unclosed : ¬ ['*', '/'] <:+: code

/-- Neither a word nor a number goes on at the back quote. -/
theorem isStop_behindQuote : IsStop (behindQuote code) :=
  ⟨'\x60', rfl, by decide⟩

/-- Another character than the back quote stands in front of it. -/
theorem suffix_of_behindQuote {c : Char} (h : behindQuote code <:+ c :: t) (hc : c ≠ '\x60') :
    behindQuote code <:+ t := by
  rcases List.suffix_cons_iff.mp h with heq | ht
  · exact absurd (List.cons.inj heq).1.symm hc
  · exact ht

/-- Nor does the back quote stand at either of two other characters. -/
theorem suffix_of_behindQuote_two {c d : Char} (h : behindQuote code <:+ c :: d :: t)
    (hne : c ≠ '\x60' ∧ d ≠ '\x60') : behindQuote code <:+ t :=
  suffix_of_behindQuote (suffix_of_behindQuote h hne.1) hne.2

/-- The rest of the line closes no comment either. -/
theorem IsSealed.unclosed_line (h : IsSealed code) : ¬ ['*', '/'] <:+: '.' :: '\n' :: code := by
  intro hpart
  rcases List.infix_cons_iff.mp hpart with hprefix | hpart
  · simp at hprefix
  rcases List.infix_cons_iff.mp hpart with hprefix | hpart
  · simp at hprefix
  · exact h.unclosed hpart

/-- Nor does the rest of the line change which quotes belong together. -/
theorem IsSealed.leavesOpen_line (h : IsSealed code) : LeavesOpen ('.' :: '\n' :: code) :=
  h.leavesOpen.append (u := ['.', '\n']) (by decide)

/-- A text without a back quote stands in front of it as a whole. -/
theorem suffix_of_behindQuote_append {u : Text} (h : behindQuote code <:+ u ++ t)
    (hu : '\x60' ∉ u) : behindQuote code <:+ t := by
  induction u with
  | nil => exact h
  | cons c u ih =>
      obtain ⟨hc, hu⟩ : '\x60' ≠ c ∧ '\x60' ∉ u := by simpa using hu
      exact ih (suffix_of_behindQuote h hc.symm) hu

/-- A character stands in front of the back quote, or it is the back quote. -/
theorem suffix_or_of_behindQuote {c : Char} (h : behindQuote code <:+ c :: t) :
    (c = '\x60' ∧ t = '.' :: '\n' :: code) ∨ behindQuote code <:+ t :=
  (List.suffix_cons_iff.mp h).imp_left fun heq =>
    ⟨(List.cons.inj heq).1.symm, (List.cons.inj heq).2.symm⟩

/-! ## Gaps and notes -/

/-- Where no comment is closed in a text, none is closed behind its first character. -/
theorem unclosed_of_cons {c : Char} (h : ¬ ['*', '/'] <:+: c :: t) : ¬ ['*', '/'] <:+: t :=
  fun ht => h (ht.trans (List.suffix_cons c t).isInfix)

/-- A comment that is not closed goes on to the end of the text. -/
theorem behind?_block_eq_none {outer : Nat} (h : ¬ ['*', '/'] <:+: t) :
    Gap.behind? (.block outer) t = none := by
  generalize hgap : Gap.block outer = gap
  fun_induction Gap.behind? gap t generalizing outer with
  | case1 | case2 | case3 | case4 | case5 | case6 | case7 | case12 | case13 => contradiction
  | case8 outer t ih => exact ih (unclosed_of_cons (unclosed_of_cons h)) rfl
  | case9 t => exact absurd (List.prefix_append ['*', '/'] t).isInfix h
  | case10 outer t => exact absurd (List.prefix_append ['*', '/'] t).isInfix h
  | case11 outer c t _ _ _ ih => exact ih (unclosed_of_cons h) rfl
  | case14 => rfl

/-- Neither does a note over several lines end without its mark. -/
theorem behindBlockNote?_eq_none {outer : Nat} (h : ¬ ['*', '/'] <:+: t) :
    Token.behindBlockNote? outer t = none := by
  fun_induction Token.behindBlockNote? outer t with
  | case1 outer t ih => exact ih (unclosed_of_cons (unclosed_of_cons h))
  | case2 t => exact absurd (List.prefix_append ['*', '/'] t).isInfix h
  | case3 outer t => exact absurd (List.prefix_append ['*', '/'] t).isInfix h
  | case4 outer t ih => exact ih (unclosed_of_cons (unclosed_of_cons h))
  | case5 => rfl
  | case6 outer c t _ _ _ _ _ ih => exact ih (unclosed_of_cons h)
  | case7 => rfl

/-- A gap ends in front of the back quote, or it goes on behind its line. -/
theorem suffix_or_of_gap (hcode : IsSealed code) {gap : Gap} (h : behindQuote code <:+ t)
    (hgap : gap.behind? t = some rest) :
    behindQuote code <:+ rest ∨ Gap.behind? .blanks code = some rest := by
  fun_induction Gap.behind? gap t with
  | case1 | case3 | case6 =>
      obtain rfl := Option.some.inj hgap
      exact .inl h
  | case2 t _ ih => exact ih (suffix_of_behindQuote_two h (by decide)) hgap
  | case4 t _ ih => exact ih (suffix_of_behindQuote_two h (by decide)) hgap
  | case5 c t _ _ hblank ih =>
      refine ih (suffix_of_behindQuote h ?_) hgap
      rintro rfl
      contradiction
  | case7 c t ih =>
      rcases suffix_or_of_behindQuote h with ⟨rfl, rfl⟩ | ht
      · exact .inr hgap
      · exact ih ht hgap
  | case8 outer t ih => exact ih (suffix_of_behindQuote_two h (by decide)) hgap
  | case9 t ih => exact ih (suffix_of_behindQuote_two h (by decide)) hgap
  | case10 outer t ih => exact ih (suffix_of_behindQuote_two h (by decide)) hgap
  | case11 outer c t _ _ _ ih =>
      rcases suffix_or_of_behindQuote h with ⟨rfl, rfl⟩ | ht
      · rw [behind?_block_eq_none hcode.unclosed_line] at hgap
        contradiction
      · exact ih ht hgap
  | case12 | case13 => exact absurd (List.suffix_nil.mp h) (by simp [behindQuote])
  | case14 => contradiction

/-- A note to the end of its line ends in front of the back quote, or with that line. -/
theorem suffix_or_of_behindLineNote? (h : behindQuote code <:+ t)
    (hnote : Token.behindLineNote? t = some rest) :
    behindQuote code <:+ rest ∨ rest = '\n' :: code := by
  fun_induction Token.behindLineNote? t with
  | case1 t =>
      obtain rfl := Option.some.inj hnote
      exact .inl (suffix_of_behindQuote h (by decide))
  | case2 t =>
      obtain rfl := Option.some.inj hnote
      exact .inl h
  | case3 => contradiction
  | case4 c t _ _ _ ih =>
      rcases suffix_or_of_behindQuote h with ⟨rfl, rfl⟩ | ht
      · exact .inr (Option.some.inj hnote).symm
      · exact ih ht hnote
  | case5 => exact absurd (List.suffix_nil.mp h) (by simp [behindQuote])

/-- A note between marks ends in front of the back quote. -/
theorem suffix_of_behindBlockNote? (hcode : IsSealed code) {outer : Nat}
    (h : behindQuote code <:+ t) (hnote : Token.behindBlockNote? outer t = some rest) :
    behindQuote code <:+ rest := by
  fun_induction Token.behindBlockNote? outer t with
  | case1 outer t ih => exact ih (suffix_of_behindQuote_two h (by decide)) hnote
  | case2 t =>
      obtain rfl := Option.some.inj hnote
      exact suffix_of_behindQuote_two h (by decide)
  | case3 outer t ih => exact ih (suffix_of_behindQuote_two h (by decide)) hnote
  | case4 outer t ih => exact ih (suffix_of_behindQuote_two h (by decide)) hnote
  | case5 => contradiction
  | case6 outer c t _ _ _ _ _ ih =>
      rcases suffix_or_of_behindQuote h with ⟨rfl, rfl⟩ | ht
      · rw [behindBlockNote?_eq_none hcode.unclosed_line] at hnote
        contradiction
      · exact ih ht hnote
  | case7 => contradiction

namespace Token

variable {token : Token} {tokens found more : List Token}

/-- A note ends in front of the back quote, or it goes on to the end of its line. -/
theorem suffix_or_of_note? (hcode : IsSealed code) (h : behindQuote code <:+ t)
    (hnote : note? t = some (tokens, rest)) :
    behindQuote code <:+ rest ∨ rest = '\n' :: code := by
  unfold note? at hnote
  split at hnote
  · have ht := suffix_of_behindQuote_two h (by decide)
    split at hnote
    · obtain ⟨u, hu, heq⟩ := Option.map_eq_some_iff.mp hnote
      obtain ⟨-, rfl⟩ := Prod.mk.inj heq
      exact suffix_or_of_behindLineNote? ht hu
    · contradiction
  · have ht := suffix_of_behindQuote_two h (by decide)
    split at hnote
    · obtain ⟨u, hu, heq⟩ := Option.map_eq_some_iff.mp hnote
      obtain ⟨-, rfl⟩ := Prod.mk.inj heq
      exact .inl (suffix_of_behindBlockNote? hcode ht hu)
    · contradiction
  · contradiction

/-! ## Literals -/

/-- A character is closed in front of the back quote. -/
theorem suffix_of_behindCharacter? {content : Content} (h : behindQuote code <:+ t)
    (hbehind : Spelling.behindCharacter? content t = some rest) : behindQuote code <:+ rest := by
  obtain ⟨u, rfl, hu⟩ := Spelling.exists_of_behindCharacter? hbehind
  suffices ht : behindQuote code <:+ '\'' :: rest from suffix_of_behindQuote ht (by decide)
  by_cases hback : '\x60' ∈ u
  · -- A back quote in quotes has no point behind it.
    obtain rfl := hu hback
    rcases suffix_or_of_behindQuote h with ⟨-, hpoint⟩ | ht
    · exact absurd (List.cons.inj hpoint).1 (by decide)
    · exact ht
  · exact suffix_of_behindQuote_append h hback

/-- A literal ends in front of the back quote, or it is a string that reaches too far. -/
theorem suffix_or_of_literal? (hcode : IsSealed code) (h : behindQuote code <:+ t)
    (hliteral : literal? t = some (token, rest)) : behindQuote code <:+ rest ∨ IsSwapped rest := by
  rcases literal?_cases hliteral with ⟨u, hbehind, rfl⟩ | hnumber
  · have hu : behindQuote code <:+ u ∨ IsSwapped u := by
      rcases Spelling.exists_of_behind? hbehind with ⟨v, w, content, rfl, hv, hcharacter⟩ |
        ⟨v, w, rfl, hv, hcloses⟩
      · have hw : '\x60' ∉ v ++ ['\''] := by rcases hv with rfl | rfl <;> decide
        refine .inl (suffix_of_behindCharacter? ?_ hcharacter)
        exact suffix_of_behindQuote_append (u := v ++ ['\'']) (by simpa using h) hw
      · have hw : '\x60' ∉ v ++ ['"'] := by
          simpa using fun hmem => (hv _ hmem).2 rfl
        obtain ⟨x, rfl⟩ := suffix_of_behindQuote_append (u := v ++ ['"']) (by simpa using h) hw
        exact hcode.leavesOpen_line.suffix_or_isSwapped hcloses
    rcases hu with hu | hu
    · exact .inl (leaves_behindSuffix isStop_behindQuote hu).suffix
    · exact .inr (isSwapped_of_leaves hu leaves_behindSuffix)
  · exact .inl (Number.leaves_of_behind? isStop_behindQuote h hnumber).suffix

/-! ## Tokens -/

/-- **A scan leaves the back quote in place**, or it passes over the rest of its line in a note, or
it goes on from inside a string. -/
theorem suffix_or_of_scan? (hcode : IsSealed code) (h : behindQuote code <:+ t)
    (hscan : scan? t = some (tokens, rest)) :
    behindQuote code <:+ rest ∨ rest = '\n' :: code ∨ IsSwapped rest := by
  rcases scan?_cases hscan with ⟨rfl, -⟩ | ⟨c, rfl, -, hc, -⟩ | hnote | ⟨token, hliteral, -⟩ |
    ⟨name, u, token, hword, htoken, -⟩
  · exact .inl (suffix_of_behindQuote_append h (by decide))
  · exact .inl (suffix_of_behindQuote h hc)
  · exact (suffix_or_of_note? hcode h hnote).imp_right .inl
  · exact (suffix_or_of_literal? hcode h hliteral).imp_right .inr
  · have hu := (leaves_of_word? isStop_behindQuote h hword).suffix
    rcases ofWord?_cases htoken with ⟨rfl, -⟩ | ⟨v, raw, rfl, hraw, -⟩
    · exact .inl hu
    · have hv := suffix_of_behindQuote hu (by decide)
      exact .inl (leaves_of_word? isStop_behindQuote hv hraw).suffix

/-- Code that is cut within a bound is cut in the same way within a larger one. -/
theorem collect?_mono {bound larger : Nat} (hle : bound ≤ larger)
    (h : collect? bound found t = some tokens) : collect? larger found t = some tokens := by
  induction bound generalizing found t larger with
  | zero => contradiction
  | succ bound ih =>
      obtain ⟨others, rfl⟩ : ∃ others, larger = others + 1 := ⟨larger - 1, by omega⟩
      unfold collect? at h ⊢
      split at h
      · contradiction
      · exact h
      · split at h
        · contradiction
        · exact ih (by omega) h

/-- Whatever the bound is, the tokens of code that is known come last. -/
theorem Lexes.suffix (h : Lexes t more) {bound : Nat}
    (hcollect : collect? bound found t = some tokens) : more <:+ tokens := by
  have hlarger : collect? (bound + t.length + 1) found t = some tokens :=
    collect?_mono (by omega) hcollect
  rw [h _ found (by omega)] at hlarger
  rw [← Option.some.inj hlarger]
  exact List.suffix_append found.reverse more

/-- **The tokens of sealed code are the last ones**, whatever stands in front of it. -/
theorem suffix_of_collect? (hcode : IsSealed code) (hlexes : Lexes code more) {bound : Nat}
    (h : behindQuote code <:+ t) (hcollect : collect? bound found t = some tokens) :
    more <:+ tokens := by
  induction bound generalizing found t with
  | zero => contradiction
  | succ bound ih =>
      rw [collect?] at hcollect
      cases hgap : Gap.behind? .blanks t with
      | none =>
          rw [hgap] at hcollect
          contradiction
      | some u =>
          rw [hgap] at hcollect
          rcases suffix_or_of_gap hcode h hgap with hu | hline
          · cases u with
            | nil => exact absurd (List.suffix_nil.mp hu) (by simp [behindQuote])
            | cons c u =>
                dsimp only at hcollect
                split at hcollect
                · contradiction
                · next hscan =>
                  rcases suffix_or_of_scan? hcode hu hscan with hrest | rfl | hswapped
                  · exact ih hrest hcollect
                  · have hline : Lexes (['\n'] ++ code) more :=
                      hlexes.blanks (Text.forall_mem_of_all (by decide))
                    exact hline.suffix hcollect
                  · rw [collect?_of_isSwapped hswapped] at hcollect
                    contradiction
          · have hcode : collect? (bound + 1) found code = some tokens := by
              rw [collect?, hline]
              exact hcollect
            exact hlexes.suffix hcode

end Token

/-- The last trees are those of the last tokens. -/
theorem Tree.suffix_of_ofTokens? {tokens : List Token} {trees found : List Tree}
    (h : Tree.ofTokens? (tokens ++ Tree.tokensOfAll trees) = some found) : trees <:+ found := by
  unfold Tree.ofTokens? at h
  rw [Tree.run_append] at h
  cases hrun : Tree.run tokens ([], []) with
  | none =>
      rw [hrun] at h
      contradiction
  | some state =>
      obtain ⟨others, frames⟩ := state
      rw [hrun, Option.bind_some, Tree.run_tokensOfAll] at h
      split at h
      · next heq =>
        obtain ⟨rfl, -⟩ := Prod.mk.inj (Option.some.inj heq)
        rw [← Option.some.inj h, List.reverse_append, List.reverse_reverse]
        exact List.suffix_append others.reverse trees
      · contradiction

/-- **The trees of sealed code are the last ones**, whatever stands in front of it. -/
theorem suffix_of_ofText? (hcode : IsSealed code) {trees found : List Tree}
    (hspells : Spells code trees) {front : Text}
    (h : Tree.ofText? (front ++ behindQuote code) = some found) : trees <:+ found := by
  obtain ⟨tokens, htokens, hfound⟩ := Option.bind_eq_some_iff.mp h
  have hlexes := hspells [] [] Token.lexes_nil
  rw [List.append_nil, List.append_nil] at hlexes
  obtain ⟨others, rfl⟩ := Token.suffix_of_collect? hcode hlexes (List.suffix_append front _) htokens
  exact Tree.suffix_of_ofTokens? hfound

end TypedStyle.Code
