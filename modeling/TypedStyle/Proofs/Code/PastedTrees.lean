import TypedStyle.Proofs.Code.Keeping
import TypedStyle.Proofs.Code.Pasting
/-!
# Trees of pasted text

A text that opens no group has trees of its own wherever it is pasted outside of all groups, or
what it is pasted into is no code.  So it is known how the text starts if it is known how its trees
start, and the angle bracket that closes those which are open stands in the text itself.

* `ofText?_front` — the trees of a text that opens nothing, whatever stands behind it;
* `of_first_mark`, `of_first_word` — how the text starts;
* `exists_behindAngle?_congr` — a bracket that is closed in front of one text is closed in front of
  another;
* `LeadsTo` — what stands behind pasted text is read by itself.
-/

namespace TypedStyle.Code

open Token

variable {t u v front rest name : Text} {c d mark : Char} {joined : Bool} {trees others : Trees}
  {tokens : List Token}

/-! ## Tokens and trees -/

namespace Tree

/-- A token that opens no group is a tree by itself, where the tokens make trees. -/
theorem exists_of_token {token : Token} (hopening : ∀ bracket, token ≠ .opening bracket)
    (h : ofTokens? (token :: tokens) = some trees) :
    ∃ tree others, tree.tokens = [token] ∧ ofTokens? tokens = some others ∧
      trees = tree :: others := by
  have hfirst : ∀ tree : Tree, tree.tokens = [token] → ∃ tree others, tree.tokens = [token] ∧
      ofTokens? tokens = some others ∧ trees = tree :: others := by
    intro tree htree
    have happend := ofTokens?_append [tree] tokens
    rw [tokensOfAll, tokensOfAll, htree] at happend
    obtain ⟨others, hothers, rfl⟩ := Option.map_eq_some_iff.mp (happend.symm.trans h)
    exact ⟨tree, others, htree, hothers, rfl⟩
  cases token with
  | word name => exact hfirst (.word name) rfl
  | literal kind => exact hfirst (.literal kind) rfl
  | mark c joined => exact hfirst (.mark c joined) rfl
  | opening bracket => exact absurd rfl (hopening bracket)
  | closing c => contradiction

/-- So several such tokens are trees by themselves. -/
theorem exists_of_tokens {more : List Token} (hopening : ∀ bracket, .opening bracket ∉ tokens)
    (h : ofTokens? (tokens ++ more) = some trees) : ∃ front, tokens = tokensOfAll front := by
  induction tokens generalizing trees with
  | nil => exact ⟨[], rfl⟩
  | cons token tokens ih =>
      obtain ⟨tree, others, htree, hothers, -⟩ := exists_of_token
        (fun bracket heq => hopening bracket (heq ▸ List.mem_cons_self)) h
      obtain ⟨front, rfl⟩ :=
        ih (fun bracket hmem => hopening bracket (List.mem_cons_of_mem _ hmem)) hothers
      exact ⟨tree :: front, by simp [tokensOfAll, htree]⟩

/-- Only what stands behind the first gap matters for the trees of a text. -/
theorem ofText?_of_gap (h : Gap.behind? .blanks t = Gap.behind? .blanks u) :
    ofText? t = ofText? u := by
  rw [ofText?, ofText?, Token.ofText?_of_gap h]

/-- Blanks have no trees. -/
theorem ofText?_blanks (hfront : ∀ d ∈ front, Text.isCodeBlank d = true) (t : Text) :
    ofText? (front ++ t) = ofText? t :=
  ofText?_of_gap (behind?_blanks hfront)

/-- A blank in front of a text makes no difference to its trees. -/
theorem ofText?_cons_blank (hblank : Text.isCodeBlank d = true) (t : Text) :
    ofText? (d :: t) = ofText? t := by
  have hblanks : ofText? ([d] ++ t) = ofText? t :=
    ofText?_blanks (List.forall_mem_singleton.mpr hblank) t
  exact hblanks

/-- A piece of known trees, in front of any text. -/
theorem ofText?_of_cuts {front : Trees} (h : Cuts t (tokensOfAll front)) (rest : Text) :
    ofText? (t ++ rest) = (ofText? rest).map (front ++ ·) := by
  rw [ofText?, ofText?, h rest, Option.bind_map, Option.map_bind]
  exact congrArg _ (funext fun tokens => ofTokens?_append front tokens)

/-- So do trees that a text spells. -/
theorem ofText?_append_of_spells {front behind : Trees} (h : Spells t front)
    (hrest : ofText? rest = some behind) : ofText? (t ++ rest) = some (front ++ behind) := by
  obtain ⟨tokens, htokens, htrees⟩ := Option.bind_eq_some_iff.mp hrest
  rw [ofText?, (h _ _ (lexes_of_ofText? htokens)).ofText?, Option.bind_some, ofTokens?_append,
    htrees]
  rfl

/-- The trees of a scan stand in front of those of the rest. -/
theorem ofText?_of_scan (front : Trees) (hgap : Gap.behind? .blanks t = some (c :: u))
    (hscan : scan? (c :: u) = some (tokensOfAll front, rest)) :
    ofText? t = (ofText? rest).map (front ++ ·) := by
  rw [ofText?, ofText?, Token.ofText?_of_scan hgap hscan, Option.bind_map, Option.map_bind]
  exact congrArg _ (funext fun tokens => ofTokens?_append front tokens)

/-- These marks are scanned wherever they stand. -/
theorem ofText?_mark (hmark : mark ∈ Text.ofString ":<>") (t : Text) :
    ofText? (mark :: t) = (ofText? t).map (.mark mark (startsWithMark t) :: ·) := by
  have hcases : mark = ':' ∨ mark = '<' ∨ mark = '>' := by simpa [Text.ofString] using hmark
  rcases hcases with rfl | rfl | rfl <;>
    exact ofText?_of_scan [.mark _ (startsWithMark t)] rfl rfl

/-! ## Pasted text -/

/-- **The trees of a text that opens nothing** stand in front of those of whatever follows. -/
theorem ofText?_front (ht : OpensNothing t) (hc : c ∈ seams) :
    ∃ front : Option Trees, ∀ v, v.head? ≠ some '\'' →
      ofText? (t ++ c :: v) = front.bind fun front => (ofText? (c :: v)).map (front ++ ·) := by
  obtain ⟨tokens, htokens, hflat⟩ := Token.exists_ofText?_append ht hc
  cases tokens with
  | none =>
      refine ⟨none, fun v hv => ?_⟩
      rw [ofText?, htokens v hv]
      rfl
  | some tokens =>
      by_cases hfront : ∃ front, tokens = tokensOfAll front
      · obtain ⟨front, rfl⟩ := hfront
        refine ⟨some front, fun v hv => ?_⟩
        rw [ofText?, htokens v hv, Option.bind_some, Option.bind_map, Option.bind_some, ofText?,
          Option.map_bind]
        exact congrArg _ (funext fun more => ofTokens?_append front more)
      · refine ⟨none, fun v hv => Option.eq_none_iff_forall_ne_some.mpr fun trees h => hfront ?_⟩
        rw [ofText?, htokens v hv, Option.bind_some, Option.bind_map] at h
        obtain ⟨more, -, hmore⟩ := Option.bind_eq_some_iff.mp h
        exact exists_of_tokens (hflat tokens rfl) hmore

/-- Where such a text does not start with a blank, its first tree is what a scan finds. -/
theorem exists_of_cons (ht : OpensNothing (d :: t)) (hc : c ∈ seams) (hv : v.head? ≠ some '\'')
    (hblank : Text.isCodeBlank d = false) (h : ofText? (d :: (t ++ c :: v)) = some trees) :
    ∃ token tree rest others, Finds d t token rest ∧ tree.tokens = [token] ∧
      ofText? (rest ++ c :: v) = some others ∧ trees = tree :: others := by
  obtain ⟨found, hscan, hfinds⟩ := exists_scan?_append ht hc
  have hgap : Gap.behind? .blanks (d :: (t ++ c :: v)) = some (d :: (t ++ c :: v)) := by
    rw [behind?_blanks_cons ht.head.1, if_neg (by simp [hblank])]
  cases found with
  | none =>
      rw [ofText?, ofText?_of_stuck hgap (hscan v hv)] at h
      contradiction
  | some found =>
      obtain ⟨token, rest⟩ := found
      have hfound := hfinds token rest rfl
      rw [ofText?, Token.ofText?_of_scan hgap (hscan v hv), Option.bind_map] at h
      obtain ⟨more, hmore, hall⟩ := Option.bind_eq_some_iff.mp h
      obtain ⟨tree, others, htree, hothers, rfl⟩ := exists_of_token hfound.ne_opening hall
      exact ⟨token, tree, rest, others, hfound, htree, by rw [ofText?, hmore]; exact hothers, rfl⟩

/-- **A mark in front**: the text starts with it, or it is all blank. -/
theorem of_first_mark (ht : OpensNothing t) (hc : c ∈ seams) (hv : v.head? ≠ some '\'')
    (h : ofText? (t ++ c :: v) = some (.mark mark joined :: others)) :
    (∀ d ∈ t, Text.isCodeBlank d = true) ∨ ∃ front rest, t = front ++ mark :: rest ∧
      (∀ d ∈ front, Text.isCodeBlank d = true) ∧ ofText? (rest ++ c :: v) = some others := by
  induction t with
  | nil => exact .inl (by simp)
  | cons d t ih =>
      by_cases hblank : Text.isCodeBlank d = true
      · rw [List.cons_append, ofText?_cons_blank hblank] at h
        rcases ih (ht.of_suffix (List.suffix_cons d t)) h with
          hall | ⟨front, rest, rfl, hfront, hrest⟩
        · exact .inl (List.forall_mem_cons.mpr ⟨hblank, hall⟩)
        · exact .inr ⟨d :: front, rest, rfl, List.forall_mem_cons.mpr ⟨hblank, hfront⟩, hrest⟩
      · obtain ⟨token, tree, rest, _, hfinds, htree, hrest, heq⟩ :=
          exists_of_cons ht hc hv (Bool.eq_false_iff.mpr hblank) h
        obtain ⟨rfl, rfl⟩ := List.cons.inj heq
        obtain rfl := List.singleton_inj.mp htree
        obtain ⟨rfl, rfl⟩ := hfinds.of_mark
        exact .inr ⟨[], rest, rfl, by simp, hrest⟩

/-- **A word in front**: the text starts with it. -/
theorem of_first_word (ht : OpensNothing (d :: t)) (hc : c ∈ seams) (hv : v.head? ≠ some '\'')
    (hblank : Text.isCodeBlank d = false) (hraw : d ≠ 'r')
    (h : ofText? (d :: (t ++ c :: v)) = some (.word name :: others)) :
    ∃ rest, word? (d :: t) = some (name, rest) ∧ ofText? (rest ++ c :: v) = some others := by
  obtain ⟨token, tree, rest, _, hfinds, htree, hrest, heq⟩ := exists_of_cons ht hc hv hblank h
  obtain ⟨rfl, rfl⟩ := List.cons.inj heq
  obtain rfl := List.singleton_inj.mp htree
  exact ⟨rest, hfinds.of_word hraw, hrest⟩

end Tree

/-! ## Angle brackets -/

namespace Trees

/-- What is open is closed by the first tree or behind it. -/
theorem behindAngle?_cases {tree : Tree} {opened : Nat} {rest : Trees}
    (hdash : tree ≠ .mark '-' true) (h : behindAngle? opened (tree :: trees) = some rest) :
    (∃ joined, tree = .mark '>' joined ∧ rest = trees) ∨
      ∃ still, behindAngle? still trees = some rest := by
  unfold behindAngle? at h
  split at h
  · contradiction
  · next heq => exact absurd (List.cons.inj heq).1 hdash
  · contradiction
  · next heq => exact .inr ⟨_, (List.cons.inj heq).2 ▸ h⟩
  · next joined _ heq =>
    obtain ⟨rfl, rfl⟩ := List.cons.inj heq
    exact .inl ⟨joined, rfl, (Option.some.inj h).symm⟩
  · next heq => exact .inr ⟨_, (List.cons.inj heq).2 ▸ h⟩
  · next heq => exact .inr ⟨_, (List.cons.inj heq).2 ▸ h⟩

/-- **The bracket that closes** is the same whatever stands behind it. -/
theorem exists_of_behindAngle? {opened : Nat} {rest : Trees}
    (h : behindAngle? opened trees = some rest) :
    ∃ front joined, trees = front ++ .mark '>' joined :: rest ∧
      ∀ joined other, behindAngle? opened (front ++ .mark '>' joined :: other) = some other := by
  fun_induction behindAngle? opened trees with
  | case1 => contradiction
  | case2 opened spaced trees ih =>
      obtain ⟨front, last, rfl, hfront⟩ := ih h
      exact ⟨.mark '-' true :: .mark '>' spaced :: front, last, rfl, hfront⟩
  | case3 => contradiction
  | case4 opened joined trees ih =>
      obtain ⟨front, last, rfl, hfront⟩ := ih h
      exact ⟨.mark '<' joined :: front, last, rfl, hfront⟩
  | case5 joined trees =>
      obtain rfl := Option.some.inj h
      exact ⟨[], joined, rfl, fun _ _ => rfl⟩
  | case6 opened joined trees ih =>
      obtain ⟨front, last, rfl, hfront⟩ := ih h
      exact ⟨.mark '>' joined :: front, last, rfl, hfront⟩
  | case7 opened tree trees harrow hsemicolon hopening hclosing hcloses ih =>
      obtain ⟨front, last, rfl, hfront⟩ := ih h
      refine ⟨tree :: front, last, rfl, fun joined other => ?_⟩
      rw [List.cons_append, behindAngle?]
      · exact hfront joined other
      -- The first tree of an arrow has the second one behind it in both.
      · intro spaced others hdash heq
        cases front with
        | nil => exact harrow last _ hdash rfl
        | cons next front => exact harrow spaced _ hdash (by rw [← (List.cons.inj heq).1]; rfl)
      · exact hsemicolon
      · exact hopening
      · exact hclosing
      · exact hcloses

end Trees

namespace Tree

/-- **What is closed is closed in the text**, if it is not closed behind it and no arrow stands in
it. -/
theorem exists_of_behindAngle? {opened : Nat} {rest : Trees} (ht : OpensNothing t) (hdash : '-' ∉ t)
    (hc : c ∈ seams) (hv : v.head? ≠ some '\'')
    (hend : ∀ last opened, ofText? (c :: v) = some last → Trees.behindAngle? opened last = none)
    (h : ofText? (t ++ c :: v) = some trees)
    (hangle : Trees.behindAngle? opened trees = some rest) :
    ∃ front back, t = front ++ '>' :: back ∧ ofText? (back ++ c :: v) = some rest := by
  generalize hlength : t.length = n
  induction n using Nat.strongRecOn generalizing t trees opened with
  | ind n ih =>
      subst hlength
      cases t with
      | nil => exact absurd (hangle.symm.trans (hend trees opened h)) (by simp)
      | cons d t =>
          by_cases hblank : Text.isCodeBlank d = true
          · rw [List.cons_append, ofText?_cons_blank hblank] at h
            obtain ⟨front, back, rfl, hback⟩ := ih _ (Nat.lt_succ_self _)
              (ht.of_suffix (List.suffix_cons d t))
              (fun hmem => hdash (List.mem_cons_of_mem _ hmem)) h hangle rfl
            exact ⟨d :: front, back, rfl, hback⟩
          · obtain ⟨token, tree, rest, others, hfinds, htree, hrest, rfl⟩ :=
              exists_of_cons ht hc hv (Bool.eq_false_iff.mpr hblank) h
            have hmark : ∀ mark joined, tree = .mark mark joined → d = mark ∧ rest = t := by
              rintro mark joined rfl
              obtain rfl := List.singleton_inj.mp htree
              exact hfinds.of_mark
            have hother : tree ≠ .mark '-' true := fun heq =>
              hdash ((hmark _ _ heq).1 ▸ List.mem_cons_self)
            rcases Trees.behindAngle?_cases hother hangle with ⟨joined, rfl, rfl⟩ | ⟨still, hstill⟩
            · obtain ⟨rfl, rfl⟩ := hmark '>' joined rfl
              exact ⟨[], rest, rfl, hrest⟩
            · have hsuffix := hfinds.isRest.suffix
              obtain ⟨front, back, rfl, hback⟩ := ih _ hfinds.isRest.length_lt
                (ht.of_suffix hsuffix) (fun hmem => hdash (hsuffix.subset hmem)) hrest hstill rfl
              obtain ⟨first, hfirst⟩ := hsuffix
              exact ⟨first ++ front, back, by rw [← hfirst, List.append_assoc], hback⟩

/-- **A bracket that is closed in the text** is closed there in front of any other text too. -/
theorem exists_behindAngle?_congr {opened : Nat} {w : Text} {rest other : Trees}
    (ht : OpensNothing t) (hdash : '-' ∉ t) (hc : c ∈ seams) (hv : v.head? ≠ some '\'')
    (hw : w.head? ≠ some '\'')
    (hend : ∀ last opened, ofText? (c :: v) = some last → Trees.behindAngle? opened last = none)
    (h : ofText? (t ++ c :: v) = some trees)
    (hangle : Trees.behindAngle? opened trees = some (.mark mark joined :: rest))
    (hmark : mark ≠ '\'') (hother : ofText? (t ++ w) = some other) :
    ∃ back last, back <:+ t ∧ ofText? (back ++ c :: v) = some (.mark mark joined :: rest) ∧
      ofText? (back ++ w) = some last ∧ Trees.behindAngle? opened other = some last := by
  obtain ⟨front, back, rfl, hback⟩ := exists_of_behindAngle? ht hdash hc hv hend h hangle
  have hsuffix : '>' :: back <:+ front ++ '>' :: back := List.suffix_append _ _
  have hopens := ht.of_suffix ((List.suffix_cons _ _).trans hsuffix)
  have hquote : back.head? ≠ some '\'' := by
    intro heq
    obtain ⟨behind, rfl⟩ := List.head?_eq_some_iff.mp heq
    obtain ⟨token, tree, _, _, hfinds, htree, -, htrees⟩ := exists_of_cons hopens hc hv rfl hback
    obtain ⟨rfl, -⟩ := List.cons.inj htrees
    obtain rfl := List.singleton_inj.mp htree
    exact hmark hfinds.of_mark.1.symm
  have hhead : ∀ u : Text, u.head? ≠ some '\'' → (back ++ u).head? ≠ some '\'' := by
    intro u hu
    cases back with
    | nil => exact hu
    | cons d back => exact hquote
  have hseam : c ≠ '\'' := by
    rintro rfl
    revert hc
    decide
  obtain ⟨found, hfound⟩ := ofText?_front (c := '>') (ht.of_prefix (List.prefix_append front _))
    (by decide)
  rw [List.append_assoc, List.cons_append, hfound _ (hhead _ (by simpa using hseam)),
    ofText?_mark (by decide), hback] at h
  rw [List.append_assoc, List.cons_append, hfound _ (hhead w hw),
    ofText?_mark (by decide)] at hother
  obtain ⟨between, rfl, heq⟩ := Option.bind_eq_some_iff.mp h
  obtain rfl := Option.some.inj heq
  obtain ⟨_, hclosing, rfl⟩ := Option.map_eq_some_iff.mp hother
  obtain ⟨last, hlast, rfl⟩ := Option.map_eq_some_iff.mp hclosing
  obtain ⟨first, _, hfirst, hclosed⟩ := Trees.exists_of_behindAngle? hangle
  obtain ⟨rfl, -⟩ := List.append_inj' hfirst rfl
  exact ⟨back, last, (List.suffix_cons _ _).trans hsuffix, hback, hlast, hclosed _ _⟩

end Tree

/-! ## What stands at the end -/

/-- Where the text has trees, the trees of the rest stand at their end. -/
def LeadsTo (t rest : Text) : Prop :=
  ∀ trees, Tree.ofText? t = some trees →
    ∃ behind, Tree.ofText? rest = some behind ∧ behind <:+ trees

/-- The text starts with a character that may follow a name where it is pasted, and no quote stands
behind it. -/
def IsSeam (t : Text) : Prop :=
  ∃ c v, t = c :: v ∧ c ∈ seams ∧ v.head? ≠ some '\''

/-- A character that may follow a name does so where no quote stands behind it. -/
theorem isSeam_cons (hc : c ∈ seams) (hd : d ≠ '\'') (t : Text) : IsSeam (c :: d :: t) :=
  ⟨c, d :: t, rfl, hc, by simpa using hd⟩

namespace LeadsTo

theorem refl (t : Text) : LeadsTo t t :=
  fun trees h => ⟨trees, h, List.suffix_rfl⟩

/-- A text leads as far as what it leads to does. -/
theorem trans (h : LeadsTo t u) (hu : LeadsTo u v) : LeadsTo t v := by
  intro trees htrees
  obtain ⟨mid, hmid, hsuffix⟩ := h trees htrees
  obtain ⟨behind, hbehind, hlast⟩ := hu mid hmid
  exact ⟨behind, hbehind, hlast.trans hsuffix⟩

/-- A piece of known trees leads to what stands behind it. -/
theorem of_cuts {front : Trees} (h : Cuts t (Tree.tokensOfAll front)) (rest : Text) :
    LeadsTo (t ++ rest) rest := by
  intro trees htrees
  rw [Tree.ofText?_of_cuts h] at htrees
  obtain ⟨behind, hbehind, rfl⟩ := Option.map_eq_some_iff.mp htrees
  exact ⟨behind, hbehind, List.suffix_append _ _⟩

/-- **Pasted text leads to what stands behind it.** -/
theorem of_pasted (ht : OpensNothing t) (hu : IsSeam u) : LeadsTo (t ++ u) u := by
  obtain ⟨c, v, rfl, hc, hv⟩ := hu
  intro trees htrees
  obtain ⟨found, hfound⟩ := Tree.ofText?_front ht hc
  rw [hfound v hv] at htrees
  obtain ⟨front, rfl, hall⟩ := Option.bind_eq_some_iff.mp htrees
  obtain ⟨behind, hbehind, rfl⟩ := Option.map_eq_some_iff.mp hall
  exact ⟨behind, hbehind, List.suffix_append _ _⟩

/-- So does pasted text with a piece of known trees behind it. -/
theorem of_pasted_cuts {front : Trees} (ht : OpensNothing t) (h : Cuts u (Tree.tokensOfAll front))
    (hu : ∀ rest, IsSeam (u ++ rest)) (rest : Text) : LeadsTo (t ++ (u ++ rest)) rest :=
  (of_pasted ht (hu rest)).trans (of_cuts h rest)

/-- One block after the other leads to each of them. -/
theorem of_flatMap {α : Type} {items : List α} {text : α → Text} {item : α}
    (h : ∀ item ∈ items, ∀ rest, LeadsTo (text item ++ rest) rest) (hitem : item ∈ items)
    (rest : Text) : ∃ behind, LeadsTo (items.flatMap text ++ rest) (text item ++ behind) := by
  induction items with
  | nil => contradiction
  | cons first items ih =>
      obtain ⟨hfirst, hitems⟩ := List.forall_mem_cons.mp h
      rw [List.flatMap_cons, List.append_assoc]
      rcases List.mem_cons.mp hitem with rfl | hmem
      · exact ⟨_, refl _⟩
      · obtain ⟨behind, hbehind⟩ := ih hitems hmem
        exact ⟨behind, (hfirst _).trans hbehind⟩

/-- So do texts in a row, each of which leads to what stands behind it. -/
theorem flatMap {α : Type} {items : List α} {text : α → Text}
    (h : ∀ item ∈ items, ∀ rest, LeadsTo (text item ++ rest) rest) (rest : Text) :
    LeadsTo (items.flatMap text ++ rest) rest := by
  induction items with
  | nil => exact refl rest
  | cons first items ih =>
      obtain ⟨hfirst, hitems⟩ := List.forall_mem_cons.mp h
      rw [List.flatMap_cons, List.append_assoc]
      exact (hfirst _).trans (ih hitems)

end LeadsTo

end TypedStyle.Code
