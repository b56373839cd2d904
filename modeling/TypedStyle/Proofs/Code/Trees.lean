import TypedStyle.Proofs.Code.Lexing
/-!
# Trees and their tokens

A list of trees has one list of tokens, and that list builds the trees again.  So code is known as
trees as soon as it is known as the tokens of some trees.

* `run_tokensOfAll` — trees are what their tokens build;
* `ofTokens?_append` — trees in front leave those behind them as they are;
* `Spells.append` — pieces of code are put together;
* `Spells.ofText?` — code that spells trees is read as these trees.
-/

namespace TypedStyle.Code

namespace Tree

mutual

/-- The tokens of a tree. -/
def tokens : Tree → List Token
  | .word name => [.word name]
  | .literal kind => [.literal kind]
  | .mark c joined => [.mark c joined]
  | .group bracket content =>
    .opening bracket :: (tokensOfAll content ++ [.closing (closingOf bracket)])

/-- The tokens of some trees, in order. -/
def tokensOfAll : List Tree → List Token
  | [] => []
  | tree :: rest => tree.tokens ++ tokensOfAll rest

end

/-- The tokens of trees in a row are theirs in the same order. -/
theorem tokensOfAll_append (a b : List Tree) :
    tokensOfAll (a ++ b) = tokensOfAll a ++ tokensOfAll b := by
  induction a with
  | nil => rfl
  | cons tree a ih => simp [tokensOfAll, ih]

mutual

/-- The tokens of a tree build it. -/
theorem run_tokens (tree : Tree) (trees : List Tree) (frames : List Frame) :
    run tree.tokens (trees, frames) = some (tree :: trees, frames) := by
  cases tree with
  | word name => rfl
  | literal kind => rfl
  | mark c joined => rfl
  | group bracket content =>
      have hopening : run [.opening bracket] (trees, frames) =
          some ([], (bracket, trees) :: frames) := rfl
      have hcontent := run_tokensOfAll content [] ((bracket, trees) :: frames)
      show run ([.opening bracket] ++ (tokensOfAll content ++ [.closing (closingOf bracket)])) _ = _
      rw [run_append, hopening, Option.bind_some, run_append, hcontent]
      simp [run, step]

/-- **Trees are what their tokens build.** -/
theorem run_tokensOfAll (found trees : List Tree) (frames : List Frame) :
    run (tokensOfAll found) (trees, frames) = some (found.reverse ++ trees, frames) := by
  cases found with
  | nil => rfl
  | cons tree rest =>
      rw [tokensOfAll, run_append, run_tokens tree, Option.bind_some,
        run_tokensOfAll rest (tree :: trees) frames]
      simp

end

/-- The groups with some trees, of which the last stands first, in front of all that is in none. -/
def beneath (base : List Tree) : List Tree → List Frame → List Tree × List Frame
  | trees, [] => (trees ++ base, [])
  | trees, (bracket, outer) :: frames =>
    (trees, (bracket, (beneath base outer frames).1) :: (beneath base outer frames).2)

/-- A tree more stands in front of what is beneath the groups. -/
theorem beneath_cons (base : List Tree) (tree : Tree) (trees : List Tree) (frames : List Frame) :
    beneath base (tree :: trees) frames =
      (tree :: (beneath base trees frames).1, (beneath base trees frames).2) := by
  cases frames <;> rfl

/-- What stands in front of all groups makes no difference to a step. -/
theorem step_beneath (base trees : List Tree) (frames : List Frame) (token : Token) :
    step (beneath base trees frames) token =
      (step (trees, frames) token).map fun state => beneath base state.1 state.2 := by
  cases token with
  | word name => exact congrArg some (beneath_cons base (.word name) trees frames).symm
  | literal kind => exact congrArg some (beneath_cons base (.literal kind) trees frames).symm
  | mark c joined => exact congrArg some (beneath_cons base (.mark c joined) trees frames).symm
  | opening bracket => rfl
  | closing c =>
      cases frames with
      | nil => rfl
      | cons frame frames =>
          obtain ⟨bracket, outer⟩ := frame
          simp only [beneath, step]
          split
          · exact congrArg some (beneath_cons base (.group bracket trees.reverse) outer frames).symm
          · rfl

/-- **What stands beneath open groups stays there** while the groups are filled and closed. -/
theorem run_beneath (base : List Tree) (tokens : List Token) (trees : List Tree)
    (frames : List Frame) :
    run tokens (beneath base trees frames) =
      (run tokens (trees, frames)).map fun state => beneath base state.1 state.2 := by
  induction tokens generalizing trees frames with
  | nil => rfl
  | cons token tokens ih =>
      show (step (beneath base trees frames) token).bind (run tokens) =
        ((step (trees, frames) token).bind (run tokens)).map _
      rw [step_beneath]
      cases step (trees, frames) token with
      | none => rfl
      | some state => exact ih state.1 state.2

/-- **Tokens of trees in front** are these trees in front of those of the others. -/
theorem ofTokens?_append (front : List Tree) (tokens : List Token) :
    ofTokens? (tokensOfAll front ++ tokens) = (ofTokens? tokens).map (front ++ ·) := by
  have hfront : run (tokensOfAll front) ([], []) = some (beneath front.reverse [] []) :=
    (run_tokensOfAll front [] []).trans (by rw [List.append_nil]; rfl)
  rw [ofTokens?, run_append, hfront, Option.bind_some, run_beneath, ofTokens?]
  cases run tokens ([], []) with
  | none => rfl
  | some state =>
      obtain ⟨trees, frames⟩ := state
      cases frames with
      | nil => simp [beneath]
      | cons frame frames => rfl

end Tree

/-- The text is code for these trees, whatever code stands behind it. -/
def Spells (t : Text) (trees : List Tree) : Prop :=
  ∀ rest more, Token.Lexes rest more → Token.Lexes (t ++ rest) (Tree.tokensOfAll trees ++ more)

theorem spells_nil : Spells [] [] :=
  fun _ _ h => h

/-- Texts in a row spell the trees of the one and then those of the other. -/
theorem Spells.append {a b : Text} {c d : List Tree} (ha : Spells a c) (hb : Spells b d) :
    Spells (a ++ b) (c ++ d) := by
  intro rest more h
  rw [List.append_assoc, Tree.tokensOfAll_append, List.append_assoc]
  exact ha _ _ (hb _ _ h)

/-- One block after the other. -/
theorem Spells.flatMap {α : Type} {items : List α} {text : α → Text} {trees : α → List Tree}
    (h : ∀ item ∈ items, Spells (text item) (trees item)) :
    Spells (items.flatMap text) (items.flatMap trees) := by
  induction items with
  | nil => exact spells_nil
  | cons item items ih =>
      obtain ⟨hitem, hitems⟩ := List.forall_mem_cons.mp h
      exact hitem.append (ih hitems)

/-- **Code that spells trees is read as these trees.** -/
theorem Spells.ofText? {t : Text} {trees : List Tree} (h : Spells t trees) :
    Tree.ofText? t = some trees := by
  have hlexes := h [] [] Token.lexes_nil
  rw [List.append_nil, List.append_nil] at hlexes
  rw [Tree.ofText?, hlexes.ofText?, Option.bind_some, Tree.ofTokens?, Tree.run_tokensOfAll]
  simp

end TypedStyle.Code
