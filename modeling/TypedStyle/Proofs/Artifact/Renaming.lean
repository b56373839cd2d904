import TypedStyle.Proofs.Artifact.Modules
import TypedStyle.Proofs.Code.Steps
/-!
# One artifact at two times and for two modules

The first lines of an artifact are comments, so the time in them makes no difference to what it
defines.  The name of a module that stays on its line is in no token of an artifact either: it is in
the comment on the module, and it decides between two crates to import from.  So two such names make
no difference to what an artifact defines, and none to whether it is code at all.

* `definitions?_written` — an artifact defines what is checked, at whatever time it is written;
* `cuts_front` — the lines in front of the definitions, whatever the definitions are;
* `file_front_congr` — the two imports are read alike;
* `check_congr` — an artifact has the same defect for both names, or none.
-/

namespace TypedStyle.Artifact

open Code Code.Token Code.Reading

variable {artifact : Artifact} {spec : Spec} {module other timestamp : Text}

/-! ## The first lines -/

/-- The first lines are comments, whatever stands behind them. -/
theorem cuts_header (version : Text) (htimestamp : '\n' ∉ timestamp) :
    Cuts (header version timestamp) [] := by
  have hsource : '\n' ∉ Text.ofString "Source: spec version " ++ (onOneLine version
      ++ (Text.ofString " at " ++ timestamp)) := by
    have hwords : '\n' ∉ Text.ofString "Source: spec version " ∧ '\n' ∉ Text.ofString " at " := by
      decide
    simp [hwords, not_mem_onOneLine version, htimestamp]
  have hlines : ("// Code generated by cssgen; DO NOT EDIT.\n// Source: spec version " : Text) =
      "// " ++ ("Code generated by cssgen; DO NOT EDIT." ++ "\n")
        ++ ("// " ++ "Source: spec version ") := by decide
  have hend : ("\n\n" : Text) = "\n" ++ "\n" := by decide
  have hfirst := cuts_comment (u := "Code generated by cssgen; DO NOT EDIT.") (by decide)
  have hcomments := (hfirst.append (cuts_comment hsource)).append
    (cuts_piece "\n" [] fun _ _ _ => rfl)
  unfold header
  rw [hlines, hend]
  simpa only [List.append_assoc, List.nil_append] using hcomments

/-- The code of an artifact defines the same at any time. -/
theorem definitions?_render_timestamp (htimestamp : '\n' ∉ timestamp) :
    Code.definitions? (artifact.render spec module timestamp) =
      Code.definitions? (artifact.render spec module []) := by
  have htokens : ∀ timestamp, '\n' ∉ timestamp →
      Token.ofText? (artifact.render spec module timestamp) =
        (Token.ofText? (artifact.moduleLines module ++ (artifact.preamble module
          ++ artifact.body spec))).map ([] ++ ·) := by
    intro timestamp htimestamp
    rw [render, List.append_assoc, List.append_assoc]
    exact cuts_header spec.version htimestamp _
  rw [Code.definitions?, Code.definitions?, htokens _ htimestamp, htokens [] (by simp)]

/-- **An artifact defines what is checked, at whatever time it is written**, be it plain or not. -/
theorem definitions?_written (htimestamp : '\n' ∉ timestamp) :
    Code.definitions? (artifact.render spec module timestamp) =
      artifact.definitions? spec module := by
  by_cases hplain : artifact.isPlain spec module = true
  · rw [definitions?_render hplain htimestamp, definitions?_of_isPlain hplain]
  · rw [definitions?_render_timestamp htimestamp, definitions?, if_neg hplain]

/-- So it is accepted exactly when what is written is code that defines no name twice. -/
theorem check_eq_ok_iff_written (htimestamp : '\n' ∉ timestamp) :
    artifact.check spec module = .ok () ↔
      ∃ names, Code.definitions? (artifact.render spec module timestamp) = some names ∧
        names.Nodup := by
  rw [definitions?_written htimestamp]
  exact check_eq_ok_iff

/-! ## The lines in front -/

/-- The comment on the module is an attribute of the file. -/
theorem cuts_moduleLines (hmodule : isOneLine module = true) :
    Cuts (artifact.moduleLines module) (ofNote true) := by
  have hpurpose : '\n' ∉ artifact.purpose ++ Text.ofString " \x60" ∧
      '\r' ∉ artifact.purpose ++ Text.ofString " \x60" := by
    cases artifact <;> decide
  obtain ⟨hline, hreturn⟩ := not_mem_of_isOneLine hmodule
  have hnote := cuts_note (u := artifact.moduleNote module)
    (by simpa [moduleNote, Text.ofString, hline] using hpurpose.1)
    (by simpa [moduleNote, Text.ofString, hreturn] using hpurpose.2)
  have hend : ("\n\n" : Text) = "\n" ++ "\n" := by decide
  have hlines := hnote.append (cuts_piece "\n" [] fun _ _ _ => rfl)
  unfold moduleLines
  rw [hend]
  simpa only [List.append_assoc, List.append_nil] using hlines

/-- The preamble is cut into the tokens of its trees, in front of any definitions. -/
theorem cuts_preamble (module : Text) (artifact : Artifact) :
    Cuts (artifact.preamble module) (Tree.tokensOfAll (preambleTrees module artifact)) := by
  have hcrate := runtimeCrate_cases module
  cases artifact with
  | properties =>
      have hallow := cuts_piece "#![allow(non_upper_case_globals)]\n\n"
        (Tree.tokensOfAll (allowTrees "non_upper_case_globals")) fun _ _ _ => rfl
      have huse : Cuts ("use " ++ runtimeCrate module ++ "::Property;\n\n")
          (Tree.tokensOfAll (crateTrees module .properties)) := by
        rcases hcrate with hcrate | hcrate <;> rw [crateTrees, hcrate] <;>
          exact cuts_piece _ _ fun _ _ _ => rfl
      rw [preambleTrees, Tree.tokensOfAll_append]
      simpa only [preamble, List.append_assoc] using hallow.append huse
  | keywords => exact cuts_piece _ _ fun _ _ _ => rfl
  | setters =>
      have hallow := cuts_piece "#![allow(non_snake_case)]\n\n"
        (Tree.tokensOfAll (allowTrees "non_snake_case")) fun _ _ _ => rfl
      have hkeywords : Cuts ("use super::" ++ stem .keywords ++ "::*;\n")
          (Tree.tokensOfAll (globTrees .keywords)) := cuts_piece _ _ fun _ _ _ => rfl
      have hproperties : Cuts ("use super::" ++ stem .properties ++ "::*;\n")
          (Tree.tokensOfAll (globTrees .properties)) := cuts_piece _ _ fun _ _ _ => rfl
      have huse : Cuts ("use " ++ runtimeCrate module ++ "::\x7bDecl, Keyword, set\x7d;\n")
          (Tree.tokensOfAll (crateTrees module .setters)) := by
        rcases hcrate with hcrate | hcrate <;> rw [crateTrees, hcrate] <;>
          exact cuts_piece _ _ fun _ _ _ => rfl
      have hall := ((hallow.append hkeywords).append hproperties).append huse
      rw [preambleTrees]
      simpa only [preamble, Tree.tokensOfAll_append, List.append_assoc] using hall

/-- The trees of the lines in front of the definitions. -/
def frontTrees (module : Text) (artifact : Artifact) : Trees :=
  moduleNoteTrees ++ preambleTrees module artifact

/-- **The lines in front of the definitions**, whatever the definitions are. -/
theorem cuts_front (hmodule : isOneLine module = true) :
    Cuts (header spec.version [] ++ artifact.moduleLines module ++ artifact.preamble module)
      (Tree.tokensOfAll (frontTrees module artifact)) := by
  have hnote : Cuts (artifact.moduleLines module) (ofNote true) := cuts_moduleLines hmodule
  have hfront := ((cuts_header spec.version List.not_mem_nil).append hnote).append
    (cuts_preamble module artifact)
  rw [frontTrees, Tree.tokensOfAll_append]
  exact hfront

/-! ## What the artifact defines -/

/-- An artifact for one module has as many tokens in front as one for another. -/
theorem length_frontTokens (artifact : Artifact) (module other : Text) :
    (Tree.tokensOfAll (frontTrees module artifact)).length =
      (Tree.tokensOfAll (frontTrees other artifact)).length := by
  cases artifact <;> rfl

/-- **Whichever the crate is**, the items behind the imports are read alike. -/
theorem file_front_congr (artifact : Artifact) (module other : Text) (rest : Trees) (n : Nat) :
    file (readUpTo (n + 20)) (frontTrees module artifact ++ rest) =
      file (readUpTo (n + 20)) (frontTrees other artifact ++ rest) := by
  let test : List Text → Trees → Bool := fun _ trees => !trees.isEmpty
  let step := itemOfFile (readUpTo (n + 20))
  have hstep : ∀ (module : Text) (artifact : Artifact), artifact ≠ .keywords → ∀ bound,
      loopUpTo test step (bound + 1) [] (crateTrees module artifact ++ rest) =
        loopUpTo test step bound [] rest := by
    intro module artifact hartifact bound
    have htest : test [] (crateTrees module artifact ++ rest) = true := by
      cases artifact <;> first | rfl | contradiction
    have hattributes : attributes (readUpTo (n + 20)) (crateTrees module artifact ++ rest) =
        some (false, crateTrees module artifact ++ rest) := by
      cases artifact <;> first | rfl | contradiction
    exact loopUpTo_of_step [] rest htest
      (itemOfFile_of_item hattributes (item_crate module hartifact rest) []) bound
  cases artifact with
  | keywords => rfl
  | properties =>
      have hlength : ∀ module, (crateTrees module .properties ++ rest).length =
          rest.length + 5 + 1 := fun _ => by simp [crateTrees, pathTrees]
      refine file_congr (c := crateTrees module .properties ++ rest)
        (d := crateTrees other .properties ++ rest) rfl rfl ?_
      rw [loop_eq, loop_eq, hlength, hlength]
      exact (hstep module .properties (by decide) _).trans
        (hstep other .properties (by decide) _).symm
  | setters =>
      have hlength : ∀ module, (globTrees .keywords ++ (globTrees .properties
          ++ (crateTrees module .setters ++ rest))).length = rest.length + 21 + 1 + 1 + 1 :=
        fun _ => by simp [crateTrees, globTrees, pathTrees]
      have hglob : ∀ (imported : Artifact) (trees : Trees) (bound : Nat),
          loopUpTo test step (bound + 1) [] (globTrees imported ++ trees) =
            loopUpTo test step bound [] trees := fun imported trees bound =>
        loopUpTo_of_step [] trees rfl (itemOfFile_of_item rfl (item_glob imported trees) []) bound
      refine file_congr
        (c := globTrees .keywords ++
          (globTrees .properties ++ (crateTrees module .setters ++ rest)))
        (d := globTrees .keywords ++
          (globTrees .properties ++ (crateTrees other .setters ++ rest)))
        rfl rfl ?_
      rw [loop_eq, loop_eq, hlength, hlength]
      show loopUpTo test step _ _ _ = loopUpTo test step _ _ _
      rw [hglob, hglob, hglob, hglob, hstep module .setters (by decide),
        hstep other .setters (by decide)]

/-- Tokens that stand behind the lines in front define the same for both modules. -/
theorem definitionsOf?_congr (artifact : Artifact) (module other : Text) (tokens : List Token) :
    definitionsOf? (Tree.tokensOfAll (frontTrees module artifact) ++ tokens) =
      definitionsOf? (Tree.tokensOfAll (frontTrees other artifact) ++ tokens) := by
  obtain ⟨n, hn⟩ : ∃ n, 16 * ((Tree.tokensOfAll (frontTrees other artifact)).length
      + tokens.length + 1) = n + 20 := by
    have hpositive : 0 < (Tree.tokensOfAll (frontTrees other artifact)).length := by
      cases artifact <;> exact Nat.zero_lt_succ _
    exact ⟨16 * ((Tree.tokensOfAll (frontTrees other artifact)).length + tokens.length + 1) - 20,
      by omega⟩
  unfold definitionsOf?
  rw [Tree.ofTokens?_append, Tree.ofTokens?_append, List.length_append, List.length_append,
    length_frontTokens artifact module other, hn]
  cases Tree.ofTokens? tokens with
  | none => rfl
  | some trees =>
      show (file (readUpTo (n + 20)) (frontTrees module artifact ++ trees)).bind _ =
        (file (readUpTo (n + 20)) (frontTrees other artifact ++ trees)).bind _
      rw [file_front_congr artifact module other]

/-- The code of an artifact for two modules on one line defines the same. -/
theorem definitions?_render_congr (hmodule : isOneLine module = true)
    (hother : isOneLine other = true) :
    Code.definitions? (artifact.render spec module []) =
      Code.definitions? (artifact.render spec other []) := by
  have hcode : ∀ module, isOneLine module = true → Code.definitions?
      (artifact.render spec module []) = (Token.ofText? (artifact.body spec)).bind fun tokens =>
        definitionsOf? (Tree.tokensOfAll (frontTrees module artifact) ++ tokens) := by
    intro module hmodule
    rw [Code.definitions?, render, cuts_front hmodule (artifact.body spec), Option.bind_map]
    rfl
  rw [hcode module hmodule, hcode other hother]
  exact congrArg _ (funext (definitionsOf?_congr artifact module other))

/-- **What an artifact defines does not depend on the name of its module**, as long as the name
stays on its line. -/
theorem definitions?_congr (artifact : Artifact) (spec : Spec) (hmodule : isOneLine module = true)
    (hother : isOneLine other = true) :
    artifact.definitions? spec module = artifact.definitions? spec other := by
  have hplain : artifact.isPlain spec module = artifact.isPlain spec other := by
    simp [isPlain, notes, isOneLine_moduleNote hmodule, isOneLine_moduleNote hother]
  rw [definitions?, definitions?, hplain, definitions?_render_congr hmodule hother]

/-- So an artifact has the same defect for both names, or none. -/
theorem check_congr (artifact : Artifact) (spec : Spec) (hmodule : isOneLine module = true)
    (hother : isOneLine other = true) : artifact.check spec module = artifact.check spec other := by
  rw [check, check, definitions?_congr artifact spec hmodule hother]

end TypedStyle.Artifact
