import TypedStyle.Proofs.Code.Fronts
/-!
# Cutting code step by step

Every scan passes over some text, so there are always steps enough to cut a text into tokens.  What
a text is cut into is therefore said without any bound: nothing, where only a gap is left, or else
the tokens of the first scan and then those of the rest; or it is not code at all.

* `length_lt_of_scan?` — a scan passes over some text;
* `collect?_eq` — there are steps enough, whatever the bound is;
* `ofText?_of_gap`, `ofText?_of_scan`, `ofText?_of_stuck` — what is cut off at the front;
* `cuts_piece`, `cuts_quote`, `cuts_comment`, `cuts_note` — pieces in front of any text.
-/

namespace TypedStyle.Code

variable {t u rest name : Text} {content : Content}

/-! ## Strings, characters and notes -/

namespace Spelling

/-- A character that is read leaves no more than there was. -/
theorem length_le_of_behindCharacter? (h : behindCharacter? content t = some rest) :
    rest.length ≤ t.length := by
  obtain ⟨u, rfl, -⟩ := exists_of_behindCharacter? h
  simp only [List.length_append, List.length_cons]
  omega

/-- A literal in quotes leaves less than there was, as every step of a scan has to. -/
theorem length_lt_of_behind? (h : behind? t = some rest) : rest.length < t.length := by
  rcases exists_of_behind? h with ⟨u, v, content, rfl, -, hcharacter⟩ | ⟨u, v, rfl, -, hcloses⟩
  · have hlength := length_le_of_behindCharacter? hcharacter
    simp only [List.length_append, List.length_cons]
    omega
  · obtain ⟨w, marks, rfl, -, -⟩ := hcloses
    simp only [List.length_append, List.length_cons]
    omega

end Spelling

namespace Token

variable {token : Token} {tokens found more : List Token}

/-- A note on a line leaves no more than there was. -/
theorem length_le_of_behindLineNote? (h : behindLineNote? t = some rest) :
    rest.length ≤ t.length := by
  fun_induction behindLineNote? t with
  | case1 | case2 | case5 =>
      obtain rfl := Option.some.inj h
      simp
  | case3 => contradiction
  | case4 _ _ _ _ _ ih => exact Nat.le_succ_of_le (ih h)

/-- Neither does a note over several lines. -/
theorem length_le_of_behindBlockNote? {outer : Nat} (h : behindBlockNote? outer t = some rest) :
    rest.length ≤ t.length := by
  fun_induction behindBlockNote? outer t with
  | case1 _ _ ih | case3 _ _ ih | case4 _ _ ih =>
      exact Nat.le_succ_of_le (Nat.le_succ_of_le (ih h))
  | case2 =>
      obtain rfl := Option.some.inj h
      simp only [List.length_cons]
      omega
  | case6 _ _ _ _ _ _ _ _ ih => exact Nat.le_succ_of_le (ih h)
  | case5 | case7 => contradiction

/-- A note leaves less, since its marks are gone. -/
theorem length_lt_of_note? (h : note? t = some (tokens, rest)) : rest.length < t.length := by
  unfold note? at h
  split at h
  · obtain ⟨-, hbehind⟩ := Option.ite_none_right_eq_some.mp h
    obtain ⟨u, hu, heq⟩ := Option.map_eq_some_iff.mp hbehind
    obtain ⟨-, rfl⟩ := Prod.mk.inj heq
    have hlength := length_le_of_behindLineNote? hu
    simp only [List.length_cons]
    omega
  · obtain ⟨-, hbehind⟩ := Option.ite_none_right_eq_some.mp h
    obtain ⟨u, hu, heq⟩ := Option.map_eq_some_iff.mp hbehind
    obtain ⟨-, rfl⟩ := Prod.mk.inj heq
    have hlength := length_le_of_behindBlockNote? hu
    simp only [List.length_cons]
    omega
  · contradiction

/-- **A literal leaves less than there was**, of whatever kind it is. -/
theorem length_lt_of_literal? (h : literal? t = some (token, rest)) : rest.length < t.length := by
  rcases literal?_cases h with ⟨u, hbehind, rfl⟩ | hnumber
  · exact Nat.lt_of_le_of_lt (behindSuffix_suffix u).length_le
      (Spelling.length_lt_of_behind? hbehind)
  · exact (Number.isRest_of_behind? hnumber).length_lt

/-! ## Steps -/

/-- **A scan passes over some text.** -/
theorem length_lt_of_scan? (h : scan? t = some (tokens, rest)) : rest.length < t.length := by
  rcases scan?_cases h with ⟨rfl, -⟩ | ⟨c, rfl, -⟩ | hnote | ⟨token, hliteral, -⟩ |
    ⟨name, u, token, hword, htoken, -⟩
  · simp only [List.length_append]
    exact Nat.lt_add_of_pos_left (by decide)
  · simp
  · exact length_lt_of_note? hnote
  · exact length_lt_of_literal? hliteral
  · have hu := (isRest_of_word? hword).length_lt
    rcases ofWord?_cases htoken with ⟨rfl, -⟩ | ⟨v, raw, rfl, hraw, -⟩
    · exact hu
    · have hrest := (isRest_of_word? hraw).length_lt
      rw [List.length_cons] at hu
      omega

/-- **There are steps enough.**  Whatever the bound is and whatever has been found, if the bound is
larger than the text then the tokens are those found and those of the text. -/
theorem collect?_eq {bound : Nat} (h : t.length < bound) :
    collect? bound found t = (ofText? t).map (found.reverse ++ ·) := by
  unfold ofText?
  generalize hlength : t.length = n at h
  induction n using Nat.strongRecOn generalizing t bound found with
  | ind n ih =>
      subst hlength
      obtain ⟨steps, rfl⟩ : ∃ steps, bound = steps + 1 := ⟨bound - 1, by omega⟩
      rw [collect?, collect?]
      cases hgap : Gap.behind? .blanks t with
      | none => rfl
      | some u =>
          have hu := Gap.length_behind?_le hgap
          cases u with
          | nil => simp
          | cons c u =>
              dsimp only
              cases hscan : scan? (c :: u) with
              | none => rfl
              | some scanned =>
                  obtain ⟨tokens, rest⟩ := scanned
                  have hscanned := length_lt_of_scan? hscan
                  have hrest : rest.length < t.length := by omega
                  have hsteps : ∀ bound found, rest.length < bound →
                      collect? bound found rest =
                        (collect? (rest.length + 1) [] rest).map (found.reverse ++ ·) :=
                    fun bound found hbound => ih rest.length hrest rfl hbound
                  dsimp only
                  rw [hsteps steps _ (by omega), hsteps t.length _ hrest, Option.map_map]
                  simp [Function.comp_def]

/-- So a text is cut into its tokens with any number of steps. -/
theorem lexes_of_ofText? (h : ofText? t = some tokens) : Lexes t tokens := by
  intro bound found hbound
  rw [collect?_eq hbound, h]
  rfl

/-- A gap in front makes no difference. -/
theorem ofText?_of_gap (h : Gap.behind? .blanks t = Gap.behind? .blanks u) :
    ofText? t = ofText? u := by
  have hbounds : collect? (t.length + u.length + 1) [] t =
      collect? (t.length + u.length + 1) [] u := by
    rw [collect?, collect?, h]
  rw [collect?_eq (by omega), collect?_eq (by omega)] at hbounds
  simpa using hbounds

/-- The tokens of the first scan come in front of those of the rest. -/
theorem ofText?_of_scan {c : Char} (hgap : Gap.behind? .blanks t = some (c :: u))
    (hscan : scan? (c :: u) = some (tokens, rest)) :
    ofText? t = (ofText? rest).map (tokens ++ ·) := by
  have hu := Gap.length_behind?_le hgap
  have hrest := length_lt_of_scan? hscan
  rw [ofText?, collect?, hgap]
  dsimp only
  rw [hscan]
  dsimp only
  rw [collect?_eq (by omega)]
  simp

/-- Where nothing can be scanned there is no code. -/
theorem ofText?_of_stuck {c : Char} (hgap : Gap.behind? .blanks t = some (c :: u))
    (hscan : scan? (c :: u) = none) : ofText? t = none := by
  rw [ofText?, collect?, hgap]
  dsimp only
  rw [hscan]

/-! ## Pieces in front of any text -/

/-- In front of any text, code or not, the piece is cut into these tokens. -/
def Cuts (piece : Text) (tokens : List Token) : Prop :=
  ∀ rest, ofText? (piece ++ rest) = (ofText? rest).map (tokens ++ ·)

/-- Pieces in a row are cut into the tokens of the one and then those of the other. -/
theorem Cuts.append (ht : Cuts t tokens) (hu : Cuts u more) : Cuts (t ++ u) (tokens ++ more) := by
  intro rest
  rw [List.append_assoc, ht, hu, Option.map_map]
  simp [Function.comp_def]

theorem cuts_nil : Cuts [] [] := by
  intro rest
  simp

/-- **A piece of known characters** in front of others: the tokens that it is cut into are found by
computation. -/
theorem Cuts.piece (h : Cuts u more) (piece : Text) (tokens : List Token)
    (hpiece : ∀ rest bound found,
      collect? (bound + 1 + tokens.length) found (piece ++ (u ++ rest)) =
        collect? (bound + 1) (tokens.reverse ++ found) (u ++ rest)) :
    Cuts (piece ++ u) (tokens ++ more) := by
  intro rest
  have hsteps := hpiece rest (piece ++ (u ++ rest)).length []
  have hlength : (u ++ rest).length < (piece ++ (u ++ rest)).length + 1 := by
    simp only [List.length_append]
    omega
  rw [collect?_eq (by omega), collect?_eq hlength, h, Option.map_map] at hsteps
  simpa [Function.comp_def] using hsteps

/-- Such a piece alone. -/
theorem cuts_piece (piece : Text) (tokens : List Token)
    (hpiece : ∀ rest bound found, collect? (bound + 1 + tokens.length) found (piece ++ rest) =
      collect? (bound + 1) (tokens.reverse ++ found) rest) : Cuts piece tokens := by
  have hcuts := cuts_nil.piece piece tokens hpiece
  rwa [List.append_nil, List.append_nil] at hcuts

/-- **The literal of a text** in front of the bracket that closes a group. -/
theorem cuts_quote (u : Text) : Cuts (Text.quote u ++ ")") [.literal .string, .closing ')'] := by
  intro rest
  have hscan : scan? (Text.quote u ++ (")" ++ rest)) = some ([.literal .string], ")" ++ rest) :=
    scan?_quote rfl u
  have hclosing := cuts_piece ")" [.closing ')'] (fun _ _ _ => rfl) rest
  rw [List.append_assoc, ofText?_of_scan (c := '"') rfl hscan, hclosing, Option.map_map]
  simp [Function.comp_def]

/-- **A zero** in front of the bracket that closes a group or of the end of the line. -/
theorem cuts_zero {c : Char} (hc : c = '\n' ∨ c = ')') (hcuts : Cuts [c] tokens) :
    Cuts ['0', c] (.literal (.number "0") :: tokens) := by
  intro rest
  have hrest := hcuts rest
  rw [List.cons_append, List.nil_append] at hrest
  rw [List.cons_append, List.cons_append, List.nil_append, ofText?_of_scan rfl (scan?_zero hc),
    hrest, Option.map_map]
  simp [Function.comp_def]

/-- **A comment** is no token. -/
theorem cuts_comment (hline : '\n' ∉ u) : Cuts ("// " ++ (u ++ "\n")) [] := by
  intro rest
  have hgap : Gap.behind? .blanks ('/' :: '/' :: ' ' :: (u ++ '\n' :: rest)) =
      Gap.behind? .blanks rest := behind?_line (u := ' ' :: u) (by simpa using hline)
  simpa [Text.ofString] using ofText?_of_gap hgap

/-- **A note on the whole file**, to the end of its line, stands for an attribute. -/
theorem cuts_note (hline : '\n' ∉ u) (hreturn : '\r' ∉ u) :
    Cuts ("//! " ++ (u ++ "\n")) (ofNote true) := by
  intro rest
  have hbehind := behindLineNote?_append (u := '!' :: ' ' :: u) (t := rest) (by simpa using hline)
    (by simpa using hreturn)
  have hnote : note? ("//! " ++ (u ++ "\n") ++ rest) = some (ofNote true, '\n' :: rest) := by
    simpa [note?, startsLineNote, Text.ofString] using hbehind
  rw [ofText?_of_scan rfl (scan?_note hnote)]
  congr 1
  exact ofText?_of_gap (behind?_blanks (List.forall_mem_singleton.mpr rfl))

end Token

end TypedStyle.Code
