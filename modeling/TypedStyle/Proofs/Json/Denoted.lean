import TypedStyle.Proofs.Json.RoundTrip
/-!
# Values that documents denote

What is read from a document can be written again, for the only numbers in it are numerals.  So the
values that documents denote are exactly those that can be written.

* `isSpelled_of_tokens?` — the tokens of a document;
* `isSpelled_step`, `isSpelled_run` — what the reader has read at any time;
* `printable_iff` — the values that are denoted by documents.
-/

namespace TypedStyle.Json

namespace Token

/-- A token as it can stand in a document: a number is a numeral. -/
def IsSpelled (token : Token) : Prop :=
  ∀ numeral, token = .number numeral → isNumeral numeral = true

variable {t rest : Text} {token : Token} {tokens : List Token}

/-- A word that is a token can be written. -/
theorem isSpelled_of_ofWord? {word : Text} (h : ofWord? word = some token) : token.IsSpelled := by
  rintro numeral rfl
  unfold ofWord? at h
  split at h
  · simp at h
  · split at h
    · simp at h
    · split at h
      · simp at h
      · split at h
        · next hnumeral =>
          obtain rfl : word = numeral := by simpa using h
          exact hnumeral
        · simp at h

/-- Every token that a scan finds can be written. -/
theorem isSpelled_of_scan? (h : scan? t = some (token, rest)) : token.IsSpelled := by
  unfold scan? at h
  split at h
  · simp at h
  all_goals try (obtain ⟨rfl, -⟩ := Prod.mk.inj (Option.some.inj h); exact nofun)
  · obtain ⟨⟨units, behind⟩, -, hstring⟩ := Option.bind_eq_some_iff.mp h
    obtain ⟨rfl, -⟩ := Prod.mk.inj (Option.some.inj hstring)
    exact nofun
  · obtain ⟨word, hword, heq⟩ := Option.map_eq_some_iff.mp h
    obtain ⟨rfl, -⟩ := Prod.mk.inj heq
    exact isSpelled_of_ofWord? hword

/-- The numbers among the tokens of a document are numerals. -/
theorem isSpelled_of_tokens? (h : tokens? t = some tokens) : ∀ token ∈ tokens, token.IsSpelled := by
  fun_induction tokens? t generalizing tokens with
  | case1 =>
      obtain rfl := Option.some.inj h
      exact fun token hmem => absurd hmem List.not_mem_nil
  | case2 c rest hblank ih => exact ih h
  | case3 c rest hblank first behind hscan hlength ih =>
      obtain ⟨others, hothers, rfl⟩ := Option.map_eq_some_iff.mp h
      exact List.forall_mem_cons.mpr ⟨isSpelled_of_scan? hscan, ih hothers⟩
  | case4 => simp at h

end Token

/-- The values in an open container can be written. -/
def Frame.Printable : Frame → Prop
  | .array items => ∀ item ∈ items, item.Printable
  | .object members _ => ∀ member ∈ members, member.2.Printable

namespace ReaderState

variable {state after : ReaderState} {stack : List Frame} {token : Token} {tokens : List Token}

/-- All that has been read can be written. -/
def IsSpelled : ReaderState → Prop
  | .value stack | .firstItem stack | .firstName stack => ∀ frame ∈ stack, frame.Printable
  | .nextName members stack | .colon members _ stack =>
    (∀ member ∈ members, member.2.Printable) ∧ ∀ frame ∈ stack, frame.Printable
  | .complete v stack => v.Printable ∧ ∀ frame ∈ stack, frame.Printable

/-- A token that begins a value keeps what has been read such that it can be written. -/
theorem isSpelled_beginValue (hstack : ∀ frame ∈ stack, frame.Printable) (htoken : token.IsSpelled)
    (h : beginValue stack token = some after) : after.IsSpelled := by
  unfold beginValue at h
  split at h
  all_goals try (obtain rfl := Option.some.inj h)
  · exact hstack
  · exact hstack
  · exact ⟨.null, hstack⟩
  · exact ⟨.bool _, hstack⟩
  · exact ⟨.number (htoken _ rfl), hstack⟩
  · exact ⟨.string _, hstack⟩
  · contradiction

/-- **One more token keeps what has been read such that it can be written.** -/
theorem isSpelled_step (hstate : state.IsSpelled) (htoken : token.IsSpelled)
    (h : step state token = some after) : after.IsSpelled := by
  unfold step at h
  split at h
  all_goals try (obtain rfl := Option.some.inj h)
  -- A value begins, or the first item of an array.
  · exact isSpelled_beginValue hstate htoken h
  · exact ⟨.array (List.forall_mem_nil _), hstate⟩
  · have hopened : Frame.Printable (.array []) := List.forall_mem_nil _
    exact isSpelled_beginValue (List.forall_mem_cons.mpr ⟨hopened, hstate⟩) htoken h
  -- Names and colons.
  · exact ⟨.object (List.forall_mem_nil _), hstate⟩
  · exact ⟨List.forall_mem_nil _, hstate⟩
  · exact hstate
  · exact List.forall_mem_cons.mpr hstate
  -- A value is complete, and goes into its container.
  · next v items stack =>
    obtain ⟨hv, hframes⟩ := hstate
    obtain ⟨hitems, hstack⟩ := List.forall_mem_cons.mp hframes
    exact List.forall_mem_cons.mpr ⟨List.forall_mem_cons.mpr ⟨hv, hitems⟩, hstack⟩
  · next v items stack =>
    obtain ⟨hv, hframes⟩ := hstate
    obtain ⟨hitems, hstack⟩ := List.forall_mem_cons.mp hframes
    refine ⟨.array fun item hitem => ?_, hstack⟩
    exact List.forall_mem_cons.mpr ⟨hv, hitems⟩ item (List.mem_reverse.mp hitem)
  · next v members name stack =>
    obtain ⟨hv, hframes⟩ := hstate
    obtain ⟨hmembers, hstack⟩ := List.forall_mem_cons.mp hframes
    exact ⟨List.forall_mem_cons.mpr ⟨hv, hmembers⟩, hstack⟩
  · next v members name stack =>
    obtain ⟨hv, hframes⟩ := hstate
    obtain ⟨hmembers, hstack⟩ := List.forall_mem_cons.mp hframes
    refine ⟨.object fun member hmember => ?_, hstack⟩
    have hall : ∀ member ∈ (name, v) :: members, member.2.Printable :=
      List.forall_mem_cons.mpr ⟨hv, hmembers⟩
    exact hall member (List.mem_reverse.mp hmember)
  · contradiction

/-- **All that the reader reads can be written.** -/
theorem isSpelled_run (hstate : state.IsSpelled) (htokens : ∀ token ∈ tokens, token.IsSpelled)
    (h : run state tokens = some after) : after.IsSpelled := by
  induction tokens generalizing state with
  | nil =>
      obtain rfl := Option.some.inj h
      exact hstate
  | cons token tokens ih =>
      obtain ⟨htoken, hothers⟩ := List.forall_mem_cons.mp htokens
      obtain ⟨next, hnext, hrun⟩ := Option.bind_eq_some_iff.mp h
      exact ih (isSpelled_step hstate htoken hnext) hothers hrun

end ReaderState

variable {value : Json} {document : Text}

/-- What a document denotes can be written. -/
theorem printable_of_parse? (h : parse? document = some value) : value.Printable := by
  obtain ⟨tokens, htokens, h⟩ := Option.bind_eq_some_iff.mp h
  obtain ⟨state, hrun, h⟩ := Option.bind_eq_some_iff.mp h
  have hfirst : ReaderState.IsSpelled (.value []) := List.forall_mem_nil _
  have hstate := ReaderState.isSpelled_run hfirst (Token.isSpelled_of_tokens? htokens) hrun
  split at h
  · obtain rfl := Option.some.inj h
    exact hstate.1
  · contradiction

/-- **The values that can be written are those that documents denote.** -/
theorem printable_iff : value.Printable ↔ ∃ document, parse? document = some value := by
  constructor
  · intro h
    exact ⟨value.print ++ [], parse?_print h rfl⟩
  · rintro ⟨document, h⟩
    exact printable_of_parse? h

end TypedStyle.Json
