import TypedStyle.Proofs.Artifact.Renaming
import TypedStyle.Proofs.Code.Identifiers
/-!
# Names of modules

The name of a module is one identifier with gaps around it.  Without the white space at its ends it
is the same identifier still.  But it is pasted as it is: if a line ends in that white space, the
comment on the module ends there, and what is left of the name and of the comment is read as code,
which it is not.

* `Pads.names` — white space at the ends of a name makes no difference to the identifier;
* `exists_of_names` — a name without comments;
* `definitions?_of_broken` — no artifact for a name over several lines is code.
-/

namespace TypedStyle.Artifact

open Code Code.Token

variable {artifact : Artifact} {spec : Spec} {module bare name t u rest front back : Text}
  {c : Char}

/-- The name of the module is this identifier, once gaps and a mark of byte order are left out. -/
def Names (module name : Text) : Prop :=
  Token.ofText? (withoutByteOrder module) = some [.word name]

/-- A module name is accepted exactly when it names one identifier, gaps aside. -/
theorem isModuleName_iff :
    isModuleName module = true ↔ ∃ name, Names module name ∧ isName name = true := by
  unfold isModuleName Names
  constructor
  · intro h
    split at h
    · next name htext => exact ⟨name, htext, h⟩
    · contradiction
  · rintro ⟨name, htext, hname⟩
    rw [htext]
    exact hname

/-! ## White space around names -/

/-- Only a mark of byte order at the very start is left out. -/
theorem withoutByteOrder_eq_self (h : t.head? ≠ some '\uFEFF') : withoutByteOrder t = t := by
  unfold withoutByteOrder
  split
  · exact absurd rfl h
  · rfl

/-- An identifier does not start with a mark of byte order, and neither does a gap. -/
theorem head_ne_of_ofText? (h : Token.ofText? t = some [.word name]) :
    t.head? ≠ some '\uFEFF' := by
  intro hhead
  obtain ⟨others, rfl⟩ := List.head?_eq_some_iff.mp hhead
  obtain ⟨hname, rest, hgap, -⟩ := exists_of_ofText? h
  obtain ⟨c, word, rfl, hc⟩ := hname.exists_cons
  have hstop : Gap.behind? .blanks ('\uFEFF' :: others) = some ('\uFEFF' :: others) :=
    Gap.behind?_blanks_stop (by decide) (by simp)
  rw [hstop] at hgap
  obtain rfl := (List.cons.inj (Option.some.inj hgap)).1
  exact absurd hc (by decide +kernel)

/-- Blanks do not begin with a mark of byte order. -/
theorem head_ne_of_blanks (hback : ∀ c ∈ back, Text.isCodeBlank c = true) :
    back.head? ≠ some '\uFEFF' := by
  intro hhead
  have hblank := hback '\uFEFF' (List.mem_of_head? hhead)
  contradiction

/-- The one name is the other with white space around it, or is the other. -/
def Pads (module bare : Text) : Prop :=
  ∃ front back, module = front ++ (bare ++ back) ∧
    (∀ c ∈ front, Text.isCodeBlank c = true) ∧ ∀ c ∈ back, Text.isCodeBlank c = true

/-- A module name stands padded around its trimmed text. -/
theorem pads_trim (module : Text) : Pads module (Text.trim module) := by
  obtain ⟨front, back, hsplit, hfront, hback⟩ := Text.exists_eq_trimBy Text.isBlank module
  have hblank : ∀ c, Text.isBlank c = true → Text.isCodeBlank c = true := by
    intro c hc
    simp [Text.isCodeBlank, hc]
  exact ⟨front, back, hsplit, fun c hc => hblank c (hfront c hc), fun c hc => hblank c (hback c hc)⟩

/-- **White space at the ends of a name** makes no difference to the identifier. -/
theorem Pads.names (hpads : Pads module bare) (h : Names module name) : Names bare name := by
  obtain ⟨front, back, rfl, hfront, hback⟩ := hpads
  unfold Names at h ⊢
  cases front with
  | cons b front =>
      rw [withoutByteOrder_eq_self (by simpa using head_ne_of_blanks hfront),
        ofText?_of_gap (behind?_blanks hfront)] at h
      have hbare := ofText?_of_blanks hback h
      rwa [withoutByteOrder_eq_self (head_ne_of_ofText? hbare)]
  | nil =>
      rw [List.nil_append] at h
      by_cases hmark : bare.head? = some '\uFEFF'
      · obtain ⟨others, rfl⟩ := List.head?_eq_some_iff.mp hmark
        exact ofText?_of_blanks hback h
      · have hhead : (bare ++ back).head? ≠ some '\uFEFF' := by
          cases bare with
          | nil => exact head_ne_of_blanks hback
          | cons c others => exact hmark
        rw [withoutByteOrder_eq_self hhead] at h
        rw [withoutByteOrder_eq_self hmark]
        exact ofText?_of_blanks hback h

/-- Without its padding an accepted name is still accepted. -/
theorem isModuleName_of_pads (hpads : Pads module bare) (h : isModuleName module = true) :
    isModuleName bare = true := by
  obtain ⟨name, hnames, hname⟩ := isModuleName_iff.mp h
  exact isModuleName_iff.mpr ⟨name, hpads.names hnames, hname⟩

/-- White space at the ends of a name takes no line away. -/
theorem isOneLine_of_pads (hpads : Pads module bare) (h : isOneLine module = true) :
    isOneLine bare = true := by
  obtain ⟨front, back, rfl, -, -⟩ := hpads
  rw [isOneLine, List.all_append, List.all_append] at h
  exact (Bool.and_eq_true_iff.mp (Bool.and_eq_true_iff.mp h).2).1

/-! ## Names over several lines -/

/-- **A name without comments** is the identifier between blanks. -/
theorem exists_of_names (h : Names module name) (hslash : '/' ∉ module) :
    IsIdentifier name ∧ ∃ mark front back, module = mark ++ (front ++ (name ++ back)) ∧
      '\n' ∉ mark ∧ (∀ c ∈ front, Text.isCodeBlank c = true) ∧
      ∀ c ∈ back, Text.isCodeBlank c = true := by
  obtain ⟨hname, rest, hgap, hrest⟩ := exists_of_ofText? h
  obtain ⟨mark, hmark, hbreak⟩ : ∃ mark, module = mark ++ withoutByteOrder module ∧
      '\n' ∉ mark := by
    unfold withoutByteOrder
    split
    · exact ⟨['\uFEFF'], rfl, by decide⟩
    · exact ⟨[], rfl, by simp⟩
  have hslash' : '/' ∉ withoutByteOrder module := fun hmem =>
    hslash (by rw [hmark]; exact List.mem_append_right _ hmem)
  rw [Gap.behind?_of_not_mem hslash'] at hgap
  have hsplit := List.takeWhile_append_dropWhile (p := Text.isCodeBlank)
    (l := withoutByteOrder module)
  rw [Option.some.inj hgap] at hsplit
  have hrest' : '/' ∉ rest := fun hmem => hslash' (by rw [← hsplit]; simp [hmem])
  rw [Gap.behind?_of_not_mem hrest'] at hrest
  refine ⟨hname, mark, _, rest, by rw [hsplit]; exact hmark, hbreak,
    fun c hc => List.mem_takeWhile_imp hc, ?_⟩
  exact List.dropWhile_eq_nil_iff.mp (Option.some.inj hrest)

/-- No code starts with a back quote. -/
theorem ofText?_backquote (t : Text) : Token.ofText? ('\x60' :: t) = none := by
  have hgap : Gap.behind? .blanks ('\x60' :: t) = some ('\x60' :: t) :=
    Gap.behind?_blanks_stop (by decide) (by simp)
  have hliteral : literal? ('\x60' :: t) = none := rfl
  have hword : word? ('\x60' :: t) = none := by
    simp [word?, isStart_stop '\x60' (by decide)]
  refine ofText?_of_stuck hgap ?_
  simp [scan?, Text.ofString, List.isPrefixOf, note?, hliteral, startsWithMark, isMark, hword]

/-- A blank stands in front of the identifier or behind it. -/
theorem split_at_blank (hname : IsIdentifier name) (hblank : Text.isCodeBlank c = true)
    (h : front ++ (name ++ back) = t ++ c :: rest) :
    (∃ others, front = t ++ c :: others ∧ rest = others ++ (name ++ back)) ∨
      ∃ others, back = others ++ c :: rest := by
  have hinside : ∀ {a b}, name = a ++ c :: b → False := by
    rintro a b rfl
    rw [hname.isCodeBlank_eq_false c (by simp)] at hblank
    contradiction
  rcases List.append_eq_append_iff.mp h with ⟨a, rfl, ha⟩ | ⟨a, rfl, ha⟩
  · rcases List.append_eq_append_iff.mp ha with ⟨b, rfl, hb⟩ | ⟨b, hb, hrest⟩
    · exact .inr ⟨b, hb⟩
    · cases b with
      | nil => exact .inr ⟨[], by simpa using hrest.symm⟩
      | cons d b =>
          obtain ⟨rfl, -⟩ := List.cons.inj hrest
          exact (hinside hb).elim
  · cases a with
    | nil =>
        obtain ⟨d, word, rfl, -⟩ := hname.exists_cons
        obtain ⟨rfl, -⟩ := List.cons.inj ha
        exact (hinside (a := []) rfl).elim
    | cons d a =>
        obtain ⟨rfl, hrest⟩ := List.cons.inj ha
        exact .inl ⟨a, rfl, hrest⟩

/-- What is left of a name behind one of its blanks is no code in front of a back quote. -/
theorem ofText?_rest (hname : IsIdentifier name) (hfront : ∀ c ∈ front, Text.isCodeBlank c = true)
    (hback : ∀ c ∈ back, Text.isCodeBlank c = true) (hblank : Text.isCodeBlank c = true)
    (h : front ++ (name ++ back) = t ++ c :: rest) (u : Text) :
    Token.ofText? (rest ++ '\x60' :: u) = none := by
  have hblanks : ∀ {blanks : Text}, (∀ c ∈ blanks, Text.isCodeBlank c = true) →
      Token.ofText? (blanks ++ '\x60' :: u) = none := fun hblanks => by
    rw [ofText?_of_gap (behind?_blanks hblanks), ofText?_backquote]
  rcases split_at_blank hname hblank h with ⟨others, rfl, rfl⟩ | ⟨others, rfl⟩
  · have hothers : ∀ c ∈ others, Text.isCodeBlank c = true := fun c hc => hfront c (by simp [hc])
    have hends : EndsWord (back ++ '\x60' :: u) := by
      refine EndsWord.blanks (fun c hc => ?_) hback
      obtain rfl := Option.some.inj hc
      exact ⟨isContinue_stop '\x60' (by decide), by decide⟩
    have hgap : Gap.behind? .blanks (name ++ (back ++ '\x60' :: u)) =
        some (name ++ (back ++ '\x60' :: u)) := by
      obtain ⟨d, word, rfl, hd⟩ := hname.exists_cons
      exact behind?_of_isStart hd
    rw [List.append_assoc, List.append_assoc, ofText?_of_gap (behind?_blanks hothers),
      ofText?_identifier hname hends hgap, hblanks hback]
    rfl
  · exact hblanks fun c hc => hback c (by simp [hc])

/-- A note goes on over what does not end its line. -/
theorem behindLineNote?_cons (hc : c ≠ '\n' ∧ c ≠ '\r') (t : Text) :
    behindLineNote? (c :: t) = behindLineNote? t := by
  conv => lhs; unfold behindLineNote?
  split <;> simp_all

/-- A note goes on over a text that stays on one line. -/
theorem behindLineNote?_of_isOneLine (h : isOneLine front = true) (t : Text) :
    behindLineNote? (front ++ t) = behindLineNote? t := by
  induction front with
  | nil => rfl
  | cons c front ih =>
      obtain ⟨hline, hreturn⟩ := not_mem_of_isOneLine h
      have hc : c ≠ '\n' ∧ c ≠ '\r' := by
        constructor <;> rintro rfl <;> simp_all
      rw [List.cons_append, behindLineNote?_cons hc, ih (Bool.and_eq_true_iff.mp h).2]

/-- A return stands in a note only in front of a line feed. -/
theorem behindLineNote?_return (h : t.head? ≠ some '\n') :
    behindLineNote? ('\r' :: t) = none := by
  unfold behindLineNote?
  split
  · next heq => simp [(List.cons.inj heq).2] at h
  · next heq =>
    obtain ⟨rfl, rfl⟩ := List.cons.inj heq
    rfl
  · contradiction

/-- A note over several lines ends with the first of them, or it is none. -/
theorem behindLineNote?_of_broken (h : isOneLine t = false) (hu : u.head? ≠ some '\n') :
    behindLineNote? (t ++ u) = none ∨ ∃ front rest, t = front ++ '\n' :: rest ∧
      behindLineNote? (t ++ u) = some ('\n' :: (rest ++ u)) := by
  induction t with
  | nil => contradiction
  | cons c t ih =>
      by_cases hc : c = '\n'
      · subst hc
        exact .inr ⟨[], t, rfl, rfl⟩
      by_cases hreturn : c = '\r'
      · subst hreturn
        by_cases hfeed : (t ++ u).head? = some '\n'
        · cases t with
          | nil => exact absurd hfeed hu
          | cons d t =>
              obtain rfl : d = '\n' := Option.some.inj hfeed
              exact .inr ⟨['\r'], t, rfl, rfl⟩
        · exact .inl (behindLineNote?_return hfeed)
      · have ht : isOneLine t = false := by simpa [isOneLine, hc, hreturn] using h
        rw [List.cons_append, behindLineNote?_cons ⟨hc, hreturn⟩]
        refine (ih ht).imp_right ?_
        rintro ⟨front, rest, rfl, hbehind⟩
        exact ⟨c :: front, rest, rfl, hbehind⟩

/-- What starts like a note and is none is no code. -/
theorem ofText?_of_note?_eq_none (h : note? ('/' :: '/' :: t) = none)
    (hnote : startsLineNote t = true) : Token.ofText? ('/' :: '/' :: t) = none := by
  have hgap : Gap.behind? .blanks ('/' :: '/' :: t) = some ('/' :: '/' :: t) := by
    rw [Gap.behind?, if_pos hnote]
  have hliteral : literal? ('/' :: '/' :: t) = none := rfl
  have hword : word? ('/' :: '/' :: t) = none := by
    have hslash : Text.Identifier.isStart '/' = false := by decide
    simp [word?, hslash]
  refine ofText?_of_stuck hgap ?_
  simp [scan?, Text.ofString, List.isPrefixOf, h, hliteral, startsWithMark, hword]

/-- A note on a module whose name goes over several lines does not end well. -/
theorem ofText?_brokenNote (h : Names module name) (hslash : '/' ∉ module)
    (hbroken : isOneLine module = false) (hfront : isOneLine front = true) (code : Text) :
    Token.ofText? ("//!" ++ (front ++ (module ++ behindQuote code))) = none := by
  have hline : isOneLine ('!' :: front) = true := by simpa [isOneLine] using hfront
  have hbehind := behindLineNote?_of_isOneLine hline (module ++ behindQuote code)
  rcases behindLineNote?_of_broken hbroken (u := behindQuote code) (by simp [behindQuote]) with
    hnone | ⟨first, rest, hsplit, hsome⟩
  · refine ofText?_of_note?_eq_none (t := '!' :: (front ++ (module ++ behindQuote code))) ?_ rfl
    have hnote := hbehind.trans hnone
    simpa [note?, startsLineNote] using hnote
  · have hnote : note? ('/' :: '/' :: '!' :: (front ++ (module ++ behindQuote code))) =
        some (ofNote true, '\n' :: (rest ++ behindQuote code)) := by
      have hnote := hbehind.trans hsome
      simpa [note?, startsLineNote] using hnote
    obtain ⟨hname, mark, blanks, back, hmodule, hmark, hblanks, hback⟩ := exists_of_names h hslash
    obtain ⟨others, hothers⟩ : ∃ others, blanks ++ (name ++ back) = others ++ '\n' :: rest := by
      rcases List.append_eq_append_iff.mp (hmodule.symm.trans hsplit) with
        ⟨a, -, ha⟩ | ⟨a, rfl, ha⟩
      · exact ⟨a, ha⟩
      · cases a with
        | nil => exact ⟨[], by simpa using ha.symm⟩
        | cons c a =>
            obtain ⟨rfl, -⟩ := List.cons.inj ha
            simp at hmark
    have hrest := ofText?_rest hname hblanks hback (by decide) hothers ('.' :: '\n' :: code)
    have hline : Token.ofText? (['\n'] ++ (rest ++ behindQuote code)) = none := by
      rw [ofText?_of_gap (behind?_blanks (List.forall_mem_singleton.mpr rfl))]
      exact hrest
    show Token.ofText? ('/' :: '/' :: '!' :: (front ++ (module ++ behindQuote code))) = none
    rw [ofText?_of_scan rfl (scan?_note hnote)]
    exact congrArg _ hline

/-- **No artifact for a name over several lines is code**, if there are no comments in the name. -/
theorem definitions?_of_broken (h : Names module name) (hslash : '/' ∉ module)
    (hbroken : isOneLine module = false) (artifact : Artifact) (spec : Spec) :
    artifact.definitions? spec module = none := by
  have hpurpose : isOneLine (' ' :: (artifact.purpose ++ " \x60")) = true := by
    cases artifact <;> decide
  have hplain : artifact.isPlain spec module = false := by
    have hnote : isOneLine (artifact.moduleNote module) = false := by
      unfold isOneLine at hbroken ⊢
      rw [moduleNote, List.all_append, List.all_append, hbroken, Bool.and_false, Bool.false_and]
    simp [isPlain, notes, hnote]
  have hrender : artifact.render spec module [] = header spec.version []
      ++ ("//!" ++ (' ' :: (artifact.purpose ++ " \x60")
        ++ (module ++ behindQuote (artifact.code spec module)))) := by
    rw [render_eq]
    simp [Text.ofString]
  rw [definitions?, if_neg (by simp [hplain]), Code.definitions?, hrender,
    cuts_header spec.version List.not_mem_nil,
    ofText?_brokenNote h hslash hbroken hpurpose]
  rfl

end TypedStyle.Artifact
