import Mathlib.Data.List.DropRight
import TypedStyle.Proofs.Grammar.Spans
/-!
# Hyphens at the ends of tokens

A hyphen is no word character.  So a run of small letters and hyphens that is glued to a capital, a
digit or `_` has a word boundary in front of its first hyphen, and a token may begin there: `1-ab`
has the tokens `1` and `-ab`.  In the same way a token may end in a hyphen, as in `foo-Bar`.  Here
it is shown that this is the only way in which a hyphen comes to stand at the end of a token.

* `Valid.union`, `mem_spans_iff` — overlapping valid spans have a valid union, so the tokens are the
  valid spans that no other one contains;
* `mirror_mem_spans` — hence it does not matter from which end a text is scanned;
* `head?_eq_hyphen_iff` — a token begins with a hyphen exactly when a word character stands before
  it;
* `clean_iff_not_hasJoint` — the texts in which no token has a hyphen at an end or is glued to a
  word are those without a joint.
-/

namespace TypedStyle.Grammar

open TypedStyle.Grammar.Span (Valid)

/-! ## Maximal valid spans -/

/-- A character is within a span when it has a place there. -/
theorem Span.mem_text_iff {t : Text} {span : Span} {c : Char} :
    c ∈ span.text t ↔ ∃ k, span.start ≤ k ∧ k < span.stop ∧ t[k]? = some c := by
  rw [Span.text, List.mem_iff_getElem?]
  simp only [List.getElem?_take, List.getElem?_drop]
  constructor
  · rintro ⟨i, hi⟩
    split at hi
    · exact ⟨span.start + i, by omega, by omega, hi⟩
    · contradiction
  · rintro ⟨k, hstart, hstop, hk⟩
    refine ⟨k - span.start, ?_⟩
    rw [if_pos (by omega), Nat.add_sub_cancel' hstart, hk]

/-- The span from the first start of two to the last end. -/
def Span.union (a b : Span) : Span :=
  ⟨min a.start b.start, max a.stop b.stop⟩

/-- What holds of the characters of two overlapping spans holds of those of their union. -/
theorem Span.forall_mem_text_union {t : Text} {a b : Span} {p : Char → Prop} (h : a.Overlaps b)
    (ha : ∀ c ∈ a.text t, p c) (hb : ∀ c ∈ b.text t, p c) : ∀ c ∈ (a.union b).text t, p c := by
  intro c hc
  obtain ⟨k, hstart, hstop, hk⟩ := mem_text_iff.mp hc
  obtain ⟨hab, hba⟩ := h
  simp only [union] at hstart hstop
  by_cases hina : a.start ≤ k ∧ k < a.stop
  · exact ha c (mem_text_iff.mpr ⟨k, hina.1, hina.2, hk⟩)
  · exact hb c (mem_text_iff.mpr ⟨k, by omega, by omega, hk⟩)

/-- Overlapping valid spans are of one kind, and have a valid union. -/
theorem Span.Valid.union {t : Text} {a b : Span} (ha : Valid t a) (hb : Valid t b)
    (h : a.Overlaps b) : Valid t (a.union b) := by
  have hproper := ha.start_lt_stop
  have hproper' := hb.start_lt_stop
  have hinside := ha.stop_le_length
  have hinside' := hb.stop_le_length
  have hcommon : ∃ c, c ∈ a.text t ∧ c ∈ b.text t := by
    obtain ⟨hab, hba⟩ := h
    have hlt : max a.start b.start < t.length := by omega
    exact ⟨_, mem_text_iff.mpr ⟨_, by omega, by omega, List.getElem?_eq_getElem hlt⟩,
      mem_text_iff.mpr ⟨_, by omega, by omega, List.getElem?_eq_getElem hlt⟩⟩
  obtain ⟨c, hca, hcb⟩ := hcommon
  constructor
  · simp only [Span.union]
    omega
  · simp only [Span.union]
    omega
  · rcases ha.oneKind with hnames | hdigits <;> rcases hb.oneKind with hnames' | hdigits'
    · exact .inl (forall_mem_text_union h hnames hnames')
    · have hdigit := hdigits' c hcb
      rw [isDigit_of_isNameChar (hnames c hca)] at hdigit
      contradiction
    · have hdigit := hdigits c hca
      rw [isDigit_of_isNameChar (hnames' c hcb)] at hdigit
      contradiction
    · exact .inr (forall_mem_text_union h hdigits hdigits')
  · rcases Nat.le_total a.start b.start with hle | hle
    · exact (congrArg _ (Nat.min_eq_left hle)).trans ha.starts
    · exact (congrArg _ (Nat.min_eq_right hle)).trans hb.starts
  · rcases Nat.le_total a.stop b.stop with hle | hle
    · exact (congrArg _ (Nat.max_eq_right hle)).trans hb.stops
    · exact (congrArg _ (Nat.max_eq_left hle)).trans ha.stops

/-- No valid span behind the place contains one that is found, but this one itself.  By induction on
the list: a larger span would either reach into the first one, which would then not be the longest,
or start behind it. -/
theorem Leftmost.eq_of_contains {t : Text} {place : Nat} {found : List Span}
    (h : Leftmost t place found) {token other : Span} (hmem : token ∈ found)
    (hother : Valid t other) (hplace : place ≤ other.start) (hstart : other.start ≤ token.start)
    (hstop : token.stop ≤ other.stop) : other = token := by
  induction h with
  | done => exact absurd hmem List.not_mem_nil
  | @next place first later valid behind leftmost longest rest ih =>
      have hfirst := leftmost other hother hplace
      rcases List.mem_cons.mp hmem with rfl | hlater
      · have hsame : other.start = token.start := by omega
        have hmost := longest other hother hsame
        cases other; cases token; simp_all
        omega
      · obtain ⟨htoken, hbehind⟩ := rest.valid_of_mem hlater
        have hproper := htoken.start_lt_stop
        have hproper' := valid.start_lt_stop
        rcases Nat.lt_or_ge other.start first.stop with hinside | houtside
        · have hunion := valid.union hother ⟨by omega, hinside⟩
          have hmost := longest _ hunion (Nat.min_eq_left hfirst)
          simp only [Span.union] at hmost
          omega
        · exact ih hlater houtside

/-- The tokens of a text are the valid spans that no other valid span contains. -/
theorem mem_spans_iff {t : Text} {span : Span} :
    span ∈ spans t ↔ Valid t span ∧
      ∀ other, Valid t other → other.start ≤ span.start → span.stop ≤ other.stop →
        other = span := by
  have hfound := leftmost_spans t
  constructor
  · intro hmem
    exact ⟨(hfound.valid_of_mem hmem).1, fun other hother hstart hstop =>
      hfound.eq_of_contains hmem hother (Nat.zero_le _) hstart hstop⟩
  · rintro ⟨hvalid, hmaximal⟩
    obtain ⟨token, hmem, hoverlaps⟩ := hfound.exists_overlaps hvalid (Nat.zero_le _)
    have htoken := (hfound.valid_of_mem hmem).1
    have hunion := htoken.union hvalid hoverlaps
    have heq : token.union span = token :=
      hfound.eq_of_contains hmem hunion (Nat.zero_le _) (Nat.min_le_left _ _) (Nat.le_max_left _ _)
    have heq' : token.union span = span :=
      hmaximal _ hunion (Nat.min_le_right _ _) (Nat.le_max_right _ _)
    rw [← heq', heq]
    exact hmem

/-- Every valid span of a text is within a token. -/
theorem Span.Valid.exists_token {t : Text} {span : Span} (h : Valid t span) :
    ∃ token ∈ spans t, Valid t token ∧ token.start ≤ span.start ∧ span.stop ≤ token.stop := by
  obtain ⟨token, hmem, hoverlaps⟩ := (leftmost_spans t).exists_overlaps h (Nat.zero_le _)
  obtain ⟨htoken, hmaximal⟩ := mem_spans_iff.mp hmem
  have hsame : token.union span = token :=
    hmaximal _ (htoken.union h hoverlaps) (Nat.min_le_left _ _) (Nat.le_max_left _ _)
  refine ⟨token, hmem, htoken, ?_, ?_⟩
  · exact hsame ▸ Nat.min_le_right _ _
  · exact hsame ▸ Nat.le_max_right _ _

/-! ## Runs between two texts -/

/-- A text is a run of one kind between two others when word boundaries separate it from them. -/
structure IsRun (front run back : Text) : Prop where
  ne_nil : run ≠ []
  oneKind : (∀ c ∈ run, isNameChar c = true) ∨ ∀ c ∈ run, c.isDigit = true
  starts : isBoundary front.getLast? run.head? = true
  stops : isBoundary run.getLast? back.head? = true

/-- The span of what stands behind one text and in front of another. -/
def spanBehind (front run : Text) : Span :=
  ⟨front.length, front.length + run.length⟩

/-- The text of the span of a run is the run. -/
theorem text_spanBehind (front run back : Text) :
    (spanBehind front run).text (front ++ run ++ back) = run := by
  simp [Span.text, spanBehind]

/-- In front of the span stands what stands in front of the run. -/
theorem take_start_spanBehind (front run back : Text) :
    (front ++ run ++ back).take (spanBehind front run).start = front := by
  simp [spanBehind]

/-- Behind it stands what stands behind the run. -/
theorem drop_stop_spanBehind (front run back : Text) :
    (front ++ run ++ back).drop (spanBehind front run).stop = back := by
  simp [spanBehind]

/-- What stands in front of another text fits when it is a run that ends at a word boundary. -/
theorem fits_append {kind : Char → Bool} {run back : Text} :
    Fits kind (run ++ back) run.length ↔
      run ≠ [] ∧ (∀ c ∈ run, kind c = true) ∧ isBoundary run.getLast? back.head? = true := by
  constructor
  · intro h
    have hall := h.all
    have hstops := h.stops
    rw [List.take_left] at hall
    rw [List.take_left, List.drop_left] at hstops
    exact ⟨List.length_pos_iff.mp h.pos, hall, hstops⟩
  · rintro ⟨hne, hall, hstops⟩
    refine ⟨List.length_pos_iff.mpr hne, by simp, ?_, ?_⟩
    · rwa [List.take_left]
    · rwa [List.take_left, List.drop_left]

/-- The valid spans of a text are the runs that it can be cut into with a front and a back. -/
theorem valid_spanBehind_iff {front run back : Text} :
    Valid (front ++ run ++ back) (spanBehind front run) ↔ IsRun front run back := by
  rw [List.append_assoc, valid_iff rfl]
  constructor
  · rintro ⟨n, hstop, hstarts, hfits⟩
    obtain rfl : run.length = n := Nat.add_left_cancel hstop
    rcases hfits with hname | hdigits
    · obtain ⟨hne, hall, hstops⟩ := fits_append.mp hname
      rw [List.head?_append_of_ne_nil _ hne] at hstarts
      exact ⟨hne, .inl hall, hstarts, hstops⟩
    · obtain ⟨hne, hall, hstops⟩ := fits_append.mp hdigits
      rw [List.head?_append_of_ne_nil _ hne] at hstarts
      exact ⟨hne, .inr hall, hstarts, hstops⟩
  · intro h
    refine ⟨run.length, rfl, ?_, ?_⟩
    · rw [List.head?_append_of_ne_nil _ h.ne_nil]
      exact h.starts
    · exact h.oneKind.imp (fun hall => fits_append.mpr ⟨h.ne_nil, hall, h.stops⟩)
        fun hall => fits_append.mpr ⟨h.ne_nil, hall, h.stops⟩

/-- Every valid span cuts its text into a front, a run and a back. -/
theorem Span.Valid.exists_append {t : Text} {span : Span} (h : Valid t span) :
    ∃ front run back, t = front ++ run ++ back ∧ span = spanBehind front run := by
  have hproper := h.start_lt_stop
  have hinside := h.stop_le_length
  have hstart : (t.take span.start).length = span.start := by
    rw [List.length_take]
    omega
  have hlength : (span.text t).length = span.stop - span.start := by
    rw [Span.text, List.length_take, List.length_drop]
    omega
  have hdrop : t.drop span.stop = (t.drop span.start).drop (span.stop - span.start) := by
    rw [List.drop_drop, Nat.add_sub_cancel' (Nat.le_of_lt hproper)]
  refine ⟨t.take span.start, span.text t, t.drop span.stop, ?_, ?_⟩
  · rw [hdrop, List.append_assoc, Span.text, List.take_append_drop, List.take_append_drop]
  · rw [spanBehind, hstart, hlength, Nat.add_sub_cancel' (Nat.le_of_lt hproper)]

/-! ## Scanning from either end -/

/-- A word boundary is one from either side. -/
theorem isBoundary_comm (left right : Option Char) :
    isBoundary left right = isBoundary right left :=
  Bool.xor_comm _ _

/-- A run that is read from its end is a run. -/
theorem IsRun.reverse {front run back : Text} (h : IsRun front run back) :
    IsRun back.reverse run.reverse front.reverse where
  ne_nil := by simpa using h.ne_nil
  oneKind := by simpa using h.oneKind
  starts := by simpa [isBoundary_comm] using h.stops
  stops := by simpa [isBoundary_comm] using h.starts

/-- The span with the same characters in a text of this length that is read from its end. -/
def Span.mirror (length : Nat) (span : Span) : Span :=
  ⟨length - span.stop, length - span.start⟩

/-- The mirror image of the span of a run is the span of the mirror image. -/
theorem Span.mirror_spanBehind (front run back : Text) :
    (spanBehind front run).mirror (front ++ run ++ back).length =
      spanBehind back.reverse run.reverse := by
  simp only [mirror, spanBehind, List.length_append, List.length_reverse, Span.mk.injEq]
  omega

/-- **The mirror image of a mirror image is the span itself.** -/
theorem Span.mirror_mirror {length : Nat} {span : Span} (hstart : span.start ≤ span.stop)
    (hstop : span.stop ≤ length) : (span.mirror length).mirror length = span := by
  cases span
  simp_all only [mirror, Span.mk.injEq]
  omega

/-- **Valid spans are valid from either end** of the text. -/
theorem Span.Valid.mirror {t : Text} {span : Span} (h : Valid t span) :
    Valid t.reverse (span.mirror t.length) := by
  obtain ⟨front, run, back, rfl, rfl⟩ := h.exists_append
  rw [mirror_spanBehind, List.reverse_append, List.reverse_append, ← List.append_assoc]
  exact valid_spanBehind_iff.mpr (valid_spanBehind_iff.mp h).reverse

/-- **The direction of the scan does not matter.**  The tokens of a text that is read from its end
are at the places where its tokens are. -/
theorem mirror_mem_spans {t : Text} {span : Span} (h : span ∈ spans t) :
    span.mirror t.length ∈ spans t.reverse := by
  obtain ⟨hvalid, hmaximal⟩ := mem_spans_iff.mp h
  have hproper := hvalid.start_lt_stop
  have hinside := hvalid.stop_le_length
  refine mem_spans_iff.mpr ⟨hvalid.mirror, fun other hother hstart hstop => ?_⟩
  have hback := hother.mirror
  rw [List.reverse_reverse, List.length_reverse] at hback
  have hproper' := hother.start_lt_stop
  have hinside' := hother.stop_le_length
  rw [List.length_reverse] at hinside'
  have hsame := hmaximal _ hback
    (by simp only [Span.mirror] at hstart hstop ⊢; omega)
    (by simp only [Span.mirror] at hstart hstop ⊢; omega)
  rw [← hsame, Span.mirror_mirror (Nat.le_of_lt hproper') hinside']

/-! ## What stands at the ends of a token -/

/-- The characters of a run are word characters, except for the hyphens. -/
theorem isWordChar_eq_false_iff {c : Char} (h : isNameChar c = true ∨ c.isDigit = true) :
    isWordChar c = false ↔ c = '-' := by
  constructor
  · intro hnot
    rw [← Bool.not_eq_true] at hnot
    rcases h with hname | hdigit
    · rcases Bool.or_eq_true_iff.mp hname with hlower | hhyphen
      · exact absurd (isWordChar_of_isLower hlower) hnot
      · exact of_decide_eq_true hhyphen
    · exact absurd (isWordChar_of_isDigit hdigit) hnot
  · rintro rfl
    decide

/-- A capital, a digit or `_` is in no run of small letters and hyphens. -/
theorem isNameChar_eq_false {c : Char} (hword : isWordChar c = true) (hlower : c.isLower = false) :
    isNameChar c = false := by
  refine Bool.or_eq_false_iff.mpr ⟨hlower, decide_eq_false ?_⟩
  rintro rfl
  exact absurd hword (by decide)

/-- A run with a hyphen in it is a run of small letters and hyphens. -/
theorem isNameChar_of_mem_hyphen {t : Text}
    (h : (∀ c ∈ t, isNameChar c = true) ∨ ∀ c ∈ t, c.isDigit = true) (hmem : '-' ∈ t) :
    ∀ c ∈ t, isNameChar c = true :=
  h.resolve_right fun hdigits => absurd (hdigits '-' hmem) (by decide)

/-- **A run begins with a hyphen exactly when a letter, a digit or `_` stands right before it.** -/
theorem IsRun.head?_eq_hyphen_iff {front run back : Text} (h : IsRun front run back) :
    run.head? = some '-' ↔ front.getLast?.any isWordChar = true := by
  obtain ⟨c, rest, rfl⟩ := List.exists_cons_of_ne_nil h.ne_nil
  have hc : isNameChar c = true ∨ c.isDigit = true :=
    h.oneKind.imp (fun hall => hall c List.mem_cons_self) fun hall => hall c List.mem_cons_self
  have hstarts := h.starts
  simp only [isBoundary, List.head?_cons, Option.any_some, bne_iff_ne, ne_eq] at hstarts
  rw [List.head?_cons, Option.some.injEq, ← isWordChar_eq_false_iff hc]
  cases hbefore : front.getLast?.any isWordChar <;> cases hword : isWordChar c <;> simp_all

/-- A run ends with a hyphen exactly when a letter, a digit or `_` stands right behind it. -/
theorem IsRun.getLast?_eq_hyphen_iff {front run back : Text} (h : IsRun front run back) :
    run.getLast? = some '-' ↔ back.head?.any isWordChar = true := by
  simpa using h.reverse.head?_eq_hyphen_iff

/-- A span is clean when it has no hyphen at an end and is not glued to a letter, a digit or `_`. -/
structure Span.Clean (t : Text) (span : Span) : Prop where
  head : (span.text t).head? ≠ some '-'
  last : (span.text t).getLast? ≠ some '-'
  before : (t.take span.start).getLast?.any isWordChar = false
  behind : (t.drop span.stop).head?.any isWordChar = false

/-- For a valid span the two conditions on its neighbours are enough. -/
theorem Span.Valid.clean_iff {t : Text} {span : Span} (h : Valid t span) :
    span.Clean t ↔ (t.take span.start).getLast?.any isWordChar = false ∧
      (t.drop span.stop).head?.any isWordChar = false := by
  obtain ⟨front, run, back, rfl, rfl⟩ := h.exists_append
  have hrun := valid_spanBehind_iff.mp h
  refine ⟨fun hclean => ⟨hclean.before, hclean.behind⟩, fun ⟨hbefore, hbehind⟩ => ?_⟩
  refine ⟨fun hhead => ?_, fun hlast => ?_, hbefore, hbehind⟩
  · rw [text_spanBehind, hrun.head?_eq_hyphen_iff] at hhead
    rw [take_start_spanBehind, hhead] at hbefore
    contradiction
  · rw [text_spanBehind, hrun.getLast?_eq_hyphen_iff] at hlast
    rw [drop_stop_spanBehind, hlast] at hbehind
    contradiction

/-! ## Joints -/

/-- A joint: a capital, a digit or `_`, then small letters, then hyphens, then a letter, a digit or
`_`. -/
inductive IsJoint : Text → Prop
  | mk {stop word : Char} {letters hyphens : Text} (isWordChar_stop : isWordChar stop = true)
      (isLower_stop : stop.isLower = false) (letters_small : ∀ c ∈ letters, c.isLower = true)
      (hyphens_ne_nil : hyphens ≠ []) (hyphens_all : ∀ c ∈ hyphens, c = '-')
      (isWordChar_word : isWordChar word = true) :
      IsJoint (stop :: letters ++ hyphens ++ [word])

/-- Does the text have a joint, read from its start or from its end? -/
def HasJoint (t : Text) : Prop :=
  ∃ joint, IsJoint joint ∧ (joint <:+: t ∨ joint.reverse <:+: t)

/-- The last character of a text is of a kind when all of them are. -/
theorem any_getLast?_append {kind : Char → Bool} (front : Text) {t : Text} (hne : t ≠ [])
    (h : ∀ c ∈ t, kind c = true) : (front ++ t).getLast?.any kind = true := by
  rw [List.getLast?_append_of_ne_nil _ hne, List.getLast?_eq_some_getLast hne]
  exact h _ (List.getLast_mem hne)

/-- Behind a text stands the first character of what follows. -/
theorem getElem?_length_append (front back : Text) :
    (front ++ back)[front.length]? = back.head? := by
  rw [List.getElem?_append_right (Nat.le_refl _), Nat.sub_self, List.head?_eq_getElem?]

/-- A text ends in small letters, perhaps none, behind a character of another kind, if any. -/
theorem exists_append_letters (t : Text) :
    ∃ front letters, t = front ++ letters ∧ (∀ c ∈ letters, c.isLower = true) ∧
      ∀ c, front.getLast? = some c → c.isLower = false := by
  refine ⟨t.rdropWhile Char.isLower, t.rtakeWhile Char.isLower,
    List.rdropWhile_append_rtakeWhile.symm, fun c hc => List.mem_rtakeWhile_imp hc, ?_⟩
  intro c hc
  have hne : t.rdropWhile Char.isLower ≠ [] := by
    intro hnil
    rw [hnil] at hc
    contradiction
  rw [List.getLast?_eq_some_getLast hne, Option.some.injEq] at hc
  have hnot := List.rdropWhile_last_not Char.isLower t hne
  rw [hc] at hnot
  exact Bool.not_eq_true _ ▸ hnot

/-- If the small letters in front of a token of the first kind began at a word boundary, they would
be in the token. -/
theorem any_getLast?_of_letters {front letters run back : Text}
    (hmem : spanBehind (front ++ letters) run ∈ spans (front ++ letters ++ run ++ back))
    (hnames : ∀ c ∈ run, isNameChar c = true) (hletters : ∀ c ∈ letters, c.isLower = true)
    (hglued : (front ++ letters).getLast?.any isWordChar = true) :
    front.getLast?.any isWordChar = true := by
  obtain ⟨hvalid, hmaximal⟩ := mem_spans_iff.mp hmem
  have hrun := valid_spanBehind_iff.mp hvalid
  cases letters with
  | nil => simpa using hglued
  | cons c letters =>
      by_contra hloose
      have hc : isWordChar c = true := isWordChar_of_isLower (hletters c List.mem_cons_self)
      have hlonger : IsRun front (c :: letters ++ run) back := by
        refine ⟨List.cons_ne_nil _ _, .inl fun d hd => ?_, ?_, ?_⟩
        · rcases List.mem_append.mp hd with hletter | hrest
          · exact isNameChar_of_isLower (hletters d hletter)
          · exact hnames d hrest
        · simp [isBoundary, hc, Bool.eq_false_iff.mpr hloose]
        · rw [List.getLast?_append_of_ne_nil _ hrun.ne_nil]
          exact hrun.stops
      have hother := valid_spanBehind_iff.mpr hlonger
      rw [← List.append_assoc] at hother
      have hsame := hmaximal _ hother (by simp [spanBehind]) (by simp [spanBehind]; omega)
      have hstart := congrArg Span.start hsame
      simp [spanBehind] at hstart

/-- A run that begins with a hyphen begins with hyphens that a word character stands behind. -/
theorem IsRun.exists_hyphens {front run back : Text} (h : IsRun front run back)
    (hnames : ∀ c ∈ run, isNameChar c = true) (hhead : run.head? = some '-') :
    ∃ hyphens word rest, run ++ back = hyphens ++ word :: rest ∧ hyphens ≠ [] ∧
      (∀ c ∈ hyphens, c = '-') ∧ isWordChar word = true := by
  have hsplit := List.takeWhile_append_dropWhile (p := fun c => decide (c = '-')) (l := run)
  have hhyphens : ∀ c ∈ run.takeWhile fun c => decide (c = '-'), c = '-' := by
    intro c hc
    simpa using List.mem_takeWhile_imp hc
  have hne : (run.takeWhile fun c => decide (c = '-')) ≠ [] := by
    obtain ⟨rest, rfl⟩ := List.head?_eq_some_iff.mp hhead
    simp
  cases htail : run.dropWhile fun c => decide (c = '-') with
  | nil =>
      -- nothing but hyphens: a word character stands behind the run
      rw [htail, List.append_nil] at hsplit
      rw [hsplit] at hhyphens
      have hlast : run.getLast? = some '-' := by
        rw [List.getLast?_eq_some_getLast h.ne_nil, hhyphens _ (List.getLast_mem h.ne_nil)]
      obtain ⟨word, hword, hchar⟩ := (Option.any_eq_true _ _).mp (h.getLast?_eq_hyphen_iff.mp hlast)
      obtain ⟨rest, rfl⟩ := List.head?_eq_some_iff.mp hword
      exact ⟨run, word, rest, rfl, h.ne_nil, hhyphens, hchar⟩
  | cons word tail =>
      have hword : word ∈ run := by
        rw [← hsplit, htail]
        simp
      have hnot : ¬ word = '-' := by
        have := List.head?_dropWhile_not (fun c => decide (c = '-')) run
        rw [htail] at this
        simpa using this
      refine ⟨_, word, tail ++ back, ?_, hne, hhyphens, ?_⟩
      · rw [← List.cons_append, ← htail, ← List.append_assoc, hsplit]
      · by_contra hchar
        exact hnot ((isWordChar_eq_false_iff (.inl (hnames word hword))).mp
          (Bool.eq_false_iff.mpr hchar))

/-- A token that is glued to a word character before it begins with the hyphens of a joint. -/
theorem exists_joint_of_glued {t : Text} {span : Span} (hmem : span ∈ spans t)
    (hglued : (t.take span.start).getLast?.any isWordChar = true) :
    ∃ joint, IsJoint joint ∧ joint <:+: t := by
  obtain ⟨front, run, back, rfl, rfl⟩ := (mem_spans_iff.mp hmem).1.exists_append
  have hrun := valid_spanBehind_iff.mp (mem_spans_iff.mp hmem).1
  rw [take_start_spanBehind] at hglued
  have hhead := hrun.head?_eq_hyphen_iff.mpr hglued
  have hnames := isNameChar_of_mem_hyphen hrun.oneKind (List.mem_of_head? hhead)
  obtain ⟨before, letters, rfl, hletters, hbefore⟩ := exists_append_letters front
  obtain ⟨stop, hstop, hword⟩ :=
    (Option.any_eq_true _ _).mp (any_getLast?_of_letters hmem hnames hletters hglued)
  obtain ⟨head, rfl⟩ := List.getLast?_eq_some_iff.mp hstop
  obtain ⟨hyphens, word, rest, hsplit, hne, hhyphens, hchar⟩ := hrun.exists_hyphens hnames hhead
  refine ⟨stop :: letters ++ hyphens ++ [word],
    .mk hword (hbefore stop hstop) hletters hne hhyphens hchar, head, rest, ?_⟩
  rw [List.append_assoc _ run back, hsplit]
  simp

/-- The hyphens of a joint are a run. -/
theorem isRun_hyphens {front letters hyphens back : Text} {stop word : Char}
    (hwords : ∀ c ∈ stop :: letters, isWordChar c = true) (hne : hyphens ≠ [])
    (hhyphens : ∀ c ∈ hyphens, c = '-') (hword : isWordChar word = true) :
    IsRun (front ++ stop :: letters) hyphens (word :: back) := by
  have hlast : hyphens.getLast? = some '-' := by
    rw [List.getLast?_eq_some_getLast hne, hhyphens _ (List.getLast_mem hne)]
  have hhead : hyphens.head? = some '-' := by
    rw [List.head?_eq_some_head hne, hhyphens _ (List.head_mem hne)]
  refine ⟨hne, .inl fun c hc => ?_, ?_, ?_⟩
  · rw [hhyphens c hc]
    decide
  · rw [isBoundary, any_getLast?_append front (List.cons_ne_nil _ _) hwords, hhead]
    decide
  · rw [isBoundary, hlast, List.head?_cons, Option.any_some, Option.any_some, hword]
    decide

/-- A token with the hyphens of a joint in it begins behind the first character of the joint. -/
theorem length_lt_start {front letters hyphens back : Text} {stop : Char} {token : Span}
    (hstop : isNameChar stop = false) (hhead : hyphens.head? = some '-')
    (htoken : Valid (front ++ stop :: letters ++ hyphens ++ back) token)
    (hbehind : (front ++ stop :: letters).length < token.stop) : front.length < token.start := by
  simp only [List.length_append, List.length_cons] at hbehind
  by_contra hle
  have hstopMem : stop ∈ token.text (front ++ stop :: letters ++ hyphens ++ back) := by
    refine Span.mem_text_iff.mpr ⟨front.length, by omega, by omega, ?_⟩
    rw [List.append_assoc, List.append_assoc, getElem?_length_append, List.cons_append,
      List.head?_cons]
  have hhyphenMem : '-' ∈ token.text (front ++ stop :: letters ++ hyphens ++ back) := by
    refine Span.mem_text_iff.mpr ⟨(front ++ stop :: letters).length, ?_, ?_, ?_⟩
    · simp only [List.length_append, List.length_cons]
      omega
    · simp only [List.length_append, List.length_cons]
      omega
    · rw [List.append_assoc, getElem?_length_append, List.head?_append, hhead, Option.some_or]
  have hname := isNameChar_of_mem_hyphen htoken.oneKind hhyphenMem stop hstopMem
  rw [hstop] at hname
  contradiction

/-- The hyphens of a joint are in a token that begins at them, or in the letters before them. -/
theorem exists_glued_of_joint {t joint : Text} (hjoint : IsJoint joint) (hpiece : joint <:+: t) :
    ∃ span ∈ spans t, (t.take span.start).getLast?.any isWordChar = true := by
  obtain @⟨stop, word, letters, hyphens, hstop, hlower, hletters, hne, hhyphens, hword⟩ := hjoint
  obtain ⟨front, back, rfl⟩ := hpiece
  have hwords : ∀ c ∈ stop :: letters, isWordChar c = true :=
    List.forall_mem_cons.mpr ⟨hstop, fun c hc => isWordChar_of_isLower (hletters c hc)⟩
  have hhead : hyphens.head? = some '-' := by
    rw [List.head?_eq_some_head hne, hhyphens _ (List.head_mem hne)]
  have hrun : IsRun (front ++ stop :: letters) hyphens (word :: back) :=
    isRun_hyphens hwords hne hhyphens hword
  have htext : front ++ (stop :: letters ++ hyphens ++ [word]) ++ back =
      front ++ stop :: letters ++ hyphens ++ word :: back := by
    simp
  rw [htext]
  obtain ⟨token, hmem, htoken, hstart, hbehind⟩ := (valid_spanBehind_iff.mpr hrun).exists_token
  have hlength : 0 < hyphens.length := List.length_pos_iff.mpr hne
  simp only [spanBehind] at hstart hbehind
  have hinside := length_lt_start (isNameChar_eq_false hstop hlower) hhead htoken (by omega)
  obtain ⟨j, hj⟩ : ∃ j, token.start = front.length + (j + 1) :=
    ⟨token.start - front.length - 1, by omega⟩
  have htake : (front ++ stop :: letters ++ hyphens ++ word :: back).take token.start =
      front ++ (stop :: letters).take (j + 1) := by
    simp only [List.length_append, List.length_cons] at hstart
    rw [hj, List.append_assoc, List.append_assoc, List.take_length_add_append,
      List.take_append_of_le_length (by simp only [List.length_cons]; omega)]
  refine ⟨token, hmem, ?_⟩
  rw [htake]
  exact any_getLast?_append front (List.cons_ne_nil _ _) fun c hc =>
    hwords c (List.take_subset (j + 1) (stop :: letters) hc)

/-- Some token is glued to a word character before it exactly when there is a joint. -/
theorem exists_glued_iff (t : Text) :
    (∃ span ∈ spans t, (t.take span.start).getLast?.any isWordChar = true) ↔
      ∃ joint, IsJoint joint ∧ joint <:+: t :=
  ⟨fun ⟨_, hmem, hglued⟩ => exists_joint_of_glued hmem hglued,
    fun ⟨_, hjoint, hpiece⟩ => exists_glued_of_joint hjoint hpiece⟩

/-- What stands before a token of a text that is read from its end stands behind it in the text. -/
theorem getLast?_take_mirror {t : Text} {span : Span} (h : Valid t span) :
    (t.reverse.take (span.mirror t.length).start).getLast? = (t.drop span.stop).head? := by
  obtain ⟨front, run, back, rfl, rfl⟩ := h.exists_append
  rw [Span.mirror_spanBehind, List.reverse_append, List.reverse_append, ← List.append_assoc,
    take_start_spanBehind, drop_stop_spanBehind, List.getLast?_reverse]

/-- Some token is glued to a word character behind it exactly when there is a joint from right to
left, by reading the text from its end. -/
theorem exists_glued_behind_iff (t : Text) :
    (∃ span ∈ spans t, (t.drop span.stop).head?.any isWordChar = true) ↔
      ∃ joint, IsJoint joint ∧ joint.reverse <:+: t := by
  have hmirror : (∃ span ∈ spans t, (t.drop span.stop).head?.any isWordChar = true) ↔
      ∃ span ∈ spans t.reverse, (t.reverse.take span.start).getLast?.any isWordChar = true := by
    constructor
    · rintro ⟨span, hmem, hglued⟩
      refine ⟨_, mirror_mem_spans hmem, ?_⟩
      rwa [getLast?_take_mirror (mem_spans_iff.mp hmem).1]
    · rintro ⟨span, hmem, hglued⟩
      have hvalid := (mem_spans_iff.mp hmem).1
      have hback := mirror_mem_spans hmem
      rw [List.reverse_reverse, List.length_reverse] at hback
      have hinside := hvalid.stop_le_length
      rw [List.length_reverse] at hinside
      refine ⟨_, hback, ?_⟩
      rwa [← getLast?_take_mirror (mem_spans_iff.mp hback).1,
        Span.mirror_mirror (Nat.le_of_lt hvalid.start_lt_stop) hinside]
  have hpiece : ∀ joint, joint <:+: t.reverse ↔ joint.reverse <:+: t := by
    intro joint
    rw [← List.reverse_infix, List.reverse_reverse]
  rw [hmirror, exists_glued_iff]
  simp only [hpiece]

/-- **When tokens are clean.**  The tokens of a text neither begin nor end with a hyphen, and no
letter, digit or `_` stands right before or behind one of them, exactly when the text has no joint:
no capital, digit or `_` that small letters, if any, hyphens and another letter, digit or `_` follow
from left to right or from right to left. -/
theorem clean_iff_not_hasJoint (t : Text) :
    tokens t = (spans t).map (Span.text t) ∧
      ((∀ span ∈ spans t, span.Clean t) ↔ ¬ HasJoint t) := by
  refine ⟨tokens_eq t, ?_, ?_⟩
  · rintro hclean ⟨joint, hjoint, hforward | hbackward⟩
    · obtain ⟨span, hmem, hglued⟩ := (exists_glued_iff t).mpr ⟨joint, hjoint, hforward⟩
      rw [(hclean span hmem).before] at hglued
      contradiction
    · obtain ⟨span, hmem, hglued⟩ := (exists_glued_behind_iff t).mpr ⟨joint, hjoint, hbackward⟩
      rw [(hclean span hmem).behind] at hglued
      contradiction
  · intro hnone span hmem
    refine (mem_spans_iff.mp hmem).1.clean_iff.mpr
      ⟨Bool.eq_false_iff.mpr fun hglued => ?_, Bool.eq_false_iff.mpr fun hglued => ?_⟩
    · obtain ⟨joint, hjoint, hforward⟩ := (exists_glued_iff t).mp ⟨span, hmem, hglued⟩
      exact hnone ⟨joint, hjoint, .inl hforward⟩
    · obtain ⟨joint, hjoint, hbackward⟩ := (exists_glued_behind_iff t).mp ⟨span, hmem, hglued⟩
      exact hnone ⟨joint, hjoint, .inr hbackward⟩

/-- In `A--B` the two hyphens between the capitals are a token, although each capital is glued to
it. -/
theorem hyphens_between_capitals :
    tokens "A--B" = [Text.ofString "--"] ∧ ¬ ∀ span ∈ spans "A--B", span.Clean "A--B" := by
  refine ⟨by decide, fun hclean => ?_⟩
  have hmem : ⟨1, 3⟩ ∈ spans "A--B" := by decide
  exact (hclean _ hmem).head (by decide)

end TypedStyle.Grammar
