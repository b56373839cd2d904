import Mathlib.Data.List.Forall2
import Mathlib.Data.List.Nodup
import Mathlib.Data.List.TakeWhile
import TypedStyle.CommandLine
import TypedStyle.Proofs.Text.Splitting
/-!
# Spellings of options

A command line spells options.  An option has the name of a flag, and a value if the flag takes one.
It is spelled by a call of the flag with the value behind it: in the next argument, or in the same
one behind an equals sign.  The dash that a call may lack is added to calls only, never to a value.

* `isCall_withDashes` — a call is read as the word of its flag, whichever call it is;
* `exists_readAll_option` — the arguments of an option lead to a reading with that option more;
* `exists_parse_eq` — a command line gives the options that it spells.
-/

namespace TypedStyle.CommandLine

/-! ## Calls of a flag -/

/-- How a flag may be called: by its name behind two dashes or one, or by its letter. -/
def Flag.calls (flag : Flag) : List Text :=
  ('-' :: '-' :: flag.name) :: (if flag.oneDash then ['-' :: flag.name] else [])
    ++ (flag.letter.map fun c => ['-', c]).toList

/-- Is the flag found by the letter, and is the letter neither a mark nor a name? -/
def isLetterOf (flags : List Flag) (flag : Flag) (c : Char) : Bool :=
  c ≠ '-' && c ≠ '=' && flags.find? (fun other => other.letter = some c) = some flag &&
    flags.all fun other => other.name ≠ [c]

/-- The flag is found by its name and by its letter, and neither its name nor its letter is mistaken
for something else. -/
structure IsKnown (flags : List Flag) (flag : Flag) : Prop where
  found : flags.find? (fun other => other.name = flag.name) = some flag
  name_ne_nil : flag.name ≠ []
  no_dash : flag.name.head? ≠ some '-'
  no_equals : '=' ∉ flag.name
  letter : flag.letter.all (isLetterOf flags flag) = true

instance (flags : List Flag) (flag : Flag) : Decidable (IsKnown flags flag) :=
  decidable_of_iff
    (flags.find? (fun other => other.name = flag.name) = some flag ∧ flag.name ≠ [] ∧
      flag.name.head? ≠ some '-' ∧ '=' ∉ flag.name ∧
      flag.letter.all (isLetterOf flags flag) = true)
    ⟨fun h => ⟨h.1, h.2.1, h.2.2.1, h.2.2.2.1, h.2.2.2.2⟩,
      fun h => ⟨h.found, h.name_ne_nil, h.no_dash, h.no_equals, h.letter⟩⟩

/-- The word that a call of the flag is, alone or with a value in the same argument. -/
def Flag.word (flag : Flag) : Option Text → Word
  | none => if flag.takesValue then .awaiting flag else .plain flag
  | some value => .valued flag value

/-- A value in the same argument, if there is one. -/
def assigned : Option Text → Text
  | none => []
  | some value => '=' :: value

section Calls

variable {flags : List Flag} {flag : Flag} {value : Option Text}

/-- A name without an equals sign ends where its value is assigned. -/
theorem takeWhile_assigned {name : Text} (h : '=' ∉ name) (value : Option Text) :
    (name ++ assigned value).takeWhile (· ≠ '=') = name ∧
      (name ++ assigned value).dropWhile (· ≠ '=') = assigned value := by
  cases value with
  | none =>
    have hall := Text.forall_ne_of_notMem h
    simp only [assigned, List.append_nil]
    exact ⟨List.takeWhile_eq_self_iff.mpr hall, List.dropWhile_eq_nil_iff.mpr hall⟩
  | some value => exact ⟨Text.takeWhile_ne_append h value, Text.dropWhile_ne_append h value⟩

/-- The name of a flag, with or without a value behind it, is the word for the flag. -/
theorem nameWord_assigned (h : IsKnown flags flag)
    (hvalue : value.isSome = true → flag.takesValue = true) :
    nameWord flags (flag.name ++ assigned value) = flag.word value := by
  obtain ⟨htake, hdrop⟩ := takeWhile_assigned h.no_equals value
  rw [nameWord, htake, hdrop, h.found]
  cases value with
  | none => rfl
  | some value =>
    simp only [assigned, Flag.word]
    rw [if_pos (hvalue rfl)]

/-- So is its letter. -/
theorem letterWords_assigned {c : Char}
    (hfound : flags.find? (fun other => other.letter = some c) = some flag)
    (hvalue : value.isSome = true → flag.takesValue = true) :
    letterWords flags (c :: assigned value) = [flag.word value] := by
  rw [letterWords, hfound]
  cases value with
  | none =>
    simp only [assigned, Flag.word, letterWords]
    split <;> rfl
  | some value =>
    have htakes := hvalue rfl
    simp only [assigned, Flag.word]
    rw [if_pos htakes]
    rfl

/-- What a call with or without a value becomes when its second dash is added: the word of the flag,
and nothing else. -/
structure IsCall (flags : List Flag) (word : Word) (arg : Text) : Prop where
  words_eq : words flags arg = [word]
  not_value : isValue arg = false
  not_dashes : arg ≠ "--"

/-- **Two dashes and its name call a flag**, with its value behind an equals sign if it takes
one. -/
theorem isCall_twoDashes (h : IsKnown flags flag)
    (hvalue : value.isSome = true → flag.takesValue = true) :
    IsCall flags (flag.word value) ('-' :: '-' :: (flag.name ++ assigned value)) where
  words_eq := congrArg (fun word => [word]) (nameWord_assigned h hvalue)
  not_value := by simp [isValue, Text.ofString]
  not_dashes := by simp [Text.ofString, h.name_ne_nil]

/-- An argument with one dash gets another one if it begins with a name that may lack it. -/
theorem withDashes_of_one {body : Text} (h : body.head? ≠ some '-') :
    withDashes flags ('-' :: body) =
      if flags.any (fun other => other.oneDash && other.name = body.takeWhile (· ≠ '=')) then
        '-' :: '-' :: body
      else '-' :: body := by
  unfold withDashes
  split
  · next heq => simp [(List.cons.inj heq).2] at h
  · next heq => rw [(List.cons.inj heq).2]
  · next hother => exact absurd rfl (hother body)

/-- An argument with one dash stays as it is if it begins with no name. -/
theorem withDashes_of_no_name {body : Text} (h : body.head? ≠ some '-')
    (hnone : ∀ other ∈ flags, other.name ≠ body.takeWhile (· ≠ '=')) :
    withDashes flags ('-' :: body) = '-' :: body := by
  refine (withDashes_of_one h).trans (if_neg fun hany => ?_)
  obtain ⟨other, hother, heq⟩ := List.any_eq_true.mp hany
  exact hnone other hother (of_decide_eq_true (Bool.and_eq_true_iff.mp heq).2)

/-- Behind one dash stand letters. -/
theorem words_of_letter {c : Char} (h : c ≠ '-') (rest : Text) :
    words flags ('-' :: c :: rest) = letterWords flags (c :: rest) := by
  unfold words
  split
  · next heq => exact absurd (List.cons.inj (List.cons.inj heq).2).1 h
  · next heq => rw [(List.cons.inj heq).2]
  · next heq => contradiction

/-- A letter behind one dash is the word of its flag. -/
theorem isCall_letter (h : IsKnown flags flag) {c : Char} (hc : flag.letter = some c)
    (hvalue : value.isSome = true → flag.takesValue = true) :
    IsCall flags (flag.word value) (withDashes flags ('-' :: ([c] ++ assigned value))) := by
  have hknown := h.letter
  simp only [hc, Option.all_some, isLetterOf, Bool.and_eq_true, decide_eq_true_eq,
    List.all_eq_true, and_assoc] at hknown
  obtain ⟨hdash, hequals, hfound, hnoName⟩ := hknown
  have hname : ([c] ++ assigned value).takeWhile (· ≠ '=') = [c] :=
    (takeWhile_assigned (by simpa using Ne.symm hequals) value).1
  have hlone : withDashes flags ('-' :: ([c] ++ assigned value)) = '-' :: c :: assigned value :=
    withDashes_of_no_name (by simpa using hdash) (by rwa [hname])
  rw [hlone]
  exact ⟨(words_of_letter hdash _).trans (letterWords_assigned hfound hvalue),
    by simp [isValue, Text.ofString], by simp [Text.ofString, hdash]⟩

/-- **A call is the word of its flag**, by name or by letter and with any number of dashes. -/
theorem isCall_withDashes (hmem : flag ∈ flags) (h : IsKnown flags flag) {call : Text}
    (hcall : call ∈ flag.calls) (value : Option Text)
    (hvalue : value.isSome = true → flag.takesValue = true) :
    IsCall flags (flag.word value) (withDashes flags (call ++ assigned value)) := by
  rw [Flag.calls, List.cons_append, List.mem_cons, List.mem_append] at hcall
  rcases hcall with rfl | hone | hletter
  · exact isCall_twoDashes h hvalue
  · obtain ⟨honeDash, rfl⟩ : flag.oneDash = true ∧ call = '-' :: flag.name := by
      simpa using hone
    have hnoDash : (flag.name ++ assigned value).head? ≠ some '-' := by
      rw [List.head?_append_of_ne_nil _ h.name_ne_nil]
      exact h.no_dash
    have hany : flags.any (fun other => other.oneDash &&
        other.name = (flag.name ++ assigned value).takeWhile (· ≠ '=')) = true := by
      rw [(takeWhile_assigned h.no_equals value).1]
      exact List.any_eq_true.mpr ⟨flag, hmem, by simp [honeDash]⟩
    rw [List.cons_append, withDashes_of_one hnoDash, if_pos hany]
    exact isCall_twoDashes h hvalue
  · obtain ⟨c, hc, rfl⟩ : ∃ c, flag.letter = some c ∧ ['-', c] = call := by
      simpa using hletter
    exact isCall_letter h hc hvalue

/-- No dash is added to a value. -/
theorem withDashes_value (hnames : ∀ flag ∈ flags, flag.name ≠ []) {arg : Text}
    (h : arg.head? ≠ some '-' ∨ arg = "-") : withDashes flags arg = arg := by
  rcases h with hplain | rfl
  · unfold withDashes
    split
    · rfl
    · simp at hplain
    · rfl
  · exact withDashes_of_no_name (by decide) hnames

end Calls

/-! ## Spelled options -/

/-- An option that is chosen: the name of its flag, and its value if it takes one. -/
abbrev Choice := Text × Option Text

/-- What is accepted for the option. -/
def Choice.entry (choice : Choice) : Text × Text :=
  (choice.1, choice.2.getD [])

/-- The arguments that an option may be spelled with, where `calls` are the calls for a name. -/
inductive Spells (calls : Text → List Text) : Choice → List Text → Prop
  | alone {name call : Text} (hcall : call ∈ calls name) : Spells calls (name, none) [call]
  | apart {name call value : Text} (hcall : call ∈ calls name)
      (hvalue : value.head? ≠ some '-' ∨ value = "-") :
      Spells calls (name, some value) [call, value]
  | joined {name call value : Text} (hcall : call ∈ calls name) :
      Spells calls (name, some value) [call ++ '=' :: value]

/-- The command line spells the options, one after the other in any order. -/
def SpellsAll (calls : Text → List Text) (choices : List Choice) (line : List Text) : Prop :=
  ∃ ordered pieces, ordered.Perm choices ∧ List.Forall₂ (Spells calls) ordered pieces ∧
    line = pieces.flatten

/-- The option is one that this flag is for. -/
structure IsOption (flags : List Flag) (calls : Text → List Text) (choice : Choice) (flag : Flag) :
    Prop where
  mem : flag ∈ flags
  name_eq : flag.name = choice.1
  takesValue_eq : flag.takesValue = choice.2.isSome
  switch : choice.2 = none → flag.kind = .switch
  path_ne_nil : flag.kind = .path → choice.2 ≠ some []
  calls : ∀ call ∈ calls choice.1, call ∈ flag.calls

/-- What is given by two parts is given by one of them. -/
theorem has_append (a b : Given) (name : Text) :
    Given.has (a ++ b) name = (a.has name || b.has name) :=
  List.any_append

section Options

variable {flags : List Flag} {calls : Text → List Text} {choice : Choice} {flag : Flag}
  {reading : Reading} {given : Given}

/-- **An option that is new is recorded** behind those that are given already. -/
theorem IsOption.record_eq (h : IsOption flags calls choice flag)
    (hnew : given.has choice.1 = false) :
    record given flag (choice.2.getD []) = .ok (given ++ [choice.entry]) := by
  refine record_eq_ok_iff.mpr ⟨h.name_eq ▸ hnew, ?_, by rw [h.name_eq, Choice.entry]⟩
  rintro ⟨hpath, hempty⟩
  cases hvalue : choice.2 with
  | none => exact absurd (h.switch hvalue) (by simp [hpath])
  | some value =>
    rw [hvalue] at hempty
    exact h.path_ne_nil hpath (by rw [hvalue]; exact congrArg some hempty)

/-- A switch by itself is recorded without a value. -/
theorem recordPlain_of_switch (h : flag.kind = .switch) :
    recordPlain given flag = record given flag [] := by
  rw [recordPlain, h]

/-- A call is read in one step. -/
theorem readAll_call {word : Word} {arg : Text} (h : IsCall flags word arg) {next : Reading}
    (hstep : reading.step word = .ok next) (rest : List Text) :
    readAll flags reading (arg :: rest) = readAll flags next rest := by
  rw [readAll, if_neg h.not_dashes, Reading.read, if_neg (by simp [h.not_value]), h.words_eq]
  simp [bind, Except.bind, hstep, pure, Except.pure]

/-- A value is read in one step, if a flag waits for it. -/
theorem readAll_value {value : Text} (hvalue : value.head? ≠ some '-' ∨ value = "-")
    (rest : List Text) :
    readAll flags ⟨given, some (flag, none)⟩ (value :: rest) =
      readAll flags ⟨given, some (flag, some value)⟩ rest := by
  have hdashes : value ≠ "--" := by
    rintro rfl
    exact absurd hvalue (by decide)
  have hisValue : isValue value = true := by
    simpa [isValue] using hvalue
  rw [readAll, if_neg hdashes, Reading.read, if_pos hisValue]
  rfl

/-- A flag without a value is recorded at once. -/
theorem step_plain (hsettle : reading.settle = .ok given) {after : Given}
    (hrecord : recordPlain given flag = .ok after) :
    reading.step (.plain flag) = .ok ⟨after, none⟩ := by
  simp [Reading.step, bind, Except.bind, hsettle, hrecord]

/-- So is a flag with its value. -/
theorem step_valued (hsettle : reading.settle = .ok given) {after : Given} {value : Text}
    (hrecord : record given flag value = .ok after) :
    reading.step (.valued flag value) = .ok ⟨after, none⟩ := by
  simp [Reading.step, bind, Except.bind, hsettle, hrecord]

/-- A flag that awaits its value is kept in mind for the next word. -/
theorem step_awaiting (hsettle : reading.settle = .ok given) :
    reading.step (.awaiting flag) = .ok ⟨given, some (flag, none)⟩ := by
  simp [Reading.step, bind, Except.bind, hsettle]

/-- **The arguments of an option lead to a reading with that option more**, whatever stands behind
them.  A value that is an argument of its own still waits to be accepted. -/
theorem exists_readAll_option (hflags : ∀ flag ∈ flags, IsKnown flags flag)
    (h : IsOption flags calls choice flag) {args : List Text} (hspells : Spells calls choice args)
    (hsettle : reading.settle = .ok given) (hnew : given.has choice.1 = false) :
    ∃ next : Reading, next.settle = .ok (given ++ [choice.entry]) ∧
      ∀ rest, readAll flags reading (args.map (withDashes flags) ++ rest) =
        readAll flags next rest := by
  have hknown := hflags flag h.mem
  have hrecord := h.record_eq hnew
  have htakes := h.takesValue_eq
  cases hspells with
  | @alone name call hcall =>
    have hread := isCall_withDashes h.mem hknown (h.calls call hcall) none nofun
    rw [Flag.word, if_neg (by simp [htakes]), assigned, List.append_nil] at hread
    have hplain := (recordPlain_of_switch (h.switch rfl)).trans hrecord
    exact ⟨_, rfl, readAll_call hread (step_plain hsettle hplain)⟩
  | @apart name call value hcall hvalue =>
    have hread := isCall_withDashes h.mem hknown (h.calls call hcall) none nofun
    have htrue : flag.takesValue = true := htakes
    rw [Flag.word, if_pos htrue, assigned, List.append_nil] at hread
    have hnames : ∀ flag ∈ flags, flag.name ≠ [] := fun flag hmem => (hflags flag hmem).name_ne_nil
    refine ⟨⟨given, some (flag, some value)⟩, hrecord, fun rest => ?_⟩
    rw [List.map_cons, List.map_singleton, withDashes_value hnames hvalue]
    exact (readAll_call hread (step_awaiting hsettle) _).trans (readAll_value hvalue rest)
  | @joined name call value hcall =>
    have hread :=
      isCall_withDashes h.mem hknown (h.calls call hcall) (some value) fun _ => htakes
    exact ⟨_, rfl, readAll_call hread (step_valued hsettle hrecord)⟩

/-- **Spelled options are read one after the other.**  By induction on the options, with any reading
that they are read from. -/
theorem readAll_spelled (hflags : ∀ flag ∈ flags, IsKnown flags flag) {choices : List Choice}
    {pieces : List (List Text)} (hspells : List.Forall₂ (Spells calls) choices pieces)
    (hoptions : ∀ choice ∈ choices, ∃ flag, IsOption flags calls choice flag)
    (hnodup : (choices.map Prod.fst).Nodup) (hsettle : reading.settle = .ok given)
    (hnew : ∀ choice ∈ choices, given.has choice.1 = false) :
    readAll flags reading (pieces.flatten.map (withDashes flags)) =
      .ok (given ++ choices.map Choice.entry) := by
  induction hspells generalizing reading given with
  | nil =>
    rw [List.flatten_nil, List.map_nil, readAll, hsettle, List.map_nil, List.append_nil]
  | @cons choice args choices pieces hfirst _ ih =>
    obtain ⟨⟨flag, hoption⟩, hoptions⟩ := List.forall_mem_cons.mp hoptions
    obtain ⟨hfirstNew, hnew⟩ := List.forall_mem_cons.mp hnew
    obtain ⟨hnot, hnodup⟩ := List.nodup_cons.mp hnodup
    obtain ⟨next, hnext, hread⟩ := exists_readAll_option hflags hoption hfirst hsettle hfirstNew
    have hstillNew : ∀ other ∈ choices, (given ++ [choice.entry]).has other.1 = false := by
      intro other hother
      have hne : choice.1 ≠ other.1 := fun heq => hnot (heq ▸ List.mem_map_of_mem hother)
      rw [has_append, hnew other hother]
      simp [Given.has, Choice.entry, hne]
    rw [List.flatten_cons, List.map_append, hread, ih hoptions hnodup hnext hstillNew,
      List.map_cons, List.append_assoc, List.singleton_append]

/-- A command line is read as the options that it spells, in their order. -/
theorem parse_flatten (hflags : ∀ flag ∈ flags, IsKnown flags flag) {choices : List Choice}
    {pieces : List (List Text)} (hspells : List.Forall₂ (Spells calls) choices pieces)
    (hoptions : ∀ choice ∈ choices, ∃ flag, IsOption flags calls choice flag)
    (hnodup : (choices.map Prod.fst).Nodup)
    (hrequired : ∀ flag ∈ flags, flag.required = true → flag.name ∈ choices.map Prod.fst)
    (program : Text) :
    parse flags (program :: pieces.flatten) = .ok (choices.map Choice.entry) := by
  have hread : readAll flags ⟨[], none⟩ (pieces.flatten.map (withDashes flags)) =
      .ok ([] ++ choices.map Choice.entry) :=
    readAll_spelled hflags hspells hoptions hnodup rfl fun _ _ => rfl
  have hgiven : (flags.all fun flag =>
      !flag.required || Given.has (choices.map Choice.entry) flag.name) = true := by
    refine List.all_eq_true.mpr fun flag hmem => ?_
    cases hflag : flag.required with
    | false => rfl
    | true =>
      obtain ⟨choice, hchoice, hname⟩ := List.mem_map.mp (hrequired flag hmem hflag)
      exact List.any_eq_true.mpr ⟨Choice.entry choice, List.mem_map_of_mem hchoice,
        decide_eq_true hname⟩
  rw [parse, List.drop_one, List.tail_cons, hread]
  simp [bind, Except.bind, hgiven]

end Options

/-! ## Given flags in any order -/

section Given

variable {a b : Given} {name value : Text}

/-- A name is given exactly when a value is found for it. -/
theorem has_eq_isSome (given : Given) (name : Text) :
    given.has name = (given.value? name).isSome := by
  rw [Given.has, Given.value?, Option.isSome_map, List.isSome_find?]

/-- Where each name occurs once, a value is found exactly where it stands. -/
theorem value?_eq_some_iff (h : (a.map Prod.fst).Nodup) :
    a.value? name = some value ↔ (name, value) ∈ a := by
  induction a with
  | nil => simp [Given.value?]
  | cons entry rest ih =>
    obtain ⟨hnot, hrest⟩ := List.nodup_cons.mp h
    by_cases hname : entry.1 = name
    · have hother : (name, value) ∉ rest := fun hmem =>
        hnot (hname ▸ List.mem_map_of_mem (f := Prod.fst) hmem)
      simp [Given.value?, hname, hother, Prod.ext_iff, eq_comm]
    · have hne : (name, value) ≠ entry := fun heq => hname (heq ▸ rfl)
      rw [List.mem_cons, or_iff_right hne, ← ih hrest]
      simp [Given.value?, hname]

/-- The order of flags of different names does not matter. -/
theorem value?_of_perm (hperm : a.Perm b) (h : (a.map Prod.fst).Nodup) (name : Text) :
    a.value? name = b.value? name := by
  have hb : (b.map Prod.fst).Nodup := (hperm.map Prod.fst).nodup_iff.mp h
  exact Option.ext fun value => by
    rw [value?_eq_some_iff h, value?_eq_some_iff hb, hperm.mem_iff]

end Given

/-- **A command line gives the options that it spells**, in whatever order and however it spells
them. -/
theorem exists_parse_eq {flags : List Flag} {calls : Text → List Text}
    (hflags : ∀ flag ∈ flags, IsKnown flags flag) {choices : List Choice} {line : List Text}
    (hspells : SpellsAll calls choices line)
    (hoptions : ∀ choice ∈ choices, ∃ flag, IsOption flags calls choice flag)
    (hnodup : (choices.map Prod.fst).Nodup)
    (hrequired : ∀ flag ∈ flags, flag.required = true → flag.name ∈ choices.map Prod.fst)
    (program : Text) :
    ∃ given, parse flags (program :: line) = .ok given ∧
      ∀ name, given.value? name = Given.value? (choices.map Choice.entry) name := by
  obtain ⟨ordered, pieces, hperm, hpieces, rfl⟩ := hspells
  have hnames := hperm.map Prod.fst
  have hentries : ((ordered.map Choice.entry).map Prod.fst).Nodup := by
    rw [List.map_map]
    exact hnames.nodup_iff.mpr hnodup
  have hparse := parse_flatten hflags hpieces
    (fun choice hmem => hoptions choice (hperm.mem_iff.mp hmem)) (hnames.nodup_iff.mpr hnodup)
    (fun flag hmem hflag => hnames.mem_iff.mpr (hrequired flag hmem hflag)) program
  exact ⟨_, hparse, value?_of_perm (hperm.map Choice.entry) hentries⟩

end TypedStyle.CommandLine
