import TypedStyle.Proofs.CommandLine.Spellings
import TypedStyle.Tool.Arguments
/-!
# Arguments are read back from every spelling

What a tool is asked to do can be spelled on a command line in many ways: the options come in any
order, and each has its own spelling.  All of them are read as the same arguments.

* `arguments_read_back` — for both tools, all spellings of the arguments are read as these.
-/

namespace TypedStyle

namespace CommandLine

/-! ## Options that may be left out -/

/-- An option with a value, if there is one. -/
def valued (name : Text) (value : Option Text) : List Choice :=
  (value.map fun value => (name, some value)).toList

/-- An option without a value, if it is turned on. -/
def turned (name : Text) (on : Bool) : List Choice :=
  if on then [(name, none)] else []

variable {flags : List Flag} {calls : Text → List Text} {name other : Text}

/-- An option with a value is called by its name, if it is given at all. -/
theorem names_valued (name : Text) (value : Option Text) :
    ((valued name value).map Prod.fst).Sublist [name] := by
  cases value <;> simp [valued]

/-- So is a switch. -/
theorem names_turned (name : Text) (on : Bool) :
    ((turned name on).map Prod.fst).Sublist [name] := by
  cases on <;> simp [turned]

/-- A value is looked up in the first part and then in the second one. -/
theorem value?_append (a b : Given) (name : Text) :
    Given.value? (a ++ b) name = (a.value? name).or (b.value? name) := by
  simp [Given.value?, Option.map_or]

/-- An option with a value gives its own name this value, and nothing to any other. -/
theorem value?_valued (name : Text) (value : Option Text) (other : Text) :
    Given.value? ((valued name value).map Choice.entry) other =
      if name = other then value else none := by
  cases value with
  | none => simp [valued, Given.value?]
  | some value =>
    by_cases hname : name = other <;> simp [valued, Given.value?, Choice.entry, hname]

/-- A switch gives no value to another name. -/
theorem value?_turned (h : name ≠ other) (on : Bool) :
    Given.value? ((turned name on).map Choice.entry) other = none := by
  cases on <;> simp [turned, Given.value?, Choice.entry, h]

/-- An option with a value turns on no other name. -/
theorem has_valued (h : name ≠ other) (value : Option Text) :
    Given.has ((valued name value).map Choice.entry) other = false := by
  cases value <;> simp [valued, Given.has, Choice.entry, h]

/-- A switch turns on its own name if it is on, and no other. -/
theorem has_turned (name : Text) (on : Bool) (other : Text) :
    Given.has ((turned name on).map Choice.entry) other = (on && decide (name = other)) := by
  cases on <;> simp [turned, Given.has, Choice.entry]

/-- The tool knows a flag of this name and kind, and all these calls of it. -/
def Offers (flags : List Flag) (calls : Text → List Text) (name : Text) (kind : FlagKind) : Prop :=
  ∃ flag ∈ flags, flag.name = name ∧ flag.kind = kind ∧ ∀ call ∈ calls name, call ∈ flag.calls

instance (kind : FlagKind) : Decidable (Offers flags calls name kind) :=
  inferInstanceAs (Decidable (∃ flag ∈ flags,
    flag.name = name ∧ flag.kind = kind ∧ ∀ call ∈ calls name, call ∈ flag.calls))

/-- A path is an option of its flag unless it is empty. -/
theorem isOption_path (h : Offers flags calls name .path) {value : Option Text}
    (hvalue : value ≠ some []) :
    ∀ choice ∈ valued name value, ∃ flag, IsOption flags calls choice flag := by
  intro choice hmem
  obtain ⟨path, rfl, rfl⟩ : ∃ path, value = some path ∧ (name, some path) = choice := by
    simpa [valued] using hmem
  obtain ⟨flag, hflag, hname, hkind, hcalls⟩ := h
  exact ⟨flag, hflag, hname, by simp [Flag.takesValue, hkind], nofun, fun _ => hvalue, hcalls⟩

/-- So is any text, if the flag takes one. -/
theorem isOption_text (h : Offers flags calls name .text) (value : Option Text) :
    ∀ choice ∈ valued name value, ∃ flag, IsOption flags calls choice flag := by
  intro choice hmem
  obtain ⟨t, rfl, rfl⟩ : ∃ t, value = some t ∧ (name, some t) = choice := by
    simpa [valued] using hmem
  obtain ⟨flag, hflag, hname, hkind, hcalls⟩ := h
  exact ⟨flag, hflag, hname, by simp [Flag.takesValue, hkind], nofun, by simp [hkind], hcalls⟩

/-- So is a switch. -/
theorem isOption_switch (h : Offers flags calls name .switch) (on : Bool) :
    ∀ choice ∈ turned name on, ∃ flag, IsOption flags calls choice flag := by
  intro choice hmem
  obtain ⟨-, rfl⟩ : on = true ∧ choice = (name, none) := by simpa [turned] using hmem
  obtain ⟨flag, hflag, hname, hkind, hcalls⟩ := h
  exact ⟨flag, hflag, hname, by simp [Flag.takesValue, hkind], fun _ => hkind, nofun, hcalls⟩

end CommandLine

open CommandLine

/-! ## The generator -/

namespace GenerateArguments

variable {args : GenerateArguments}

/-- The options that ask for this. -/
def choices (args : GenerateArguments) : List Choice :=
  valued "in" (some args.input) ++ valued "out" args.out ++ valued "pkg" args.module
    ++ turned "strict" args.strict ++ turned "allow-experimental" args.allowExperimental
    ++ valued "config" args.settings ++ turned "verbose" args.verbose

/-- The calls of the generator's flags. -/
def calls (name : Text) : List Text :=
  if name = "verbose" then ["-v", "--verbose"]
  else if name = "config" then ["-config", "--config", "-c"]
  else ["-" ++ name, "--" ++ name]

/-- The arguments depend on what is found under their names alone. -/
theorem ofGiven_congr {a b : Given} (h : ∀ name, a.value? name = b.value? name) :
    ofGiven a = ofGiven b := by
  simp only [ofGiven, has_eq_isSome, h]

/-- **The arguments are read back from their options.** -/
theorem ofGiven_choices (args : GenerateArguments) :
    ofGiven (args.choices.map Choice.entry) = args := by
  simp +decide [ofGiven, choices, has_append, has_valued,
    has_turned, value?_append, value?_valued,
    value?_turned]

/-- No option occurs twice among them. -/
theorem nodup_choices (args : GenerateArguments) : (args.choices.map Prod.fst).Nodup := by
  have hsublist := ((((((names_valued "in" (some args.input)).append
    (names_valued "out" args.out)).append (names_valued "pkg" args.module)).append
    (names_turned "strict" args.strict)).append
    (names_turned "allow-experimental" args.allowExperimental)).append
    (names_valued "config" args.settings)).append (names_turned "verbose" args.verbose)
  simp only [← List.map_append] at hsublist
  exact hsublist.nodup (by decide)

/-- The generator has a flag for each of the options, with all its calls. -/
theorem isOption_choices (hinput : args.input ≠ []) (hout : args.out ≠ some [])
    (hsettings : args.settings ≠ some []) :
    ∀ choice ∈ args.choices, ∃ flag, IsOption flags calls choice flag := by
  simp only [choices, List.forall_mem_append]
  exact ⟨⟨⟨⟨⟨⟨isOption_path (by decide) (by simpa using hinput), isOption_path (by decide) hout⟩,
    isOption_text (by decide) _⟩, isOption_switch (by decide) _⟩, isOption_switch (by decide) _⟩,
    isOption_path (by decide) hsettings⟩, isOption_switch (by decide) _⟩

/-- Every spelling of the generator's arguments is read as these arguments. -/
theorem parse_eq (hinput : args.input ≠ []) (hout : args.out ≠ some [])
    (hsettings : args.settings ≠ some []) {line : List Text}
    (hspells : SpellsAll calls args.choices line) (program : Text) :
    parse (program :: line) = .ok args := by
  have hin : ∀ flag ∈ flags, flag.required = true → flag.name = "in" := by decide
  have hrequired : ∀ flag ∈ flags, flag.required = true →
      flag.name ∈ args.choices.map Prod.fst := by
    intro flag hmem hflag
    rw [hin flag hmem hflag]
    simp [choices, valued]
  obtain ⟨given, hparse, hgiven⟩ := exists_parse_eq (by decide) hspells
    (isOption_choices hinput hout hsettings) args.nodup_choices hrequired program
  rw [parse, hparse]
  exact congrArg Except.ok ((ofGiven_congr hgiven).trans (ofGiven_choices args))

end GenerateArguments

/-! ## The auditor -/

namespace AuditArguments

variable {args : AuditArguments}

/-- The options that ask for this. -/
def choices (args : AuditArguments) : List Choice :=
  valued "mdn" (some args.catalog) ++ valued "spec" (some args.spec) ++ valued "out" args.out
    ++ turned "verbose" args.verbose ++ turned "update" args.update

/-- The calls of the auditor's flags. -/
def calls (name : Text) : List Text :=
  if name = "verbose" then ["-verbose", "--verbose", "-v"] else ["-" ++ name, "--" ++ name]

/-- So do the arguments of an audit. -/
theorem ofGiven_congr {a b : Given} (h : ∀ name, a.value? name = b.value? name) :
    ofGiven a = ofGiven b := by
  simp only [ofGiven, has_eq_isSome, h]

/-- **So are the arguments of an audit.** -/
theorem ofGiven_choices (args : AuditArguments) :
    ofGiven (args.choices.map Choice.entry) = args := by
  simp +decide [ofGiven, choices, has_append, has_valued, has_turned, value?_append, value?_valued,
    value?_turned]

/-- Nor does one of their options occur twice. -/
theorem nodup_choices (args : AuditArguments) : (args.choices.map Prod.fst).Nodup := by
  have hsublist := ((((names_valued "mdn" (some args.catalog)).append
    (names_valued "spec" (some args.spec))).append (names_valued "out" args.out)).append
    (names_turned "verbose" args.verbose)).append (names_turned "update" args.update)
  simp only [← List.map_append] at hsublist
  exact hsublist.nodup (by decide)

/-- The auditor has a flag for each of the options, with all its calls. -/
theorem isOption_choices (hcatalog : args.catalog ≠ []) (hspec : args.spec ≠ [])
    (hout : args.out ≠ some []) :
    ∀ choice ∈ args.choices, ∃ flag, IsOption flags calls choice flag := by
  simp only [choices, List.forall_mem_append]
  exact ⟨⟨⟨⟨isOption_path (by decide) (by simpa using hcatalog),
    isOption_path (by decide) (by simpa using hspec)⟩, isOption_path (by decide) hout⟩,
    isOption_switch (by decide) _⟩, isOption_switch (by decide) _⟩

/-- Every spelling of the auditor's arguments is read as these arguments. -/
theorem parse_eq (hcatalog : args.catalog ≠ []) (hspec : args.spec ≠ []) (hout : args.out ≠ some [])
    {line : List Text} (hspells : SpellsAll calls args.choices line) (program : Text) :
    parse (program :: line) = .ok args := by
  have hnamed : ∀ flag ∈ flags, flag.required = true → flag.name = "mdn" ∨ flag.name = "spec" := by
    decide
  have hrequired : ∀ flag ∈ flags, flag.required = true →
      flag.name ∈ args.choices.map Prod.fst := by
    intro flag hmem hflag
    rcases hnamed flag hmem hflag with hname | hname <;> simp [hname, choices, valued]
  obtain ⟨given, hparse, hgiven⟩ := exists_parse_eq (by decide) hspells
    (isOption_choices hcatalog hspec hout) args.nodup_choices hrequired program
  rw [parse, hparse]
  exact congrArg Except.ok ((ofGiven_congr hgiven).trans (ofGiven_choices args))

end AuditArguments

/-! ## Both tools -/

/-- **Arguments are read back from every spelling.**  The paths must not be empty.  The options may
stand in any order; each may be called by its name behind one dash or two, the generator's `verbose`
only behind two, and `config` and `verbose` by their letters; and a value may stand behind an equals
sign, or in the next argument if it does not begin with a dash or is nothing but a dash. -/
theorem arguments_read_back (program : Text) (line : List Text) :
    (∀ args : GenerateArguments, args.input ≠ [] → args.out ≠ some [] → args.settings ≠ some [] →
      SpellsAll GenerateArguments.calls args.choices line →
        GenerateArguments.parse (program :: line) = .ok args) ∧
    ∀ args : AuditArguments, args.catalog ≠ [] → args.spec ≠ [] → args.out ≠ some [] →
      SpellsAll AuditArguments.calls args.choices line →
        AuditArguments.parse (program :: line) = .ok args :=
  ⟨fun _ hinput hout hsettings hspells =>
      GenerateArguments.parse_eq hinput hout hsettings hspells program,
    fun _ hcatalog hspec hout hspells =>
      AuditArguments.parse_eq hcatalog hspec hout hspells program⟩

/-- Values that look like flags or like nothing at all, in mixed spellings. -/
theorem mixed_spellings_read_back :
    GenerateArguments.parse
        ["", "-out=-in", "-c", "-", "--strict", "-pkg", "", "--in", "in=x", "-v"] =
      .ok ⟨"in=x", some "-in", some "", true, false, some "-", true⟩ ∧
    AuditArguments.parse ["audit", "-verbose", "--spec=--", "-mdn", "v"] =
      .ok ⟨"v", "--", none, true, false⟩ := by
  constructor
  · refine (arguments_read_back _ _).1 ⟨"in=x", some "-in", some "", true, false, some "-", true⟩
      (by decide) (by decide) (by decide)
      ⟨[("out", some "-in"), ("config", some "-"), ("strict", none), ("pkg", some ""),
          ("in", some "in=x"), ("verbose", none)],
        [["-out=-in"], ["-c", "-"], ["--strict"], ["-pkg", ""], ["--in", "in=x"], ["-v"]],
        by decide, ?_, rfl⟩
    have hout : Text.ofString "-out" ∈ GenerateArguments.calls "out" := by decide
    exact .cons (.joined hout) <| .cons (.apart (by decide) (by decide)) <|
      .cons (.alone (by decide)) <| .cons (.apart (by decide) (by decide)) <|
      .cons (.apart (by decide) (by decide)) <| .cons (.alone (by decide)) .nil
  · refine (arguments_read_back _ _).2 ⟨"v", "--", none, true, false⟩ (by decide) (by decide)
      (by decide) ⟨[("verbose", none), ("spec", some "--"), ("mdn", some "v")],
        [["-verbose"], ["--spec=--"], ["-mdn", "v"]], by decide, ?_, rfl⟩
    have hspec : Text.ofString "--spec" ∈ AuditArguments.calls "spec" := by decide
    exact .cons (.alone (by decide)) <| .cons (.joined hspec) <|
      .cons (.apart (by decide) (by decide)) .nil

end TypedStyle
