import TypedStyle.Text.Basic
/-!
# Command lines

A command line is a list of arguments that give flags, in any order.  A flag is written with its
name behind two dashes, or behind one if the flag allows it, or with its letter behind one dash,
where several letters may share the dash.  A flag that takes a value finds it behind an equals sign,
behind its letter, or in the next argument.  Each flag is given once at most, and there are no
arguments besides the flags and their values.

* `record_eq_ok_iff` — when a value is accepted for a flag.
-/

namespace TypedStyle.CommandLine

/-- What a flag asks for. -/
inductive FlagKind where
  /-- Turns something on, and takes no value. -/
  | switch
  /-- Takes a path, which is not empty. -/
  | path
  /-- Takes any text. -/
  | text
  /-- Asks how the program is used. -/
  | help
  /-- Asks for the version of the program. -/
  | version
  deriving DecidableEq, Repr

/-- A flag that a program knows. -/
structure Flag where
  name : Text
  letter : Option Char
  kind : FlagKind
  required : Bool
  /-- May the name stand behind one dash? -/
  oneDash : Bool
  deriving DecidableEq, Repr

/-- Does the flag take a value? -/
def Flag.takesValue (flag : Flag) : Bool :=
  flag.kind = .path || flag.kind = .text

/-- Why a command line gives a program nothing to do. -/
inductive Refusal where
  | missing
  | unknown
  | invalidValue
  | needlessValue
  | repeated
  | help
  | version
  deriving DecidableEq, Repr

/-- The flags that were given, in the order of reading, with their values. -/
abbrev Given := List (Text × Text)

namespace Given

/-- The value of a flag, if the flag was given. -/
def value? (given : Given) (name : Text) : Option Text :=
  (given.find? fun entry => entry.1 = name).map Prod.snd

/-- Was the flag given? -/
def has (given : Given) (name : Text) : Bool :=
  given.any fun entry => entry.1 = name

end Given

/-- A part of an argument that stands for one flag. -/
inductive Word where
  /-- A flag that takes no value. -/
  | plain (flag : Flag)
  /-- A flag with its value. -/
  | valued (flag : Flag) (value : Text)
  /-- A flag whose value is the next argument. -/
  | awaiting (flag : Flag)
  /-- A flag that takes no value, with one. -/
  | needless
  /-- Nothing that the program knows. -/
  | unknown
  deriving DecidableEq, Repr

variable (flags : List Flag)

/-- An argument with the second dash that it lacks, if it is a name that may do without. -/
def withDashes (arg : Text) : Text :=
  match arg with
  | '-' :: '-' :: _ => arg
  | '-' :: body =>
    if flags.any (fun flag => flag.oneDash && flag.name = body.takeWhile (· ≠ '=')) then '-' :: arg
    else arg
  | _ => arg

/-- The word that a name and what follows it are. -/
def nameWord (body : Text) : Word :=
  match flags.find? (fun flag => flag.name = body.takeWhile (· ≠ '=')),
    body.dropWhile (· ≠ '=') with
  | none, _ => .unknown
  | some flag, [] => if flag.takesValue then .awaiting flag else .plain flag
  | some flag, _ :: value => if flag.takesValue then .valued flag value else .needless

/-- A value that stands behind a letter may be set off by an equals sign. -/
def besideLetter : Text → Text
  | '=' :: value => value
  | value => value

/-- The words that letters are. -/
def letterWords : Text → List Word
  | [] => []
  | c :: rest =>
    match flags.find? (fun flag => flag.letter = some c) with
    | none => [.unknown]
    | some flag =>
      if flag.takesValue then
        [if rest.isEmpty then .awaiting flag else .valued flag (besideLetter rest)]
      else .plain flag :: letterWords rest

/-- The words of an argument that begins with a dash. -/
def words (arg : Text) : List Word :=
  match arg with
  | '-' :: '-' :: body => [nameWord flags body]
  | _ :: letters => letterWords flags letters
  | [] => []

/-- Can the argument only be a value? -/
def isValue (arg : Text) : Bool :=
  arg.head? ≠ some '-' || arg = "-"

/-- How far a command line is read: the flags that were accepted, and perhaps a flag whose value is
an argument of its own, with that value as soon as it is read. -/
structure Reading where
  accepted : Given
  pending : Option (Flag × Option Text)
  deriving DecidableEq, Repr

/-- Adds a flag and its value. -/
def record (given : Given) (flag : Flag) (value : Text) : Except Refusal Given :=
  if given.has flag.name then .error .repeated
  else if flag.kind = .path ∧ value = [] then .error .invalidValue
  else .ok (given ++ [(flag.name, value)])

/-- A flag is recorded, behind all others, exactly when it is new and its path is not empty. -/
theorem record_eq_ok_iff {given after : Given} {flag : Flag} {value : Text} :
    record given flag value = .ok after ↔
      given.has flag.name = false ∧ ¬(flag.kind = .path ∧ value = []) ∧
        after = given ++ [(flag.name, value)] := by
  unfold record
  split
  · next h => simp [h]
  · next h =>
    split
    · next hv => simp [hv]
    · next hv =>
      have hf : given.has flag.name = false := by simpa using h
      simp only [hf, hv, not_false_eq_true, true_and, Except.ok.injEq]
      exact eq_comm

/-- Accepts a flag whose value is an argument of its own. -/
def Reading.settle (reading : Reading) : Except Refusal Given :=
  match reading.pending with
  | none => .ok reading.accepted
  | some (_, none) => .error .invalidValue
  | some (flag, some value) => record reading.accepted flag value

/-- Accepts a flag that takes no value. -/
def recordPlain (given : Given) (flag : Flag) : Except Refusal Given :=
  match flag.kind with
  | .help => .error .help
  | .version => .error .version
  | _ => record given flag []

/-- Reads one word.  A word that the program cannot make sense of is refused before a flag that
still waits to be accepted. -/
def Reading.step (reading : Reading) : Word → Except Refusal Reading
  | .unknown => .error .unknown
  | .needless => .error .needlessValue
  | .plain flag => do
    let given ← recordPlain (← reading.settle) flag
    .ok ⟨given, none⟩
  | .valued flag value => do
    let given ← record (← reading.settle) flag value
    .ok ⟨given, none⟩
  | .awaiting flag => do
    .ok ⟨← reading.settle, some (flag, none)⟩

/-- Reads one argument. -/
def Reading.read (reading : Reading) (arg : Text) : Except Refusal Reading :=
  if isValue arg then
    match reading.pending with
    | some (flag, none) => .ok { reading with pending := some (flag, some arg) }
    | _ => .error .unknown
  else (words flags arg).foldlM Reading.step reading

/-- Reads arguments to their end.  Behind two dashes alone there is no place for a flag, so nothing
may follow them. -/
def readAll : Reading → List Text → Except Refusal Given
  | reading, [] => reading.settle
  | reading, arg :: rest =>
    if arg = "--" then
      if rest.isEmpty then reading.settle else .error .unknown
    else do
      readAll (← reading.read flags arg) rest

/-- The flags that a command line gives.  The first argument is the name of the program. -/
def parse (args : List Text) : Except Refusal Given := do
  let given ← readAll flags ⟨[], none⟩ ((args.drop 1).map (withDashes flags))
  if flags.all (fun flag => !flag.required || given.has flag.name) then .ok given
  else .error .missing

end TypedStyle.CommandLine
