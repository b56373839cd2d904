import TypedStyle.Artifact.Basic
import TypedStyle.Code.Definitions
/-!
# Checking artifacts

Names and comments are pasted into an artifact as the spec has them, so an artifact is checked
before it is written: it must be code, and no name may be defined twice.  Mostly its comments stay
on their lines and the names that it defines or uses are identifiers, blanks around them apart.
Such an artifact is plain, and what it defines is known without reading it.

* `firstRepeated_eq_none_iff` — no name is reported exactly when all are different;
* `check_eq_ok_iff` — when an artifact passes;
* `definitions?_of_isPlain` — a plain artifact defines the names that are pasted.
-/

namespace TypedStyle.Artifact

/-- What can be wrong with an artifact. -/
inductive Defect where
  /-- It cannot be read as code. -/
  | malformed
  /-- The name is defined twice. -/
  | duplicate (name : Text)
  deriving DecidableEq, Repr

/-- The names that an artifact defines, as they are pasted, in order. -/
def defined (spec : Spec) : Artifact → List Text
  | .properties => spec.properties.map fun p => Naming.constant p.name
  | .keywords =>
    spec.keywordProperties.flatMap fun p =>
      Naming.keywordType p.name :: p.keywords.map (Naming.keywordConstant p.name)
  | .setters => spec.keywordProperties.map fun p => Naming.setter p.name

/-- The names of other artifacts that an artifact uses. -/
def used (spec : Spec) : Artifact → List Text
  | .properties | .keywords => []
  | .setters =>
    spec.keywordProperties.flatMap fun p => [Naming.keywordType p.name, Naming.constant p.name]

/-- The comments of an artifact. -/
def notes (spec : Spec) (module : Text) (artifact : Artifact) : List Text :=
  artifact.moduleNote module ::
    match artifact with
    | .properties => []
    | .keywords => spec.keywordProperties.map typeNote
    | .setters => spec.keywordProperties.map setterNote

/-- Does the text stay on one line? -/
def isOneLine (t : Text) : Bool :=
  t.all fun c => c != '\n' && c != '\r'

/-- Is the pasted name one identifier, or the underscore? -/
def isWellNamed (name : Text) : Bool :=
  Text.Identifier.isNameOrUnderscore (Text.strip name)

/-- Do all comments stay on their lines, and are all names identifiers? -/
def isPlain (artifact : Artifact) (spec : Spec) (module : Text) : Bool :=
  (artifact.notes spec module).all isOneLine
    && (artifact.defined spec ++ artifact.used spec).all isWellNamed

/-- The first text that is one of those seen or of those in front of it. -/
def firstRepeatedAfter (seen : List Text) : List Text → Option Text
  | [] => none
  | t :: rest => if t ∈ seen then some t else firstRepeatedAfter (t :: seen) rest

/-- The first text that occurs a second time. -/
def firstRepeated (texts : List Text) : Option Text :=
  firstRepeatedAfter [] texts

/-- Behind some texts, no text is the first repeated one exactly when none occurs twice or
before. -/
theorem firstRepeatedAfter_eq_none_iff {seen texts : List Text} :
    firstRepeatedAfter seen texts = none ↔ texts.Nodup ∧ ∀ t ∈ texts, t ∉ seen := by
  induction texts generalizing seen with
  | nil => simp [firstRepeatedAfter]
  | cons t rest ih =>
    simp only [firstRepeatedAfter, List.nodup_cons, List.mem_cons, forall_eq_or_imp]
    split
    · next h => simp [h]
    · next h =>
      simp only [ih, h, not_false_eq_true, true_and]
      constructor
      · rintro ⟨hnodup, hfresh⟩
        exact ⟨⟨fun hmem => hfresh t hmem List.mem_cons_self, hnodup⟩,
          fun u hu hseen => hfresh u hu (List.mem_cons_of_mem _ hseen)⟩
      · rintro ⟨⟨hmem, hnodup⟩, hfresh⟩
        refine ⟨hnodup, fun u hu hseen => ?_⟩
        rcases List.mem_cons.1 hseen with rfl | hseen
        · exact hmem hu
        · exact hfresh u hu hseen

/-- **The search for a repeated text is complete**: it finds none only where there is none. -/
theorem firstRepeated_eq_none_iff {texts : List Text} :
    firstRepeated texts = none ↔ texts.Nodup := by
  simp [firstRepeated, firstRepeatedAfter_eq_none_iff]

/-- The identifiers that a plain artifact defines, in order. -/
def identifiers (artifact : Artifact) (spec : Spec) : List Text :=
  (artifact.defined spec).map Text.strip

/-- The identifiers that an artifact defines, in order, if it is code.  The time in its first lines
makes no difference. -/
def definitions? (artifact : Artifact) (spec : Spec) (module : Text) : Option (List Text) :=
  if artifact.isPlain spec module then some (artifact.identifiers spec)
  else Code.definitions? (artifact.render spec module [])

/-- The defect of an artifact, if it has one; a malformed artifact has no definitions to compare. -/
def check (artifact : Artifact) (spec : Spec) (module : Text) : Except Defect Unit :=
  match artifact.definitions? spec module with
  | none => .error .malformed
  | some names =>
    match firstRepeated names with
    | some name => .error (.duplicate name)
    | none => .ok ()

/-- A plain artifact defines its identifiers, so it need not be read. -/
theorem definitions?_of_isPlain {artifact : Artifact} {spec : Spec} {module : Text}
    (h : artifact.isPlain spec module = true) :
    artifact.definitions? spec module = some (artifact.identifiers spec) := by
  simp [definitions?, h]

/-- **An artifact passes its check exactly when it can be read and defines no name twice.** -/
theorem check_eq_ok_iff {artifact : Artifact} {spec : Spec} {module : Text} :
    artifact.check spec module = .ok () ↔
      ∃ names, artifact.definitions? spec module = some names ∧ names.Nodup := by
  unfold check
  split
  · simp_all
  · next names hnames =>
    simp only [hnames, Option.some.injEq, exists_eq_left', ← firstRepeated_eq_none_iff]
    split <;> simp_all

/-- The text without a mark of byte order in front. -/
def withoutByteOrder : Text → Text
  | '\uFEFF' :: rest => rest
  | t => t

/-- May the module of the artifacts have this name?  It is one identifier, which may be spelled raw
and have gaps around it; a mark of byte order in front does not count. -/
def isModuleName (module : Text) : Bool :=
  match Code.Token.ofText? (withoutByteOrder module) with
  | some [.word name] => Code.isName name
  | _ => false

end TypedStyle.Artifact
