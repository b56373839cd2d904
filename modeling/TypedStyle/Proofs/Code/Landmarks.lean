import TypedStyle.Proofs.Code.Keeping
/-!
# Landmarks in the parts of code

No part of code takes the marks of an attribute of what it stands in, except where such attributes
are due: at the start of a file or inside a group.  And none takes the word for what can be seen
from everywhere, except at the start of an item or inside a group.  Each part is looked at by
itself; what it holds inside groups makes no difference.

* `KeepsParts` — how parts are read keeps a landmark, items and statements apart;
* `keepsParts_readUpTo` — the parts of code do.
-/

namespace TypedStyle.Code

open Reading Landmark

-- The readings are long sequences, and so are the instances that are found for them.
set_option synthInstance.maxSize 100000

variable {m : Landmark}

/-! ## Marks and words -/

namespace Reading

instance : Passes m [','] := passes_of (by decide)
instance : Passes m ['+'] := passes_of (by decide)
instance : Passes m "::" := passes_of (by decide)
instance : Passes m "?" := passes_of (by decide)
instance : Passes m "*" := passes_of (by decide)
instance : Passes m "+" := passes_of (by decide)
instance : Passes m "=" := passes_of (by decide)
instance : Passes m ":" := passes_of (by decide)
instance : Passes m "!" := passes_of (by decide)
instance : Passes m "&" := passes_of (by decide)
instance : Passes m "|" := passes_of (by decide)
instance : Passes m "." := passes_of (by decide)
instance : Passes m "@" := passes_of (by decide)
instance : Passes m "..=" := passes_of (by decide)
instance : Passes m "..." := passes_of (by decide)
instance : Passes m ".." := passes_of (by decide)
instance [OfItems m] : Passes m ";" := passes_ofItems (by decide)

/-- The word is not the one that has to be left. -/
class PassesWord (m : Landmark) (w : String) : Prop where
  ne : m = .publicWord → Text.ofString w ≠ "pub"

instance passesWords_nil : PassesWords m [] := ⟨fun _ => by simp⟩

instance passesWords_cons {w : String} {words : List String} [hw : PassesWord m w]
    [hwords : PassesWords m words] : PassesWords m (w :: words) :=
  ⟨fun hm => List.forall_mem_cons.mpr ⟨hw.ne hm, hwords.not_mem hm⟩⟩

instance passesWord_innerAttribute {w : String} : PassesWord .innerAttribute w :=
  ⟨fun h => by contradiction⟩

instance : PassesWord m "as" := ⟨fun _ => by decide⟩
instance : PassesWord m "async" := ⟨fun _ => by decide⟩
instance : PassesWord m "auto" := ⟨fun _ => by decide⟩
instance : PassesWord m "await" := ⟨fun _ => by decide⟩
instance : PassesWord m "become" := ⟨fun _ => by decide⟩
instance : PassesWord m "box" := ⟨fun _ => by decide⟩
instance : PassesWord m "break" := ⟨fun _ => by decide⟩
instance : PassesWord m "builtin" := ⟨fun _ => by decide⟩
instance : PassesWord m "const" := ⟨fun _ => by decide⟩
instance : PassesWord m "continue" := ⟨fun _ => by decide⟩
instance : PassesWord m "crate" := ⟨fun _ => by decide⟩
instance : PassesWord m "default" := ⟨fun _ => by decide⟩
instance : PassesWord m "dyn" := ⟨fun _ => by decide⟩
instance : PassesWord m "else" := ⟨fun _ => by decide⟩
instance : PassesWord m "enum" := ⟨fun _ => by decide⟩
instance : PassesWord m "extern" := ⟨fun _ => by decide⟩
instance : PassesWord m "fn" := ⟨fun _ => by decide⟩
instance : PassesWord m "for" := ⟨fun _ => by decide⟩
instance : PassesWord m "if" := ⟨fun _ => by decide⟩
instance : PassesWord m "impl" := ⟨fun _ => by decide⟩
instance : PassesWord m "in" := ⟨fun _ => by decide⟩
instance : PassesWord m "let" := ⟨fun _ => by decide⟩
instance : PassesWord m "loop" := ⟨fun _ => by decide⟩
instance : PassesWord m "macro" := ⟨fun _ => by decide⟩
instance : PassesWord m "match" := ⟨fun _ => by decide⟩
instance : PassesWord m "mod" := ⟨fun _ => by decide⟩
instance : PassesWord m "move" := ⟨fun _ => by decide⟩
instance : PassesWord m "mut" := ⟨fun _ => by decide⟩
instance : PassesWord m "raw" := ⟨fun _ => by decide⟩
instance : PassesWord m "ref" := ⟨fun _ => by decide⟩
instance : PassesWord m "return" := ⟨fun _ => by decide⟩
instance : PassesWord m "safe" := ⟨fun _ => by decide⟩
instance : PassesWord m "self" := ⟨fun _ => by decide⟩
instance : PassesWord m "Self" := ⟨fun _ => by decide⟩
instance : PassesWord m "static" := ⟨fun _ => by decide⟩
instance : PassesWord m "struct" := ⟨fun _ => by decide⟩
instance : PassesWord m "super" := ⟨fun _ => by decide⟩
instance : PassesWord m "trait" := ⟨fun _ => by decide⟩
instance : PassesWord m "true" := ⟨fun _ => by decide⟩
instance : PassesWord m "false" := ⟨fun _ => by decide⟩
instance : PassesWord m "try" := ⟨fun _ => by decide⟩
instance : PassesWord m "type" := ⟨fun _ => by decide⟩
instance : PassesWord m "union" := ⟨fun _ => by decide⟩
instance : PassesWord m "unsafe" := ⟨fun _ => by decide⟩
instance : PassesWord m "use" := ⟨fun _ => by decide⟩
instance : PassesWord m "where" := ⟨fun _ => by decide⟩
instance : PassesWord m "while" := ⟨fun _ => by decide⟩
instance : PassesWord m "yield" := ⟨fun _ => by decide⟩
instance : PassesWord m "_" := ⟨fun _ => by decide⟩
end Reading

/-- How types are read keeps the landmark. -/
class KeepsTypes (m : Landmark) (read : Reader) : Prop where
  type (mayAdd : Bool) : Keeps m (read (.type mayAdd))
  argument : Keeps m (read .argument)

/-- How parts are read keeps the landmark, for all parts but items and what may hold items. -/
class KeepsParts (m : Landmark) (read : Reader) : Prop extends KeepsTypes m read where
  pattern : Keeps m (read .pattern)
  expression (mayBuild : Bool) : Keeps m (read (.expression mayBuild))
  operand (mayBuild : Bool) : Keeps m (read (.operand mayBuild))
  operations (left : Form) (mayBuild : Bool) (rank : Rank) :
    Keeps m (read (.operations left mayBuild rank))
  right (rank : Rank) (mayBuild : Bool) : Keeps m (read (.right rank mayBuild))
  rightFrom (left : Form) (rank : Rank) (mayBuild : Bool) :
    Keeps m (read (.rightFrom left rank mayBuild))
  construct : Keeps m (read .construct)
  fields : Keeps m (read .fields)
  imports (mayRoot : Bool) : Keeps m (read (.imports mayRoot))

attribute [instance] KeepsTypes.type KeepsTypes.argument KeepsParts.pattern KeepsParts.expression
  KeepsParts.operand KeepsParts.operations KeepsParts.right KeepsParts.rightFrom
  KeepsParts.construct KeepsParts.fields KeepsParts.imports

section Types

variable {read : Reader} [KeepsTypes m read]

/-! ## Attributes and blocks -/

instance keeps_namesPath : Keeps m (namesPath) := by
  unfold namesPath
  infer_instance

instance keeps_attributes : Keeps m (attributes read) := by
  unfold attributes
  infer_instance

instance keeps_block : Keeps m (block read) := by
  unfold block
  infer_instance

instance keeps_blockWithAttributes : Keeps m (blockWithAttributes read) := by
  unfold blockWithAttributes
  infer_instance

/-! ## Paths, bounds and parameters -/

instance keeps_constant : Keeps m (constant read) := by
  unfold constant
  infer_instance

instance keeps_returned (mayAdd : Bool) : Keeps m (returned read mayAdd) := by
  unfold returned
  infer_instance

instance keeps_bracketedArguments : Keeps m (bracketedArguments read) := by
  have hname : ∀ form : Option Form, Keeps m (match form with
      | none => pure true
      | some form => pure (decide (form = .bracketed)) : Reading Bool) := by
    intro form
    cases form <;> infer_instance
  unfold bracketedArguments
  infer_instance

instance keeps_arguments : Keeps m (arguments read) := by
  unfold arguments
  infer_instance

instance keeps_nameOfPath (isExpression : Bool) : Keeps m (nameOfPath read isExpression) := by
  unfold nameOfPath
  infer_instance

instance keeps_nextName (isExpression : Bool) (form : PathForm) :
    Keeps m (nextName read isExpression form) := by
  unfold nextName
  infer_instance

instance keeps_moreNames (isExpression : Bool) (form : PathForm) :
    Keeps m (moreNames read isExpression form) := by
  unfold moreNames
  infer_instance

instance keeps_namedPath (isExpression : Bool) : Keeps m (namedPath read isExpression) := by
  unfold namedPath
  infer_instance

instance keeps_qualifiedPath (isExpression : Bool) : Keeps m (qualifiedPath read isExpression) where
  leads {trees rest _} hread := by
    obtain ⟨_, between, hopen, htype⟩ := exists_of_bind hread
    obtain ⟨first, rfl⟩ := exists_of_marks hopen
    obtain ⟨_, mid, htype, htrait⟩ := exists_of_bind htype
    obtain ⟨isTrait, behind, htrait, hlast⟩ := exists_of_bind htrait
    have hjoin : ∀ {trees : Trees} {form : PathForm}, (do
        marks ">"
        marks "::"
        let first ← nameOfPath read isExpression
        loop (fun _ trees => trees.starts "::") (nextName read isExpression)
          ⟨true, false, false, first⟩ : Reading PathForm) trees = some (form, rest) →
        m.Leads between trees → m.Leads (.mark '<' first :: between) rest := by
      intro trees form hread hbetween
      obtain ⟨_, last, hclose, hmore⟩ := exists_of_bind hread
      obtain ⟨second, rfl⟩ := exists_of_marks hclose
      have hnames : Keeps m (marks "::" >>= fun _ => nameOfPath read isExpression >>= fun first =>
          loop (fun _ trees => trees.starts "::") (nextName read isExpression)
            ⟨true, false, false, first⟩) := inferInstance
      exact (leads_of_angles hbetween).trans (hnames.leads hmore)
    have hbehind : m.Leads between behind :=
      ((keeps_discard (m := m)).leads htype).trans (keeps_maybeWord.leads htrait)
    dsimp only at hlast
    split at hlast
    · obtain ⟨_, trees, hname, hlast⟩ := exists_of_bind hlast
      exact hjoin hlast (hbehind.trans ((keeps_discard (m := m)).leads hname))
    · exact hjoin hlast hbehind

instance keeps_path (isExpression : Bool) : Keeps m (path read isExpression) := by
  unfold path
  infer_instance

instance keeps_pathOfType : Keeps m (pathOfType read) := by
  unfold pathOfType
  dsimp only
  infer_instance

instance keeps_lifetimes : Keeps m (lifetimes read) := by
  unfold lifetimes
  infer_instance

instance keeps_trait (mayConst : Bool) : Keeps m (trait read mayConst) := by
  unfold trait
  dsimp only
  infer_instance

instance keeps_bound (mayCapture mayConst : Bool) : Keeps m (bound read mayCapture mayConst) := by
  unfold bound
  dsimp only
  infer_instance

instance keeps_bounds (stop : Trees → Bool) : Keeps m (bounds read stop) := by
  unfold bounds
  infer_instance

instance keeps_boundsOfType (mayAdd mayCapture mayConst : Bool) :
    Keeps m (boundsOfType read mayAdd mayCapture mayConst) := by
  unfold boundsOfType
  dsimp only
  infer_instance

instance keeps_argument : Keeps m (argument read) := by
  unfold argument
  dsimp only
  refine .of_get fun trees => ?_
  split
  · infer_instance
  split
  · infer_instance
  · refine keepsFrom_of_keeps (h := .bind inferInstance fun form => ?_)
    cases form <;> dsimp only <;> infer_instance

instance keeps_parameter : Keeps m (parameter read) := by
  unfold parameter
  dsimp only
  infer_instance

instance keeps_parameters : Keeps m (parameters read) := by
  unfold parameters
  infer_instance

instance keeps_condition : Keeps m (condition read) := by
  unfold condition
  infer_instance

instance keeps_conditions : Keeps m (conditions read) := by
  unfold conditions
  infer_instance

/-! ## Types -/

instance keeps_templateContent : Keeps m (templateContent) := by
  unfold templateContent
  infer_instance

instance keeps_linkage : Keeps m (linkage) := by
  unfold linkage
  infer_instance

instance keeps_functionType : Keeps m (functionType read) := by
  unfold functionType
  infer_instance

instance keeps_addedBounds : Keeps m (addedBounds read) := by
  unfold addedBounds
  infer_instance

instance keeps_bracketedType (mayAdd : Bool) : Keeps m (bracketedType read mayAdd) := by
  unfold bracketedType
  dsimp only
  infer_instance

instance keeps_pathType (mayAdd isGeneral : Bool) : Keeps m (pathType read mayAdd isGeneral) := by
  unfold pathType
  dsimp only
  infer_instance

instance keeps_sliceType : Keeps m (sliceType read) := by
  unfold sliceType
  infer_instance

instance keeps_typeRule (mayAdd : Bool) : Keeps m (typeRule read mayAdd) := by
  unfold typeRule
  dsimp only
  infer_instance

end Types

section Parts

variable {read : Reader} [OfItems m] [KeepsParts m read]

/-! ## Patterns -/

instance keeps_rangeMarks (isPattern : Bool) : Keeps m (rangeMarks isPattern) := by
  unfold rangeMarks
  dsimp only
  infer_instance

instance keeps_rangeEnd : Keeps m (rangeEnd read) := by
  unfold rangeEnd
  dsimp only
  infer_instance

instance keeps_restOfRange (isPattern : Bool) : Keeps m (restOfRange read isPattern) := by
  unfold restOfRange
  dsimp only
  infer_instance

instance keeps_maybeRange : Keeps m (maybeRange read) := by
  unfold maybeRange
  infer_instance

instance keeps_choice : Keeps m (choice read) := by
  unfold choice
  infer_instance

instance keeps_pathPattern : Keeps m (pathPattern read) := by
  unfold pathPattern
  infer_instance

instance keeps_namePattern : Keeps m (namePattern read) := by
  unfold namePattern
  infer_instance

instance keeps_patternRule : Keeps m (patternRule read) := by
  unfold patternRule
  dsimp only
  infer_instance

/-! ## Expressions -/

instance keeps_rangeFrom (mayBuild : Bool) : Keeps m (rangeFrom read mayBuild) := by
  unfold rangeFrom
  infer_instance

instance keeps_castTo : Keeps m (castTo read) := by
  unfold castTo
  infer_instance

omit [KeepsParts m read] in
/-- No operator has a part of a landmark in it. -/
theorem leads_of_operator? {trees rest : Trees} {rank : Rank}
    (heq : operator? trees = some (rank, rest)) : m.Leads trees rest := by
  have hoperators : ∀ operator ∈ operators, '#' ∉ Text.ofString operator.1 := by decide
  obtain ⟨⟨marks, found⟩, hmem, hmap⟩ := List.exists_of_findSome?_eq_some heq
  obtain ⟨behind, hbehind, hpair⟩ := Option.map_eq_some_iff.mp hmap
  obtain ⟨-, rfl⟩ := Prod.mk.inj hpair
  exact (passes_ofItems (hoperators _ hmem)).leads hbehind

instance keeps_operationsRule (left : Form) (mayBuild : Bool) (rank : Rank) :
    Keeps m (operationsRule read left mayBuild rank) := by
  unfold operationsRule
  dsimp only
  split
  · infer_instance
  refine .of_get fun trees => ?_
  split
  · next found behind hoperator =>
    split
    · infer_instance
    split
    · infer_instance
    · exact KeepsFrom.set inferInstance (leads_of_operator? hoperator)
  · infer_instance

instance keeps_rightRule (rank : Rank) (mayBuild : Bool) :
    Keeps m (rightRule read rank mayBuild) := by
  unfold rightRule
  infer_instance

instance keeps_rightFromRule (left : Form) (rank : Rank) (mayBuild : Bool) :
    Keeps m (rightFromRule read left rank mayBuild) := by
  unfold rightFromRule
  dsimp only
  infer_instance

instance keeps_call : Keeps m (call read) := by
  unfold call
  infer_instance

instance keeps_places : Keeps m (places) := by
  unfold places
  dsimp only
  refine .of_get fun trees => ?_
  split
  · split
    · infer_instance
    split
    · infer_instance
    · exact KeepsFrom.set inferInstance (.cons (skips_of_no_mark (by simp) (by simp)))
  · infer_instance

instance keeps_field : Keeps m (field read) := by
  unfold field
  infer_instance

instance keeps_trailers (form : Form) : Keeps m (trailers read form) := by
  unfold trailers
  dsimp only
  infer_instance

instance keeps_branches : Keeps m (branches read) := by
  unfold branches
  dsimp only
  infer_instance

instance keeps_constructRule : Keeps m (constructRule read) := by
  unfold constructRule
  dsimp only
  infer_instance

instance keeps_closure (mayBuild : Bool) : Keeps m (closure read mayBuild) := by
  have hbody : ∀ form : Option Form, Keeps m (match form with
      | some _ => block read
      | none => discard (read (.expression mayBuild)) : Reading Unit) := by
    intro form
    cases form <;> infer_instance
  unfold closure
  infer_instance

instance keeps_named (mayBuild : Bool) : Keeps m (named read mayBuild) := by
  unfold named
  dsimp only
  infer_instance

instance keeps_maybeExpression : Keeps m (maybeExpression read) := by
  unfold maybeExpression
  infer_instance

instance keeps_leaving (mayBuild : Bool) : Keeps m (leaving read mayBuild) := by
  unfold leaving
  dsimp only
  infer_instance

instance keeps_array : Keeps m (array read) := by
  unfold array
  infer_instance

instance keeps_atom (mayBuild : Bool) : Keeps m (atom read mayBuild) := by
  unfold atom
  dsimp only
  infer_instance

instance keeps_operandRule (mayBuild : Bool) : Keeps m (operandRule read mayBuild) := by
  unfold operandRule
  dsimp only
  refine .bind inferInstance fun hasAttributes => .of_get fun trees => ?_
  split
  · infer_instance
  split
  · next hsign =>
    refine KeepsFrom.set inferInstance ?_
    have hskips : ∀ {c : Char}, c ≠ '#' → ∀ joined, m.Skips (.mark c joined) := fun hc =>
      skips_mark (fun _ => hc) fun heq => absurd heq (OfItems.ne)
    simp only [Bool.or_eq_true] at hsign
    rcases hsign with (hstar | hbang) | hminus
    · obtain ⟨joined, behind, rfl⟩ := exists_of_starts hstar
      exact .cons (hskips (by decide) joined)
    · obtain ⟨joined, behind, rfl⟩ := exists_of_starts hbang
      exact .cons (hskips (by decide) joined)
    · obtain ⟨joined, behind, rfl⟩ := exists_of_starts hminus
      exact .cons (hskips (by decide) joined)
  · infer_instance

instance keeps_expressionRule (mayBuild : Bool) : Keeps m (expressionRule read mayBuild) := by
  unfold expressionRule
  infer_instance

/-! ## Items -/

/-- What may stand behind the word for what can be seen from everywhere, to say from where. -/
def scope : Reading Unit := do
  match ← get with
  | .group '(' scope :: rest =>
    if Trees.startsWord ["in"] scope then inside '(' do
      word "in"
      namesPath
    else if Trees.startsWord ["crate", "self", "super"] scope && scope.length = 1 then set rest
  | _ => return ()

omit [OfItems m] [KeepsParts m read] in
instance keeps_scope : Keeps m scope := by
  refine .of_get fun trees => ?_
  split
  · split
    · infer_instance
    split
    · refine ⟨fun hread => ?_⟩
      obtain ⟨-, rfl⟩ := Prod.mk.inj (Option.some.inj hread)
      exact .cons (skips_of_no_mark (by simp) (by simp))
    · infer_instance
  · infer_instance

instance keeps_functionFront (maySafe : Bool) : Keeps m (functionFront read maySafe) := by
  unfold functionFront
  dsimp only
  infer_instance

instance keeps_functionItem (maySafe : Bool) : Keeps m (functionItem read maySafe) := by
  unfold functionItem
  infer_instance

instance keeps_maybeValue : Keeps m (maybeValue read) := by
  unfold maybeValue
  infer_instance

instance keeps_constantItem : Keeps m (constantItem read) := by
  unfold constantItem
  infer_instance

instance keeps_variableItem : Keeps m (variableItem read) := by
  unfold variableItem
  dsimp only
  infer_instance

instance keeps_typeItem (mayBefore mayAfter : Bool) :
    Keeps m (typeItem read mayBefore mayAfter) := by
  unfold typeItem
  dsimp only
  infer_instance

instance keeps_importsRule (mayRoot : Bool) : Keeps m (importsRule read mayRoot) := by
  unfold importsRule
  dsimp only
  infer_instance

instance keeps_importItem : Keeps m (importItem read) := by
  unfold importItem
  infer_instance

instance keeps_programItem : Keeps m (programItem) := by
  unfold programItem
  dsimp only
  infer_instance

instance keeps_tuple : Keeps m (tuple read) := by
  unfold tuple
  infer_instance

instance keeps_fieldsRule : Keeps m (fieldsRule read) := by
  unfold fieldsRule
  infer_instance

instance keeps_structureItem : Keeps m (structureItem read) := by
  unfold structureItem
  dsimp only
  infer_instance

instance keeps_unionItem : Keeps m (unionItem read) := by
  unfold unionItem
  infer_instance

instance keeps_enumerationItem : Keeps m (enumerationItem read) := by
  unfold enumerationItem
  infer_instance

instance keeps_members {α : Type} {member : Reading α} : Keeps m (members read member) := by
  unfold members
  infer_instance

instance keeps_useItem (mayName : Bool) : Keeps m (useItem mayName) := by
  unfold useItem
  dsimp only
  infer_instance

instance keeps_foreignItem : Keeps m (foreignItem read) := by
  unfold foreignItem
  infer_instance

instance keeps_moduleItem : Keeps m (moduleItem read) := by
  unfold moduleItem
  infer_instance

instance keeps_traitItem : Keeps m (traitItem read) := by
  unfold traitItem
  dsimp only
  infer_instance

instance keeps_implementationItem : Keeps m (implementationItem read) := by
  unfold implementationItem
  dsimp only
  infer_instance

instance keeps_templateItem : Keeps m (templateItem) := by
  unfold templateItem
  infer_instance

end Parts

/-- An item keeps the landmark, behind the word for how far it can be seen. -/
theorem exists_itemRule_eq (m : Landmark) (read : Reader) [OfItems m] [KeepsParts m read] :
    ∃ others, itemRule read = visibility >>= others ∧ ∀ isVisible, Keeps m (others isVisible) := by
  refine ⟨_, rfl, fun isVisible => ?_⟩
  dsimp only
  infer_instance

/-! ## All parts -/

instance keepsTypes_readUpTo (bound : Nat) : KeepsTypes m (readUpTo bound) := by
  induction bound with
  | zero =>
      constructor <;> intros <;> exact keeps_failure
  | succ bound ih => exact { type := keeps_typeRule, argument := keeps_argument }

/-- **No part of code reaches behind a landmark**, items and statements apart. -/
instance keepsParts_readUpTo [OfItems m] (bound : Nat) : KeepsParts m (readUpTo bound) := by
  induction bound with
  | zero =>
      constructor <;> intros <;> exact keeps_failure
  | succ bound ih =>
      exact {
        pattern := keeps_patternRule
        expression := keeps_expressionRule
        operand := keeps_operandRule
        operations := keeps_operationsRule
        right := keeps_rightRule
        rightFrom := keeps_rightFromRule
        construct := keeps_constructRule
        fields := keeps_fieldsRule
        imports := keeps_importsRule }

end TypedStyle.Code
