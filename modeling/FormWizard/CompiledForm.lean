import FormWizard.Form.Basic
import FormWizard.Formula

/-!
# Compiled forms

A `CompiledForm` is a form whose formulas and rules have been compiled. It never changes and holds
nothing about the values entered, so any number of sessions may share one.

Compiling never fails. A calculation that does not compile yields empty values, and a rule that does
not compile always passes; both keep the reason.

`CompiledForm.lateReads` tells where a calculation reads a computed field that is derived at its own
place or later. Such a calculation sees the value of the pass before.
-/

namespace FormWizard

/-- A computed field: where its value goes and how it is derived. -/
structure Calculation where
  /-- The path of the value. -/
  path : FieldPath
  /-- The formula. -/
  formula : Formula

/-- What a validation rule checks, with the bounds of its field. -/
inductive Check where
  /-- A pattern, or why it is not well formed. -/
  | pattern (p : Except CompileError Pattern)
  /-- That something was entered. -/
  | required
  /-- The least length. -/
  | minLength (least : Nat)
  /-- The greatest length, if there is one. -/
  | maxLength (most : Option Nat)
  /-- The least number. -/
  | minValue (least : Float)
  /-- The greatest number, if there is one. -/
  | maxValue (most : Option Float)
  /-- A formula. -/
  | predicate (formula : Formula)
  /-- Nothing, for a rule of a kind that is not known. -/
  | unsupported (kind : String)

/-- A compiled validation rule. -/
structure Rule where
  /-- The rule as the form states it. -/
  source : ValidationRule
  /-- What it checks. -/
  check : Check

/-- The check that a rule of a field makes. -/
def ValidationRule.compile (fs : Registry) (f : Field) (r : ValidationRule) : Check :=
  match r.kind with
  | .regex pattern => .pattern (Pattern.compile pattern)
  | .function body => .predicate (.compile fs Scope.predicateRoots body)
  | .required => .required
  | .minLength => .minLength (f.minLength.getD 0)
  | .maxLength => .maxLength f.maxLength
  | .minValue => .minValue (f.min.getD 0.0)
  | .maxValue => .maxValue f.max
  | .unsupported kind => .unsupported kind

/-- A form with its formulas and rules compiled. -/
structure CompiledForm where
  /-- The form. -/
  form : Form
  /-- The functions that its formulas may call. -/
  functions : Registry
  /-- The computed fields in the order of the document. -/
  calculations : List Calculation
  /-- The rules with the paths they are declared for, in the order of the document. -/
  rules : List (FieldPath × Rule)

/-- The calculation of an entry, if its field is computed. -/
def Entry.calculation? (fs : Registry) (e : Entry) : Option Calculation :=
  e.field.valueCalculation.map fun source ↦ ⟨e.path, .compile fs Scope.computedRoots source⟩

/-- The rules of an entry. -/
def Entry.rules (fs : Registry) (e : Entry) : List (FieldPath × Rule) :=
  e.field.validations.map fun r ↦ (e.path, ⟨r, r.compile fs e.field⟩)

/-- Compiles a form. -/
def Form.compile (fs : Registry) (form : Form) : CompiledForm where
  form := form
  functions := fs
  calculations := form.entries.filterMap (·.calculation? fs)
  rules := form.entries.flatMap (·.rules fs)

namespace CompiledForm

/-- Whether the field at a path is computed. -/
def isComputed (c : CompiledForm) (p : FieldPath) : Bool :=
  c.calculations.any fun calculation ↦ calculation.path = p

/-- The rules declared for a path, by whichever field, in the order of the document. -/
def rulesAt (c : CompiledForm) (p : FieldPath) : List Rule :=
  (c.rules.filter fun (q, _) ↦ q = p).map (·.2)

/-- The path that a variable of a calculation reads, taking its members for group and name. -/
def readPath? (v : Variable) : Option FieldPath :=
  match v.members with
  | [] => none
  | [name] => some (.root name)
  | group :: name :: _ => some (.grouped group name)

/-- The place of the last calculation of a path. -/
def position? (c : CompiledForm) (p : FieldPath) : Option Nat :=
  (c.calculations.zipIdx.filter fun (calculation, _) ↦ calculation.path = p).getLast?.map (·.2)

/-- The place of the last calculation of what is read at a path: a field in a group, or the field at
the root that the path starts with. -/
def readPosition? (c : CompiledForm) (p : FieldPath) : Option Nat :=
  (c.position? p).or (c.position? (.root p.top))

/-- The reads of a calculation at a place that come too early. -/
def lateReadsOf (c : CompiledForm) (calculation : Calculation) (place : Nat) : List FieldPath :=
  match calculation.formula.program with
  | .error _ => []
  | .ok program =>
    (program.reads.filterMap readPath?).filter fun p ↦
      (c.readPosition? p).any (place ≤ ·)

/-- The paths of calculations with the paths that each reads too early. -/
def lateReads (c : CompiledForm) : List (FieldPath × FieldPath) :=
  c.calculations.zipIdx.flatMap fun (calculation, place) ↦
    (c.lateReadsOf calculation place).map (calculation.path, ·)

end CompiledForm

end FormWizard
