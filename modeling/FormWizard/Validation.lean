import FormWizard.CompiledForm

/-!
# Validation of a stage

A stage is validated field by field. The checks of a field are that something was entered, if the
field requires it, and then the rules declared for its path, in the order of the document. Of
several failing checks for one path the last one gives the message.

A rule whose pattern or formula does not compile passes, and so does a formula that fails. In a
group, formulas see the members of the group as `formValue`, elsewhere the whole tree.
-/

namespace FormWizard

/-- A message for each path with an error. -/
abbrev ErrorMap := Std.ExtTreeMap FieldPath String compare

/-- The length of a value that is a text. -/
def Value.textLength? (v : Value) : Option Nat := v.text?.map String.length

/-- The scope in which the formula of a rule for a path is evaluated. -/
def Scope.ofPath (p : FieldPath) (v : Value) (values : ValueTree) : Scope :=
  let formValue := match p.group with
    | some group => Binding.group (values.group? group)
    | none => Binding.tree values
  .predicate p.name v formValue values

/-- Whether a value passes a check. -/
def Check.passes (fs : Registry) (p : FieldPath) (v : Value) (values : ValueTree) : Check → Bool
  | .pattern (.error _) => true
  | .pattern (.ok form) => !v.isTruthy || form.occursIn v.shown
  | .required => !v.isEmpty
  | .minLength least => v.textLength?.all (least ≤ ·)
  | .maxLength most => v.textLength?.all fun n ↦ most.all (n ≤ ·)
  | .minValue least => v.number?.all (least ≤ ·)
  | .maxValue most => v.number?.all fun x ↦ most.all (x ≤ ·)
  | .predicate formula =>
    match formula.program with
    | .error _ => true
    | .ok program =>
      match program.evaluate fs (.ofPath p v values) with
      | .ok outcome => outcome.isTruthy
      | .error _ => true
  | .unsupported _ => true

/-- The message of a rule that a field fails. -/
def Rule.messageFor (r : Rule) (f : Field) : String :=
  if r.source.message.toList.isEmpty then s!"{f.displayLabel} is invalid." else r.source.message

/-- The value that is validated at a path. -/
def ValueTree.validated (values : ValueTree) (p : FieldPath) : Value := (values.get? p).getD .null

namespace CompiledForm

/-- The messages of the failing checks of an entry, in order. -/
def failures (c : CompiledForm) (values : ValueTree) (e : Entry) : List String :=
  let v := values.validated e.path
  let missing :=
    if e.field.required && v.isEmpty then [s!"{e.field.displayLabel} is required."] else []
  let failing := (c.rulesAt e.path).filter fun r ↦ !r.check.passes c.functions e.path v values
  missing ++ failing.map (·.messageFor e.field)

/-- Enters the failing checks of an entry. -/
def enter (c : CompiledForm) (values : ValueTree) (errors : ErrorMap) (e : Entry) : ErrorMap :=
  (c.failures values e).foldl (fun errors message ↦ errors.insert e.path message) errors

/-- The fields of a stage with their paths, none if there is no such stage. -/
def stageEntries (c : CompiledForm) (index : Nat) : List Entry :=
  match c.form.stages[index]? with
  | some s => s.flatten.flatMap (·.entries index)
  | none => []

/-- The errors of a stage. A stage that does not exist has none. -/
def validate (c : CompiledForm) (index : Nat) (values : ValueTree) : ErrorMap :=
  (c.stageEntries index).foldl (c.enter values) ∅

end CompiledForm

end FormWizard
