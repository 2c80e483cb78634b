import FormWizard.CompiledForm

/-!
# Initial and derived values

`Form.initialValues` gives every field its default, or the empty text, and every group its members.
`CompiledForm.derive` is one pass over the computed fields: in the order of the document each is
evaluated on the values so far and written back, so a calculation sees the results of those before
it. A calculation that does not compile, or fails, yields the empty text.
-/

namespace FormWizard

/-- The members of a group at the start. -/
def Group.initialMembers (g : Group) : Members :=
  g.fields.foldl (fun members f ↦ members.insert f.name f.initialValue) ∅

/-- Puts what a field or group holds at the start. -/
def FlatNode.initialize (values : ValueTree) : FlatNode → ValueTree
  | .field f => values.write (.root f.name) f.initialValue
  | .group g => values.put g.name (.group g.initialMembers)

/-- The values of the form at the start, before any are derived. -/
def Form.initialValues (form : Form) : ValueTree :=
  (form.stages.flatMap Stage.flatten).foldl FlatNode.initialize ∅

/-- The value of a computed field. -/
def Calculation.value (fs : Registry) (values : ValueTree) (c : Calculation) : Value :=
  match c.formula.program with
  | .error _ => .empty
  | .ok program =>
    match program.evaluate fs (.computed values) with
    | .ok v => v
    | .error _ => .empty

/-- Writes the value of a computed field. -/
def Calculation.apply (fs : Registry) (values : ValueTree) (c : Calculation) : ValueTree :=
  values.write c.path (c.value fs values)

/-- One pass over the computed fields. -/
def CompiledForm.derive (c : CompiledForm) (values : ValueTree) : ValueTree :=
  c.calculations.foldl (Calculation.apply c.functions) values

end FormWizard
