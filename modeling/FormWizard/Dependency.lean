import FormWizard.Form.Basic
import FormWizard.ValueTree

/-!
# Options and disabled fields

Which options a field offers and whether it can be filled in may depend on other values. A
dependency is the text of a path; a name without a group is looked up in the group of the dependent
field first and then at the root.
-/

namespace FormWizard

/-- The value that a dependency of a field, in a group or not, names. -/
def ValueTree.dependency? (values : ValueTree) (group : Option String) (dependency : String) :
    Option Value :=
  match FieldPath.ofText dependency with
  | .error _ => none
  | .ok p =>
    let inGroup := match p.group, group with
      | none, some g => values.get? (.grouped g p.name)
      | _, _ => none
    inGroup.or (values.get? p)

namespace Field

/-- The options that the field offers. Keyed options are those whose key is the text of the value
depended on, if that value holds as a condition. -/
def offeredOptions (f : Field) (group : Option String) (values : ValueTree) : List String :=
  match f.options, f.optionsDependentOn with
  | none, _ => []
  | some (.fixed options), _ => options
  | some (.keyed _), none => []
  | some (.keyed lists), some dependency =>
    match values.dependency? group dependency with
    | some key => if key.isTruthy then (lists[key.shown]?).getD [] else []
    | none => []

/-- Whether the field cannot be filled in: it is computed or read-only, or a field it depends on is
empty. -/
def isDisabled (f : Field) (group : Option String) (values : ValueTree) : Bool :=
  f.isComputed || f.isReadOnly
    || f.disabledDependencies.any fun d ↦ (values.dependency? group d).all Value.isEmpty

end Field

end FormWizard
