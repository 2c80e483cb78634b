import FormWizard.Dependency
import FormWizard.Session

/-!
# Views

A `View` is all that is needed to draw a form as it stands: the progress through the stages, and the
current stage with its fields, their values, options and errors. Labels and options are resolved, so
drawing needs neither the form nor the values.

Blocks keep their place and their label; fields and groups in them are shown as anywhere else.
-/

namespace FormWizard

/-- How progress shows a stage. -/
inductive ProgressState where
  /-- It is the current stage. -/
  | current
  /-- It had no errors when it was last submitted. -/
  | complete
  /-- It had errors when it was last submitted. -/
  | incomplete
  /-- It was never submitted. -/
  | untouched
deriving DecidableEq, Repr

/-- A stage as progress shows it. -/
structure ProgressStep where
  /-- The index of the stage. -/
  index : Nat
  /-- The title of the stage. -/
  title : String
  /-- How the stage is shown. -/
  state : ProgressState
  /-- Whether the stage can be jumped to. -/
  clickable : Bool

/-- A field as it is shown. -/
structure FieldView where
  /-- The path of the value. -/
  path : FieldPath
  /-- The label, unless it is left out. -/
  label : Option String
  /-- The kind of control. -/
  inputType : InputType
  /-- The value. -/
  value : Value
  /-- The options to choose from. -/
  options : List String
  /-- The error shown with the field. -/
  error : Option String
  /-- Whether something has to be entered. -/
  required : Bool
  /-- Whether the field cannot be filled in now. -/
  disabled : Bool
  /-- Whether the field can never be filled in. -/
  readOnly : Bool
  /-- Whether the field is left out. -/
  hidden : Bool
  /-- Whether several options can be chosen. -/
  multiSelect : Bool
  /-- The text shown while nothing is entered. -/
  placeholder : Option String
  /-- The least number that the control offers. -/
  min : Option Float
  /-- The greatest number that the control offers. -/
  max : Option Float
  /-- The distance between numbers that the control offers. -/
  step : Option Float
  /-- The icon in front of the control. -/
  leftIcon : Option String
  /-- The icon behind the control. -/
  rightIcon : Option String

/-- A group as it is shown. -/
structure GroupView where
  /-- The name of the group. -/
  name : String
  /-- The label, unless it is left out. -/
  label : Option String
  /-- Whether the group is left out. -/
  hidden : Bool
  /-- The fields. -/
  fields : List FieldView

/-- A part of a stage as it is shown. -/
inductive NodeView where
  /-- A field. -/
  | field (f : FieldView)
  /-- A group of fields. -/
  | group (g : GroupView)
  /-- A labelled block. -/
  | block (name : String) (label : Option String) (nodes : List NodeView)

/-- A stage as it is shown. -/
structure StageView where
  /-- The index of the stage. -/
  index : Nat
  /-- The name of the stage. -/
  name : String
  /-- The title of the stage. -/
  title : String
  /-- The parts of the stage. -/
  nodes : List NodeView

/-- A form as it is shown. -/
structure View where
  /-- The name of the form. -/
  name : String
  /-- What the form is for. -/
  description : Option String
  /-- Whether the titles of the stages are shown. -/
  showStageNames : Bool
  /-- The progress through the stages. -/
  progress : List ProgressStep
  /-- The current stage, if the form has any. -/
  stage : Option StageView
  /-- Whether the current stage is the last one. -/
  isLastStage : Bool

/-- The text shown while nothing is entered: the one that is given, or a hint to select. -/
def Field.shownPlaceholder (f : Field) : Option String :=
  let hint :=
    if f.inputType.isChoice then some s!"Select {Text.lowercase f.displayLabel}..." else none
  f.placeholder.or hint

/-- The field as it is shown with the given values and errors. -/
def Field.view (values : ValueTree) (errors : ErrorMap) (group : Option String) (f : Field) :
    FieldView :=
  let path : FieldPath := ⟨group, f.name⟩
  { path
    label := if f.hiddenLabel then none else some f.displayLabel
    inputType := f.inputType
    value := (values.get? path).getD .empty
    options := f.offeredOptions group values
    error := errors[path]?
    required := f.required
    disabled := f.isDisabled group values
    readOnly := f.isReadOnly || f.isComputed
    hidden := f.isHidden
    multiSelect := f.isMultiSelect || f.inputType = .multiselect
    placeholder := f.shownPlaceholder
    min := f.min
    max := f.max
    step := f.step
    leftIcon := f.leftIcon
    rightIcon := f.rightIcon }

/-- The group as it is shown. -/
def Group.view (values : ValueTree) (errors : ErrorMap) (g : Group) : GroupView where
  name := g.name
  label := if g.hiddenLabel then none else some g.displayLabel
  hidden := g.isHidden
  fields := g.fields.map (Field.view values errors (some g.name))

mutual

/-- The part as it is shown. -/
def Node.view (values : ValueTree) (errors : ErrorMap) : Node → NodeView
  | .field f => .field (f.view values errors none)
  | .group g => .group (g.view values errors)
  | .block name label nodes => .block name label (Node.viewAll values errors nodes)

/-- The parts of a list as they are shown. -/
def Node.viewAll (values : ValueTree) (errors : ErrorMap) : List Node → List NodeView
  | [] => []
  | n :: ns => Node.view values errors n :: Node.viewAll values errors ns

end

/-- How progress shows a stage. -/
def Navigation.progressState (n : Navigation) (index : Nat) : ProgressState :=
  if index = n.current then .current
  else
    match n.status? index with
    | some .complete => .complete
    | some .incomplete => .incomplete
    | _ => .untouched

/-- A stage as progress shows it. -/
def Navigation.progressStep (n : Navigation) (s : Stage) (index : Nat) : ProgressStep :=
  ⟨index, s.title, n.progressState index, n.canJumpTo index⟩

/-- The stage as it is shown. -/
def Stage.view (values : ValueTree) (errors : ErrorMap) (index : Nat) (s : Stage) : StageView :=
  ⟨index, s.name, s.title, Node.viewAll values errors s.nodes⟩

/-- The session as it is shown. -/
def Session.view (c : CompiledForm) (s : Session) : View where
  name := c.form.name
  description := c.form.description
  showStageNames := c.form.showStageNames
  progress := c.form.stages.zipIdx.map fun (stage, i) ↦ s.navigation.progressStep stage i
  stage := c.form.stages[s.current]?.map (Stage.view s.values s.visibleErrors s.current)
  isLastStage := s.navigation.isLastStage

end FormWizard
