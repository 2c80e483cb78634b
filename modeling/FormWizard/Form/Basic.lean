import Std.Data.ExtTreeMap
import FormWizard.FieldPath
import FormWizard.Text.Title
import FormWizard.Value

/-!
# Forms

A `Form` is a list of stages that are filled in one after the other. A stage holds fields, groups of
fields, and blocks. A group keeps the values of its fields together under its name; a block is there
for layout only and may hold anything a stage holds.

`Node.flatten` takes blocks away. What is left are fields and groups, and `Form.entries` lists each
field with the path of its value, in the order of the document. Several fields may have one path.
-/

namespace FormWizard

/-- The kinds of input controls. -/
inductive InputType where
  | text
  | textarea
  | email
  | number
  | select
  | multiselect
  | password
  | checkbox
  | radio
  | date
  | file
  | toggle
  | color
  | range
  | time
  | url
  | hidden
  | button
deriving DecidableEq, Repr

namespace InputType

/-- All kinds of input controls. -/
def all : List InputType :=
  [.text, .textarea, .email, .number, .select, .multiselect, .password, .checkbox, .radio, .date,
    .file, .toggle, .color, .range, .time, .url, .hidden, .button]

/-- The name of a kind in documents. -/
def name : InputType → String
  | .text => "text"
  | .textarea => "textarea"
  | .email => "email"
  | .number => "number"
  | .select => "select"
  | .multiselect => "multiselect"
  | .password => "password"
  | .checkbox => "checkbox"
  | .radio => "radio"
  | .date => "date"
  | .file => "file"
  | .toggle => "toggle"
  | .color => "color"
  | .range => "range"
  | .time => "time"
  | .url => "url"
  | .hidden => "hidden"
  | .button => "button"

/-- The kind of a name. -/
def ofName? (name : String) : Option InputType := all.find? (·.name == name)

/-- Whether the control offers options to choose from. -/
def isChoice (t : InputType) : Bool := t = .select || t = .multiselect || t = .radio

end InputType

/-- The options of a field. -/
inductive Options where
  /-- The same options at all times. -/
  | fixed (options : List String)
  /-- Options by the value of another field. -/
  | keyed (lists : Std.ExtTreeMap String (List String) compare)

/-- What a validation rule demands. -/
inductive RuleKind where
  /-- The text holds a match of a pattern. -/
  | regex (pattern : String)
  /-- A formula holds. -/
  | function (body : String)
  /-- Something was entered. -/
  | required
  /-- The text is at least as long as the field says. -/
  | minLength
  /-- The text is at most as long as the field says. -/
  | maxLength
  /-- The number is at least what the field says. -/
  | minValue
  /-- The number is at most what the field says. -/
  | maxValue
  /-- Nothing: the kind is unknown, or what belongs to it is missing. -/
  | unsupported (kind : String)
deriving DecidableEq, Repr

/-- A validation rule of a field. -/
structure ValidationRule where
  /-- What is demanded. -/
  kind : RuleKind
  /-- The message for a value that does not meet it; none if empty. -/
  message : String
deriving DecidableEq, Repr

/-- An input control with its value. -/
structure Field where
  /-- The name of the value. -/
  name : String
  /-- The kind of control. -/
  inputType : InputType
  /-- The label, if it is not made from the name. -/
  label : Option String
  /-- Whether the label is left out. -/
  hiddenLabel : Bool
  /-- The text shown while nothing is entered. -/
  placeholder : Option String
  /-- The value at the start. -/
  defaultValue : Option Value
  /-- The least length that a rule may demand. -/
  minLength : Option Nat
  /-- The greatest length that a rule may demand. -/
  maxLength : Option Nat
  /-- The least number that a rule may demand. -/
  min : Option Float
  /-- The greatest number that a rule may demand. -/
  max : Option Float
  /-- The distance between numbers that the control offers. -/
  step : Option Float
  /-- The options to choose from. -/
  options : Option Options
  /-- The field whose value chooses among keyed options. -/
  optionsDependentOn : Option String
  /-- The formula of a computed field. -/
  valueCalculation : Option String
  /-- Whether several options can be chosen. -/
  isMultiSelect : Bool
  /-- Whether something has to be entered. -/
  required : Bool
  /-- The validation rules. -/
  validations : List ValidationRule
  /-- The fields that have to be filled in before this one can be. -/
  disabledDependencies : List String
  /-- Whether the control is left out. -/
  isHidden : Bool
  /-- Whether the value cannot be entered. -/
  isReadOnly : Bool
  /-- The icon in front of the control. -/
  leftIcon : Option String
  /-- The icon behind the control. -/
  rightIcon : Option String

/-- The label of the field. -/
def Field.displayLabel (f : Field) : String := f.label.getD (Text.titleCase f.name)

/-- Whether the value of the field is computed. -/
def Field.isComputed (f : Field) : Bool := f.valueCalculation.isSome

/-- The value of the field at the start. -/
def Field.initialValue (f : Field) : Value := f.defaultValue.getD Value.empty

/-- Fields whose values are kept together. -/
structure Group where
  /-- The name under which the values are kept. -/
  name : String
  /-- The label, if it is not made from the name. -/
  label : Option String
  /-- Whether the label is left out. -/
  hiddenLabel : Bool
  /-- Whether the group is left out. -/
  isHidden : Bool
  /-- The fields. -/
  fields : List Field

/-- The label of the group. -/
def Group.displayLabel (g : Group) : String := g.label.getD (Text.titleCase g.name)

/-- A part of a stage. -/
inductive Node where
  /-- A field. -/
  | field (f : Field)
  /-- A group of fields. -/
  | group (g : Group)
  /-- A labelled block, for layout only. -/
  | block (name : String) (label : Option String) (nodes : List Node)

/-- The name of a part. -/
def Node.name : Node → String
  | .field f => f.name
  | .group g => g.name
  | .block name _ _ => name

/-- A step of the form. -/
structure Stage where
  /-- The name of the stage. -/
  name : String
  /-- The label, if it is not made from the name. -/
  label : Option String
  /-- The parts of the stage. -/
  nodes : List Node

/-- The title of the stage. -/
def Stage.title (s : Stage) : String := s.label.getD (Text.titleCase s.name)

/-- A form in several stages. -/
structure Form where
  /-- The name of the form. -/
  name : String
  /-- What the form is for. -/
  description : Option String
  /-- Whether the titles of the stages are shown. -/
  showStageNames : Bool
  /-- The stages in order. -/
  stages : List Stage

/-- A field or a group, wherever it stood among blocks. -/
inductive FlatNode where
  /-- A field. -/
  | field (f : Field)
  /-- A group of fields. -/
  | group (g : Group)

/-- The name of a field or group. -/
def FlatNode.name : FlatNode → String
  | .field f => f.name
  | .group g => g.name

mutual

/-- The fields and groups of a part. -/
def Node.flatten : Node → List FlatNode
  | .field f => [.field f]
  | .group g => [.group g]
  | .block _ _ nodes => Node.flattenAll nodes

/-- The fields and groups of a list of parts. -/
def Node.flattenAll : List Node → List FlatNode
  | [] => []
  | n :: ns => n.flatten ++ Node.flattenAll ns

end

/-- The fields and groups of a stage. -/
def Stage.flatten (s : Stage) : List FlatNode := Node.flattenAll s.nodes

/-- A field of a form with the path of its value. -/
structure Entry where
  /-- The index of the stage that holds the field. -/
  stage : Nat
  /-- The path of the value. -/
  path : FieldPath
  /-- The field. -/
  field : Field

/-- The entries of a field or group in a stage. -/
def FlatNode.entries (stage : Nat) : FlatNode → List Entry
  | .field f => [⟨stage, .root f.name, f⟩]
  | .group g => g.fields.map fun f ↦ ⟨stage, .grouped g.name f.name, f⟩

namespace Form

/-- All fields of the form with their paths, in order. -/
def entries (form : Form) : List Entry :=
  form.stages.zipIdx.flatMap fun (s, i) ↦ s.flatten.flatMap (·.entries i)

/-- The first field with a path. -/
def field? (form : Form) (p : FieldPath) : Option Field :=
  (form.entries.find? fun e ↦ e.path = p).map Entry.field

end Form

end FormWizard
