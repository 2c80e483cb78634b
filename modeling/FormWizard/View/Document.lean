import FormWizard.View.Basic

/-!
# Views as documents

A view as a JSON document, for programs that draw it themselves. Absent members are `null`, and a
number that is not finite is too.
-/

namespace FormWizard

/-- The name of the state in documents. -/
def ProgressState.name : ProgressState → String
  | .current => "current"
  | .complete => "complete"
  | .incomplete => "incomplete"
  | .untouched => "untouched"

/-- A text that may be absent. -/
def Json.ofText (s : Option String) : Json := (s.map Json.text).getD .null

/-- A number that may be absent. -/
def Json.ofNumber (x : Option Float) : Json := (x.map fun x ↦ (Value.number x).toJson).getD .null

/-- A stage of the progress as a document. -/
def ProgressStep.toJson (p : ProgressStep) : Json := .object
  [("index", .whole p.index), ("title", .text p.title), ("state", .text p.state.name),
    ("clickable", .bool p.clickable)]

/-- The members of a field. -/
def FieldView.members (f : FieldView) : List (String × Json) :=
  [("path", .text f.path.toText), ("label", .ofText f.label),
    ("inputType", .text f.inputType.name), ("value", f.value.toJson),
    ("options", .array (f.options.map Json.text)), ("error", .ofText f.error),
    ("required", .bool f.required), ("disabled", .bool f.disabled),
    ("readOnly", .bool f.readOnly), ("hidden", .bool f.hidden),
    ("multiSelect", .bool f.multiSelect), ("placeholder", .ofText f.placeholder),
    ("min", .ofNumber f.min), ("max", .ofNumber f.max), ("step", .ofNumber f.step),
    ("leftIcon", .ofText f.leftIcon), ("rightIcon", .ofText f.rightIcon)]

/-- The members of a group. -/
def GroupView.members (g : GroupView) : List (String × Json) :=
  [("name", .text g.name), ("label", .ofText g.label), ("hidden", .bool g.hidden),
    ("fields", .array (g.fields.map fun f ↦ .object f.members))]

mutual

/-- A part of a stage as a document. -/
def NodeView.toJson : NodeView → Json
  | .field f => .object (("kind", .text "field") :: f.members)
  | .group g => .object (("kind", .text "group") :: g.members)
  | .block name label nodes => .object
    [("kind", .text "section"), ("name", .text name), ("label", .ofText label),
      ("blocks", .array (NodeView.toJsonAll nodes))]

/-- The parts of a list as documents. -/
def NodeView.toJsonAll : List NodeView → List Json
  | [] => []
  | n :: ns => n.toJson :: NodeView.toJsonAll ns

end

/-- A stage as a document. -/
def StageView.toJson (s : StageView) : Json := .object
  [("index", .whole s.index), ("name", .text s.name), ("title", .text s.title),
    ("blocks", .array (NodeView.toJsonAll s.nodes))]

/-- A view as a document. -/
def View.toJson (v : View) : Json := .object
  [("name", .text v.name), ("description", .ofText v.description),
    ("showStageNames", .bool v.showStageNames),
    ("progress", .array (v.progress.map ProgressStep.toJson)),
    ("stage", (v.stage.map StageView.toJson).getD .null), ("isLastStage", .bool v.isLastStage)]

end FormWizard
