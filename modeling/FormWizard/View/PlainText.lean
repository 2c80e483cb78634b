import FormWizard.Text.Quoted
import FormWizard.View.Basic

/-!
# Views as plain text

One line per control, indented by two blanks for each group or block around it. Fields and groups
that are hidden take no line, and a block without a label takes none for itself.
-/

namespace FormWizard

/-- The mark of a stage in the line of progress. -/
def ProgressState.mark : ProgressState → String
  | .current => ">"
  | .complete => "+"
  | .incomplete => "!"
  | .untouched => " "

/-- A stage in the line of progress. -/
def ProgressStep.toText (p : ProgressStep) : String :=
  s!"[{p.state.mark}] {p.index + 1}. {p.title}"

namespace View

/-- The blank space in front of a line at some depth. -/
def indent (depth : Nat) : String := String.ofList (List.replicate (2 * depth) ' ')

/-- The lines of a field. -/
def fieldLines (depth : Nat) (f : FieldView) : List String :=
  if f.hidden then []
  else
    let label := f.label.getD f.path.toText
    let required := if f.required then "*" else ""
    let disabled := if f.disabled then " (disabled)" else ""
    let options :=
      if f.options.isEmpty then "" else " [" ++ " | ".intercalate f.options ++ "]"
    let error := match f.error with
      | some message => "  <- " ++ message
      | none => ""
    [s!"{indent depth}{label}{required} = {Text.quoted f.value.shown}{disabled}{options}{error}"]

/-- The lines of a group. -/
def groupLines (depth : Nat) (g : GroupView) : List String :=
  if g.hidden then []
  else s!"{indent depth}{g.label.getD g.name}:" :: g.fields.flatMap (fieldLines (depth + 1))

mutual

/-- The lines of a part. -/
def nodeLines (depth : Nat) : NodeView → List String
  | .field f => fieldLines depth f
  | .group g => groupLines depth g
  | .block _ label nodes =>
    let heading := match label with
      | some label => [s!"{indent depth}# {label}"]
      | none => []
    heading ++ nodeLinesAll (depth + 1) nodes

/-- The lines of the parts of a list. -/
def nodeLinesAll (depth : Nat) : List NodeView → List String
  | [] => []
  | n :: ns => nodeLines depth n ++ nodeLinesAll depth ns

end

/-- The line of progress, if titles are shown and there are any. -/
def progressLines (v : View) : List String :=
  if v.showStageNames && !v.progress.isEmpty then
    ["  ".intercalate (v.progress.map ProgressStep.toText)]
  else []

/-- The lines of the current stage. -/
def stageLines (v : View) : List String :=
  match v.stage with
  | some stage => s!"-- {stage.title} --" :: nodeLinesAll 1 stage.nodes
  | none => []

/-- The lines of the view. -/
def lines (v : View) : List String :=
  s!"== {v.name} ==" :: v.description.toList ++ v.progressLines ++ v.stageLines

/-- The view as plain text, every line ended. -/
def toText (v : View) : String := String.join (v.lines.map (· ++ "\n"))

end View

end FormWizard
