import FormWizard.Form.Document

/-!
# Forms read from older documents

Older documents do not say what the parts of a stage are; it shows in their members. A part with the
flag `isSection`, or with `fields` and no type that is a text, is a block; one with the flag
`isGroup` or the type `group` is a group; anything else is a field, whose type is its kind of
control unless a member `inputType` is there as well.

A part is first brought to its normal form (`Json.free`) and then converted. `LegacyError` tells the
part that has no place in a form.
-/

namespace FormWizard

/-- Why an older document is no form. -/
inductive LegacyError where
  /-- The text is no document with the members of a form. -/
  | unreadable
  /-- A part of a stage is no object. -/
  | notAnObject (stage : String) (found : Json)
  /-- A part of a stage has members that do not fit. -/
  | unfit (stage node : String)

/-- The wording of the error. -/
def LegacyError.message : LegacyError → String
  | .unreadable => "Failed to parse form configuration JSON"
  | .notAnObject stage found =>
    s!"Node '{found.compact}' in stage '{stage}' could not be converted: expected an object"
  | .unfit stage node => s!"Node '{node}' in stage '{stage}' could not be converted"

namespace Legacy

/-- Whether a flag is set. -/
def flag (name : String) (members : List (String × Json)) : Bool :=
  ((Json.member? name members).bind Json.bool?).getD false

/-- The member `type`, if it is a text. -/
def type? (members : List (String × Json)) : Option String :=
  (Json.member? "type" members).bind Json.text?

/-- The name of a part. -/
def nodeName (members : List (String × Json)) : String :=
  ((Json.member? "name" members).bind Json.text?).getD "<unnamed>"

/-- The members without one of them. -/
def without (name : String) (members : List (String × Json)) : List (String × Json) :=
  members.filter (·.1 != name)

/-- Whether the part is a block. -/
def isBlock (members : List (String × Json)) : Bool :=
  flag "isSection" members
    || ((Json.member? "fields" members).isSome && (type? members).isNone)

/-- Whether a part that is no block is a group. -/
def isGroup (members : List (String × Json)) : Bool :=
  flag "isGroup" members || type? members = some "group"

/-- The members of a field under the names they have now. -/
def fieldMembers (members : List (String × Json)) : List (String × Json) :=
  match Json.member? "type" members with
  | none => members
  | some type =>
    let rest := without "type" members
    if (Json.member? "inputType" rest).isSome then rest else ("inputType", type) :: rest

/-- The field that a part is. -/
def field (stage : String) : Json → Except LegacyError Field
  | .object members =>
    match Field.ofJson? false (.object (fieldMembers members)) with
    | some f => .ok f
    | none => .error (.unfit stage (nodeName members))
  | j => .error (.notAnObject stage j)

/-- The parts in the member `fields` of a group or block, none if it is no list. -/
def children (members : List (String × Json)) : List Json :=
  match Json.member? "fields" members with
  | some (.array items) => items
  | _ => []

/-- The group that a part is. -/
def group (stage : String) (members : List (String × Json)) : Except LegacyError Group := do
  let header := without "type" (without "fields" members)
  match Group.ofJson? false (.object header) with
  | none => .error (.unfit stage "group")
  | some g =>
    let fields ← (children members).mapM (field stage)
    return { g with fields }

mutual

/-- The part of a stage that a document in normal form is. -/
def node (stage : String) : Json → Except LegacyError Node
  | .object members =>
    if isBlock members then do
      let nodes ← nodesOf stage members
      let label := (Json.member? "label" members).bind Json.text?
      return .block (nodeName members) label nodes
    else if isGroup members then (group stage members).map .group
    else (field stage (.object members)).map .field
  | j => .error (.notAnObject stage j)

/-- The parts in the member `fields`, none if it is no list. -/
def nodesOf (stage : String) : List (String × Json) → Except LegacyError (List Node)
  | [] => .ok []
  | (name, j) :: members => if name = "fields" then nodesIn stage j else nodesOf stage members

/-- The parts in a list, none if the document is no list. -/
def nodesIn (stage : String) : Json → Except LegacyError (List Node)
  | .array items => nodes stage items
  | _ => .ok []

/-- The parts that the documents of a list are. -/
def nodes (stage : String) : List Json → Except LegacyError (List Node)
  | [] => .ok []
  | j :: js => do
    let n ← node stage j
    let ns ← nodes stage js
    return n :: ns

end

/-- The members of a stage before its parts are converted. -/
structure StageHeader where
  /-- The name of the stage. -/
  name : String
  /-- The label of the stage. -/
  label : Option String
  /-- The parts of the stage in normal form. -/
  parts : List Json

/-- Reads a stage, whose parts have to be readable. -/
def StageHeader.ofJson? (j : Json) : Option StageHeader := do
  let r ← Record.ofJson? Stage.members j
  let name ← r.required "name" Json.text?
  let label ← r.optional "label" Json.text?
  let part? (j : Json) : Option Json := if j.readable then some j.free else none
  let parts ← r.withDefault "fields" (Json.list? part?) []
  some { name, label, parts }

/-- Converts the parts of a stage. -/
def StageHeader.toStage (h : StageHeader) : Except LegacyError Stage := do
  let nodes ← nodes h.name h.parts
  return ⟨h.name, h.label, nodes⟩

/-- The members of a form. -/
def formMembers : List Member :=
  [⟨"name", [], false⟩, ⟨"description", [], true⟩,
    ⟨"show_stage_names", ["showformStageName"], true⟩, ⟨"hideName", [], true⟩,
    ⟨"stages", ["formGroup"], false⟩]

/-- A form before the parts of its stages are converted. -/
structure Header where
  /-- The name of the form. -/
  name : String
  /-- What the form is for. -/
  description : Option String
  /-- Whether the titles of the stages are shown. -/
  showStageNames : Bool
  /-- The stages. -/
  stages : List StageHeader

/-- Reads a form. -/
def Header.ofJson? (j : Json) : Option Header := do
  let r ← Record.ofJson? formMembers j
  let name ← r.required "name" Json.text?
  let description ← r.optional "description" Json.text?
  let shown ← r.optional "show_stage_names" Json.bool?
  let hidden ← r.optional "hideName" Json.bool?
  let stages ← r.required "stages" (Json.list? StageHeader.ofJson?)
  some { name, description, showStageNames := Form.stageNamesShown shown hidden, stages }

/-- Converts the stages of a form. -/
def Header.toForm (h : Header) : Except LegacyError Form := do
  let stages ← h.stages.mapM StageHeader.toStage
  return ⟨h.name, h.description, h.showStageNames, stages⟩

end Legacy

/-- The form that an older document is. -/
def Form.ofLegacyJson (j : Json) : Except LegacyError Form :=
  match Legacy.Header.ofJson? j with
  | some h => h.toForm
  | none => .error .unreadable

/-- The form that the text of an older document is. -/
def Form.ofLegacyText (text : String) : Except LegacyError Form :=
  match Json.ofText? text with
  | some j => ofLegacyJson j
  | none => .error .unreadable

end FormWizard
