import FormWizard.Form.Basic
import FormWizard.Json.Record
import FormWizard.Json.Source

/-!
# Forms read from documents

The parts of a stage are told apart by their member `type`, which is `field`, `group` or `section`.
Members that are not known are passed over. A stage and the form itself are read member by member,
so what is passed over in them need not denote anything; a part of a stage has to be readable as a
whole.

Inside a section the type of a part may also be its number, from zero.
-/

namespace FormWizard

namespace InputType

/-- The kind that a document names: by its name, or as the single member of an object that holds
nothing else, which is `null` or, if so allowed, an empty object. -/
def ofJson? (allowEmptyObject : Bool) : Json → Option InputType
  | .text name => ofName? name
  | .object [(name, .null)] => ofName? name
  | .object [(name, .object [])] => if allowEmptyObject then ofName? name else none
  | _ => none

end InputType

namespace Options

/-- Options that are the same at all times, or lists by key, of which the last one counts. -/
def ofJson? : Json → Option Options
  | .array items => (items.mapM Json.text?).map .fixed
  | .object members => do
    let lists ← members.mapM fun (key, j) ↦ (j.list? Json.text?).map (key, ·)
    some (.keyed (lists.foldl (fun m (key, options) ↦ m.insert key options) ∅))
  | _ => none

end Options

namespace ValidationRule

/-- The members of a rule. -/
def members : List Member :=
  [⟨"type", [], false⟩, ⟨"regex", [], false⟩, ⟨"function", [], false⟩, ⟨"message", [], true⟩]

/-- The demand of a rule of a kind, given its pattern and its formula. -/
def kindOf (kind : String) (regex function : Option String) : RuleKind :=
  match kind, regex, function with
  | "Regex", some pattern, _ => .regex pattern
  | "Function", _, some body => .function body
  | "Required", _, _ => .required
  | "MinLength", _, _ => .minLength
  | "MaxLength", _, _ => .maxLength
  | "MinValue", _, _ => .minValue
  | "MaxValue", _, _ => .maxValue
  | kind, _, _ => .unsupported kind

/-- The rule that a document is. -/
def ofJson? (j : Json) : Option ValidationRule := do
  let r ← Record.ofJson? members j
  let kind ← r.required "type" Json.text?
  let regex ← r.optional "regex" Json.text?
  let function ← r.optional "function" Json.text?
  let message ← r.withDefault "message" Json.text? ""
  some ⟨kindOf kind regex function, message⟩

end ValidationRule

namespace Field

/-- The members of a field. -/
def members : List Member :=
  [⟨"name", [], false⟩, ⟨"inputType", [], true⟩, ⟨"label", [], false⟩, ⟨"hiddenLabel", [], true⟩,
    ⟨"placeholder", [], false⟩, ⟨"defaultValue", [], false⟩, ⟨"minLength", [], false⟩,
    ⟨"maxLength", [], false⟩, ⟨"min", [], false⟩, ⟨"max", [], false⟩, ⟨"step", [], false⟩,
    ⟨"options", [], false⟩, ⟨"optionsDependentOn", [], false⟩, ⟨"valueCalculation", [], false⟩,
    ⟨"isMultiSelect", [], true⟩, ⟨"required", [], true⟩, ⟨"validation", [], true⟩,
    ⟨"disabledDependencies", [], true⟩, ⟨"isHidden", [], true⟩, ⟨"isReadOnly", [], true⟩,
    ⟨"leftIcon", [], false⟩, ⟨"rightIcon", [], false⟩]

/-- The field that a document is. -/
def ofJson? (allowEmptyObject : Bool) (j : Json) : Option Field := do
  let r ← Record.ofJson? members j
  let name ← r.required "name" Json.text?
  let inputType ← r.withDefault "inputType" (InputType.ofJson? allowEmptyObject) .text
  let label ← r.optional "label" Json.text?
  let hiddenLabel ← r.withDefault "hiddenLabel" Json.bool? false
  let placeholder ← r.optional "placeholder" Json.text?
  let defaultValue ← r.optional "defaultValue" Value.ofJson?
  let minLength ← r.optional "minLength" Json.count?
  let maxLength ← r.optional "maxLength" Json.count?
  let min ← r.optional "min" Json.number?
  let max ← r.optional "max" Json.number?
  let step ← r.optional "step" Json.number?
  let options ← r.optional "options" Options.ofJson?
  let optionsDependentOn ← r.optional "optionsDependentOn" Json.text?
  let valueCalculation ← r.optional "valueCalculation" Json.text?
  let isMultiSelect ← r.withDefault "isMultiSelect" Json.bool? false
  let required ← r.withDefault "required" Json.bool? false
  let validations ← r.withDefault "validation" (Json.list? ValidationRule.ofJson?) []
  let disabledDependencies ← r.withDefault "disabledDependencies" (Json.list? Json.text?) []
  let isHidden ← r.withDefault "isHidden" Json.bool? false
  let isReadOnly ← r.withDefault "isReadOnly" Json.bool? false
  let leftIcon ← r.optional "leftIcon" Json.text?
  let rightIcon ← r.optional "rightIcon" Json.text?
  some {
    name, inputType, label, hiddenLabel, placeholder, defaultValue, minLength, maxLength, min, max,
    step, options, optionsDependentOn, valueCalculation, isMultiSelect, required, validations,
    disabledDependencies, isHidden, isReadOnly, leftIcon, rightIcon }

end Field

namespace Group

/-- The members of a group. -/
def members : List Member :=
  [⟨"name", [], false⟩, ⟨"label", [], true⟩, ⟨"hiddenLabel", [], true⟩, ⟨"isHidden", [], true⟩,
    ⟨"fields", [], true⟩]

/-- The group that a document is. -/
def ofJson? (allowEmptyObject : Bool) (j : Json) : Option Group := do
  let r ← Record.ofJson? members j
  let name ← r.required "name" Json.text?
  let label ← r.optional "label" Json.text?
  let hiddenLabel ← r.withDefault "hiddenLabel" Json.bool? false
  let isHidden ← r.withDefault "isHidden" Json.bool? false
  let fields ← r.withDefault "fields" (Json.list? (Field.ofJson? allowEmptyObject)) []
  some { name, label, hiddenLabel, isHidden, fields }

end Group

/-- The types of parts in documents. -/
inductive NodeType where
  /-- A field. -/
  | field
  /-- A group. -/
  | group
  /-- A block. -/
  | block
deriving DecidableEq, Repr

/-- The type that a document names, by a number only if so allowed. -/
def NodeType.ofJson? (allowNumber : Bool) : Json → Option NodeType
  | .text "field" => some .field
  | .text "group" => some .group
  | .text "section" => some .block
  | .whole 0 => if allowNumber then some .field else none
  | .whole 1 => if allowNumber then some .group else none
  | .whole 2 => if allowNumber then some .block else none
  | _ => none

namespace Node

/-- The members of a block. -/
def blockMembers : List Member := [⟨"name", [], false⟩, ⟨"label", [], true⟩, ⟨"fields", [], true⟩]

/-- The part of a type whose other members are a document. The parts inside a block are given. -/
def ofType? (type : NodeType) (body : Json) (inside : Option (List Node)) : Option Node :=
  match type with
  | .field => (Field.ofJson? true body).map .field
  | .group => (Group.ofJson? true body).map .group
  | .block => do
    let r ← Record.ofJson? blockMembers body
    let name ← r.required "name" Json.text?
    let label ← r.optional "label" Json.text?
    let nodes ← inside
    some (.block name label nodes)

mutual

/-- The part that a readable document is. -/
def ofJson? (nested : Bool) : Json → Option Node
  | .object members =>
    match members.filter (·.1 == "type") with
    | [(_, type)] => do
      let type ← NodeType.ofJson? nested type
      ofType? type (.object (members.filter (·.1 != "type"))) (insideObject members)
    | _ => none
  | .array (type :: items) => do
    let type ← NodeType.ofJson? nested type
    ofType? type (.array items) (insideItems 2 items)
  | _ => none

/-- The parts under the member `fields`. -/
def insideObject : List (String × Json) → Option (List Node)
  | [] => some []
  | (name, j) :: members => if name = "fields" then inside j else insideObject members

/-- The parts in the item of a list at a place. -/
def insideItems : Nat → List Json → Option (List Node)
  | _, [] => some []
  | 0, j :: _ => inside j
  | n + 1, _ :: js => insideItems n js

/-- The parts that a list inside a block holds. -/
def inside : Json → Option (List Node)
  | .array items => insideAll items
  | _ => none

/-- The parts that the documents of a list are. -/
def insideAll : List Json → Option (List Node)
  | [] => some []
  | j :: js => do
    let n ← ofJson? true j
    let ns ← insideAll js
    some (n :: ns)

end

end Node

/-- The members of a stage. -/
def Stage.members : List Member := [⟨"name", [], false⟩, ⟨"label", [], true⟩, ⟨"fields", [], true⟩]

/-- The stage that a document is. -/
def Stage.ofJson? (j : Json) : Option Stage := do
  let r ← Record.ofJson? members j
  let name ← r.required "name" Json.text?
  let label ← r.optional "label" Json.text?
  let part? (j : Json) : Option Node := if j.readable then Node.ofJson? false j else none
  let nodes ← r.withDefault "fields" (Json.list? part?) []
  some { name, label, nodes }

namespace Form

/-- Whether titles of stages are shown, given a member that shows and one that hides them. -/
def stageNamesShown (shown hidden : Option Bool) : Bool := (shown.or (hidden.map (!·))).getD true

/-- The members of a form. -/
def members : List Member :=
  [⟨"name", [], false⟩, ⟨"description", [], true⟩, ⟨"showStageNames", ["showformStageName"], true⟩,
    ⟨"hideName", [], true⟩, ⟨"stages", ["formGroup"], true⟩]

/-- The form that a document is. -/
def ofJson? (j : Json) : Option Form := do
  let r ← Record.ofJson? members j
  let name ← r.required "name" Json.text?
  let description ← r.optional "description" Json.text?
  let shown ← r.optional "showStageNames" Json.bool?
  let hidden ← r.optional "hideName" Json.bool?
  let stages ← r.withDefault "stages" (Json.list? Stage.ofJson?) []
  some { name, description, showStageNames := stageNamesShown shown hidden, stages }

/-- The form that a text is. -/
def ofText? (text : String) : Option Form := (Json.ofText? text).bind ofJson?

end Form

end FormWizard
