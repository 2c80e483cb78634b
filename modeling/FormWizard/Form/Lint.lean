import FormWizard.Form.Basic

/-!
# Findings about forms

Values are kept by name, so names have to differ where they meet, hold no point, and be known where
another field depends on them. `Form.lint` lists where a form breaks these conventions, in the order
of the document. Findings forbid nothing.
-/

namespace FormWizard

/-- A broken convention. -/
inductive Finding where
  /-- There are no stages. -/
  | noStages
  /-- A name that an earlier child of the same parent has already. -/
  | duplicateName (parent name : String)
  /-- A name with a point in it. -/
  | dottedName (name : String)
  /-- Keyed options, and no field that chooses among them. -/
  | missingDependency (field : String)
  /-- A path on which a field depends, and no field that has it. -/
  | unresolvedDependency (field path : String)
deriving DecidableEq, Repr

/-- The wording of the finding. -/
def Finding.message : Finding → String
  | .noStages => "form declares no stages"
  | .duplicateName parent name => s!"'{parent}' declares more than one child named '{name}'"
  | .dottedName name => s!"name '{name}' contains a '.', which collides with path syntax"
  | .missingDependency field => s!"field '{field}' has keyed options but no optionsDependentOn"
  | .unresolvedDependency field path =>
    s!"field '{field}' depends on '{path}', which names no field of this form"

namespace Lint

/-- The names that were seen before, in order. -/
def repeated (seen : List String) : List String → List String
  | [] => []
  | name :: names =>
    if seen.contains name then name :: repeated seen names else repeated (name :: seen) names

/-- Names that children of a parent share. -/
def unique (parent : String) (names : List String) : List Finding :=
  (repeated [] names).map (.duplicateName parent)

/-- A point in a name. -/
def dotted (name : String) : List Finding :=
  if name.toList.contains '.' then [.dottedName name] else []

/-- Whether a dependency of a field, in a group or not, names a field of the form. A name without a
group is looked for in the group first. -/
def resolves (form : Form) (group : Option String) (dependency : String) : Bool :=
  match FieldPath.ofText dependency with
  | .error _ => false
  | .ok p =>
    let inGroup := match p.group, group with
      | none, some g => (form.field? (.grouped g p.name)).isSome
      | _, _ => false
    inGroup || (form.field? p).isSome

/-- Whether options are keyed. -/
def isKeyed : Option Options → Bool
  | some (.keyed _) => true
  | _ => false

/-- The fields that a field depends on. -/
def dependencies (f : Field) : List String := f.optionsDependentOn.toList ++ f.disabledDependencies

/-- Findings about a field. -/
def field (form : Form) (group : Option String) (f : Field) : List Finding :=
  let missing :=
    if isKeyed f.options && f.optionsDependentOn.isNone then [.missingDependency f.name] else []
  let unresolved := (dependencies f).filter fun d ↦ !resolves form group d
  dotted f.name ++ missing ++ unresolved.map (.unresolvedDependency f.name)

mutual

/-- Findings about a part. -/
def node (form : Form) : Node → List Finding
  | .field f => field form none f
  | .group g =>
    dotted g.name ++ unique g.name (g.fields.map Field.name)
      ++ g.fields.flatMap (field form (some g.name))
  | .block name _ nodes => unique name (nodes.map Node.name) ++ nodeAll form nodes

/-- Findings about each part of a list. -/
def nodeAll (form : Form) : List Node → List Finding
  | [] => []
  | n :: ns => node form n ++ nodeAll form ns

end

/-- Findings about a stage. -/
def stage (form : Form) (s : Stage) : List Finding :=
  unique s.name (s.nodes.map Node.name) ++ nodeAll form s.nodes

end Lint

/-- The findings about a form. -/
def Form.lint (form : Form) : List Finding :=
  (if form.stages.isEmpty then [.noStages] else [])
    ++ Lint.unique form.name (form.stages.map Stage.name)
    ++ form.stages.flatMap (Lint.stage form)

end FormWizard
