import FormWizard.Session

/-!
# Scripts

A `Script` is a list of steps that a user takes in a session, read from a document and replayed. The
kind of a step is its member `action`; steps without members of their own pass over all
others.
-/

namespace FormWizard

/-- A step of a script. -/
inductive Step where
  /-- Enters a value. -/
  | change (path : String) (v : Value)
  /-- Submits the current stage. -/
  | next
  /-- Goes back one stage. -/
  | previous
  /-- Jumps to a stage. -/
  | jump (stage : Nat)
deriving DecidableEq

/-- The answer to a step. -/
inductive StepOutcome where
  /-- An edit was accepted or refused. -/
  | changed (path : String) (accepted : Bool)
  /-- The path of an edit is no path. -/
  | invalidPath (path : String) (error : PathError)
  /-- A request to go somewhere was answered. -/
  | navigated (t : Transition)

/-- A list of steps. -/
structure Script where
  /-- The steps. -/
  steps : List Step

namespace Step

/-- Takes a step in a session. -/
def apply (c : CompiledForm) (s : Session) (shared : SharedState) :
    Step → StepOutcome × Session × SharedState
  | .change path v =>
    match s.change c path v with
    | (.ok accepted, s) => (.changed path accepted, s, shared)
    | (.error e, s) => (.invalidPath path e, s, shared)
  | .next =>
    let (t, s, shared) := s.submitInto c shared
    (.navigated t, s, shared)
  | .previous =>
    let (t, s) := s.previous c
    (.navigated t, s, shared)
  | .jump stage =>
    let (t, s) := s.jumpTo c stage
    (.navigated t, s, shared)

/-- The members of a step that enters a value. -/
def changeMembers : List Member := [⟨"path", [], false⟩, ⟨"value", [], false⟩]

/-- The members of a step that jumps. -/
def jumpMembers : List Member := [⟨"stage", [], false⟩]

/-- Whether a document is a list with items in it. -/
def hasItems : Json → Bool
  | .array (_ :: _) => true
  | _ => false

/-- The step of a kind whose other members are a document. -/
def ofKind? (kind : String) (body : Json) : Option Step :=
  match kind with
  | "change" => do
    let r ← Record.ofJson? changeMembers body
    let path ← r.required "path" Json.text?
    let v ← r.required "value" Value.ofJson?
    some (.change path v)
  | "next" => if hasItems body then none else some .next
  | "previous" => if hasItems body then none else some .previous
  | "jump" => do
    let r ← Record.ofJson? jumpMembers body
    let stage ← r.required "stage" Json.count?
    some (.jump stage)
  | _ => none

/-- The step that a document is. -/
def ofJson? (j : Json) : Option Step :=
  if !j.readable then none
  else
    match j with
    | .object members =>
      match members.filter (·.1 == "action") with
      | [(_, .text kind)] => ofKind? kind (.object (members.filter (·.1 != "action")))
      | _ => none
    | .array (.text kind :: items) => ofKind? kind (.array items)
    | _ => none

end Step

namespace Script

/-- The members of a script. -/
def members : List Member := [⟨"steps", [], false⟩]

/-- The script that a document is. -/
def ofJson? (j : Json) : Option Script := do
  let r ← Record.ofJson? members j
  let steps ← r.required "steps" (Json.list? Step.ofJson?)
  some ⟨steps⟩

/-- The script that a text is. -/
def ofText? (text : String) : Option Script := (Json.ofText? text).bind ofJson?

/-- Takes steps in a session, one after the other. -/
def replaySteps (c : CompiledForm) (s : Session) (shared : SharedState) :
    List Step → List StepOutcome × Session × SharedState
  | [] => ([], s, shared)
  | step :: steps =>
    let (outcome, s, shared) := step.apply c s shared
    let (outcomes, s, shared) := replaySteps c s shared steps
    (outcome :: outcomes, s, shared)

/-- Replays a script in a session. -/
def replay (c : CompiledForm) (s : Session) (shared : SharedState) (script : Script) :
    List StepOutcome × Session × SharedState :=
  replaySteps c s shared script.steps

end Script

end FormWizard
