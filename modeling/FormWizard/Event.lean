import FormWizard.Form.Lint
import FormWizard.Script

/-!
# Events

What is worth telling an operator about a form and its sessions: warnings about configuration and
about formulas that fail, and for closer inspection the navigation, refused edits, rejecting rules
and derived values.

Events are read off the same data that the operations themselves use. No operation depends on them;
each function here says what is told while one operation runs, in order.
-/

namespace FormWizard

/-- How important an event is, from the most to the least. -/
inductive Severity where
  /-- Something does not work as it should. -/
  | warn
  /-- Something happened. -/
  | debug
  /-- A detail. -/
  | trace
deriving DecidableEq, Repr

/-- The rank of a severity, the most important first. -/
def Severity.rank : Severity → Nat
  | .warn => 0
  | .debug => 1
  | .trace => 2

/-- The name of a severity. -/
def Severity.name : Severity → String
  | .warn => "warn"
  | .debug => "debug"
  | .trace => "trace"

/-- Something worth telling. -/
structure Event where
  /-- How important it is. -/
  severity : Severity
  /-- What happened. -/
  message : String
  /-- The details by name. -/
  details : List (String × String)

/-- Whether an event is at least as important as a severity. -/
def Event.isAtLeast (severity : Severity) (e : Event) : Bool := e.severity.rank ≤ severity.rank

/-! ### Compiling -/

/-- Told of a calculation that does not compile. -/
def Calculation.events (c : Calculation) : List Event :=
  match c.formula.program with
  | .ok _ => []
  | .error e =>
    [⟨.warn, "calculation will yield empty values",
      [("field", c.path.toText), ("error", e.message)]⟩]

/-- Told of a rule for a path that checks nothing. -/
def Rule.events (p : FieldPath) (r : Rule) : List Event :=
  match r.check with
  | .pattern (.error e) =>
    [⟨.warn, "regex rule will always pass", [("field", p.toText), ("error", e.message)]⟩]
  | .predicate formula =>
    match formula.program with
    | .ok _ => []
    | .error e =>
      [⟨.warn, "predicate rule will always pass", [("field", p.toText), ("error", e.message)]⟩]
  | .unsupported kind =>
    [⟨.warn, "unsupported validation rule will always pass",
      [("field", p.toText), ("kind", kind)]⟩]
  | _ => []

namespace CompiledForm

/-- Told when a form is compiled: findings, calculations, late reads and rules. -/
def compileEvents (c : CompiledForm) : List Event :=
  let findings := c.form.lint.map fun f ↦ ⟨.warn, f.message, [("form", c.form.name)]⟩
  let late := c.lateReads.map fun (p, read) ↦
    ⟨.warn, "calculation reads a computed field that is derived later in the same pass",
      [("field", p.toText), ("reads", read.toText)]⟩
  findings ++ c.calculations.flatMap Calculation.events ++ late
    ++ c.rules.flatMap fun (p, r) ↦ r.events p

end CompiledForm

/-! ### Deriving and validating -/

/-- Told when a computed field is derived. -/
def Calculation.deriveEvents (fs : Registry) (values : ValueTree) (c : Calculation) : List Event :=
  let failed := match c.formula.program with
    | .error _ => []
    | .ok program =>
      match program.evaluate fs (.computed values) with
      | .ok _ => []
      | .error e =>
        [⟨.warn, "calculation failed",
          [("field", c.path.toText), ("expression", c.formula.source), ("error", e.message)]⟩]
  failed ++ [⟨.trace, "computed field updated",
    [("field", c.path.toText), ("value", (c.value fs values).toText)]⟩]

/-- Told when computed fields are derived one after the other. -/
def Calculation.deriveAllEvents (fs : Registry) (values : ValueTree) : List Calculation → List Event
  | [] => []
  | c :: cs => c.deriveEvents fs values ++ deriveAllEvents fs (c.apply fs values) cs

/-- Told when a value is checked. -/
def Check.events (fs : Registry) (p : FieldPath) (v : Value) (values : ValueTree) :
    Check → List Event
  | .predicate formula =>
    match formula.program with
    | .error _ => []
    | .ok program =>
      match program.trace fs (.ofPath p v values) with
      | .ok t =>
        if t.outcome.isTruthy then []
        else
          [⟨.debug, "validation predicate rejected value",
            [("field", p.name), ("reason", t.toText)]⟩]
      | .error e =>
        [⟨.warn, "validation predicate failed",
          [("field", p.name), ("expression", formula.source), ("error", e.message)]⟩]
  | _ => []

namespace CompiledForm

/-- Told in one pass over the computed fields. -/
def deriveEvents (c : CompiledForm) (values : ValueTree) : List Event :=
  Calculation.deriveAllEvents c.functions values c.calculations

/-- Told when a stage is validated. -/
def validateEvents (c : CompiledForm) (index : Nat) (values : ValueTree) : List Event :=
  (c.stageEntries index).flatMap fun e ↦
    (c.rulesAt e.path).flatMap fun r ↦
      r.check.events c.functions e.path (values.validated e.path) values

end CompiledForm

/-! ### Sessions -/

/-- The answer to submitting a stage. -/
def Transition.submitEvents (stage : Nat) : Transition → List Event
  | .advanced start target =>
    [⟨.debug, "stage advanced", [("from", toString start), ("to", toString target)]⟩]
  | .submitted => [⟨.debug, "form submitted", [("stage", toString stage)]⟩]
  | .blocked errors =>
    [⟨.debug, "stage blocked", [("stage", toString stage), ("errors", toString errors.size)]⟩]
  | _ => []

/-- The answer to a request to go somewhere without submitting. -/
def Transition.moveEvents (message : String) : Transition → List Event
  | .moved start target => [⟨.debug, message, [("from", toString start), ("to", toString target)]⟩]
  | _ => []

/-- Told when the shared state changes. -/
def SharedState.changeEvent : Event := ⟨.debug, "dispatching action", []⟩

/-- Told of a refused edit. -/
def Refusal.event (p : FieldPath) : Refusal → Event
  | .noSuchField => ⟨.debug, "edit rejected: no such field", [("field", p.toText)]⟩
  | .computed => ⟨.debug, "edit rejected: field is computed", [("field", p.toText)]⟩

namespace Session

/-- Told when a session starts. -/
def startEvents (c : CompiledForm) : List Event := c.deriveEvents c.form.initialValues

/-- Told when the current stage is validated. -/
def revalidateEvents (c : CompiledForm) (s : Session) : List Event :=
  c.validateEvents s.current s.values

/-- Told when a value is entered at a path. -/
def changeAtEvents (c : CompiledForm) (s : Session) (p : FieldPath) (v : Value) : List Event :=
  match c.refusal? p with
  | some refusal => [refusal.event p]
  | none => c.deriveEvents (s.values.write p v) ++ (s.changeAt c p v).2.revalidateEvents c

/-- Told when a value is entered at the path that a text names. -/
def changeEvents (c : CompiledForm) (s : Session) (path : String) (v : Value) : List Event :=
  match FieldPath.ofText path with
  | .error _ => []
  | .ok p => s.changeAtEvents c p v

/-- Told when the current stage is submitted. -/
def nextEvents (c : CompiledForm) (s : Session) : List Event :=
  let validation := match s.navigation.validatedStage? with
    | some index => c.validateEvents index s.values
    | none => []
  let (t, after) := s.next c
  let again := match t with
    | .blocked _ => []
    | .submitted => []
    | _ => after.revalidateEvents c
  validation ++ t.submitEvents s.current ++ again

/-- Told when the current stage is submitted and the values may be handed over. -/
def submitIntoEvents (c : CompiledForm) (s : Session) : List Event :=
  s.nextEvents c ++ if (s.next c).1.isSubmitted then [SharedState.changeEvent] else []

/-- Told when a request to go somewhere without submitting was answered. -/
def moveEvents (c : CompiledForm) (message : String) (step : Transition × Session) : List Event :=
  step.1.moveEvents message ++ if step.1.isIgnored then [] else step.2.revalidateEvents c

/-- Told when going back. -/
def previousEvents (c : CompiledForm) (s : Session) : List Event :=
  moveEvents c "stage moved back" (s.previous c)

/-- Told when jumping. -/
def jumpToEvents (c : CompiledForm) (s : Session) (target : Nat) : List Event :=
  moveEvents c "stage jumped" (s.jumpTo c target)

end Session

/-- Told when a step of a script is taken. -/
def Step.events (c : CompiledForm) (s : Session) : Step → List Event
  | .change path v => s.changeEvents c path v
  | .next => s.submitIntoEvents c
  | .previous => s.previousEvents c
  | .jump stage => s.jumpToEvents c stage

/-- Told when steps are taken one after the other. -/
def Script.replayEvents (c : CompiledForm) (s : Session) (shared : SharedState) :
    List Step → List Event
  | [] => []
  | step :: steps =>
    let (_, after, shared) := step.apply c s shared
    step.events c s ++ replayEvents c after shared steps

end FormWizard
