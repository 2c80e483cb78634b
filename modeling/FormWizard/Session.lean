import FormWizard.Derivation
import FormWizard.Navigation
import FormWizard.SharedState

/-!
# Sessions

A `Session` is one user's way through a form: the values, the place among the stages, and the errors
of the current stage. Every accepted edit writes its value, derives the computed fields and
validates the current stage. Errors are shown only once the current stage was submitted.

The compiled form is an argument of every operation, since many sessions may use one.
-/

namespace FormWizard

/-- One user's way through a form. -/
structure Session where
  /-- The values. -/
  values : ValueTree
  /-- The place among the stages. -/
  navigation : Navigation
  /-- The errors of the current stage. -/
  errors : ErrorMap

/-- Why an edit is refused. -/
inductive Refusal where
  /-- The form has no field at the path. -/
  | noSuchField
  /-- The field at the path is computed. -/
  | computed
deriving DecidableEq, Repr

/-- Why an edit at a path is refused, if it is. -/
def CompiledForm.refusal? (c : CompiledForm) (p : FieldPath) : Option Refusal :=
  if (c.form.field? p).isNone then some .noSuchField
  else if c.isComputed p then some .computed
  else none

namespace Session

/-- A new session. -/
def start (c : CompiledForm) : Session where
  values := c.derive c.form.initialValues
  navigation := .start c.form.stages.length
  errors := ∅

/-- The index of the current stage. -/
def current (s : Session) : Nat := s.navigation.current

/-- The value at a path. -/
def value? (s : Session) (p : FieldPath) : Option Value := s.values.get? p

/-- The errors of the current stage for the present values. -/
def currentErrors (c : CompiledForm) (s : Session) : ErrorMap := c.validate s.current s.values

/-- Validates the current stage. -/
def revalidate (c : CompiledForm) (s : Session) : Session := { s with errors := s.currentErrors c }

/-- Enters a value at a path, and tells whether the edit was accepted. -/
def changeAt (c : CompiledForm) (s : Session) (p : FieldPath) (v : Value) : Bool × Session :=
  match c.refusal? p with
  | some _ => (false, s)
  | none => (true, { s with values := c.derive (s.values.write p v) }.revalidate c)

/-- Enters a value at the path that a text names. -/
def change (c : CompiledForm) (s : Session) (path : String) (v : Value) :
    Except PathError Bool × Session :=
  match FieldPath.ofText path with
  | .error e => (.error e, s)
  | .ok p =>
    let (accepted, s) := s.changeAt c p v
    (.ok accepted, s)

/-- Submits the current stage. -/
def next (c : CompiledForm) (s : Session) : Transition × Session :=
  let (t, n) := s.navigation.submit fun index ↦ c.validate index s.values
  let s := { s with navigation := n }
  match t with
  | .blocked errors => (t, { s with errors := errors })
  | .submitted => (t, { s with errors := ∅ })
  | _ => (t, s.revalidate c)

/-- The session after the place among the stages changed, unless the request was ignored. -/
def goTo (c : CompiledForm) (s : Session) (step : Transition × Navigation) : Transition × Session :=
  let moved := { s with navigation := step.2 }
  (step.1, if step.1.isIgnored then moved else moved.revalidate c)

/-- Goes back one stage. -/
def previous (c : CompiledForm) (s : Session) : Transition × Session :=
  s.goTo c s.navigation.previous

/-- Jumps to a stage. -/
def jumpTo (c : CompiledForm) (s : Session) (target : Nat) : Transition × Session :=
  s.goTo c (s.navigation.jumpTo target)

/-- Submits the current stage, and hands the values over if that submits the form. -/
def submitInto (c : CompiledForm) (s : Session) (shared : SharedState) :
    Transition × Session × SharedState :=
  let (t, s) := s.next c
  (t, s, if t.isSubmitted then shared.apply (.setQuoteForm s.values.toJson) else shared)

/-- The errors to show. -/
def visibleErrors (s : Session) : ErrorMap :=
  match s.navigation.status? s.current with
  | none => ∅
  | some .untouched => ∅
  | some _ => s.errors

end Session

end FormWizard
