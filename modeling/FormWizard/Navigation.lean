import FormWizard.Validation

/-!
# Navigation between stages

`Navigation` knows the current stage of a form and how far each stage has come. Submitting the
current stage validates it: with errors it is incomplete and stays current, without errors it is
complete and the next stage becomes current, or the form is submitted if there is none. Going back
and jumping never validate; only a stage that was submitted before can be jumped to.

Whatever is not allowed is ignored and changes nothing.
-/

namespace FormWizard

/-- How far a stage has come. -/
inductive StageStatus where
  /-- It was never submitted. -/
  | untouched
  /-- It had errors when it was last submitted. -/
  | incomplete
  /-- It had no errors when it was last submitted. -/
  | complete
deriving DecidableEq, Repr

/-- The answer to a request to go somewhere. -/
inductive Transition where
  /-- The current stage had no errors, and the next one is current now. -/
  | advanced (start target : Nat)
  /-- The last stage had no errors, and the form is submitted. -/
  | submitted
  /-- The current stage has errors and stays current. -/
  | blocked (errors : ErrorMap)
  /-- Another stage is current now, without any being validated. -/
  | moved (start target : Nat)
  /-- The request was not allowed. -/
  | ignored

/-- Whether a request was ignored. -/
def Transition.isIgnored : Transition → Bool
  | .ignored => true
  | _ => false

/-- Whether the form was submitted. -/
def Transition.isSubmitted : Transition → Bool
  | .submitted => true
  | _ => false

/-- The current stage and the statuses of all stages. -/
structure Navigation where
  /-- The index of the current stage. -/
  current : Nat
  /-- The statuses of the stages. -/
  statuses : List StageStatus
deriving DecidableEq, Repr

namespace Navigation

/-- The first of so many stages, none of which was submitted. -/
def start (stages : Nat) : Navigation := ⟨0, List.replicate stages .untouched⟩

/-- The status of a stage. -/
def status? (n : Navigation) (index : Nat) : Option StageStatus := n.statuses[index]?

/-- Whether the current stage is the last one. -/
def isLastStage (n : Navigation) : Bool := n.current + 1 == n.statuses.length

/-- The stage that is validated when the current one is submitted. -/
def validatedStage? (n : Navigation) : Option Nat :=
  if n.statuses.isEmpty then none else some n.current

/-- Records the status of a stage. -/
def mark (n : Navigation) (index : Nat) (status : StageStatus) : Navigation :=
  { n with statuses := n.statuses.set index status }

/-- Submits the current stage, given how stages are validated. -/
def submit (validate : Nat → ErrorMap) (n : Navigation) : Transition × Navigation :=
  match n.validatedStage? with
  | none => (.ignored, n)
  | some index =>
    let errors := validate index
    if !errors.isEmpty then (.blocked errors, n.mark index .incomplete)
    else
      let n := n.mark index .complete
      if n.isLastStage then (.submitted, n)
      else (.advanced index (index + 1), { n with current := index + 1 })

/-- Goes back one stage. -/
def previous (n : Navigation) : Transition × Navigation :=
  match n.current with
  | 0 => (.ignored, n)
  | target + 1 => (.moved n.current target, { n with current := target })

/-- Whether a stage can be jumped to: it was submitted before and is not the current one. -/
def canJumpTo (n : Navigation) (target : Nat) : Bool :=
  target != n.current && (n.status? target).any (· != .untouched)

/-- Jumps to a stage. -/
def jumpTo (n : Navigation) (target : Nat) : Transition × Navigation :=
  if n.canJumpTo target then (.moved n.current target, { n with current := target })
  else (.ignored, n)

end Navigation

end FormWizard
