import FormWizard.Proofs.Session.Frame
import FormWizard.Proofs.Tree.Document
import FormWizard.Script

/-!
# Sessions side by side

Any number of sessions may use one compiled form and share one state. `Script.interleave` lets them
take their steps in turn, in whatever order, and records for each turn the answer and the session as
the step left it.

A step neither reads what is shared (`Step.apply_congr`) nor touches another session, so each of
them goes through what it would go through alone (`Script.records_interleave`). What is shared
changes with submissions that go through, and a later one replaces what an earlier one handed over
(`Script.quoteForm_interleave`). The document that is handed over has the values of the tree under
their names (`ValueTree.exists_toJson_eq`).
-/

namespace FormWizard

/-- The step submitted the form. -/
def StepOutcome.isSubmitted : StepOutcome → Bool
  | .navigated t => t.isSubmitted
  | _ => false

/-- Without a validation nothing is submitted. -/
theorem Navigation.Step.isSubmitted_eq_false {n n' : Navigation} {t : Transition}
    (h : n.Step none t n') : t.isSubmitted = false := by
  cases h <;> rfl

namespace Step

/-- The answer to a step and the session after it do not depend on what is shared. -/
theorem apply_congr (c : CompiledForm) (s : Session) (shared shared' : SharedState) (step : Step) :
    (step.apply c s shared).1 = (step.apply c s shared').1 ∧
      (step.apply c s shared).2.1 = (step.apply c s shared').2.1 := by
  cases step with
  | change path v =>
    rw [apply, apply]
    rcases s.change c path v with ⟨e | accepted, s'⟩ <;> exact ⟨rfl, rfl⟩
  | next => exact ⟨rfl, rfl⟩
  | previous => exact ⟨rfl, rfl⟩
  | jump stage => exact ⟨rfl, rfl⟩

/-- A step that submits the form hands the values over, and no other changes what is shared. -/
theorem shared_apply (c : CompiledForm) (s : Session) (shared : SharedState) (step : Step) :
    (step.apply c s shared).2.2 = if (step.apply c s shared).1.isSubmitted then
      shared.apply (.setQuoteForm (step.apply c s shared).2.1.values.toJson) else shared := by
  cases step with
  | change path v =>
    rw [apply]
    rcases s.change c path v with ⟨e | accepted, s'⟩ <;> rfl
  | next => rfl
  | previous =>
    have hnot : (s.previous c).1.isSubmitted = false := (s.navigation.step_spec
      .previous).isSubmitted_eq_false
    show shared = if (s.previous c).1.isSubmitted then _ else shared
    rw [if_neg (by simp [hnot])]
  | jump stage =>
    have hnot : (s.jumpTo c stage).1.isSubmitted = false := (s.navigation.step_spec
      (.jumpTo stage)).isSubmitted_eq_false
    show shared = if (s.jumpTo c stage).1.isSubmitted then _ else shared
    rw [if_neg (by simp [hnot])]

end Step

namespace Script

/-- The sessions after each of some steps. -/
def states (c : CompiledForm) (s : Session) (shared : SharedState) : List Step → List Session
  | [] => []
  | step :: steps =>
    let (_, s, shared) := step.apply c s shared
    s :: states c s shared steps

/-- What came of a step that one of several sessions took. -/
structure Turn (ι : Type) where
  /-- The one who took it. -/
  who : ι
  /-- The answer. -/
  outcome : StepOutcome
  /-- The session after it. -/
  session : Session

section Interleaving

variable {ι : Type} [DecidableEq ι]

/-- Takes steps in several sessions that share a state, one after the other. -/
def interleave (c : CompiledForm) (sessions : ι → Session) (shared : SharedState) :
    List (ι × Step) → List (Turn ι) × (ι → Session) × SharedState
  | [] => ([], sessions, shared)
  | (i, step) :: turns =>
    let (outcome, s, shared) := step.apply c (sessions i) shared
    let (records, sessions, shared) := interleave c (Function.update sessions i s) shared turns
    (⟨i, outcome, s⟩ :: records, sessions, shared)

/-- The steps that one of the sessions takes. -/
def ownSteps (i : ι) (turns : List (ι × Step)) : List Step :=
  (turns.filter (·.1 = i)).map Prod.snd

/-- The first turn is taken first, and the others go on from there. -/
theorem interleave_cons (c : CompiledForm) (sessions : ι → Session) (shared : SharedState) (i : ι)
    (step : Step) (turns : List (ι × Step)) :
    interleave c sessions shared ((i, step) :: turns) =
      let taken := step.apply c (sessions i) shared
      let rest := interleave c (Function.update sessions i taken.2.1) taken.2.2 turns
      (⟨i, taken.1, taken.2.1⟩ :: rest.1, rest.2) := rfl

@[simp]
theorem ownSteps_cons (i j : ι) (step : Step) (turns : List (ι × Step)) :
    ownSteps i ((j, step) :: turns) =
      if j = i then step :: ownSteps i turns else ownSteps i turns := by
  by_cases h : j = i <;> simp [ownSteps, h]

/-- Every turn has its record. -/
theorem map_who_interleave (c : CompiledForm) (sessions : ι → Session) (shared : SharedState)
    (turns : List (ι × Step)) :
    (interleave c sessions shared turns).1.map Turn.who = turns.map Prod.fst := by
  induction turns generalizing sessions shared with
  | nil => rfl
  | cons turn turns ih => exact congrArg (turn.1 :: ·) (ih _ _)

/-- Whatever turns the others take, the answers to the steps of a session and its states are those
of taking its own steps alone. -/
theorem records_interleave (c : CompiledForm) (sessions : ι → Session)
    (shared shared' : SharedState) (turns : List (ι × Step)) (i : ι) :
    let records := (interleave c sessions shared turns).1.filter (·.who = i)
    records.map Turn.outcome = (replaySteps c (sessions i) shared' (ownSteps i turns)).1 ∧
      records.map Turn.session = states c (sessions i) shared' (ownSteps i turns) ∧
      (interleave c sessions shared turns).2.1 i =
        (replaySteps c (sessions i) shared' (ownSteps i turns)).2.1 := by
  induction turns generalizing sessions shared shared' with
  | nil => exact ⟨rfl, rfl, rfl⟩
  | cons turn turns ih =>
    obtain ⟨j, step⟩ := turn
    rw [interleave_cons, ownSteps_cons]
    by_cases hij : j = i
    · -- it is the turn of this session, and what the others have done to the state is not seen
      subst hij
      obtain ⟨houtcome, hsession⟩ := Step.apply_congr c (sessions j) shared shared' step
      rw [if_pos rfl, replaySteps, states]
      generalize step.apply c (sessions j) shared = taken at houtcome hsession ⊢
      generalize step.apply c (sessions j) shared' = taken' at houtcome hsession ⊢
      obtain ⟨outcome, s, shared₁⟩ := taken
      obtain ⟨outcome', s', shared₁'⟩ := taken'
      obtain rfl : outcome = outcome' := houtcome
      obtain rfl : s = s' := hsession
      have hrest := ih (Function.update sessions j s) shared₁ shared₁'
      rw [Function.update_self] at hrest
      obtain ⟨houtcomes, hstates, hlast⟩ := hrest
      dsimp only
      rw [List.filter_cons_of_pos (by simp)]
      exact ⟨congrArg (outcome :: ·) houtcomes, congrArg (s :: ·) hstates, hlast⟩
    · have hrest := ih (Function.update sessions j (step.apply c (sessions j) shared).2.1)
        (step.apply c (sessions j) shared).2.2 shared'
      rw [Function.update_of_ne (Ne.symm hij)] at hrest
      rw [if_neg hij]
      dsimp only
      rw [List.filter_cons_of_neg (by simpa using hij)]
      exact hrest

/-- The details of the contact stay, and of what was handed over the last is left. -/
theorem quoteForm_interleave (c : CompiledForm) (sessions : ι → Session) (shared : SharedState)
    (turns : List (ι × Step)) :
    (interleave c sessions shared turns).2.2.contactInfo = shared.contactInfo ∧
      (interleave c sessions shared turns).2.2.quoteForm =
        (((interleave c sessions shared turns).1.findRev? (·.outcome.isSubmitted)).map
          (·.session.values.toJson)).or shared.quoteForm := by
  induction turns generalizing sessions shared with
  | nil => exact ⟨rfl, rfl⟩
  | cons turn turns ih =>
    obtain ⟨i, step⟩ := turn
    have hshared := Step.shared_apply c (sessions i) shared step
    rw [interleave_cons]
    generalize step.apply c (sessions i) shared = taken at hshared ⊢
    obtain ⟨outcome, s, shared₁⟩ := taken
    obtain rfl : shared₁ = if outcome.isSubmitted then
      shared.apply (.setQuoteForm s.values.toJson) else shared := hshared
    obtain ⟨hcontact, hquote⟩ := ih (Function.update sessions i s)
      (if outcome.isSubmitted then shared.apply (.setQuoteForm s.values.toJson) else shared)
    dsimp only
    constructor
    · refine hcontact.trans ?_
      split <;> rfl
    · rw [hquote, List.findRev?]
      generalize (interleave c _ _ turns).1.findRev? _ = later
      rcases later with _ | later
      · -- nothing was submitted behind this turn
        by_cases hsubmitted : outcome.isSubmitted
        · simp [hsubmitted, SharedState.apply]
        · simp [hsubmitted]
      · rfl

/-- Sessions that use one compiled form and share a state do not disturb each other. In whatever
order they take their steps, the answers that each one gets and its states are those of taking its
own steps alone, from the start and with anything shared. What is handed over at the end is the
document of the values of the session that submitted the form last, as they were then, and the
details of the contact are what they were. -/
theorem interleave_start (c : CompiledForm) (shared : SharedState) (turns : List (ι × Step)) :
    let result := interleave c (fun _ ↦ Session.start c) shared turns
    result.1.map Turn.who = turns.map Prod.fst ∧
      (∀ (i : ι) (shared' : SharedState),
        let records := result.1.filter (·.who = i)
        let alone := replaySteps c (Session.start c) shared' (ownSteps i turns)
        records.map Turn.outcome = alone.1 ∧
          records.map Turn.session = states c (Session.start c) shared' (ownSteps i turns) ∧
          result.2.1 i = alone.2.1) ∧
      result.2.2.contactInfo = shared.contactInfo ∧
      result.2.2.quoteForm = ((result.1.findRev? (·.outcome.isSubmitted)).map
        (·.session.values.toJson)).or shared.quoteForm :=
  ⟨map_who_interleave c _ shared turns,
    fun i shared' ↦ records_interleave c _ shared shared' turns i,
    quoteForm_interleave c _ shared turns⟩

end Interleaving

/-- Two sessions take turns: one submits the form, the other fills it in meanwhile and submits it
later. -/
def twoSessions : List (Bool × Step) :=
  [(false, .change "email" (.text "ada@example.com")), (true, .next), (false, .next),
    (true, .change "email" (.text "bob@example.com")), (false, .next), (true, .next),
    (true, .next), (true, .change "text" (.text "Hello"))]

/-- What is shared at the end is what the second session had entered when it submitted the form, and
not what it entered afterwards. -/
theorem interleave_start_twoSessions :
    (interleave (contactForm.compile .empty) (fun _ ↦ Session.start (contactForm.compile .empty))
      ⟨some (.text "Ada"), none⟩ twoSessions).2.2 =
        ⟨some (.text "Ada"), some (.object [("email", .text "bob@example.com"),
          ("text", .text "")])⟩ := by
  obtain ⟨-, -, hcontact, hquote⟩ :=
    interleave_start (contactForm.compile .empty) ⟨some (.text "Ada"), none⟩ twoSessions
  have hvalues : ((interleave (contactForm.compile .empty)
      (fun _ ↦ Session.start (contactForm.compile .empty)) ⟨some (.text "Ada"), none⟩
      twoSessions).1.findRev? (·.outcome.isSubmitted)).map (·.session.values.slots.toList) =
        some [("email", .value (.text "bob@example.com")), ("text", .value (.text ""))] := by
    decide +kernel
  obtain ⟨record, hrecord, hvalues⟩ := Option.map_eq_some_iff.1 hvalues
  rw [hrecord, Option.map_some, ValueTree.toJson, hvalues] at hquote
  exact congrArg₂ SharedState.mk hcontact hquote

end Script

end FormWizard
