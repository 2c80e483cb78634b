import FormWizard.Proofs.Session.Errors

/-!
# What a request leaves alone

A session holds values, the place among the stages with their statuses, and the errors of the
current stage, and beside it stands what the pages share. A request that is refused
(`Answer.isRefusal`) changes none of these. Of the others each kind has its own part that it may
change, and `Session.frame_run` says for each which parts stay as they were.

Two facts carry the parts that lie outside the values and the stages. Shared documents change only
with a submission that goes through (`Session.shared_perform`). And submitting a form without
stages, which is ignored, validates all the same; that no errors come of it rests on there never
having been any, and so on the run that led to the session (`Session.errors_run_of_stages_eq_nil`).
-/

namespace FormWizard

/-- The request was refused: an edit was not accepted, or its path is no path, or a request to go
somewhere was ignored. -/
def Answer.isRefusal : Answer → Bool
  | .edited (.ok accepted) => !accepted
  | .edited (.error _) => true
  | .navigated t => t.isIgnored

namespace Request

/-- The request is an edit. -/
def isEdit : Request → Bool
  | .change _ _ => true
  | .changeAt _ _ => true
  | _ => false

/-- The path at which an edit is asked for, if its text names one. -/
def editedPath? : Request → Option FieldPath
  | .change path _ => (FieldPath.ofText path).toOption
  | .changeAt p _ => some p
  | _ => none

theorem edit?_eq_none {r : Request} (h : r.isEdit = false) (a : Answer) : r.edit? a = none := by
  cases r with
  | change path v => cases h
  | changeAt p v => cases h
  | _ => rfl

/-- Edits are the requests that make no move. -/
theorem move?_eq_none_iff {c : CompiledForm} {s : Session} {r : Request} :
    r.move? c s = none ↔ r.isEdit := by
  cases r <;> simp [move?, isEdit]

end Request

/-! ### Statuses -/

namespace Navigation

variable {n n' : Navigation} {a : Option Attempt} {t : Transition} {i : ℕ}

/-- Without a validation all statuses stay. -/
theorem Step.statuses_eq (h : n.Step none t n') : n'.statuses = n.statuses := by
  cases h <;> rfl

/-- Only the status of the current stage may change. -/
theorem Step.status?_of_ne (h : n.Step a t n') (hi : i ≠ n.current) :
    n'.status? i = n.status? i := by
  have hmark (status : StageStatus) : (n.mark n.current status).status? i = n.status? i := by
    rw [status?_mark, if_neg (Ne.symm hi)]
  cases h with
  | ignored => rfl
  | blocked errors herrors => exact hmark .incomplete
  | advanced errors herrors hlast => exact hmark .complete
  | submitted errors herrors hlast => exact hmark .complete
  | moved target htarget => rfl

/-- Submitting is ignored only if there are no stages, and then nothing moves. -/
theorem submit_of_ignored {validate : ℕ → ErrorMap} (h : (n.submit validate).1 = .ignored) :
    n.statuses = [] ∧ n.submit validate = (.ignored, n) := by
  have hstep := n.step_spec (.submit validate)
  rw [show n.step (.submit validate) = n.submit validate from rfl, h] at hstep
  generalize hattempt : n.attempt? (.submit validate) = a at hstep
  obtain ⟨rfl, hsame⟩ : a = none ∧ (n.submit validate).2 = n := by
    generalize (n.submit validate).2 = n' at hstep
    cases hstep
    exact ⟨rfl, rfl⟩
  constructor
  · have hvalidated : n.validatedStage? = none := Option.map_eq_none_iff.1 hattempt
    rw [validatedStage?] at hvalidated
    by_contra hne
    rw [if_neg (by simpa using hne)] at hvalidated
    cases hvalidated
  · exact Prod.ext h hsame

end Navigation

/-! ### Edits -/

namespace Session

variable {c : CompiledForm} {s : Session} {r : Request} {p : FieldPath} {v : Value}

/-- An edit is answered with whether it was accepted. -/
theorem changeAt_fst_eq_true_iff : (s.changeAt c p v).1 = true ↔ c.refusal? p = none := by
  rcases hrefusal : c.refusal? p with _ | refusal
  · rw [changeAt_of_accepted hrefusal]
    exact iff_of_true rfl rfl
  · rw [changeAt_of_refusal hrefusal]
    exact iff_of_false Bool.false_ne_true (Option.some_ne_none _)

/-- The answer to a request is that an edit was accepted if and only if it asks for an edit at a
path where edits are accepted. -/
theorem perform_eq_accepted_iff (shared : SharedState) :
    (s.perform c shared r).1 = .edited (.ok true) ↔
      ∃ p, r.editedPath? = some p ∧ c.refusal? p = none := by
  have hat (p : FieldPath) (v : Value) :
      Answer.edited (.ok (s.changeAt c p v).1) = .edited (.ok true) ↔ c.refusal? p = none := by
    rw [← changeAt_fst_eq_true_iff (s := s) (v := v)]
    simp
  cases r with
  | change path v =>
    rw [perform, Request.editedPath?]
    rcases hpath : FieldPath.ofText path with e | p
    · rw [change_of_error hpath]
      simp [Except.toOption]
    · rw [change_of_ok hpath]
      simpa [Except.toOption] using hat p v
  | changeAt p v =>
    rw [perform, Request.editedPath?]
    simpa using hat p v
  | next => simp [perform, Request.editedPath?]
  | submitInto => simp [perform, Request.editedPath?]
  | previous => simp [perform, Request.editedPath?]
  | jumpTo target => simp [perform, Request.editedPath?]

/-! ### What the pages share -/

/-- If the form is submitted, the document of the values is handed over. -/
theorem submitInto_of_submitted (shared : SharedState) (h : (s.next c).1 = .submitted) :
    (s.submitInto c shared).2.2 = shared.apply (.setQuoteForm s.values.toJson) := by
  show (if (s.next c).1.isSubmitted then
    shared.apply (.setQuoteForm (s.next c).2.values.toJson) else shared) = _
  rw [h, values_next]
  rfl

theorem submitInto_of_not_submitted (shared : SharedState) (h : (s.next c).1 ≠ .submitted) :
    (s.submitInto c shared).2.2 = shared := by
  have hnot : ¬ (s.next c).1.isSubmitted := by
    generalize (s.next c).1 = t at h
    cases t with
    | submitted => exact absurd rfl h
    | _ => exact Bool.false_ne_true
  exact if_neg hnot

/-- A submission that goes through hands the values over, and nothing else changes what is
shared. -/
theorem shared_perform (c : CompiledForm) (s : Session) (shared : SharedState) (r : Request) :
    (r = .submitInto ∧ (s.perform c shared r).1 = .navigated .submitted ∧
        (s.perform c shared r).2.2 = shared.apply (.setQuoteForm s.values.toJson)) ∨
      ((r = .submitInto → (s.perform c shared r).1 ≠ .navigated .submitted) ∧
        (s.perform c shared r).2.2 = shared) := by
  cases r with
  | submitInto =>
    by_cases h : (s.next c).1 = .submitted
    · exact .inl ⟨rfl, congrArg Answer.navigated h, submitInto_of_submitted shared h⟩
    · exact .inr ⟨fun _ heq ↦ h (Answer.navigated.inj heq), submitInto_of_not_submitted shared h⟩
  | change path v => exact .inr ⟨nofun, rfl⟩
  | changeAt p v => exact .inr ⟨nofun, rfl⟩
  | next => exact .inr ⟨nofun, rfl⟩
  | previous => exact .inr ⟨nofun, rfl⟩
  | jumpTo target => exact .inr ⟨nofun, rfl⟩

/-- No other request hands anything over. -/
theorem shared_perform_of_ne (shared : SharedState) (h : r ≠ .submitInto) :
    (s.perform c shared r).2.2 = shared := by
  obtain ⟨heq, -, -⟩ | ⟨-, hsame⟩ := shared_perform c s shared r
  · exact absurd heq h
  · exact hsame

/-- The details of the contact never change, and nothing that is shared does unless the form is
submitted. -/
theorem shared_perform_submitInto (c : CompiledForm) (s : Session) (shared : SharedState) :
    (s.perform c shared .submitInto).2.2.contactInfo = shared.contactInfo ∧
      ((s.perform c shared .submitInto).1 ≠ .navigated .submitted →
        (s.perform c shared .submitInto).2.2 = shared) := by
  obtain ⟨-, hsubmitted, happly⟩ | ⟨-, hsame⟩ := shared_perform c s shared .submitInto
  · refine ⟨?_, fun hnot ↦ absurd hsubmitted hnot⟩
    rw [happly]
    rfl
  · exact ⟨congrArg SharedState.contactInfo hsame, fun _ ↦ hsame⟩

/-! ### The values and the stages -/

/-- Without an edit the values stay. -/
theorem values_perform_of_isEdit_eq_false (shared : SharedState) (h : r.isEdit = false) :
    (s.perform c shared r).2.1.values = s.values := by
  obtain ⟨-, hvalues⟩ | ⟨p, v, hedit, -, -⟩ := values_perform c s shared r
  · exact hvalues
  · rw [Request.edit?_eq_none h] at hedit
    cases hedit

/-- Going back and jumping leave all statuses alone. -/
theorem statuses_perform_of_back (shared : SharedState)
    (h : r = .previous ∨ ∃ target, r = .jumpTo target) :
    (s.perform c shared r).2.1.navigation.statuses = s.navigation.statuses := by
  obtain ⟨m, hmove, hattempt⟩ : ∃ m, r.move? c s = some m ∧ s.navigation.attempt? m = none := by
    obtain rfl | ⟨target, rfl⟩ := h
    · exact ⟨.previous, rfl, rfl⟩
    · exact ⟨.jumpTo target, rfl, rfl⟩
  have hstep := s.navigation.step_spec m
  rw [hattempt] at hstep
  rw [(navigation_perform_of_move?_eq_some shared hmove).2]
  exact hstep.statuses_eq

/-- No request changes the status of a stage that is not the current one. -/
theorem status?_perform_of_ne (shared : SharedState) (r : Request) {i : ℕ} (hi : i ≠ s.current) :
    (s.perform c shared r).2.1.navigation.status? i = s.navigation.status? i := by
  obtain hsame | ⟨attempt, t, hstep⟩ := navigation_perform c s shared r
  · rw [hsame]
  · exact hstep.status?_of_ne hi

theorem length_statuses_perform (c : CompiledForm) (s : Session) (shared : SharedState)
    (r : Request) :
    (s.perform c shared r).2.1.navigation.statuses.length = s.navigation.statuses.length :=
  length_statuses_run c s shared [r]

/-! ### Requests that are refused -/

/-- A session of a form without stages never has errors. -/
theorem errors_run_of_stages_eq_nil (h : c.form.stages = []) (shared : SharedState)
    (rs : List Request) : ((start c).run c shared rs).2.1.errors = ∅ := by
  obtain hupToDate | ⟨-, hsame⟩ := run_upToDate_or_eq c (start c) shared rs
  · refine Eq.trans hupToDate ?_
    rw [CompiledForm.validate, CompiledForm.stageEntries, h]
    rfl
  · rw [hsame]
    rfl

/-- A submission that is ignored changes nothing. -/
theorem next_of_ignored (hlength : s.navigation.statuses.length = c.form.stages.length)
    (herrors : c.form.stages = [] → s.errors = ∅) (h : (s.next c).1 = .ignored) :
    (s.next c).2 = s := by
  obtain ⟨hnil, hsubmit⟩ := Navigation.submit_of_ignored ((navigation_next c s).1.symm.trans h)
  rw [hnil, List.length_nil] at hlength
  have hstages : c.form.stages = [] := List.eq_nil_of_length_eq_zero hlength.symm
  -- validating finds no errors, as there were none before
  have hvalidate : c.validate s.current s.values = s.errors := by
    rw [herrors hstages, CompiledForm.validate, CompiledForm.stageEntries, hstages]
    rfl
  rw [next, hsubmit]
  exact congrArg (Session.mk s.values s.navigation) hvalidate

/-- A request that is refused changes nothing, neither in the session nor in what is shared. -/
theorem perform_of_isRefusal (hlength : s.navigation.statuses.length = c.form.stages.length)
    (herrors : c.form.stages = [] → s.errors = ∅) (shared : SharedState)
    (h : (s.perform c shared r).1.isRefusal) : (s.perform c shared r).2 = (s, shared) := by
  have hshared : (s.perform c shared r).2.2 = shared := by
    obtain ⟨-, hsubmitted, -⟩ | ⟨-, hsame⟩ := shared_perform c s shared r
    · rw [hsubmitted] at h
      exact absurd h Bool.false_ne_true
    · exact hsame
  refine Prod.ext ?_ hshared
  obtain ⟨hrefreshes, -⟩ | ⟨-, hsame⟩ := perform_upToDate_or_eq c s shared r
  swap
  · exact hsame
  -- of the requests that bring the errors up to date only a submission can be refused
  have hignored (h : Answer.isRefusal (.navigated (s.next c).1)) : (s.next c).1 = .ignored := by
    generalize (s.next c).1 = t at h
    cases t with
    | ignored => rfl
    | _ => exact absurd h Bool.false_ne_true
  cases r with
  | next => exact next_of_ignored hlength herrors (hignored h)
  | submitInto => exact next_of_ignored hlength herrors (hignored h)
  | change path v =>
    rw [show (s.perform c shared (.change path v)).1 = .edited (.ok true) from hrefreshes] at h
    exact absurd h Bool.false_ne_true
  | changeAt p v =>
    rw [show (s.perform c shared (.changeAt p v)).1 = .edited (.ok true) from hrefreshes] at h
    exact absurd h Bool.false_ne_true
  | previous =>
    obtain ⟨start, target, hmoved⟩ := hrefreshes
    rw [hmoved] at h
    exact absurd h Bool.false_ne_true
  | jumpTo target =>
    obtain ⟨start, target, hmoved⟩ := hrefreshes
    rw [hmoved] at h
    exact absurd h Bool.false_ne_true

/-- Requests change only what they may. One that is refused changes nothing. An edit leaves the
stages and what is shared alone, and any other request the values. Going back and jumping leave all
statuses alone, and submitting all but that of the stage that was current. What is shared changes
only with a submission that goes through, and then not in the details of the contact. An edit is
accepted if and only if its path is that of a field of the form and of no calculation. -/
theorem frame_run (c : CompiledForm) (shared₀ : SharedState) (rs : List Request)
    (shared : SharedState) (r : Request) :
    let s := ((start c).run c shared₀ rs).2.1
    let a := (s.perform c shared r).1
    let s' := (s.perform c shared r).2.1
    let shared' := (s.perform c shared r).2.2
    (a.isRefusal → s' = s ∧ shared' = shared) ∧
      (r.isEdit → s'.navigation = s.navigation ∧ shared' = shared) ∧
      (r.isEdit = false → s'.values = s.values ∧ (r ≠ .submitInto → shared' = shared)) ∧
      (r = .previous ∨ (∃ target, r = .jumpTo target) →
        s'.navigation.statuses = s.navigation.statuses) ∧
      (r = .next ∨ r = .submitInto →
        s'.navigation.statuses.length = s.navigation.statuses.length ∧
          ∀ i, i ≠ s.current → s'.navigation.status? i = s.navigation.status? i) ∧
      (r = .submitInto → shared'.contactInfo = shared.contactInfo ∧
        (a ≠ .navigated .submitted → shared' = shared)) ∧
      (a = .edited (.ok true) ↔ ∃ p, r.editedPath? = some p ∧ c.form.HasPath p ∧
        ∀ d ∈ c.calculations, d.path ≠ p) := by
  intro s a s' shared'
  have hlength : s.navigation.statuses.length = c.form.stages.length :=
    length_statuses_run_start c shared₀ rs
  refine ⟨fun h ↦ ?_, fun h ↦ ⟨?_, shared_perform_of_ne shared ?_⟩, fun h ↦ ⟨?_, ?_⟩, ?_,
    fun _ ↦ ⟨length_statuses_perform c s shared r, fun i hi ↦ status?_perform_of_ne shared r hi⟩,
    ?_, ?_⟩
  · have hsame : (s.perform c shared r).2 = (s, shared) :=
      perform_of_isRefusal hlength (errors_run_of_stages_eq_nil · shared₀ rs) shared h
    exact Prod.ext_iff.1 hsame
  · exact (navigation_perform_of_move?_eq_none shared (Request.move?_eq_none_iff.2 h)).2
  · rintro rfl
    cases h
  · exact values_perform_of_isEdit_eq_false shared h
  · exact shared_perform_of_ne shared
  · exact statuses_perform_of_back shared
  · rintro rfl
    exact shared_perform_submitInto c s shared
  · rw [show a = (s.perform c shared r).1 from rfl, perform_eq_accepted_iff]
    simp only [CompiledForm.refusal?_eq_none_iff]

/-- Requests that fill in the first stage and leave it. -/
def filledIn : List Request := [.change "email" (.text "ada@example.com"), .next]

/-- On the second stage an edit of a field that the form does not have changes nothing, and
submitting the form leaves the status of the first stage and the details of the contact alone. -/
theorem frame_run_filledIn :
    ∃ s shared, s = ((start (contactForm.compile .empty)).run (contactForm.compile .empty) .empty
        filledIn).2.1 ∧ shared = ⟨some (.text "Ada"), none⟩ ∧
      (s.perform (contactForm.compile .empty) shared (.change "phone" (.text "1"))).1.isRefusal ∧
      (s.perform (contactForm.compile .empty) shared (.change "phone" (.text "1"))).2.1 = s ∧
      (s.perform (contactForm.compile .empty) shared .submitInto).1 = .navigated .submitted ∧
      (s.perform (contactForm.compile .empty) shared .submitInto).2.1.navigation.status? 0 =
        some .complete ∧
      (s.perform (contactForm.compile .empty) shared .submitInto).2.2.contactInfo =
        some (.text "Ada") := by
  have hrefusal : (perform (contactForm.compile .empty)
      ((start (contactForm.compile .empty)).run (contactForm.compile .empty) .empty filledIn).2.1
      ⟨some (.text "Ada"), none⟩ (.change "phone" (.text "1"))).1.isRefusal := by
    decide +kernel
  obtain ⟨hrefused, -⟩ := frame_run (contactForm.compile .empty) .empty filledIn
    ⟨some (.text "Ada"), none⟩ (.change "phone" (.text "1"))
  obtain ⟨-, -, -, -, hstatuses, hcontact, -⟩ := frame_run (contactForm.compile .empty) .empty
    filledIn ⟨some (.text "Ada"), none⟩ .submitInto
  have hstatus : ((start (contactForm.compile .empty)).run (contactForm.compile .empty) .empty
      filledIn).2.1.navigation.status? 0 = some .complete := by
    decide +kernel
  have hne : 0 ≠ ((start (contactForm.compile .empty)).run (contactForm.compile .empty) .empty
      filledIn).2.1.current := by
    decide +kernel
  exact ⟨_, _, rfl, rfl, hrefusal, (hrefused hrefusal).1, rfl,
    ((hstatuses (.inr rfl)).2 0 hne).trans hstatus, (hcontact rfl).1⟩

end Session

end FormWizard
