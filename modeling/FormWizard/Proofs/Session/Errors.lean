import FormWizard.Proofs.Session.Run

/-!
# The errors of a session

A session keeps the errors of the current stage, so that they need not be found again whenever they
are shown. Some requests bring them up to date (`Request.Refreshes`), and all others leave the whole
session as it was (`Session.perform_upToDate_or_eq`). A session that was never brought up to date is
therefore a new one, whose current stage was not attempted and which shows nothing.

`Session.visibleErrors_run` is what a user may rely on: shown is exactly what validating the current
stage finds in the present values, once the stage was attempted.
-/

namespace FormWizard

/-- The request brings the errors up to date: it is an edit that is accepted, or submits the current
stage, or makes another stage the current one. -/
def Request.Refreshes : Request → Answer → Prop
  | .change _ _, a => a = .edited (.ok true)
  | .changeAt _ _, a => a = .edited (.ok true)
  | .next, _ => True
  | .submitInto, _ => True
  | .previous, a => ∃ start target, a = .navigated (.moved start target)
  | .jumpTo _, a => ∃ start target, a = .navigated (.moved start target)

namespace Session

/-- The errors are those of the current stage for the present values. -/
def UpToDate (c : CompiledForm) (s : Session) : Prop := s.errors = c.validate s.current s.values

variable {c : CompiledForm} {s : Session} {shared : SharedState} {r : Request}

theorem upToDate_revalidate (c : CompiledForm) (s : Session) : (s.revalidate c).UpToDate c := rfl

/-! ### What is shown -/

/-- Once the current stage was attempted its errors are shown. -/
theorem visibleErrors_of_attempted (h : s.navigation.Attempted s.current) :
    s.visibleErrors = s.errors := by
  obtain ⟨status, hstatus, hne⟩ := h
  rw [visibleErrors, hstatus]
  cases status with
  | untouched => exact absurd rfl hne
  | incomplete => rfl
  | complete => rfl

/-- Nothing is shown for a stage that was not attempted. -/
theorem visibleErrors_of_not_attempted (h : ¬ s.navigation.Attempted s.current) :
    s.visibleErrors = ∅ := by
  rw [visibleErrors]
  split
  · rfl
  · rfl
  · rename_i status hne hstatus
    exact absurd ⟨status, hstatus, hne⟩ h

/-! ### One request -/

/-- Submitting brings the errors up to date, whatever becomes of it. -/
theorem upToDate_next (c : CompiledForm) (s : Session) : (s.next c).2.UpToDate c := by
  have hstep := s.navigation.step_spec (.submit fun index ↦ c.validate index s.values)
  have hfound {x : Attempt}
      (hx : s.navigation.attempt? (.submit fun index ↦ c.validate index s.values) = some x) :
      x.errors = c.validate s.current s.values :=
    congrArg Attempt.errors (eq_submission_of_attempt? (r := .next) rfl hx).2
  rw [next]
  rw [Navigation.step] at hstep
  generalize s.navigation.submit _ = step at hstep ⊢
  generalize s.navigation.attempt? _ = a at hstep hfound
  obtain ⟨t, n⟩ := step
  cases hstep with
  | ignored => exact upToDate_revalidate c _
  | blocked errors herrors => exact hfound rfl
  | advanced errors herrors hlast => exact upToDate_revalidate c _
  | submitted errors herrors hlast =>
    -- the errors are dropped, and there were none
    have hempty : errors = ∅ := Std.ExtTreeMap.isEmpty_iff.1 herrors
    exact hempty.symm.trans (hfound rfl)
  | moved target htarget => exact upToDate_revalidate c _

/-- Making another stage current brings the errors up to date, and an ignored request changes
nothing. -/
theorem upToDate_goTo {step : Transition × Navigation}
    (h : s.navigation.Step none step.1 step.2) :
    ((∃ start target, Answer.navigated (s.goTo c step).1 = .navigated (.moved start target)) ∧
        (s.goTo c step).2.UpToDate c) ∨
      ((¬ ∃ start target, Answer.navigated (s.goTo c step).1 = .navigated (.moved start target)) ∧
        (s.goTo c step).2 = s) := by
  obtain ⟨t, n⟩ := step
  cases h with
  | ignored =>
    refine .inr ⟨?_, rfl⟩
    rintro ⟨start, target, h⟩
    cases h
  | moved target htarget => exact .inl ⟨⟨_, target, rfl⟩, upToDate_revalidate c _⟩

/-- An edit brings the errors up to date if it is accepted, and changes nothing if it is not. -/
theorem upToDate_changeAt (c : CompiledForm) (s : Session) (p : FieldPath) (v : Value) :
    (Answer.edited (.ok (s.changeAt c p v).1) = .edited (.ok true) ∧
        (s.changeAt c p v).2.UpToDate c) ∨
      (Answer.edited (.ok (s.changeAt c p v).1) ≠ .edited (.ok true) ∧
        (s.changeAt c p v).2 = s) := by
  rcases hrefusal : c.refusal? p with _ | refusal
  · rw [changeAt_of_accepted hrefusal]
    exact .inl ⟨rfl, upToDate_revalidate c _⟩
  · rw [changeAt_of_refusal hrefusal]
    refine .inr ⟨fun h ↦ ?_, rfl⟩
    cases h

/-- A request either brings the errors up to date or changes nothing. -/
theorem perform_upToDate_or_eq (c : CompiledForm) (s : Session) (shared : SharedState)
    (r : Request) :
    (r.Refreshes (s.perform c shared r).1 ∧ (s.perform c shared r).2.1.UpToDate c) ∨
      (¬ r.Refreshes (s.perform c shared r).1 ∧ (s.perform c shared r).2.1 = s) := by
  cases r with
  | change path v =>
    rw [perform]
    rcases hpath : FieldPath.ofText path with e | p
    · rw [change_of_error hpath]
      refine .inr ⟨fun h ↦ ?_, rfl⟩
      cases h
    · rw [change_of_ok hpath]
      exact upToDate_changeAt c s p v
  | changeAt p v => exact upToDate_changeAt c s p v
  | next => exact .inl ⟨trivial, upToDate_next c s⟩
  | submitInto => exact .inl ⟨trivial, upToDate_next c s⟩
  | previous => exact upToDate_goTo (s.navigation.step_spec .previous)
  | jumpTo target => exact upToDate_goTo (s.navigation.step_spec (.jumpTo target))

/-- After a submission is blocked the errors that blocked it are shown. -/
theorem visibleErrors_perform_of_blocked {errors : ErrorMap}
    (hrange : s.navigation.statuses ≠ [] → s.navigation.InRange)
    (h : (s.perform c shared r).1 = .navigated (.blocked errors)) :
    (s.perform c shared r).2.1.visibleErrors = errors ∧ errors ≠ ∅ := by
  rcases hmove : r.move? c s with _ | m
  · obtain ⟨accepted, hedited⟩ := (navigation_perform_of_move?_eq_none shared hmove).1
    rw [hedited] at h
    cases h
  obtain ⟨hanswer, hnavigation⟩ := navigation_perform_of_move?_eq_some shared hmove
  have hblocked : (s.navigation.step m).1 = .blocked errors :=
    Answer.navigated.inj (hanswer.symm.trans h)
  obtain ⟨hattempt, hne, hmark⟩ := (hblocked ▸ s.navigation.step_spec m).of_blocked
  obtain ⟨hr, hfound⟩ := eq_submission_of_attempt? hmove hattempt
  have herrors : errors = c.validate s.current s.values := congrArg Attempt.errors hfound
  -- the errors are up to date, and neither the values nor the current stage have changed
  have hvalues : (s.perform c shared r).2.1.values = s.values := by
    obtain rfl | rfl := hr <;> exact values_next c s
  have hupToDate : (s.perform c shared r).2.1.UpToDate c := by
    obtain rfl | rfl := hr <;> exact upToDate_next c s
  have hmarked := hnavigation.trans hmark
  have hcurrent : (s.perform c shared r).2.1.current = s.current := by
    show (s.perform c shared r).2.1.navigation.current = s.navigation.current
    rw [hmarked]
    rfl
  have hattempted : (s.perform c shared r).2.1.navigation.Attempted
      (s.perform c shared r).2.1.current := by
    rw [hcurrent, hmarked]
    have hrange := hrange (Navigation.statuses_ne_nil_of_attempt? hattempt)
    exact (Navigation.attempted_mark hrange .incomplete nofun).2 (.inl rfl)
  constructor
  · rw [visibleErrors_of_attempted hattempted, hupToDate, hcurrent, hvalues, ← herrors]
  · exact fun hempty ↦ hne (Std.ExtTreeMap.isEmpty_iff.2 hempty)

/-! ### Runs -/

/-- A session is up to date once some request brought it there, and until then it does not
change. -/
theorem run_upToDate_or_eq (c : CompiledForm) (s : Session) (shared : SharedState)
    (rs : List Request) :
    (s.run c shared rs).2.1.UpToDate c ∨
      ((∀ x ∈ rs.zip (s.run c shared rs).1, ¬ x.1.Refreshes x.2) ∧
        (s.run c shared rs).2.1 = s) := by
  induction rs generalizing s shared with
  | nil => exact .inr ⟨nofun, rfl⟩
  | cons r rs ih =>
    rw [run_cons, List.zip_cons_cons, List.forall_mem_cons]
    obtain hlater | ⟨hnone, hsame⟩ :=
      ih (s.perform c shared r).2.1 (s.perform c shared r).2.2
    · exact .inl hlater
    rw [hsame]
    obtain ⟨-, hupToDate⟩ | ⟨hr, hsame'⟩ := perform_upToDate_or_eq c s shared r
    · exact .inl hupToDate
    · exact .inr ⟨⟨hr, hnone⟩, hsame'⟩

/-- What a session shows is the truth about the current stage. Nothing is shown while the stage is
untouched, and the errors of the present values afterwards; these are also kept from the first
request on that changes anything; and a submission that is blocked shows what blocked it. -/
theorem visibleErrors_run (c : CompiledForm) (shared : SharedState) (rs : List Request) :
    let s := ((start c).run c shared rs).2.1
    let as := ((start c).run c shared rs).1
    (c.form.stages = [] ∨ s.navigation.status? s.current = some .untouched →
        s.visibleErrors = ∅) ∧
      (c.form.stages ≠ [] → s.navigation.status? s.current ≠ some .untouched →
        s.visibleErrors = c.validate s.current s.values) ∧
      ((∃ x ∈ rs.zip as, x.1.Refreshes x.2) → s.errors = c.validate s.current s.values) ∧
      ∀ shared' r errors, (s.perform c shared' r).1 = .navigated (.blocked errors) →
        (s.perform c shared' r).2.1.visibleErrors = errors ∧ errors ≠ ∅ := by
  intro s as
  have hlength : s.navigation.statuses.length = c.form.stages.length :=
    length_statuses_run_start c shared rs
  refine ⟨?_, ?_, ?_, ?_⟩
  · intro h
    refine visibleErrors_of_not_attempted fun hattempted ↦ ?_
    obtain hstages | huntouched := h
    · have hlt := hattempted.lt_length
      rw [hlength, hstages] at hlt
      exact Nat.not_lt_zero _ hlt
    · obtain ⟨status, hstatus, hne⟩ := hattempted
      exact hne (Option.some.inj (hstatus.symm.trans huntouched))
  · intro hstages huntouched
    have hlt : s.current < s.navigation.statuses.length := inRange_run_start hstages shared rs
    have hattempted : s.navigation.Attempted s.current :=
      ⟨_, List.getElem?_eq_getElem hlt, fun h ↦ huntouched (h ▸ List.getElem?_eq_getElem hlt)⟩
    rw [visibleErrors_of_attempted hattempted]
    obtain hupToDate | ⟨-, hsame⟩ := run_upToDate_or_eq c (start c) shared rs
    · exact hupToDate
    · -- the session is still a new one, and nothing was attempted
      have hsame : s = start c := hsame
      rw [hsame] at hattempted
      exact absurd hattempted Navigation.not_attempted_start
  · rintro ⟨x, hx, hrefreshes⟩
    obtain hupToDate | ⟨hnone, -⟩ := run_upToDate_or_eq c (start c) shared rs
    · exact hupToDate
    · exact absurd hrefreshes (hnone x hx)
  · intro shared' r errors h
    have hrange (hne : s.navigation.statuses ≠ []) : s.navigation.InRange := by
      refine inRange_run_start (fun hstages ↦ hne ?_) shared rs
      rw [hstages] at hlength
      exact List.eq_nil_of_length_eq_zero hlength
    exact visibleErrors_perform_of_blocked hrange h

end Session

/-- A form in two stages, the first of which asks for an address. -/
def contactForm : Form where
  name := "contact"
  description := none
  showStageNames := true
  stages := [⟨"sender", none, [.field { Field.plain "email" none with required := true }]⟩,
    ⟨"message", none, [.field (.plain "text" none)]⟩]

namespace Session

/-- Requests of which the first is blocked, for want of an address, and the second leaves the
address alone. -/
def blockedRequests : List Request := [.next, .changeAt (.root "text") (.text "Hello")]

/-- The missing address is shown, and shown again when the stage is submitted once more. -/
theorem visibleErrors_run_blockedRequests :
    ∃ s, s = ((start (contactForm.compile .empty)).run (contactForm.compile .empty) .empty
        blockedRequests).2.1 ∧
      contactForm.stages ≠ [] ∧ s.navigation.status? s.current ≠ some .untouched ∧
      s.visibleErrors = (contactForm.compile .empty).validate s.current s.values ∧
      s.visibleErrors[FieldPath.root "email"]? = some "Email is required." ∧
      ∃ errors, (s.perform (contactForm.compile .empty) .empty .next).1 =
          .navigated (.blocked errors) ∧
        (s.perform (contactForm.compile .empty) .empty .next).2.1.visibleErrors = errors := by
  have hstages : contactForm.stages ≠ [] := List.cons_ne_nil _ _
  obtain ⟨-, hvisible, -, hblocked⟩ :=
    visibleErrors_run (contactForm.compile .empty) .empty blockedRequests
  refine ⟨_, rfl, hstages, ?_, hvisible hstages ?_, ?_, _, rfl, (hblocked _ _ _ rfl).1⟩
  · decide +kernel
  · decide +kernel
  · decide +kernel

end Session

end FormWizard
