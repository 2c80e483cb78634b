import FormWizard.Proofs.Session.Errors

/-!
# What a submitted form was checked for

A form is submitted from its last stage, which is then validated, and from no other stage. For the
stages before it all that is certain is that each had no errors at some submission earlier in the
run (`Session.PassedIn`), for the values of that moment. An edit is accepted at any time and for any
stage, so that these values need not be the ones that are handed over:
`Session.submitted_with_errors` is a run that ends with an error in the first stage.

`Session.validate_of_submitted` says what holds of every run. It is the invariant of navigations
that all stages before the current one were passed, for passing in a run of a session.
-/

namespace FormWizard

namespace Session

/-- The stage was submitted somewhere among the requests, and had no errors. -/
def PassedIn (c : CompiledForm) (shared : SharedState) (rs : List Request) (i : ℕ) : Prop :=
  ∃ before r after, rs = before ++ r :: after ∧ (r = .next ∨ r = .submitInto) ∧
    ((start c).run c shared before).2.1.current = i ∧
    c.validate i ((start c).run c shared before).2.1.values = ∅

variable {c : CompiledForm} {shared : SharedState} {rs : List Request} {r : Request} {i : ℕ}

/-- A stage that was passed stays so with one more request. -/
theorem PassedIn.concat (h : PassedIn c shared rs i) (r : Request) :
    PassedIn c shared (rs ++ [r]) i := by
  obtain ⟨before, r', after, rfl, hr, hcurrent, hvalidate⟩ := h
  refine ⟨before, r', after ++ [r], ?_, hr, hcurrent, hvalidate⟩
  rw [List.append_assoc, List.cons_append]

/-- A submission that finds no errors passes the current stage. -/
theorem passedIn_concat_of_attempt? {m : Move} {x : Attempt}
    (hmove : r.move? c ((start c).run c shared rs).2.1 = some m)
    (hx : ((start c).run c shared rs).2.1.navigation.attempt? m = some x)
    (herrors : x.errors.isEmpty) : PassedIn c shared (rs ++ [r]) x.stage := by
  obtain ⟨hr, rfl⟩ := eq_submission_of_attempt? hmove hx
  exact ⟨rs, r, [], rfl, hr, rfl, Std.ExtTreeMap.isEmpty_iff.1 herrors⟩

/-- The stages before the current one were all passed in the run. -/
theorem behind_run (hstages : c.form.stages ≠ []) (shared : SharedState) (rs : List Request) :
    ((start c).run c shared rs).2.1.navigation.Behind (PassedIn c shared rs) := by
  induction rs using List.reverseRecOn with
  | nil =>
    intro j hj i hi
    obtain rfl | hj := hj
    · exact absurd hi (Nat.not_lt_zero i)
    · exact absurd hj Navigation.not_attempted_start
  | append_singleton rs r ih =>
    rw [run_append]
    show (((start c).run c shared rs).2.1.perform c _ r).2.1.navigation.Behind _
    have hrange := inRange_run_start hstages shared rs
    rcases hmove : r.move? c ((start c).run c shared rs).2.1 with _ | m
    · rw [(navigation_perform_of_move?_eq_none _ hmove).2]
      exact fun j hj i hi ↦ (ih j hj i hi).concat r
    · rw [(navigation_perform_of_move?_eq_some _ hmove).2]
      exact ih.step hrange (Navigation.step_spec _ m) (fun _ h ↦ h.concat r)
        fun x hx ↦ passedIn_concat_of_attempt? hmove hx

/-- A form is submitted from its last stage, which has no errors then. -/
theorem lastStage_of_submitted {s : Session} (shared : SharedState)
    (h : (s.perform c shared r).1 = .navigated .submitted) :
    (r = .next ∨ r = .submitInto) ∧ s.current + 1 = s.navigation.statuses.length ∧
      c.validate s.current s.values = ∅ := by
  rcases hmove : r.move? c s with _ | m
  · obtain ⟨accepted, hedited⟩ := (navigation_perform_of_move?_eq_none shared hmove).1
    rw [hedited] at h
    cases h
  have hanswer := (navigation_perform_of_move?_eq_some shared hmove).1
  have hsubmitted : (s.navigation.step m).1 = .submitted :=
    Answer.navigated.inj (hanswer.symm.trans h)
  obtain ⟨errors, hattempt, herrors, hlast, -⟩ :=
    (hsubmitted ▸ s.navigation.step_spec m).of_submitted
  obtain ⟨hr, hfound⟩ := eq_submission_of_attempt? hmove hattempt
  have hvalidate : errors = c.validate s.current s.values := congrArg Attempt.errors hfound
  exact ⟨hr, hlast, hvalidate ▸ Std.ExtTreeMap.isEmpty_iff.1 herrors⟩

/-- What is handed over was checked. The last stage has no errors in the values that are handed
over. Each stage was passed at some submission of the run, and has no errors in these values either
unless an edit was accepted since. -/
theorem validate_of_submitted {s : Session} {shared' : SharedState}
    (hrun : ((start c).run c shared rs).2 = (s, shared'))
    (hsubmitted : (s.perform c shared' r).1 = .navigated .submitted) :
    s.current + 1 = c.form.stages.length ∧ c.validate s.current s.values = ∅ ∧
      (s.perform c shared' r).2.1.values = s.values ∧
      (r = .submitInto →
        (s.perform c shared' r).2.2 = shared'.apply (.setQuoteForm s.values.toJson)) ∧
      ∀ i < c.form.stages.length, ∃ before r' after, rs ++ [r] = before ++ r' :: after ∧
        (r' = .next ∨ r' = .submitInto) ∧
        ((start c).run c shared before).2.1.current = i ∧
        c.validate i ((start c).run c shared before).2.1.values = ∅ ∧
        ((start c).edits c shared (rs ++ [r]) = (start c).edits c shared before →
          c.validate i s.values = ∅) := by
  obtain ⟨hr, hlast, hvalidate⟩ := lastStage_of_submitted shared' hsubmitted
  have hs : ((start c).run c shared rs).2.1 = s := congrArg Prod.fst hrun
  have hlength : s.navigation.statuses.length = c.form.stages.length := by
    rw [← hs]
    exact length_statuses_run_start c shared rs
  rw [hlength] at hlast
  have hstages : c.form.stages ≠ [] := List.ne_nil_of_length_pos (by omega)
  have hvalues : (s.perform c shared' r).2.1.values = s.values := by
    obtain rfl | rfl := hr <;> exact values_next c s
  refine ⟨hlast, hvalidate, hvalues, ?_, fun i hi ↦ ?_⟩
  · rintro rfl
    have hnext : (s.next c).1 = .submitted := Answer.navigated.inj hsubmitted
    show (if (s.next c).1.isSubmitted then
      shared'.apply (.setQuoteForm (s.next c).2.values.toJson) else shared') = _
    rw [hnext, values_next]
    rfl
  · -- the current stage is passed by this request, and those in front of it were before
    have hbehind := behind_run hstages shared rs
    rw [hs] at hbehind
    have hpassed : PassedIn c shared (rs ++ [r]) i := by
      obtain hlt | rfl := Nat.lt_or_eq_of_le (Nat.le_of_lt_succ (hlast ▸ hi))
      · exact (hbehind _ (.inl rfl) i hlt).concat r
      · exact ⟨rs, r, [], rfl, hr, by rw [hs], by rw [hs, hvalidate]⟩
    obtain ⟨before, r', after, hsplit, hr', hcurrent, hpast⟩ := hpassed
    refine ⟨before, r', after, hsplit, hr', hcurrent, hpast, fun hedits ↦ ?_⟩
    have hfinal : ((start c).run c shared (rs ++ [r])).2.1.values = s.values := by
      simp [hrun, hvalues]
    rw [hsplit] at hedits hfinal
    rw [← hfinal, values_run_append_of_edits_eq hedits]
    exact hpast

/-- Requests that fill in the first stage, leave it, and empty it again. -/
def emptiedLater : List Request :=
  [.change "email" (.text "ada@example.com"), .next, .change "email" .empty]

/-- A form is submitted although its first stage, which was left without errors, has one again: the
values handed over were not those that the stage was checked with. -/
theorem submitted_with_errors :
    ∃ s shared, ((start (contactForm.compile .empty)).run (contactForm.compile .empty) .empty
        emptiedLater).2 = (s, shared) ∧
      (s.perform (contactForm.compile .empty) shared .submitInto).1 = .navigated .submitted ∧
      (s.perform (contactForm.compile .empty) shared .submitInto).2.2 =
        shared.apply (.setQuoteForm s.values.toJson) ∧
      ((contactForm.compile .empty).validate 0 s.values)[FieldPath.root "email"]? =
        some "Email is required." := by
  refine ⟨_, _, rfl, rfl, rfl, ?_⟩
  decide +kernel

/-- In the same run the stage was checked earlier, and the last stage has no errors. -/
theorem validate_of_submitted_emptiedLater :
    ∃ s shared, ((start (contactForm.compile .empty)).run (contactForm.compile .empty) .empty
        emptiedLater).2 = (s, shared) ∧
      (s.perform (contactForm.compile .empty) shared .submitInto).1 = .navigated .submitted ∧
      (contactForm.compile .empty).validate s.current s.values = ∅ ∧
      ∃ before r after, emptiedLater ++ [.submitInto] = before ++ r :: after ∧
        ((start (contactForm.compile .empty)).run (contactForm.compile .empty) .empty
          before).2.1.current = 0 ∧
        (contactForm.compile .empty).validate 0 ((start (contactForm.compile .empty)).run
          (contactForm.compile .empty) .empty before).2.1.values = ∅ := by
  have hrun : ∃ s shared, ((start (contactForm.compile .empty)).run (contactForm.compile .empty)
        .empty emptiedLater).2 = (s, shared) ∧
      (s.perform (contactForm.compile .empty) shared .submitInto).1 = .navigated .submitted :=
    ⟨_, _, rfl, rfl⟩
  obtain ⟨s, shared, hrun, hsubmitted⟩ := hrun
  obtain ⟨-, hlast, -, -, hpassed⟩ := validate_of_submitted hrun hsubmitted
  obtain ⟨before, r, after, hsplit, -, hcurrent, hvalidate, -⟩ := hpassed 0 (by decide)
  exact ⟨s, shared, hrun, hsubmitted, hlast, before, r, after, hsplit, hcurrent, hvalidate⟩

end Session

end FormWizard
