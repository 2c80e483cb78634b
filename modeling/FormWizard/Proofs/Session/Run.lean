import FormWizard.Proofs.Form.Paths
import FormWizard.Proofs.Navigation.Run
import FormWizard.Session

/-!
# Runs of a session

A `Request` is anything a user may ask of a session, `Session.perform` carries it out, and
`Session.run` a list of requests one after the other, with the answers in order.

What has become of the values is read off the answers: `Request.edit?` is the edit that a request
made if its answer says that it was accepted. `Session.values_perform` says of a single request that
with an edit the values are derived from the values with this edit, and without one they stay as
they are.

What has become of the stages is what the navigation makes of `Request.move?`, the move that a
request stands for. An edit stands for none and leaves the stages alone.
-/

namespace FormWizard

/-- Anything a user may ask of a session. -/
inductive Request where
  /-- Enters a value at the path that a text names. -/
  | change (path : String) (v : Value)
  /-- Enters a value at a path. -/
  | changeAt (p : FieldPath) (v : Value)
  /-- Submits the current stage. -/
  | next
  /-- Submits the current stage, and hands the values over if that submits the form. -/
  | submitInto
  /-- Goes back one stage. -/
  | previous
  /-- Jumps to a stage. -/
  | jumpTo (target : ℕ)

/-- The answer to a request. -/
inductive Answer where
  /-- Whether an edit was accepted, or why its path is no path. -/
  | edited (accepted : Except PathError Bool)
  /-- What became of a request to go somewhere. -/
  | navigated (t : Transition)

/-- The edit that a request made, given its answer. -/
def Request.edit? (r : Request) (a : Answer) : Option (FieldPath × Value) :=
  match r, a with
  | .change path v, .edited (.ok true) => (FieldPath.ofText path).toOption.map (·, v)
  | .changeAt p v, .edited (.ok true) => some (p, v)
  | _, _ => none

/-- A request by text makes the edit that the one at the path does. -/
theorem Request.edit?_change_of_ok {path : String} {p : FieldPath}
    (h : FieldPath.ofText path = .ok p) (v : Value) (a : Answer) :
    (Request.change path v).edit? a = (Request.changeAt p v).edit? a := by
  rcases a with (e | _ | _) | t
  case edited.ok.true =>
    rw [edit?, h]
    rfl
  all_goals rfl

/-- The move among the stages that a request makes. -/
def Request.move? (c : CompiledForm) (s : Session) : Request → Option Move
  | .change _ _ => none
  | .changeAt _ _ => none
  | .next => some (.submit fun index ↦ c.validate index s.values)
  | .submitInto => some (.submit fun index ↦ c.validate index s.values)
  | .previous => some .previous
  | .jumpTo target => some (.jumpTo target)

/-- An edit is accepted at the paths of the form for which there is no calculation. -/
theorem CompiledForm.refusal?_eq_none_iff {c : CompiledForm} {p : FieldPath} :
    c.refusal? p = none ↔ c.form.HasPath p ∧ ∀ d ∈ c.calculations, d.path ≠ p := by
  have hcomputed : (∀ d ∈ c.calculations, d.path ≠ p) ↔ ¬ c.isComputed p := by
    rw [isComputed_iff, not_exists]
    simp only [not_and, ne_eq]
  rw [refusal?, hcomputed, ← Form.isSome_field?_iff]
  rcases c.form.field? p with _ | f
  · simp
  · cases c.isComputed p <;> simp

namespace Session

/-- Carries out a request. -/
def perform (c : CompiledForm) (s : Session) (shared : SharedState) :
    Request → Answer × Session × SharedState
  | .change path v =>
    let (accepted, s) := s.change c path v
    (.edited accepted, s, shared)
  | .changeAt p v =>
    let (accepted, s) := s.changeAt c p v
    (.edited (.ok accepted), s, shared)
  | .next =>
    let (t, s) := s.next c
    (.navigated t, s, shared)
  | .submitInto =>
    let (t, s, shared) := s.submitInto c shared
    (.navigated t, s, shared)
  | .previous =>
    let (t, s) := s.previous c
    (.navigated t, s, shared)
  | .jumpTo target =>
    let (t, s) := s.jumpTo c target
    (.navigated t, s, shared)

/-- Carries out requests one after the other. -/
def run (c : CompiledForm) (s : Session) (shared : SharedState) :
    List Request → List Answer × Session × SharedState
  | [] => ([], s, shared)
  | r :: rs =>
    let (a, s, shared) := s.perform c shared r
    let (as, s, shared) := run c s shared rs
    (a :: as, s, shared)

/-- The edits that were accepted in a run, given its answers. -/
def acceptedEdits (rs : List Request) (as : List Answer) : List (FieldPath × Value) :=
  (rs.zip as).filterMap fun (r, a) ↦ r.edit? a

/-- The edits that are accepted when requests are carried out one after the other. -/
def edits (c : CompiledForm) (s : Session) (shared : SharedState) (rs : List Request) :
    List (FieldPath × Value) := acceptedEdits rs (s.run c shared rs).1

/-- The accepted edits are those of the first request and those of the others. -/
@[simp]
theorem acceptedEdits_cons (r : Request) (rs : List Request) (a : Answer) (as : List Answer) :
    acceptedEdits (r :: rs) (a :: as) = (r.edit? a).toList ++ acceptedEdits rs as := by
  rcases hedit : r.edit? a with _ | e <;> simp [acceptedEdits, hedit]

variable {c : CompiledForm} {s : Session} {r : Request} {p : FieldPath} {v : Value}

/-! ### One request -/

/-- A refused edit leaves the session as it was. -/
theorem changeAt_of_refusal {refusal : Refusal} (h : c.refusal? p = some refusal) :
    s.changeAt c p v = (false, s) := by
  rw [changeAt, h]

/-- An accepted edit is written, the values are derived, and the errors are brought up to date. -/
theorem changeAt_of_accepted (h : c.refusal? p = none) :
    s.changeAt c p v = (true, { s with values := c.derive (s.values.write p v) }.revalidate c) := by
  rw [changeAt, h]

theorem change_of_error {path : String} {e : PathError} (h : FieldPath.ofText path = .error e) :
    s.change c path v = (.error e, s) := by
  rw [change, h]

/-- A text that is a path stands for it. -/
theorem change_of_ok {path : String} (h : FieldPath.ofText path = .ok p) :
    s.change c path v = (.ok (s.changeAt c p v).1, (s.changeAt c p v).2) := by
  rw [change, h]

/-- A request to edit by text is the request to edit at the path that the text names. -/
theorem perform_change_of_ok {path : String} (h : FieldPath.ofText path = .ok p)
    (shared : SharedState) :
    s.perform c shared (.change path v) = s.perform c shared (.changeAt p v) := by
  rw [perform, change_of_ok h]
  rfl

@[simp]
theorem values_next (c : CompiledForm) (s : Session) : (s.next c).2.values = s.values := by
  rw [next]
  generalize s.navigation.submit _ = step
  obtain ⟨t, n⟩ := step
  cases t <;> rfl

@[simp]
theorem values_goTo (c : CompiledForm) (s : Session) (step : Transition × Navigation) :
    (s.goTo c step).2.values = s.values := by
  rw [goTo]
  dsimp only
  split <;> rfl

@[simp]
theorem values_submitInto (c : CompiledForm) (s : Session) (shared : SharedState) :
    (s.submitInto c shared).2.1.values = s.values := values_next c s

/-- An edit at a path is made, and the values are derived anew, or leaves the values as they are. -/
theorem values_perform_changeAt (c : CompiledForm) (s : Session) (shared : SharedState)
    (p : FieldPath) (v : Value) :
    ((Request.changeAt p v).edit? (s.perform c shared (.changeAt p v)).1 = none ∧
        (s.perform c shared (.changeAt p v)).2.1.values = s.values) ∨
      ((Request.changeAt p v).edit? (s.perform c shared (.changeAt p v)).1 = some (p, v) ∧
        c.refusal? p = none ∧
        (s.perform c shared (.changeAt p v)).2.1.values = c.derive (s.values.write p v)) := by
  rw [perform]
  rcases hrefusal : c.refusal? p with _ | refusal
  · rw [changeAt_of_accepted hrefusal]
    exact .inr ⟨rfl, rfl, rfl⟩
  · rw [changeAt_of_refusal hrefusal]
    exact .inl ⟨rfl, rfl⟩

/-- A request either makes an edit, from which the values are derived anew, or leaves the values as
they are. -/
theorem values_perform (c : CompiledForm) (s : Session) (shared : SharedState) (r : Request) :
    (r.edit? (s.perform c shared r).1 = none ∧ (s.perform c shared r).2.1.values = s.values) ∨
      ∃ p v, r.edit? (s.perform c shared r).1 = some (p, v) ∧ c.refusal? p = none ∧
        (s.perform c shared r).2.1.values = c.derive (s.values.write p v) := by
  cases r with
  | change path v =>
    rcases hpath : FieldPath.ofText path with e | p
    · rw [perform, change_of_error hpath]
      exact .inl ⟨rfl, rfl⟩
    -- from here on it is the edit at the path that the text names
    rw [perform_change_of_ok hpath, Request.edit?_change_of_ok hpath]
    exact (values_perform_changeAt c s shared p v).imp_right fun h ↦ ⟨p, v, h⟩
  | changeAt p v => exact (values_perform_changeAt c s shared p v).imp_right fun h ↦ ⟨p, v, h⟩
  | next => exact .inl ⟨rfl, values_next c s⟩
  | submitInto => exact .inl ⟨rfl, values_submitInto c s shared⟩
  | previous => exact .inl ⟨rfl, values_goTo c s _⟩
  | jumpTo target => exact .inl ⟨rfl, values_goTo c s _⟩

@[simp]
theorem navigation_changeAt (c : CompiledForm) (s : Session) (p : FieldPath) (v : Value) :
    (s.changeAt c p v).2.navigation = s.navigation := by
  rw [changeAt]
  split <;> rfl

/-- An edit leaves the stages alone. -/
theorem navigation_perform_of_move?_eq_none (shared : SharedState) (h : r.move? c s = none) :
    (∃ accepted, (s.perform c shared r).1 = .edited accepted) ∧
      (s.perform c shared r).2.1.navigation = s.navigation := by
  cases r with
  | change path v =>
    refine ⟨⟨_, rfl⟩, ?_⟩
    show (s.change c path v).2.navigation = s.navigation
    rcases hpath : FieldPath.ofText path with e | p
    · rw [change_of_error hpath]
    · rw [change_of_ok hpath]
      exact navigation_changeAt c s p v
  | changeAt p v => exact ⟨⟨_, rfl⟩, navigation_changeAt c s p v⟩
  | next => cases h
  | submitInto => cases h
  | previous => cases h
  | jumpTo target => cases h

/-- Submitting is answered by the navigation, given what the present values are validated to. -/
theorem navigation_next (c : CompiledForm) (s : Session) :
    (s.next c).1 = (s.navigation.submit fun index ↦ c.validate index s.values).1 ∧
      (s.next c).2.navigation =
        (s.navigation.submit fun index ↦ c.validate index s.values).2 := by
  rw [next]
  generalize s.navigation.submit _ = step
  obtain ⟨t, n⟩ := step
  cases t <;> exact ⟨rfl, rfl⟩

/-- Going to another stage is answered by the navigation. -/
theorem navigation_goTo (c : CompiledForm) (s : Session) (step : Transition × Navigation) :
    (s.goTo c step).1 = step.1 ∧ (s.goTo c step).2.navigation = step.2 := by
  rw [goTo]
  dsimp only
  split <;> exact ⟨rfl, rfl⟩

/-- Any other request is answered by the navigation. -/
theorem navigation_perform_of_move?_eq_some (shared : SharedState) {m : Move}
    (h : r.move? c s = some m) :
    (s.perform c shared r).1 = .navigated (s.navigation.step m).1 ∧
      (s.perform c shared r).2.1.navigation = (s.navigation.step m).2 := by
  cases r with
  | change path v => cases h
  | changeAt p v => cases h
  | next =>
    cases h
    obtain ⟨ht, hn⟩ := navigation_next c s
    exact ⟨congrArg Answer.navigated ht, hn⟩
  | submitInto =>
    cases h
    obtain ⟨ht, hn⟩ := navigation_next c s
    exact ⟨congrArg Answer.navigated ht, hn⟩
  | previous =>
    cases h
    obtain ⟨ht, hn⟩ := navigation_goTo c s s.navigation.previous
    exact ⟨congrArg Answer.navigated ht, hn⟩
  | jumpTo target =>
    cases h
    obtain ⟨ht, hn⟩ := navigation_goTo c s (s.navigation.jumpTo target)
    exact ⟨congrArg Answer.navigated ht, hn⟩

/-- Only submissions ask for a validation: that of the current stage for the present values. -/
theorem eq_submission_of_attempt? {m : Move} {x : Attempt} (h : r.move? c s = some m)
    (hx : s.navigation.attempt? m = some x) :
    (r = .next ∨ r = .submitInto) ∧ x = ⟨s.current, c.validate s.current s.values⟩ := by
  obtain ⟨validate, rfl, rfl⟩ := Navigation.attempt?_eq_some hx
  cases r with
  | change path v => cases h
  | changeAt p v => cases h
  | next =>
    cases h
    exact ⟨.inl rfl, rfl⟩
  | submitInto =>
    cases h
    exact ⟨.inr rfl, rfl⟩
  | previous => cases h
  | jumpTo target => cases h

/-- A request either leaves the stages alone or makes a step. -/
theorem navigation_perform (c : CompiledForm) (s : Session) (shared : SharedState) (r : Request) :
    (s.perform c shared r).2.1.navigation = s.navigation ∨
      ∃ a t, s.navigation.Step a t (s.perform c shared r).2.1.navigation := by
  rcases hmove : r.move? c s with _ | m
  · exact .inl (navigation_perform_of_move?_eq_none shared hmove).2
  · rw [(navigation_perform_of_move?_eq_some shared hmove).2]
    exact .inr ⟨_, _, s.navigation.step_spec m⟩

/-! ### Several requests -/

@[simp]
theorem run_nil (c : CompiledForm) (s : Session) (shared : SharedState) :
    s.run c shared [] = ([], s, shared) := rfl

/-- The first request is carried out first, and the others go on from where it leads. -/
@[simp]
theorem run_cons (c : CompiledForm) (s : Session) (shared : SharedState) (r : Request)
    (rs : List Request) :
    s.run c shared (r :: rs) =
      ((s.perform c shared r).1 ::
          ((s.perform c shared r).2.1.run c (s.perform c shared r).2.2 rs).1,
        ((s.perform c shared r).2.1.run c (s.perform c shared r).2.2 rs).2) := rfl

/-- Requests go on from where those in front of them lead. -/
@[simp]
theorem run_append (c : CompiledForm) (s : Session) (shared : SharedState)
    (rs rs' : List Request) :
    s.run c shared (rs ++ rs') =
      ((s.run c shared rs).1 ++ ((s.run c shared rs).2.1.run c (s.run c shared rs).2.2 rs').1,
        ((s.run c shared rs).2.1.run c (s.run c shared rs).2.2 rs').2) := by
  induction rs generalizing s shared with
  | nil => rfl
  | cons r rs ih =>
    simp [ih]

@[simp]
theorem edits_cons (c : CompiledForm) (s : Session) (shared : SharedState) (r : Request)
    (rs : List Request) :
    s.edits c shared (r :: rs) = (r.edit? (s.perform c shared r).1).toList ++
      (s.perform c shared r).2.1.edits c (s.perform c shared r).2.2 rs :=
  acceptedEdits_cons r rs _ _

@[simp]
theorem edits_append (c : CompiledForm) (s : Session) (shared : SharedState)
    (rs rs' : List Request) :
    s.edits c shared (rs ++ rs') = s.edits c shared rs ++
      (s.run c shared rs).2.1.edits c (s.run c shared rs).2.2 rs' := by
  induction rs generalizing s shared with
  | nil => rfl
  | cons r rs ih =>
    simp [ih]

/-- Without an edit that is accepted the values stay as they are. -/
theorem values_run_of_edits_eq_nil {shared : SharedState} {rs : List Request}
    (h : s.edits c shared rs = []) : (s.run c shared rs).2.1.values = s.values := by
  induction rs generalizing s shared with
  | nil => rfl
  | cons r rs ih =>
    rw [edits_cons, List.append_eq_nil_iff] at h
    obtain ⟨hedit, hrest⟩ := h
    have hvalues : (s.perform c shared r).2.1.values = s.values := by
      obtain ⟨-, hvalues⟩ | ⟨p, v, hedit', -, -⟩ := values_perform c s shared r
      · exact hvalues
      · rw [hedit'] at hedit
        cases hedit
    simp [ih hrest, hvalues]

/-- The values stay as they are from a place on behind which no edit is accepted. -/
theorem values_run_append_of_edits_eq {shared : SharedState} {rs rs' : List Request}
    (h : s.edits c shared (rs ++ rs') = s.edits c shared rs) :
    (s.run c shared (rs ++ rs')).2.1.values = (s.run c shared rs).2.1.values := by
  have h : (s.run c shared rs).2.1.edits c (s.run c shared rs).2.2 rs' = [] := by simpa using h
  simp [values_run_of_edits_eq_nil h]

/-- There is always a current stage if there is one to begin with. -/
theorem inRange_run (h : s.navigation.InRange) (shared : SharedState) (rs : List Request) :
    (s.run c shared rs).2.1.navigation.InRange := by
  induction rs generalizing s shared with
  | nil => exact h
  | cons r rs ih =>
    refine ih ?_ _
    obtain hsame | ⟨a, t, hstep⟩ := navigation_perform c s shared r
    · exact hsame ▸ h
    · exact h.step hstep

/-- No stage is added or lost. -/
@[simp]
theorem length_statuses_run (c : CompiledForm) (s : Session) (shared : SharedState)
    (rs : List Request) :
    (s.run c shared rs).2.1.navigation.statuses.length = s.navigation.statuses.length := by
  induction rs generalizing s shared with
  | nil => rfl
  | cons r rs ih =>
    rw [run_cons, ih]
    obtain hsame | ⟨a, t, hstep⟩ := navigation_perform c s shared r
    · rw [hsame]
    · exact hstep.length_eq

@[simp]
theorem length_statuses_start (c : CompiledForm) :
    (start c).navigation.statuses.length = c.form.stages.length := List.length_replicate

/-- A session has as many stages as its form, whatever it was asked. -/
theorem length_statuses_run_start (c : CompiledForm) (shared : SharedState) (rs : List Request) :
    ((start c).run c shared rs).2.1.navigation.statuses.length = c.form.stages.length := by
  simp

/-- A session of a form with stages always has a current one. -/
theorem inRange_run_start (h : c.form.stages ≠ []) (shared : SharedState) (rs : List Request) :
    ((start c).run c shared rs).2.1.navigation.InRange :=
  inRange_run (Navigation.inRange_start (List.length_pos_iff.2 h)) shared rs

end Session

end FormWizard
