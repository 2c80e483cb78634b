import FormWizard.Navigation
import Mathlib.Data.List.Induction
import Mathlib.Order.Lattice

/-!
# Runs of a navigation

A `Move` is anything that may be asked of a navigation, `Navigation.step` makes it, and
`Navigation.run` makes a list of moves one after the other. Two records are kept of a run.
`Navigation.submissions` lists the submissions among the moves, each with the stage that was current
and the errors found there; `Navigation.attempts` lists the validations that were asked for. In a
form with stages they are the same (`Navigation.attempts_eq_submissions`), and
`StageStatus.ofAttempts` reads the status of a stage off the last one made at it.

`Navigation.Step` lists what a move can do, and `Navigation.step_spec` says that there is nothing
else. Everything about runs rests on this list and on four facts that each of its cases keeps:

* the current stage is one of the stages (`InRange.step`);
* the stages that were attempted are those before some place, and the current stage is not behind it
  (`ReachesTo.step`);
* every stage before an attempted one or the current one was passed (`Behind.step`);
* the statuses are those of the last attempts (`AgreesWith.step`).

The third is why no stage is ever skipped. It is stated for any property that a passed stage has, so
that it can be used with other records of what was passed than the list of attempts.
-/

namespace FormWizard

/-- Anything that may be asked of a navigation. -/
inductive Move where
  /-- Submits the current stage, given how stages are validated. -/
  | submit (validate : ℕ → ErrorMap)
  /-- Goes back one stage. -/
  | previous
  /-- Jumps to a stage. -/
  | jumpTo (target : ℕ)

/-- A validation that was asked for, and what it found. -/
structure Attempt where
  /-- The stage that was validated. -/
  stage : ℕ
  /-- The errors that were found. -/
  errors : ErrorMap

/-- The status of a stage after an attempt. -/
def Attempt.status (a : Attempt) : StageStatus :=
  if a.errors.isEmpty then .complete else .incomplete

/-- The status of a stage, given all attempts in order: that of the last one made at the stage. -/
def StageStatus.ofAttempts (as : List Attempt) (i : ℕ) : StageStatus :=
  ((as.findRev? fun a ↦ a.stage = i).map Attempt.status).getD .untouched

/-- Another attempt decides on the status of its stage, and of no other. -/
theorem StageStatus.ofAttempts_concat (as : List Attempt) (a : Attempt) (i : ℕ) :
    ofAttempts (as ++ [a]) i = if a.stage = i then a.status else ofAttempts as i := by
  rw [ofAttempts, ofAttempts, List.findRev?_eq_find?_reverse, List.findRev?_eq_find?_reverse,
    List.reverse_concat, List.find?_cons]
  by_cases h : a.stage = i <;> simp [h]

namespace Navigation

/-- Makes a move. -/
def step (n : Navigation) : Move → Transition × Navigation
  | .submit validate => n.submit validate
  | .previous => n.previous
  | .jumpTo target => n.jumpTo target

/-- The validation that a move asks for. -/
def attempt? (n : Navigation) : Move → Option Attempt
  | .submit validate => n.validatedStage?.map fun index ↦ ⟨index, validate index⟩
  | _ => none

/-- Makes moves one after the other. -/
def run (n : Navigation) : List Move → List Transition × Navigation
  | [] => ([], n)
  | m :: ms =>
    let (t, n) := n.step m
    let (ts, n) := run n ms
    (t :: ts, n)

/-- The validations that moves ask for, in order. -/
def attempts (n : Navigation) : List Move → List Attempt
  | [] => []
  | m :: ms => (n.attempt? m).toList ++ attempts (n.step m).2 ms

/-- The submission that a move is, with the errors of the current stage. -/
def submission? (n : Navigation) : Move → Option Attempt
  | .submit validate => some ⟨n.current, validate n.current⟩
  | _ => none

/-- The submissions among moves, in order. -/
def submissions (n : Navigation) : List Move → List Attempt
  | [] => []
  | m :: ms => (n.submission? m).toList ++ submissions (n.step m).2 ms

/-- The stage exists and is not untouched. -/
def Attempted (n : Navigation) (i : ℕ) : Prop :=
  ∃ status, n.status? i = some status ∧ status ≠ .untouched

/-- The current stage is one of the stages. -/
def InRange (n : Navigation) : Prop := n.current < n.statuses.length

/-- The stages before `k` were attempted and no others, and the current stage is not behind `k`. -/
def ReachesTo (n : Navigation) (k : ℕ) : Prop := n.current ≤ k ∧ ∀ i, n.Attempted i ↔ i < k

/-- All stages before the current one or an attempted one have a property. -/
def Behind (P : ℕ → Prop) (n : Navigation) : Prop :=
  ∀ j, j = n.current ∨ n.Attempted j → ∀ i < j, P i

/-- The statuses are those of the last attempts. -/
def AgreesWith (n : Navigation) (as : List Attempt) : Prop :=
  ∀ i < n.statuses.length, n.status? i = some (.ofAttempts as i)

/-- The stage was validated without errors. -/
def Passed (as : List Attempt) (i : ℕ) : Prop := ∃ x ∈ as, x.stage = i ∧ x.errors.isEmpty

/-- What is known of a navigation after some attempts. -/
structure Follows (n : Navigation) (as : List Attempt) : Prop where
  /-- The current stage is one of the stages. -/
  inRange : n.InRange
  /-- The stages before some place were attempted. -/
  reachesTo : ∃ k, n.ReachesTo k
  /-- No stage was skipped. -/
  behind : n.Behind (Passed as)
  /-- The statuses are those of the last attempts. -/
  agreesWith : n.AgreesWith as

/-! ### What a move can do -/

/-- What a move can do, with the validation that it asks for, its answer, and where it leads. -/
inductive Step (n : Navigation) : Option Attempt → Transition → Navigation → Prop where
  /-- The move is not allowed. -/
  | ignored : Step n none .ignored n
  /-- The current stage has errors. -/
  | blocked (errors : ErrorMap) (herrors : ¬ errors.isEmpty) :
    Step n (some ⟨n.current, errors⟩) (.blocked errors) (n.mark n.current .incomplete)
  /-- The current stage has no errors, and there is a next one. -/
  | advanced (errors : ErrorMap) (herrors : errors.isEmpty)
      (hlast : n.current + 1 ≠ n.statuses.length) :
    Step n (some ⟨n.current, errors⟩) (.advanced n.current (n.current + 1))
      { n.mark n.current .complete with current := n.current + 1 }
  /-- The current stage has no errors, and is the last one. -/
  | submitted (errors : ErrorMap) (herrors : errors.isEmpty)
      (hlast : n.current + 1 = n.statuses.length) :
    Step n (some ⟨n.current, errors⟩) .submitted (n.mark n.current .complete)
  /-- Another stage is made current, one before the current one or one that was attempted. -/
  | moved (target : ℕ) (htarget : target < n.current ∨ n.Attempted target) :
    Step n none (.moved n.current target) { n with current := target }

variable {n n' : Navigation} {a : Option Attempt} {as : List Attempt} {t : Transition}
variable {P Q : ℕ → Prop} {i k : ℕ}

/-- Only the current stage is ever validated. -/
theorem eq_current_of_validatedStage? (h : n.validatedStage? = some i) : n.current = i := by
  rw [validatedStage?] at h
  split at h
  · cases h
  · exact Option.some.inj h

/-- There is nothing else that a move can do. -/
theorem step_spec (n : Navigation) (m : Move) :
    n.Step (n.attempt? m) (n.step m).1 (n.step m).2 := by
  cases m with
  | submit validate =>
    show n.Step (n.validatedStage?.map fun index ↦ ⟨index, validate index⟩)
      (n.submit validate).1 (n.submit validate).2
    rw [submit]
    rcases hvalidated : n.validatedStage? with _ | index
    · exact .ignored
    obtain rfl := eq_current_of_validatedStage? hvalidated
    by_cases herrors : (validate n.current).isEmpty
    · by_cases hlast : n.current + 1 = n.statuses.length
      · simpa [herrors, isLastStage, mark, hlast] using
          Step.submitted (validate n.current) herrors hlast
      · simpa [herrors, isLastStage, mark, hlast] using
          Step.advanced (validate n.current) herrors hlast
    · simpa [herrors] using Step.blocked (validate n.current) herrors
  | previous =>
    show n.Step none n.previous.1 n.previous.2
    obtain ⟨current, statuses⟩ := n
    rcases current with _ | target
    · exact .ignored
    · exact .moved target (.inl (Nat.lt_succ_self target))
  | jumpTo target =>
    show n.Step none (n.jumpTo target).1 (n.jumpTo target).2
    rw [jumpTo]
    by_cases hjump : n.canJumpTo target
    · rw [if_pos hjump]
      rw [canJumpTo, Bool.and_eq_true, Option.any_eq_true] at hjump
      obtain ⟨-, status, hstatus, hne⟩ := hjump
      exact .moved target (.inr ⟨status, hstatus, by simpa using hne⟩)
    · rw [if_neg hjump]
      exact .ignored

/-- A submission depends on the validation of the current stage only. -/
theorem submit_congr {validate validate' : ℕ → ErrorMap}
    (h : validate n.current = validate' n.current) : n.submit validate = n.submit validate' := by
  rw [submit, submit]
  rcases hvalidated : n.validatedStage? with _ | index
  · rfl
  · obtain rfl := eq_current_of_validatedStage? hvalidated
    dsimp only
    rw [h]

/-- Only a submission asks for a validation, and only for that of the current stage. -/
theorem attempt?_eq_some {m : Move} {x : Attempt} (h : n.attempt? m = some x) :
    ∃ validate, m = .submit validate ∧ x = ⟨n.current, validate n.current⟩ := by
  cases m with
  | submit validate =>
    obtain ⟨index, hvalidated, rfl⟩ := Option.map_eq_some_iff.1 h
    obtain rfl := eq_current_of_validatedStage? hvalidated
    exact ⟨validate, rfl, rfl⟩
  | previous => cases h
  | jumpTo target => cases h

/-- If there are stages, each submission asks for the validation of the current one, and nothing
else asks for any. -/
theorem attempt?_eq_submission? (h : n.statuses ≠ []) (m : Move) :
    n.attempt? m = n.submission? m := by
  cases m with
  | submit validate =>
    have hvalidated : n.validatedStage? = some n.current :=
      if_neg fun hempty ↦ h (List.isEmpty_iff.1 hempty)
    show n.validatedStage?.map _ = _
    rw [hvalidated]
    rfl
  | previous => rfl
  | jumpTo target => rfl

/-- Without stages nothing is validated. -/
theorem statuses_ne_nil_of_attempt? {m : Move} {x : Attempt} (h : n.attempt? m = some x) :
    n.statuses ≠ [] := by
  obtain ⟨validate, rfl, -⟩ := attempt?_eq_some h
  obtain ⟨index, hvalidated, -⟩ := Option.map_eq_some_iff.1 h
  rw [validatedStage?] at hvalidated
  split at hvalidated
  · cases hvalidated
  · rename_i hne
    exact fun hnil ↦ hne (List.isEmpty_iff.2 hnil)

/-- A blocked move found errors at the current stage and marked it. -/
theorem Step.of_blocked {errors : ErrorMap} (h : n.Step a (.blocked errors) n') :
    a = some ⟨n.current, errors⟩ ∧ ¬ errors.isEmpty ∧ n' = n.mark n.current .incomplete := by
  cases h with
  | blocked errors herrors => exact ⟨rfl, herrors, rfl⟩

/-- A move that submits the form found no errors at the current stage, the last one. -/
theorem Step.of_submitted (h : n.Step a .submitted n') :
    ∃ errors : ErrorMap, a = some ⟨n.current, errors⟩ ∧ errors.isEmpty ∧
      n.current + 1 = n.statuses.length ∧ n' = n.mark n.current .complete := by
  cases h with
  | submitted errors herrors hlast => exact ⟨errors, rfl, herrors, hlast, rfl⟩

/-! ### Marking the current stage -/

@[simp]
theorem status?_mark (n : Navigation) (i j : ℕ) (status : StageStatus) :
    (n.mark i status).status? j =
      if i = j then if i < n.statuses.length then some status else none else n.status? j :=
  List.getElem?_set

@[simp]
theorem length_mark (n : Navigation) (i : ℕ) (status : StageStatus) :
    (n.mark i status).statuses.length = n.statuses.length := List.length_set

/-- Marking the current stage attempts it, and no other. -/
theorem attempted_mark (h : n.InRange) (status : StageStatus) (hstatus : status ≠ .untouched) :
    (n.mark n.current status).Attempted i ↔ i = n.current ∨ n.Attempted i := by
  rw [Attempted, status?_mark]
  by_cases hi : n.current = i
  · have hlt : n.current < n.statuses.length := h
    rw [if_pos hi, if_pos hlt]
    exact ⟨fun _ ↦ .inl hi.symm, fun _ ↦ ⟨status, rfl, hstatus⟩⟩
  · rw [if_neg hi]
    exact (or_iff_right fun heq ↦ hi heq.symm).symm

/-- Only stages that exist are attempted. -/
theorem Attempted.lt_length (h : n.Attempted i) : i < n.statuses.length := by
  obtain ⟨status, hstatus, -⟩ := h
  exact (List.getElem?_eq_some_iff.1 hstatus).1

/-! ### What each move keeps -/

/-- There are as many stages as before. -/
theorem Step.length_eq (h : n.Step a t n') : n'.statuses.length = n.statuses.length := by
  cases h with
  | ignored => rfl
  | blocked errors herrors => exact length_mark _ _ _
  | advanced errors herrors hlast => exact length_mark _ _ _
  | submitted errors herrors hlast => exact length_mark _ _ _
  | moved target htarget => rfl

/-- The current stage stays one of the stages. -/
theorem InRange.step (h : n.InRange) (hstep : n.Step a t n') : n'.InRange := by
  have hlength := hstep.length_eq
  have hlt : n.current < n.statuses.length := h
  show n'.current < n'.statuses.length
  rw [hlength]
  cases hstep with
  | ignored => exact hlt
  | blocked errors herrors => exact hlt
  | advanced errors herrors hlast =>
    show n.current + 1 < n.statuses.length
    omega
  | submitted errors herrors hlast => exact hlt
  | moved target htarget =>
    show target < n.statuses.length
    obtain htarget | htarget := htarget
    · exact htarget.trans hlt
    · exact htarget.lt_length

/-- A stage that was attempted stays so. -/
theorem Attempted.step (h : n.Attempted i) (hrange : n.InRange) (hstep : n.Step a t n') :
    n'.Attempted i := by
  cases hstep with
  | ignored => exact h
  | blocked errors herrors => exact (attempted_mark hrange .incomplete nofun).2 (.inr h)
  | advanced errors herrors hlast => exact (attempted_mark hrange .complete nofun).2 (.inr h)
  | submitted errors herrors hlast => exact (attempted_mark hrange .complete nofun).2 (.inr h)
  | moved target htarget => exact h

/-- The stages attempted are at most one more. -/
theorem ReachesTo.step (h : n.ReachesTo k) (hrange : n.InRange) (hstep : n.Step a t n') :
    ∃ k', n'.ReachesTo k' := by
  obtain ⟨hcurrent, hattempted⟩ := h
  -- an attempt at the current stage, which is `k` or before it
  have hmark (status : StageStatus) (hstatus : status ≠ .untouched) (i : ℕ) :
      (n.mark n.current status).Attempted i ↔ i < max k (n.current + 1) := by
    rw [attempted_mark hrange status hstatus, hattempted]
    omega
  cases hstep with
  | ignored => exact ⟨k, hcurrent, hattempted⟩
  | blocked errors herrors =>
    exact ⟨max k (n.current + 1), hcurrent.trans (le_max_left _ _), hmark .incomplete nofun⟩
  | advanced errors herrors hlast =>
    exact ⟨max k (n.current + 1), le_max_right _ _, hmark .complete nofun⟩
  | submitted errors herrors hlast =>
    exact ⟨max k (n.current + 1), hcurrent.trans (le_max_left _ _), hmark .complete nofun⟩
  | moved target htarget =>
    have hle : target ≤ k := by
      obtain htarget | htarget := htarget
      · exact htarget.le.trans hcurrent
      · exact ((hattempted target).1 htarget).le
    exact ⟨k, hle, hattempted⟩

/-- A stage is passed before the next one becomes current, so none is ever skipped. -/
theorem Behind.step (h : n.Behind P) (hrange : n.InRange) (hstep : n.Step a t n')
    (hPQ : ∀ i, P i → Q i) (hpassed : ∀ x ∈ a, x.errors.isEmpty → Q x.stage) : n'.Behind Q := by
  have hcurrent : ∀ i < n.current, Q i := fun i hi ↦ hPQ i (h _ (.inl rfl) i hi)
  have hattempted : ∀ j, n.Attempted j → ∀ i < j, Q i := fun j hj i hi ↦ hPQ i (h j (.inr hj) i hi)
  -- the current stage itself need not be passed to be attempted
  have hmark (status : StageStatus) (hstatus : status ≠ .untouched) :
      ∀ j, (n.mark n.current status).Attempted j → ∀ i < j, Q i := by
    intro j hj
    obtain rfl | hj := (attempted_mark hrange status hstatus).1 hj
    · exact hcurrent
    · exact hattempted j hj
  intro j hj
  cases hstep with
  | ignored =>
    obtain rfl | hj := hj
    · exact hcurrent
    · exact hattempted j hj
  | blocked errors herrors =>
    obtain rfl | hj := hj
    · exact hcurrent
    · exact hmark .incomplete nofun j hj
  | advanced errors herrors hlast =>
    obtain rfl | hj := hj
    · intro i hi
      obtain hi | rfl := Nat.lt_succ_iff_lt_or_eq.1 hi
      · exact hcurrent i hi
      · exact hpassed _ rfl herrors
    · exact hmark .complete nofun j hj
  | submitted errors herrors hlast =>
    obtain rfl | hj := hj
    · exact hcurrent
    · exact hmark .complete nofun j hj
  | moved target htarget =>
    obtain rfl | hj := hj
    · intro i hi
      obtain htarget | htarget := htarget
      · exact hcurrent i (hi.trans htarget)
      · exact hattempted _ htarget i hi
    · exact hattempted j hj

/-- When the form is submitted every stage is passed. -/
theorem Behind.submitted (h : n.Behind P) (hstep : n.Step a .submitted n') (hPQ : ∀ i, P i → Q i)
    (hpassed : ∀ x ∈ a, x.errors.isEmpty → Q x.stage) : ∀ i < n.statuses.length, Q i := by
  obtain ⟨errors, rfl, herrors, hlast, -⟩ := hstep.of_submitted
  intro i hi
  rw [← hlast] at hi
  obtain hi | rfl := Nat.lt_succ_iff_lt_or_eq.1 hi
  · exact hPQ i (h _ (.inl rfl) i hi)
  · exact hpassed _ rfl herrors

/-- An attempt at the current stage gives it the status that the attempt says. -/
theorem AgreesWith.mark (h : n.AgreesWith as) (x : Attempt) (hx : x.stage = n.current) :
    (n.mark n.current x.status).AgreesWith (as ++ [x]) := by
  intro i hi
  rw [length_mark] at hi
  by_cases heq : n.current = i
  · subst heq
    simp [StageStatus.ofAttempts_concat, hx, hi]
  · simp [StageStatus.ofAttempts_concat, hx, heq, h i hi]

/-- A status changes only with an attempt, and to what this one says. -/
theorem AgreesWith.step (h : n.AgreesWith as) (hstep : n.Step a t n') :
    n'.AgreesWith (as ++ a.toList) := by
  cases hstep with
  | ignored => rwa [Option.toList_none, List.append_nil]
  | blocked errors herrors =>
    have hmark := h.mark ⟨n.current, errors⟩ rfl
    rwa [Attempt.status, if_neg herrors] at hmark
  | advanced errors herrors hlast =>
    have hmark := h.mark ⟨n.current, errors⟩ rfl
    rwa [Attempt.status, if_pos herrors] at hmark
  | submitted errors herrors hlast =>
    have hmark := h.mark ⟨n.current, errors⟩ rfl
    rwa [Attempt.status, if_pos herrors] at hmark
  | moved target htarget => rwa [Option.toList_none, List.append_nil]

/-! ### Runs -/

@[simp]
theorem run_cons (n : Navigation) (m : Move) (ms : List Move) :
    n.run (m :: ms) = ((n.step m).1 :: ((n.step m).2.run ms).1, ((n.step m).2.run ms).2) := rfl

/-- A form with stages is validated at every submission, at the stage that is current then, and at
no other time. -/
theorem attempts_eq_submissions (h : n.statuses ≠ []) (ms : List Move) :
    n.attempts ms = n.submissions ms := by
  induction ms generalizing n with
  | nil => rfl
  | cons m ms ih =>
    have hstep : (n.step m).2.statuses ≠ [] := by
      rw [← List.length_pos_iff, (n.step_spec m).length_eq]
      exact List.length_pos_iff.2 h
    rw [attempts, submissions, attempt?_eq_submission? h, ih hstep]

/-- The last move is made after the others. -/
theorem run_concat (n : Navigation) (ms : List Move) (m : Move) :
    n.run (ms ++ [m]) =
      ((n.run ms).1 ++ [((n.run ms).2.step m).1], ((n.run ms).2.step m).2) := by
  induction ms generalizing n with
  | nil => rfl
  | cons m' ms ih => simp [ih]

/-- One more move adds the validation that it asks for, if any. -/
theorem attempts_concat (n : Navigation) (ms : List Move) (m : Move) :
    n.attempts (ms ++ [m]) = n.attempts ms ++ ((n.run ms).2.attempt? m).toList := by
  induction ms generalizing n with
  | nil => simp [attempts, run]
  | cons m' ms ih =>
    rw [List.cons_append, attempts, attempts, ih, List.append_assoc]
    rfl

/-- A stage that was attempted stays so throughout a run. -/
theorem Attempted.run (h : n.Attempted i) (hrange : n.InRange) (ms : List Move) :
    (n.run ms).2.Attempted i := by
  induction ms generalizing n with
  | nil => exact h
  | cons m ms ih =>
    have hstep := n.step_spec m
    exact ih (h.step hrange hstep) (hrange.step hstep)

/-- What was passed stays so with further submissions. -/
theorem passed_append {bs : List Attempt} (h : Passed as i) : Passed (as ++ bs) i := by
  obtain ⟨x, hx, hstage, herrors⟩ := h
  exact ⟨x, List.mem_append_left _ hx, hstage, herrors⟩

theorem passed_append_toList {x : Attempt} (hx : x ∈ a) (herrors : x.errors.isEmpty) :
    Passed (as ++ a.toList) x.stage :=
  ⟨x, List.mem_append_right _ (Option.mem_toList.2 hx), rfl, herrors⟩

/-- A move keeps what is known, with the attempt that it makes if any. -/
theorem Follows.step (h : n.Follows as) (hstep : n.Step a t n') : n'.Follows (as ++ a.toList) where
  inRange := h.inRange.step hstep
  reachesTo := by
    obtain ⟨k, hk⟩ := h.reachesTo
    exact hk.step h.inRange hstep
  behind := h.behind.step h.inRange hstep (fun _ ↦ passed_append) fun _ ↦ passed_append_toList
  agreesWith := h.agreesWith.step hstep

variable {stages : ℕ}

theorem status?_start (h : i < stages) : (start stages).status? i = some .untouched := by
  rw [status?, start, List.getElem?_replicate, if_pos h]

theorem not_attempted_start : ¬ (start stages).Attempted i := by
  rintro ⟨status, hstatus, hne⟩
  have hmem := List.mem_of_getElem? hstatus
  exact hne (List.eq_of_mem_replicate hmem)

/-- A form with stages has a current one at the start. -/
theorem inRange_start (h : 0 < stages) : (start stages).InRange := by
  show 0 < (List.replicate stages StageStatus.untouched).length
  rwa [List.length_replicate]

/-- A run keeps the number of stages. -/
@[simp]
theorem length_run (n : Navigation) (ms : List Move) :
    (n.run ms).2.statuses.length = n.statuses.length := by
  induction ms generalizing n with
  | nil => rfl
  | cons m ms ih => exact (ih _).trans (n.step_spec m).length_eq

/-- After any moves it is known of the navigation what follows from the attempts. -/
theorem follows_run_start (h : 0 < stages) (ms : List Move) :
    ((start stages).run ms).2.Follows ((start stages).attempts ms) := by
  induction ms using List.reverseRecOn with
  | nil =>
    refine ⟨inRange_start h, ⟨0, Nat.le_refl _, fun i ↦ ?_⟩, fun j hj i hi ↦ ?_, fun i hi ↦ ?_⟩
    · exact iff_of_false not_attempted_start (Nat.not_lt_zero i)
    · obtain rfl | hj := hj
      · exact absurd hi (Nat.not_lt_zero i)
      · exact absurd hj not_attempted_start
    · have hlength : (start stages).statuses.length = stages := List.length_replicate
      exact status?_start (hlength ▸ hi)
  | append_singleton ms m ih =>
    rw [run_concat, attempts_concat]
    exact ih.step (step_spec _ m)

/-- Without stages nothing is allowed. -/
theorem step_start_zero (m : Move) : (start 0).step m = (.ignored, start 0) := by
  cases m with
  | submit validate => rfl
  | previous => rfl
  | jumpTo target => simp [step, jumpTo, canJumpTo, status?, start]

/-- Without stages a run is ignored as a whole. -/
theorem run_start_zero (ms : List Move) :
    (∀ t ∈ ((start 0).run ms).1, t = .ignored) ∧ ((start 0).run ms).2 = start 0 := by
  induction ms with
  | nil => exact ⟨nofun, rfl⟩
  | cons m ms ih =>
    simpa [step_start_zero] using ih

/-- The wizard never skips a stage. Let `as` be the submissions among the moves. After any moves the
current stage is one of the stages, those attempted are the first ones up to some place that the
current one is not behind, every status is that of the last submission at its stage, and a stage
once attempted stays so. The validations asked for are those of the submissions and no others, each
one of the stage that is current then. When the form is submitted every stage was submitted without
errors, now or earlier. -/
theorem run_start_never_skips (stages : ℕ) (ms : List Move) :
    let n := ((start stages).run ms).2
    let as := (start stages).submissions ms
    (stages = 0 → (∀ t ∈ ((start stages).run ms).1, t = .ignored) ∧ n = start stages) ∧
      (0 < stages →
        (start stages).attempts ms = as ∧
        n.current < stages ∧
        (∃ k ≤ stages, n.current ≤ k ∧ ∀ i, n.Attempted i ↔ i < k) ∧
        (∀ i < stages, n.status? i = some (.ofAttempts as i)) ∧
        (∀ i, n.Attempted i → ∀ ms', (n.run ms').2.Attempted i) ∧
        (∀ m x, n.attempt? m = some x →
          ∃ validate, m = .submit validate ∧ x = ⟨n.current, validate n.current⟩) ∧
        (∀ validate validate' : ℕ → ErrorMap, validate n.current = validate' n.current →
          n.step (.submit validate) = n.step (.submit validate')) ∧
        ∀ m, (n.step m).1 = .submitted → ∀ i < stages,
          ∃ x ∈ (start stages).submissions (ms ++ [m]), x.stage = i ∧ x.errors.isEmpty) := by
  intro n as
  constructor
  · rintro rfl
    exact run_start_zero ms
  intro hstages
  have hattempts (ms : List Move) : (start stages).attempts ms = (start stages).submissions ms := by
    refine attempts_eq_submissions (List.length_pos_iff.1 ?_) ms
    rwa [start, List.length_replicate]
  have hlength : n.statuses.length = stages := (length_run _ ms).trans List.length_replicate
  have hfollows : n.Follows as := by
    show n.Follows ((start stages).submissions ms)
    rw [← hattempts]
    exact follows_run_start hstages ms
  refine ⟨hattempts ms, ?_, ?_, ?_, ?_, ?_, ?_, ?_⟩
  · exact hlength ▸ hfollows.inRange
  · obtain ⟨k, hcurrent, hattempted⟩ := hfollows.reachesTo
    refine ⟨k, ?_, hcurrent, hattempted⟩
    by_contra hk
    have hlt : stages < n.statuses.length := ((hattempted stages).2 (by omega)).lt_length
    omega
  · exact hlength ▸ hfollows.agreesWith
  · intro i hi ms'
    exact hi.run hfollows.inRange ms'
  · intro m x hx
    exact attempt?_eq_some hx
  · intro validate validate' h
    exact submit_congr h
  · -- the stages in front of the last one were passed before, and this move passes the last one
    intro m hm i hi
    have hstep : n.Step (n.attempt? m) .submitted (n.step m).2 := hm ▸ n.step_spec m
    have hpassed : ∀ i < n.statuses.length, Passed (as ++ (n.attempt? m).toList) i :=
      hfollows.behind.submitted hstep (fun _ ↦ passed_append) fun _ ↦ passed_append_toList
    rw [← hattempts, attempts_concat, hattempts]
    exact hpassed i (hlength.symm ▸ hi)

/-- A validation of two stages that finds an error in the second one. -/
def emailMissing (i : ℕ) : ErrorMap :=
  if i = 1 then (∅ : ErrorMap).insert (.root "email") "Email is required." else ∅

/-- Moves among two stages, the second of which is left after it failed and reached again. -/
def detour : List Move :=
  [.submit emailMissing, .submit emailMissing, .previous, .jumpTo 1]

/-- The second stage failed and was left by going back; it is jumped to and submitted. -/
theorem run_start_detour :
    0 < 2 ∧ (((start 2).run detour).2.step (.submit fun _ ↦ ∅)).1 = .submitted ∧
      ∀ i < 2, ∃ x ∈ (start 2).submissions (detour ++ [.submit fun _ ↦ ∅]),
        x.stage = i ∧ x.errors.isEmpty := by
  have hsubmitted : (((start 2).run detour).2.step (.submit fun _ ↦ ∅)).1 = .submitted := by
    rfl
  obtain ⟨-, -, -, -, -, -, -, hpassed⟩ := (run_start_never_skips 2 detour).2 (by decide)
  exact ⟨by decide, hsubmitted, hpassed _ hsubmitted⟩

end Navigation

end FormWizard
