import FormWizard.Proofs.General
import FormWizard.Proofs.Session.Frame
import FormWizard.Proofs.Validation.Failures
import FormWizard.View.Basic

/-!
# What a view shows

A view is built from the parts of a stage, while entries and errors come from its fields and groups
with all blocks taken away. `Node.fields_view` says that the two walks meet: the fields of a view,
read through groups and blocks, are the entries of the stage in order. As errors stand at paths of
entries only (`CompiledForm.exists_mem_failures`), none is without a field to be shown with.

`Session.view_run` says of any view of a session that it shows the session as it is.
-/

namespace FormWizard

/-! ### The fields of a view -/

mutual

/-- The fields shown in a part, those in groups and blocks too, in order. -/
def NodeView.fields : NodeView → List FieldView
  | .field f => [f]
  | .group g => g.fields
  | .block _ _ nodes => NodeView.fieldsOfAll nodes

/-- The fields shown in a list of parts. -/
def NodeView.fieldsOfAll : List NodeView → List FieldView
  | [] => []
  | n :: ns => n.fields ++ NodeView.fieldsOfAll ns

end

/-- The fields shown. -/
def View.fields (view : View) : List FieldView :=
  (view.stage.map fun stage ↦ NodeView.fieldsOfAll stage.nodes).getD []

/-- The field of the entry as it is shown with the given values and errors. -/
def Entry.view (values : ValueTree) (errors : ErrorMap) (e : Entry) : FieldView :=
  e.field.view values errors e.path.group

namespace Node

variable (values : ValueTree) (errors : ErrorMap) (index : ℕ)

mutual

/-- The fields shown in a part are its entries. -/
theorem fields_view : ∀ n : Node, (n.view values errors).fields =
    (n.flatten.flatMap (FlatNode.entries index)).map (Entry.view values errors)
  | .field f => rfl
  | .group g => by
    rw [view, NodeView.fields, flatten_group, List.flatMap_singleton, FlatNode.entries,
      List.map_map]
    rfl
  | .block name label nodes => by
    rw [view, NodeView.fields, flatten_block]
    exact fieldsOfAll_viewAll nodes

theorem fieldsOfAll_viewAll : ∀ ns : List Node, NodeView.fieldsOfAll (viewAll values errors ns) =
    ((flattenAll ns).flatMap (FlatNode.entries index)).map (Entry.view values errors)
  | [] => rfl
  | n :: ns => by
    simp [viewAll, NodeView.fieldsOfAll, fields_view n, fieldsOfAll_viewAll ns]

end

end Node

namespace Session

/-- The fields shown are the entries of the current stage. -/
theorem fields_view (c : CompiledForm) (s : Session) : (s.view c).fields =
    (c.stageEntries s.current).map (Entry.view s.values s.visibleErrors) := by
  rw [View.fields, view, CompiledForm.stageEntries, Option.map_map]
  rcases c.form.stages[s.current]? with _ | stage
  · rfl
  · exact Node.fieldsOfAll_viewAll s.values s.visibleErrors s.current stage.nodes

end Session

/-! ### The entries of a stage -/

namespace Form

variable {form : Form}

/-- The entries of a stage are those of the form that belong to it. -/
theorem filter_entries (fs : Registry) (form : Form) (index : ℕ) :
    form.entries.filter (·.stage = index) = (form.compile fs).stageEntries index := by
  have hstage (s : Stage) (i : ℕ) :
      (s.flatten.flatMap (·.entries i)).filter (·.stage = index) =
        if i = index then s.flatten.flatMap (·.entries index) else [] := by
    have hentries : ∀ e ∈ s.flatten.flatMap (·.entries i), e.stage = i := by
      intro e he
      obtain ⟨n, -, he⟩ := List.mem_flatMap.1 he
      exact (FlatNode.of_mem_entries he).1
    split_ifs with hi
    · subst hi
      exact List.filter_eq_self.2 fun e he ↦ decide_eq_true (hentries e he)
    · exact List.filter_eq_nil_iff.2 fun e he ↦ by simpa [hentries e he] using hi
  have hpick := List.flatMap_zipIdx_ite form.stages
    (fun s ↦ s.flatten.flatMap (·.entries index)) 0 index
  simp only [entries, List.filter_flatMap, hstage]
  rw [Nat.zero_add] at hpick
  rw [CompiledForm.stageEntries_eq]
  exact hpick

/-- The path of an entry is made of its group and the name of its field. -/
theorem path_eq_of_mem_entries {e : Entry} (he : e ∈ form.entries) :
    (⟨e.path.group, e.field.name⟩ : FieldPath) = e.path := by
  obtain ⟨n, -, he⟩ := mem_entries he
  rw [← (FlatNode.of_mem_entries he).2]

/-- The path of a computed field has a calculation. -/
theorem isComputed_of_mem_entries (fs : Registry) {e : Entry} (he : e ∈ form.entries)
    (h : e.field.isComputed) : (form.compile fs).isComputed e.path := by
  obtain ⟨source, hsource⟩ := Option.isSome_iff_exists.1 h
  have hcalculation : e.calculation? fs =
      some ⟨e.path, .compile fs Scope.computedRoots source⟩ := by
    rw [Entry.calculation?, hsource]
    rfl
  exact CompiledForm.isComputed_iff.2 ⟨_, List.mem_filterMap.2 ⟨e, he, hcalculation⟩, rfl⟩

end Form

/-! ### Progress -/

/-- How progress mirrors a status. -/
def StageStatus.mirrored : StageStatus → ProgressState
  | .untouched => .untouched
  | .incomplete => .incomplete
  | .complete => .complete

/-- The form would be submitted if and only if the current stage is the last one and has no
errors. -/
theorem Navigation.submit_eq_submitted_iff {n : Navigation} {validate : ℕ → ErrorMap} :
    (n.submit validate).1 = .submitted ↔ n.isLastStage ∧ validate n.current = ∅ := by
  rw [isLastStage, beq_iff_eq, ← Std.ExtTreeMap.isEmpty_iff]
  constructor
  · intro h
    have hstep := n.step_spec (.submit validate)
    rw [show n.step (.submit validate) = n.submit validate from rfl, h] at hstep
    obtain ⟨errors, hattempt, herrors, hlast, -⟩ := hstep.of_submitted
    obtain ⟨validate', hmove, hfound⟩ := attempt?_eq_some hattempt
    cases hmove
    cases hfound
    exact ⟨hlast, herrors⟩
  · rintro ⟨hlast, herrors⟩
    have hne : ¬ n.statuses.isEmpty := by
      intro hempty
      rw [List.isEmpty_iff.1 hempty] at hlast
      cases hlast
    rw [submit, validatedStage?, if_neg hne]
    simp [herrors, isLastStage, mark, hlast]

/-! ### Showing a session -/

/-- The control shows the entry as it is in the session. -/
structure Entry.ShownAs (s : Session) (e : Entry) (f : FieldView) : Prop where
  path_eq : f.path = e.path
  value_eq : f.value = (s.value? e.path).getD .empty
  options_eq : f.options = e.field.offeredOptions e.path.group s.values
  disabled_eq : f.disabled = e.field.isDisabled e.path.group s.values
  /-- A computed field cannot be filled in, now or ever. -/
  of_isComputed : e.field.isComputed → f.disabled ∧ f.readOnly

/-- Progress shows a stage as it is in the session. -/
structure ProgressStep.Shows (c : CompiledForm) (s : Session) (index : ℕ) (step : ProgressStep) :
    Prop where
  index_eq : step.index = index
  /-- The current stage is the only one that is shown as current. -/
  current_iff : step.state = .current ↔ index = s.current
  /-- Other stages are shown with their status. -/
  mirrors : index ≠ s.current →
    (s.navigation.status? index).map StageStatus.mirrored = some step.state
  /-- Clickable are the stages that can be jumped to. -/
  clickable_iff : step.clickable ↔ ∃ start target, (s.jumpTo c index).1 = .moved start target

namespace Session

variable {c : CompiledForm} {s : Session} {p : FieldPath} {message : String}

theorem shownAs_view {form : Form} (s : Session) {e : Entry} (he : e ∈ form.entries) :
    e.ShownAs s (e.view s.values s.visibleErrors) := by
  have hpath := Form.path_eq_of_mem_entries he
  refine ⟨hpath, ?_, rfl, rfl, fun h ↦ ⟨?_, ?_⟩⟩
  · show (s.values.get? ⟨e.path.group, e.field.name⟩).getD .empty = _
    rw [hpath]
    rfl
  · show e.field.isDisabled e.path.group s.values = true
    rw [Field.isDisabled, h]
    rfl
  · show (e.field.isReadOnly || e.field.isComputed) = true
    rw [h, Bool.or_true]

/-- An error that a session shows is found by validating the current stage. -/
theorem validate_of_visibleErrors_run {shared : SharedState} {rs : List Request}
    (hs : s = ((start c).run c shared rs).2.1) (h : s.visibleErrors[p]? = some message) :
    (c.validate s.current s.values)[p]? = some message := by
  have hattempted : s.navigation.Attempted s.current := by
    by_contra hnot
    rw [visibleErrors_of_not_attempted hnot, Std.ExtTreeMap.getElem?_empty] at h
    cases h
  obtain hupToDate | ⟨-, hsame⟩ := run_upToDate_or_eq c (start c) shared rs
  · rw [← hs] at hupToDate
    rwa [visibleErrors_of_attempted hattempted, hupToDate] at h
  · -- in a new session nothing was attempted
    rw [hs, hsame] at hattempted
    exact absurd hattempted Navigation.not_attempted_start

/-- Every error shown stands with a field, and every field shows the error at its path. -/
theorem exists_mem_fields_iff {shared : SharedState} {rs : List Request} {form : Form}
    {fs : Registry} (hc : c = form.compile fs) (hs : s = ((start c).run c shared rs).2.1) :
    (∃ f ∈ (s.view c).fields, f.path = p ∧ f.error = some message) ↔
      s.visibleErrors[p]? = some message := by
  rw [fields_view]
  constructor
  · rintro ⟨f, hf, rfl, herror⟩
    obtain ⟨e, -, rfl⟩ := List.mem_map.1 hf
    exact herror
  · intro h
    obtain ⟨e, he, rfl, -⟩ :=
      CompiledForm.exists_mem_failures (validate_of_visibleErrors_run hs h)
    have hpath : (⟨e.path.group, e.field.name⟩ : FieldPath) = e.path := by
      rw [hc, ← Form.filter_entries] at he
      exact Form.path_eq_of_mem_entries (List.mem_of_mem_filter he)
    refine ⟨_, List.mem_map_of_mem he, hpath, ?_⟩
    show s.visibleErrors[(⟨e.path.group, e.field.name⟩ : FieldPath)]? = some message
    rw [hpath, h]

/-- Each step of the progress shows its stage. -/
theorem shows_progress (hlength : s.navigation.statuses.length = c.form.stages.length) {i : ℕ}
    {step : ProgressStep} (h : (s.view c).progress[i]? = some step) : step.Shows c s i := by
  rw [view, List.getElem?_map, List.getElem?_zipIdx, Nat.zero_add] at h
  obtain ⟨⟨stage, j⟩, hstage, rfl⟩ := Option.map_eq_some_iff.1 h
  obtain ⟨stage', hstage', heq⟩ := Option.map_eq_some_iff.1 hstage
  cases heq
  obtain ⟨status, hstatus⟩ : ∃ status, s.navigation.status? i = some status := by
    have hlt := (List.getElem?_eq_some_iff.1 hstage').1
    rw [← hlength] at hlt
    exact ⟨_, List.getElem?_eq_getElem hlt⟩
  have hstate (hi : i ≠ s.current) : s.navigation.progressState i = status.mirrored := by
    rw [Navigation.progressState, if_neg (show i ≠ s.navigation.current from hi), hstatus]
    cases status <;> rfl
  refine ⟨rfl, ?_, fun hi ↦ ?_, ?_⟩
  · show s.navigation.progressState i = .current ↔ i = s.current
    refine ⟨fun hcurrent ↦ ?_, fun hi ↦ if_pos hi⟩
    by_contra hi
    rw [hstate hi] at hcurrent
    cases status <;> cases hcurrent
  · rw [hstatus]
    exact congrArg some (hstate hi).symm
  · show s.navigation.canJumpTo i ↔
      ∃ start target, (s.navigation.jumpTo i).1 = .moved start target
    rw [Navigation.jumpTo]
    split_ifs with hjump
    · exact iff_of_true hjump ⟨_, _, rfl⟩
    · refine iff_of_false hjump ?_
      rintro ⟨start, target, h⟩
      cases h

/-- A view shows the session as it is. The fields shown are the entries of the current stage, in
order and with their values, options and whether they can be filled in; the errors shown with them
are the errors of the session, none more and none less; a computed field cannot be filled in, and
entering a value for it is refused. Progress shows each stage with its status, the current one as
such, and as clickable those that can be jumped to. The stage is shown as the last one if and only
if submitting it without errors submits the form. -/
theorem view_run (fs : Registry) (form : Form) (shared : SharedState) (rs : List Request) :
    let c := form.compile fs
    let s := ((start c).run c shared rs).2.1
    let view := s.view c
    List.Forall₂ (Entry.ShownAs s) (form.entries.filter (·.stage = s.current)) view.fields ∧
      (∀ p message, (∃ f ∈ view.fields, f.path = p ∧ f.error = some message) ↔
        s.visibleErrors[p]? = some message) ∧
      (∀ e ∈ form.entries, e.field.isComputed → ∀ v, s.changeAt c e.path v = (false, s)) ∧
      (view.progress.length = form.stages.length ∧
        ∀ i (step : ProgressStep), view.progress[i]? = some step → step.Shows c s i) ∧
      (form.stages ≠ [] → s.current < form.stages.length) ∧
      (view.isLastStage ↔ (s.navigation.submit fun _ ↦ ∅).1 = .submitted) ∧
      ((s.next c).1 = .submitted ↔ view.isLastStage ∧ c.validate s.current s.values = ∅) := by
  intro c s view
  have hlength : s.navigation.statuses.length = form.stages.length :=
    length_statuses_run_start c shared rs
  refine ⟨?_, fun p message ↦ exists_mem_fields_iff rfl rfl, fun e he hcomputed v ↦ ?_,
    ⟨?_, fun i step hstep ↦ shows_progress hlength hstep⟩, fun hstages ↦ ?_, ?_, ?_⟩
  · show List.Forall₂ _ _ (s.view c).fields
    rw [fields_view, ← Form.filter_entries, List.forall₂_map_right_iff, List.forall₂_same]
    exact fun e he ↦ shownAs_view s (List.mem_of_mem_filter he)
  · have hrefusal : c.refusal? e.path ≠ none := by
      rw [Ne, CompiledForm.refusal?_eq_none_iff]
      rintro ⟨-, hnone⟩
      obtain ⟨d, hd, hpath⟩ :=
        CompiledForm.isComputed_iff.1 (Form.isComputed_of_mem_entries fs he hcomputed)
      exact hnone d hd hpath
    obtain ⟨refusal, hrefusal⟩ := Option.ne_none_iff_exists'.1 hrefusal
    exact changeAt_of_refusal hrefusal
  · show (form.stages.zipIdx.map _).length = _
    rw [List.length_map, List.length_zipIdx]
  · exact hlength ▸ inRange_run_start hstages shared rs
  · exact (Navigation.submit_eq_submitted_iff.trans (and_iff_left rfl)).symm
  · rw [(navigation_next c s).1]
    exact Navigation.submit_eq_submitted_iff

/-- A form with a group in a block, a field computed from the group, and a second stage. -/
def orderForm : Form where
  name := "order"
  description := none
  showStageNames := true
  stages := [⟨"item", none, [.block "details" none
      [.group ⟨"item", none, false, false,
          [{ Field.plain "name" none with required := true }, .plain "note" none]⟩],
      .field (.plain "title" (some "'Order of ' + values.item.name"))]⟩,
    ⟨"address", none, [.field (.plain "street" none)]⟩]

/-- After a submission that was blocked the missing name is shown in its group, the title cannot be
entered, and the second stage cannot be jumped to. -/
theorem view_run_orderForm :
    ∃ s, s = ((start (orderForm.compile .empty)).run (orderForm.compile .empty) .empty
        [.next]).2.1 ∧
      (s.view (orderForm.compile .empty)).fields.map FieldView.path =
        [.grouped "item" "name", .grouped "item" "note", .root "title"] ∧
      (∃ f ∈ (s.view (orderForm.compile .empty)).fields, f.path = .grouped "item" "name" ∧
        f.error = some "Name is required.") ∧
      s.changeAt (orderForm.compile .empty) (.root "title") (.text "Mine") = (false, s) ∧
      (s.view (orderForm.compile .empty)).isLastStage = false := by
  obtain ⟨hfields, herrors, hcomputed, -⟩ := view_run .empty orderForm .empty [.next]
  refine ⟨_, rfl, ?_, (herrors _ _).2 ?_, ?_, ?_⟩
  · decide +kernel
  · decide +kernel
  · have hmem : (⟨0, .root "title",
        .plain "title" (some "'Order of ' + values.item.name")⟩ : Entry) ∈ orderForm.entries :=
      .tail _ (.tail _ (.head _))
    exact hcomputed _ hmem rfl _
  · decide +kernel

end Session

end FormWizard
