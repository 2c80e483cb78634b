import FormWizard.Proofs.Form.Blanking
import FormWizard.Proofs.Session.Reach
import FormWizard.Proofs.Validation.Agreement

/-!
# A broken formula is isolated

Two sessions, of forms that differ at most in the formulas of one computed path (`Form.SameBut`),
are asked the same. One of the formulas may not compile or may fail, or both may. Whatever the
sessions are asked, their values then agree outside the paths that this one affects in either form,
if no field at the root has the name of a group (`Session.agreeOutside_run`).

So the difference stays where the formula is read: the sessions accept the same edits, all other
values are the same, and so are the errors of all other paths whose rules read none of those
affected (`Session.isolation_run`). Requests to go somewhere may well be answered differently, since
they depend on errors at the affected paths.
-/

namespace FormWizard

/-- The paths that a path affects in the one form or the other. -/
def Form.AffectedIn (fs : Registry) (form form' : Form) (f : FieldPath) : FieldPath → Prop :=
  Calculation.Affected form ((form.compile fs).calculations ++ (form'.compile fs).calculations) f

variable {form form' : Form} {f p q : FieldPath} {fs : Registry}

namespace Form.SameBut

/-- Affected are only paths of the form, since both compute the same ones. -/
theorem hasPath_of_affected (h : form.SameBut f form')
    (hf : (form.compile fs).isComputed f = true) (hq : form.AffectedIn fs form' f q) :
    form.HasPath q := by
  have hcomputed (p : FieldPath) (hp : (form.compile fs).isComputed p = true) :
      form.HasPath p := by
    obtain ⟨d, hd, rfl⟩ := CompiledForm.isComputed_iff.1 hp
    exact hasPath_of_mem_calculations hd
  refine hq.hasPath (fun d hd ↦ hcomputed _ ?_) (hcomputed f hf)
  obtain hd | hd := List.mem_append.1 hd
  · exact CompiledForm.isComputed_iff.2 ⟨d, hd, rfl⟩
  · rw [h.isComputed_eq fs]
    exact CompiledForm.isComputed_iff.2 ⟨d, hd, rfl⟩

/-- What is derived from values that agree agrees. -/
theorem derive_agreeOutside (h : form.SameBut f form') (hnames : form.NamesApart)
    (hf : (form.compile fs).isComputed f = true) {t u : ValueTree}
    (htu : t.AgreeOutside (form.AffectedIn fs form' f) u) :
    ((form.compile fs).derive t).AgreeOutside (form.AffectedIn fs form' f)
      ((form'.compile fs).derive u) :=
  Calculation.applyAll_agreeOutside hnames (fun _ hq ↦ h.hasPath_of_affected hf hq)
    (h.matchOutside fs) htu

end Form.SameBut

/-! ### Two sessions side by side -/

namespace Session

variable {c c' : CompiledForm} {s s' : Session}

/-- The answer to an edit depends on the form only, and on what it refuses. -/
theorem perform_fst_eq_of_isEdit (hrefusal : ∀ p, c.refusal? p = c'.refusal? p)
    (shared shared' : SharedState) {r : Request} (hr : r.isEdit = true) :
    (s.perform c shared r).1 = (s'.perform c' shared' r).1 := by
  have hchangeAt (p : FieldPath) (v : Value) : (s.changeAt c p v).1 = (s'.changeAt c' p v).1 := by
    rw [Bool.eq_iff_iff, changeAt_fst_eq_true_iff, changeAt_fst_eq_true_iff, hrefusal]
  cases r with
  | change path v =>
    show Answer.edited (s.change c path v).1 = .edited (s'.change c' path v).1
    rcases hpath : FieldPath.ofText path with e | p
    · rw [change_of_error hpath, change_of_error hpath]
    · rw [change_of_ok hpath, change_of_ok hpath, hchangeAt]
  | changeAt p v => exact congrArg (fun b ↦ Answer.edited (.ok b)) (hchangeAt p v)
  | _ => cases hr

/-- So sessions of forms that refuse the same give the same answers to any edits. -/
theorem run_fst_eq_of_isEdit (hrefusal : ∀ p, c.refusal? p = c'.refusal? p)
    (shared shared' : SharedState) {es : List Request} (hes : ∀ r ∈ es, r.isEdit = true) :
    (s.run c shared es).1 = (s'.run c' shared' es).1 := by
  induction es generalizing s s' shared shared' with
  | nil => rfl
  | cons r es ih =>
    obtain ⟨hr, hes⟩ := List.forall_mem_cons.1 hes
    simpa using ⟨perform_fst_eq_of_isEdit hrefusal shared shared' hr, ih _ _ hes⟩

section

variable (h : form.SameBut f form') (hnames : form.NamesApart)
  (hf : (form.compile fs).isComputed f = true)
include h hnames hf

/-- Both sessions start with values that agree outside what the field affects. -/
theorem agreeOutside_start : (start (form.compile fs)).values.AgreeOutside
    (form.AffectedIn fs form' f) (start (form'.compile fs)).values := by
  refine h.derive_agreeOutside hnames hf ?_
  rw [show (form.compile fs).form.initialValues = (form'.compile fs).form.initialValues from
    h.initialValues_eq]
  exact .refl _ _

/-- A request keeps the agreement: both sessions make the same edit, or none. -/
theorem agreeOutside_perform (hs : s.values.AgreeOutside (form.AffectedIn fs form' f) s'.values)
    (shared shared' : SharedState) (r : Request) :
    (s.perform (form.compile fs) shared r).2.1.values.AgreeOutside (form.AffectedIn fs form' f)
      (s'.perform (form'.compile fs) shared' r).2.1.values := by
  rcases hedit : r.isEdit
  · rw [values_perform_of_isEdit_eq_false shared hedit,
      values_perform_of_isEdit_eq_false shared' hedit]
    exact hs
  have hanswer : (s.perform (form.compile fs) shared r).1 =
      (s'.perform (form'.compile fs) shared' r).1 :=
    perform_fst_eq_of_isEdit (h.refusal?_eq fs) shared shared' hedit
  obtain ⟨hnone, hsame⟩ | ⟨p, v, hsome, -, hderived⟩ :=
      values_perform (form.compile fs) s shared r <;>
    obtain ⟨hnone', hsame'⟩ | ⟨p', v', hsome', -, hderived'⟩ :=
      values_perform (form'.compile fs) s' shared' r
  · rw [hsame, hsame']
    exact hs
  · rw [hanswer, hsome'] at hnone
    cases hnone
  · rw [hanswer, hnone'] at hsome
    cases hsome
  · rw [hanswer, hsome'] at hsome
    cases hsome
    rw [hderived, hderived']
    exact h.derive_agreeOutside hnames hf (hs.write fun _ ↦ rfl)

/-- Values that agree outside what the field affects do so after any requests. -/
theorem agreeOutside_run (hs : s.values.AgreeOutside (form.AffectedIn fs form' f) s'.values)
    (shared shared' : SharedState) (rs : List Request) :
    (s.run (form.compile fs) shared rs).2.1.values.AgreeOutside (form.AffectedIn fs form' f)
      (s'.run (form'.compile fs) shared' rs).2.1.values := by
  induction rs generalizing s s' shared shared' with
  | nil => exact hs
  | cons r rs ih => exact ih (agreeOutside_perform h hnames hf hs shared shared' r) _ _

end

/-- A broken formula is isolated, if no field at the root has the name of a group. At any time the
sessions of two forms that differ at most in the formulas of one computed path answer edits in the
same way, have the same values outside the paths that this one affects in the one form or the other,
and have the same errors of every stage at those whose rules read none of the paths affected. -/
theorem isolation_run (fs : Registry) (form form' : Form) (hnames : form.NamesApart) (f : FieldPath)
    (hf : (form.compile fs).isComputed f = true) (h : form.SameBut f form')
    (shared shared' : SharedState) (rs : List Request) :
    let c := form.compile fs
    let c' := form'.compile fs
    let s := ((start c).run c shared rs).2.1
    let s' := ((start c').run c' shared' rs).2.1
    (∀ es : List Request, (∀ r ∈ es, r.isEdit = true) →
        (s.run c shared es).1 = (s'.run c' shared' es).1) ∧
      (∀ q, ¬ form.AffectedIn fs form' f q → s.value? q = s'.value? q) ∧
      ∀ i q, ¬ form.AffectedIn fs form' f q →
        (∀ r ∈ c.rulesAt q, ∀ q', r.ReadsPath form q q' → ¬ form.AffectedIn fs form' f q') →
        (c.validate i s.values)[q]? = (c'.validate i s'.values)[q]? := by
  intro c c' s s'
  have hagree : s.values.AgreeOutside (form.AffectedIn fs form' f) s'.values :=
    agreeOutside_run h hnames hf (agreeOutside_start h hnames hf) shared shared' rs
  refine ⟨fun _ hes ↦ run_fst_eq_of_isEdit (h.refusal?_eq fs) shared shared' hes,
    fun q hq ↦ hagree.get?_eq q hq, fun i q hq hrules ↦ ?_⟩
  rw [← show c.validate = c'.validate from h.validate_eq fs]
  exact CompiledForm.getElem?_validate_of_agreeOutside hagree hnames
    (fun _ hD ↦ h.hasPath_of_affected hf hD) hq hrules

/-- A form for a crate with a formula for its total, which a notice reads too early. The note in the
group has a rule that reads the weight beside it. -/
def crateFormWith (total : String) : Form where
  name := "crate"
  description := none
  showStageNames := true
  stages := [⟨"crate", none,
    [.field (.plain "notice" (some "'Ready: ' + values.total")),
      .group ⟨"parcel", none, false, false,
        [.plain "weight" none,
          { Field.plain "note" none with
            validations := [⟨.function "formValue.weight", "Weigh it first."⟩] }]⟩,
      .field (.plain "total" (some total)),
      .field (.plain "label" (some "'Note: ' + values.parcel.note"))]⟩]

/-- The form for a crate. -/
def crateForm : Form := crateFormWith "values.parcel.weight + ' kg'"

/-- The form for a crate with a total that does not compile. -/
def brokenCrateForm : Form := crateFormWith "values.parcel.weight +"

/-- Requests that enter a note and try to leave the stage. -/
def noted : List Request := [.change "parcel.note" (.text "Fragile"), .next]

/-- The total affects the notice, but neither the label nor the rule for the note. -/
theorem isolation_run_crateForm :
    crateForm.NamesApart ∧ (crateForm.compile .empty).isComputed (.root "total") = true ∧
      crateForm.SameBut (.root "total") brokenCrateForm ∧
      ∃ s s', s = ((start (crateForm.compile .empty)).run (crateForm.compile .empty) .empty
          noted).2.1 ∧
        s' = ((start (brokenCrateForm.compile .empty)).run (brokenCrateForm.compile .empty) .empty
          noted).2.1 ∧
        s.value? (.root "notice") = some (.text "Ready:  kg") ∧
        s'.value? (.root "notice") = some (.text "Ready: ") ∧
        s.value? (.root "label") = some (.text "Note: Fragile") ∧
        s'.value? (.root "label") = some (.text "Note: Fragile") ∧
        ((crateForm.compile .empty).validate 0 s.values)[FieldPath.grouped "parcel" "note"]? =
          some "Weigh it first." ∧
        ((brokenCrateForm.compile .empty).validate 0 s'.values)[
          FieldPath.grouped "parcel" "note"]? = some "Weigh it first." := by
  have hnames : crateForm.NamesApart := by decide +kernel
  have hcomputed : (crateForm.compile .empty).isComputed (.root "total") = true := by
    decide +kernel
  have haffected {q : FieldPath} (hq : crateForm.AffectedIn .empty brokenCrateForm
      (.root "total") q) : q ∈ [FieldPath.root "total", .root "notice"] :=
    hq.mem_of_closed List.mem_cons_self (by decide +kernel)
  have hrules : ∀ r ∈ (crateForm.compile .empty).rulesAt (.grouped "parcel" "note"),
      ∀ q ∈ [FieldPath.root "total", .root "notice"],
        ¬ r.ReadsPath crateForm (.grouped "parcel" "note") q := by
    decide +kernel
  obtain ⟨-, hvalues, herrors⟩ :=
    isolation_run .empty crateForm brokenCrateForm hnames _ hcomputed rfl .empty .empty noted
  have hlabel := hvalues (.root "label") fun hq ↦ absurd (haffected hq) (by decide)
  have hnote := herrors 0 (.grouped "parcel" "note")
    (fun hq ↦ absurd (haffected hq) (by decide))
    fun r hr q hread hq ↦ hrules r hr q (haffected hq) hread
  have hlabel' : ((start (crateForm.compile .empty)).run (crateForm.compile .empty) .empty
      noted).2.1.value? (.root "label") = some (.text "Note: Fragile") := by
    decide +kernel
  have hnote' : ((crateForm.compile .empty).validate 0 ((start (crateForm.compile .empty)).run
      (crateForm.compile .empty) .empty noted).2.1.values)[FieldPath.grouped "parcel" "note"]? =
        some "Weigh it first." := by
    decide +kernel
  exact ⟨hnames, hcomputed, rfl, _, _, rfl, rfl, by decide +kernel, by decide +kernel, hlabel',
    hlabel.symm.trans hlabel', hnote', hnote.symm.trans hnote'⟩

end Session

end FormWizard
