import FormWizard.Proofs.Derivation.Agreement
import FormWizard.Proofs.Session.Frame
import FormWizard.Proofs.Session.Shape

/-!
# How far an edit reaches

An accepted edit writes one path and derives the computed fields anew. If no field at the root has
the name of a group, it reaches no further than the paths that depend on the one edited
(`Calculation.Affected`): whatever is entered, all others end with the same values
(`Session.edit_reaches_affected_run`).

Whatever is not computed keeps its value altogether. Of paths of the form this is a law of writing;
elsewhere it rests on there being nothing at a path that uses a name of the form in the other way
(`ValueTree.RespectsNames`), for which a write might otherwise make no room.
-/

namespace FormWizard

/-! ### Names are used as in the form -/

namespace ValueTree

/-- Nothing stands at a path that uses a name of the form in the other way. -/
def RespectsNames (t : ValueTree) (form : Form) : Prop :=
  ∀ p q, form.HasPath p → ¬ p.Compatible q → t.get? q = none

namespace RespectsNames

variable {form : Form} {t : ValueTree} {p q : FieldPath}

/-- Writes at paths of the form respect its names. -/
theorem write (h : t.RespectsNames form) (hnames : form.NamesApart) (hp : form.HasPath p)
    (v : Value) : (t.write p v).RespectsNames form := by
  intro r q hr hrq
  by_cases hpq : p.Compatible q
  · have hne : p ≠ q := by
      rintro rfl
      exact hrq (hr.compatible hp hnames)
    rw [get?_write_of_ne hpq hne, h r q hr hrq]
  · exact get?_write_of_not_compatible hpq t v

/-- Writes at other paths of the form leave the value at a path alone, whether it is a path of the
form or not. -/
theorem get?_writeAll {ws : List (FieldPath × Value)} (h : t.RespectsNames form)
    (hnames : form.NamesApart) (hws : ∀ w ∈ ws, form.HasPath w.1 ∧ w.1 ≠ q) :
    (t.writeAll ws).get? q = t.get? q := by
  induction ws generalizing t with
  | nil => rfl
  | cons w ws ih =>
    obtain ⟨⟨hw, hne⟩, hws⟩ := List.forall_mem_cons.1 hws
    rw [writeAll_cons, ih (h.write hnames hw w.2) hws]
    by_cases hwq : w.1.Compatible q
    · exact get?_write_of_ne hwq hne t w.2
    · rw [get?_write_of_not_compatible hwq, h w.1 q hw hwq]

end RespectsNames

end ValueTree

/-- The values at the start respect the names of the form. -/
theorem Form.respectsNames_initialValues {form : Form} (hnames : form.NamesApart) :
    form.initialValues.RespectsNames form := by
  intro p q hp hpq
  obtain ⟨htop, hgroup⟩ := Classical.not_imp.1 hpq
  obtain ⟨before, n, after, hsplit, hname, hafter⟩ := exists_last_node hp.exists_node
  have hn : n ∈ form.nodes := hsplit ▸ List.mem_append_right before List.mem_cons_self
  have hslot := slot?_initialValues hsplit hafter
  rw [hname, htop] at hslot
  obtain ⟨f, hf, rfl⟩ | ⟨g, f, hg, -, rfl⟩ := hp.cases <;> obtain ⟨_ | g', a⟩ := q
  · exact absurd rfl hgroup
  · -- a field at the root has the name, and so the slot holds its value
    show form.initialValues.get? (.grouped g' a) = none
    cases n with
    | field f' =>
      rw [ValueTree.get?_grouped, ValueTree.group?, show form.initialValues.slot? g' = _ from hslot]
      rfl
    | group g => exact absurd hname.symm (hnames f g hf hn)
  · show form.initialValues.get? (.root a) = none
    cases n with
    | field f' => exact absurd hname (hnames f' g hn hg)
    | group g' =>
      rw [ValueTree.get?_root, show form.initialValues.slot? a = _ from hslot]
      rfl
  · exact absurd (congrArg some htop) hgroup

/-- Whatever is written at a path, what is derived differs at most where the path affects it. -/
theorem Form.derive_write_agreeOutside {form : Form} (hnames : form.NamesApart) (fs : Registry)
    {p : FieldPath} (hp : form.HasPath p) (t : ValueTree) (v w : Value) :
    ((form.compile fs).derive (t.write p v)).AgreeOutside
      (Calculation.Affected form (form.compile fs).calculations p)
      ((form.compile fs).derive (t.write p w)) := by
  have hpaths (q : FieldPath)
      (hq : Calculation.Affected form (form.compile fs).calculations p q) : form.HasPath q :=
    hq.hasPath (fun _ hd ↦ hasPath_of_mem_calculations hd) hp
  have hwrites : (t.write p v).AgreeOutside
      (Calculation.Affected form (form.compile fs).calculations p) (t.write p w) :=
    (ValueTree.AgreeOutside.refl _ t).write fun hnot ↦ absurd .self hnot
  exact Calculation.applyAll_agreeOutside hnames hpaths
    (List.forall₂_same.2 fun _ hd ↦ Calculation.matchOutside_affected hd) hwrites

/-! ### Edits -/

namespace Session

variable {fs : Registry} {form : Form} {s : Session} {p q : FieldPath} {v w : Value}

/-- An accepted edit leaves every other value alone that is not computed. -/
theorem value?_changeAt_of_ne (hnames : form.NamesApart) (hs : s.values.RespectsNames form)
    (h : (form.compile fs).refusal? p = none) (hqp : q ≠ p)
    (hq : (form.compile fs).isComputed q = false) :
    (s.changeAt (form.compile fs) p v).2.value? q = s.value? q := by
  obtain ⟨ws, hws, heq⟩ := Form.exists_derive_eq_writeAll fs form (s.values.write p v)
  -- the edit is the first of the writes, and the others are at computed paths
  have hall : ∀ w ∈ (p, v) :: ws, form.HasPath w.1 ∧ w.1 ≠ q := by
    refine List.forall_mem_cons.2 ⟨⟨(Form.hasPath_of_accepted h).1, Ne.symm hqp⟩, fun w hw ↦ ?_⟩
    obtain ⟨hw, hcomputed⟩ := hws w hw
    refine ⟨hw, ?_⟩
    rintro rfl
    rw [hq] at hcomputed
    cases hcomputed
  rw [changeAt_of_accepted h]
  show ((form.compile fs).derive (s.values.write p v)).get? q = s.values.get? q
  rw [heq]
  exact hs.get?_writeAll hnames hall

/-- An accepted edit reaches only what depends on it, if no field at the root has the name of a
group. At any time its own path then holds the value entered, no other value changes that is not
computed, and whatever is entered, all paths that it does not affect end with the same values. -/
theorem edit_reaches_affected_run (fs : Registry) (form : Form) (hnames : form.NamesApart)
    (shared : SharedState) (rs : List Request) :
    let c := form.compile fs
    let s := ((start c).run c shared rs).2.1
    ∀ p v, (s.changeAt c p v).1 = true →
      (s.changeAt c p v).2.value? p = some v ∧
        (∀ q, q ≠ p → c.isComputed q = false → (s.changeAt c p v).2.value? q = s.value? q) ∧
        ∀ w q, ¬ Calculation.Affected form c.calculations p q →
          (s.changeAt c p v).2.value? q = (s.changeAt c p w).2.value? q := by
  intro c s p v haccepted
  have hwrite (t : ValueTree) (p : FieldPath) (v : Value) (hp : form.HasPath p)
      (ht : t.RespectsNames form) : (t.write p v).RespectsNames form := ht.write hnames hp v
  have hs : s.values.RespectsNames form :=
    values_run_of_write hwrite fs
      (Form.derive_of_write hwrite fs (Form.respectsNames_initialValues hnames)) shared rs
  have hrefusal : c.refusal? p = none := changeAt_fst_eq_true_iff.1 haccepted
  refine ⟨(value?_changeAt hnames haccepted).1, fun q hqp hq ↦ ?_, fun w q hq ↦ ?_⟩
  · exact value?_changeAt_of_ne hnames hs hrefusal hqp hq
  · show (s.changeAt c p v).2.values.get? q = (s.changeAt c p w).2.values.get? q
    rw [changeAt_of_accepted hrefusal, changeAt_of_accepted hrefusal]
    exact (Form.derive_write_agreeOutside hnames fs (Form.hasPath_of_accepted hrefusal).1
      s.values v w).get?_eq q hq

/-- A form for a parcel, on which a total depends directly and a notice through the total, for which
it comes too early. A label depends on the note in the group and not on the weight beside it. -/
def shipmentForm : Form where
  name := "shipment"
  description := none
  showStageNames := true
  stages := [⟨"shipment", none,
    [.field (.plain "notice" (some "'Ready: ' + values.total")),
      .group ⟨"parcel", none, false, false, [.plain "weight" none, .plain "note" none]⟩,
      .field (.plain "total" (some "values.parcel.weight + ' kg'")),
      .field (.plain "label" (some "'Note: ' + values.parcel.note"))]⟩]

theorem namesApart_shipmentForm : shipmentForm.NamesApart := by
  decide +kernel

/-- The weight affects the total and, late, the notice, but not the label. -/
theorem affected_shipmentForm {q : FieldPath}
    (h : Calculation.Affected shipmentForm (shipmentForm.compile .empty).calculations
      (.grouped "parcel" "weight") q) :
    q = .grouped "parcel" "weight" ∨ q = .root "total" ∨ q = .root "notice" := by
  have hmem : q ∈ [FieldPath.grouped "parcel" "weight", .root "total", .root "notice"] :=
    h.mem_of_closed List.mem_cons_self (by decide +kernel)
  simpa only [List.mem_cons, List.not_mem_nil, or_false] using hmem

/-- Whatever weight is entered, it is kept, and the note and the label stay as they are. -/
theorem edit_reaches_affected_run_shipmentForm :
    shipmentForm.NamesApart ∧
      (shipmentForm.compile .empty).lateReads = [(.root "notice", .root "total")] ∧
      ∃ s, s = ((start (shipmentForm.compile .empty)).run (shipmentForm.compile .empty) .empty
          [.change "parcel.note" (.text "Fragile"), .next]).2.1 ∧
        (s.changeAt (shipmentForm.compile .empty) (.grouped "parcel" "weight") (.text "3")).1 =
          true ∧
        (s.changeAt (shipmentForm.compile .empty) (.grouped "parcel" "weight") (.text "3")).2.value?
          (.grouped "parcel" "weight") = some (.text "3") ∧
        (s.changeAt (shipmentForm.compile .empty) (.grouped "parcel" "weight") (.text "3")).2.value?
          (.grouped "parcel" "note") = s.value? (.grouped "parcel" "note") ∧
        (s.changeAt (shipmentForm.compile .empty) (.grouped "parcel" "weight") (.text "3")).2.value?
            (.root "label") =
          (s.changeAt (shipmentForm.compile .empty) (.grouped "parcel" "weight") .null).2.value?
            (.root "label") := by
  have haccepted : (changeAt (shipmentForm.compile .empty)
      ((start (shipmentForm.compile .empty)).run (shipmentForm.compile .empty) .empty
        [.change "parcel.note" (.text "Fragile"), .next]).2.1
      (.grouped "parcel" "weight") (.text "3")).1 = true := by
    decide +kernel
  obtain ⟨hentered, hothers, hunaffected⟩ := edit_reaches_affected_run .empty shipmentForm
    namesApart_shipmentForm .empty [.change "parcel.note" (.text "Fragile"), .next] _ _ haccepted
  refine ⟨namesApart_shipmentForm, by decide +kernel, _, rfl, haccepted, hentered,
    hothers _ (by decide) (by decide +kernel), hunaffected .null _ fun h ↦ ?_⟩
  exact absurd (affected_shipmentForm h) (by decide)

end Session

end FormWizard
