import FormWizard.Proofs.Derivation.Reads

/-!
# One pass over the computed fields

A pass writes while it reads, so a calculation sees a tree of which only some computed fields are up
to date. If calculations read only what is written before them (`Calculation.Ordered`), this makes
no difference:

* `Calculation.applyAll_write_of_mem`: what stands at a computed path before the pass does not
  matter after it;
* `Calculation.applyAll_applyAll`: so a second pass changes nothing;
* `Calculation.get?_applyAll`: and every computed path holds what its last calculation yields on the
  tree that the pass ends with.

`Form.ordered_of_lateReads` is the link to `CompiledForm.lateReads`, which compares places in the
document: with no late reads, and no name used for a group and a field at the root, the calculations
are ordered. `Form.derive_settled` puts this together.
-/

namespace FormWizard

namespace Calculation

/-- Writes the values of computed fields one after the other. -/
def applyAll (fs : Registry) (t : ValueTree) (cs : List Calculation) : ValueTree :=
  cs.foldl (apply fs) t

/-- No calculation reads its own path or that of a later one. -/
def Ordered : List Calculation → Prop
  | [] => True
  | c :: cs => (∀ d ∈ c :: cs, ¬ c.Reads d.path) ∧ Ordered cs

variable {fs : Registry} {form : Form} {t : ValueTree} {c : Calculation} {cs : List Calculation}

@[simp]
theorem applyAll_cons (t : ValueTree) (c : Calculation) (cs : List Calculation) :
    applyAll fs t (c :: cs) = applyAll fs (t.write c.path (c.value fs t)) cs := rfl

@[simp]
theorem applyAll_append (t : ValueTree) (cs ds : List Calculation) :
    applyAll fs t (cs ++ ds) = applyAll fs (applyAll fs t cs) ds := List.foldl_append

theorem Ordered.of_append {bs : List Calculation} (h : Ordered (bs ++ cs)) : Ordered cs := by
  induction bs with
  | nil => exact h
  | cons b bs ih => exact ih h.2

/-- A pass does nothing but write at the computed paths. -/
theorem exists_applyAll_eq_writeAll (fs : Registry) (t : ValueTree) (cs : List Calculation) :
    ∃ ws : List (FieldPath × Value),
      ws.map Prod.fst = cs.map path ∧ applyAll fs t cs = t.writeAll ws := by
  induction cs generalizing t with
  | nil => exact ⟨[], rfl, rfl⟩
  | cons c cs ih =>
    obtain ⟨ws, hpaths, hws⟩ := ih (t.write c.path (c.value fs t))
    exact ⟨(c.path, c.value fs t) :: ws, congrArg (c.path :: ·) hpaths, hws⟩

/-- The paths that a pass writes, one by one. -/
theorem exists_mem_of_map_eq {ws : List (FieldPath × Value)}
    (h : ws.map Prod.fst = cs.map path) {w : FieldPath × Value} (hw : w ∈ ws) :
    ∃ d ∈ cs, d.path = w.1 :=
  List.mem_map.1 (h ▸ List.mem_map_of_mem hw)

section Ordered

variable (hnames : form.NamesApart) (hpaths : ∀ c ∈ cs, form.HasPath c.path)
include hnames hpaths

/-- What stands at a computed path before a pass does not matter after it. -/
theorem applyAll_write_of_mem (h : Ordered cs) (ht : t.HoldsGroups form) {p : FieldPath}
    (hp : p ∈ cs.map path) (w : Value) : applyAll fs (t.write p w) cs = applyAll fs t cs := by
  induction cs generalizing t with
  | nil => cases hp
  | cons c cs ih =>
    obtain ⟨d, hd, rfl⟩ := List.mem_map.1 hp
    have hvalue : c.value fs (t.write d.path w) = c.value fs t :=
      value_write (h.1 d hd) ht (hpaths d hd) w
    rw [applyAll_cons, applyAll_cons, hvalue]
    by_cases hpath : d.path = c.path
    · rw [hpath, ValueTree.write_write]
    · -- the value at the path stands behind what was written just now
      have hc := hpaths c List.mem_cons_self
      have hmem : d.path ∈ cs.map path := (List.mem_cons.1 hp).resolve_left hpath
      rw [ValueTree.write_comm ((hpaths d hd).compatible hc hnames) hpath]
      exact ih (fun c hc ↦ hpaths c (List.mem_cons_of_mem _ hc)) h.2 (ht.write hnames hc _) hmem

/-- What stood at the paths that are calculated does not matter to a pass in order. -/
theorem applyAll_writeAll_of_mem (h : Ordered cs) (ht : t.HoldsGroups form)
    {ws : List (FieldPath × Value)} (hws : ∀ w ∈ ws, w.1 ∈ cs.map path) :
    applyAll fs (t.writeAll ws) cs = applyAll fs t cs := by
  induction ws generalizing t with
  | nil => rfl
  | cons w ws ih =>
    obtain ⟨hw, hws⟩ := List.forall_mem_cons.1 hws
    have hpath : form.HasPath w.1 := by
      obtain ⟨d, hd, hdpath⟩ := List.mem_map.1 hw
      exact hdpath ▸ hpaths d hd
    simp [ih (ht.write hnames hpath w.2) hws, applyAll_write_of_mem hnames hpaths h ht hw]

/-- A second pass changes nothing. -/
theorem applyAll_applyAll (h : Ordered cs) (ht : t.HoldsGroups form) :
    applyAll fs (applyAll fs t cs) cs = applyAll fs t cs := by
  obtain ⟨ws, hmap, heq⟩ := exists_applyAll_eq_writeAll fs t cs
  have hws : ∀ w ∈ ws, w.1 ∈ cs.map path := fun w hw ↦ hmap ▸ List.mem_map_of_mem hw
  calc applyAll fs (applyAll fs t cs) cs = applyAll fs (t.writeAll ws) cs := by rw [heq]
    _ = applyAll fs t cs := applyAll_writeAll_of_mem hnames hpaths h ht hws

/-- A pass before a write at another path is lost in the pass behind it. -/
theorem applyAll_write_applyAll (h : Ordered cs) (ht : t.HoldsGroups form) {p : FieldPath}
    (hp : form.HasPath p) (hne : p ∉ cs.map path) (v : Value) :
    applyAll fs ((applyAll fs t cs).write p v) cs = applyAll fs (t.write p v) cs := by
  obtain ⟨ws, hmap, heq⟩ := exists_applyAll_eq_writeAll fs t cs
  have hws : ∀ w ∈ ws, w.1 ∈ cs.map path := fun w hw ↦ hmap ▸ List.mem_map_of_mem hw
  have hother : ∀ w ∈ ws, p.Compatible w.1 ∧ p ≠ w.1 := by
    intro w hw
    obtain ⟨d, hd, hdpath⟩ := exists_mem_of_map_eq hmap hw
    refine ⟨?_, fun hpw ↦ hne (hpw ▸ hws w hw)⟩
    rw [← hdpath]
    exact hp.compatible (hpaths d hd) hnames
  rw [heq, ← ValueTree.writeAll_write_comm hother,
    applyAll_writeAll_of_mem hnames hpaths h (ht.write hnames hp v) hws]

/-- A pass keeps the groups of the form. -/
theorem holdsGroups_applyAll (ht : t.HoldsGroups form) : (applyAll fs t cs).HoldsGroups form := by
  obtain ⟨ws, hmap, heq⟩ := exists_applyAll_eq_writeAll fs t cs
  rw [heq]
  refine ht.writeAll hnames fun w hw ↦ ?_
  obtain ⟨d, hd, hdpath⟩ := exists_mem_of_map_eq hmap hw
  exact hdpath ▸ hpaths d hd

end Ordered

/-- After a pass a computed path holds what its last calculation yields on the tree that the pass
ends with. -/
theorem get?_applyAll {bs : List Calculation} (hnames : form.NamesApart)
    (hpaths : ∀ d ∈ bs ++ c :: cs, form.HasPath d.path) (h : Ordered (bs ++ c :: cs))
    (ht : t.HoldsGroups form) (hlast : ∀ d ∈ cs, d.path ≠ c.path) :
    (applyAll fs t (bs ++ c :: cs)).get? c.path =
      some (c.value fs (applyAll fs t (bs ++ c :: cs))) := by
  obtain ⟨hreads, -⟩ := h.of_append
  have hc : form.HasPath c.path := hpaths c (by simp)
  have hbefore : (applyAll fs t bs).HoldsGroups form :=
    holdsGroups_applyAll hnames (fun d hd ↦ hpaths d (List.mem_append_left _ hd)) ht
  rw [applyAll_append, applyAll_cons]
  generalize applyAll fs t bs = u at hbefore
  obtain ⟨ws, hmap, heq⟩ :=
    exists_applyAll_eq_writeAll fs (u.write c.path (c.value fs u)) cs
  rw [heq]
  -- the calculations behind write other paths, none of which is read
  have hws : ∀ w ∈ ws, form.HasPath w.1 ∧ ¬ c.Reads w.1 ∧ c.path ≠ w.1 := by
    intro w hw
    obtain ⟨d, hd, hdpath⟩ := exists_mem_of_map_eq hmap hw
    rw [← hdpath]
    exact ⟨hpaths d (by simp [hd]), hreads d (List.mem_cons_of_mem _ hd), (hlast d hd).symm⟩
  have hvalue : c.value fs ((u.write c.path (c.value fs u)).writeAll ws) = c.value fs u := by
    rw [value_writeAll hnames (fun w hw ↦ ⟨(hws w hw).1, (hws w hw).2.1⟩)
      (hbefore.write hnames hc _), value_write (hreads c List.mem_cons_self) hbefore hc]
  rw [hvalue, ValueTree.get?_writeAll_of_ne, ValueTree.get?_write_self]
  intro w hw
  exact ⟨(hws w hw).1.compatible hc hnames, (hws w hw).2.2.symm⟩

end Calculation

/-! ### Places in the document -/

namespace CompiledForm

variable {c : CompiledForm} {bs cs : List Calculation} {d : Calculation}

/-- The last calculation of a path, whose value it keeps. -/
def lastCalculation? (c : CompiledForm) (p : FieldPath) : Option Calculation :=
  c.calculations.findRev? (·.path = p)

/-- A computed path has a last calculation, and none behind it. -/
theorem exists_lastCalculation?_eq {p : FieldPath} (h : c.isComputed p) :
    ∃ bs d cs, c.calculations = bs ++ d :: cs ∧ c.lastCalculation? p = some d ∧ d.path = p ∧
      ∀ d' ∈ cs, d'.path ≠ p := by
  obtain ⟨d₀, hd₀, hpath₀⟩ := isComputed_iff.1 h
  have hsome : (c.calculations.reverse.find? (·.path = p)).isSome :=
    List.find?_isSome.2 ⟨d₀, List.mem_reverse.2 hd₀, decide_eq_true hpath₀⟩
  obtain ⟨d, hd⟩ := Option.isSome_iff_exists.1 hsome
  obtain ⟨hpath, as, bs, hsplit, has⟩ := List.find?_eq_some_iff_append.1 hd
  refine ⟨bs.reverse, d, as.reverse, ?_, ?_, of_decide_eq_true hpath, fun d' hd' ↦ ?_⟩
  · rw [← List.reverse_reverse c.calculations, hsplit]
    simp
  · rw [lastCalculation?, List.findRev?_eq_find?_reverse]
    exact hd
  · simpa using has d' (List.mem_reverse.1 hd')

/-- Deriving is one pass of all calculations. -/
theorem derive_eq_applyAll (c : CompiledForm) (t : ValueTree) :
    c.derive t = Calculation.applyAll c.functions t c.calculations := rfl

/-- The last place of a path is not before any place of it. -/
theorem exists_position?_eq (h : c.calculations = bs ++ d :: cs) :
    ∃ k, bs.length ≤ k ∧ c.position? d.path = some k := by
  have hsplit : c.calculations.zipIdx =
      bs.zipIdx ++ (d, bs.length) :: cs.zipIdx (bs.length + 1) := by
    rw [h, List.zipIdx_append, List.zipIdx_cons, Nat.zero_add]
  have hle : ∀ x ∈ (d, bs.length) :: (cs.zipIdx (bs.length + 1)).filter (·.1.path = d.path),
      bs.length ≤ x.2 := by
    intro x hx
    obtain rfl | hx := List.mem_cons.1 hx
    · exact Nat.le_refl _
    · have hplace := (List.mem_zipIdx (List.mem_of_mem_filter hx)).1
      omega
  rw [position?, hsplit, List.filter_append, List.filter_cons_of_pos (by simp),
    List.getLast?_append_of_ne_nil _ (List.cons_ne_nil _ _),
    List.getLast?_eq_some_getLast (List.cons_ne_nil _ _)]
  exact ⟨_, hle _ (List.getLast_mem _), rfl⟩

/-- A path with a position is calculated. -/
theorem exists_mem_of_position? {p : FieldPath} {k : ℕ} (h : c.position? p = some k) :
    ∃ d ∈ c.calculations, d.path = p := by
  obtain ⟨⟨d, i⟩, hlast, -⟩ := Option.map_eq_some_iff.1 h
  obtain ⟨hd, hpath⟩ := List.mem_filter.1 (List.mem_of_getLast? hlast)
  exact ⟨d, List.fst_mem_of_mem_zipIdx hd, of_decide_eq_true hpath⟩

/-- With no late reads, what a calculation reads is derived before its own place. -/
theorem readPosition?_lt_of_lateReads (h : c.lateReads = []) (hcs : c.calculations = bs ++ d :: cs)
    {program : Expr} (hprogram : d.formula.program = .ok program) {v : Variable}
    (hv : v ∈ program.reads) {r : FieldPath} (hr : readPath? v = some r) {k : ℕ}
    (hk : c.readPosition? r = some k) : k < bs.length := by
  by_contra hle
  have hmem : (d, bs.length) ∈ c.calculations.zipIdx := by
    rw [hcs, List.zipIdx_append, List.zipIdx_cons, Nat.zero_add]
    simp
  have hlate : r ∈ c.lateReadsOf d bs.length := by
    rw [lateReadsOf, hprogram]
    refine List.mem_filter.2 ⟨List.mem_filterMap.2 ⟨v, hv, hr⟩, ?_⟩
    rw [hk, Option.any_some, decide_eq_true_eq]
    omega
  have hmem' : (d.path, r) ∈ c.lateReads :=
    List.mem_flatMap.2 ⟨_, hmem, List.mem_map_of_mem hlate⟩
  rw [h] at hmem'
  cases hmem'

end CompiledForm

namespace Form

variable {fs : Registry} {form : Form}

/-- Every calculation is of a field of the form. -/
theorem hasPath_of_mem_calculations {d : Calculation} (h : d ∈ (form.compile fs).calculations) :
    form.HasPath d.path := by
  obtain ⟨e, he, hd⟩ := List.mem_filterMap.1 h
  obtain ⟨source, -, rfl⟩ := Option.map_eq_some_iff.1 hd
  exact ⟨e, he, rfl⟩

/-- With no late reads a calculation reads neither its own path nor that of a later one. -/
theorem not_reads_of_lateReads (hnames : form.NamesApart) (hlate : (form.compile fs).lateReads = [])
    {bs cs : List Calculation} {c d : Calculation}
    (hcs : (form.compile fs).calculations = bs ++ c :: cs) (hd : d ∈ c :: cs) :
    ¬ c.Reads d.path := by
  rintro ⟨program, hprogram, v, hv, r, hr, htouch⟩
  obtain ⟨cs₁, cs₂, hsplit⟩ := List.append_of_mem hd
  have hdcs := hcs
  rw [hsplit, ← List.append_assoc] at hdcs
  obtain ⟨k, hk, hposition⟩ := CompiledForm.exists_position?_eq hdcs
  rw [List.length_append] at hk
  have hread : (form.compile fs).readPosition? r = some k := by
    obtain hpath | hpath := htouch
    · rw [CompiledForm.readPosition?, ← hpath, hposition, Option.some_or]
    rcases hr' : (form.compile fs).position? r with _ | k'
    · rw [CompiledForm.readPosition?, hr', ← hpath, hposition, Option.none_or]
    -- the path read is computed itself, and is the field at the root
    obtain ⟨e, he, hepath⟩ := CompiledForm.exists_mem_of_position? hr'
    have hmem : d ∈ (form.compile fs).calculations := hcs ▸ List.mem_append_right bs hd
    have hcompatible : r.Compatible (.root r.top) := by
      rw [← hepath, ← hpath.trans (congrArg (fun r ↦ FieldPath.root r.top) hepath.symm)]
      exact (hasPath_of_mem_calculations he).compatible (hasPath_of_mem_calculations hmem) hnames
    have hroot : r = .root r.top := FieldPath.eq_root_of_group (hcompatible rfl)
    rw [CompiledForm.readPosition?, hroot, ← hpath, hposition, Option.some_or]
  have hlt := CompiledForm.readPosition?_lt_of_lateReads hlate hcs hprogram hv hr hread
  omega

/-- Without late reads the calculations are in order. -/
theorem ordered_of_lateReads (hnames : form.NamesApart)
    (hlate : (form.compile fs).lateReads = []) :
    Calculation.Ordered (form.compile fs).calculations := by
  suffices h : ∀ bs cs, (form.compile fs).calculations = bs ++ cs → Calculation.Ordered cs from
    h [] _ rfl
  intro bs cs
  induction cs generalizing bs with
  | nil => exact fun _ ↦ trivial
  | cons c cs ih =>
    intro hcs
    refine ⟨fun d hd ↦ not_reads_of_lateReads hnames hlate hcs hd, ih (bs ++ [c]) ?_⟩
    rw [hcs, List.append_assoc, List.singleton_append]

/-- With no late reads, and no name used for a group and a field at the root, one pass is enough:
every computed path holds what its last calculation yields on the resulting tree, and another pass
changes nothing. -/
theorem derive_settled (fs : Registry) (form : Form) (t : ValueTree) (hnames : form.NamesApart)
    (hlate : (form.compile fs).lateReads = []) (ht : t.HoldsGroups form) :
    (∀ p, (form.compile fs).isComputed p → ∃ c, (form.compile fs).lastCalculation? p = some c ∧
      ((form.compile fs).derive t).get? p = some (c.value fs ((form.compile fs).derive t))) ∧
    (form.compile fs).derive ((form.compile fs).derive t) = (form.compile fs).derive t := by
  have hpaths : ∀ d ∈ (form.compile fs).calculations, form.HasPath d.path := fun d hd ↦
    hasPath_of_mem_calculations hd
  have hordered := ordered_of_lateReads hnames hlate
  refine ⟨fun p hp ↦ ?_, Calculation.applyAll_applyAll hnames hpaths hordered ht⟩
  obtain ⟨bs, c, cs, hcs, hlast, rfl, hlater⟩ := CompiledForm.exists_lastCalculation?_eq hp
  rw [CompiledForm.derive_eq_applyAll, hcs]
  rw [hcs] at hpaths hordered
  exact ⟨c, hlast, Calculation.get?_applyAll hnames hpaths hordered ht hlater⟩

theorem lateReads_nameForm : (nameForm.compile .empty).lateReads = [] := by
  decide +kernel

/-- The greeting is derived from the name by way of another computed field, in one pass. -/
theorem derive_settled_nameForm :
    nameForm.NamesApart ∧ (nameForm.compile .empty).lateReads = [] ∧
      nameForm.initialValues.HoldsGroups nameForm ∧ (nameForm.compile .empty).isComputed
        (.root "greeting") ∧
      ∃ c, (nameForm.compile .empty).lastCalculation? (.root "greeting") = some c ∧
        ((nameForm.compile .empty).derive nameForm.initialValues).get? (.root "greeting") =
          some (c.value .empty ((nameForm.compile .empty).derive nameForm.initialValues)) := by
  have hgroups := holdsGroups_initialValues namesApart_nameForm
  have hcomputed : (nameForm.compile .empty).isComputed (.root "greeting") := by
    decide +kernel
  exact ⟨namesApart_nameForm, lateReads_nameForm, hgroups, hcomputed,
    (derive_settled .empty nameForm _ namesApart_nameForm lateReads_nameForm hgroups).1 _ hcomputed⟩

end Form

end FormWizard
