import FormWizard.Proofs.Derivation.Agreement
import FormWizard.Proofs.Expr.Checks
import Mathlib.Data.Finset.Card
import Mathlib.Data.Finset.Filter

/-!
# Passes repeated until nothing changes

Where calculations read what is derived behind them, one pass over the computed fields is not
enough. If none reads its own path, be it through others (`Calculation.Acyclic`), then as many
passes are as there are calculations, in whatever order these stand.

The argument goes by the number of computed paths that a path depends on
(`Calculation.dependencies`), which falls along each read. A pass takes a path one step further: if
it leaves the paths alone that a calculation reads, it writes what the calculation yields on the
tree that the pass starts with (`Calculation.get?_applyAll_of_reads`), for it does not matter
whether such a path is written before the calculation or behind it. So after `k` passes all paths
that depend on fewer than `k` others keep their values (`Form.get?_iterate_derive_succ`), and no
path depends on more than there are beside it.
-/

namespace FormWizard

namespace Calculation

/-! ### Dependencies -/

/-- A calculation of the first path reads the second one, which is computed itself. -/
def ReadsComputed (form : Form) (cs : List Calculation) (p q : FieldPath) : Prop :=
  ∃ c ∈ cs, ∃ d ∈ cs, c.path = p ∧ d.path = q ∧ c.ReadsPath form d.path

/-- No calculation reads its own path, neither itself nor through others. -/
def Acyclic (form : Form) (cs : List Calculation) : Prop :=
  ∀ p, ¬ Relation.TransGen (ReadsComputed form cs) p p

open Classical in
/-- The computed paths that a path depends on. -/
noncomputable def dependencies (form : Form) (cs : List Calculation) (p : FieldPath) :
    Finset FieldPath :=
  (cs.map path).toFinset.filter (Relation.TransGen (ReadsComputed form cs) p)

variable {form : Form} {cs : List Calculation} {p q : FieldPath}

theorem ReadsComputed.mem (h : ReadsComputed form cs p q) : q ∈ cs.map path := by
  obtain ⟨c, hc, d, hd, rfl, rfl, -⟩ := h
  exact List.mem_map_of_mem hd

/-- The dependencies of a path are the calculated ones that are read for it, at once or later. -/
theorem mem_dependencies : q ∈ dependencies form cs p ↔
    q ∈ cs.map path ∧ Relation.TransGen (ReadsComputed form cs) p q := by
  classical
  rw [dependencies, Finset.mem_filter, List.mem_toFinset]

/-- A path that is read depends on fewer paths: on all that it depends on, but not on itself. -/
theorem card_dependencies_lt (hacyclic : Acyclic form cs) (h : ReadsComputed form cs p q) :
    (dependencies form cs q).card < (dependencies form cs p).card := by
  refine Finset.card_lt_card (Finset.ssubset_iff_of_subset (fun r hr ↦ ?_) |>.2 ⟨q, ?_, ?_⟩)
  · obtain ⟨hr, hqr⟩ := mem_dependencies.1 hr
    exact mem_dependencies.2 ⟨hr, .head h hqr⟩
  · exact mem_dependencies.2 ⟨h.mem, .single h⟩
  · exact fun hq ↦ hacyclic q (mem_dependencies.1 hq).2

/-- A computed path depends on fewer paths than there are calculations. -/
theorem card_dependencies_lt_length (hacyclic : Acyclic form cs) (hp : p ∈ cs.map path) :
    (dependencies form cs p).card < cs.length := by
  have hlt : (dependencies form cs p).card < (cs.map path).toFinset.card := by
    refine Finset.card_lt_card (Finset.ssubset_iff_of_subset (fun r hr ↦ ?_) |>.2 ⟨p, ?_, ?_⟩)
    · exact List.mem_toFinset.2 (mem_dependencies.1 hr).1
    · exact List.mem_toFinset.2 hp
    · exact fun hp ↦ hacyclic p (mem_dependencies.1 hp).2
  refine hlt.trans_le ((List.toFinset_card_le _).trans ?_)
  rw [List.length_map]

/-- What a calculation of a form may depend on it reads by the name of a group or a field. -/
theorem readsPath_of_reads {fs : Registry} {c : Calculation} (hnames : form.NamesApart)
    (hc : c ∈ (form.compile fs).calculations) (hp : form.HasPath p) (h : c.Reads p) :
    c.ReadsPath form p := by
  obtain ⟨program, hprogram, v, hv, r, hr, htouch⟩ := h
  obtain ⟨e, -, hcalculation⟩ := List.mem_filterMap.1 hc
  obtain ⟨source, -, rfl⟩ := Option.map_eq_some_iff.1 hcalculation
  have hroot : v.root ∈ Scope.computedRoots :=
    (Expr.checked_of_compile hprogram).1.root_mem v hv
  refine ⟨program, hprogram, v, hv, ?_⟩
  obtain ⟨root, members⟩ := v
  obtain rfl : root = "values" := List.mem_singleton.1 hroot
  rcases members with _ | ⟨name, _ | ⟨name', rest⟩⟩
  · cases hr
  · -- with one member the path read is at the root
    obtain rfl : FieldPath.root name = r := Option.some.inj hr
    obtain rfl : p = .root name := htouch.elim id id
    exact .root (hp.not_isGroupName hnames)
  · obtain rfl : FieldPath.grouped name name' = r := Option.some.inj hr
    obtain rfl | rfl := htouch
    · exact .grouped hp.isGroupName
    · exact .root (hp.not_isGroupName hnames)

/-! ### One pass -/

section Pass

variable {fs : Registry} {t : ValueTree} {c : Calculation}
variable (hnames : form.NamesApart) (hpaths : ∀ d ∈ cs, form.HasPath d.path)
include hnames

/-- Writes of what is there already to paths that are read, and of anything to others, change
nothing for a calculation. -/
theorem value_writeAll_of_get? {ws : List (FieldPath × Value)} (hnodup : (ws.map Prod.fst).Nodup)
    (hws : ∀ w ∈ ws, form.HasPath w.1 ∧ (c.Reads w.1 → t.get? w.1 = some w.2))
    (ht : t.HoldsGroups form) : c.value fs (t.writeAll ws) = c.value fs t := by
  induction ws generalizing t with
  | nil => rfl
  | cons w ws ih =>
    obtain ⟨⟨hw, hget⟩, hws⟩ := List.forall_mem_cons.1 hws
    rw [List.map_cons, List.nodup_cons] at hnodup
    rw [ValueTree.writeAll_cons]
    by_cases hreads : c.Reads w.1
    · rw [ValueTree.write_eq_self (hget hreads)]
      exact ih hnodup.2 hws ht
    · refine (ih hnodup.2 (fun u hu ↦ ⟨(hws u hu).1, fun hread ↦ ?_⟩)
        (ht.write hnames hw w.2)).trans (value_write hreads ht hw w.2)
      -- the paths differ, so the value at the later one is still that of before
      have hne : w.1 ≠ u.1 := fun heq ↦ hnodup.1 (heq ▸ List.mem_map_of_mem hu)
      rw [ValueTree.get?_write_of_ne (hw.compatible (hws u hu).1 hnames) hne]
      exact (hws u hu).2 hread

include hpaths

/-- A pass leaves all other paths of the form alone. -/
theorem get?_applyAll_of_notMem (hp : form.HasPath p) (hnot : p ∉ cs.map path) (t : ValueTree) :
    (applyAll fs t cs).get? p = t.get? p := by
  obtain ⟨ws, hmap, heq⟩ := exists_applyAll_eq_writeAll fs t cs
  rw [heq]
  refine ValueTree.get?_writeAll_of_ne (fun w hw ↦ ?_) t
  obtain ⟨d, hd, hdpath⟩ := exists_mem_of_map_eq hmap hw
  rw [← hdpath]
  exact ⟨(hpaths d hd).compatible hp hnames, fun h ↦ hnot (h ▸ List.mem_map_of_mem hd)⟩

/-- After a pass a calculation yields what it did before if the pass left alone what it reads. -/
theorem value_applyAll_of_reads (hnodup : (cs.map path).Nodup) (ht : t.HoldsGroups form)
    (hreads : ∀ d ∈ cs, c.Reads d.path → (applyAll fs t cs).get? d.path = t.get? d.path) :
    c.value fs (applyAll fs t cs) = c.value fs t := by
  obtain ⟨ws, hmap, heq⟩ := exists_applyAll_eq_writeAll fs t cs
  have hpath : ∀ w ∈ ws, form.HasPath w.1 := by
    intro w hw
    obtain ⟨d, hd, hdpath⟩ := exists_mem_of_map_eq hmap hw
    exact hdpath ▸ hpaths d hd
  rw [← hmap] at hnodup
  rw [heq] at hreads ⊢
  refine value_writeAll_of_get? hnames hnodup (fun w hw ↦ ⟨hpath w hw, fun hread ↦ ?_⟩) ht
  obtain ⟨d, hd, hdpath⟩ := exists_mem_of_map_eq hmap hw
  have hkept := hreads d hd (hdpath ▸ hread)
  rw [hdpath] at hkept
  rw [← hkept]
  exact ValueTree.get?_writeAll_of_mem hnodup
    (fun w hw u hu ↦ (hpath w hw).compatible (hpath u hu) hnames) hw t

/-- A pass writes what a calculation yields on the tree before if it leaves alone what the
calculation reads. -/
theorem get?_applyAll_of_reads (hnodup : (cs.map path).Nodup) (ht : t.HoldsGroups form)
    (hc : c ∈ cs)
    (hreads : ∀ d ∈ cs, c.Reads d.path → (applyAll fs t cs).get? d.path = t.get? d.path) :
    (applyAll fs t cs).get? c.path = some (c.value fs t) := by
  obtain ⟨bs, ds, rfl⟩ := List.append_of_mem hc
  have hbs : ∀ d ∈ bs, form.HasPath d.path := fun d hd ↦ hpaths d (by simp [hd])
  have hds : ∀ d ∈ ds, form.HasPath d.path := fun d hd ↦ hpaths d (by simp [hd])
  have hcpath := hpaths c hc
  rw [List.map_append, List.map_cons, List.nodup_append] at hnodup
  obtain ⟨hnodup, hbehind, hapart⟩ := hnodup
  rw [List.nodup_cons] at hbehind
  -- what stands at a path before the calculation is not written again in the pass
  have hbefore : c.value fs (applyAll fs t bs) = c.value fs t := by
    refine value_applyAll_of_reads hnames hbs hnodup ht fun d hd hread ↦ ?_
    have hkept := hreads d (by simp [hd]) hread
    rw [applyAll_append, get?_applyAll_of_notMem hnames
      (fun d hd ↦ hpaths d (List.mem_append_right _ hd)) (hbs d hd)] at hkept
    · exact hkept
    · exact fun hmem ↦ hapart _ (List.mem_map_of_mem hd) _ hmem rfl
  rw [applyAll_append, applyAll_cons, hbefore, get?_applyAll_of_notMem hnames hds hcpath hbehind.1,
    ValueTree.get?_write_self]

end Pass

/-! ### Several passes -/

/-- A pass changes nothing where every computed path holds what its calculation yields. -/
theorem applyAll_eq_self {fs : Registry} {t : ValueTree}
    (h : ∀ c ∈ cs, t.get? c.path = some (c.value fs t)) : applyAll fs t cs = t := by
  induction cs with
  | nil => rfl
  | cons c cs ih =>
    obtain ⟨hc, hcs⟩ := List.forall_mem_cons.1 h
    rw [applyAll_cons, ValueTree.write_eq_self hc, ih hcs]

end Calculation

namespace Form

section Passes

variable {fs : Registry} {form : Form} {t : ValueTree} (hnames : form.NamesApart)
variable (hnodup : ((form.compile fs).calculations.map (·.path)).Nodup)
variable (hacyclic : Calculation.Acyclic form (form.compile fs).calculations)
variable (ht : t.HoldsGroups form)
include hnames ht

/-- Deriving again and again keeps the groups of the form. -/
theorem holdsGroups_iterate_derive (k : ℕ) :
    ((form.compile fs).derive^[k] t).HoldsGroups form := by
  induction k with
  | zero => exact ht
  | succ k ih =>
    rw [Function.iterate_succ_apply']
    exact Calculation.holdsGroups_applyAll hnames (fun d hd ↦ hasPath_of_mem_calculations hd) ih

include hnodup

/-- A path has its value after the next pass if that leaves alone what its calculation reads. -/
theorem get?_iterate_derive_succ_of_reads {c : Calculation}
    (hc : c ∈ (form.compile fs).calculations) {k : ℕ}
    (hreads : ∀ d ∈ (form.compile fs).calculations, c.Reads d.path →
      ((form.compile fs).derive^[k + 1] t).get? d.path =
        ((form.compile fs).derive^[k] t).get? d.path) :
    ((form.compile fs).derive^[k + 1] t).get? c.path =
      some (c.value fs ((form.compile fs).derive^[k] t)) := by
  rw [Function.iterate_succ_apply'] at hreads ⊢
  exact Calculation.get?_applyAll_of_reads hnames (fun d hd ↦ hasPath_of_mem_calculations hd) hnodup
    (holdsGroups_iterate_derive hnames ht k) hc hreads

include hacyclic

/-- After `k` passes the paths that depend on fewer than `k` others keep their values. -/
theorem get?_iterate_derive_succ {k : ℕ} {c : Calculation}
    (hc : c ∈ (form.compile fs).calculations)
    (hlt : (Calculation.dependencies form (form.compile fs).calculations c.path).card < k) {j : ℕ}
    (hj : k ≤ j) : ((form.compile fs).derive^[j + 1] t).get? c.path =
      ((form.compile fs).derive^[j] t).get? c.path := by
  induction k generalizing c j with
  | zero => exact absurd hlt (Nat.not_lt_zero _)
  | succ k ih =>
    have hkept : ∀ i, k ≤ i → ∀ d ∈ (form.compile fs).calculations, c.Reads d.path →
        ((form.compile fs).derive^[i + 1] t).get? d.path =
          ((form.compile fs).derive^[i] t).get? d.path := by
      intro i hi d hd hread
      have hread := Calculation.readsPath_of_reads hnames hc (hasPath_of_mem_calculations hd) hread
      have hfewer := Calculation.card_dependencies_lt hacyclic ⟨c, hc, d, hd, rfl, rfl, hread⟩
      exact ih hd (by omega) hi
    -- what is read was the same in the pass before, so that yielded the same
    obtain ⟨i, rfl⟩ := Nat.exists_eq_add_of_le' (show 1 ≤ j by omega)
    have hi : k ≤ i := by omega
    have hvalue : c.value fs ((form.compile fs).derive^[i + 1] t) =
        c.value fs ((form.compile fs).derive^[i] t) := by
      have hreads := hkept i hi
      rw [Function.iterate_succ_apply'] at hreads ⊢
      exact Calculation.value_applyAll_of_reads hnames
        (fun d hd ↦ hasPath_of_mem_calculations hd) hnodup
        (holdsGroups_iterate_derive hnames ht i) hreads
    calc ((form.compile fs).derive^[i + 1 + 1] t).get? c.path
        = some (c.value fs ((form.compile fs).derive^[i + 1] t)) :=
          get?_iterate_derive_succ_of_reads hnames hnodup ht hc (hkept (i + 1) (by omega))
      _ = some (c.value fs ((form.compile fs).derive^[i] t)) := by rw [hvalue]
      _ = ((form.compile fs).derive^[i + 1] t).get? c.path :=
          (get?_iterate_derive_succ_of_reads hnames hnodup ht hc (hkept i hi)).symm

end Passes

/-- **Acyclic calculations settle.** If no name is used for a group and a field at the root,
computed fields have different paths and none reads its own, neither itself nor through others, then
after as many passes as there are computed fields each holds what its calculation yields on the
resulting tree, and a further pass changes nothing. -/
theorem derive_iterate_settled (fs : Registry) (form : Form) (t : ValueTree)
    (hnames : form.NamesApart) (hnodup : ((form.compile fs).calculations.map (·.path)).Nodup)
    (hacyclic : Calculation.Acyclic form (form.compile fs).calculations)
    (ht : t.HoldsGroups form) :
    let c := form.compile fs
    let settled := c.derive^[c.calculations.length] t
    c.derive settled = settled ∧
      ∀ d ∈ c.calculations, settled.get? d.path = some (d.value fs settled) := by
  intro c settled
  have hkept : ∀ d ∈ c.calculations,
      (c.derive^[c.calculations.length + 1] t).get? d.path = settled.get? d.path := fun d hd ↦
    get?_iterate_derive_succ hnames hnodup hacyclic ht hd
      (Calculation.card_dependencies_lt_length hacyclic (List.mem_map_of_mem hd)) le_rfl
  have hvalues : ∀ d ∈ c.calculations, settled.get? d.path = some (d.value fs settled) :=
    fun d hd ↦ (hkept d hd).symm.trans
      (get?_iterate_derive_succ_of_reads hnames hnodup ht hd fun d' hd' _ ↦ hkept d' hd')
  exact ⟨Calculation.applyAll_eq_self hvalues, hvalues⟩

end Form

/-! ### Calculations with ranks -/

/-- Calculations are acyclic if a rank falls along each read. -/
theorem Calculation.acyclic_of_rank {form : Form} {cs : List Calculation} (rank : FieldPath → ℕ)
    (h : ∀ c ∈ cs, ∀ d ∈ cs, c.ReadsPath form d.path → rank d.path < rank c.path) :
    Acyclic form cs := by
  have hfalls (p q : FieldPath) (hpq : ReadsComputed form cs p q) : rank q < rank p := by
    obtain ⟨c, hc, d, hd, rfl, rfl, hread⟩ := hpq
    exact h c hc d hd hread
  have hbehind (p q : FieldPath) (hpq : Relation.TransGen (ReadsComputed form cs) p q) :
      rank q < rank p := by
    induction hpq with
    | single hpq => exact hfalls _ _ hpq
    | tail _ hqr ih => exact (hfalls _ _ hqr).trans ih
  exact fun p hp ↦ (hbehind p p hp).false

namespace Form

/-- A form in which each computed field but the last one reads the one behind it. -/
def backwardForm : Form where
  name := "backward"
  description := none
  showStageNames := true
  stages := [⟨"order", none,
    [.field (.plain "notice" (some "'Due: ' + values.order.gross")),
      .group ⟨"order", none, false, false,
        [.plain "gross" (some "values.order.net * 2"), .plain "net" (some "values.price + 1")]⟩,
      .field (.plain "price" none)]⟩]

theorem namesApart_backwardForm : backwardForm.NamesApart := by
  decide +kernel

/-- Two passes are not enough, since every read comes too early, and three are. -/
theorem derive_iterate_settled_backwardForm :
    backwardForm.NamesApart ∧
      ((backwardForm.compile .empty).calculations.map (·.path)).Nodup ∧
      Calculation.Acyclic backwardForm (backwardForm.compile .empty).calculations ∧
      backwardForm.initialValues.HoldsGroups backwardForm ∧
      ((backwardForm.compile .empty).derive^[2] backwardForm.initialValues).get?
        (.root "notice") = some (.text "Due: 0") ∧
      ((backwardForm.compile .empty).derive^[3] backwardForm.initialValues).get?
        (.root "notice") = some (.text "Due: 2") ∧
      (backwardForm.compile .empty).derive
          ((backwardForm.compile .empty).derive^[3] backwardForm.initialValues) =
        (backwardForm.compile .empty).derive^[3] backwardForm.initialValues := by
  have hnodup : ((backwardForm.compile .empty).calculations.map (·.path)).Nodup := by
    decide +kernel
  have hacyclic : Calculation.Acyclic backwardForm
      (backwardForm.compile .empty).calculations := by
    refine Calculation.acyclic_of_rank (fun p ↦
      if p = .root "notice" then 2 else if p = .grouped "order" "gross" then 1 else 0) ?_
    decide +kernel
  have hgroups := holdsGroups_initialValues namesApart_backwardForm
  exact ⟨namesApart_backwardForm, hnodup, hacyclic, hgroups, by decide +kernel, by decide +kernel,
    (derive_iterate_settled .empty backwardForm _ namesApart_backwardForm hnodup hacyclic
      hgroups).1⟩

end Form

end FormWizard
