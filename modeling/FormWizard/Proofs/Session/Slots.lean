import FormWizard.Form.Lint
import FormWizard.Proofs.Session.History

/-!
# Slots of the fields of a form

The values of all stages share one tree, in which a field at the root and a group each take the slot
of their name. `Form.lint` compares the names of siblings only. It therefore keeps the fields of one
group apart (`Lint.nodup_of_mem_flatten`), but not fields and groups of different stages or blocks:
of those with one name the last one takes the slot (`Session.lint_misses_other_stages`).

What is certain of a form without findings and late reads is `Session.slots_of_lint`. The initial
values hold what a field starts with if nothing behind it has the name of its slot
(`Form.KeepsSlot`). If no field at the root has the name of a group, an accepted edit is seen at its
own path and at no other path that is not computed, and nothing is left to derive.
-/

namespace FormWizard

/-! ### What findings tell about names -/

namespace Lint

/-- If no name is found to be repeated, none is, and none was seen before. -/
theorem nodup_of_repeated {seen names : List String} (h : repeated seen names = []) :
    names.Nodup ∧ ∀ name ∈ names, name ∉ seen := by
  induction names generalizing seen with
  | nil => exact ⟨List.nodup_nil, nofun⟩
  | cons name names ih =>
    rw [repeated] at h
    split at h
    · cases h
    · rename_i hseen
      obtain ⟨hnodup, hnotMem⟩ := ih h
      have hname : name ∉ names := fun hmem ↦ hnotMem name hmem List.mem_cons_self
      refine ⟨List.nodup_cons.2 ⟨hname, hnodup⟩, List.forall_mem_cons.2 ⟨?_, fun other hother ↦ ?_⟩⟩
      · simpa using hseen
      · exact fun hmem ↦ hnotMem other hother (List.mem_cons_of_mem _ hmem)

/-- If there are no findings about names, they differ. -/
theorem nodup_of_unique {parent : String} {names : List String} (h : unique parent names = []) :
    names.Nodup :=
  (nodup_of_repeated (List.map_eq_nil_iff.1 h)).1

variable {form : Form} {g : Group}

mutual

/-- The fields of a group differ in their names if there are no findings about a part with it. -/
theorem nodup_of_mem_flatten : ∀ n : Node, node form n = [] → .group g ∈ n.flatten →
    (g.fields.map Field.name).Nodup
  | .field _, _, hmem => by simp at hmem
  | .group _, h, hmem => by
    rw [Node.flatten_group, List.mem_singleton] at hmem
    cases hmem
    rw [node, List.append_eq_nil_iff, List.append_eq_nil_iff] at h
    exact nodup_of_unique h.1.2
  | .block _ _ nodes, h, hmem => by
    rw [node, List.append_eq_nil_iff] at h
    rw [Node.flatten_block] at hmem
    exact nodup_of_mem_flattenAll nodes h.2 hmem

theorem nodup_of_mem_flattenAll : ∀ ns : List Node, nodeAll form ns = [] →
    .group g ∈ Node.flattenAll ns → (g.fields.map Field.name).Nodup
  | [], _, hmem => by simp at hmem
  | n :: ns, h, hmem => by
    rw [nodeAll, List.append_eq_nil_iff] at h
    rw [Node.flattenAll_cons, List.mem_append] at hmem
    obtain hmem | hmem := hmem
    · exact nodup_of_mem_flatten n h.1 hmem
    · exact nodup_of_mem_flattenAll ns h.2 hmem

end

/-- The fields of a group differ in their names if there are no findings about the form. -/
theorem nodup_of_mem_nodes (h : form.lint = []) (hg : .group g ∈ form.nodes) :
    (g.fields.map Field.name).Nodup := by
  rw [Form.lint, List.append_eq_nil_iff] at h
  obtain ⟨s, hs, hg⟩ := List.mem_flatMap.1 hg
  have hstage : stage form s = [] := List.flatMap_eq_nil_iff.1 h.2 s hs
  rw [stage, List.append_eq_nil_iff] at hstage
  exact nodup_of_mem_flattenAll s.nodes hstage.2 hg

end Lint

/-! ### Initial values -/

namespace Group

/-- Fields with other names leave a member alone. -/
theorem getElem?_foldl_insert {fields : List Field} {name : String}
    (h : ∀ f ∈ fields, f.name ≠ name) (members : Members) :
    (fields.foldl (fun members f ↦ members.insert f.name f.initialValue) members)[name]? =
      members[name]? := by
  induction fields generalizing members with
  | nil => rfl
  | cons f fields ih =>
    obtain ⟨hf, hfields⟩ := List.forall_mem_cons.1 h
    rw [List.foldl_cons, ih hfields, Std.ExtTreeMap.getElem?_insert, if_neg (by simpa using hf)]

/-- A member starts with the value of its field if no other field has its name. -/
theorem getElem?_initialMembers {g : Group} {f : Field} (hf : f ∈ g.fields)
    (hnodup : (g.fields.map Field.name).Nodup) :
    g.initialMembers[f.name]? = some f.initialValue := by
  obtain ⟨before, after, hsplit⟩ := List.append_of_mem hf
  rw [hsplit, List.map_append, List.map_cons] at hnodup
  have hname : f.name ∉ after.map Field.name :=
    (List.nodup_cons.1 (List.nodup_append.1 hnodup).2.1).1
  have hafter : ∀ f' ∈ after, f'.name ≠ f.name := fun f' hf' heq ↦
    hname (heq ▸ List.mem_map_of_mem hf')
  rw [initialMembers, hsplit, List.foldl_append, List.foldl_cons, getElem?_foldl_insert hafter,
    Std.ExtTreeMap.getElem?_insert_self]

end Group

namespace Form

/-- No field or group behind the one of an entry has the name of its slot. -/
def KeepsSlot (form : Form) (e : Entry) : Prop :=
  ∃ before n after, form.nodes = before ++ n :: after ∧ e ∈ n.entries e.stage ∧
    ∀ m ∈ after, m.name ≠ n.name

variable {fs : Registry} {form : Form} {p q : FieldPath} {t : ValueTree}

/-- Fields and groups with other names leave a slot alone. -/
theorem slot?_foldl_initialize {nodes : List FlatNode} {name : String}
    (h : ∀ m ∈ nodes, m.name ≠ name) (t : ValueTree) :
    (nodes.foldl FlatNode.initialize t).slot? name = t.slot? name := by
  induction nodes generalizing t with
  | nil => rfl
  | cons n nodes ih =>
    obtain ⟨hn, hnodes⟩ := List.forall_mem_cons.1 h
    simp [ih hnodes, FlatNode.initialize_eq_put, hn]

/-- The slot of a name holds what the last field or group of this name puts there. -/
theorem slot?_initialValues {before after : List FlatNode} {n : FlatNode}
    (hsplit : form.nodes = before ++ n :: after) (hafter : ∀ m ∈ after, m.name ≠ n.name) :
    form.initialValues.slot? n.name = some n.initialSlot := by
  show (form.nodes.foldl FlatNode.initialize ∅).slot? n.name = some n.initialSlot
  simp [hsplit, slot?_foldl_initialize hafter, FlatNode.initialize_eq_put]

/-- An entry that keeps its slot starts with its own value. -/
theorem get?_initialValues (hlint : form.lint = []) {e : Entry} (he : form.KeepsSlot e) :
    form.initialValues.get? e.path = some e.field.initialValue := by
  obtain ⟨before, n, after, hsplit, he, hafter⟩ := he
  have hslot := slot?_initialValues hsplit hafter
  cases n with
  | field f =>
    have he : e = ⟨e.stage, .root f.name, f⟩ := List.mem_singleton.1 he
    rw [he]
    show form.initialValues.get? (.root f.name) = some f.initialValue
    rw [ValueTree.get?_root, show form.initialValues.slot? f.name = _ from hslot]
    rfl
  | group g =>
    obtain ⟨f, hf, he⟩ := List.mem_map.1 he
    have hg : .group g ∈ form.nodes := hsplit ▸ List.mem_append_right before List.mem_cons_self
    have hgroup : form.initialValues.group? g.name = some g.initialMembers := by
      rw [ValueTree.group?, show form.initialValues.slot? g.name = _ from hslot]
      rfl
    rw [← he]
    show form.initialValues.get? (.grouped g.name f.name) = some f.initialValue
    rw [ValueTree.get?_grouped, hgroup, Option.bind_some]
    exact Group.getElem?_initialMembers hf (Lint.nodup_of_mem_nodes hlint hg)

/-- If all fields at the root and groups differ in their names, every entry keeps its slot. -/
theorem keepsSlot_of_nodup (h : (form.nodes.map FlatNode.name).Nodup) {e : Entry}
    (he : e ∈ form.entries) : form.KeepsSlot e := by
  obtain ⟨n, hn, he⟩ := mem_entries he
  obtain ⟨before, after, hsplit⟩ := List.append_of_mem hn
  rw [hsplit, List.map_append, List.map_cons] at h
  have hname : n.name ∉ after.map FlatNode.name :=
    (List.nodup_cons.1 (List.nodup_append.1 h).2.1).1
  exact ⟨before, n, after, hsplit, he, fun m hm heq ↦ hname (heq ▸ List.mem_map_of_mem hm)⟩

/-! ### Edits and further passes -/

/-- A pass leaves the values alone that are not computed. -/
theorem get?_derive (hnames : form.NamesApart) (hp : form.HasPath p)
    (hne : p ∉ (form.compile fs).calculations.map Calculation.path) (t : ValueTree) :
    ((form.compile fs).derive t).get? p = t.get? p := by
  obtain ⟨ws, hmap, heq⟩ :=
    Calculation.exists_applyAll_eq_writeAll fs t (form.compile fs).calculations
  rw [CompiledForm.derive_eq_applyAll, show (form.compile fs).functions = fs from rfl, heq]
  refine ValueTree.get?_writeAll_of_ne (fun w hw ↦ ?_) t
  obtain ⟨d, hd, hpath⟩ := Calculation.exists_mem_of_map_eq hmap hw
  have hd' : form.HasPath w.1 := hpath ▸ hasPath_of_mem_calculations hd
  exact ⟨hd'.compatible hp hnames, fun hwp ↦ hne (hwp ▸ hpath ▸ List.mem_map_of_mem hd)⟩

/-- A path that is not computed has no calculation. -/
theorem notMem_of_isComputed_eq_false (h : (form.compile fs).isComputed q = false) :
    q ∉ (form.compile fs).calculations.map Calculation.path := by
  intro hmem
  have hcomputed := CompiledForm.isComputed_iff.2 (List.mem_map.1 hmem)
  rw [h] at hcomputed
  cases hcomputed

/-- Another pass changes nothing. -/
theorem derive_derive (hnames : form.NamesApart) (hlate : (form.compile fs).lateReads = [])
    (ht : t.HoldsGroups form) :
    (form.compile fs).derive ((form.compile fs).derive t) = (form.compile fs).derive t :=
  Calculation.applyAll_applyAll hnames (fun _ hd ↦ hasPath_of_mem_calculations hd)
    (ordered_of_lateReads hnames hlate) ht

end Form

namespace Session

variable {fs : Registry} {form : Form} {s : Session} {p : FieldPath} {v : Value}

/-- An accepted edit is seen at its own path, and at no other path that is not computed. -/
theorem value?_changeAt (hnames : form.NamesApart)
    (h : (s.changeAt (form.compile fs) p v).1 = true) :
    (s.changeAt (form.compile fs) p v).2.value? p = some v ∧
      ∀ q, form.HasPath q → (form.compile fs).isComputed q = false → q ≠ p →
        (s.changeAt (form.compile fs) p v).2.value? q = s.value? q := by
  rcases hrefusal : (form.compile fs).refusal? p with _ | refusal
  swap
  · rw [changeAt_of_refusal hrefusal] at h
    cases h
  obtain ⟨hp, hne⟩ := Form.hasPath_of_accepted hrefusal
  rw [changeAt_of_accepted hrefusal]
  constructor
  · show ((form.compile fs).derive (s.values.write p v)).get? p = some v
    simp [Form.get?_derive hnames hp hne]
  · intro q hq hcomputed hqp
    show ((form.compile fs).derive (s.values.write p v)).get? q = s.values.get? q
    rw [Form.get?_derive hnames hq (Form.notMem_of_isComputed_eq_false hcomputed),
      ValueTree.get?_write_of_ne (hp.compatible hq hnames) (Ne.symm hqp)]

/-- Nothing is left to derive in a session. -/
theorem derive_values_run (hnames : form.NamesApart) (hlate : (form.compile fs).lateReads = [])
    (shared : SharedState) (rs : List Request) :
    (form.compile fs).derive
        ((start (form.compile fs)).run (form.compile fs) shared rs).2.1.values =
      ((start (form.compile fs)).run (form.compile fs) shared rs).2.1.values := by
  obtain ⟨hpaths, hvalues⟩ := (derivedFrom_start fs form).run hnames hlate shared rs
  rw [hvalues]
  exact Form.derive_derive hnames hlate
    ((Form.holdsGroups_initialValues hnames).writeAll hnames hpaths)

/-- What is certain of a form without findings and late reads. The entries that keep their slots
start with their own values. If no field at the root has the name of a group, then at any time an
accepted edit is seen at its own path and at no other path that is not computed, and nothing is left
to derive. -/
theorem slots_of_lint (fs : Registry) (form : Form) (hlint : form.lint = [])
    (hlate : (form.compile fs).lateReads = []) :
    (∀ e ∈ form.entries, form.KeepsSlot e →
        form.initialValues.get? e.path = some e.field.initialValue) ∧
      (form.NamesApart → ∀ (shared : SharedState) (rs : List Request),
        let c := form.compile fs
        let s := ((start c).run c shared rs).2.1
        (∀ p v, (s.changeAt c p v).1 = true →
          (s.changeAt c p v).2.value? p = some v ∧
            ∀ q, form.HasPath q → c.isComputed q = false → q ≠ p →
              (s.changeAt c p v).2.value? q = s.value? q) ∧
          c.derive s.values = s.values) := by
  constructor
  · intro e _ hkeeps
    exact Form.get?_initialValues hlint hkeeps
  · intro hnames shared rs c s
    refine ⟨fun p v h ↦ value?_changeAt hnames h, ?_⟩
    exact derive_values_run hnames hlate shared rs

/-- All fields of the form for a name have slots of their own, also after some requests. -/
theorem slots_of_lint_nameForm :
    nameForm.lint = [] ∧ (nameForm.compile .empty).lateReads = [] ∧ nameForm.NamesApart ∧
      (∀ e ∈ nameForm.entries, nameForm.KeepsSlot e ∧
        nameForm.initialValues.get? e.path = some e.field.initialValue) ∧
      ∃ s, s = ((start (nameForm.compile .empty)).run (nameForm.compile .empty) .empty
          nameRequests).2.1 ∧
        (s.changeAt (nameForm.compile .empty) (.grouped "name" "last") (.text "Lane")).1 = true ∧
        (s.changeAt (nameForm.compile .empty) (.grouped "name" "last") (.text "Lane")).2.value?
          (.grouped "name" "last") = some (.text "Lane") ∧
        (nameForm.compile .empty).derive s.values = s.values := by
  have hlint : nameForm.lint = [] := by
    decide +kernel
  have hnodup : (nameForm.nodes.map FlatNode.name).Nodup := by
    decide +kernel
  obtain ⟨hinitial, hsession⟩ := slots_of_lint .empty nameForm hlint Form.lateReads_nameForm
  obtain ⟨hedit, hderive⟩ := hsession namesApart_nameForm .empty nameRequests
  refine ⟨hlint, Form.lateReads_nameForm, namesApart_nameForm, fun e he ↦ ?_, _, rfl, ?_⟩
  · have hkeeps := Form.keepsSlot_of_nodup hnodup he
    exact ⟨hkeeps, hinitial e he hkeeps⟩
  · have haccepted : (Session.changeAt (nameForm.compile .empty)
        ((start (nameForm.compile .empty)).run (nameForm.compile .empty) .empty
          nameRequests).2.1 (.grouped "name" "last") (.text "Lane")).1 = true := by
      decide +kernel
    exact ⟨haccepted, (hedit _ _ haccepted).1, hderive⟩

/-- A group and a field at the root that have one name, in different stages. A field of the group is
computed from the field at the root. -/
def sharedNameForm : Form where
  name := "shared"
  description := none
  showStageNames := true
  stages := [⟨"first", none, [.group ⟨"g", none, false, false,
      [.plain "x" (some "values.g + '!'"), .plain "y" none]⟩]⟩,
    ⟨"second", none, [.field { Field.plain "g" none with defaultValue := some (.text "a") }]⟩]

/-- Two groups that have one name, in different stages. -/
def splitGroupForm : Form where
  name := "split"
  description := none
  showStageNames := true
  stages := [⟨"first", none, [.group ⟨"g", none, false, false,
      [{ Field.plain "x" none with defaultValue := some (.text "a") }]⟩]⟩,
    ⟨"second", none, [.group ⟨"g", none, false, false,
      [{ Field.plain "y" none with defaultValue := some (.text "b") }]⟩]⟩]

/-- There may be no findings and no late reads although names meet across stages. Then a field need
not start with its own value, even if only groups share a name; and if a field at the root has the
name of a group, an accepted edit can be lost, and another pass can change a value. -/
theorem lint_misses_other_stages :
    (splitGroupForm.lint = [] ∧ (splitGroupForm.compile .empty).lateReads = [] ∧
      ∃ e ∈ splitGroupForm.entries,
        splitGroupForm.initialValues.get? e.path ≠ some e.field.initialValue) ∧
    (sharedNameForm.lint = [] ∧ (sharedNameForm.compile .empty).lateReads = [] ∧
      ∃ s, s = start (sharedNameForm.compile .empty) ∧
        (s.changeAt (sharedNameForm.compile .empty) (.root "g") (.text "b")).1 = true ∧
        (s.changeAt (sharedNameForm.compile .empty) (.root "g") (.text "b")).2.value? (.root "g") ≠
          some (.text "b") ∧
        (sharedNameForm.compile .empty).derive s.values ≠ s.values) := by
  refine ⟨⟨by decide +kernel, by decide +kernel, ?_⟩, by decide +kernel, by decide +kernel,
    _, rfl, by decide +kernel, by decide +kernel, by decide +kernel⟩
  have hmem : (⟨0, .grouped "g" "x", { Field.plain "x" none with
      defaultValue := some (.text "a") }⟩ : Entry) ∈ splitGroupForm.entries := .head _
  exact ⟨_, hmem, by decide +kernel⟩

end Session

end FormWizard
