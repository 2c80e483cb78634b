import FormWizard.Derivation
import FormWizard.Proofs.Tree.Write

/-!
# The paths of a form

`Form.HasPath` says that a field of the form has a path. If no field at the root has the name of a
group (`Form.NamesApart`), any two paths of a form are compatible
(`Form.HasPath.compatible`), so that writes at them behave like updates of a function.

`ValueTree.HoldsGroups` says that a tree has a group under the name of each group of a form. The
initial values do (`Form.holdsGroups_initialValues`), and writing at a path of the form keeps it
(`ValueTree.HoldsGroups.write`).
-/

namespace FormWizard

/-! ### Parts without their blocks -/

namespace Node

@[simp]
theorem flatten_field (f : Field) : (field f).flatten = [.field f] := by
  rw [flatten]

@[simp]
theorem flatten_group (g : Group) : (group g).flatten = [.group g] := by
  rw [flatten]

/-- A block holds what the parts in it hold. -/
@[simp]
theorem flatten_block (name : String) (label : Option String) (ns : List Node) :
    (block name label ns).flatten = flattenAll ns := by
  rw [flatten]

@[simp]
theorem flattenAll_nil : flattenAll [] = [] := by
  rw [flattenAll]

@[simp]
theorem flattenAll_cons (n : Node) (ns : List Node) :
    flattenAll (n :: ns) = n.flatten ++ flattenAll ns := by
  rw [flattenAll]

@[simp]
theorem flattenAll_append (ns ns' : List Node) :
    flattenAll (ns ++ ns') = flattenAll ns ++ flattenAll ns' := by
  induction ns with
  | nil => simp
  | cons n ns ih => simp [ih]

end Node

/-! ### Fields, groups and entries -/

/-- An entry knows its stage and the name of its field. -/
theorem FlatNode.of_mem_entries {n : FlatNode} {index : ℕ} {e : Entry} (h : e ∈ n.entries index) :
    e.stage = index ∧ e.path.name = e.field.name := by
  cases n with
  | field f =>
    rw [entries, List.mem_singleton] at h
    rw [h]
    exact ⟨rfl, rfl⟩
  | group g =>
    obtain ⟨f, -, rfl⟩ := List.mem_map.1 h
    exact ⟨rfl, rfl⟩

/-- Computed are the paths of the calculations. -/
theorem CompiledForm.isComputed_iff {c : CompiledForm} {p : FieldPath} :
    c.isComputed p ↔ ∃ d ∈ c.calculations, d.path = p := by
  simp only [isComputed, List.any_eq_true, decide_eq_true_eq]

/-- Whether the first is no field with the name of the second, if that is a group. -/
def FlatNode.isApartFrom : FlatNode → FlatNode → Bool
  | .field f, .group g => f.name ≠ g.name
  | _, _ => true

namespace Form

/-- The fields and groups of a form, wherever they stand. -/
def nodes (form : Form) : List FlatNode := form.stages.flatMap Stage.flatten

/-- No field at the root has the name of a group. -/
def NamesApart (form : Form) : Prop :=
  ∀ f g, .field f ∈ form.nodes → .group g ∈ form.nodes → f.name ≠ g.name

/-- Fields and groups have names apart if any two of them do. -/
theorem namesApart_iff {form : Form} :
    form.NamesApart ↔ ∀ m ∈ form.nodes, ∀ n ∈ form.nodes, m.isApartFrom n := by
  constructor
  · intro h m hm n hn
    cases m with
    | field f =>
      cases n with
      | field f' => rfl
      | group g => exact decide_eq_true (h f g hm hn)
    | group g => rfl
  · exact fun h f g hf hg ↦ of_decide_eq_true (h _ hf _ hg)

instance (form : Form) : Decidable form.NamesApart := decidable_of_iff _ namesApart_iff.symm

/-- Some field of the form has the path. -/
def HasPath (form : Form) (p : FieldPath) : Prop := ∃ e ∈ form.entries, e.path = p

variable {form : Form} {p q : FieldPath}

/-- A field is found at the paths that a field has. -/
theorem isSome_field?_iff : (form.field? p).isSome ↔ form.HasPath p := by
  rw [field?, Option.isSome_map, List.find?_isSome]
  simp only [decide_eq_true_eq]
  rfl

/-- An entry of a form is one of its fields and groups. -/
theorem mem_entries {e : Entry} (h : e ∈ form.entries) :
    ∃ n ∈ form.nodes, e ∈ n.entries e.stage := by
  rw [entries, List.mem_flatMap] at h
  obtain ⟨⟨s, i⟩, hs, h⟩ := h
  obtain ⟨n, hn, he⟩ := List.mem_flatMap.1 h
  refine ⟨n, List.mem_flatMap.2 ⟨s, List.fst_mem_of_mem_zipIdx hs, hn⟩, ?_⟩
  rwa [(FlatNode.of_mem_entries he).1]

/-- A path of a form is that of a field at the root or of a field in a group. -/
theorem HasPath.cases (h : form.HasPath p) :
    (∃ f, .field f ∈ form.nodes ∧ p = .root f.name) ∨
      ∃ g f, .group g ∈ form.nodes ∧ f ∈ g.fields ∧ p = .grouped g.name f.name := by
  obtain ⟨e, he, rfl⟩ := h
  obtain ⟨n, hn, he⟩ := mem_entries he
  cases n with
  | field f =>
    rw [FlatNode.entries, List.mem_singleton] at he
    exact .inl ⟨f, hn, congrArg Entry.path he⟩
  | group g =>
    obtain ⟨f, hf, he⟩ := List.mem_map.1 he
    exact .inr ⟨g, f, hn, hf, congrArg Entry.path he.symm⟩

/-- No path of a form is a field at the root under the name of a group. -/
theorem HasPath.ne_root (h : form.HasPath p) (hnames : form.NamesApart) {g : Group}
    (hg : .group g ∈ form.nodes) : p ≠ .root g.name := by
  obtain ⟨f, hf, rfl⟩ | ⟨g', f, -, -, rfl⟩ := h.cases
  · exact fun heq ↦ hnames f g hf hg (congrArg FieldPath.name heq)
  · exact fun heq ↦ Option.noConfusion rfl (heq_of_eq (congrArg FieldPath.group heq))

/-- Two paths of a form use no name in two ways. -/
theorem HasPath.compatible (hp : form.HasPath p) (hq : form.HasPath q) (hnames : form.NamesApart) :
    p.Compatible q := by
  obtain ⟨f, hf, rfl⟩ | ⟨g, f, hg, -, rfl⟩ := hp.cases <;>
    obtain ⟨f', hf', rfl⟩ | ⟨g', f', hg', -, rfl⟩ := hq.cases
  · exact fun _ ↦ rfl
  · exact fun htop ↦ absurd htop (hnames f g' hf hg')
  · exact fun htop ↦ absurd htop.symm (hnames f' g hf' hg)
  · exact fun htop ↦ congrArg some htop

end Form

namespace ValueTree

/-- The tree has a group under the name of each group of the form. -/
def HoldsGroups (t : ValueTree) (form : Form) : Prop :=
  ∀ g, .group g ∈ form.nodes → (t.group? g.name).isSome

variable {form : Form} {t : ValueTree} {p : FieldPath}

/-- A write at a path of the form keeps its groups. -/
theorem HoldsGroups.write (h : t.HoldsGroups form) (hnames : form.NamesApart)
    (hp : form.HasPath p) (v : Value) : (t.write p v).HoldsGroups form := fun g hg ↦
  isSome_group?_write (h g hg) (hp.ne_root hnames hg) v

/-- Writes at paths of the form keep its groups. -/
theorem HoldsGroups.writeAll (h : t.HoldsGroups form) (hnames : form.NamesApart)
    {ws : List (FieldPath × Value)} (hws : ∀ w ∈ ws, form.HasPath w.1) :
    (t.writeAll ws).HoldsGroups form := by
  induction ws generalizing t with
  | nil => exact h
  | cons w ws ih =>
    obtain ⟨hw, hws⟩ := List.forall_mem_cons.1 hws
    exact ih (h.write hnames hw w.2) hws

/-- The group of a path of the form is there. -/
theorem HoldsGroups.isSome_group? (h : t.HoldsGroups form) {g a : String}
    (hp : form.HasPath (.grouped g a)) : (t.group? g).isSome := by
  obtain ⟨f, -, heq⟩ | ⟨g', f, hg', -, heq⟩ := hp.cases
  · cases heq
  · cases heq
    exact h g' hg'

end ValueTree

/-- What a field or group puts under its name at the start. -/
def FlatNode.initialSlot : FlatNode → Slot
  | .field f => .value f.initialValue
  | .group g => .group g.initialMembers

/-- A field or group is put in place by putting its slot under its name. -/
theorem FlatNode.initialize_eq_put (t : ValueTree) (n : FlatNode) :
    n.initialize t = t.put n.name n.initialSlot := by
  cases n with
  | field f => exact ValueTree.write_root t f.name f.initialValue
  | group g => rfl

namespace Form

/-- A group is there after all fields and groups were put in place if it was there before or is one
of them, unless a field at the root has its name. -/
theorem isSome_group?_initialize {g : String} {nodes : List FlatNode}
    (hfields : ∀ f, .field f ∈ nodes → f.name ≠ g) {t : ValueTree}
    (h : (t.group? g).isSome ∨ ∃ g', .group g' ∈ nodes ∧ g'.name = g) :
    ((nodes.foldl FlatNode.initialize t).group? g).isSome := by
  induction nodes generalizing t with
  | nil => exact h.resolve_right fun ⟨_, hg', _⟩ ↦ List.not_mem_nil hg'
  | cons n nodes ih =>
    rw [List.foldl_cons]
    refine ih (fun f hf ↦ hfields f (List.mem_cons_of_mem _ hf)) ?_
    cases n with
    | field f =>
      -- the value of a field is put at the root, where it would replace a group of its name
      have hne : FieldPath.root f.name ≠ .root g := fun heq ↦
        hfields f List.mem_cons_self (congrArg FieldPath.name heq)
      exact h.imp (fun h ↦ ValueTree.isSome_group?_write h hne _) fun ⟨g', hg', hname⟩ ↦
        ⟨g', (List.mem_cons.1 hg').resolve_left FlatNode.noConfusion, hname⟩
    | group g' =>
      rw [FlatNode.initialize_eq_put]
      show ((t.put g'.name (.group g'.initialMembers)).group? g).isSome ∨ _
      by_cases hname : g'.name = g
      · subst hname
        exact .inl (by simp)
      · rw [ValueTree.group?_put_of_ne hname]
        refine h.imp_right fun ⟨g'', hg'', hname'⟩ ↦ ⟨g'', ?_, hname'⟩
        refine (List.mem_cons.1 hg'').resolve_left fun heq ↦ ?_
        cases heq
        exact hname hname'

/-- The initial values have all groups of the form. -/
theorem holdsGroups_initialValues {form : Form} (hnames : form.NamesApart) :
    form.initialValues.HoldsGroups form := fun g hg ↦
  isSome_group?_initialize (fun f hf ↦ hnames f g hf hg) (.inr ⟨g, hg, rfl⟩)

end Form

/-! ### A form to try things on -/

/-- A field with a name and possibly a formula. -/
def Field.plain (name : String) (valueCalculation : Option String) : Field where
  name := name
  inputType := .text
  label := none
  hiddenLabel := false
  placeholder := none
  defaultValue := none
  minLength := none
  maxLength := none
  min := none
  max := none
  step := none
  options := none
  optionsDependentOn := none
  valueCalculation := valueCalculation
  isMultiSelect := false
  required := false
  validations := []
  disabledDependencies := []
  isHidden := false
  isReadOnly := false
  leftIcon := none
  rightIcon := none

/-- A form for a name in two parts, from which two more fields are derived, one after the other. -/
def nameForm : Form where
  name := "name"
  description := none
  showStageNames := true
  stages := [⟨"person", none,
    [.group ⟨"name", none, false, false, [.plain "first" none, .plain "last" none]⟩,
      .field (.plain "full" (some "values.name.first + ' ' + values.name.last")),
      .field (.plain "greeting" (some "'Hello ' + values.full"))]⟩]

theorem namesApart_nameForm : nameForm.NamesApart := by
  decide +kernel

end FormWizard
