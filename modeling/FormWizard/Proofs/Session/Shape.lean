import FormWizard.Dependency
import FormWizard.Proofs.General
import FormWizard.Proofs.Session.Slots

/-!
# The shape of the values of a session

If the groups of a form differ in their names from each other and from the fields at the root, the
values of a session always have the shape of the form (`ValueTree.HasShape`): a slot under the name
of each field at the root and each group and under no other, and a value at the path of each field
and at no other. The initial values have it (`Form.hasShape_initialValues`), a write at a path of
the form keeps it (`ValueTree.HasShape.write`), and as that is all that ever happens to the values,
so do all requests (`Session.values_run_of_write`).

Dependencies between fields are looked up twice, in the form for its findings and in the values for
what is shown. Both go through the same paths in the same order (`FieldPath.candidates`), and differ
only in what they ask of a path: whether a field has it, or whether there is a value. Of values of
the shape of the form that is the same question, so a dependency has a value exactly if there is no
finding about it (`Session.hasShape_and_dependency?_run`).
-/

namespace FormWizard

/-! ### Groups and paths -/

/-- The group, if it is one. -/
def FlatNode.group? : FlatNode → Option Group
  | .field _ => none
  | .group g => some g

namespace Form

/-- The groups of a form, wherever they stand. -/
def groups (form : Form) : List Group := form.nodes.filterMap FlatNode.group?

variable {form : Form} {p : FieldPath} {g g' : Group} {a : String}

@[simp]
theorem mem_groups : g ∈ form.groups ↔ .group g ∈ form.nodes := by
  rw [groups, List.mem_filterMap]
  constructor
  · rintro ⟨n, hn, hgroup⟩
    cases n with
    | field f => cases hgroup
    | group g' =>
      cases hgroup
      exact hn
  · exact fun hg ↦ ⟨_, hg, rfl⟩

/-- A group is known by its name if no two groups share one. -/
theorem eq_of_name_eq (hgroups : (form.groups.map Group.name).Nodup) (hg : .group g ∈ form.nodes)
    (hg' : .group g' ∈ form.nodes) (h : g.name = g'.name) : g = g' :=
  List.inj_on_of_nodup_map hgroups (mem_groups.2 hg) (mem_groups.2 hg') h

/-- What a field or group contributes is among the entries of the form. -/
theorem exists_entries_subset {n : FlatNode} (hn : n ∈ form.nodes) :
    ∃ i, ∀ e ∈ n.entries i, e ∈ form.entries := by
  obtain ⟨s, hs, hn⟩ := List.mem_flatMap.1 hn
  obtain ⟨i, hi, hget⟩ := List.mem_iff_getElem.1 hs
  have hmem : (s, i) ∈ form.stages.zipIdx := by
    rw [List.mem_zipIdx_iff_getElem?, List.getElem?_eq_getElem hi, hget]
  exact ⟨i, fun e he ↦ List.mem_flatMap.2 ⟨_, hmem, List.mem_flatMap.2 ⟨n, hn, he⟩⟩⟩

theorem hasPath_root {f : Field} (hf : .field f ∈ form.nodes) : form.HasPath (.root f.name) := by
  obtain ⟨i, hi⟩ := exists_entries_subset hf
  exact ⟨_, hi _ List.mem_cons_self, rfl⟩

theorem hasPath_grouped {f : Field} (hg : .group g ∈ form.nodes) (hf : f ∈ g.fields) :
    form.HasPath (.grouped g.name f.name) := by
  obtain ⟨i, hi⟩ := exists_entries_subset hg
  exact ⟨_, hi _ (List.mem_map_of_mem hf), rfl⟩

/-- The first name of a path of the form is that of a field at the root or of a group. -/
theorem HasPath.exists_node (h : form.HasPath p) : ∃ n ∈ form.nodes, n.name = p.top := by
  obtain ⟨f, hf, rfl⟩ | ⟨g, f, hg, -, rfl⟩ := h.cases
  · exact ⟨_, hf, rfl⟩
  · exact ⟨_, hg, rfl⟩

end Form

/-! ### What writing keeps -/

/-- A pass does nothing but write at computed paths of the form. -/
theorem Form.exists_derive_eq_writeAll (fs : Registry) (form : Form) (t : ValueTree) :
    ∃ ws : List (FieldPath × Value),
      (∀ w ∈ ws, form.HasPath w.1 ∧ (form.compile fs).isComputed w.1) ∧
        (form.compile fs).derive t = t.writeAll ws := by
  obtain ⟨ws, hmap, heq⟩ :=
    Calculation.exists_applyAll_eq_writeAll fs t (form.compile fs).calculations
  refine ⟨ws, fun w hw ↦ ?_, heq⟩
  obtain ⟨d, hd, hpath⟩ := Calculation.exists_mem_of_map_eq hmap hw
  exact ⟨hpath ▸ hasPath_of_mem_calculations hd, CompiledForm.isComputed_iff.2 ⟨d, hd, hpath⟩⟩

section Kept

variable {form : Form} {P : ValueTree → Prop}
variable (hwrite : ∀ t p v, form.HasPath p → P t → P (t.write p v))
include hwrite

/-- What every write at a path of the form keeps, a pass over the computed fields keeps. -/
theorem Form.derive_of_write (fs : Registry) {t : ValueTree} (h : P t) :
    P ((form.compile fs).derive t) := by
  obtain ⟨ws, hws, heq⟩ := exists_derive_eq_writeAll fs form t
  rw [heq]
  clear heq
  induction ws generalizing t with
  | nil => exact h
  | cons w ws ih =>
    obtain ⟨⟨hw, -⟩, hws⟩ := List.forall_mem_cons.1 hws
    exact ih (hwrite t w.1 w.2 hw h) hws

/-- And so the requests of a session keep it. -/
theorem Session.values_run_of_write (fs : Registry) {s : Session} (h : P s.values)
    (shared : SharedState) (rs : List Request) :
    P (s.run (form.compile fs) shared rs).2.1.values := by
  induction rs generalizing s shared with
  | nil => exact h
  | cons r rs ih =>
    rw [run_cons]
    refine ih ?_ _
    obtain ⟨-, hvalues⟩ | ⟨p, v, -, hrefusal, hvalues⟩ :=
      values_perform (form.compile fs) s shared r
    · rwa [hvalues]
    · rw [hvalues]
      exact Form.derive_of_write hwrite fs
        (hwrite s.values p v (Form.hasPath_of_accepted hrefusal).1 h)

end Kept

/-! ### Values of the shape of a form -/

namespace ValueTree

/-- The values have the shape of the form. -/
structure HasShape (t : ValueTree) (form : Form) : Prop where
  /-- There is a slot under each name of a field at the root or group, and under no other. -/
  isSome_slot?_iff : ∀ name, (t.slot? name).isSome ↔ ∃ n ∈ form.nodes, n.name = name
  /-- There is a value at each path of a field, and at no other. -/
  isSome_get?_iff : ∀ p, (t.get? p).isSome ↔ form.HasPath p
  /-- Under the name of a group stands a group. -/
  holdsGroups : t.HoldsGroups form

variable {form : Form} {t : ValueTree} {p : FieldPath}

/-- A write at a path of the form keeps the shape. -/
theorem HasShape.write (h : t.HasShape form) (hnames : form.NamesApart) (hp : form.HasPath p)
    (v : Value) : (t.write p v).HasShape form where
  isSome_slot?_iff name := by
    rw [isSome_slot?_write, h.isSome_slot?_iff, or_iff_right_iff_imp]
    rintro rfl
    exact hp.exists_node
  isSome_get?_iff q := by
    by_cases hcompatible : p.Compatible q
    swap
    · -- the slot is used in the other way, which no path of the form does
      rw [get?_write_of_not_compatible hcompatible]
      exact ⟨nofun, fun hq ↦ absurd (hp.compatible hq hnames) hcompatible⟩
    by_cases hpq : p = q
    · subst hpq
      simp [hp]
    · simp [get?_write_of_ne hcompatible hpq, h.isSome_get?_iff]
  holdsGroups := h.holdsGroups.write hnames hp v

/-- A pass over the computed fields keeps the shape. -/
theorem HasShape.derive (h : t.HasShape form) (hnames : form.NamesApart) (fs : Registry) :
    ((form.compile fs).derive t).HasShape form :=
  Form.derive_of_write (P := (HasShape · form)) (fun _ _ v hp ht ↦ ht.write hnames hp v) fs h

end ValueTree

/-! ### Initial values -/

/-- The members that are put in are found, and those that were there. -/
theorem Group.isSome_getElem?_foldl_insert (fields : List Field) (members : Members)
    (name : String) :
    ((fields.foldl (fun members f ↦ members.insert f.name f.initialValue) members)[name]?).isSome ↔
      (∃ f ∈ fields, f.name = name) ∨ (members[name]?).isSome := by
  induction fields generalizing members with
  | nil => simp
  | cons f fields ih =>
    rw [List.foldl_cons, ih, Std.ExtTreeMap.getElem?_insert, List.exists_mem_cons_iff]
    by_cases hname : f.name = name
    · simp [hname]
    · simp [hname]

/-- A group starts with a member for each of its fields, and with no others. -/
theorem Group.isSome_getElem?_initialMembers (g : Group) (name : String) :
    (g.initialMembers[name]?).isSome ↔ ∃ f ∈ g.fields, f.name = name := by
  rw [initialMembers, isSome_getElem?_foldl_insert, Std.ExtTreeMap.getElem?_empty]
  exact or_iff_left Bool.false_ne_true

namespace Form

variable {form : Form}

/-- The last of the fields at the root and groups that have a name. -/
theorem exists_last_node {nodes : List FlatNode} {name : String}
    (h : ∃ n ∈ nodes, n.name = name) :
    ∃ before n after, nodes = before ++ n :: after ∧ n.name = name ∧
      ∀ m ∈ after, m.name ≠ n.name := by
  have hsome : (nodes.reverse.find? fun n ↦ n.name = name).isSome := by
    obtain ⟨n, hn, hname⟩ := h
    exact List.find?_isSome.2 ⟨n, List.mem_reverse.2 hn, decide_eq_true hname⟩
  obtain ⟨n, hfind⟩ := Option.isSome_iff_exists.1 hsome
  obtain ⟨hname, as, bs, hsplit, has⟩ := List.find?_eq_some_iff_append.1 hfind
  have hname : n.name = name := of_decide_eq_true hname
  refine ⟨bs.reverse, n, as.reverse, ?_, hname, fun m hm ↦ ?_⟩
  · rw [← List.reverse_reverse nodes, hsplit]
    simp
  · have hm := has m (List.mem_reverse.1 hm)
    rw [hname]
    simpa using hm

theorem isSome_slot?_foldl_initialize (nodes : List FlatNode) (t : ValueTree) (name : String) :
    ((nodes.foldl FlatNode.initialize t).slot? name).isSome ↔
      (∃ n ∈ nodes, n.name = name) ∨ (t.slot? name).isSome := by
  induction nodes generalizing t with
  | nil => simp
  | cons n nodes ih =>
    rw [List.foldl_cons, ih, FlatNode.initialize_eq_put]
    by_cases hname : n.name = name <;> simp [hname]

/-- The values start with a slot for each field and group, and with no others. -/
theorem isSome_slot?_initialValues (form : Form) (name : String) :
    (form.initialValues.slot? name).isSome ↔ ∃ n ∈ form.nodes, n.name = name := by
  have hslot := isSome_slot?_foldl_initialize form.nodes ∅ name
  have hempty : ((∅ : ValueTree).slot? name).isSome = false := by
    show ((∅ : Std.ExtTreeMap String Slot compare)[name]?).isSome = false
    rw [Std.ExtTreeMap.getElem?_empty]
    rfl
  rw [hempty, or_iff_left Bool.false_ne_true] at hslot
  exact hslot

/-- A slot starts with the values that its field or group has, and no path of the form leads
elsewhere. -/
theorem isSome_get?_initialValues (hgroups : (form.groups.map Group.name).Nodup)
    (hnames : form.NamesApart) (p : FieldPath) :
    (form.initialValues.get? p).isSome ↔ form.HasPath p := by
  by_cases hnode : ∃ n ∈ form.nodes, n.name = p.top
  swap
  · -- neither a field nor a group has the name that the path begins with
    have hslot : form.initialValues.slot? p.top = none := by
      rw [← Option.not_isSome_iff_eq_none, isSome_slot?_initialValues]
      exact hnode
    rw [ValueTree.get?, hslot]
    constructor
    · intro h
      obtain ⟨_ | g, n⟩ := p <;> cases h
    · exact fun hp ↦ absurd hp.exists_node hnode
  -- of several fields and groups of one name the last one is left
  obtain ⟨before, n, after, hsplit, hname, hafter⟩ := exists_last_node hnode
  have hn : n ∈ form.nodes := hsplit ▸ List.mem_append_right before List.mem_cons_self
  have hslot : form.initialValues.slot? n.name = some n.initialSlot :=
    slot?_initialValues hsplit hafter
  rw [hname] at hslot
  obtain ⟨_ | g, a⟩ := p
  · show (form.initialValues.get? (.root a)).isSome ↔ form.HasPath (.root a)
    replace hslot : form.initialValues.slot? a = some n.initialSlot := hslot
    replace hname : n.name = a := hname
    rw [ValueTree.get?_root, hslot]
    cases n with
    | field f => exact ⟨fun _ ↦ hname ▸ hasPath_root hn, fun _ ↦ rfl⟩
    | group g =>
      subst hname
      exact iff_of_false Bool.false_ne_true fun hp ↦ absurd rfl (hp.ne_root hnames hn)
  · show (form.initialValues.get? (.grouped g a)).isSome ↔ form.HasPath (.grouped g a)
    replace hslot : form.initialValues.slot? g = some n.initialSlot := hslot
    replace hname : n.name = g := hname
    rw [ValueTree.get?_grouped, ValueTree.group?, hslot]
    cases n with
    | field f =>
      refine iff_of_false Bool.false_ne_true fun hp ↦ ?_
      obtain ⟨f', -, heq⟩ | ⟨g', f', hg', -, heq⟩ := hp.cases
      · cases heq
      · cases heq
        exact absurd hname (hnames f g' hn hg')
    | group g' =>
      show (g'.initialMembers[a]?).isSome ↔ _
      rw [Group.isSome_getElem?_initialMembers]
      constructor
      · rintro ⟨f, hf, rfl⟩
        exact hname ▸ hasPath_grouped hn hf
      · -- the fields of the group are those of the only group of its name
        intro hp
        obtain ⟨f', -, heq⟩ | ⟨g'', f', hg'', hf', heq⟩ := hp.cases
        · cases heq
        · cases heq
          obtain rfl : g' = g'' := eq_of_name_eq hgroups hn hg'' hname
          exact ⟨f', hf', rfl⟩

/-- The values at the start have the shape of the form. -/
theorem hasShape_initialValues (hgroups : (form.groups.map Group.name).Nodup)
    (hnames : form.NamesApart) : form.initialValues.HasShape form where
  isSome_slot?_iff := isSome_slot?_initialValues form
  isSome_get?_iff := isSome_get?_initialValues hgroups hnames
  holdsGroups := holdsGroups_initialValues hnames

end Form

/-! ### Dependencies -/

/-- The paths that a dependency of a field, in a group or not, may name, in the order in which they
are looked up. -/
def FieldPath.candidates (group : Option String) (dependency : String) : List FieldPath :=
  match FieldPath.ofText dependency with
  | .error _ => []
  | .ok p =>
    match p.group, group with
    | none, some g => [.grouped g p.name, p]
    | _, _ => [p]

/-- The path of the field that a dependency names in the form. -/
def Form.dependencyPath? (form : Form) (group : Option String) (dependency : String) :
    Option FieldPath :=
  (FieldPath.candidates group dependency).find? fun p ↦ (form.field? p).isSome

/-- A dependency resolves if it has a path in the form. -/
theorem Lint.resolves_eq (form : Form) (group : Option String) (dependency : String) :
    Lint.resolves form group dependency = (form.dependencyPath? group dependency).isSome := by
  rw [resolves, Form.dependencyPath?, FieldPath.candidates]
  rcases FieldPath.ofText dependency with e | ⟨_ | g, n⟩
  · rfl
  · cases group with
    | none =>
      simp only [List.find?_cons, List.find?_nil]
      cases (form.field? ⟨none, n⟩).isSome <;> rfl
    | some g =>
      simp only [List.find?_cons, List.find?_nil]
      cases (form.field? (.grouped g n)).isSome <;>
        cases (form.field? ⟨none, n⟩).isSome <;> rfl
  · simp only [List.find?_cons, List.find?_nil]
    cases (form.field? ⟨some g, n⟩).isSome <;> rfl

/-- The value of a dependency is that of the first of its candidates that has one. -/
theorem ValueTree.dependency?_eq (values : ValueTree) (group : Option String)
    (dependency : String) :
    values.dependency? group dependency =
      (FieldPath.candidates group dependency).findSome? values.get? := by
  rw [dependency?, FieldPath.candidates]
  rcases FieldPath.ofText dependency with e | ⟨_ | g, n⟩
  · rfl
  · cases group with
    | none => simp
    | some g =>
      simp only [List.findSome?_cons, List.findSome?_nil]
      cases values.get? (.grouped g n) <;> cases values.get? ⟨none, n⟩ <;> rfl
  · cases group <;> simp

/-- Of values of the shape of the form a dependency finds the one at the path that it names in the
form. -/
theorem ValueTree.HasShape.dependency?_eq {t : ValueTree} {form : Form} (h : t.HasShape form)
    (group : Option String) (dependency : String) :
    t.dependency? group dependency = (form.dependencyPath? group dependency).bind t.get? := by
  have hsame : (fun p ↦ (t.get? p).isSome) = fun p ↦ (form.field? p).isSome := by
    funext p
    rw [Bool.eq_iff_iff, h.isSome_get?_iff, Form.isSome_field?_iff]
  rw [ValueTree.dependency?_eq, List.findSome?_eq_bind_find?, hsame]
  rfl

/-! ### Findings about dependencies -/

/-- Whether the finding is about a dependency that names no field. -/
def Finding.isUnresolved : Finding → Bool
  | .unresolvedDependency _ _ => true
  | _ => false

/-- The findings about the dependencies of an entry. -/
def Form.unresolved (form : Form) (e : Entry) : List Finding :=
  ((Lint.dependencies e.field).filter fun d ↦ !Lint.resolves form e.path.group d).map
    (.unresolvedDependency e.field.name)

namespace Lint

variable {form : Form}

@[simp]
theorem filter_unique (parent : String) (names : List String) :
    (unique parent names).filter Finding.isUnresolved = [] := by
  rw [unique, List.filter_eq_nil_iff]
  intro finding hfinding
  obtain ⟨name, -, rfl⟩ := List.mem_map.1 hfinding
  exact Bool.false_ne_true

@[simp]
theorem filter_dotted (name : String) : (dotted name).filter Finding.isUnresolved = [] := by
  rw [dotted]
  split <;> rfl

theorem filter_field (form : Form) (e : Entry) :
    (field form e.path.group e.field).filter Finding.isUnresolved = form.unresolved e := by
  have hall : (form.unresolved e).filter Finding.isUnresolved = form.unresolved e := by
    rw [List.filter_eq_self]
    intro finding hfinding
    obtain ⟨d, -, rfl⟩ := List.mem_map.1 hfinding
    rfl
  rw [field, List.filter_append, List.filter_append, filter_dotted, List.nil_append]
  split
  · exact hall
  · exact hall

mutual

/-- Of the findings about a part those about dependencies are left. -/
theorem filter_node (form : Form) (i : ℕ) : ∀ n : Node,
    (node form n).filter Finding.isUnresolved =
      n.flatten.flatMap fun m ↦ (m.entries i).flatMap form.unresolved
  | .field f => by
    rw [node, Node.flatten_field, List.flatMap_singleton, FlatNode.entries, List.flatMap_singleton]
    exact filter_field form ⟨i, .root f.name, f⟩
  | .group g => by
    rw [node, Node.flatten_group, List.flatMap_singleton, FlatNode.entries, List.flatMap_map,
      List.filter_append, List.filter_append, filter_dotted, filter_unique, List.filter_flatMap]
    exact List.flatMap_congr fun f _ ↦ filter_field form ⟨i, .grouped g.name f.name, f⟩
  | .block _ _ nodes => by
    simp [node, filter_nodeAll form i nodes]

theorem filter_nodeAll (form : Form) (i : ℕ) : ∀ ns : List Node,
    (nodeAll form ns).filter Finding.isUnresolved =
      (Node.flattenAll ns).flatMap fun m ↦ (m.entries i).flatMap form.unresolved
  | [] => by simp [nodeAll]
  | n :: ns => by
    simp [nodeAll, filter_node form i n, filter_nodeAll form i ns]

end

theorem filter_stage (form : Form) (i : ℕ) (s : Stage) :
    (stage form s).filter Finding.isUnresolved =
      s.flatten.flatMap fun m ↦ (m.entries i).flatMap form.unresolved := by
  simp [stage, filter_nodeAll form i, Stage.flatten]

/-- The findings about dependencies are those of the entries, in the order of the document. -/
theorem filter_lint (form : Form) :
    form.lint.filter Finding.isUnresolved = form.entries.flatMap form.unresolved := by
  have hstages : (form.stages.flatMap (stage form)).filter Finding.isUnresolved =
      form.entries.flatMap form.unresolved := by
    calc (form.stages.flatMap (stage form)).filter Finding.isUnresolved
        = (form.stages.zipIdx.flatMap fun si ↦ stage form si.1).filter Finding.isUnresolved := by
          conv_lhs => rw [← List.zipIdx_map_fst 0 form.stages, List.flatMap_map]
      _ = form.stages.zipIdx.flatMap fun si ↦
            si.1.flatten.flatMap fun m ↦ (m.entries si.2).flatMap form.unresolved := by
          rw [List.filter_flatMap]
          exact List.flatMap_congr fun si _ ↦ filter_stage form si.2 si.1
      _ = form.entries.flatMap form.unresolved := by
          rw [Form.entries, List.flatMap_assoc]
          exact List.flatMap_congr fun si _ ↦ List.flatMap_assoc.symm
  rw [Form.lint, List.filter_append, List.filter_append, filter_unique, hstages]
  split <;> rfl

/-- There is a finding about a dependency if and only if it names no field. -/
theorem unresolvedDependency_mem_iff {e : Entry} {d : String} (hd : d ∈ dependencies e.field) :
    .unresolvedDependency e.field.name d ∈ form.unresolved e ↔
      form.dependencyPath? e.path.group d = none := by
  have hresolves : (!resolves form e.path.group d) = true ↔
      form.dependencyPath? e.path.group d = none := by
    rw [resolves_eq, Bool.not_eq_true', Option.isSome_eq_false_iff, Option.isNone_iff_eq_none]
  rw [Form.unresolved, List.mem_map, ← hresolves]
  constructor
  · rintro ⟨d', hd', heq⟩
    obtain rfl : d' = d := (Finding.unresolvedDependency.inj heq).2
    exact (List.mem_filter.1 hd').2
  · exact fun h ↦ ⟨d, List.mem_filter.2 ⟨hd, h⟩, rfl⟩

end Lint

namespace Session

variable {fs : Registry} {form : Form}

/-- The values of a session have the shape of the form at any time. -/
theorem hasShape_run (hnames : form.NamesApart) {s : Session} (h : s.values.HasShape form)
    (shared : SharedState) (rs : List Request) :
    (s.run (form.compile fs) shared rs).2.1.values.HasShape form :=
  values_run_of_write (P := (ValueTree.HasShape · form)) (fun _ _ v hp ht ↦ ht.write hnames hp v)
    fs h shared rs

/-- If the groups of a form differ in their names from each other and from the fields at the root,
its findings about dependencies are those of its entries, and at any time the values of a session
have its shape. A dependency without a finding then has a value, that of the field that the form has
for it, and a dependency with a finding has none. -/
theorem hasShape_and_dependency?_run (fs : Registry) (form : Form)
    (hgroups : (form.groups.map Group.name).Nodup) (hnames : form.NamesApart) :
    form.lint.filter Finding.isUnresolved = form.entries.flatMap form.unresolved ∧
      ∀ (shared : SharedState) (rs : List Request),
        let values := ((start (form.compile fs)).run (form.compile fs) shared rs).2.1.values
        values.HasShape form ∧ ∀ e ∈ form.entries, ∀ d ∈ Lint.dependencies e.field,
          (.unresolvedDependency e.field.name d ∉ form.unresolved e →
            ∃ p f v, form.dependencyPath? e.path.group d = some p ∧ form.field? p = some f ∧
              values.get? p = some v ∧ values.dependency? e.path.group d = some v) ∧
          (.unresolvedDependency e.field.name d ∈ form.unresolved e →
            values.dependency? e.path.group d = none) := by
  refine ⟨Lint.filter_lint form, fun shared rs ↦ ?_⟩
  have hstart : (start (form.compile fs)).values.HasShape form :=
    (Form.hasShape_initialValues hgroups hnames).derive hnames fs
  have hshape : ((start (form.compile fs)).run (form.compile fs) shared rs).2.1.values.HasShape
      form := hasShape_run hnames hstart shared rs
  refine ⟨hshape, fun e _ d hd ↦ ?_⟩
  rw [Lint.unresolvedDependency_mem_iff hd, hshape.dependency?_eq]
  constructor
  · intro hnone
    obtain ⟨p, hp⟩ := Option.ne_none_iff_exists'.1 hnone
    have hfield : (form.field? p).isSome := by
      have hfound := List.find?_some hp
      exact hfound
    obtain ⟨f, hf⟩ := Option.isSome_iff_exists.1 hfield
    obtain ⟨v, hv⟩ := Option.isSome_iff_exists.1
      ((hshape.isSome_get?_iff p).2 (Form.isSome_field?_iff.1 hfield))
    exact ⟨p, f, v, hp, hf, hv, by rw [hp, Option.bind_some, hv]⟩
  · intro hnone
    rw [hnone, Option.bind_none]

/-- A form for a parcel. The cities on offer depend on the country, by its name within the group; a
note depends on the city, once by its path and once by a name that only the group knows. -/
def parcelForm : Form where
  name := "parcel"
  description := none
  showStageNames := true
  stages := [⟨"parcel", none,
    [.block "address" none [.group ⟨"address", none, false, false,
        [.plain "country" none,
          { Field.plain "city" none with optionsDependentOn := some "country" }]⟩],
      .field { Field.plain "note" none with disabledDependencies := ["address.city", "city"] }]⟩]

theorem namesApart_parcelForm : parcelForm.NamesApart := by
  decide +kernel

/-- With a country entered, the form for a parcel keeps its shape, the dependency within the group
finds this country, and the one for which there is a finding finds nothing. -/
theorem hasShape_and_dependency?_run_parcelForm :
    (parcelForm.groups.map Group.name).Nodup ∧ parcelForm.NamesApart ∧
      parcelForm.lint.filter Finding.isUnresolved = [.unresolvedDependency "note" "city"] ∧
      ∃ values, values = ((start (parcelForm.compile .empty)).run (parcelForm.compile .empty) .empty
          [.change "address.country" (.text "Austria"), .next]).2.1.values ∧
        values.HasShape parcelForm ∧
        values.get? (.grouped "address" "country") = some (.text "Austria") ∧
        values.dependency? (some "address") "country" = some (.text "Austria") ∧
        values.dependency? none "city" = none := by
  have hgroups : (parcelForm.groups.map Group.name).Nodup := by decide
  obtain ⟨hlint, hrun⟩ :=
    hasShape_and_dependency?_run .empty parcelForm hgroups namesApart_parcelForm
  have hfindings : parcelForm.entries.flatMap parcelForm.unresolved =
      [.unresolvedDependency "note" "city"] := by
    decide +kernel
  obtain ⟨hshape, hdependency⟩ := hrun .empty
    [.change "address.country" (.text "Austria"), .next]
  have hcountry : ((start (parcelForm.compile .empty)).run (parcelForm.compile .empty) .empty
      [.change "address.country" (.text "Austria"), .next]).2.1.values.get?
        (.grouped "address" "country") = some (.text "Austria") := by
    decide +kernel
  have hentries : parcelForm.entries =
      [⟨0, .grouped "address" "country", .plain "country" none⟩,
        ⟨0, .grouped "address" "city",
          { Field.plain "city" none with optionsDependentOn := some "country" }⟩,
        ⟨0, .root "note",
          { Field.plain "note" none with disabledDependencies := ["address.city", "city"] }⟩] := rfl
  rw [hentries] at hdependency
  refine ⟨hgroups, namesApart_parcelForm, hlint.trans hfindings, _, rfl, hshape, hcountry, ?_, ?_⟩
  · have hcity := hdependency _ (List.mem_cons_of_mem _ List.mem_cons_self) "country"
      List.mem_cons_self
    obtain ⟨p, f, v, hpath, -, hget, hfound⟩ := hcity.1 (by decide +kernel)
    have hp : parcelForm.dependencyPath? (some "address") "country" =
        some (.grouped "address" "country") := by
      decide +kernel
    obtain rfl : FieldPath.grouped "address" "country" = p := Option.some.inj (hp.symm.trans hpath)
    exact hfound.trans (hget.symm.trans hcountry)
  · have hnote := hdependency _
      (List.mem_cons_of_mem _ (List.mem_cons_of_mem _ List.mem_cons_self)) "city"
      (List.mem_cons_of_mem _ List.mem_cons_self)
    exact hnote.2 (by decide +kernel)

end Session

end FormWizard
