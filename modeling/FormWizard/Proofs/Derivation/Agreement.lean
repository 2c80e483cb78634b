import FormWizard.Proofs.Derivation.Pass

/-!
# How far a difference spreads

Two trees that differ at some paths only (`ValueTree.AgreeOutside`) look the same to every variable
that reads none of these paths (`Scope.resolve_eq`). What a variable reads is known from its first
two members and from the names of the groups (`Variable.ReadsPath`); that nothing else is looked at
rests on no field at the root having the name of a group.

Derived from two such trees, values differ at most at the same paths if these are closed, that is,
if a calculation that reads one of them writes one (`Calculation.applyAll_agreeOutside`). Neither
the order of the calculations nor late reads matter, since the two passes go side by side. The least
closed set with a given path is `Calculation.Affected`.
-/

namespace FormWizard

/-! ### The paths that are read -/

/-- The name is that of a group. -/
def Form.IsGroupName (form : Form) (name : String) : Prop :=
  ∃ g, .group g ∈ form.nodes ∧ g.name = name

/-- A path into a group begins with the name of a group. -/
theorem Form.HasPath.isGroupName {form : Form} {g a : String}
    (h : form.HasPath (.grouped g a)) : form.IsGroupName g := by
  obtain ⟨f, -, heq⟩ | ⟨g', f, hg', -, heq⟩ := h.cases
  · cases heq
  · cases heq
    exact ⟨g', hg', rfl⟩

theorem Form.HasPath.not_isGroupName {form : Form} {a : String} (h : form.HasPath (.root a))
    (hnames : form.NamesApart) : ¬ form.IsGroupName a := by
  rintro ⟨g, hg, rfl⟩
  exact h.ne_root hnames hg rfl

instance (form : Form) (name : String) : Decidable (form.IsGroupName name) :=
  decidable_of_iff (∃ n ∈ form.nodes, n matches .group _ ∧ n.name = name) <| by
    constructor
    · rintro ⟨f | g, hn, hgroup, hname⟩
      · cases hgroup
      · exact ⟨g, hn, hname⟩
    · rintro ⟨g, hg, hname⟩
      exact ⟨.group g, hg, rfl, hname⟩

/-- The variable reads the value at the path, or follows members from it. -/
inductive Variable.ReadsPath (form : Form) : Variable → FieldPath → Prop where
  /-- The first member is the name of a group, and the second that of a field in it. -/
  | grouped {g a : String} {rest : List String} (hg : form.IsGroupName g) :
    ReadsPath form ⟨"values", g :: a :: rest⟩ (.grouped g a)
  /-- The first member is the name of a field at the root. -/
  | root {a : String} {rest : List String} (ha : ¬ form.IsGroupName a) :
    ReadsPath form ⟨"values", a :: rest⟩ (.root a)

/-- The path of the value that members of `values` lead to, if they lead to one. -/
def Form.pathTo? (form : Form) : List String → Option FieldPath
  | [] => none
  | name :: rest =>
    if form.IsGroupName name then rest.head?.map (.grouped name) else some (.root name)

/-- A variable reads a path if its members lead there from the values. -/
theorem Variable.readsPath_iff {form : Form} {v : Variable} {p : FieldPath} :
    v.ReadsPath form p ↔ v.root = "values" ∧ form.pathTo? v.members = some p := by
  constructor
  · rintro (hg | ha)
    · exact ⟨rfl, if_pos hg⟩
    · exact ⟨rfl, if_neg ha⟩
  · obtain ⟨root, _ | ⟨name, rest⟩⟩ := v
    · nofun
    rintro ⟨rfl, h⟩
    by_cases hname : form.IsGroupName name
    · obtain ⟨a, hrest, rfl⟩ := Option.map_eq_some_iff.1 ((if_pos hname).symm.trans h)
      obtain ⟨rest, rfl⟩ := List.head?_eq_some_iff.1 hrest
      exact .grouped hname
    · obtain rfl := Option.some.inj ((if_neg hname).symm.trans h)
      exact .root hname

instance (form : Form) (v : Variable) (p : FieldPath) : Decidable (v.ReadsPath form p) :=
  decidable_of_iff _ Variable.readsPath_iff.symm

/-- The program of the calculation reads the value at the path. -/
def Calculation.ReadsPath (form : Form) (c : Calculation) (p : FieldPath) : Prop :=
  ∃ program, c.formula.program = .ok program ∧ ∃ v ∈ program.reads, v.ReadsPath form p

/-- That a formula has a program with a property is decidable if the property is. -/
instance Formula.decidableExistsProgram (formula : Formula) (P : Expr → Prop) [DecidablePred P] :
    Decidable (∃ program, formula.program = .ok program ∧ P program) :=
  match h : formula.program with
  | .error _ => isFalse nofun
  | .ok program => decidable_of_iff (P program)
    ⟨fun hP ↦ ⟨program, rfl, hP⟩, by
      rintro ⟨program', ⟨⟩, hP⟩
      exact hP⟩

instance (form : Form) (c : Calculation) (p : FieldPath) : Decidable (c.ReadsPath form p) :=
  inferInstanceAs (Decidable (∃ program, c.formula.program = .ok program ∧ _))

/-- The path itself, and with any path those of the calculations that read it. -/
inductive Calculation.Affected (form : Form) (cs : List Calculation) (p : FieldPath) :
    FieldPath → Prop where
  /-- The path itself. -/
  | self : Affected form cs p p
  /-- The path of a calculation that reads one of the paths. -/
  | derived {d : Calculation} {q : FieldPath} (hd : d ∈ cs) (hread : d.ReadsPath form q)
      (hq : Affected form cs p q) : Affected form cs p d.path

/-! ### Trees that agree -/

namespace ValueTree

/-- The trees have groups under the same names, and differ in values at some of the paths only. -/
structure AgreeOutside (D : FieldPath → Prop) (t u : ValueTree) : Prop where
  isSome_group?_iff : ∀ name, (t.group? name).isSome ↔ (u.group? name).isSome
  get?_eq : ∀ q, ¬ D q → t.get? q = u.get? q

/-- A write leaves a group where its path leads into one, and a value elsewhere. -/
theorem isSome_group?_write_top (t : ValueTree) (p : FieldPath) (v : Value) :
    ((t.write p v).group? p.top).isSome ↔ p.group.isSome := by
  obtain ⟨_ | g, a⟩ := p
  · show ((t.put a (.value v)).group? a).isSome ↔ _
    simp [group?]
  · show ((t.write (.grouped g a) v).group? g).isSome ↔ _
    rw [group?_write_grouped]
    rfl

namespace AgreeOutside

variable {D : FieldPath → Prop} {t u : ValueTree} {p : FieldPath} {v w : Value}

theorem refl (D : FieldPath → Prop) (t : ValueTree) : t.AgreeOutside D t :=
  ⟨fun _ ↦ Iff.rfl, fun _ _ ↦ rfl⟩

/-- Writes at one path keep the agreement if they write the same or the path is one of those where
the trees may differ. -/
theorem write (h : t.AgreeOutside D u) (hp : ¬ D p → v = w) :
    (t.write p v).AgreeOutside D (u.write p w) where
  isSome_group?_iff name := by
    by_cases htop : p.top = name
    · subst htop
      exact (isSome_group?_write_top t p v).trans (isSome_group?_write_top u p w).symm
    · rw [group?_write_of_ne htop, group?_write_of_ne htop]
      exact h.isSome_group?_iff name
  get?_eq q hq := by
    by_cases hcompatible : p.Compatible q
    swap
    · simp [get?_write_of_not_compatible hcompatible]
    by_cases hpq : p = q
    · subst hpq
      simp [hp hq]
    · simp [get?_write_of_ne hcompatible hpq, h.get?_eq q hq]

end AgreeOutside

end ValueTree

/-! ### What is read agrees -/

namespace Scope

variable {D : FieldPath → Prop} {form : Form} {t u : ValueTree} {name : String}

/-- Where no group stands a value is read, if there is one. -/
theorem followTree_of_group?_eq_none (h : t.group? name = none) (path : String)
    (rest : List String) :
    followTree t path (name :: rest) =
      followScalar ((t.get? (.root name)).getD .null) (path ++ "." ++ name) rest := by
  rw [followTree, ValueTree.get?_root]
  rcases hslot : t.slot? name with _ | v | members
  · rfl
  · rfl
  · rw [ValueTree.group?, hslot] at h
    cases h

/-- Groups that agree in a member look the same to what starts with this member. -/
theorem followGroup_congr {members members' : Option Members} {rest : List String}
    (h : ∀ a rest', rest = a :: rest' → members.bind (·[a]?) = members'.bind (·[a]?))
    (path : String) : followGroup members path rest = followGroup members' path rest := by
  rcases rest with _ | ⟨a, rest⟩
  · rfl
  · rw [followGroup, followGroup, h a rest rfl]

/-- Trees that agree where a variable leads give it the same value. -/
theorem followTree_eq (h : t.AgreeOutside D u) (path : String) {rest : List String}
    (hroot : ¬ D (.root name)) (hgrouped : ∀ a rest', rest = a :: rest' → ¬ D (.grouped name a)) :
    followTree t path (name :: rest) = followTree u path (name :: rest) := by
  have hsome := h.isSome_group?_iff name
  rcases ht : t.group? name with _ | members <;> rcases hu : u.group? name with _ | members'
  · rw [followTree_of_group?_eq_none ht, followTree_of_group?_eq_none hu, h.get?_eq _ hroot]
  · rw [ht, hu] at hsome
    cases hsome.2 rfl
  · rw [ht, hu] at hsome
    cases hsome.1 rfl
  · rw [followTree_group ht, followTree_group hu]
    refine followGroup_congr (fun a rest' hrest ↦ ?_) _
    rw [← ht, ← hu, ← ValueTree.get?_grouped, ← ValueTree.get?_grouped,
      h.get?_eq _ (hgrouped a rest' hrest)]

section

variable (h : t.AgreeOutside D u) (hnames : form.NamesApart) (hpaths : ∀ q, D q → form.HasPath q)
include h hnames hpaths

/-- Members that lead to none of the paths where trees of a form differ lead to the same in both. -/
theorem followTree_members_eq (path : String) {members : List String}
    (hmembers : ∀ q, Variable.ReadsPath form ⟨"values", members⟩ q → ¬ D q) :
    followTree t path members = followTree u path members := by
  rcases members with _ | ⟨name, rest⟩
  · rfl
  -- of the two ways to use the name only one is that of the form, and the variable goes by it
  refine followTree_eq h _ ?_ fun a rest' hrest ↦ ?_
  · by_cases hname : form.IsGroupName name
    · exact fun hD ↦ (hpaths _ hD).not_isGroupName hnames hname
    · exact hmembers _ (.root hname)
  · subst hrest
    by_cases hname : form.IsGroupName name
    · exact hmembers _ (.grouped hname)
    · exact fun hD ↦ hname (hpaths _ hD).isGroupName

/-- A variable that reads none of the paths where trees of a form differ reads the same in both. -/
theorem resolve_eq {v : Variable} (hv : ∀ q, v.ReadsPath form q → ¬ D q) :
    (computed t).resolve v = (computed u).resolve v := by
  obtain ⟨root, members⟩ := v
  rw [resolve_computed, resolve_computed]
  refine ite_congr rfl (fun hroot ↦ ?_) fun _ ↦ rfl
  replace hroot : root = "values" := hroot
  subst hroot
  exact followTree_members_eq h hnames hpaths _ hv

end

end Scope

/-! ### What is derived agrees -/

namespace Calculation

variable {D : FieldPath → Prop} {form : Form} {fs : Registry} {t u : ValueTree}
variable {c d : Calculation} {cs ds : List Calculation}

/-- The calculations have the same path, and if it is none of those where trees may differ, also the
same program, which reads none of these. -/
structure MatchOutside (form : Form) (D : FieldPath → Prop) (c d : Calculation) : Prop where
  path_eq : c.path = d.path
  program_eq : ¬ D c.path → c.formula.program = d.formula.program
  not_of_readsPath : ¬ D c.path → ∀ q, c.ReadsPath form q → ¬ D q

section

variable (hnames : form.NamesApart) (hpaths : ∀ q, D q → form.HasPath q)
include hnames hpaths

/-- Calculations that match have the same value in trees that agree on what they read. -/
theorem MatchOutside.value_eq (h : c.MatchOutside form D d) (htu : t.AgreeOutside D u)
    (hc : ¬ D c.path) : c.value fs t = d.value fs u := by
  rw [value, value, ← h.program_eq hc]
  rcases hprogram : c.formula.program with e | program
  · rfl
  have hevaluate : program.evaluate fs (.computed t) = program.evaluate fs (.computed u) := by
    refine Expr.evaluate_congr program fun v hv ↦ Scope.resolve_eq htu hnames hpaths fun q hq ↦ ?_
    exact h.not_of_readsPath hc q ⟨program, hprogram, v, hv, hq⟩
  simp only [hevaluate]

/-- Passes side by side over trees that agree leave trees that agree. -/
theorem applyAll_agreeOutside (h : List.Forall₂ (MatchOutside form D) cs ds)
    (htu : t.AgreeOutside D u) : (applyAll fs t cs).AgreeOutside D (applyAll fs u ds) := by
  induction h generalizing t u with
  | nil => exact htu
  | @cons c d cs ds hcd _ ih =>
    rw [applyAll_cons, applyAll_cons, ← hcd.path_eq]
    exact ih (htu.write fun hc ↦ hcd.value_eq hnames hpaths htu hc)

end

/-! ### The paths that a path affects -/

/-- A calculation matches itself outside what is affected. -/
theorem matchOutside_affected {p : FieldPath} (hc : c ∈ cs) :
    c.MatchOutside form (Affected form cs p) c :=
  ⟨rfl, fun _ ↦ rfl, fun hnot _ hread hq ↦ hnot (.derived hc hread hq)⟩

/-- Affected are only paths of the form. -/
theorem Affected.hasPath {p q : FieldPath} (h : Affected form cs p q)
    (hcs : ∀ d ∈ cs, form.HasPath d.path) (hp : form.HasPath p) : form.HasPath q := by
  cases h with
  | self => exact hp
  | derived hd hread hq => exact hcs _ hd

/-- Paths among which is the path itself, and with any path those of the calculations that read it,
are all paths affected. -/
theorem Affected.mem_of_closed {p q : FieldPath} {paths : List FieldPath} (hp : p ∈ paths)
    (hclosed : ∀ d ∈ cs, ∀ r ∈ paths, d.ReadsPath form r → d.path ∈ paths)
    (h : Affected form cs p q) : q ∈ paths := by
  induction h with
  | self => exact hp
  | derived hd hread _ ih => exact hclosed _ hd _ ih hread

end Calculation

end FormWizard
