import FormWizard.Proofs.Expr.Evaluation
import FormWizard.Proofs.Form.Paths

/-!
# What a calculation reads

`Variable.Touches v p` says that what the variable `v` of a calculation reads may change with the
value at the path `p`: because it reads the path itself, or because `p` is the field at the root
whose value its members are followed from. The frame rule is `Scope.resolve_write`: a write at any
other path leaves what is read alone. It needs the group of the path to be there before, since the
first write of a group turns a name that is absent into one that stands for no value.

`Calculation.Reads` is the same for the program of a calculation, and `Calculation.value_write` and
`Calculation.value_writeAll` its frame rules.
-/

namespace FormWizard

open CompiledForm (readPath?)

/-- What the variable reads may depend on the value at the path. -/
def Variable.Touches (v : Variable) (p : FieldPath) : Prop :=
  ∃ r, readPath? v = some r ∧ (p = r ∨ p = .root r.top)

namespace Scope

variable {t : ValueTree} {p : FieldPath}

/-- Only the values can be read in a computed field. -/
theorem resolve_computed (t : ValueTree) (v : Variable) :
    (computed t).resolve v =
      if v.root = "values" then followTree t v.root v.members
      else .error (.unknownVariable v.root) := by
  by_cases hroot : v.root = "values" <;> simp [resolve, binding?, computed, lookup?, hroot]

/-- What members lead to does not change with a slot that they do not start with. -/
theorem followTree_congr {u : ValueTree} {name : String} (h : t.slot? name = u.slot? name)
    (path : String) (rest : List String) :
    followTree t path (name :: rest) = followTree u path (name :: rest) := by
  rw [followTree, followTree, h]

/-- Under the name of a group one goes on into it. -/
theorem followTree_group {members : Members} {name : String} (h : t.group? name = some members)
    (path : String) (rest : List String) :
    followTree t path (name :: rest) = followGroup (some members) (path ++ "." ++ name) rest := by
  rw [followTree, ValueTree.slot?_of_group? h]

/-- A write changes what a variable reads only if the variable touches its path. -/
theorem resolve_write {v : Variable} (h : ¬ v.Touches p)
    (hgroup : ∀ g, p.group = some g → (t.group? g).isSome) (w : Value) :
    (computed (t.write p w)).resolve v = (computed t).resolve v := by
  obtain ⟨root, members⟩ := v
  rw [resolve_computed, resolve_computed]
  refine if_congr Iff.rfl ?_ rfl
  rcases members with _ | ⟨name, rest⟩
  · rfl
  by_cases htop : p.top = name
  swap
  · exact followTree_congr (ValueTree.slot?_write_of_ne htop t w) _ _
  subst htop
  obtain ⟨_ | g, a⟩ := p
  · -- the value at the root is read, whatever members are followed from it
    refine absurd ?_ h
    rcases rest with _ | ⟨name, rest⟩
    · exact ⟨_, rfl, .inl rfl⟩
    · exact ⟨_, rfl, .inr rfl⟩
  obtain ⟨members, hmembers⟩ := Option.isSome_iff_exists.1 (hgroup g rfl)
  have hafter := ValueTree.group?_write_grouped t g a w
  rw [hmembers, Option.getD_some] at hafter
  have hread := followTree_group hafter root rest
  have hread' := followTree_group hmembers root rest
  refine hread.trans (Eq.trans ?_ hread'.symm)
  rcases rest with _ | ⟨name, rest⟩
  · rfl
  -- another member of the group is read
  have hne : a ≠ name := by
    rintro rfl
    exact h ⟨_, rfl, .inl rfl⟩
  rw [followGroup, followGroup, Option.bind_some, Option.bind_some,
    Std.ExtTreeMap.getElem?_insert, if_neg (by simpa using hne)]

end Scope

namespace Calculation

/-- What the calculation yields may depend on the value at the path. -/
def Reads (c : Calculation) (p : FieldPath) : Prop :=
  ∃ program, c.formula.program = .ok program ∧ ∃ v ∈ program.reads, v.Touches p

variable {form : Form} {c : Calculation} {fs : Registry} {t : ValueTree} {p : FieldPath}

/-- A write changes what a calculation yields only if the calculation reads its path. -/
theorem value_write (h : ¬ c.Reads p) (ht : t.HoldsGroups form) (hp : form.HasPath p) (w : Value) :
    c.value fs (t.write p w) = c.value fs t := by
  rw [value, value]
  rcases hprogram : c.formula.program with e | program
  · rfl
  have hgroup : ∀ g, p.group = some g → (t.group? g).isSome := by
    obtain ⟨_ | g, a⟩ := p
    · exact nofun
    · rintro g ⟨⟩
      exact ht.isSome_group? hp
  have hevaluate : program.evaluate fs (.computed (t.write p w)) =
      program.evaluate fs (.computed t) := by
    refine Expr.evaluate_congr program fun v hv ↦ Scope.resolve_write (fun htouch ↦ ?_) hgroup w
    exact h ⟨program, hprogram, v, hv, htouch⟩
  simp only [hevaluate]

/-- Writes at paths that a calculation does not read leave its value as it is. -/
theorem value_writeAll {ws : List (FieldPath × Value)} (hnames : form.NamesApart)
    (h : ∀ w ∈ ws, form.HasPath w.1 ∧ ¬ c.Reads w.1) (ht : t.HoldsGroups form) :
    c.value fs (t.writeAll ws) = c.value fs t := by
  induction ws generalizing t with
  | nil => rfl
  | cons w ws ih =>
    obtain ⟨⟨hpath, hreads⟩, hws⟩ := List.forall_mem_cons.1 h
    simp [ih hws (ht.write hnames hpath w.2), value_write hreads ht hpath]

end Calculation

end FormWizard
