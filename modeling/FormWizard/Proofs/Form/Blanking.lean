import FormWizard.Proofs.Derivation.Agreement
import FormWizard.Session

/-!
# Forms that differ in one formula

`Form.blank p` is a form with the formulas of the fields at the path `p` left blank. Two forms
differ at most in these formulas if they are then the same (`Form.SameBut`).

Blank formulas still belong to computed fields. So it makes no difference to anything but what is
derived: not to the values at the start, not to the edits that are refused, and, for the same
values, not to any validation. What is derived comes from calculations that are the same one by one,
except for the programs of those at `p` (`Form.SameBut.matchOutside`).
-/

namespace FormWizard

/-! ### Leaving formulas blank -/

/-- The field at the path `q`, with its formula left blank if that is the path `p`. -/
def Field.blankAt (p q : FieldPath) (f : Field) : Field :=
  { f with valueCalculation := f.valueCalculation.map fun source ↦ if q = p then "" else source }

/-- The group with the formulas of the fields at a path left blank. -/
def Group.blank (p : FieldPath) (g : Group) : Group :=
  { g with fields := g.fields.map fun f ↦ f.blankAt p (.grouped g.name f.name) }

/-- The field or group with the formulas of the fields at a path left blank. -/
def FlatNode.blank (p : FieldPath) : FlatNode → FlatNode
  | .field f => .field (f.blankAt p (.root f.name))
  | .group g => .group (g.blank p)

mutual

/-- The part with the formulas of the fields at a path left blank. -/
def Node.blank (p : FieldPath) : Node → Node
  | .field f => .field (f.blankAt p (.root f.name))
  | .group g => .group (g.blank p)
  | .block name label nodes => .block name label (Node.blankAll p nodes)

/-- The parts with the formulas of the fields at a path left blank. -/
def Node.blankAll (p : FieldPath) : List Node → List Node
  | [] => []
  | n :: ns => n.blank p :: Node.blankAll p ns

end

/-- The stage with the formulas of the fields at a path left blank. -/
def Stage.blank (p : FieldPath) (s : Stage) : Stage :=
  { s with nodes := Node.blankAll p s.nodes }

/-- The form with the formulas of the fields at a path left blank. -/
def Form.blank (p : FieldPath) (form : Form) : Form :=
  { form with stages := form.stages.map (·.blank p) }

/-- The forms differ at most in the formulas of the fields at a path. -/
def Form.SameBut (p : FieldPath) (form form' : Form) : Prop := form.blank p = form'.blank p

/-- The entry with the formula of its field left blank if it has a path. -/
def Entry.blank (p : FieldPath) (e : Entry) : Entry := { e with field := e.field.blankAt p e.path }

variable {p q : FieldPath} {form form' : Form} {fs : Registry}

/-- A field at another path keeps its formula. -/
theorem Field.blankAt_of_ne (h : q ≠ p) (f : Field) : f.blankAt p q = f := by
  simp only [blankAt, if_neg h, Option.map_id']

/-- A field with a blank formula is still a computed one. -/
@[simp]
theorem Field.isComputed_blankAt (f : Field) : (f.blankAt p q).isComputed = f.isComputed :=
  Option.isSome_map

/-! ### Fields and groups -/

mutual

/-- Blocks are dissolved alike. -/
@[simp]
theorem Node.flatten_blank (p : FieldPath) :
    ∀ n : Node, (n.blank p).flatten = n.flatten.map (·.blank p)
  | .field _ => rfl
  | .group _ => rfl
  | .block _ _ nodes => flattenAll_blankAll p nodes

@[simp]
theorem Node.flattenAll_blankAll (p : FieldPath) :
    ∀ ns : List Node, flattenAll (blankAll p ns) = (flattenAll ns).map (·.blank p)
  | [] => rfl
  | n :: ns => by
    simp [blankAll, n.flatten_blank p, flattenAll_blankAll p ns]

end

@[simp]
theorem FlatNode.entries_blank (p : FieldPath) (index : ℕ) (n : FlatNode) :
    (n.blank p).entries index = (n.entries index).map (·.blank p) := by
  cases n with
  | field f => rfl
  | group g => simp only [blank, entries, Group.blank, List.map_map, Function.comp_def]; rfl

theorem Stage.entries_blank (p : FieldPath) (index : ℕ) (s : Stage) :
    (s.blank p).flatten.flatMap (·.entries index) =
      (s.flatten.flatMap (·.entries index)).map (·.blank p) := by
  rw [flatten, blank, Node.flattenAll_blankAll, List.flatMap_map, List.map_flatMap]
  exact List.flatMap_congr fun n _ ↦ n.entries_blank p index

namespace Form

/-- The entries of a form are blanked one by one, so none of them is lost or moved. -/
@[simp]
theorem entries_blank (p : FieldPath) (form : Form) :
    (form.blank p).entries = form.entries.map (·.blank p) := by
  rw [entries, entries, blank, List.zipIdx_map, List.flatMap_map, List.map_flatMap]
  exact List.flatMap_congr fun x _ ↦ x.1.entries_blank p x.2

@[simp]
theorem nodes_blank (p : FieldPath) (form : Form) :
    (form.blank p).nodes = form.nodes.map (·.blank p) := by
  rw [nodes, nodes, blank, List.flatMap_map, List.map_flatMap]
  exact List.flatMap_congr fun s _ ↦ Node.flattenAll_blankAll p s.nodes

end Form

/-! ### What a formula makes no difference to -/

@[simp]
theorem FlatNode.initialize_blank (values : ValueTree) (p : FieldPath) (n : FlatNode) :
    FlatNode.initialize values (n.blank p) = FlatNode.initialize values n := by
  cases n with
  | field f => rfl
  | group g =>
    have hmembers : (g.blank p).initialMembers = g.initialMembers := List.foldl_map
    rw [blank, FlatNode.initialize, FlatNode.initialize, hmembers]
    rfl

/-- The values at the start do not depend on formulas. -/
@[simp]
theorem Form.initialValues_blank (p : FieldPath) (form : Form) :
    (form.blank p).initialValues = form.initialValues := by
  show (form.blank p).nodes.foldl _ _ = form.nodes.foldl _ _
  rw [nodes_blank, List.foldl_map]
  congr 1
  funext values n
  exact FlatNode.initialize_blank values p n

namespace CompiledForm

/-- The computed paths are those of the entries that have a formula. -/
theorem isComputed_compile (fs : Registry) (form : Form) (q : FieldPath) :
    (form.compile fs).isComputed q =
      form.entries.any fun e ↦ e.field.isComputed && decide (e.path = q) := by
  rw [isComputed, Form.compile, List.any_filterMap]
  congr 1
  funext e
  rw [Entry.calculation?, Field.isComputed]
  rcases e.field.valueCalculation <;> simp

/-- The same paths are computed. -/
@[simp]
theorem isComputed_blank (fs : Registry) (p : FieldPath) (form : Form) (q : FieldPath) :
    ((form.blank p).compile fs).isComputed q = (form.compile fs).isComputed q := by
  rw [isComputed_compile, isComputed_compile, Form.entries_blank, List.any_map]
  simp only [Function.comp_def, Entry.blank, Field.isComputed_blankAt]

/-- The same edits are refused, for the same reasons. -/
@[simp]
theorem refusal?_blank (fs : Registry) (p : FieldPath) (form : Form) (q : FieldPath) :
    ((form.blank p).compile fs).refusal? q = (form.compile fs).refusal? q := by
  have hfield : ((form.blank p).field? q).isNone = (form.field? q).isNone := by
    rw [Form.field?, Form.field?, Form.entries_blank, List.find?_map, Option.map_map,
      Option.isNone_map, Option.isNone_map]
    rfl
  rw [refusal?, refusal?, isComputed_blank]
  show (if ((form.blank p).field? q).isNone then _ else _) =
    if (form.field? q).isNone then _ else _
  rw [hfield]

/-- The rules are the same, since none of them comes from a formula. -/
@[simp]
theorem rules_blank (fs : Registry) (p : FieldPath) (form : Form) :
    ((form.blank p).compile fs).rules = (form.compile fs).rules := by
  show (form.blank p).entries.flatMap _ = form.entries.flatMap _
  rw [Form.entries_blank, List.flatMap_map]
  rfl

@[simp]
theorem stageEntries_blank (fs : Registry) (p : FieldPath) (form : Form) (index : ℕ) :
    ((form.blank p).compile fs).stageEntries index =
      ((form.compile fs).stageEntries index).map (·.blank p) := by
  rw [stageEntries, stageEntries]
  have hstage : ((form.blank p).compile fs).form.stages[index]? =
      ((form.compile fs).form.stages[index]?).map (·.blank p) := List.getElem?_map
  rw [hstage]
  rcases (form.compile fs).form.stages[index]? with _ | s
  · rfl
  · exact s.entries_blank p index

/-- The same values have the same errors, at every stage. -/
@[simp]
theorem validate_blank (fs : Registry) (p : FieldPath) (form : Form) :
    ((form.blank p).compile fs).validate = (form.compile fs).validate := by
  funext index values
  rw [validate, validate, stageEntries_blank, List.foldl_map]
  congr 1
  funext errors e
  have hrules : ((form.blank p).compile fs).rulesAt e.path = (form.compile fs).rulesAt e.path := by
    rw [rulesAt, rulesAt, rules_blank]
  rw [enter, enter, failures, failures, show (e.blank p).path = e.path from rfl, hrules]
  rfl

end CompiledForm

/-! ### Forms that differ at most in the formulas at a path -/

namespace Form.SameBut

theorem initialValues_eq (h : form.SameBut p form') :
    form.initialValues = form'.initialValues := by
  rw [← initialValues_blank p form, h, initialValues_blank]

theorem isComputed_eq (h : form.SameBut p form') (fs : Registry) (q : FieldPath) :
    (form.compile fs).isComputed q = (form'.compile fs).isComputed q := by
  rw [← CompiledForm.isComputed_blank fs p form, h, CompiledForm.isComputed_blank]

theorem refusal?_eq (h : form.SameBut p form') (fs : Registry) (q : FieldPath) :
    (form.compile fs).refusal? q = (form'.compile fs).refusal? q := by
  rw [← CompiledForm.refusal?_blank fs p form, h, CompiledForm.refusal?_blank]

theorem validate_eq (h : form.SameBut p form') (fs : Registry) :
    (form.compile fs).validate = (form'.compile fs).validate := by
  rw [← CompiledForm.validate_blank fs p form, h, CompiledForm.validate_blank]

end Form.SameBut

/-- Entries that are the same without the formula at a path have calculations with the same path,
and elsewhere the same calculations. -/
theorem Entry.calculation?_rel {e e' : Entry} (h : e.blank p = e'.blank p) :
    Option.Rel (fun c d ↦ c.path = d.path ∧ (c.path ≠ p → c = d)) (e.calculation? fs)
      (e'.calculation? fs) := by
  have hpath : e.path = e'.path := (congrArg Entry.path h :)
  by_cases hp : e.path = p
  · have hcomputed : e.field.isComputed = e'.field.isComputed := by
      have hfield := congrArg (fun e ↦ e.field.isComputed) h
      simpa only [Entry.blank, Field.isComputed_blankAt] using hfield
    rw [Field.isComputed, Field.isComputed] at hcomputed
    rw [calculation?, calculation?]
    rcases hsource : e.field.valueCalculation with _ | source <;>
      rcases hsource' : e'.field.valueCalculation with _ | source' <;>
      rw [hsource, hsource'] at hcomputed
    · exact .none
    · cases hcomputed
    · cases hcomputed
    · exact .some ⟨hpath, fun hne ↦ absurd hp hne⟩
  · have he : e = e' := by
      rw [Entry.blank, Entry.blank, Field.blankAt_of_ne hp, Field.blankAt_of_ne (hpath ▸ hp)] at h
      exact h
    subst he
    rcases e.calculation? fs with _ | c
    · exact .none
    · exact .some ⟨rfl, fun _ ↦ rfl⟩

namespace Form.SameBut

/-- The calculations match one by one, and are the same except at the path. -/
theorem calculations_rel (h : form.SameBut p form') (fs : Registry) :
    List.Forall₂ (fun c d ↦ c.path = d.path ∧ (c.path ≠ p → c = d))
      (form.compile fs).calculations (form'.compile fs).calculations := by
  have hentries : List.Forall₂ (fun e e' ↦ e.blank p = e'.blank p) form.entries form'.entries := by
    have hblank : form.entries.map (·.blank p) = form'.entries.map (·.blank p) := by
      rw [← entries_blank, h, entries_blank]
    rw [← List.forall₂_eq_eq_eq, List.forall₂_map_left_iff, List.forall₂_map_right_iff] at hblank
    exact hblank
  exact List.rel_filterMap (fun _ _ he ↦ Entry.calculation?_rel he) hentries

/-- The calculations match outside what the path affects in either form. -/
theorem matchOutside (h : form.SameBut p form') (fs : Registry) :
    List.Forall₂ (Calculation.MatchOutside form (Calculation.Affected form
        ((form.compile fs).calculations ++ (form'.compile fs).calculations) p))
      (form.compile fs).calculations (form'.compile fs).calculations := by
  obtain ⟨hlength, hrel⟩ := List.forall₂_iff_zip.1 (h.calculations_rel fs)
  refine List.forall₂_iff_zip.2 ⟨hlength, fun {c d} hcd ↦ ?_⟩
  obtain ⟨hpath, hsame⟩ := hrel hcd
  refine ⟨hpath, fun hnot ↦ ?_, fun hnot q hread hq ↦ hnot (.derived ?_ hread hq)⟩
  · rw [hsame fun heq ↦ hnot (heq ▸ .self)]
  · exact List.mem_append_left _ (List.of_mem_zip hcd).1

end Form.SameBut

end FormWizard
