import FormWizard.Proofs.Derivation.Agreement
import FormWizard.Proofs.Validation.Failures

/-!
# How far a difference reaches validation

The formula of a rule sees more than that of a calculation: the name and the value of its field, and
with `formValue` what surrounds the field, which is its group or, at the root, all values.
`Variable.ReadsAt` says what its variables read, in addition to what they read through `values`.

At a path where two trees agree, and whose rules read none of the paths where the trees differ, the
trees have the same errors (`CompiledForm.getElem?_validate_of_agreeOutside`).
-/

namespace FormWizard

/-! ### The paths that are read -/

/-- The variable, in a rule for the field at a path, reads the value at another path, or follows
members from it. -/
inductive Variable.ReadsAt (form : Form) : FieldPath → Variable → FieldPath → Prop where
  /-- Through `values`, as a calculation does. -/
  | values {p q : FieldPath} {members : List String}
    (h : Variable.ReadsPath form ⟨"values", members⟩ q) : ReadsAt form p ⟨"values", members⟩ q
  /-- Through `formValue` in the same way, if the field is at the root. -/
  | formValue {a : String} {q : FieldPath} {members : List String}
    (h : Variable.ReadsPath form ⟨"values", members⟩ q) :
    ReadsAt form (.root a) ⟨"formValue", members⟩ q
  /-- Through `formValue` the field of the same group with the name of the first member. -/
  | groupValue {g a b : String} {rest : List String} :
    ReadsAt form (.grouped g a) ⟨"formValue", b :: rest⟩ (.grouped g b)
  /-- Through `fieldValue` the field itself. -/
  | fieldValue {p : FieldPath} {members : List String} : ReadsAt form p ⟨"fieldValue", members⟩ p

/-- A rule reads the values, what is around its field, and its field. -/
theorem Variable.readsAt_iff {form : Form} {p q : FieldPath} {v : Variable} :
    v.ReadsAt form p q ↔ (v.root = "values" ∧ form.pathTo? v.members = some q) ∨
      (v.root = "formValue" ∧ (match p.group with
        | some g => v.members.head?.map (.grouped g)
        | none => form.pathTo? v.members) = some q) ∨
      (v.root = "fieldValue" ∧ p = q) := by
  constructor
  · intro h
    cases h with
    | values h => exact .inl (readsPath_iff.1 h)
    | formValue h => exact .inr (.inl ⟨rfl, (readsPath_iff.1 h).2⟩)
    | groupValue => exact .inr (.inl ⟨rfl, rfl⟩)
    | fieldValue => exact .inr (.inr ⟨rfl, rfl⟩)
  · obtain ⟨root, members⟩ := v
    rintro (⟨rfl, h⟩ | ⟨rfl, h⟩ | ⟨rfl, rfl⟩)
    · exact .values (readsPath_iff.2 ⟨rfl, h⟩)
    · obtain ⟨_ | g, a⟩ := p
      · exact .formValue (readsPath_iff.2 ⟨rfl, h⟩)
      · obtain ⟨b, hmembers, rfl⟩ := Option.map_eq_some_iff.1 h
        obtain ⟨rest, rfl⟩ := List.head?_eq_some_iff.1 hmembers
        exact .groupValue
    · exact .fieldValue

instance (form : Form) (p q : FieldPath) (v : Variable) : Decidable (v.ReadsAt form p q) :=
  decidable_of_iff _ Variable.readsAt_iff.symm

/-- The rule, declared for the field at a path, has a formula with a program that reads the value at
another path. -/
def Rule.ReadsPath (form : Form) (p : FieldPath) (r : Rule) (q : FieldPath) : Prop :=
  ∃ formula, r.check = .predicate formula ∧
    ∃ program, formula.program = .ok program ∧ ∃ v ∈ program.reads, v.ReadsAt form p q

instance (form : Form) (p : FieldPath) (r : Rule) (q : FieldPath) :
    Decidable (r.ReadsPath form p q) :=
  match h : r.check with
  | .predicate formula => decidable_of_iff
      (∃ program, formula.program = .ok program ∧ ∃ v ∈ program.reads, v.ReadsAt form p q)
      ⟨fun hprogram ↦ ⟨formula, h, hprogram⟩, by
        rintro ⟨formula', hcheck, hprogram⟩
        cases h.symm.trans hcheck
        exact hprogram⟩
  | .pattern _ | .required | .minLength _ | .maxLength _ | .minValue _ | .maxValue _
  | .unsupported _ => isFalse fun ⟨_, hcheck, _⟩ ↦ nomatch h.symm.trans hcheck

/-! ### What is read agrees -/

variable {D : FieldPath → Prop} {form : Form} {fs : Registry} {t u : ValueTree} {p : FieldPath}

/-- What the roots of a rule stand for. -/
theorem Scope.resolve_ofPath (p : FieldPath) (value : Value) (t : ValueTree) (v : Variable) :
    (ofPath p value t).resolve v =
      if v.root = "fieldName" then followScalar (.text p.name) v.root v.members
      else if v.root = "fieldValue" then followScalar value v.root v.members
      else if v.root = "formValue" then
        match p.group with
        | some group => followGroup (t.group? group) v.root v.members
        | none => followTree t v.root v.members
      else if v.root = "values" then followTree t v.root v.members
      else .error (.unknownVariable v.root) := by
  rw [resolve, binding?, ofPath, predicate]
  simp only [lookup?]
  split_ifs
  · rfl
  · rfl
  · cases p.group <;> rfl
  · rfl
  · rfl

/-- Trees that agree on a path have the same value to be validated there. -/
theorem ValueTree.AgreeOutside.validated_eq (h : t.AgreeOutside D u) (hp : ¬ D p) :
    t.validated p = u.validated p := by
  rw [validated, validated, h.get?_eq p hp]

section

variable (h : t.AgreeOutside D u) (hnames : form.NamesApart) (hpaths : ∀ q, D q → form.HasPath q)
include h hnames hpaths

/-- Trees that agree where a variable leads give it the same value in a rule. -/
theorem Scope.resolve_ofPath_eq (value : Value) {v : Variable}
    (hv : ∀ q, v.ReadsAt form p q → ¬ D q) :
    (ofPath p value t).resolve v = (ofPath p value u).resolve v := by
  obtain ⟨root, members⟩ := v
  rw [resolve_ofPath, resolve_ofPath]
  refine ite_congr rfl (fun _ ↦ rfl) fun _ ↦ ite_congr rfl (fun _ ↦ rfl) fun _ ↦
    ite_congr rfl (fun hroot ↦ ?formValue) fun _ ↦ ite_congr rfl (fun hroot ↦ ?values) fun _ ↦ rfl
  all_goals
    dsimp only at hroot
    subst hroot
  case values => exact followTree_members_eq h hnames hpaths _ fun q hq ↦ hv q (.values hq)
  case formValue =>
    obtain ⟨_ | g, a⟩ := p
    · exact followTree_members_eq h hnames hpaths _ fun q hq ↦ hv q (.formValue hq)
    · refine followGroup_congr (fun b rest hmembers ↦ ?_) _
      subst hmembers
      rw [← ValueTree.get?_grouped, ← ValueTree.get?_grouped, h.get?_eq _ (hv _ .groupValue)]

/-- A rule that reads none of the paths where trees differ judges a value the same in both. -/
theorem Rule.passes_eq {r : Rule} (hr : ∀ q, r.ReadsPath form p q → ¬ D q) (value : Value) :
    r.check.passes fs p value t = r.check.passes fs p value u := by
  rcases hcheck : r.check with pattern | _ | _ | _ | _ | _ | formula | _
  case predicate =>
    rw [Check.passes, Check.passes]
    rcases hprogram : formula.program with e | program
    · rfl
    have hevaluate : program.evaluate fs (.ofPath p value t) =
        program.evaluate fs (.ofPath p value u) := by
      refine Expr.evaluate_congr program fun v hv ↦ ?_
      refine Scope.resolve_ofPath_eq h hnames hpaths value fun q hq ↦ hr q ?_
      exact ⟨formula, hcheck, program, hprogram, v, hv, hq⟩
    simp only [hevaluate]
  -- other checks look at the value only
  case pattern => rcases pattern with _ | _ <;> rfl
  all_goals rfl

namespace CompiledForm

variable {c : CompiledForm} {index : ℕ}

/-- A field fails in the same way in trees that agree on it and on what its rules read. -/
theorem failures_of_agreeOutside {e : Entry} (he : ¬ D e.path)
    (hrules : ∀ r ∈ c.rulesAt e.path, ∀ q, r.ReadsPath form e.path q → ¬ D q) :
    c.failures t e = c.failures u e := by
  rw [failures, failures, h.validated_eq he]
  congr 2
  refine List.filter_congr fun r hr ↦ ?_
  rw [Rule.passes_eq h hnames hpaths (hrules r hr)]

/-- Trees that agree at a path, and at the paths that its rules read, have the same error there. -/
theorem getElem?_validate_of_agreeOutside (hp : ¬ D p)
    (hrules : ∀ r ∈ c.rulesAt p, ∀ q, r.ReadsPath form p q → ¬ D q) :
    (c.validate index t)[p]? = (c.validate index u)[p]? := by
  rw [getElem?_validate, getElem?_validate]
  congr 1
  refine List.flatMap_congr fun e he ↦ ?_
  obtain rfl : e.path = p := of_decide_eq_true (List.mem_filter.1 he).2
  exact failures_of_agreeOutside h hnames hpaths hp hrules

end CompiledForm

end

end FormWizard
