import FormWizard.Proofs.Form.Paths
import FormWizard.Proofs.Validation.Failures

/-!
# The checks of a stage, listed

`Form.listedChecks` writes down, for a stage and a path, every check that concerns the path: for
each field of the stage that has it, that something was entered, and then all rules that fields of
the form declare for the path, in the order of the document. `RuleKind.Rejects` and
`ListedCheck.Fails` say when a check fails, kind by kind, in terms of what the document says and not
of what it compiles to. The value in question is the one at the path, or `null` where there is none.
A kind of rule that is not known has no case there, and neither has a pattern that cannot be read or
a formula without a value.

Two facts connect this with validation. A compiled rule passes exactly where the rule does not
reject (`Check.passes_compile_eq_false_iff`), and the messages of a field are those of its listed
checks that fail (`CompiledForm.failures_eq`). So at each path stands the message of the last listed
check that fails (`CompiledForm.getElem?_validate_compile`).
-/

namespace FormWizard

/-! ### When a check fails -/

/-- What surrounds the field at a path: the values around it in its group, or the whole tree. -/
inductive ValueTree.Surrounds (values : ValueTree) : FieldPath → Binding → Prop where
  /-- At the root stands the whole tree. -/
  | root (a : String) : Surrounds values (.root a) (.tree values)
  /-- In a group stand its members. -/
  | grouped (g a : String) : Surrounds values (.grouped g a) (.group (values.group? g))

/-- A rule of some kind, declared by a field with its bounds, rejects the value at a path. -/
inductive RuleKind.Rejects (fs : Registry) (values : ValueTree) (p : FieldPath) (declarer : Field) :
    RuleKind → Prop where
  /-- The pattern is one, and a value that holds does not match it. -/
  | regex {text : String} {pattern : Pattern} (hpattern : Pattern.ofText text = .ok pattern)
      (hvalue : ((values.get? p).getD .null).isTruthy)
      (hmatch : pattern.occursIn ((values.get? p).getD .null).shown = false) :
      Rejects fs values p declarer (.regex text)
  /-- The formula compiles and has a value, and that does not hold. -/
  | function {body : String} {program : Expr} {around : Binding} {outcome : Value}
      (hprogram : Expr.compile fs Scope.predicateRoots body = .ok program)
      (haround : values.Surrounds p around)
      (houtcome : program.evaluate fs
        (.predicate p.name ((values.get? p).getD .null) around values) = .ok outcome)
      (hfalsy : outcome.isTruthy = false) : Rejects fs values p declarer (.function body)
  /-- Nothing was entered. -/
  | required (hvalue : ((values.get? p).getD .null).isEmpty) :
      Rejects fs values p declarer .required
  /-- The value is a text with too few characters. -/
  | minLength {s : String} (hvalue : (values.get? p).getD .null = .text s)
      (hlength : s.length < declarer.minLength.getD 0) : Rejects fs values p declarer .minLength
  /-- The value is a text with too many characters. -/
  | maxLength {s : String} {most : ℕ} (hvalue : (values.get? p).getD .null = .text s)
      (hmost : declarer.maxLength = some most) (hlength : most < s.length) :
      Rejects fs values p declarer .maxLength
  /-- The value is or spells a number that is not large enough. -/
  | minValue {x : Float} (hvalue : ((values.get? p).getD .null).number? = some x)
      (hnumber : ¬ declarer.min.getD 0.0 ≤ x) : Rejects fs values p declarer .minValue
  /-- The value is or spells a number that is not small enough. -/
  | maxValue {x most : Float} (hvalue : ((values.get? p).getD .null).number? = some x)
      (hmost : declarer.max = some most) (hnumber : ¬ x ≤ most) :
      Rejects fs values p declarer .maxValue

/-- A check of a field of the stage. -/
inductive ListedCheck where
  /-- That something was entered, if the field requires it. -/
  | filledIn (f : Field)
  /-- A rule, and the field that declares it. -/
  | rule (f declarer : Field) (r : ValidationRule)

namespace ListedCheck

/-- The value at the path fails the check. -/
inductive Fails (fs : Registry) (values : ValueTree) (p : FieldPath) : ListedCheck → Prop where
  /-- The field requires something, and nothing was entered. -/
  | filledIn {f : Field} (hrequired : f.required) (hvalue : ((values.get? p).getD .null).isEmpty) :
      Fails fs values p (.filledIn f)
  /-- The rule rejects the value. -/
  | rule {f declarer : Field} {r : ValidationRule}
      (hrejects : r.kind.Rejects fs values p declarer) : Fails fs values p (.rule f declarer r)

/-- What is reported when the check fails. -/
def message : ListedCheck → String
  | .filledIn f => s!"{f.displayLabel} is required."
  | .rule f _ r => if r.message = "" then s!"{f.displayLabel} is invalid." else r.message

end ListedCheck

/-! ### The list -/

namespace Form

/-- The fields of a stage that have a path. -/
def fieldsAt (form : Form) (index : ℕ) (p : FieldPath) : List Field :=
  let entries := (form.stages[index]?.map fun s ↦ s.flatten.flatMap (·.entries index)).getD []
  (entries.filter (·.path = p)).map (·.field)

/-- The rules that the form declares for a path, each with the field that declares it. -/
def declarations (form : Form) (p : FieldPath) : List (Field × ValidationRule) :=
  (form.entries.filter (·.path = p)).flatMap fun e ↦ e.field.validations.map (e.field, ·)

/-- The checks of the fields of a stage that have a path, in order. -/
def listedChecks (form : Form) (index : ℕ) (p : FieldPath) : List ListedCheck :=
  (form.fieldsAt index p).flatMap fun f ↦
    .filledIn f :: (form.declarations p).map fun (declarer, r) ↦ .rule f declarer r

end Form

/-! ### Compiled rules -/

variable {fs : Registry} {values : ValueTree} {p : FieldPath} {form : Form}

/-- Something surrounds every path. -/
theorem ValueTree.exists_surrounds (values : ValueTree) (p : FieldPath) :
    ∃ around, values.Surrounds p around := by
  obtain ⟨_ | g, a⟩ := p
  · exact ⟨_, .root a⟩
  · exact ⟨_, .grouped g a⟩

/-- A predicate is evaluated with what surrounds its path as `formValue`. -/
theorem ValueTree.Surrounds.ofPath_eq {around : Binding} (h : values.Surrounds p around)
    (v : Value) : Scope.ofPath p v values = .predicate p.name v around values := by
  cases h <;> rfl

/-- A pattern that cannot be read rejects nothing. -/
theorem Check.passes_pattern_eq_false_iff {text : String} {declarer : Field} :
    (Check.pattern (Pattern.compile text)).passes fs p (values.validated p) values = false ↔
      RuleKind.Rejects fs values p declarer (.regex text) := by
  rw [Pattern.compile]
  rcases hpattern : Pattern.ofText text with flaw | pattern
  · refine ⟨nofun, fun h ↦ ?_⟩
    cases h with
    | regex h _ _ =>
      rw [hpattern] at h
      cases h
  · simp only [Check.passes, Bool.or_eq_false_iff, Bool.not_eq_false']
    refine ⟨fun ⟨hvalue, hmatch⟩ ↦ .regex hpattern hvalue hmatch, fun h ↦ ?_⟩
    cases h with
    | regex h hvalue hmatch =>
      cases hpattern.symm.trans h
      exact ⟨hvalue, hmatch⟩

/-- A formula that does not compile or has no value rejects nothing. -/
theorem Check.passes_predicate_eq_false_iff {body : String} {declarer : Field} :
    (Check.predicate (.compile fs Scope.predicateRoots body)).passes fs p (values.validated p)
      values = false ↔ RuleKind.Rejects fs values p declarer (.function body) := by
  rw [Check.passes, Formula.compile]
  constructor
  · obtain ⟨around, haround⟩ := values.exists_surrounds p
    rw [haround.ofPath_eq]
    intro h
    split at h
    · cases h
    · rename_i program hprogram
      split at h
      · rename_i outcome houtcome
        exact .function hprogram haround houtcome h
      · cases h
  · intro h
    cases h with
    | function hprogram haround houtcome hfalsy =>
      simp only [hprogram, haround.ofPath_eq, ValueTree.validated, houtcome, hfalsy]

theorem Value.textLength?_eq_some_iff {v : Value} {n : ℕ} :
    v.textLength? = some n ↔ ∃ s, v = .text s ∧ s.length = n := by
  cases v <;> simp [textLength?, text?]

/-- A compiled rule passes exactly where the rule does not reject. -/
theorem Check.passes_compile_eq_false_iff {declarer : Field} {r : ValidationRule} :
    (r.compile fs declarer).passes fs p (values.validated p) values = false ↔
      r.kind.Rejects fs values p declarer := by
  rw [ValidationRule.compile]
  rcases r.kind with text | body | _ | _ | _ | _ | _ | kind
  · exact passes_pattern_eq_false_iff
  · exact passes_predicate_eq_false_iff
  · simp only [Check.passes, Bool.not_eq_false']
    exact ⟨.required, fun h ↦ by cases h; assumption⟩
  · simp only [Check.passes, Option.all_eq_false, Value.textLength?_eq_some_iff,
      decide_eq_false_iff_not, Nat.not_le]
    constructor
    · rintro ⟨_, ⟨s, hvalue, rfl⟩, hlength⟩
      exact .minLength hvalue hlength
    · intro h
      cases h with
      | minLength hvalue hlength => exact ⟨_, ⟨_, hvalue, rfl⟩, hlength⟩
  · simp only [Check.passes, Option.all_eq_false, Value.textLength?_eq_some_iff,
      decide_eq_false_iff_not, Nat.not_le]
    constructor
    · rintro ⟨_, ⟨s, hvalue, rfl⟩, most, hmost, hlength⟩
      exact .maxLength hvalue hmost hlength
    · intro h
      cases h with
      | maxLength hvalue hmost hlength => exact ⟨_, ⟨_, hvalue, rfl⟩, _, hmost, hlength⟩
  · simp only [Check.passes, Option.all_eq_false, decide_eq_false_iff_not]
    refine ⟨fun ⟨x, hvalue, hnumber⟩ ↦ .minValue hvalue hnumber, fun h ↦ ?_⟩
    cases h with
    | minValue hvalue hnumber => exact ⟨_, hvalue, hnumber⟩
  · simp only [Check.passes, Option.all_eq_false, decide_eq_false_iff_not]
    refine ⟨fun ⟨x, hvalue, most, hmost, hnumber⟩ ↦ .maxValue hvalue hmost hnumber, fun h ↦ ?_⟩
    cases h with
    | maxValue hvalue hmost hnumber => exact ⟨_, hvalue, _, hmost, hnumber⟩
  · exact ⟨nofun, nofun⟩

namespace ListedCheck

variable {f declarer : Field} {r : ValidationRule}

/-- The check that something was entered fails just where validation finds nothing. -/
theorem fails_filledIn_iff : (filledIn f).Fails fs values p ↔
    (f.required && (values.validated p).isEmpty) = true := by
  rw [Bool.and_eq_true]
  refine ⟨fun h ↦ ?_, fun ⟨hrequired, hvalue⟩ ↦ .filledIn hrequired hvalue⟩
  cases h with
  | filledIn hrequired hvalue => exact ⟨hrequired, hvalue⟩

/-- A rule fails just where its compiled check does not pass. -/
theorem fails_rule_iff : (rule f declarer r).Fails fs values p ↔
    (r.compile fs declarer).passes fs p (values.validated p) values = false := by
  rw [Check.passes_compile_eq_false_iff]
  refine ⟨fun h ↦ ?_, .rule⟩
  cases h with
  | rule hrejects => exact hrejects

instance : DecidablePred (Fails fs values p)
  | .filledIn _ => decidable_of_iff _ fails_filledIn_iff.symm
  | .rule _ _ _ => decidable_of_iff _ fails_rule_iff.symm

/-- A compiled rule reports what the rule says. -/
theorem messageFor_compile : (⟨r, r.compile fs declarer⟩ : Rule).messageFor f =
    (rule f declarer r).message := by
  simp [Rule.messageFor, message]

end ListedCheck

/-! ### From the list to the errors -/

namespace CompiledForm

/-- The compiled rules at a path are those declared for it, in order. -/
theorem rulesAt_compile (fs : Registry) (form : Form) (p : FieldPath) :
    (form.compile fs).rulesAt p =
      (form.declarations p).map fun (declarer, r) ↦ ⟨r, r.compile fs declarer⟩ := by
  show ((form.entries.flatMap (·.rules fs)).filter _).map _ = _
  rw [Form.declarations, List.map_flatMap]
  induction form.entries with
  | nil => rfl
  | cons e es ih =>
    rw [List.flatMap_cons, List.filter_append, List.map_append, ih]
    by_cases hpath : e.path = p
    · rw [List.filter_cons_of_pos (by simpa using hpath), List.flatMap_cons]
      simp [Entry.rules, hpath, List.filter_map, Function.comp_def]
    · rw [List.filter_cons_of_neg (by simpa using hpath)]
      simp [Entry.rules, hpath]

/-- The messages of a field are those of its listed checks that fail. -/
theorem failures_eq (fs : Registry) (form : Form) (values : ValueTree) (e : Entry) :
    (form.compile fs).failures values e =
      ((ListedCheck.filledIn e.field :: (form.declarations e.path).map fun (declarer, r) ↦
          .rule e.field declarer r).filter (·.Fails fs values e.path)).map ListedCheck.message := by
  have hfails (d : Field × ValidationRule) :
      (!(d.2.compile fs d.1).passes fs e.path (values.validated e.path) values) =
        decide ((ListedCheck.rule e.field d.1 d.2).Fails fs values e.path) := by
    rw [Bool.eq_iff_iff, Bool.not_eq_true', decide_eq_true_eq, ListedCheck.fails_rule_iff]
  have hmissing : (e.field.required && (values.validated e.path).isEmpty) =
      decide ((ListedCheck.filledIn e.field).Fails fs values e.path) := by
    rw [Bool.eq_iff_iff, decide_eq_true_eq, ListedCheck.fails_filledIn_iff]
  have hfunctions : (form.compile fs).functions = fs := rfl
  rw [failures, rulesAt_compile, hfunctions, List.filter_map, List.map_map, List.filter_cons,
    List.filter_map]
  simp only [Function.comp_def, hmissing, hfails, ListedCheck.messageFor_compile]
  split_ifs
  · rw [List.map_cons, List.map_map]
    rfl
  · rw [List.map_map]
    rfl

/-- The fields of a stage at a path are found among its compiled entries. -/
theorem stageEntries_compile_filter (fs : Registry) (form : Form) (index : ℕ) (p : FieldPath) :
    (((form.compile fs).stageEntries index).filter (·.path = p)).map (·.field) =
      form.fieldsAt index p := by
  rw [stageEntries_eq]
  rfl

/-- The messages for a path are those of the listed checks that fail. -/
theorem flatMap_failures_eq (fs : Registry) (form : Form) (index : ℕ) (values : ValueTree)
    (p : FieldPath) :
    (((form.compile fs).stageEntries index).filter (·.path = p)).flatMap
        ((form.compile fs).failures values) =
      ((form.listedChecks index p).filter (·.Fails fs values p)).map ListedCheck.message := by
  rw [Form.listedChecks, ← stageEntries_compile_filter fs, List.flatMap_map, List.filter_flatMap,
    List.map_flatMap]
  refine List.flatMap_congr fun e he ↦ ?_
  obtain rfl : e.path = p := of_decide_eq_true (List.mem_filter.1 he).2
  exact failures_eq fs form values e

/-- At a path stands the message of the last listed check that fails. -/
theorem getElem?_validate_compile (fs : Registry) (form : Form) (index : ℕ) (values : ValueTree)
    (p : FieldPath) :
    ((form.compile fs).validate index values)[p]? =
      ((form.listedChecks index p).findRev? (·.Fails fs values p)).map ListedCheck.message := by
  rw [getElem?_validate, flatMap_failures_eq, List.getLast?_map, List.getLast?_filter,
    List.findRev?_eq_find?_reverse]

/-- The last listed check that fails is one behind which none does. -/
theorem getElem?_validate_eq_some_iff (fs : Registry) (form : Form) (index : ℕ) (values : ValueTree)
    (p : FieldPath) (message : String) :
    ((form.compile fs).validate index values)[p]? = some message ↔
      ∃ before check after, form.listedChecks index p = before ++ check :: after ∧
        check.Fails fs values p ∧ (∀ later ∈ after, ¬ later.Fails fs values p) ∧
        check.message = message := by
  rw [getElem?_validate_compile, Option.map_eq_some_iff]
  simp only [List.findRev?_eq_find?_reverse, List.find?_eq_some_iff_append, decide_eq_true_eq,
    Bool.not_eq_true', decide_eq_false_iff_not]
  constructor
  · rintro ⟨check, ⟨hfails, after, before, hsplit, hafter⟩, rfl⟩
    rw [List.reverse_eq_iff, List.reverse_append, List.reverse_cons, List.append_assoc] at hsplit
    refine ⟨before.reverse, check, after.reverse, hsplit, hfails, fun later hlater ↦ ?_, rfl⟩
    exact hafter later (List.mem_reverse.1 hlater)
  · rintro ⟨before, check, after, hsplit, hfails, hafter, rfl⟩
    refine ⟨check, ⟨hfails, after.reverse, before.reverse, ?_, fun later hlater ↦ ?_⟩, rfl⟩
    · rw [hsplit, List.reverse_append, List.reverse_cons, List.append_assoc, List.singleton_append]
    · exact hafter later (List.mem_reverse.1 hlater)

/-- A path has an error if one of its listed checks fails. -/
theorem mem_validate_iff (fs : Registry) (form : Form) (index : ℕ) (values : ValueTree)
    (p : FieldPath) :
    p ∈ (form.compile fs).validate index values ↔
      ∃ check ∈ form.listedChecks index p, check.Fails fs values p := by
  rw [← Std.ExtTreeMap.isSome_getElem?_iff_mem, getElem?_validate_compile, Option.isSome_map,
    List.findRev?_eq_find?_reverse, List.find?_isSome]
  simp only [List.mem_reverse, decide_eq_true_eq]

/-- Only where there is a field there is a check. -/
theorem fieldsAt_ne_nil_of_mem {index : ℕ} {check : ListedCheck}
    (h : check ∈ form.listedChecks index p) : form.fieldsAt index p ≠ [] := by
  obtain ⟨f, hf, -⟩ := List.mem_flatMap.1 h
  exact List.ne_nil_of_mem hf

/-- **Validation reports the last failing check.** At a path stands the message of the last of its
listed checks that fails. So it has an error if and only if a field of the stage has the path and
some listed check fails, and there are no errors behind the last stage. -/
theorem validate_eq_last_failing (fs : Registry) (form : Form) (index : ℕ) (values : ValueTree) :
    (∀ p message, ((form.compile fs).validate index values)[p]? = some message ↔
      ∃ before check after, form.listedChecks index p = before ++ check :: after ∧
        check.Fails fs values p ∧ (∀ later ∈ after, ¬ later.Fails fs values p) ∧
        check.message = message) ∧
    (∀ p, p ∈ (form.compile fs).validate index values ↔ form.fieldsAt index p ≠ [] ∧
      ∃ check ∈ form.listedChecks index p, check.Fails fs values p) ∧
    ∀ k, (form.compile fs).validate (form.stages.length + k) values = ∅ := by
  refine ⟨getElem?_validate_eq_some_iff fs form index values, fun p ↦ ?_, fun k ↦ ?_⟩
  · rw [mem_validate_iff]
    exact ⟨fun ⟨check, hcheck, hfails⟩ ↦ ⟨fieldsAt_ne_nil_of_mem hcheck, check, hcheck, hfails⟩,
      And.right⟩
  · have hstage : form.stages[form.stages.length + k]? = none :=
      List.getElem?_eq_none (Nat.le_add_right _ k)
    rw [validate, stageEntries_eq]
    show ((form.stages[form.stages.length + k]?.map _).getD []).foldl _ _ = _
    rw [hstage]
    rfl

/-- A field for an address, with three checks. -/
def addressField : Field :=
  { Field.plain "email" none with
    required := true
    validations := [⟨.function "fieldValue.length > 5", "Enter a longer address."⟩,
      ⟨.regex "@", ""⟩] }

/-- A form that asks for an address. -/
def addressForm : Form where
  name := "address"
  description := none
  showStageNames := true
  stages := [⟨"sender", none, [.field addressField]⟩]

/-- While nothing is entered the first two checks fail and the pattern is not looked for, so that
the second one has the last word. -/
theorem validate_eq_last_failing_addressForm :
    (ListedCheck.filledIn addressField).Fails .empty addressForm.initialValues (.root "email") ∧
      ((addressForm.compile .empty).validate 0 addressForm.initialValues)[FieldPath.root "email"]? =
        some "Enter a longer address." := by
  refine ⟨by decide +kernel, ((validate_eq_last_failing .empty addressForm 0
    addressForm.initialValues).1 (.root "email") _).2 ?_⟩
  refine ⟨[.filledIn addressField], .rule addressField addressField
      ⟨.function "fieldValue.length > 5", "Enter a longer address."⟩,
    [.rule addressField addressField ⟨.regex "@", ""⟩], rfl, by decide +kernel, ?_, rfl⟩
  intro later hlater
  obtain rfl := List.mem_singleton.1 hlater
  decide +kernel

end CompiledForm

end FormWizard
