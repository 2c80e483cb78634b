import FormWizard.Proofs.Expr.Evaluation
import FormWizard.Proofs.General

/-!
# Where the errors of an evaluation come from

An evaluation that fails passes on one error, and `Expr.evaluate_eq_error` says whose it is: that of
a variable it reads, of an operator, or of a call whose arguments all have values. What each of the
three can fail with is said once and for all:

* a variable fails with `unknownVariable` only if its root is not bound
  (`Scope.ofMembers_of_resolve`), and otherwise for the sake of its members;
* an operator fails on an operand that is no number or on a divisor of zero
  (`EvalError.OfOperator`);
* a call of a known function with an accepted number of arguments fails only as the function itself
  does (`Registry.call_of_accepts`).

The functions that are always there never look for an argument that is not given, and apart from
arguments that are no numbers they fail in one case only, when a pattern is not well formed
(`Callable.run_eq_error_of_mem_builtin`).
-/

namespace FormWizard

namespace EvalError

/-- The error is about names and numbers of arguments, which do not depend on values: a variable
that is not bound, or a call of a function that is not there or does not accept so many. -/
def OfNames : EvalError → Prop
  | .unknownVariable _ => True
  | .unknownFunction _ => True
  | .argumentCount _ _ _ => True
  | _ => False

/-- The error is that of an operator: an operand is no number, or a divisor is zero. -/
def OfOperator : EvalError → Prop
  | .notANumber _ _ => True
  | .divisionByZero => True
  | _ => False

/-- The error is about members: those of no value, or of a group taken for a value. -/
def OfMembers : EvalError → Prop
  | .notAScalar _ => True
  | .memberOfNull _ _ => True
  | _ => False

variable {e : EvalError}

theorem OfOperator.not_ofNames (h : e.OfOperator) : ¬ e.OfNames := by
  cases e <;> first | exact id | exact absurd h id

theorem OfMembers.not_ofNames (h : e.OfMembers) : ¬ e.OfNames := by
  cases e <;> first | exact id | exact absurd h id

end EvalError

/-! ### Variables -/

namespace Scope

variable {s : Scope} {e : EvalError}

/-- Following members into a scalar fails for want of members. -/
theorem ofMembers_of_followScalar {v : Value} {path : String} {members : List String}
    (h : followScalar v path members = .error e) : e.OfMembers := by
  induction members generalizing v path with
  | nil => cases h
  | cons member rest ih =>
    rw [followScalar] at h
    split at h
    · cases h
      trivial
    · exact ih h

theorem ofMembers_of_followGroup {group : Option Members} {path : String} {members : List String}
    (h : followGroup group path members = .error e) : e.OfMembers := by
  cases members with
  | nil =>
    cases h
    trivial
  | cons member rest => exact ofMembers_of_followScalar h

theorem ofMembers_of_followTree {t : ValueTree} {path : String} {members : List String}
    (h : followTree t path members = .error e) : e.OfMembers := by
  cases members with
  | nil =>
    cases h
    trivial
  | cons name rest =>
    rw [followTree] at h
    split at h
    · exact ofMembers_of_followScalar h
    · exact ofMembers_of_followScalar h
    · exact ofMembers_of_followGroup h

/-- A variable whose root is bound fails for the sake of its members only. -/
theorem ofMembers_of_resolve {v : Variable} (hbound : (s.binding? v.root).isSome)
    (h : s.resolve v = .error e) : e.OfMembers := by
  obtain ⟨b, hb⟩ := Option.isSome_iff_exists.1 hbound
  rw [resolve, hb] at h
  cases b with
  | tree values => exact ofMembers_of_followTree h
  | group members => exact ofMembers_of_followGroup h
  | scalar value => exact ofMembers_of_followScalar h

end Scope

/-! ### Operators -/

/-- A sign fails for its operand only. -/
theorem UnaryOp.ofOperator_of_apply {op : UnaryOp} {v : Value} {e : EvalError}
    (h : op.apply v = .error e) : e.OfOperator := by
  cases op with
  | not => cases h
  | negate =>
    rw [apply] at h
    split at h
    · cases h
    · cases h
      trivial

namespace BinaryOp

variable {op : BinaryOp} {l r : Value} {e : EvalError}

/-- Arithmetic fails on an operand that is no number, and otherwise as the operation on numbers. -/
theorem ofOperator_of_arithmetic {f : Float → Float → Except EvalError Float}
    (hf : ∀ x y, f x y = .error e → e.OfOperator) (h : op.arithmetic l r f = .error e) :
    e.OfOperator := by
  rw [arithmetic] at h
  split at h
  · exact hf _ _ (Except.map_eq_error h)
  · cases h
    trivial
  · cases h
    trivial

theorem ofOperator_of_divide? {f : Float → Float → Float} {x y : Float}
    (h : divide? f x y = .error e) : e.OfOperator := by
  rw [divide?] at h
  split at h
  · cases h
    trivial
  · cases h

/-- An operator fails for its operands only. -/
theorem ofOperator_of_apply (h : op.apply l r = .error e) : e.OfOperator := by
  rw [apply.eq_def] at h
  cases op with
  | subtract | multiply =>
    refine ofOperator_of_arithmetic (fun x y hxy ↦ ?_) h
    cases hxy
  | divide => exact ofOperator_of_arithmetic (fun _ _ ↦ ofOperator_of_divide?) h
  | remainder => exact ofOperator_of_arithmetic (fun _ _ ↦ ofOperator_of_divide?) h
  | or | and | equal | notEqual | greater | greaterEqual | less | lessEqual | add => cases h

end BinaryOp

/-! ### Formulas -/

/-- A call of a known function with an accepted number of arguments is up to the function. -/
theorem Registry.call_of_accepts {fs : Registry} {name : String} {f : Callable} {args : List Value}
    (hf : fs.find? name = some f) (hargs : f.arity.accepts args.length) :
    fs.call name args = f.run args := by
  rw [call, hf]
  exact if_pos hargs

namespace Expr

variable {fs : Registry} {s : Scope} {e : EvalError}

/-- The error is that of a variable that is read, of an operator, or of a call whose arguments all
have values. -/
def Blames (fs : Registry) (s : Scope) (program : Expr) (e : EvalError) : Prop :=
  (∃ v ∈ program.reads, s.resolve v = .error e) ∨ e.OfOperator ∨
    ∃ c ∈ program.calls, ∃ args, evaluateAll fs s c.2 = .ok args ∧ fs.call c.1 args = .error e

/-- A formula that has all reads and calls of another is to blame for its errors, too. -/
theorem Blames.mono {p q : Expr} (h : p.Blames fs s e) (hreads : ∀ v ∈ p.reads, v ∈ q.reads)
    (hcalls : ∀ c ∈ p.calls, c ∈ q.calls) : q.Blames fs s e := by
  obtain ⟨v, hv, hresolve⟩ | hop | ⟨c, hc, hcall⟩ := h
  · exact .inl ⟨v, hreads v hv, hresolve⟩
  · exact .inr (.inl hop)
  · exact .inr (.inr ⟨c, hcalls c hc, hcall⟩)

/-- If a list of formulas fails, one of them does. -/
theorem exists_mem_of_evaluateAll {es : List Expr} (h : evaluateAll fs s es = .error e) :
    ∃ a ∈ es, evaluate fs s a = .error e := by
  induction es with
  | nil => cases h
  | cons a es ih =>
    obtain ha | ⟨v, -, hrest⟩ := Except.bind_eq_error h
    · exact ⟨a, List.mem_cons_self, ha⟩
    · obtain ⟨b, hb, hfail⟩ := ih (Except.map_eq_error hrest)
      exact ⟨b, List.mem_cons_of_mem a hb, hfail⟩

/-- Formulas that all have values have them one by one. -/
theorem forall₂_of_evaluateAll {es : List Expr} {vs : List Value}
    (h : evaluateAll fs s es = .ok vs) :
    List.Forall₂ (fun e v ↦ evaluate fs s e = .ok v) es vs := by
  induction es generalizing vs with
  | nil =>
    cases h
    exact .nil
  | cons a es ih =>
    obtain ⟨v, ha, hrest⟩ := Except.bind_eq_ok h
    obtain ⟨ws, hes, rfl⟩ := Except.map_eq_ok hrest
    exact .cons ha (ih hes)

/-- An evaluation that fails has the error of something in it. -/
theorem evaluate_eq_error {program : Expr} (h : program.evaluate fs s = .error e) :
    program.Blames fs s e := by
  induction program with
  | literal v =>
    rw [evaluate_literal] at h
    cases h
  | var v =>
    rw [evaluate_variable] at h
    exact .inl ⟨v, List.mem_cons_self, h⟩
  | unary op a ih =>
    rw [evaluate_unary] at h
    obtain ha | ⟨v, -, hop⟩ := Except.bind_eq_error h
    · exact ih ha
    · exact .inr (.inl (UnaryOp.ofOperator_of_apply hop))
  | binary op l r ihl ihr =>
    rw [evaluate_binary] at h
    obtain hl | ⟨v, -, hright⟩ := Except.bind_eq_error h
    · exact (ihl hl).mono (fun _ ↦ List.mem_append_left _) fun _ ↦ List.mem_append_left _
    split at hright
    · cases hright
    -- both operands are evaluated, and the operator is applied to their values
    obtain hr | ⟨w, -, hop⟩ := Except.bind_eq_error hright
    · exact (ihr hr).mono (fun _ ↦ List.mem_append_right _) fun _ ↦ List.mem_append_right _
    · exact .inr (.inl (BinaryOp.ofOperator_of_apply hop))
  | conditional c a b ihc iha ihb =>
    rw [evaluate_conditional] at h
    obtain hc | ⟨v, -, hbranch⟩ := Except.bind_eq_error h
    · exact (ihc hc).mono (fun _ hv ↦ List.mem_append_left _ (List.mem_append_left _ hv))
        fun _ hd ↦ List.mem_append_left _ (List.mem_append_left _ hd)
    split at hbranch
    · exact (iha hbranch).mono (fun _ hv ↦ List.mem_append_left _ (List.mem_append_right _ hv))
        fun _ hd ↦ List.mem_append_left _ (List.mem_append_right _ hd)
    · exact (ihb hbranch).mono (fun _ ↦ List.mem_append_right _) fun _ ↦ List.mem_append_right _
  | call f args ih =>
    rw [evaluate_call] at h
    obtain hargs | ⟨vs, hargs, hcall⟩ := Except.bind_eq_error h
    · obtain ⟨a, ha, hfail⟩ := exists_mem_of_evaluateAll hargs
      refine (ih a ha hfail).mono (fun v hv ↦ ?_) fun c hc ↦ ?_
      · rw [reads, readsOfAll_eq]
        exact List.mem_flatMap.2 ⟨a, ha, hv⟩
      · rw [calls, callsOfAll_eq]
        exact List.mem_cons_of_mem _ (List.mem_flatMap.2 ⟨a, ha, hc⟩)
    · exact .inr (.inr ⟨(f, args), List.mem_cons_self, vs, hargs, hcall⟩)

end Expr

/-! ### The functions that are always there -/

/-- A registry has the functions that were put in, and those it had. -/
theorem Registry.mem_insertAll {r : Registry} {fs : List Callable} {f : Callable}
    (h : f ∈ (r.insertAll fs).functions) : f ∈ fs ∨ f ∈ r.functions := by
  induction fs generalizing r with
  | nil => exact .inr h
  | cons g fs ih =>
    obtain hf | hf := ih h
    · exact .inl (List.mem_cons_of_mem g hf)
    · obtain rfl | hf := List.mem_cons.1 hf
      · exact .inl List.mem_cons_self
      · exact .inr (List.mem_of_mem_filter hf)

namespace Callable

variable {name : String} {args : List Value} {e : EvalError} {i : ℕ}

theorem argument_of_lt (h : i < args.length) : argument name args i = .ok args[i] := by
  rw [argument, List.getElem?_eq_getElem h]

/-- An argument that is given may only fail to be a number. -/
theorem ofOperator_of_numberAt (h : i < args.length) (he : numberAt name args i = .error e) :
    e.OfOperator := by
  obtain hnone | ⟨v, -, hv⟩ := Except.bind_eq_error he
  · rw [argument_of_lt h] at hnone
    cases hnone
  · split at hv
    · cases hv
    · cases hv
      trivial

/-- Given a single argument, a function of one number fails for it only. -/
theorem ofOperator_of_ofUnary {f : Float → Float} (h : args.length = 1)
    (he : (ofUnary name f).run args = .error e) : e.OfOperator := by
  obtain hx | ⟨x, -, hx⟩ := Except.bind_eq_error he
  · exact ofOperator_of_numberAt (by omega) hx
  · cases hx

/-- Given two arguments, a function of two numbers fails for these only. -/
theorem ofOperator_of_ofBinary {f : Float → Float → Float} (h : args.length = 2)
    (he : (ofBinary name f).run args = .error e) : e.OfOperator := by
  obtain hx | ⟨x, -, hnext⟩ := Except.bind_eq_error he
  · exact ofOperator_of_numberAt (by omega) hx
  obtain hy | ⟨y, -, hy⟩ := Except.bind_eq_error hnext
  · exact ofOperator_of_numberAt (by omega) hy
  · cases hy

/-- Rounding looks for a second argument only if there is one. -/
theorem ofOperator_of_round (h : 1 ≤ args.length) (he : round.run args = .error e) :
    e.OfOperator := by
  obtain hx | ⟨x, -, hnext⟩ := Except.bind_eq_error he
  · exact ofOperator_of_numberAt h hx
  dsimp only at hnext
  split at hnext
  · cases hnext
  · obtain hy | ⟨y, -, hy⟩ := Except.bind_eq_error hnext
    · exact ofOperator_of_numberAt (by omega) hy
    · cases hy

/-- A function that takes one argument as it is does not fail. -/
theorem run_argument_of_lt {f : Value → Value} (h : i < args.length) :
    ((argument name args i).bind fun v ↦ .ok (f v)) ≠ .error e := by
  rw [argument_of_lt h]
  exact nofun

/-- A text is searched for a pattern unless the pattern is not well formed. -/
theorem run_matching (text pattern : Value) :
    matching.run [text, pattern] = match Pattern.ofText pattern.shown with
      | .ok p => .ok (.bool (p.occursIn text.shown))
      | .error flaw => .error (.invalidPattern "matches" (flaw.report pattern.shown)) := rfl

/-- Given a number of arguments that it accepts, a function that is always there fails on an
argument that is no number or on a pattern that is not well formed, and in no other way. -/
theorem run_eq_error_of_mem_builtin {f : Callable} (hf : f ∈ Registry.builtin.functions)
    (hargs : f.arity.accepts args.length) (he : f.run args = .error e) :
    e.OfOperator ∨ f = matching ∧ ∃ report, e = .invalidPattern "matches" report := by
  have hmem := (Registry.mem_insertAll hf).resolve_right List.not_mem_nil
  simp only [List.mem_cons, List.not_mem_nil, or_false] at hmem
  -- the number of arguments says which of them may be looked for
  have hexact {n : ℕ} (h : Arity.accepts args.length (.exact n) = true) : args.length = n :=
    eq_of_beq h
  obtain rfl | rfl | rfl | rfl | rfl | rfl | rfl | rfl | rfl | rfl | rfl | rfl | rfl := hmem
  · exact .inl (ofOperator_of_ofUnary (hexact hargs) he)
  · exact .inl (ofOperator_of_ofUnary (hexact hargs) he)
  · exact .inl (ofOperator_of_ofUnary (hexact hargs) he)
  · exact .inl (ofOperator_of_ofUnary (hexact hargs) he)
  · exact .inl (ofOperator_of_ofBinary (hexact hargs) he)
  · exact .inl (ofOperator_of_ofBinary (hexact hargs) he)
  · exact .inl (ofOperator_of_ofBinary (hexact hargs) he)
  · have hbetween : (decide (1 ≤ args.length) && decide (args.length ≤ 2)) = true := hargs
    rw [Bool.and_eq_true, decide_eq_true_eq] at hbetween
    exact .inl (ofOperator_of_round hbetween.1 he)
  · have hone : args.length = 1 := hexact hargs
    exact absurd he (run_argument_of_lt (by omega))
  · have hone : args.length = 1 := hexact hargs
    exact absurd he (run_argument_of_lt (by omega))
  · exact .inl (ofOperator_of_ofUnary (hexact hargs) he)
  · cases he
  · obtain ⟨text, pattern, rfl⟩ := List.length_eq_two.1 (hexact hargs)
    rw [run_matching] at he
    split at he
    · cases he
    · cases he
      exact .inr ⟨rfl, _, rfl⟩

end Callable

end FormWizard
