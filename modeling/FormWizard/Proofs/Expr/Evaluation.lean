import FormWizard.Formula
import Mathlib.Data.List.Basic

/-!
# What the value of a formula depends on

Formulas nest through lists of arguments. `Expr.induct` is the induction that treats the arguments
of a call by membership, and the equations `Expr.evaluate_unary` to `Expr.evaluate_call` give the
value of a formula from the values of its parts, so that nothing later has to look at traces.

A formula depends on its scope only through the variables that it reads, and on the functions only
through the names that it calls (`Expr.trace_congr`). A constant formula depends on neither
(`Expr.evaluate_of_isConstant`), which is what lets folding evaluate it without a scope.
-/

namespace FormWizard.Expr

/-! ### Induction, and lists of formulas -/

/-- Induction on formulas, with the arguments of a call by membership. -/
@[induction_eliminator]
theorem induct {motive : Expr → Prop} (literal : ∀ v, motive (.literal v))
    (var : ∀ v, motive (.variable v))
    (unary : ∀ op e, motive e → motive (.unary op e))
    (binary : ∀ op l r, motive l → motive r → motive (.binary op l r))
    (conditional : ∀ c t e, motive c → motive t → motive e → motive (.conditional c t e))
    (call : ∀ f args, (∀ a ∈ args, motive a) → motive (.call f args)) (e : Expr) : motive e :=
  @Expr.rec motive (fun es ↦ ∀ a ∈ es, motive a) literal var unary binary conditional
    (fun f args ↦ call f args) (fun _ h ↦ absurd h List.not_mem_nil)
    (fun _ _ head tail _ h ↦ (List.mem_cons.1 h).elim (fun h ↦ h ▸ head) (tail _)) e

theorem readsOfAll_eq (es : List Expr) : readsOfAll es = es.flatMap reads := by
  induction es with
  | nil => rfl
  | cons e es ih => rw [readsOfAll, List.flatMap_cons, ih]

theorem callsOfAll_eq (es : List Expr) : callsOfAll es = es.flatMap calls := by
  induction es with
  | nil => rfl
  | cons e es ih => rw [callsOfAll, List.flatMap_cons, ih]

theorem traceAll_congr {fs gs : Registry} {s t : Scope} {es : List Expr}
    (h : ∀ e ∈ es, e.trace fs s = e.trace gs t) : traceAll fs s es = traceAll gs t es := by
  induction es with
  | nil => rfl
  | cons e es ih =>
    rw [traceAll, traceAll, h e List.mem_cons_self, ih fun a ha ↦ h a (List.mem_cons_of_mem _ ha)]

/-! ### The value of a formula from the values of its parts -/

variable (fs : Registry) (s : Scope)

@[simp]
theorem evaluate_literal (v : Value) : evaluate fs s (.literal v) = .ok v := by
  rw [evaluate, trace]
  rfl

@[simp]
theorem evaluate_variable (v : Variable) : evaluate fs s (.variable v) = s.resolve v := by
  rw [evaluate, trace]
  cases s.resolve v <;> rfl

theorem evaluate_unary (op : UnaryOp) (e : Expr) :
    evaluate fs s (.unary op e) = (evaluate fs s e).bind op.apply := by
  rw [evaluate, trace, evaluate]
  cases e.trace fs s with
  | error => rfl
  | ok t => show ((op.apply t.outcome).bind _).map _ = op.apply t.outcome; cases op.apply _ <;> rfl

/-- The right operand is evaluated only if the left one does not decide. -/
theorem evaluate_binary (op : BinaryOp) (l r : Expr) :
    evaluate fs s (.binary op l r) = (evaluate fs s l).bind fun a ↦
      if op.decides a then .ok a else (evaluate fs s r).bind (op.apply a) := by
  rw [evaluate, trace, evaluate, evaluate]
  rcases l.trace fs s with e | t
  · rfl
  by_cases h : op.decides t.outcome
  · simp [bind, pure, Except.bind, Except.map, Except.pure, h, Trace.outcome]
  -- only now may an error of the right operand come out
  rcases r.trace fs s with e | u
  · simp [bind, Except.bind, Except.map, h]
  cases happly : op.apply t.outcome u.outcome <;>
    simp [bind, pure, Except.bind, Except.map, Except.pure, h, happly, Trace.outcome]

/-- One branch of a choice is evaluated. -/
theorem evaluate_conditional (c t e : Expr) :
    evaluate fs s (.conditional c t e) = (evaluate fs s c).bind fun a ↦
      if a.isTruthy then evaluate fs s t else evaluate fs s e := by
  rw [evaluate, trace, evaluate, evaluate, evaluate]
  rcases c.trace fs s with _ | b
  · rfl
  by_cases h : b.outcome.isTruthy
  · rcases t.trace fs s with _ | u <;>
      simp [bind, pure, Except.bind, Except.map, Except.pure, h, Trace.outcome]
  · rcases e.trace fs s with _ | u <;>
      simp [bind, pure, Except.bind, Except.map, Except.pure, h, Trace.outcome]

/-- The values of a list of formulas, up to the first error. -/
def evaluateAll : List Expr → Except EvalError (List Value)
  | [] => .ok []
  | e :: es => (evaluate fs s e).bind fun v ↦ (evaluateAll es).map (v :: ·)

/-- The values of a list of formulas are the outcomes of their traces. -/
theorem evaluateAll_eq (es : List Expr) :
    evaluateAll fs s es = (traceAll fs s es).map (List.map Trace.outcome) := by
  induction es with
  | nil => rfl
  | cons e es ih =>
    rw [evaluateAll, ih, traceAll, evaluate]
    rcases e.trace fs s with _ | t
    · rfl
    rcases traceAll fs s es with _ | ts <;> rfl

/-- The arguments of a call are evaluated before its function is looked up. -/
theorem evaluate_call (f : String) (args : List Expr) :
    evaluate fs s (.call f args) = (evaluateAll fs s args).bind (fs.call f) := by
  rw [evaluate, trace, evaluateAll_eq]
  rcases traceAll fs s args with _ | ts
  · rfl
  · show ((fs.call f _).bind _).map _ = fs.call f (ts.map Trace.outcome)
    cases fs.call f (ts.map Trace.outcome) <;> rfl

variable {fs s}

/-- Lists of formulas have the same values if their formulas do, one by one. -/
theorem evaluateAll_congr {gs : Registry} {t : Scope} {es ds : List Expr}
    (h : List.Forall₂ (fun e d ↦ evaluate fs s e = evaluate gs t d) es ds) :
    evaluateAll fs s es = evaluateAll gs t ds := by
  induction h with
  | nil => rfl
  | cons hd _ ih => rw [evaluateAll, evaluateAll, hd, ih]

/-! ### What a value depends on -/

variable {gs : Registry} {t : Scope}

/-- Two scopes that agree on what a formula reads, and two registries that agree on what it calls,
give it the same trace. -/
theorem trace_congr (e : Expr) (hreads : ∀ v ∈ e.reads, s.resolve v = t.resolve v)
    (hcalls : ∀ c ∈ e.calls, fs.find? c.1 = gs.find? c.1) : e.trace fs s = e.trace gs t := by
  induction e with
  | literal v => rfl
  | var v => rw [trace, trace, hreads v (by simp [reads])]
  | unary op e ih => rw [trace, trace, ih hreads hcalls]
  | binary op l r ihl ihr =>
    simp only [reads, calls, List.mem_append] at hreads hcalls
    rw [trace, trace, ihl (fun v h ↦ hreads v (.inl h)) fun c h ↦ hcalls c (.inl h),
      ihr (fun v h ↦ hreads v (.inr h)) fun c h ↦ hcalls c (.inr h)]
  | conditional c a b ihc iha ihb =>
    simp only [reads, calls, List.mem_append] at hreads hcalls
    rw [trace, trace,
      ihc (fun v h ↦ hreads v (.inl (.inl h))) fun c h ↦ hcalls c (.inl (.inl h)),
      iha (fun v h ↦ hreads v (.inl (.inr h))) fun c h ↦ hcalls c (.inl (.inr h)),
      ihb (fun v h ↦ hreads v (.inr h)) fun c h ↦ hcalls c (.inr h)]
  | call f args ih =>
    simp only [reads, readsOfAll_eq, List.mem_flatMap] at hreads
    simp only [calls, callsOfAll_eq, List.mem_cons, List.mem_flatMap] at hcalls
    -- the name that is called is the first of the calls, and those of the arguments follow
    have hargs : traceAll fs s args = traceAll gs t args :=
      traceAll_congr fun a ha ↦
        ih a ha (fun v hv ↦ hreads v ⟨a, ha, hv⟩) fun c hc ↦ hcalls c (.inr ⟨a, ha, hc⟩)
    have hf : fs.find? f = gs.find? f := hcalls (f, args) (.inl rfl)
    rw [trace, trace, hargs]
    simp only [Registry.call, hf]

/-- Two scopes that agree on what a formula reads give it the same value. -/
theorem evaluate_congr (e : Expr) (h : ∀ v ∈ e.reads, s.resolve v = t.resolve v) :
    e.evaluate fs s = e.evaluate fs t := by
  rw [evaluate, evaluate, trace_congr e h fun _ _ ↦ rfl]

/-- A formula is constant if it reads nothing and calls nothing. -/
theorem isConstant_iff {e : Expr} : e.isConstant ↔ e.reads = [] ∧ e.calls = [] := by
  simp [isConstant]

/-- A constant formula has the same value everywhere. -/
theorem evaluate_of_isConstant {e : Expr} (h : e.isConstant) (fs gs : Registry) (s t : Scope) :
    e.evaluate fs s = e.evaluate gs t := by
  obtain ⟨hreads, hcalls⟩ := isConstant_iff.1 h
  have htrace : e.trace fs s = e.trace gs t :=
    trace_congr e (by simp [hreads]) (by simp [hcalls])
  rw [evaluate, evaluate, htrace]

end FormWizard.Expr
