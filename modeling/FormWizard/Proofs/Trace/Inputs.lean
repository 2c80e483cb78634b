import FormWizard.Proofs.Expr.Failure

/-!
# What a trace rests on

`Trace.inputs` lists the variables that a trace shows as read, with the values read. Nothing else of
the scope has gone into the trace: `Trace.Explains` says without a scope what makes a trace one of a
formula, and a formula is evaluated to a trace exactly where the trace explains the formula and the
scope gives its inputs the values shown (`Expr.trace_eq_ok_iff`).

So two scopes that agree on the inputs of a trace are the same for it
(`Expr.trace_eq_iff_of_trace_eq`). They may differ on everything else, be it in the operand that an
operator passed over or in the branch that was not taken.
-/

namespace FormWizard

namespace Trace

mutual

/-- The variables read, with their values, from left to right. -/
def inputs : Trace → List (Variable × Value)
  | .literal _ => []
  | .input v x => [(v, x)]
  | .unary _ operand _ => inputs operand
  | .binary _ left right _ => inputs left ++ inputs right
  | .decided _ left => inputs left
  | .conditional condition branch => inputs condition ++ inputs branch
  | .call _ args _ => inputsOfAll args

/-- The variables read by a list of traces. -/
def inputsOfAll : List Trace → List (Variable × Value)
  | [] => []
  | t :: ts => inputs t ++ inputsOfAll ts

end

theorem inputsOfAll_eq (ts : List Trace) : inputsOfAll ts = ts.flatMap inputs := by
  induction ts with
  | nil => rfl
  | cons t ts ih => rw [inputsOfAll, List.flatMap_cons, ih]

/-- The trace is one of the formula, wherever its inputs were read: every outcome is that of the
operator or function applied to the outcomes below, an operand is passed over only if the one before
it decides, and the branch is the one that the condition chooses. -/
inductive Explains (fs : Registry) : Trace → Expr → Prop where
  /-- A value written out. -/
  | literal (v : Value) : Explains fs (.literal v) (.literal v)
  /-- A variable, with any value. -/
  | input (v : Variable) (x : Value) : Explains fs (.input v x) (.variable v)
  /-- An operator in front of an operand. -/
  | unary {op : UnaryOp} {t : Trace} {e : Expr} {v : Value} : Explains fs t e →
      op.apply t.outcome = .ok v → Explains fs (.unary op t v) (.unary op e)
  /-- An operator whose left operand decides; its right operand may be anything. -/
  | decided {op : BinaryOp} {t : Trace} {l : Expr} (r : Expr) : Explains fs t l →
      op.decides t.outcome = true → Explains fs (.decided op t) (.binary op l r)
  /-- An operator between two operands. -/
  | binary {op : BinaryOp} {t u : Trace} {l r : Expr} {v : Value} : Explains fs t l →
      op.decides t.outcome = false → Explains fs u r → op.apply t.outcome u.outcome = .ok v →
      Explains fs (.binary op t u v) (.binary op l r)
  /-- A choice whose condition holds; its second branch may be anything. -/
  | consequent {t u : Trace} {c a : Expr} (b : Expr) : Explains fs t c →
      t.outcome.isTruthy = true → Explains fs u a →
      Explains fs (.conditional t u) (.conditional c a b)
  /-- A choice whose condition does not hold; its first branch may be anything. -/
  | alternative {t u : Trace} {c b : Expr} (a : Expr) : Explains fs t c →
      t.outcome.isTruthy = false → Explains fs u b →
      Explains fs (.conditional t u) (.conditional c a b)
  /-- A call, with the traces of its arguments. -/
  | call {f : String} {parts : List (Trace × Expr)} {v : Value} :
      (∀ p ∈ parts, Explains fs p.1 p.2) → fs.call f (parts.map fun p ↦ p.1.outcome) = .ok v →
      Explains fs (.call f (parts.map Prod.fst) v) (.call f (parts.map Prod.snd))

end Trace

/-- The scope gives the inputs of the trace the values shown. -/
def Scope.Gives (s : Scope) (t : Trace) : Prop := ∀ p ∈ t.inputs, s.resolve p.1 = .ok p.2

namespace Scope

variable {s : Scope} {t u : Trace} {ts : List Trace} {f : String} {v : Value}

theorem gives_binary_iff {op : BinaryOp} : s.Gives (.binary op t u v) ↔ s.Gives t ∧ s.Gives u :=
  List.forall_mem_append

/-- A scope gives the inputs of a choice if it gives those of the condition and of the branch taken.
-/
theorem gives_conditional_iff : s.Gives (.conditional t u) ↔ s.Gives t ∧ s.Gives u :=
  List.forall_mem_append

theorem gives_call_iff : s.Gives (.call f ts v) ↔ ∀ t ∈ ts, s.Gives t := by
  simp only [Gives, Trace.inputs, Trace.inputsOfAll_eq, List.forall_mem_flatMap]

end Scope

namespace Expr

open Trace

variable {fs : Registry} {s s' : Scope} {e : Expr} {t : Trace}

/-! ### The trace of a formula from the traces of its parts -/

theorem trace_unary (op : UnaryOp) (e : Expr) :
    trace fs s (.unary op e) =
      (e.trace fs s).bind fun t ↦ (op.apply t.outcome).map (.unary op t) := by
  rw [trace]
  rcases e.trace fs s with _ | t
  · rfl
  · show (op.apply t.outcome).bind _ = (op.apply t.outcome).map _
    cases op.apply t.outcome <;> rfl

/-- The right operand is traced only if the left one does not decide. -/
theorem trace_binary (op : BinaryOp) (l r : Expr) :
    trace fs s (.binary op l r) = (l.trace fs s).bind fun t ↦
      if op.decides t.outcome then .ok (.decided op t)
      else (r.trace fs s).bind fun u ↦ (op.apply t.outcome u.outcome).map (.binary op t u) := by
  rw [trace]
  rcases l.trace fs s with _ | t
  · rfl
  refine if_congr Iff.rfl rfl ?_
  rcases r.trace fs s with _ | u
  · rfl
  · show (op.apply t.outcome u.outcome).bind _ = (op.apply t.outcome u.outcome).map _
    cases op.apply t.outcome u.outcome <;> rfl

/-- Only the branch that is taken is traced. -/
theorem trace_conditional (c a b : Expr) :
    trace fs s (.conditional c a b) = (c.trace fs s).bind fun t ↦
      (if t.outcome.isTruthy then a.trace fs s else b.trace fs s).map (.conditional t) := by
  rw [trace]
  rcases c.trace fs s with _ | t
  · rfl
  refine (if_congr Iff.rfl ?_ ?_).trans (apply_ite (Except.map (Trace.conditional t)) _ _ _).symm
  · cases a.trace fs s <;> rfl
  · cases b.trace fs s <;> rfl

/-- All arguments are traced before the function is called. -/
theorem trace_call (f : String) (args : List Expr) :
    trace fs s (.call f args) = (traceAll fs s args).bind fun ts ↦
      (fs.call f (ts.map Trace.outcome)).map (.call f ts) := by
  rw [trace]
  rcases traceAll fs s args with _ | ts
  · rfl
  · show (fs.call f (ts.map Trace.outcome)).bind _ = (fs.call f (ts.map Trace.outcome)).map _
    cases fs.call f (ts.map Trace.outcome) <;> rfl

/-- The arguments of a call are traced one by one. -/
theorem traceAll_eq_ok_iff {es : List Expr} {ts : List Trace} :
    traceAll fs s es = .ok ts ↔ List.Forall₂ (fun t e ↦ e.trace fs s = .ok t) ts es := by
  constructor
  · intro h
    induction es generalizing ts with
    | nil =>
      cases h
      exact .nil
    | cons e es ih =>
      rw [traceAll] at h
      obtain ⟨t, ht, h⟩ := Except.bind_eq_ok h
      obtain ⟨us, hus, h⟩ := Except.bind_eq_ok h
      cases h
      exact .cons ht (ih hus)
  · intro h
    induction h with
    | nil => rfl
    | cons ht _ ih =>
      rw [traceAll, ht, ih]
      rfl

/-! ### Traces and the scopes they are found in -/

/-- The trace of a formula explains it, and the scope gives its inputs. -/
theorem explains_of_trace_eq (h : e.trace fs s = .ok t) : t.Explains fs e ∧ s.Gives t := by
  induction e generalizing t with
  | literal v =>
    cases h
    exact ⟨.literal v, nofun⟩
  | var v =>
    rw [trace] at h
    obtain ⟨x, hx, h⟩ := Except.bind_eq_ok h
    cases h
    exact ⟨.input v x, List.forall_mem_singleton.2 hx⟩
  | unary op e ih =>
    rw [trace_unary] at h
    obtain ⟨t, ht, h⟩ := Except.bind_eq_ok h
    obtain ⟨v, hv, rfl⟩ := Except.map_eq_ok h
    obtain ⟨hexplains, hgives⟩ := ih ht
    exact ⟨.unary hexplains hv, hgives⟩
  | binary op l r ihl ihr =>
    rw [trace_binary] at h
    obtain ⟨t, ht, h⟩ := Except.bind_eq_ok h
    obtain ⟨hleft, hgives⟩ := ihl ht
    split at h
    · -- a right operand that was not looked at may be any
      rename_i hdecides
      cases h
      exact ⟨.decided r hleft hdecides, hgives⟩
    · rename_i hdecides
      obtain ⟨u, hu, h⟩ := Except.bind_eq_ok h
      obtain ⟨v, hv, rfl⟩ := Except.map_eq_ok h
      obtain ⟨hright, hgives'⟩ := ihr hu
      exact ⟨.binary hleft (Bool.eq_false_iff.2 hdecides) hright hv,
        Scope.gives_binary_iff.2 ⟨hgives, hgives'⟩⟩
  | conditional c a b ihc iha ihb =>
    rw [trace_conditional] at h
    obtain ⟨t, ht, h⟩ := Except.bind_eq_ok h
    obtain ⟨u, hu, rfl⟩ := Except.map_eq_ok h
    obtain ⟨hcondition, hgives⟩ := ihc ht
    split at hu
    · rename_i hholds
      obtain ⟨hbranch, hgives'⟩ := iha hu
      exact ⟨.consequent b hcondition hholds hbranch,
        Scope.gives_conditional_iff.2 ⟨hgives, hgives'⟩⟩
    · rename_i hholds
      obtain ⟨hbranch, hgives'⟩ := ihb hu
      exact ⟨.alternative a hcondition (Bool.eq_false_iff.2 hholds) hbranch,
        Scope.gives_conditional_iff.2 ⟨hgives, hgives'⟩⟩
  | call f args ih =>
    rw [trace_call] at h
    obtain ⟨ts, hts, h⟩ := Except.bind_eq_ok h
    obtain ⟨v, hv, rfl⟩ := Except.map_eq_ok h
    obtain ⟨hlength, hzip⟩ := List.forall₂_iff_zip.1 (traceAll_eq_ok_iff.1 hts)
    -- `Explains.call` has the traces and the arguments in pairs
    have hfst : (ts.zip args).map Prod.fst = ts := List.map_fst_zip hlength.le
    have hsnd : (ts.zip args).map Prod.snd = args := List.map_snd_zip hlength.ge
    have hparts : ∀ p ∈ ts.zip args, p.1.Explains fs p.2 ∧ s.Gives p.1 := fun p hp ↦
      ih p.2 (List.of_mem_zip hp).2 (hzip hp)
    have hcall : fs.call f ((ts.zip args).map fun p ↦ p.1.outcome) = .ok v := by
      rw [← hv, ← congrArg (List.map Trace.outcome) hfst, List.map_map]
      rfl
    have hexplains := Explains.call (fun p hp ↦ (hparts p hp).1) hcall
    rw [hfst, hsnd] at hexplains
    refine ⟨hexplains, Scope.gives_call_iff.2 fun t ht ↦ ?_⟩
    rw [← hfst] at ht
    obtain ⟨p, hp, rfl⟩ := List.mem_map.1 ht
    exact (hparts p hp).2

/-- A trace that explains a formula is its trace in every scope that gives the inputs. -/
theorem trace_eq_of_explains (h : t.Explains fs e) (hgives : s.Gives t) :
    e.trace fs s = .ok t := by
  induction h with
  | literal v => rfl
  | input v x =>
    rw [trace, hgives (v, x) List.mem_cons_self]
    rfl
  | unary _ hv ih =>
    rw [trace_unary, ih hgives, Except.bind, hv]
    rfl
  | decided r _ hdecides ih =>
    rw [trace_binary, ih hgives, Except.bind, if_pos hdecides]
  | binary _ hdecides _ hv ihl ihr =>
    obtain ⟨hleft, hright⟩ := Scope.gives_binary_iff.1 hgives
    rw [trace_binary, ihl hleft, ihr hright, Except.bind, if_neg (Bool.eq_false_iff.1 hdecides),
      Except.bind, hv]
    rfl
  | consequent b _ hholds _ ihc iha =>
    obtain ⟨hcondition, hbranch⟩ := Scope.gives_conditional_iff.1 hgives
    rw [trace_conditional, ihc hcondition, Except.bind, if_pos hholds, iha hbranch]
    rfl
  | alternative a _ hholds _ ihc ihb =>
    obtain ⟨hcondition, hbranch⟩ := Scope.gives_conditional_iff.1 hgives
    rw [trace_conditional, ihc hcondition, Except.bind, if_neg (Bool.eq_false_iff.1 hholds),
      ihb hbranch]
    rfl
  | @call f parts v _ hv ih =>
    have hargs : traceAll fs s (parts.map Prod.snd) = .ok (parts.map Prod.fst) := by
      refine traceAll_eq_ok_iff.2 (List.forall₂_map_left_iff.2 (List.forall₂_map_right_iff.2 ?_))
      exact List.forall₂_same.2 fun p hp ↦
        ih p hp (Scope.gives_call_iff.1 hgives p.1 (List.mem_map_of_mem hp))
    have hcall : fs.call f ((parts.map Prod.fst).map Trace.outcome) = .ok v := by
      rw [List.map_map]
      exact hv
    rw [trace_call, hargs, Except.bind, hcall]
    rfl

/-- A formula is evaluated to a trace exactly where the trace explains the formula and its inputs
have the values shown. -/
theorem trace_eq_ok_iff : e.trace fs s = .ok t ↔ t.Explains fs e ∧ s.Gives t :=
  ⟨explains_of_trace_eq, fun h ↦ trace_eq_of_explains h.1 h.2⟩

/-- A trace found in one scope is found in another one exactly if the two agree on its inputs, and
then the value of the formula is the same. -/
theorem trace_eq_iff_of_trace_eq (h : e.trace fs s = .ok t) :
    (e.trace fs s' = .ok t ↔ ∀ p ∈ t.inputs, s'.resolve p.1 = s.resolve p.1) ∧
      ((∀ p ∈ t.inputs, s'.resolve p.1 = s.resolve p.1) →
        e.evaluate fs s' = .ok t.outcome ∧ e.evaluate fs s = .ok t.outcome) := by
  obtain ⟨hexplains, hgives⟩ := trace_eq_ok_iff.1 h
  have hiff : e.trace fs s' = .ok t ↔ ∀ p ∈ t.inputs, s'.resolve p.1 = s.resolve p.1 := by
    rw [trace_eq_ok_iff, and_iff_right hexplains]
    exact forall₂_congr fun p hp ↦ by rw [hgives p hp]
  refine ⟨hiff, fun hagree ↦ ?_⟩
  rw [evaluate, evaluate, hiff.2 hagree, h]
  exact ⟨rfl, rfl⟩

/-- The formula `fieldValue || formValue.length > 3`, which looks at `formValue` only if there is no
value. -/
def valueOrLength : Expr :=
  .binary .or (.variable ⟨"fieldValue", []⟩)
    (.binary .greater (.variable ⟨"formValue", ["length"]⟩) (.literal (.number 3.0)))

/-- Reading what `valueOrLength` does not look at may fail in one of the scopes. -/
theorem trace_eq_iff_of_trace_eq_valueOrLength :
    let t : Trace := .decided .or (.input ⟨"fieldValue", []⟩ (.text "paid"))
    let s := Scope.predicate "state" (.text "paid") (.scalar (.text "by hand")) ∅
    let s' := Scope.predicate "status" (.text "paid") (.scalar .null) ∅
    valueOrLength.trace .builtin s = .ok t ∧
      (∀ p ∈ t.inputs, s'.resolve p.1 = s.resolve p.1) ∧
      s.resolve ⟨"formValue", ["length"]⟩ = .ok (.number (Float.ofNat 7)) ∧
      s'.resolve ⟨"formValue", ["length"]⟩ = .error (.memberOfNull "formValue" "length") ∧
      valueOrLength.trace .builtin s' = .ok t ∧
      valueOrLength.evaluate .builtin s' = .ok (.text "paid") := by
  intro t s s'
  have h : valueOrLength.trace .builtin s = .ok t := rfl
  have hagree : ∀ p ∈ t.inputs, s'.resolve p.1 = s.resolve p.1 := List.forall_mem_singleton.2 rfl
  have hsame : valueOrLength.trace .builtin s' = .ok t := (trace_eq_iff_of_trace_eq h).1.2 hagree
  have houtcome : valueOrLength.evaluate .builtin s' = .ok t.outcome :=
    ((trace_eq_iff_of_trace_eq h).2 hagree).1
  exact ⟨h, hagree, rfl, rfl, hsame, houtcome⟩

end Expr

end FormWizard
