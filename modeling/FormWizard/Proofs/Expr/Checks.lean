import FormWizard.Proofs.Expr.Failure
import FormWizard.Proofs.Expr.Folding
import Mathlib.Data.List.Flatten
import Mathlib.Tactic.FinCases

/-!
# What is checked when a formula is compiled holds when it is evaluated

Names and numbers of arguments are checked in the formula as it was read, and patterns in the folded
one; what is evaluated is the folded one, in a scope that the checks have not seen. Three facts tie
these together:

* folding only ever drops variables and calls, so what it leaves has passed the same checks
  (`Expr.reads_foldPass_sublist`, `Expr.callShapes_foldPass_sublist`);
* the scope of a site binds the roots that the checks allow there (`Site.Binds.isSome_binding?`);
* a pattern that is a literal of the folded formula is the text that the function is called with.

`Expr.evaluate_of_compile` draws the conclusion for every formula that compiles.
-/

namespace FormWizard

/-! ### Sites of formulas -/

/-- The sites in a form where formulas stand. -/
inductive Site where
  /-- The formula of a computed field. -/
  | computed
  /-- The formula of a validation rule. -/
  | predicate

/-- The roots that a formula may read. -/
def Site.roots : Site → List String
  | .computed => Scope.computedRoots
  | .predicate => Scope.predicateRoots

/-- The scopes in which a formula is evaluated. -/
inductive Site.Binds : Site → Scope → Prop where
  /-- A computed field reads the values. -/
  | computed (values : ValueTree) : Binds .computed (.computed values)
  /-- A rule reads the name and value of its field, what is around it, and the values. -/
  | predicate (fieldName : String) (fieldValue : Value) (formValue : Binding) (values : ValueTree) :
      Binds .predicate (.predicate fieldName fieldValue formValue values)

/-- The roots that are allowed are bound. -/
theorem Site.Binds.isSome_binding? {site : Site} {s : Scope} (hs : site.Binds s) {root : String}
    (hroot : root ∈ site.roots) : (s.binding? root).isSome := by
  cases hs with
  | computed values =>
    obtain rfl := List.mem_singleton.1 hroot
    rfl
  | predicate fieldName fieldValue formValue values =>
    have hroot : root ∈ ["fieldName", "fieldValue", "formValue", "values"] := hroot
    fin_cases hroot <;> rfl

namespace Expr

variable {fs : Registry} {roots : List String} {e : Expr}

/-! ### What folding leaves of variables and calls -/

/-- The calls, each with the number of its arguments. -/
def callShapes (e : Expr) : List (String × ℕ) := e.calls.map fun c ↦ (c.1, c.2.length)

@[simp]
theorem callShapes_binary (op : BinaryOp) (l r : Expr) :
    callShapes (.binary op l r) = callShapes l ++ callShapes r := List.map_append

@[simp]
theorem callShapes_conditional (c t e : Expr) :
    callShapes (.conditional c t e) = callShapes c ++ callShapes t ++ callShapes e := by
  rw [callShapes, calls, List.map_append, List.map_append]
  rfl

/-- A call comes in front of the calls in its arguments. -/
@[simp]
theorem callShapes_call (f : String) (args : List Expr) :
    callShapes (.call f args) = (f, args.length) :: args.flatMap callShapes := by
  rw [callShapes, calls, callsOfAll_eq, List.map_cons, List.map_flatMap]
  rfl

/-- A rule that applies keeps one part of a formula, or a literal. -/
theorem sublist_shorten (e : Expr) :
    e.shorten.reads.Sublist e.reads ∧ e.shorten.callShapes.Sublist e.callShapes := by
  fun_cases shorten e with
  | case1 v r h | case4 v r h =>
    rw [callShapes_binary]
    exact ⟨List.sublist_append_right _ _, List.sublist_append_right _ _⟩
  | case2 v r h | case3 v r h => exact ⟨List.nil_sublist _, List.nil_sublist _⟩
  | case5 v t e h =>
    rw [callShapes_conditional]
    exact ⟨List.sublist_append_left _ _, List.sublist_append_left _ _⟩
  | case6 v t e h =>
    rw [callShapes_conditional]
    exact ⟨List.sublist_append_right _ _, List.sublist_append_right _ _⟩
  | case7 e => exact ⟨List.Sublist.refl _, List.Sublist.refl _⟩
  | case8 => exact ⟨List.Sublist.refl _, List.Sublist.refl _⟩

/-- A rule drops reads and calls, and never adds any. -/
theorem sublist_simplify (e : Expr) :
    e.simplify.reads.Sublist e.reads ∧ e.simplify.callShapes.Sublist e.callShapes := by
  rw [simplify]
  split_ifs with hliteral hconstant
  · exact ⟨List.Sublist.refl _, List.Sublist.refl _⟩
  · obtain hsettle | ⟨v, hsettle⟩ := settle_eq e
    · rw [hsettle]
      exact ⟨List.Sublist.refl _, List.Sublist.refl _⟩
    · rw [hsettle]
      exact ⟨List.nil_sublist _, List.nil_sublist _⟩
  · exact sublist_shorten e

/-- A pass reads nothing that was not read before, and in the order of before. -/
theorem reads_foldPass_sublist (e : Expr) : e.foldPass.reads.Sublist e.reads := by
  induction e with
  | literal v => exact List.Sublist.refl _
  | var v => exact List.Sublist.refl _
  | unary op e ih => exact (sublist_simplify _).1.trans ih
  | binary op l r ihl ihr => exact (sublist_simplify _).1.trans (ihl.append ihr)
  | conditional c t e ihc iht ihe =>
    exact (sublist_simplify _).1.trans ((ihc.append iht).append ihe)
  | call f args ih =>
    refine (sublist_simplify _).1.trans ?_
    rw [foldPassAll_eq, reads, reads, readsOfAll_eq, readsOfAll_eq, List.flatMap_map]
    exact List.Sublist.flatMap_right args ih

/-- A pass calls nothing that was not called before with so many arguments, and in the order of
before. -/
theorem callShapes_foldPass_sublist (e : Expr) : e.foldPass.callShapes.Sublist e.callShapes := by
  induction e with
  | literal v => exact List.Sublist.refl _
  | var v => exact List.Sublist.refl _
  | unary op e ih => exact (sublist_simplify _).2.trans ih
  | binary op l r ihl ihr =>
    refine (sublist_simplify _).2.trans ?_
    simpa using ihl.append ihr
  | conditional c t e ihc iht ihe =>
    refine (sublist_simplify _).2.trans ?_
    simpa using (ihc.append iht).append ihe
  | call f args ih =>
    refine (sublist_simplify _).2.trans ?_
    -- the call itself stays, with as many arguments as before
    simp only [callShapes_call, foldPassAll_eq, List.length_map, List.flatMap_map]
    exact (List.Sublist.flatMap_right args ih).cons_cons _

/-! ### What compiling has checked -/

/-- All variables have one of the roots, and all calls are of functions that accept as many
arguments. -/
structure Checked (fs : Registry) (roots : List String) (e : Expr) : Prop where
  /-- The variables have one of the roots. -/
  root_mem : ∀ v ∈ e.reads, v.root ∈ roots
  /-- The functions called accept as many arguments. -/
  accepts : ∀ c ∈ e.callShapes, ∃ f, fs.find? c.1 = some f ∧ f.arity.accepts c.2

/-- Calls that pass are calls of functions that take as many arguments. -/
theorem accepts_of_checkCalls {calls : List (String × List Expr)}
    (h : checkCalls fs calls = .ok ()) {c : String × List Expr} (hc : c ∈ calls) :
    ∃ f, fs.find? c.1 = some f ∧ f.arity.accepts c.2.length := by
  induction calls with
  | nil => cases hc
  | cons d calls ih =>
    rw [checkCalls] at h
    split at h
    · cases h
    · rename_i f hf
      split at h
      · rename_i haccepts
        obtain rfl | hc := List.mem_cons.1 hc
        · exact ⟨f, hf, haccepts⟩
        · exact ih h hc
      · cases h

/-- Variables that pass begin with one of the names that there are. -/
theorem root_mem_of_checkVariables {reads : List Variable}
    (h : checkVariables roots reads = .ok ()) {v : Variable} (hv : v ∈ reads) : v.root ∈ roots := by
  rw [checkVariables] at h
  split at h
  · cases h
  · rename_i hnone
    have hroot := List.find?_eq_none.1 hnone v hv
    simpa using hroot

/-- Calls that pass have constants that their functions can prepare. -/
theorem prepare_of_prepareCalls {calls : List (String × List Expr)}
    (h : prepareCalls fs calls = .ok ()) {c : String × List Expr} (hc : c ∈ calls) {f : Callable}
    (hf : fs.find? c.1 = some f) : f.prepare (c.2.map literal?) = .ok () := by
  induction calls with
  | nil => cases hc
  | cons d calls ih =>
    obtain ⟨name, args⟩ := d
    rw [prepareCalls] at h
    split at h
    · rename_i hnone
      obtain rfl | hc := List.mem_cons.1 hc
      · rw [hf] at hnone
        cases hnone
      · exact ih h hc
    · rename_i g hg
      obtain ⟨⟨⟩, hprepare, hrest⟩ := Except.bind_eq_ok h
      obtain rfl | hc := List.mem_cons.1 hc
      · obtain rfl : g = f := Option.some.inj (hg.symm.trans hf)
        exact hprepare
      · exact ih hrest hc

/-- A formula that passes the checks does so when it is folded. -/
theorem Checked.foldPass (h : e.Checked fs roots) : e.foldPass.Checked fs roots where
  root_mem := fun v hv ↦ h.root_mem v ((reads_foldPass_sublist e).subset hv)
  accepts := fun c hc ↦ h.accepts c ((callShapes_foldPass_sublist e).subset hc)

/-- A program that compiling gives has passed the checks of names as it stands, and its functions
have seen the arguments that are literals. -/
theorem checked_of_compile {source : String} {program : Expr}
    (h : compile fs roots source = .ok program) :
    program.Checked fs roots ∧ prepareCalls fs program.calls = .ok () := by
  rw [compile] at h
  obtain ⟨e, -, h⟩ := Except.bind_eq_ok h
  obtain ⟨⟨⟩, hcalls, h⟩ := Except.bind_eq_ok h
  obtain ⟨⟨⟩, hreads, h⟩ := Except.bind_eq_ok h
  obtain ⟨⟨⟩, hprepare, h⟩ := Except.bind_eq_ok h
  obtain rfl : e.fold = program := Except.ok.inj h
  refine ⟨?_, hprepare⟩
  rw [fold_eq_foldPass]
  refine Checked.foldPass ⟨fun v hv ↦ root_mem_of_checkVariables hreads hv, fun c hc ↦ ?_⟩
  obtain ⟨d, hd, rfl⟩ := List.mem_map.1 hc
  exact accepts_of_checkCalls hcalls hd

end Expr

/-! ### What cannot go wrong any more -/

/-- The function does not itself fail with errors about names and numbers of arguments. -/
def Callable.NamesNothing (f : Callable) : Prop :=
  ∀ args e, f.run args = .error e → ¬ e.OfNames

namespace Expr

variable {fs : Registry} {roots : List String} {program : Expr}

/-- A call in a checked program is up to its function. -/
theorem Checked.exists_call_eq (h : program.Checked fs roots) {c : String × List Expr}
    (hc : c ∈ program.calls) {s : Scope} {args : List Value}
    (hargs : evaluateAll fs s c.2 = .ok args) :
    ∃ f, fs.find? c.1 = some f ∧ f.arity.accepts args.length ∧ fs.call c.1 args = f.run args := by
  obtain ⟨f, hf, haccepts⟩ := h.accepts _ (List.mem_map_of_mem hc)
  have hlength : c.2.length = args.length := (forall₂_of_evaluateAll hargs).length_eq
  have haccepts : f.arity.accepts args.length := hlength ▸ haccepts
  exact ⟨f, hf, haccepts, Registry.call_of_accepts hf haccepts⟩

/-- A program that passed the checks does not fail for the sake of a name or a number of arguments
in a scope that binds the roots. -/
theorem Checked.not_ofNames (h : program.Checked fs roots) {s : Scope}
    (hs : ∀ root ∈ roots, (s.binding? root).isSome)
    (hfs : ∀ f ∈ fs.functions, f ∉ Registry.builtin.functions → f.NamesNothing) {err : EvalError}
    (herr : program.evaluate fs s = .error err) : ¬ err.OfNames := by
  obtain ⟨v, hv, hresolve⟩ | hop | ⟨c, hc, args, hargs, hcall⟩ := evaluate_eq_error herr
  · exact (Scope.ofMembers_of_resolve (hs _ (h.root_mem v hv)) hresolve).not_ofNames
  · exact hop.not_ofNames
  obtain ⟨f, hf, haccepts, hrun⟩ := h.exists_call_eq hc hargs
  rw [hrun] at hcall
  by_cases hbuiltin : f ∈ Registry.builtin.functions
  · obtain hop | ⟨-, report, rfl⟩ := Callable.run_eq_error_of_mem_builtin hbuiltin haccepts hcall
    · exact hop.not_ofNames
    · exact id
  · exact hfs f (List.mem_of_find?_eq_some hf) hbuiltin args err hcall

/-- A pattern that is a literal was looked at before, so looking for it does not fail. -/
theorem run_matching_of_prepare {s : Scope} {es : List Expr} {args : List Value} {pattern : Value}
    (hprepare : Callable.matching.prepare (es.map literal?) = .ok ())
    (hpattern : es[1]? = some (.literal pattern)) (hlength : args.length = 2)
    (hargs : evaluateAll fs s es = .ok args) :
    ∃ holds, Callable.matching.run args = .ok (.bool holds) := by
  obtain ⟨text, value, rfl⟩ := List.length_eq_two.1 hlength
  have hforall := forall₂_of_evaluateAll hargs
  obtain ⟨a, es', -, htail, rfl⟩ := List.forall₂_cons_right_iff.1 hforall
  obtain ⟨b, es'', hb, hnil, rfl⟩ := List.forall₂_cons_right_iff.1 htail
  obtain rfl := List.forall₂_nil_right_iff.1 hnil
  obtain rfl : b = .literal pattern := Option.some.inj hpattern
  rw [evaluate_literal] at hb
  obtain rfl : pattern = value := Except.ok.inj hb
  -- the value of the literal is the text that the function has seen
  have hcompile : (Pattern.compile pattern.shown).map (fun _ ↦ ()) = .ok () := hprepare
  obtain ⟨p, hp, -⟩ := Except.map_eq_ok hcompile
  obtain ⟨q, hq⟩ : ∃ q, Pattern.ofText pattern.shown = .ok q := by
    rw [Pattern.compile] at hp
    generalize Pattern.ofText pattern.shown = read at hp ⊢
    cases read with
    | ok q => exact ⟨q, rfl⟩
    | error flaw => cases hp
  rw [Callable.run_matching, hq]
  exact ⟨_, rfl⟩

/-- **The checks made when a formula is compiled are sound.** If a formula compiles at a site, then
in every scope of that site its program does not fail for the sake of a variable that is not bound,
a function that is not there or a number of arguments, unless a function that was added says so
itself. In no call of the program does a function that is always there miss an argument, and a text
is searched without failure for a pattern that is a literal of the program. -/
theorem evaluate_of_compile (fs : Registry) (site : Site) (source : String) (program : Expr)
    (hfs : ∀ f ∈ fs.functions, f ∉ Registry.builtin.functions → f.NamesNothing)
    (hprogram : compile fs site.roots source = .ok program) (s : Scope) (hs : site.Binds s) :
    (∀ e, program.evaluate fs s = .error e → ¬ e.OfNames) ∧
      ∀ c ∈ program.calls, ∀ f ∈ Registry.builtin.functions, fs.find? c.1 = some f →
        ∀ args, evaluateAll fs s c.2 = .ok args →
          (∀ name i, fs.call c.1 args ≠ .error (.missingArgument name i)) ∧
            (f = .matching → (∃ pattern, c.2[1]? = some (.literal pattern)) →
              ∃ holds, fs.call c.1 args = .ok (.bool holds)) := by
  obtain ⟨hchecked, hprepare⟩ := checked_of_compile hprogram
  constructor
  · intro e he
    exact hchecked.not_ofNames (fun root hroot ↦ hs.isSome_binding? hroot) hfs he
  intro c hc f hbuiltin hf args hargs
  obtain ⟨g, hg, haccepts, hcall⟩ := hchecked.exists_call_eq hc hargs
  obtain rfl : g = f := Option.some.inj (hg.symm.trans hf)
  rw [hcall]
  constructor
  · intro name i hmissing
    obtain hop | ⟨-, report, hpattern⟩ :=
      Callable.run_eq_error_of_mem_builtin hbuiltin haccepts hmissing
    · exact hop
    · cases hpattern
  · rintro rfl ⟨pattern, hpattern⟩
    exact run_matching_of_prepare (prepare_of_prepareCalls hprepare hc hf) hpattern
      (eq_of_beq haccepts) hargs

/-- A function that is not always there: the number of its arguments. -/
def countArguments : Callable where
  name := "count"
  arity := .atLeast 0
  run args := .ok (.number (Float.ofNat args.length))

/-- The functions that are always there, and one more. -/
def countingRegistry : Registry := Registry.builtin.insert countArguments

/-- A rule for a size, with a pattern and a call of the added function. -/
def sizeRule : String := "matches(fieldValue, '^[A-Z]+$') && count(formValue.width, 1 + 1) == 2"

/-- The scope of the rule for a size where the group of its field is missing. -/
def sizeScope : Scope := .predicate "size" (.text "XL") (.group none) ∅

/-- The rule for a size does not fail for the sake of names, and the text is searched for its
pattern, which is still a literal of the folded formula. -/
theorem evaluate_of_compile_sizeRule :
    ∃ program, compile countingRegistry Site.predicate.roots sizeRule = .ok program ∧
      Site.predicate.Binds sizeScope ∧
      (∀ e, program.evaluate countingRegistry sizeScope = .error e → ¬ e.OfNames) ∧
      ∃ c ∈ program.calls, c.1 = "matches" ∧ (∃ pattern, c.2[1]? = some (.literal pattern)) ∧
        ∃ args holds, evaluateAll countingRegistry sizeScope c.2 = .ok args ∧
          countingRegistry.call c.1 args = .ok (.bool holds) := by
  have hcompile : (compile countingRegistry Site.predicate.roots sizeRule).toOption.any
      (fun program ↦ program.calls.any fun c ↦
        (c.1 = "matches" && (evaluateAll countingRegistry sizeScope c.2).isOk) &&
          (c.2[1]?.bind literal?).isSome) = true := by
    decide +kernel
  rcases hprogram : compile countingRegistry Site.predicate.roots sizeRule with e | program
  · rw [hprogram] at hcompile
    cases hcompile
  rw [hprogram] at hcompile
  obtain ⟨c, hc, hcall⟩ := List.any_eq_true.1 hcompile
  rw [Bool.and_eq_true, Bool.and_eq_true, decide_eq_true_eq] at hcall
  obtain ⟨⟨hname, hok⟩, hliteral⟩ := hcall
  obtain ⟨pattern, hpattern⟩ : ∃ pattern, c.2[1]? = some (.literal pattern) := by
    obtain ⟨v, hv⟩ := Option.isSome_iff_exists.1 hliteral
    obtain ⟨a, ha, hav⟩ := Option.bind_eq_some_iff.1 hv
    cases a with
    | literal w => exact ⟨w, ha⟩
    | _ => cases hav
  obtain ⟨args, hargs⟩ : ∃ args, evaluateAll countingRegistry sizeScope c.2 = .ok args := by
    rcases hall : evaluateAll countingRegistry sizeScope c.2 with e | args
    · rw [hall] at hok
      cases hok
    · exact ⟨args, rfl⟩
  have hfs : ∀ f ∈ countingRegistry.functions, f ∉ Registry.builtin.functions →
      f.NamesNothing := by
    intro f hf hadded
    obtain rfl | hf := List.mem_cons.1 hf
    · exact fun args e he ↦ nomatch he
    · exact absurd (List.mem_of_mem_filter hf) hadded
  have hbinds : Site.predicate.Binds sizeScope := .predicate _ _ _ _
  obtain ⟨hnames, hcalls⟩ :=
    evaluate_of_compile countingRegistry .predicate sizeRule program hfs hprogram _ hbinds
  have hfind : countingRegistry.find? c.1 = some .matching := by
    rw [hname]
    rfl
  have hbuiltin : Callable.matching ∈ Registry.builtin.functions := List.mem_cons_self
  obtain ⟨holds, hholds⟩ := (hcalls c hc _ hbuiltin hfind args hargs).2 rfl ⟨pattern, hpattern⟩
  exact ⟨program, rfl, hbinds, hnames, c, hc, hname, ⟨pattern, hpattern⟩, args, holds, hargs,
    hholds⟩

end Expr

end FormWizard
