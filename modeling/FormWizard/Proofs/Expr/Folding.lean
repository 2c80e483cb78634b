import FormWizard.Proofs.Expr.Evaluation
import Mathlib.Data.List.Forall2

/-!
# Folding keeps values and settles in one pass

Two facts about one pass carry everything here.

* `Expr.evaluate_foldPass`: a pass keeps the value of a formula in every scope and with every
  registry, and keeps its error where it fails. It rests on `Expr.evaluate_simplify`, one case for
  each rule, and does not ask how the parts were simplified.
* `Expr.foldPass_foldPass`: a second pass changes nothing. `Expr.Folded` names the formulas in which
  no rule applies anywhere; a pass ends in one of them (`Expr.folded_foldPass`) and leaves it alone
  (`Expr.foldPass_of_folded`).

`Expr.SettlesAt` is the loop that repeats passes, without any bound on their number. It compares
formulas by `Expr.same`, in which a number that is not a number differs from itself, so the loop
ends only where no such literal is left. There it ends in `Expr.fold`.
-/

namespace FormWizard

/-- Whether the value is a number that is not a number. -/
def Value.isNaN : Value → Bool
  | .number x => x.isNaN
  | _ => false

/-- Any float but NaN compares equal to itself. -/
theorem Number.compare_self {u : Float.Model.UnpackedFloat} (h : u.isNaN = false) :
    u.compare u = some .eq := by
  cases u with
  | notANumber => cases h
  | infinity s => cases s <;> rfl
  | zero s => cases s <;> rfl
  | finite s m e hm =>
    have hsame : (compare e e).then (compare m m) = .eq := by simp
    cases s with
    | positive => exact congrArg some hsame
    | negative => exact congrArg (some ·.swap) hsame

/-- A float is equal to itself as a number unless it is not a number. -/
theorem Number.beq_self {x : Float} (h : x.isNaN = false) : (x == x) = true := by
  show (x.toModel.unpack.compare x.toModel.unpack == some .eq) = true
  rw [compare_self h]
  rfl

/-- Any value but NaN is the same as itself. -/
theorem Value.same_self {v : Value} (h : v.isNaN = false) : v.same v = true := by
  cases v with
  | bool b => exact beq_self_eq_true b
  | number x => exact Number.beq_self h
  | text s => exact beq_self_eq_true s
  | null => rfl

namespace Expr

/-! ### Literals that are not numbers -/

mutual

/-- The literals, from left to right. -/
def literals : Expr → List Value
  | .literal v => [v]
  | .variable _ => []
  | .unary _ e => literals e
  | .binary _ l r => literals l ++ literals r
  | .conditional c t e => literals c ++ literals t ++ literals e
  | .call _ args => literalsOfAll args

/-- The literals of a list of formulas. -/
def literalsOfAll : List Expr → List Value
  | [] => []
  | e :: es => literals e ++ literalsOfAll es

end

theorem literalsOfAll_eq (es : List Expr) : literalsOfAll es = es.flatMap literals := by
  induction es with
  | nil => rfl
  | cons e es ih => rw [literalsOfAll, List.flatMap_cons, ih]

/-- No literal is a number that is not a number. -/
def NaNFree (e : Expr) : Prop := ∀ v ∈ e.literals, v.isNaN = false

instance (e : Expr) : Decidable e.NaNFree :=
  inferInstanceAs (Decidable (∀ v ∈ e.literals, v.isNaN = false))

theorem sameAll_self {es : List Expr} (h : ∀ e ∈ es, e.same e = true) : sameAll es es = true := by
  induction es with
  | nil => rfl
  | cons e es ih =>
    rw [sameAll, h e List.mem_cons_self, ih fun a ha ↦ h a (List.mem_cons_of_mem _ ha)]
    rfl

/-- The comparison that ends the loop holds of a formula and itself. -/
theorem same_self {e : Expr} (h : e.NaNFree) : e.same e = true := by
  induction e with
  | literal v => exact Value.same_self (h v List.mem_cons_self)
  | var v => exact beq_self_eq_true v
  | unary op e ih => rw [same, ih h, beq_self_eq_true]; rfl
  | binary op l r ihl ihr =>
    simp only [NaNFree, literals, List.mem_append] at h
    rw [same, ihl fun v hv ↦ h v (.inl hv), ihr fun v hv ↦ h v (.inr hv), beq_self_eq_true]
    rfl
  | conditional c t e ihc iht ihe =>
    simp only [NaNFree, literals, List.mem_append] at h
    rw [same, ihc fun v hv ↦ h v (.inl (.inl hv)), iht fun v hv ↦ h v (.inl (.inr hv)),
      ihe fun v hv ↦ h v (.inr hv)]
    rfl
  | call f args ih =>
    simp only [NaNFree, literals, literalsOfAll_eq, List.mem_flatMap] at h
    rw [same, sameAll_self fun a ha ↦ ih a ha fun v hv ↦ h v ⟨a, ha, hv⟩, beq_self_eq_true]
    rfl

/-! ### A pass keeps values and errors -/

theorem foldPassAll_eq (es : List Expr) : foldPassAll es = es.map foldPass := by
  induction es with
  | nil => rfl
  | cons e es ih => rw [foldPassAll, List.map_cons, ih]

section Meaning

variable (fs : Registry) (s : Scope)

/-- Settling a constant formula does not change its value. -/
theorem evaluate_settle {e : Expr} (h : e.isConstant) :
    e.settle.evaluate fs s = e.evaluate fs s := by
  rw [evaluate_of_isConstant h fs .empty s .empty, settle]
  cases he : e.evaluate .empty .empty with
  | ok v => exact evaluate_literal fs s v
  | error => rw [evaluate_of_isConstant h _ .empty _ .empty, he]

/-- `!!!e` is `!e` for every operand, since `!` looks only at whether its operand holds. -/
theorem evaluate_not_not_not (e : Expr) :
    evaluate fs s (.unary .not (.unary .not (.unary .not e))) = evaluate fs s (.unary .not e) := by
  simp only [evaluate_unary]
  cases e.evaluate fs s with
  | error => rfl
  | ok v => simp [Except.bind, UnaryOp.apply, Value.isTruthy]

/-- Each rule for formulas that are not constant keeps the value. A literal on the left of `&&` or
`||`, or as a condition, says by itself which part is evaluated. -/
theorem evaluate_shorten (e : Expr) : e.shorten.evaluate fs s = e.evaluate fs s := by
  fun_cases shorten e with
  | case1 v r h | case4 v r h =>
    -- the literal does not decide, and the value is that of the right operand
    rw [evaluate_binary, evaluate_literal]
    cases hr : r.evaluate fs s <;> simp [Except.bind, BinaryOp.decides, BinaryOp.apply, h]
  | case2 v r h | case3 v r h =>
    -- the literal decides, and is the value itself rather than a truth value
    rw [evaluate_binary, evaluate_literal]
    simp [Except.bind, BinaryOp.decides, h]
  | case5 v t e h | case6 v t e h =>
    rw [evaluate_conditional, evaluate_literal]
    simp [Except.bind, h]
  | case7 e => exact (evaluate_not_not_not fs s e).symm
  | case8 => rfl

/-- No rule changes the value of a formula, nor its error. -/
theorem evaluate_simplify (e : Expr) : e.simplify.evaluate fs s = e.evaluate fs s := by
  rw [simplify]
  split_ifs with hliteral hconstant
  · rfl
  · exact evaluate_settle fs s hconstant
  · exact evaluate_shorten fs s e

/-- A pass keeps the value of a formula, or its error. -/
theorem evaluate_foldPass (e : Expr) : e.foldPass.evaluate fs s = e.evaluate fs s := by
  induction e with
  | literal v => rfl
  | var v => rfl
  | unary op e ih => rw [foldPass, evaluate_simplify, evaluate_unary, evaluate_unary, ih]
  | binary op l r ihl ihr =>
    rw [foldPass, evaluate_simplify, evaluate_binary, evaluate_binary, ihl, ihr]
  | conditional c t e ihc iht ihe =>
    rw [foldPass, evaluate_simplify, evaluate_conditional, evaluate_conditional, ihc, iht, ihe]
  | call f args ih =>
    have hargs : evaluateAll fs s (args.map foldPass) = evaluateAll fs s args :=
      evaluateAll_congr <| List.forall₂_map_left_iff.2 <| List.forall₂_same.2 ih
    rw [foldPass, evaluate_simplify, foldPassAll_eq, evaluate_call, evaluate_call, hargs]

end Meaning

/-! ### A pass leaves nothing to fold -/

/-- Formulas in which no rule applies anywhere. -/
inductive Folded : Expr → Prop where
  /-- A literal. -/
  | literal (v : Value) : Folded (.literal v)
  /-- A variable. -/
  | var (v : Variable) : Folded (.variable v)
  /-- An operator in front of an operand. -/
  | unary {op : UnaryOp} {e : Expr} : Folded e → simplify (.unary op e) = .unary op e →
      Folded (.unary op e)
  /-- An operator between two operands. -/
  | binary {op : BinaryOp} {l r : Expr} : Folded l → Folded r →
      simplify (.binary op l r) = .binary op l r → Folded (.binary op l r)
  /-- A choice. -/
  | conditional {c t e : Expr} : Folded c → Folded t → Folded e →
      simplify (.conditional c t e) = .conditional c t e → Folded (.conditional c t e)
  /-- A call. -/
  | call {f : String} {args : List Expr} : (∀ a ∈ args, Folded a) →
      simplify (.call f args) = .call f args → Folded (.call f args)

/-- A pass changes nothing where no rule applies. -/
theorem foldPass_of_folded {e : Expr} (h : e.Folded) : e.foldPass = e := by
  induction h with
  | literal v => rfl
  | var v => rfl
  | unary _ hs ih => rw [foldPass, ih, hs]
  | binary _ _ hs ihl ihr => rw [foldPass, ihl, ihr, hs]
  | conditional _ _ _ hs ihc iht ihe => rw [foldPass, ihc, iht, ihe, hs]
  | call _ hs ih => rw [foldPass, foldPassAll_eq, List.map_congr_left ih, List.map_id', hs]

/-- No rule applies anywhere in the parts of a formula. -/
def PartsFolded : Expr → Prop
  | .literal _ => True
  | .variable _ => True
  | .unary _ e => e.Folded
  | .binary _ l r => l.Folded ∧ r.Folded
  | .conditional c t e => c.Folded ∧ t.Folded ∧ e.Folded
  | .call _ args => ∀ a ∈ args, a.Folded

/-- A formula whose parts are folded is so, too, if no rule applies to it. -/
theorem folded_of_partsFolded {e : Expr} (h : e.PartsFolded) (hs : e.simplify = e) : e.Folded := by
  cases e with
  | literal v => exact .literal v
  | «variable» v => exact .var v
  | unary op e => exact .unary h hs
  | binary op l r => exact .binary h.1 h.2 hs
  | conditional c t e => exact .conditional h.1 h.2.1 h.2.2 hs
  | call f args => exact .call h hs

/-- A formula that is settled is left as it is or becomes a constant. -/
theorem settle_eq (e : Expr) : e.settle = e ∨ ∃ v, e.settle = .literal v := by
  rw [settle]
  cases e.evaluate .empty .empty with
  | ok v => exact .inr ⟨v, rfl⟩
  | error => exact .inl rfl

/-- A rule that applies brings out a literal or something inside the parts, so where those are
folded, so is the result. -/
theorem folded_shorten {e : Expr} (h : e.PartsFolded) : e.shorten = e ∨ e.shorten.Folded := by
  fun_cases shorten e with
  | case1 v r hv => exact .inr h.2
  | case2 v r hv => exact .inr (.literal v)
  | case3 v r hv => exact .inr (.literal v)
  | case4 v r hv => exact .inr h.2
  | case5 v t e hv => exact .inr h.2.1
  | case6 v t e hv => exact .inr h.2.2
  | case7 e =>
    -- the parts are `!!e`, whose own part `!e` is the result
    cases h with
    | unary h => exact .inr h
  | case8 => exact .inl rfl

/-- One rule is enough for a formula whose parts are folded. -/
theorem folded_simplify {e : Expr} (h : e.PartsFolded) : e.simplify.Folded := by
  by_cases hs : e.simplify = e
  · rw [hs]
    exact folded_of_partsFolded h hs
  rw [simplify] at hs ⊢
  split_ifs at hs ⊢ with hliteral hconstant
  · exact absurd rfl hs
  · -- a constant that fails is left as it is, so no rule applied to it
    obtain hsettle | ⟨v, hsettle⟩ := settle_eq e
    · exact absurd hsettle hs
    · rw [hsettle]
      exact .literal v
  · exact (folded_shorten h).resolve_left hs

/-- A pass ends in a formula in which no rule applies. -/
theorem folded_foldPass (e : Expr) : e.foldPass.Folded := by
  induction e with
  | literal v => exact .literal v
  | var v => exact .var v
  | unary op e ih => exact folded_simplify ih
  | binary op l r ihl ihr => exact folded_simplify ⟨ihl, ihr⟩
  | conditional c t e ihc iht ihe => exact folded_simplify ⟨ihc, iht, ihe⟩
  | call f args ih =>
    rw [foldPass, foldPassAll_eq]
    refine folded_simplify fun a ha ↦ ?_
    obtain ⟨b, hb, rfl⟩ := List.mem_map.1 ha
    exact ih b hb

/-- A second pass changes nothing. -/
theorem foldPass_foldPass (e : Expr) : e.foldPass.foldPass = e.foldPass :=
  foldPass_of_folded (folded_foldPass e)

/-! ### The loop of passes -/

/-- Once a pass changes nothing, no further one does. -/
theorem foldUpTo_of_foldPass_eq {e : Expr} (h : e.foldPass = e) (n : ℕ) : foldUpTo n e = e := by
  induction n with
  | zero => rfl
  | succ n ih =>
    rw [foldUpTo]
    simp only [h]
    split_ifs
    · rfl
    · exact ih

/-- The bound on the number of passes plays no part: one pass gives the result. -/
theorem fold_eq_foldPass (e : Expr) : e.fold = e.foldPass := by
  rw [fold, foldUpTo]
  split_ifs
  · rfl
  · exact foldUpTo_of_foldPass_eq (foldPass_foldPass e) _

/-- The loop of passes, started with one formula, ends with another: passes are repeated until the
formula before and the formula after compare as the same. -/
inductive SettlesAt : Expr → Expr → Prop where
  /-- The pass changes nothing. -/
  | done {e : Expr} : e.foldPass.same e = true → SettlesAt e e.foldPass
  /-- The pass changes something, and the loop goes on. -/
  | again {e r : Expr} : e.foldPass.same e = false → SettlesAt e.foldPass r → SettlesAt e r

/-- The loop ends after at most two passes if the first one leaves no literal that differs from
itself. -/
theorem settlesAt_foldPass {e : Expr} (h : e.foldPass.NaNFree) : e.SettlesAt e.foldPass := by
  cases hs : e.foldPass.same e with
  | true => exact .done hs
  | false =>
    refine .again hs ?_
    -- the second pass finds nothing to do, and without such a literal the comparison sees that
    have hagain : e.foldPass.foldPass.same e.foldPass = true := by
      rw [foldPass_foldPass]
      exact same_self h
    have hdone := SettlesAt.done hagain
    rwa [foldPass_foldPass] at hdone

/-- If the loop ends, it ends with what the first pass makes. -/
theorem eq_foldPass_of_settlesAt {e r : Expr} (h : e.SettlesAt r) : r = e.foldPass := by
  induction h with
  | done => rfl
  | again _ _ ih => rw [ih, foldPass_foldPass]

/-- **Folding preserves meaning.** Where folding leaves no literal that is not a number, the loop of
passes ends, and ends in one formula only. In every scope and with every registry that formula has
the value of the formula it was made from, or fails with the same error. -/
theorem settlesAt_fold_and_evaluate_fold (e : Expr) (h : e.fold.NaNFree) :
    (∀ r, e.SettlesAt r ↔ r = e.fold) ∧
      ∀ (fs : Registry) (s : Scope), e.fold.evaluate fs s = e.evaluate fs s := by
  rw [fold_eq_foldPass] at h ⊢
  refine ⟨fun r ↦ ⟨eq_foldPass_of_settlesAt, ?_⟩, fun fs s ↦ evaluate_foldPass fs s e⟩
  rintro rfl
  exact settlesAt_foldPass h

/-- The formula `2 * 3 && (1 / 0 || !!!values.a)`, in which one constant has a value, one fails, and
what stands to the right of `&&` is all that is evaluated. -/
def mixedConstants : Expr :=
  .binary .and (.binary .multiply (.literal (.number 2.0)) (.literal (.number 3.0)))
    (.binary .or (.binary .divide (.literal (.number 1.0)) (.literal (.number 0.0)))
      (.unary .not (.unary .not (.unary .not (.variable ⟨"values", ["a"]⟩)))))

theorem fold_mixedConstants_settles :
    mixedConstants.fold.NaNFree ∧ mixedConstants.SettlesAt mixedConstants.fold ∧
      mixedConstants.fold.evaluate .builtin .empty = mixedConstants.evaluate .builtin .empty := by
  have h : mixedConstants.fold.NaNFree := by decide
  have hfold := settlesAt_fold_and_evaluate_fold mixedConstants h
  exact ⟨h, (hfold.1 _).2 rfl, hfold.2 .builtin .empty⟩

end Expr

end FormWizard
