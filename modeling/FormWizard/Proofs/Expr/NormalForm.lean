import FormWizard.Proofs.Expr.Checks

/-!
# The normal form that folding reaches

`Expr.Normal` says of a formula, part by part, what there is left to fold: no constant that has a
value, no literal that would decide a choice, `&&` or `||`, no three negations in a row. It speaks
of values and shapes only, not of the rules that folding applies.

One pass reaches it. `Expr.Folded`, that no rule applies anywhere, is passed on to the parts
(`Expr.Folded.of_within`), and for each kind of part the rule that does not apply says what the
part is not. That the loop notices is a matter of counting: `Expr.SettlesIn` is the loop of
`Expr.SettlesAt` with the number of its passes, and `Expr.settlesIn_le_two` bounds it, since the
second pass already compares as the same.
-/

namespace FormWizard.Expr

/-! ### Parts -/

/-- The formulas right below the outermost operator, choice or call. -/
def parts : Expr → List Expr
  | .literal _ => []
  | .variable _ => []
  | .unary _ e => [e]
  | .binary _ l r => [l, r]
  | .conditional c t e => [c, t, e]
  | .call _ args => args

/-- A formula stands somewhere in another one, or is the whole of it. -/
inductive Within : Expr → Expr → Prop where
  /-- The whole formula. -/
  | refl (e : Expr) : Within e e
  /-- A formula within one of the parts. -/
  | part {d p e : Expr} : Within d p → p ∈ e.parts → Within d e

variable {d e r : Expr}

theorem Folded.of_mem_parts (h : e.Folded) (hd : d ∈ e.parts) : d.Folded := by
  cases h with
  | literal v => cases hd
  | var v => cases hd
  | unary he _ =>
    obtain rfl := List.mem_singleton.1 hd
    exact he
  | binary hl hr _ =>
    obtain rfl | hd := List.mem_cons.1 hd
    · exact hl
    · obtain rfl := List.mem_singleton.1 hd
      exact hr
  | conditional hc ht he _ =>
    obtain rfl | hd := List.mem_cons.1 hd
    · exact hc
    obtain rfl | hd := List.mem_cons.1 hd
    · exact ht
    · obtain rfl := List.mem_singleton.1 hd
      exact he
  | call hargs _ => exact hargs d hd

/-- All that is within a folded formula is folded. -/
theorem Folded.of_within (h : e.Folded) (hd : d.Within e) : d.Folded := by
  induction hd with
  | refl => exact h
  | part _ hp ih => exact ih (h.of_mem_parts hp)

/-! ### Where no rule applies -/

/-- No rule applies to a folded formula. -/
theorem Folded.simplify_eq (h : e.Folded) : e.simplify = e := by
  cases h with
  | literal v => rfl
  | var v => rfl
  | unary _ hs => exact hs
  | binary _ _ hs => exact hs
  | conditional _ _ _ hs => exact hs
  | call _ hs => exact hs

/-- A constant that is left fails, in whatever scope and with whatever functions. -/
theorem Folded.exists_evaluate_eq_error (h : e.Folded) (hconstant : e.isConstant)
    (hliteral : e.literal? = none) (fs : Registry) (s : Scope) :
    ∃ err, e.evaluate fs s = .error err := by
  have hsettle : e.settle = e := by
    have hs := h.simplify_eq
    rwa [simplify, hliteral, if_neg (by simp), if_pos hconstant] at hs
  rw [evaluate_of_isConstant hconstant fs .empty s .empty]
  rcases hvalue : e.evaluate .empty .empty with err | v
  · exact ⟨err, rfl⟩
  · -- with a value it would have become a literal
    rw [settle, hvalue] at hsettle
    rw [← hsettle] at hliteral
    cases hliteral

/-- A folded formula that is not constant is not shortened. -/
theorem Folded.shorten_eq (h : e.Folded) (hconstant : ¬ e.isConstant)
    (hliteral : e.literal? = none) : e.shorten = e := by
  have hs := h.simplify_eq
  rwa [simplify, hliteral, if_neg (by simp), if_neg hconstant] at hs

/-- What a literal on the left decides is either one of the two parts, so that nothing of the
operator would be left. -/
theorem Folded.isConstant_of_literal_left {op : BinaryOp} (hop : op = .and ∨ op = .or) {v : Value}
    (h : Folded (.binary op (.literal v) r)) : isConstant (.binary op (.literal v) r) := by
  by_contra hconstant
  have hs := h.shorten_eq hconstant rfl
  obtain rfl | rfl := hop <;> rw [shorten] at hs <;> split_ifs at hs <;> cases hs

/-- A choice by a constant is left only where both its branches are constants. -/
theorem Folded.isConstant_of_literal_condition {v : Value} {t : Expr}
    (h : Folded (.conditional (.literal v) t e)) : isConstant (.conditional (.literal v) t e) := by
  by_contra hconstant
  have hs := h.shorten_eq hconstant rfl
  rw [shorten] at hs
  split_ifs at hs <;> cases hs

/-- Three negations in a row are left only in front of a constant. -/
theorem Folded.isConstant_of_not_not_not
    (h : Folded (.unary .not (.unary .not (.unary .not e)))) : e.isConstant := by
  by_contra hconstant
  have hs := h.shorten_eq hconstant rfl
  rw [shorten] at hs
  cases hs

/-! ### Normal forms -/

/-- Nothing in the formula is left to fold. -/
structure Normal (e : Expr) : Prop where
  /-- Constants other than literals fail. -/
  exists_evaluate_eq_error : ∀ d : Expr, d.Within e → d.isConstant → d.literal? = none →
    ∀ (fs : Registry) (s : Scope), ∃ err, d.evaluate fs s = .error err
  /-- To the left of `&&` and `||` stands a literal only where the whole is constant. -/
  isConstant_of_literal_left : ∀ op v r, op = .and ∨ op = .or →
    Within (.binary op (.literal v) r) e → isConstant (.binary op (.literal v) r)
  /-- A choice has a literal for its condition only where the whole is constant. -/
  isConstant_of_literal_condition : ∀ v t f, Within (.conditional (.literal v) t f) e →
    isConstant (.conditional (.literal v) t f)
  /-- Only constants are negated three times in a row. -/
  isConstant_of_not_not_not : ∀ d : Expr,
    Within (.unary .not (.unary .not (.unary .not d))) e → d.isConstant

theorem Folded.normal (h : e.Folded) : e.Normal where
  exists_evaluate_eq_error _ hd hconstant hliteral :=
    (h.of_within hd).exists_evaluate_eq_error hconstant hliteral
  isConstant_of_literal_left _ _ _ hop hd := (h.of_within hd).isConstant_of_literal_left hop
  isConstant_of_literal_condition _ _ _ hd := (h.of_within hd).isConstant_of_literal_condition
  isConstant_of_not_not_not _ hd := (h.of_within hd).isConstant_of_not_not_not

/-! ### The number of passes -/

/-- The loop of passes, started with one formula, ends with another after so many passes. -/
inductive SettlesIn : ℕ → Expr → Expr → Prop where
  /-- The pass changes nothing. -/
  | done {e : Expr} : e.foldPass.same e = true → SettlesIn 1 e e.foldPass
  /-- The pass changes something, and the loop goes on. -/
  | again {n : ℕ} {e r : Expr} : e.foldPass.same e = false → SettlesIn n e.foldPass r →
      SettlesIn (n + 1) e r

theorem SettlesIn.settlesAt {n : ℕ} (h : SettlesIn n e r) : e.SettlesAt r := by
  induction h with
  | done hs => exact .done hs
  | again hs _ ih => exact .again hs ih

/-- The loop ends after some number of passes, if it does. -/
theorem SettlesAt.exists_settlesIn (h : e.SettlesAt r) : ∃ n, SettlesIn n e r := by
  induction h with
  | done hs => exact ⟨1, .done hs⟩
  | again hs _ ih =>
    obtain ⟨n, hn⟩ := ih
    exact ⟨n + 1, .again hs hn⟩

/-- The second pass finds nothing to do, and unless some literal differs from itself the loop
notices. -/
theorem settlesIn_le_two {n : ℕ} (hnan : e.foldPass.NaNFree) (h : SettlesIn n e r) : n ≤ 2 := by
  cases h with
  | done => decide
  | again _ hagain =>
    cases hagain with
    | done => exact Nat.le_refl 2
    | again hs _ =>
      rw [foldPass_foldPass, same_self hnan] at hs
      cases hs

/-- **Folding ends in a normal form after at most two passes**, if a first pass leaves no literal
that is not a number. Further passes and further folding change nothing, and of what the formula
reads and calls some is dropped and nothing is added or moved. -/
theorem normal_fold (e : Expr) (h : e.foldPass.NaNFree) :
    e.foldPass.foldPass = e.foldPass ∧
      (∃ n ≤ 2, SettlesIn n e e.foldPass) ∧
      (∀ n r, SettlesIn n e r → n ≤ 2 ∧ r = e.foldPass) ∧
      e.fold = e.foldPass ∧ e.fold.fold = e.fold ∧ SettlesIn 1 e.fold e.fold ∧
      e.fold.Normal ∧
      e.fold.reads.Sublist e.reads ∧ e.fold.callShapes.Sublist e.callShapes := by
  have hfold := fold_eq_foldPass e
  have hpass := foldPass_foldPass e
  have hfoldfold : e.fold.fold = e.fold := by rw [fold_eq_foldPass e.fold, hfold, hpass]
  obtain ⟨n, hn⟩ := (settlesAt_foldPass h).exists_settlesIn
  have hagain : SettlesIn 1 e.foldPass e.foldPass := by
    have hsame : e.foldPass.foldPass.same e.foldPass = true := by rw [hpass, same_self h]
    have hdone := SettlesIn.done hsame
    rwa [hpass] at hdone
  refine ⟨hpass, ⟨n, settlesIn_le_two h hn, hn⟩, fun m r hm ↦ ?_, hfold, hfoldfold, ?_⟩
  · exact ⟨settlesIn_le_two h hm, eq_foldPass_of_settlesAt hm.settlesAt⟩
  rw [hfold]
  exact ⟨hagain, (folded_foldPass e).normal, reads_foldPass_sublist e,
    callShapes_foldPass_sublist e⟩

/-- What `2 * 3 && (1 / 0 || !!!values.a)` folds to still divides by zero, and there is no other
constant in it. -/
theorem normal_fold_mixedConstants :
    mixedConstants.foldPass.NaNFree ∧
      mixedConstants.fold.same (.binary .or
        (.binary .divide (.literal (.number 1.0)) (.literal (.number 0.0)))
        (.unary .not (.variable ⟨"values", ["a"]⟩))) = true ∧
      mixedConstants.fold.fold = mixedConstants.fold ∧ mixedConstants.fold.Normal := by
  have h : mixedConstants.foldPass.NaNFree := by decide
  obtain ⟨-, -, -, -, hfold, -, hnormal, -, -⟩ := normal_fold mixedConstants h
  exact ⟨h, by decide, hfold, hnormal⟩

end FormWizard.Expr
