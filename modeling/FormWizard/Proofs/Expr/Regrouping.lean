import FormWizard.Proofs.Expr.NormalForm
import FormWizard.Proofs.Expr.Spelling

/-!
# Right operands without parentheses

A binary operator is read with a right operand of a stronger level. Printed without parentheses, a
right operand of its own level is not read as one: the chain goes on from the left, and
`Expr.graft` says what the operator and its left operand are attached to. Grafting is all that is
lost. `Expr.Continues` states this for lexemes, about all chains that may stand in front of them, so
that a chain of any length follows from its last operator (`Expr.Continues.binary`).

`Expr.reread` is what becomes of a whole formula. It is the formula itself exactly if each part
survives (`Expr.reread_eq_self_iff`); a grafted chain never does, since its new right operand is
smaller than the old one.
-/

namespace FormWizard

/-- Operators are of the same level if and only if they bind equally. -/
theorem BinaryOp.level_eq_iff {op op' : BinaryOp} :
    op.level = op'.level ↔ op.strength = op'.strength := by
  cases op <;> cases op' <;> decide

theorem BinaryOp.strength_bounds (op : BinaryOp) : 2 ≤ op.strength ∧ op.strength ≤ 7 := by
  cases op <;> decide

namespace Expr

/-! ### Grafting -/

/-- How strongly the outermost operator of a formula binds. -/
def strength : Expr → ℕ
  | .conditional _ _ _ => 1
  | .binary op _ _ => op.strength
  | .unary _ _ => 8
  | _ => 9

theorem one_le_strength (e : Expr) : 1 ≤ e.strength := by
  cases e with
  | binary op => exact Nat.le_of_succ_le op.strength_bounds.1
  | _ => exact Nat.le_of_ble_eq_true rfl

/-- The operator between a formula on its left and one on its right that stands there without
parentheses: it takes the first operand of a chain of its level. -/
def graft (op : BinaryOp) (l : Expr) : Expr → Expr
  | .binary op' m r =>
    if op'.level = op.level then .binary op' (graft op l m) r else .binary op l (.binary op' m r)
  | e => .binary op l e

variable {op op' : BinaryOp} {l m r e : Expr}

/-- The operator goes on to the first operand of a chain of its level. -/
theorem graft_binary (h : op'.level = op.level) :
    graft op l (.binary op' m r) = .binary op' (graft op l m) r := by
  rw [graft, if_pos h]

/-- Next to anything but a chain of its level an operator takes all of it. -/
theorem graft_of_strength_ne (h : e.strength ≠ op.strength) : graft op l e = .binary op l e := by
  cases e with
  | binary op' m r => rw [graft, if_neg (mt BinaryOp.level_eq_iff.1 h)]
  | _ => rfl

/-- A chain goes on from where it has come to. -/
theorem graft_graft (h : op'.level = op.level) (l' : Expr) :
    graft op' l' (graft op l e) = graft op (graft op' l' l) e := by
  induction e with
  | binary op'' m r ihm _ =>
    by_cases hlevel : op''.level = op.level
    · rw [graft_binary hlevel, graft_binary hlevel, graft_binary (hlevel.trans h.symm), ihm]
    · rw [graft, graft, if_neg hlevel, if_neg hlevel, graft_binary h.symm]
  | _ => exact graft_binary h.symm

/-- The chain goes on, so its level stays. -/
@[simp]
theorem strength_graft (op : BinaryOp) (l e : Expr) : (graft op l e).strength = op.strength := by
  cases e with
  | binary op' m r =>
    rw [graft]
    split_ifs with hlevel
    · exact BinaryOp.level_eq_iff.1 hlevel
    · rfl
  | _ => rfl

/-- Grafting moves parts about, and loses none. -/
@[simp]
theorem size_graft (op : BinaryOp) (l e : Expr) :
    (graft op l e).size = l.size + e.size + 1 := by
  induction e with
  | binary op' m r ihm _ =>
    rw [graft]
    split_ifs
    · simp only [size, ihm]
      omega
    · rw [size]
  | _ => rfl

/-! ### Derivations of grafted formulas -/

/-- The lexemes are the formula, and where they stand behind an operator of the given strength they
continue what is in front of it. -/
structure Continues (k : ℕ) (ls : List Lexeme) (e : Expr) : Prop where
  /-- By themselves. -/
  derives : Derives k ls e
  /-- As a right operand. -/
  grafted {op : BinaryOp} {sign : Lexeme} {rs : List Lexeme} {l : Expr} : op.strength = k →
    sign.Joins op → Derives k rs l → Derives k (rs ++ sign :: ls) (graft op l e)

namespace Continues

variable {k : ℕ} {ls rs : List Lexeme} {sign : Lexeme}

/-- Nothing of the level of the operator stands outside parentheses. -/
theorem of_derives (h : Derives (k + 1) ls e) (hk : e.strength ≠ k) : Continues k ls e where
  derives := h.tighter
  grafted hop hsign hl := by
    subst hop
    rw [graft_of_strength_ne hk]
    exact .binary hsign hl h

/-- No operator binds as strongly as this. -/
theorem of_lt (h : Derives k ls e) (hk : 7 < k) : Continues k ls e where
  derives := h
  grafted {op} _ _ _ hop := absurd op.strength_bounds.2 (by omega)

/-- A chain continues what is in front of it if its operands do. -/
theorem binary (hsign : sign.Joins op) (hl : Continues op.strength ls l)
    (hr : Continues op.strength rs r) :
    Continues op.strength (ls ++ sign :: rs) (graft op l r) where
  derives := hr.grafted rfl hsign hl.derives
  grafted {op'} sign' _ l' hop hsign' hl' := by
    have hchain := hr.grafted rfl hsign (hl.grafted hop hsign' hl')
    rw [List.append_assoc, List.cons_append] at hchain
    rwa [graft_graft (BinaryOp.level_eq_iff.2 hop)]

/-- What binds more strongly stands as it is. -/
theorem of_strength_lt (h : Continues e.strength ls e) (hk : k < e.strength) : Continues k ls e :=
  .of_derives (h.derives.mono hk) hk.ne'

/-- What binds more weakly stands in parentheses. -/
theorem parenthesized (h : Derives 1 ls e) (hk : e.strength < k) (hk' : k ≤ 8) :
    Continues k (.opening :: ls ++ [.closing]) e :=
  .of_derives ((Derives.parenthesized h).mono (by omega)) hk.ne

end Continues

/-! ### What comes back -/

mutual

/-- What a formula becomes when it is printed with parentheses for weaker operands only and read
again: right operands of the level of their operator are grafted, and a number that is not finite
has become a variable. -/
def reread : Expr → Expr
  | .literal (.number x) =>
    if x.isFinite then .literal (.number x) else .variable ⟨"inf", []⟩
  | .literal v => .literal v
  | .variable v => .variable v
  | .unary op e => .unary op (reread e)
  | .binary op l r => graft op (reread l) (reread r)
  | .conditional c t e => .conditional (reread c) (reread t) (reread e)
  | .call f args => .call f (rereadAll args)

/-- The formulas of a list one by one. -/
def rereadAll : List Expr → List Expr
  | [] => []
  | e :: es => reread e :: rereadAll es

end

@[simp]
theorem rereadAll_eq (es : List Expr) : rereadAll es = es.map reread := by
  induction es with
  | nil => rfl
  | cons e es ih => rw [rereadAll, List.map_cons, ih]

/-- A formula binds as strongly when it comes back. -/
@[simp]
theorem strength_reread (e : Expr) : e.reread.strength = e.strength := by
  cases e with
  | literal v =>
    cases v with
    | number x =>
      rw [reread]
      split_ifs <;> rfl
    | _ => rfl
  | binary op l r => exact strength_graft _ _ _
  | _ => rfl

theorem sizeOfAll_map {es : List Expr} {f : Expr → Expr} (h : ∀ e ∈ es, (f e).size = e.size) :
    sizeOfAll (es.map f) = sizeOfAll es := by
  induction es with
  | nil => rfl
  | cons e es ih =>
    obtain ⟨he, hes⟩ := List.forall_mem_cons.1 h
    simp [sizeOfAll, he, ih hes]

/-- A formula comes back with as many parts. -/
@[simp]
theorem size_reread (e : Expr) : e.reread.size = e.size := by
  induction e with
  | literal v =>
    cases v with
    | number x =>
      rw [reread]
      split_ifs <;> rfl
    | _ => rfl
  | var v => rfl
  | unary op e ih => simp [reread, size, ih]
  | binary op l r ihl ihr => simp [reread, size, ihl, ihr]
  | conditional c t e ihc iht ihe => simp [reread, size, ihc, iht, ihe]
  | call f args ih => simp [reread, size, sizeOfAll_map ih]

/-- The outermost part of the formula comes back as it was. -/
def Survives : Expr → Prop
  | .literal (.number x) => x.isFinite = true
  | .binary op _ r => r.strength ≠ op.strength
  | _ => True

/-- What holds within a formula holds of it and within its parts. -/
theorem forall_within_iff {P : Expr → Prop} :
    (∀ d : Expr, d.Within e → P d) ↔ P e ∧ ∀ p ∈ e.parts, ∀ d : Expr, d.Within p → P d := by
  refine ⟨fun h ↦ ⟨h e (.refl e), fun p hp d hd ↦ h d (.part hd hp)⟩, fun h d hd ↦ ?_⟩
  cases hd with
  | refl => exact h.1
  | part hd hp => exact h.2 _ hp d hd

section

variable {P : Expr → Prop}

@[simp]
theorem forall_within_literal {v : Value} :
    (∀ d : Expr, d.Within (.literal v) → P d) ↔ P (.literal v) := by
  rw [forall_within_iff, parts, and_iff_left (List.forall_mem_nil _)]

@[simp]
theorem forall_within_variable {v : Variable} :
    (∀ d : Expr, d.Within (.variable v) → P d) ↔ P (.variable v) := by
  rw [forall_within_iff, parts, and_iff_left (List.forall_mem_nil _)]

@[simp]
theorem forall_within_unary {op : UnaryOp} :
    (∀ d : Expr, d.Within (.unary op e) → P d) ↔
      P (.unary op e) ∧ ∀ d : Expr, d.Within e → P d := by
  rw [forall_within_iff, parts, List.forall_mem_singleton]

@[simp]
theorem forall_within_binary :
    (∀ d : Expr, d.Within (.binary op l r) → P d) ↔
      P (.binary op l r) ∧ (∀ d : Expr, d.Within l → P d) ∧ ∀ d : Expr, d.Within r → P d := by
  rw [forall_within_iff, parts, List.forall_mem_cons, List.forall_mem_singleton]

end

/-- A formula with the strength of a binary operator has one outermost. -/
theorem exists_binary (h : e.strength = op.strength) :
    ∃ op' l r, e = .binary op' l r ∧ op'.level = op.level := by
  have hbounds := op.strength_bounds
  cases e with
  | binary op' l r => exact ⟨op', l, r, rfl, BinaryOp.level_eq_iff.2 h⟩
  | _ =>
    simp [← h, strength] at hbounds

/-- Grafting attaches the operator outermost only to operands of another level. -/
theorem graft_eq_binary_iff {l' r' : Expr} (hsize : r'.size = r.size) :
    graft op l' r' = .binary op l r ↔ r'.strength ≠ op.strength ∧ l' = l ∧ r' = r := by
  constructor
  · intro h
    have hne : r'.strength ≠ op.strength := by
      intro heq
      obtain ⟨op', m, b, rfl, hlevel⟩ := exists_binary heq
      -- the right operand would be a part of itself
      rw [graft_binary hlevel, Expr.binary.injEq] at h
      rw [size, ← h.2.2] at hsize
      omega
    rw [graft_of_strength_ne hne, Expr.binary.injEq] at h
    exact ⟨hne, h.2⟩
  · rintro ⟨hne, rfl, rfl⟩
    exact graft_of_strength_ne hne

/-- A formula comes back as it was exactly if every part of it does. -/
theorem reread_eq_self_iff : e.reread = e ↔ ∀ d : Expr, d.Within e → d.Survives := by
  induction e with
  | literal v =>
    rw [forall_within_literal]
    cases v with
    | number x =>
      rw [reread, Survives]
      split_ifs with hfinite
      · exact iff_of_true rfl hfinite
      · exact iff_of_false nofun hfinite
    | _ => exact iff_of_true rfl trivial
  | var v => exact iff_of_true rfl (forall_within_variable.2 trivial)
  | unary op e ih =>
    rw [forall_within_unary, and_iff_right (show Survives (.unary op e) from trivial), ← ih, reread,
      Expr.unary.injEq, and_iff_right rfl]
  | binary op l r ihl ihr =>
    rw [forall_within_binary, ← ihl, ← ihr, reread, graft_eq_binary_iff (size_reread r),
      strength_reread, Survives]
  | conditional c t e ihc iht ihe =>
    rw [forall_within_iff, and_iff_right (show Survives (.conditional c t e) from trivial), parts,
      List.forall_mem_cons, List.forall_mem_cons, List.forall_mem_singleton, ← ihc, ← iht, ← ihe,
      reread, Expr.conditional.injEq]
  | call f args ih =>
    rw [forall_within_iff, and_iff_right (show Survives (.call f args) from trivial), parts, reread,
      rereadAll_eq, Expr.call.injEq, and_iff_right rfl]
    refine Iff.trans ?_ (forall₂_congr ih)
    conv_lhs => rw [← List.map_id args, List.map_map]
    exact List.map_inj_left

end Expr

end FormWizard
