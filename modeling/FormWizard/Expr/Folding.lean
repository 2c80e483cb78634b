import FormWizard.Evaluation

/-!
# Constant folding

Parts of a formula whose value is known before any value is entered are replaced by it. Meaning is
preserved exactly: a constant part that fails is kept, so that it fails where and when it would have
failed, and the right operand of `&&` and `||` disappears only where the left one decides.

A pass works from the leaves up. Passes are repeated until one changes nothing, where formulas are
compared by `Expr.same`; a pass never enlarges a formula, and the size bounds their number.
-/

namespace FormWizard.Expr

/-- Replaces a constant formula that has a value by that value. -/
def settle (e : Expr) : Expr :=
  match e.evaluate .empty .empty with
  | .ok v => .literal v
  | .error _ => e

/-- Simplifies a formula that is not constant, given that its parts are simplified. -/
def shorten : Expr → Expr
  | .binary .and (.literal v) r => if v.isTruthy then r else .literal v
  | .binary .or (.literal v) r => if v.isTruthy then .literal v else r
  | .conditional (.literal v) t e => if v.isTruthy then t else e
  | .unary .not (.unary .not (.unary .not e)) => .unary .not e
  | e => e

/-- Simplifies a formula whose parts are simplified. -/
def simplify (e : Expr) : Expr :=
  if e.literal?.isSome then e
  else if e.isConstant then e.settle
  else e.shorten

mutual

/-- One pass over a formula. -/
def foldPass : Expr → Expr
  | .literal v => .literal v
  | .variable v => .variable v
  | .unary op e => simplify (.unary op (foldPass e))
  | .binary op l r => simplify (.binary op (foldPass l) (foldPass r))
  | .conditional c t e => simplify (.conditional (foldPass c) (foldPass t) (foldPass e))
  | .call function args => simplify (.call function (foldPassAll args))

/-- One pass over each of a list of formulas. -/
def foldPassAll : List Expr → List Expr
  | [] => []
  | e :: es => foldPass e :: foldPassAll es

end

/-- Repeats passes until one changes nothing, at most so many times. -/
def foldUpTo : Nat → Expr → Expr
  | 0, e => e
  | n + 1, e =>
    let next := e.foldPass
    if next.same e then next else foldUpTo n next

/-- The formula with everything folded that can be. -/
def fold (e : Expr) : Expr := foldUpTo (e.size + 1) e

end FormWizard.Expr
