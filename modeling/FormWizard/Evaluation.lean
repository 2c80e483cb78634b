import FormWizard.Registry
import FormWizard.Trace

/-!
# Evaluation

`Expr.trace` evaluates a formula in a scope and records how; `Expr.evaluate` keeps the value alone.
Operands are evaluated from left to right, and the first error ends the evaluation. `||` and `&&`
give one of their operands and look at the right one only if the left one does not decide; a choice
looks at one branch only.

`+` adds where both operands read as numbers and otherwise puts the texts shown in a row. The other
signs of arithmetic need numbers. Comparison is by number where both operands read as numbers and
otherwise by text, character by character; no comparison holds with a value that is not a number.
-/

namespace FormWizard

/-- The value of an operator in front of an operand. -/
def UnaryOp.apply (op : UnaryOp) (v : Value) : Except EvalError Value :=
  match op with
  | .not => .ok (.bool !v.isTruthy)
  | .negate =>
    match v.coerced? with
    | some x => .ok (.number (-x))
    | none => .error (.notANumber "-" v)

namespace BinaryOp

/-- Whether the left operand decides. -/
def decides (op : BinaryOp) (left : Value) : Bool :=
  match op with
  | .or => left.isTruthy
  | .and => !left.isTruthy
  | _ => false

/-- An operator of arithmetic: both operands have to be numbers. -/
def arithmetic (op : BinaryOp) (l r : Value) (f : Float → Float → Except EvalError Float) :
    Except EvalError Value :=
  match l.coerced?, r.coerced? with
  | some x, some y => (f x y).map .number
  | none, _ => .error (.notANumber op.symbol l)
  | _, none => .error (.notANumber op.symbol r)

/-- A comparison by number if possible, by text otherwise. -/
def comparison (l r : Value) (numbers : Float → Float → Bool) (texts : String → String → Bool) :
    Value :=
  match l.coerced?, r.coerced? with
  | some x, some y => .bool (numbers x y)
  | _, _ => .bool (texts l.shown r.shown)

/-- The sum of two values that read as numbers, the texts in a row otherwise. -/
def sum (l r : Value) : Value :=
  match l.coerced?, r.coerced? with
  | some x, some y => .number (x + y)
  | _, _ => .text (l.shown ++ r.shown)

/-- Guards an operation against a second operand of zero. -/
def divide? (f : Float → Float → Float) (x y : Float) : Except EvalError Float :=
  if y == 0.0 then .error .divisionByZero else .ok (f x y)

/-- The value of an operator between two operands that were both evaluated. -/
def apply (op : BinaryOp) (l r : Value) : Except EvalError Value :=
  match op with
  | .or => .ok r
  | .and => .ok r
  | .equal => .ok (.bool (l.looselyEqual r))
  | .notEqual => .ok (.bool !l.looselyEqual r)
  | .greater => .ok (comparison l r (fun x y ↦ y < x) (fun s t ↦ t < s))
  | .greaterEqual => .ok (comparison l r (fun x y ↦ y ≤ x) (fun s t ↦ !decide (s < t)))
  | .less => .ok (comparison l r (fun x y ↦ x < y) (fun s t ↦ s < t))
  | .lessEqual => .ok (comparison l r (fun x y ↦ x ≤ y) (fun s t ↦ !decide (t < s)))
  | .add => .ok (sum l r)
  | .subtract => arithmetic op l r fun x y ↦ .ok (x - y)
  | .multiply => arithmetic op l r fun x y ↦ .ok (x * y)
  | .divide => arithmetic op l r (divide? (· / ·))
  | .remainder => arithmetic op l r (divide? Number.remainder)

end BinaryOp

/-- The value of a call. -/
def Registry.call (r : Registry) (name : String) (args : List Value) : Except EvalError Value :=
  match r.find? name with
  | none => .error (.unknownFunction name)
  | some f =>
    if f.arity.accepts args.length then f.run args
    else .error (.argumentCount name f.arity.toText args.length)

namespace Expr

mutual

/-- Evaluates a formula and tells how. -/
def trace (fs : Registry) (s : Scope) : Expr → Except EvalError Trace
  | .literal v => .ok (.literal v)
  | .variable v => do
    let value ← s.resolve v
    return .input v value
  | .unary op e => do
    let t ← trace fs s e
    let value ← op.apply t.outcome
    return .unary op t value
  | .binary op l r => do
    let left ← trace fs s l
    if op.decides left.outcome then return .decided op left
    let right ← trace fs s r
    let value ← op.apply left.outcome right.outcome
    return .binary op left right value
  | .conditional c t e => do
    let condition ← trace fs s c
    let branch ← if condition.outcome.isTruthy then trace fs s t else trace fs s e
    return .conditional condition branch
  | .call function args => do
    let traces ← traceAll fs s args
    let value ← fs.call function (traces.map Trace.outcome)
    return .call function traces value

/-- Evaluates the arguments of a call. -/
def traceAll (fs : Registry) (s : Scope) : List Expr → Except EvalError (List Trace)
  | [] => .ok []
  | e :: es => do
    let t ← trace fs s e
    let ts ← traceAll fs s es
    return t :: ts

end

/-- The value of a formula. -/
def evaluate (fs : Registry) (s : Scope) (e : Expr) : Except EvalError Value :=
  (e.trace fs s).map Trace.outcome

end Expr

end FormWizard
