import FormWizard.Expr.Basic

/-!
# Traces

A `Trace` tells how a formula came to its value: the values read, the outcome of every operator and
call, and which parts were looked at. An operator whose left operand decided, and a choice, hold no
trace of the part that was passed over.

`Trace.toText` writes a trace as a formula in which every value read stands behind its variable.
Parentheses stand where an operand binds more weakly than the operator around it.
-/

namespace FormWizard

/-- How a formula came to its value. -/
inductive Trace where
  /-- A value written out. -/
  | literal (v : Value)
  /-- A value read from a variable. -/
  | input (source : Variable) (v : Value)
  /-- An operator in front of an operand. -/
  | unary (op : UnaryOp) (operand : Trace) (outcome : Value)
  /-- An operator between two operands. -/
  | binary (op : BinaryOp) (left right : Trace) (outcome : Value)
  /-- An operator whose left operand decided; its outcome is that of the operand. -/
  | decided (op : BinaryOp) (left : Trace)
  /-- A choice and the branch taken, whose outcome is that of the branch. -/
  | conditional (condition branch : Trace)
  /-- A call. -/
  | call (function : String) (arguments : List Trace) (outcome : Value)

namespace Trace

/-- The value that the trace ends in. -/
def outcome : Trace → Value
  | .literal v => v
  | .input _ v => v
  | .unary _ _ v => v
  | .binary _ _ _ v => v
  | .decided _ left => outcome left
  | .conditional _ branch => outcome branch
  | .call _ _ v => v

/-- How strongly the operators of a level bind; a choice binds with strength one. -/
def levelStrength : Level → Nat
  | .disjunction => 2
  | .conjunction => 3
  | .equality => 4
  | .order => 5
  | .sum => 6
  | .product => 7

/-- How strongly the outermost operator of a trace binds. -/
def strength : Trace → Nat
  | .conditional _ _ => 1
  | .binary op _ _ _ => levelStrength op.level
  | .decided op _ => levelStrength op.level
  | .unary _ _ _ => 8
  | _ => 9

/-- Puts parentheses around a text that binds more weakly than what stands around it. -/
def enclose (strength around : Nat) (s : String) : String :=
  if strength < around then "(" ++ s ++ ")" else s

mutual

/-- The text of a trace inside something that binds with the given strength. -/
def textIn (around : Nat) (t : Trace) : String :=
  let own := t.strength
  enclose own around <| match t with
    | .literal v => v.literal
    | .input source v => s!"{source.toText} (was {v.literal})"
    | .unary op operand _ => op.symbol ++ textIn own operand
    | .binary op left right _ => s!"{textIn own left} {op.symbol} {textIn own right}"
    | .decided _ left => textIn own left
    | .conditional condition branch => s!"{textIn (own + 1) condition} ? {textIn own branch}"
    | .call function args _ => s!"{function}({textOfAll args})"

/-- The texts of the arguments of a call, between commas. -/
def textOfAll : List Trace → String
  | [] => ""
  | [t] => textIn 0 t
  | t :: ts => s!"{textIn 0 t}, {textOfAll ts}"

end

/-- The trace as an explanation. -/
def toText (t : Trace) : String := textIn 0 t

end Trace

end FormWizard
