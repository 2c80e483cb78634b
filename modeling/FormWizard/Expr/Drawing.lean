import FormWizard.Expr.Basic

/-!
# Formulas drawn as trees

One line per node, its children below it and further in, joined by strokes. The last child of a node
hangs on a corner and has blank space under it; the others hang on a branch with a stroke under it.
-/

namespace FormWizard

/-- The name of an operator in a drawing. -/
def BinaryOp.title : BinaryOp → String
  | .or => "Or"
  | .and => "And"
  | .equal => "Equal"
  | .notEqual => "NotEqual"
  | .greater => "GreaterThan"
  | .greaterEqual => "GreaterThanOrEqual"
  | .less => "SmallerThan"
  | .lessEqual => "SmallerThanOrEqual"
  | .add => "Sum"
  | .subtract => "Subtract"
  | .multiply => "Multiply"
  | .divide => "Divide"
  | .remainder => "Remainder"

/-- The name of a unary operator in a drawing. -/
def UnaryOp.title : UnaryOp → String
  | .not => "Not"
  | .negate => "Negate"

namespace Expr

/-- The text of a node without its children. -/
def caption : Expr → String
  | .literal v => "Literal: " ++ v.literal
  | .variable v => "Variable: " ++ v.toText
  | .unary op _ => s!"{op.title} ({op.symbol})"
  | .binary op _ _ => s!"{op.title} ({op.symbol})"
  | .conditional _ _ _ => "Conditional (?:)"
  | .call function _ => s!"Call: {function}()"

/-- What stands before a node. -/
def stem (last : Bool) : String := if last then "└── " else "├── "

/-- What stands before the nodes below a node. -/
def gutter (last : Bool) : String := if last then "    " else "│   "

mutual

/-- The lines of a node; `margin` is what its ancestors put before each of them. -/
def drawAt (margin : String) (last : Bool) (e : Expr) : List String :=
  let inner := margin ++ gutter last
  (margin ++ stem last ++ e.caption) :: match e with
    | .literal _ => []
    | .variable _ => []
    | .unary _ e => drawAt inner true e
    | .binary _ l r => drawAt inner false l ++ drawAt inner true r
    | .conditional c t e => drawAt inner false c ++ drawAt inner false t ++ drawAt inner true e
    | .call _ args => drawAll inner args

/-- The lines of the children of a call. -/
def drawAll (margin : String) : List Expr → List String
  | [] => []
  | e :: es => drawAt margin es.isEmpty e ++ drawAll margin es

end

/-- The drawing of a formula, every line ended. -/
def drawing (e : Expr) : String := String.join ((drawAt "" true e).map (· ++ "\n"))

end Expr

end FormWizard
