import FormWizard.Value

/-!
# Formulas

`Expr` is a formula of the configuration language: literals, variables with members, one operand
behind `!` or `-`, two operands around a binary operator, a choice between two formulas, and calls
of named functions.

`Expr.reads` and `Expr.calls` list what a formula reads and calls, from left to right and a call
before its arguments. A formula that does neither is constant.
-/

namespace FormWizard

/-- A variable: a root and the members read from it in turn. -/
structure Variable where
  /-- The name that a scope binds. -/
  root : String
  /-- The members, outermost first. -/
  members : List String
deriving DecidableEq, Repr

/-- The variable as it is written. -/
def Variable.toText (v : Variable) : String := ".".intercalate (v.root :: v.members)

/-- The operators in front of one operand. -/
inductive UnaryOp where
  /-- Whether the operand does not hold. -/
  | not
  /-- The operand with its sign changed. -/
  | negate
deriving DecidableEq, Repr

/-- The operators between two operands. -/
inductive BinaryOp where
  /-- The left operand if it holds, otherwise the right one. -/
  | or
  /-- The right operand if the left one holds, otherwise the left one. -/
  | and
  /-- Loose equality. -/
  | equal
  /-- Loose inequality. -/
  | notEqual
  /-- Greater than. -/
  | greater
  /-- Greater than or equal. -/
  | greaterEqual
  /-- Less than. -/
  | less
  /-- Less than or equal. -/
  | lessEqual
  /-- Sum of numbers, or two texts in a row. -/
  | add
  /-- Difference. -/
  | subtract
  /-- Product. -/
  | multiply
  /-- Quotient. -/
  | divide
  /-- Remainder. -/
  | remainder
deriving DecidableEq, Repr

/-- The symbol of a unary operator. -/
def UnaryOp.symbol : UnaryOp → String
  | .not => "!"
  | .negate => "-"

/-- The symbol of a binary operator. -/
def BinaryOp.symbol : BinaryOp → String
  | .or => "||"
  | .and => "&&"
  | .equal => "=="
  | .notEqual => "!="
  | .greater => ">"
  | .greaterEqual => ">="
  | .less => "<"
  | .lessEqual => "<="
  | .add => "+"
  | .subtract => "-"
  | .multiply => "*"
  | .divide => "/"
  | .remainder => "%"

/-- The levels of binding strength of the binary operators. -/
inductive Level where
  /-- Disjunction. -/
  | disjunction
  /-- Conjunction. -/
  | conjunction
  /-- Equality and inequality. -/
  | equality
  /-- Comparison by order. -/
  | order
  /-- Sums and differences. -/
  | sum
  /-- Products, quotients and remainders. -/
  | product
deriving DecidableEq, Repr

/-- The levels from the weakest to the strongest. -/
def Level.all : List Level := [.disjunction, .conjunction, .equality, .order, .sum, .product]

/-- The level of an operator. -/
def BinaryOp.level : BinaryOp → Level
  | .or => .disjunction
  | .and => .conjunction
  | .equal | .notEqual => .equality
  | .greater | .greaterEqual | .less | .lessEqual => .order
  | .add | .subtract => .sum
  | .multiply | .divide | .remainder => .product

/-- A formula. -/
inductive Expr where
  /-- A value written out. -/
  | literal (v : Value)
  /-- A value read from the scope. -/
  | variable (v : Variable)
  /-- An operator in front of a formula. -/
  | unary (op : UnaryOp) (operand : Expr)
  /-- An operator between two formulas. -/
  | binary (op : BinaryOp) (left right : Expr)
  /-- The second formula if the first one holds, otherwise the third. -/
  | conditional (condition consequent alternative : Expr)
  /-- A call of a named function. -/
  | call (function : String) (arguments : List Expr)

namespace Expr

mutual

/-- The variables read, from left to right. -/
def reads : Expr → List Variable
  | .literal _ => []
  | .variable v => [v]
  | .unary _ e => reads e
  | .binary _ l r => reads l ++ reads r
  | .conditional c t e => reads c ++ reads t ++ reads e
  | .call _ args => readsOfAll args

/-- The variables read by a list of formulas. -/
def readsOfAll : List Expr → List Variable
  | [] => []
  | e :: es => reads e ++ readsOfAll es

end

mutual

/-- The calls with their arguments, from left to right and a call before those in its arguments. -/
def calls : Expr → List (String × List Expr)
  | .literal _ => []
  | .variable _ => []
  | .unary _ e => calls e
  | .binary _ l r => calls l ++ calls r
  | .conditional c t e => calls c ++ calls t ++ calls e
  | .call function args => (function, args) :: callsOfAll args

/-- The calls in a list of formulas. -/
def callsOfAll : List Expr → List (String × List Expr)
  | [] => []
  | e :: es => calls e ++ callsOfAll es

end

/-- Whether the formula reads no variable and calls no function. -/
def isConstant (e : Expr) : Bool := e.reads.isEmpty && e.calls.isEmpty

/-- The value of a literal. -/
def literal? : Expr → Option Value
  | .literal v => some v
  | _ => none

mutual

/-- The number of operators, choices, calls and leaves. -/
def size : Expr → Nat
  | .literal _ => 1
  | .variable _ => 1
  | .unary _ e => size e + 1
  | .binary _ l r => size l + size r + 1
  | .conditional c t e => size c + size t + size e + 1
  | .call _ args => sizeOfAll args + 1

/-- The sum of the sizes of a list of formulas. -/
def sizeOfAll : List Expr → Nat
  | [] => 0
  | e :: es => size e + sizeOfAll es

end

mutual

/-- Whether two formulas are built alike, with literals compared as values. -/
def same : Expr → Expr → Bool
  | .literal v, .literal w => v.same w
  | .variable v, .variable w => v == w
  | .unary o e, .unary p f => o == p && same e f
  | .binary o l r, .binary p m s => o == p && same l m && same r s
  | .conditional c t e, .conditional d u f => same c d && same t u && same e f
  | .call f as, .call g bs => f == g && sameAll as bs
  | _, _ => false

/-- Whether two lists of formulas are built alike. -/
def sameAll : List Expr → List Expr → Bool
  | [], [] => true
  | a :: as, b :: bs => same a b && sameAll as bs
  | _, _ => false

end

end Expr

end FormWizard
