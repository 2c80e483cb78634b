import FormWizard.Expr.Basic
import FormWizard.ValueTree

/-!
# Scopes

A `Scope` says what the roots of a formula's variables stand for: a whole value tree, the members of
one group, or one value. Nothing else can be read.

`Scope.resolve` follows the members of a variable. A name that is absent reads as no value, and a
member of no value is an error. Of a text only `length` can be read, the number of its characters;
every other member of a value reads as no value. A tree, and a group in it, is not itself a value.

There are two kinds of places for formulas, and each binds fixed roots: a computed field reads
`values`, and a predicate reads the name and value of its field and the values around it as well.
-/

namespace FormWizard

/-- Why a formula has no value. -/
inductive EvalError where
  /-- An operand or argument is no number where one is needed. -/
  | notANumber (operation : String) (found : Value)
  /-- A variable whose root the scope does not bind. -/
  | unknownVariable (root : String)
  /-- A variable that stands for a group of values. -/
  | notAScalar (path : String)
  /-- A member of no value. -/
  | memberOfNull (path member : String)
  /-- A quotient or remainder by zero. -/
  | divisionByZero
  /-- A call of a function that is not registered. -/
  | unknownFunction (name : String)
  /-- A call with a number of arguments that the function does not accept. -/
  | argumentCount (name expected : String) (found : Nat)
  /-- A function that reads an argument it was not given. -/
  | missingArgument (name : String) (index : Nat)
  /-- A pattern that is not well formed, in a call of a function, and the report of its flaw. -/
  | invalidPattern (name report : String)
  /-- A function that reports a failure of its own. -/
  | functionFailed (name report : String)
deriving DecidableEq

/-- The wording of the error. -/
def EvalError.message : EvalError → String
  | .notANumber operation found =>
    s!"Type mismatch during operation '{operation}': expected Number, "
      ++ s!"but found value '{found.toText}'"
  | .unknownVariable root => s!"Variable '{root}' is not bound in the evaluation scope"
  | .notAScalar path => s!"'{path}' refers to a group of values, not a single value"
  | .memberOfNull path member => s!"Cannot read member '{member}' of an empty value at '{path}'"
  | .divisionByZero => "Division by zero"
  | .unknownFunction name => s!"Function '{name}' is not registered"
  | .argumentCount name expected found =>
    s!"Function '{name}' failed: expects {expected} argument(s), received {found}"
  | .missingArgument name index => s!"Function '{name}' failed: no argument {index}"
  | .invalidPattern name report => s!"Function '{name}' failed: {report}"
  | .functionFailed name report => s!"Function '{name}' failed: {report}"

/-- What a root stands for. -/
inductive Binding where
  /-- A whole tree. -/
  | tree (values : ValueTree)
  /-- The members of one group, none of which exist if the group does not. -/
  | group (members : Option Members)
  /-- One value. -/
  | scalar (v : Value)

/-- What the roots stand for. -/
structure Scope where
  /-- The roots with their bindings; the first binding of a root counts. -/
  bindings : List (String × Binding)

namespace Scope

/-- The scope that binds nothing. -/
def empty : Scope := ⟨[]⟩

/-- The roots that a computed field may read. -/
def computedRoots : List String := ["values"]

/-- The roots that a predicate may read. -/
def predicateRoots : List String := ["fieldName", "fieldValue", "formValue", "values"]

/-- The scope of a computed field. -/
def computed (values : ValueTree) : Scope := ⟨[("values", .tree values)]⟩

/-- The scope of a predicate; `formValue` is what surrounds the field. -/
def predicate (fieldName : String) (fieldValue : Value) (formValue : Binding)
    (values : ValueTree) : Scope :=
  ⟨[("fieldName", .scalar (.text fieldName)), ("fieldValue", .scalar fieldValue),
    ("formValue", formValue), ("values", .tree values)]⟩

/-- What a root stands for in a list of bindings. -/
def lookup? (root : String) : List (String × Binding) → Option Binding
  | [] => none
  | (name, b) :: bs => if root = name then some b else lookup? root bs

/-- What a root stands for. -/
def binding? (s : Scope) (root : String) : Option Binding := lookup? root s.bindings

/-- The value of a member of a value. -/
def memberOf (v : Value) (member : String) : Value :=
  match v with
  | .text s => if member = "length" then .number (Float.ofNat s.length) else .null
  | _ => .null

/-- Follows members from a value; `path` is how the value was reached. -/
def followScalar (v : Value) (path : String) : List String → Except EvalError Value
  | [] => .ok v
  | member :: rest =>
    if v = .null then .error (.memberOfNull path member)
    else followScalar (memberOf v member) (path ++ "." ++ member) rest

/-- Follows members from a group. -/
def followGroup (members : Option Members) (path : String) : List String → Except EvalError Value
  | [] => .error (.notAScalar path)
  | member :: rest =>
    followScalar ((members.bind (·[member]?)).getD .null) (path ++ "." ++ member) rest

/-- Follows members from a tree. -/
def followTree (values : ValueTree) (path : String) : List String → Except EvalError Value
  | [] => .error (.notAScalar path)
  | name :: rest =>
    match values.slot? name with
    | none => followScalar .null (path ++ "." ++ name) rest
    | some (.value v) => followScalar v (path ++ "." ++ name) rest
    | some (.group members) => followGroup (some members) (path ++ "." ++ name) rest

/-- The value that a variable reads. -/
def resolve (s : Scope) (v : Variable) : Except EvalError Value :=
  match s.binding? v.root with
  | none => .error (.unknownVariable v.root)
  | some (.scalar value) => followScalar value v.root v.members
  | some (.tree values) => followTree values v.root v.members
  | some (.group members) => followGroup members v.root v.members

end Scope

end FormWizard
