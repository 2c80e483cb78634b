import FormWizard.CompileError
import FormWizard.Number.Arithmetic
import FormWizard.Pattern.Source
import FormWizard.Scope

/-!
# Functions that formulas may call

A `Callable` is a named function of values that says how many arguments it accepts. A `Registry` is
the closed set of them that a form may use, at most one of each name; a function that is added takes
the place of one of the same name. `Registry.builtin` holds the thirteen that are always there.

A function may look at the arguments that are already known when a formula is compiled, and refuse
them. Only `matches` does: a pattern written out in a formula has to be well formed.

Functions are pure: the same arguments give the same result.
-/

namespace FormWizard

/-- How many arguments a function accepts. -/
inductive Arity where
  /-- This many. -/
  | exact (n : Nat)
  /-- From the one number to the other. -/
  | between (least most : Nat)
  /-- This many or more. -/
  | atLeast (n : Nat)
deriving DecidableEq

/-- Whether a number of arguments is accepted. -/
def Arity.accepts (count : Nat) : Arity → Bool
  | .exact n => count == n
  | .between least most => least ≤ count && count ≤ most
  | .atLeast n => n ≤ count

/-- The wording of the numbers accepted. -/
def Arity.toText : Arity → String
  | .exact n => toString n
  | .between least most => s!"{least} to {most}"
  | .atLeast n => s!"at least {n}"

/-- A function that formulas may call. -/
structure Callable where
  /-- The name it is called by. -/
  name : String
  /-- The numbers of arguments it accepts. -/
  arity : Arity
  /-- Its result. -/
  run : List Value → Except EvalError Value
  /-- What it says to the arguments known when a formula is compiled. -/
  prepare : List (Option Value) → Except CompileError Unit := fun _ ↦ .ok ()

namespace Callable

/-- The argument at a place. -/
def argument (name : String) (args : List Value) (i : Nat) : Except EvalError Value :=
  match args[i]? with
  | some v => .ok v
  | none => .error (.missingArgument name i)

/-- The argument at a place, as a number. -/
def numberAt (name : String) (args : List Value) (i : Nat) : Except EvalError Float := do
  let v ← argument name args i
  match v.coerced? with
  | some x => .ok x
  | none => .error (.notANumber name v)

/-- A function of one number. -/
def ofUnary (name : String) (f : Float → Float) : Callable where
  name := name
  arity := .exact 1
  run args := do
    let x ← numberAt name args 0
    return .number (f x)

/-- A function of two numbers. -/
def ofBinary (name : String) (f : Float → Float → Float) : Callable where
  name := name
  arity := .exact 2
  run args := do
    let x ← numberAt name args 0
    let y ← numberAt name args 1
    return .number (f x y)

/-- Rounding to a number of places, none if it is not given. -/
def round : Callable where
  name := "round"
  arity := .between 1 2
  run args := do
    let x ← numberAt "round" args 0
    let digits ← if args.length < 2 then pure 0.0 else numberAt "round" args 1
    return .number (Number.roundTo x digits)

/-- The number of characters shown. -/
def len : Callable where
  name := "len"
  arity := .exact 1
  run args := do
    let v ← argument "len" args 0
    return .number (Float.ofNat v.shown.length)

/-- Whether nothing was entered. -/
def isEmpty : Callable where
  name := "isEmpty"
  arity := .exact 1
  run args := do
    let v ← argument "isEmpty" args 0
    return .bool v.isEmpty

/-- The argument as a number. -/
def number : Callable := ofUnary "number" id

/-- The texts shown, in a row. -/
def concat : Callable where
  name := "concat"
  arity := .atLeast 1
  run args := .ok (.text (String.join (args.map Value.shown)))

/-- Whether a text holds a match of a pattern. -/
def matching : Callable where
  name := "matches"
  arity := .exact 2
  run args := do
    let text ← argument "matches" args 0
    let pattern ← argument "matches" args 1
    match Pattern.ofText pattern.shown with
    | .ok p => return .bool (p.occursIn text.shown)
    | .error flaw => throw (.invalidPattern "matches" (flaw.report pattern.shown))
  prepare literals :=
    match literals[1]? with
    | some (some pattern) => (Pattern.compile pattern.shown).map fun _ ↦ ()
    | _ => .ok ()

end Callable

/-- The functions that a form may use, no two of one name. -/
structure Registry where
  /-- The functions, the one added last in front. -/
  functions : List Callable

namespace Registry

/-- No functions. -/
def empty : Registry := ⟨[]⟩

/-- The function of a name. -/
def find? (r : Registry) (name : String) : Option Callable :=
  r.functions.find? (·.name == name)

/-- Adds a function in place of one of the same name. -/
def insert (r : Registry) (f : Callable) : Registry :=
  ⟨f :: r.functions.filter (·.name != f.name)⟩

/-- The number of functions. -/
def size (r : Registry) : Nat := r.functions.length

/-- Adds functions one after the other. -/
def insertAll (r : Registry) (fs : List Callable) : Registry := fs.foldl insert r

/-- The functions that are always there. -/
def builtin : Registry := empty.insertAll
  [.ofUnary "abs" Float.abs, .ofUnary "floor" Float.floor, .ofUnary "ceil" Float.ceil,
    .ofUnary "sqrt" Float.sqrt, .ofBinary "min" Number.smaller, .ofBinary "max" Number.larger,
    .ofBinary "pow" Float.pow, .round, .len, .isEmpty, .number, .concat, .matching]

end Registry

end FormWizard
