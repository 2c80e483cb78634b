import FormWizard.Expr.Source
import FormWizard.Pattern.Source

/-!
# Why a text is no usable formula

A formula is refused when it cannot be read, when it calls what is not there or with a number of
arguments that is not accepted, when it reads a variable that its place does not bind, or when it
holds a pattern that is not well formed.
-/

namespace FormWizard

/-- Why a text is no usable formula at some place. -/
inductive CompileError where
  /-- The text is no formula. -/
  | syntaxError (e : SyntaxError)
  /-- A call of a function that is not registered. -/
  | unknownFunction (name : String)
  /-- A call with a number of arguments that the function does not accept. -/
  | argumentCount (name expected : String) (found : Nat)
  /-- A variable whose root is not bound here; the roots that are bound are given. -/
  | unknownVariable (root : String) (allowed : List String)
  /-- A pattern that is not well formed, and the report of its flaw. -/
  | invalidPattern (pattern report : String)
deriving DecidableEq

/-- The wording of the error. -/
def CompileError.message : CompileError → String
  | .syntaxError e => s!"Syntax error at offset {e.offset}: {e.problem.message}"
  | .unknownFunction name => s!"Function '{name}' is not registered"
  | .argumentCount name expected found =>
    s!"Function '{name}' expects {expected} argument(s), but received {found}"
  | .unknownVariable root allowed =>
    let names := ", ".intercalate allowed
    s!"Variable '{root}' is not available here (expected one of: {names})"
  | .invalidPattern pattern report => s!"Invalid pattern '{pattern}': {report}"

/-- The pattern that a text is, or the error that reports its flaw. -/
def Pattern.compile (text : String) : Except CompileError Pattern :=
  match Pattern.ofText text with
  | .ok p => .ok p
  | .error flaw => .error (.invalidPattern text (flaw.report text))

end FormWizard
