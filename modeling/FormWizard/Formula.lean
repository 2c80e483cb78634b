import FormWizard.Expr.Folding

/-!
# Compiled formulas

A `Formula` is the text of a formula at some place of a form together with the program it compiles
to, or with the reason why it does not. Whatever fails at this stage is known before a form is
filled in.

The checks come in a fixed order: the text is read, then all calls are checked, then all variables;
the program is folded, and the functions called in it look at the arguments that are now literals.
What folding removes is checked by name and number of arguments, but its literals are not looked at.
-/

namespace FormWizard

/-- Checks that each call is of a known function with an accepted number of arguments. -/
def Expr.checkCalls (fs : Registry) : List (String × List Expr) → Except CompileError Unit
  | [] => .ok ()
  | (name, args) :: calls =>
    match fs.find? name with
    | none => .error (.unknownFunction name)
    | some f =>
      if f.arity.accepts args.length then checkCalls fs calls
      else .error (.argumentCount name f.arity.toText args.length)

/-- Checks that each variable has one of the given roots. -/
def Expr.checkVariables (roots : List String) (reads : List Variable) :
    Except CompileError Unit :=
  match reads.find? (!roots.contains ·.root) with
  | some v => .error (.unknownVariable v.root roots)
  | none => .ok ()

/-- Lets each function called look at the arguments that are literals. -/
def Expr.prepareCalls (fs : Registry) : List (String × List Expr) → Except CompileError Unit
  | [] => .ok ()
  | (name, args) :: calls =>
    match fs.find? name with
    | none => prepareCalls fs calls
    | some f => do
      f.prepare (args.map Expr.literal?)
      prepareCalls fs calls

/-- The program of a text at a place that binds the given roots. -/
def Expr.compile (fs : Registry) (roots : List String) (source : String) :
    Except CompileError Expr := do
  let e ← (Expr.ofSource source).mapError .syntaxError
  checkCalls fs e.calls
  checkVariables roots e.reads
  let program := e.fold
  prepareCalls fs program.calls
  return program

/-- The text of a formula and what it compiles to. -/
structure Formula where
  /-- The text as it stands in the form. -/
  source : String
  /-- The program, or why there is none. -/
  program : Except CompileError Expr

/-- Compiles the text of a formula at a place that binds the given roots. -/
def Formula.compile (fs : Registry) (roots : List String) (source : String) : Formula :=
  ⟨source, Expr.compile fs roots source⟩

end FormWizard
