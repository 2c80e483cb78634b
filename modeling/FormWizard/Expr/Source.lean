import FormWizard.Expr.Token

/-!
# Formulas read from text

From the weakest to the strongest binding: the choice `?:`, which groups to the right; the six
levels of binary operators, which group to the left; the operators `!` and `-` in front of an
operand; and the operands: numbers, quoted texts, names with members, calls, and formulas in
parentheses.

A reader takes as much as it can and returns the tokens left over. A tail that does not work out (an
operator without a right operand, a choice without its second half, a list of arguments that is not
closed) is left unread and is not an error by itself; reading fails only where no operand starts.
The place of a failure is therefore the tokens that could not be read, either inside the operand or
behind the formula.

The readers are structural in a bound on their nested steps. `Expr.ofTokens` computes a bound that
no list of tokens exhausts, since between two tokens at most nine steps are nested.

`Expr.ofSource` first takes off the wrapping of older documents: braces around the whole, the word
`return` in front, semicolons behind.
-/

namespace FormWizard

/-- Why a text is no formula. -/
inductive SyntaxProblem where
  /-- There is no text. -/
  | empty
  /-- The text ends where an operand or a sign is missing. -/
  | unexpectedEnd
  /-- The text goes on in a way that cannot be read; its first characters are given. -/
  | unexpectedInput (near : String)
deriving DecidableEq, Repr

/-- The wording of the problem. -/
def SyntaxProblem.message : SyntaxProblem → String
  | .empty => "expression is empty"
  | .unexpectedEnd => "unexpected end of expression"
  | .unexpectedInput near => s!"unexpected input near '{near}'"

/-- A text that is no formula, and the number of bytes before the place where reading stopped. -/
structure SyntaxError where
  /-- The number of bytes before the place. -/
  offset : Nat
  /-- What is wrong there. -/
  problem : SyntaxProblem
deriving DecidableEq, Repr

namespace Expr

/-- A formula and the tokens behind it, or the tokens at which reading failed. -/
abbrev Reading := Except (List Token) (Expr × List Token)

/-- Members behind a name: as many points followed by names as there are. -/
def readMembers : List Token → List String × List Token
  | ⟨.point, _⟩ :: ⟨.name member, _⟩ :: rest =>
    let (members, rest') := readMembers rest
    (member :: members, rest')
  | ts => ([], ts)

/-- A name that is not called: a keyword without members, or a variable. -/
def ofName (root : String) (members : List String) : Expr :=
  if members.isEmpty then
    if root = "true" then .literal (.bool true)
    else if root = "false" then .literal (.bool false)
    else if root = "null" || root = "undefined" then .literal .null
    else .variable ⟨root, []⟩
  else .variable ⟨root, members⟩

/-- The function that a called name stands for: a single member of `Math` stands for itself. -/
def calledName (root : String) (members : List String) : String :=
  match members with
  | [name] => if root = "Math" then name else root ++ "." ++ name
  | _ => ".".intercalate (root :: members)

mutual

/-- A formula of any kind. -/
def readConditional : Nat → List Token → Reading
  | 0, ts => .error ts
  | bound + 1, ts => do
    let (condition, rest) ← readBinary bound Level.all ts
    match readBranches bound rest with
    | some (consequent, alternative, rest) =>
      return (.conditional condition consequent alternative, rest)
    | none => return (condition, rest)

/-- The two branches of a choice, from its question mark on. -/
def readBranches : Nat → List Token → Option (Expr × Expr × List Token)
  | 0, _ => none
  | bound + 1, ts =>
    match ts with
    | ⟨.question, _⟩ :: rest =>
      match readConditional bound rest with
      | .ok (consequent, ⟨.colon, _⟩ :: rest) =>
        match readConditional bound rest with
        | .ok (alternative, rest) => some (consequent, alternative, rest)
        | .error _ => none
      | _ => none
    | _ => none

/-- A formula whose operators outside parentheses are of the given levels, weakest first. -/
def readBinary : Nat → List Level → List Token → Reading
  | 0, _, ts => .error ts
  | bound + 1, [], ts => readUnary bound ts
  | bound + 1, level :: tighter, ts => do
    let (first, rest) ← readBinary bound tighter ts
    return readChain bound level tighter first rest

/-- Extends a formula by operators of one level and their right operands. -/
def readChain : Nat → Level → List Level → Expr → List Token → Expr × List Token
  | 0, _, _, left, ts => (left, ts)
  | bound + 1, level, tighter, left, ts =>
    match ts with
    | [] => (left, [])
    | t :: rest =>
      match t.operator? with
      | none => (left, ts)
      | some op =>
        if op.level = level then
          match readBinary bound tighter rest with
          | .ok (right, rest) => readChain bound level tighter (.binary op left right) rest
          | .error _ => (left, ts)
        else (left, ts)

/-- An operand with the operators in front of it. -/
def readUnary : Nat → List Token → Reading
  | 0, ts => .error ts
  | bound + 1, ts =>
    match ts with
    | ⟨.bang, _⟩ :: rest =>
      match readUnary bound rest with
      | .ok (operand, rest) => .ok (.unary .not operand, rest)
      | .error _ => .error ts
    | ⟨.minus, _⟩ :: rest =>
      match readUnary bound rest with
      | .ok (operand, rest) => .ok (.unary .negate operand, rest)
      | .error _ => .error ts
    | _ => readOperand bound ts

/-- A number, a quoted text, a name with what belongs to it, or a formula in parentheses. -/
def readOperand : Nat → List Token → Reading
  | 0, ts => .error ts
  | bound + 1, ts =>
    match ts with
    | ⟨.number x, _⟩ :: rest => .ok (.literal (.number x), rest)
    | ⟨.quoted s, _⟩ :: rest => .ok (.literal (.text s), rest)
    | ⟨.name root, _⟩ :: rest =>
      let (members, rest) := readMembers rest
      match readArguments bound rest with
      | some (args, rest) => .ok (.call (calledName root members) args, rest)
      | none => .ok (ofName root members, rest)
    | ⟨.opening, _⟩ :: rest =>
      match readConditional bound rest with
      | .ok (e, ⟨.closing, _⟩ :: rest) => .ok (e, rest)
      | .ok (_, rest) => .error rest
      | .error rest => .error rest
    | _ => .error ts

/-- The arguments of a call, from the opening parenthesis to the closing one. -/
def readArguments : Nat → List Token → Option (List Expr × List Token)
  | 0, _ => none
  | bound + 1, ts =>
    match ts with
    | ⟨.opening, _⟩ :: rest =>
      let (args, rest) := match readConditional bound rest with
        | .ok (first, rest) =>
          let (more, rest) := readMoreArguments bound rest
          (first :: more, rest)
        | .error _ => ([], rest)
      match rest with
      | ⟨.closing, _⟩ :: rest => some (args, rest)
      | _ => none
    | _ => none

/-- Further arguments, each behind a comma. -/
def readMoreArguments : Nat → List Token → List Expr × List Token
  | 0, ts => ([], ts)
  | bound + 1, ts =>
    match ts with
    | ⟨.comma, _⟩ :: rest =>
      match readConditional bound rest with
      | .ok (e, rest) =>
        let (more, rest) := readMoreArguments bound rest
        (e :: more, rest)
      | .error _ => ([], ts)
    | _ => ([], ts)

end

/-- The formula that a list of tokens is, or the tokens that could not be read. -/
def ofTokens (ts : List Token) : Except (List Token) Expr :=
  match readConditional (12 * ts.length + 12) ts with
  | .ok (e, []) => .ok e
  | .ok (_, rest) => .error rest
  | .error rest => .error rest

/-- The number of bytes of a text. -/
def byteCount (cs : List Char) : Nat := cs.foldr (fun c n ↦ c.utf8Size + n) 0

/-- The error for the tokens that could not be read, out of those of `body`. -/
def syntaxError (body : List Char) (unread : List Token) : SyntaxError :=
  match unread with
  | [] => ⟨byteCount body, .unexpectedEnd⟩
  | t :: _ =>
    ⟨byteCount body - byteCount t.source, .unexpectedInput (String.ofList (t.source.take 16))⟩

/-- Takes braces off a text that starts with one and ends with the other. -/
def withoutBraces (cs : List Char) : List Char :=
  match cs with
  | '\x7b' :: rest =>
    match rest.reverse with
    | '\x7d' :: inner => Text.trim inner.reverse
    | _ => cs
  | _ => cs

/-- Takes the word `return` off a text in which a blank or a parenthesis follows it. -/
def withoutReturn (cs : List Char) : List Char :=
  match cs with
  | 'r' :: 'e' :: 't' :: 'u' :: 'r' :: 'n' :: c :: rest =>
    if Text.isBlank c || c = '(' then Text.trimStart (c :: rest) else cs
  | _ => cs

/-- Takes the wrapping of older documents off the text of a formula. -/
def unwrap (source : List Char) : List Char :=
  let body := withoutReturn (withoutBraces (Text.trim source))
  Text.trimEnd (Text.trimEndWhile (· = ';') (Text.trimEnd body))

/-- The formula that a text is. -/
def ofSource (source : String) : Except SyntaxError Expr :=
  let body := unwrap source.toList
  if body.isEmpty then .error ⟨0, .empty⟩
  else
    match ofTokens (Token.scan body) with
    | .ok e => .ok e
    | .error unread => .error (syntaxError body unread)

end Expr

end FormWizard
