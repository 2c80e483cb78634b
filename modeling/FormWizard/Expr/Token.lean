import FormWizard.Expr.Basic
import FormWizard.Text.Blank

/-!
# The tokens of a formula

`Token.scan` cuts the text of a formula into numbers, quoted texts, names and signs. Blanks between
tokens are the four ASCII ones; any other character that starts no token ends the list with a
`Lexeme.stray`, behind which nothing is read.

A quoted text ends at the next quote of its kind and has no escapes. A number is digits with an
optional fraction that has digits itself, so a point behind a whole number is a token of its own.
The sign tried first is the longer one.

Each token keeps the text from its first character on, which says where in the formula it stands.
-/

namespace FormWizard

/-- What a token is. -/
inductive Lexeme where
  /-- A number. -/
  | number (x : Float)
  /-- A quoted text. -/
  | quoted (s : String)
  /-- A name or keyword. -/
  | name (s : String)
  /-- An operator between two operands, other than `-`. -/
  | operator (op : BinaryOp)
  /-- The sign `-`, between operands or in front of one. -/
  | minus
  /-- The sign `!`. -/
  | bang
  /-- The sign `?`. -/
  | question
  /-- The sign `:`. -/
  | colon
  /-- A point. -/
  | point
  /-- A comma. -/
  | comma
  /-- An opening parenthesis. -/
  | opening
  /-- A closing parenthesis. -/
  | closing
  /-- A character that starts no token. -/
  | stray
deriving DecidableEq

/-- A token and the text that starts with it. -/
structure Token where
  /-- What the token is. -/
  lexeme : Lexeme
  /-- The text from the first character of the token on. -/
  source : List Char
deriving DecidableEq

namespace Token

/-- The blanks allowed between tokens. -/
def isSeparator (c : Char) : Bool := c = ' ' || c = '\t' || c = '\r' || c = '\n'

/-- The characters a name starts with. -/
def startsName (c : Char) : Bool := c.isAlpha || c = '_' || c = '$'

/-- The characters a name goes on with. -/
def continuesName (c : Char) : Bool := c.isAlphanum || c = '_' || c = '$'

/-- The digits of a number at the start of the text, its point included, and the rest. -/
def spanNumber (cs : List Char) : List Char × List Char :=
  let (whole, rest) := cs.span Char.isDigit
  match rest with
  | '.' :: d :: more =>
    if d.isDigit then
      let (fraction, rest) := (d :: more).span Char.isDigit
      (whole ++ '.' :: fraction, rest)
    else (whole, rest)
  | _ => (whole, rest)

/-- The sign at the start of the text and the rest. -/
def sign? : List Char → Option (Lexeme × List Char)
  | '=' :: '=' :: '=' :: cs => some (.operator .equal, cs)
  | '!' :: '=' :: '=' :: cs => some (.operator .notEqual, cs)
  | '=' :: '=' :: cs => some (.operator .equal, cs)
  | '!' :: '=' :: cs => some (.operator .notEqual, cs)
  | '>' :: '=' :: cs => some (.operator .greaterEqual, cs)
  | '<' :: '=' :: cs => some (.operator .lessEqual, cs)
  | '|' :: '|' :: cs => some (.operator .or, cs)
  | '&' :: '&' :: cs => some (.operator .and, cs)
  | '>' :: cs => some (.operator .greater, cs)
  | '<' :: cs => some (.operator .less, cs)
  | '+' :: cs => some (.operator .add, cs)
  | '*' :: cs => some (.operator .multiply, cs)
  | '/' :: cs => some (.operator .divide, cs)
  | '%' :: cs => some (.operator .remainder, cs)
  | '-' :: cs => some (.minus, cs)
  | '!' :: cs => some (.bang, cs)
  | '?' :: cs => some (.question, cs)
  | ':' :: cs => some (.colon, cs)
  | '.' :: cs => some (.point, cs)
  | ',' :: cs => some (.comma, cs)
  | '(' :: cs => some (.opening, cs)
  | ')' :: cs => some (.closing, cs)
  | _ => none

/-- The quoted text behind an opening quote, and the rest behind the closing one. -/
def quoted? (quote : Char) (cs : List Char) : Option (Lexeme × List Char) :=
  match cs.span (· != quote) with
  | (inside, _ :: rest) => some (.quoted (String.ofList inside), rest)
  | (_, []) => none

/-- The token at the start of a text that starts with no blank, and the rest. -/
def next? : List Char → Option (Lexeme × List Char)
  | [] => none
  | c :: cs =>
    if c.isDigit then
      let (digits, rest) := spanNumber (c :: cs)
      (Number.ofText? digits).map fun x ↦ (.number x, rest)
    else if c = '"' || c = '\'' then quoted? c cs
    else if startsName c then
      let (name, rest) := (c :: cs).span continuesName
      some (.name (String.ofList name), rest)
    else sign? (c :: cs)

/-- The tokens of a text, of which at most `bound` are read. -/
def scanUpTo : Nat → List Char → List Token
  | 0, _ => []
  | bound + 1, cs =>
    let start := cs.dropWhile isSeparator
    if start.isEmpty then []
    else
      match next? start with
      | some (lexeme, rest) => ⟨lexeme, start⟩ :: scanUpTo bound rest
      | none => [⟨.stray, start⟩]

/-- The tokens of a text. Each takes at least one character. -/
def scan (cs : List Char) : List Token := scanUpTo (cs.length + 1) cs

/-- The binary operator that the token is. -/
def operator? (t : Token) : Option BinaryOp :=
  match t.lexeme with
  | .operator op => some op
  | .minus => some .subtract
  | _ => none

end Token

end FormWizard
