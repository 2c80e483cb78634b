import FormWizard.Json.Basic
import FormWizard.Text.Blank

/-!
# Scalar values

A `Value` is what a field holds or a formula yields. Entered values arrive as text and are read as
numbers only where a number is asked for, in one of two ways: `Value.coerced?` lets a blank or
missing value count as zero and a truth value as zero or one, `Value.number?` takes only numbers and
text that spells one.

Three equalities are kept apart. `=` tells all values apart. `Value.same` compares numbers as
numbers, so a value that is not a number differs from itself and the two zeros agree.
`Value.looselyEqual` also lets a text match the number it spells.
-/

namespace FormWizard

/-- A scalar held by a field or produced by a formula. -/
inductive Value where
  /-- A truth value. -/
  | bool (b : Bool)
  /-- A number. -/
  | number (x : Float)
  /-- A text. -/
  | text (s : String)
  /-- No value. -/
  | null
deriving DecidableEq

namespace Value

instance : Inhabited Value := ⟨.null⟩

/-- What an unset field holds: the empty text. -/
def empty : Value := .text ""

/-- Whether nothing was entered: no value, or the empty text. -/
def isEmpty : Value → Bool
  | .null => true
  | .text s => s.toList.isEmpty
  | _ => false

/-- Whether a condition with this value holds. -/
def isTruthy : Value → Bool
  | .bool b => b
  | .number x => x != 0.0 && !x.isNaN
  | .text s => !s.toList.isEmpty
  | .null => false

/-- The number spelled by a text that is not blank. -/
def spelled? (s : String) : Option Float :=
  let cs := Text.trim s.toList
  if cs.isEmpty then none else Number.ofText? cs

/-- The value as a number in arithmetic: blank and missing values are zero, truth values zero or
one, and other text must spell a number. -/
def coerced? : Value → Option Float
  | .number x => some x
  | .bool b => some (if b then 1.0 else 0.0)
  | .null => some 0.0
  | .text s => if (Text.trim s.toList).isEmpty then some 0.0 else spelled? s

/-- The number that the value is or spells. -/
def number? : Value → Option Float
  | .number x => some x
  | .text s => spelled? s
  | _ => none

/-- The text, if the value is one. -/
def text? : Value → Option String
  | .text s => some s
  | _ => none

/-- The text of a number: a whole number with all its digits, zero without a sign, and any other
number with the fewest digits that read back. -/
def numberText (x : Float) : String :=
  match Number.whole? x with
  | some n => Number.wholeDigits x n
  | none => Number.plain x

/-- The text of the value. -/
def toText : Value → String
  | .number x => numberText x
  | .bool true => "true"
  | .bool false => "false"
  | .text s => s
  | .null => "null"

/-- The text an input control shows: that of the value, or nothing where there is no value. -/
def shown : Value → String
  | .null => ""
  | v => v.toText

/-- The value as it would be written in a formula. -/
def literal : Value → String
  | .text s => "\"" ++ s ++ "\""
  | v => v.toText

/-- Equality of values, numbers compared as numbers. -/
def same : Value → Value → Bool
  | .bool a, .bool b => a == b
  | .number x, .number y => x == y
  | .text s, .text t => s == t
  | .null, .null => true
  | _, _ => false

/-- Equality in which a text also matches the number it spells. -/
def looselyEqual : Value → Value → Bool
  | .number x, .text s => (spelled? s).any (· == x)
  | .text s, .number x => (spelled? s).any (· == x)
  | v, w => same v w

/-- The value as a JSON document; a number that is not finite is written as no value. -/
def toJson : Value → Json
  | .bool b => .bool b
  | .number x => if x.isFinite then .float x else .null
  | .text s => .text s
  | .null => .null

/-- The value that a JSON document is, unless it is a list or has members. -/
def ofJson? : Json → Option Value
  | .bool b => some (.bool b)
  | .whole n => some (.number (Float.ofInt n))
  | .float x => some (.number x)
  | .text s => some (.text s)
  | .null => some .null
  | _ => none

end Value

end FormWizard
