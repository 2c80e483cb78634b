/-!
# Decimal numbers and the floats nearest to them

A `Decimal` is `digits * 10 ^ exponent`. `Decimal.toFloat` is the nearest binary64 value, ties to
even; magnitudes far beyond the range are decided before any power of ten is formed, so the size of
a written exponent costs nothing.

`ofText?` reads the spelling of a number as people type it: a sign, then digits with an optional
fraction and exponent, or one of the words `inf`, `infinity`, `nan` in any case. At least one digit
must stand before or after the point.
-/

namespace FormWizard.Number

/-- The power `2 ^ n`. -/
def twoTo (n : Nat) : Nat := Nat.pow 2 n

/-- The power `10 ^ n`. -/
def tenTo (n : Nat) : Nat := Nat.pow 10 n

/-- The number `digits * 10 ^ exponent`. -/
structure Decimal where
  /-- The digits, read as one natural number. -/
  digits : Nat
  /-- The power of ten they are multiplied by. -/
  exponent : Int
deriving DecidableEq, Repr

/-- The number of decimal digits of `n`; none for zero. -/
def digitCount (n : Nat) : Nat :=
  if n = 0 then 0 else (Nat.toDigits 10 n).length

/-- The nearest float, ties to even. Every finite float is below `10 ^ 309`, and whatever lies
below `10 ^ (-324)` is nearer to zero than to the least positive float. -/
def Decimal.toFloat (d : Decimal) : Float :=
  let magnitude := d.exponent + digitCount d.digits
  if d.digits = 0 || magnitude < -330 then 0.0
  else if 310 < magnitude then 1.0 / 0.0
  else Float.ofScientific d.digits (decide (d.exponent < 0)) d.exponent.natAbs

/-- The value of a list of decimal digits. -/
def natOfDigits (cs : List Char) : Nat :=
  cs.foldl (fun n c ↦ 10 * n + (c.toNat - '0'.toNat)) 0

/-- The leading ASCII digits and the rest. -/
def spanDigits (cs : List Char) : List Char × List Char := cs.span Char.isDigit

/-- The sign in front, if there is one: `true` for minus. -/
def spanSign : List Char → Bool × List Char
  | '-' :: cs => (true, cs)
  | '+' :: cs => (false, cs)
  | cs => (false, cs)

/-- The exponent that ends a number: nothing, or a mark, a sign and at least one digit. -/
def exponent? : List Char → Option Int
  | [] => some 0
  | c :: cs =>
    if c = 'e' || c = 'E' then
      let (negative, rest) := spanSign cs
      let (digits, rest) := spanDigits rest
      if digits.isEmpty || !rest.isEmpty then none
      else some (if negative then -(natOfDigits digits : Int) else natOfDigits digits)
    else none

/-- The decimal spelled by an unsigned text. -/
def decimal? (cs : List Char) : Option Decimal := do
  let (whole, rest) := spanDigits cs
  let (fraction, rest) := match rest with
    | '.' :: rest => spanDigits rest
    | rest => ([], rest)
  if whole.isEmpty && fraction.isEmpty then none
  let e ← exponent? rest
  some ⟨natOfDigits (whole ++ fraction), e - fraction.length⟩

/-- The float spelled by a text without surrounding blanks, if it spells one. -/
def ofText? (cs : List Char) : Option Float := do
  let (negative, rest) := spanSign cs
  let word := rest.map Char.toLower
  let magnitude ←
    if word = ['i', 'n', 'f'] || word = ['i', 'n', 'f', 'i', 'n', 'i', 't', 'y'] then
      some (1.0 / 0.0)
    else if word = ['n', 'a', 'n'] then some (0.0 / 0.0)
    else (decimal? rest).map Decimal.toFloat
  some (if negative then -magnitude else magnitude)

end FormWizard.Number
