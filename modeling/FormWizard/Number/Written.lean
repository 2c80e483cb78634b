import FormWizard.Number.Shortest

/-!
# How numbers are written

A `Layout` holds the decisions of a number format that are not mathematics: between which exponents
a number is written positionally, whether a whole number keeps a point and a zero, and how ties
between equally short digits go. `Layout.render` writes the shortest digits in that form.

Two formats are used. `plain` is the text of a number as a value: always positional, no point on
whole numbers. `document` is the text of a number inside a JSON document: positional from
`10 ^ (-5)` up to `10 ^ 16`, otherwise a mantissa and an exponent, and whole numbers show their
point.

`wholeDigits` writes a whole number with all of its digits instead of the shortest ones.
-/

namespace FormWizard.Number

/-- The decisions of a number format. -/
structure Layout where
  /-- How equally short digits are chosen between. -/
  tie : TieRule
  /-- Whether a number whose first digit has this exponent is written positionally. -/
  positional : Int → Bool
  /-- Whether a whole number in positional form ends in a point and a zero. -/
  pointZero : Bool

/-- The text of a number as a value. -/
def Layout.plain : Layout where
  tie := .up
  positional _ := true
  pointZero := false

/-- The text of a number inside a JSON document. -/
def Layout.document : Layout where
  tie := .toEven
  positional e := -5 ≤ e && e < 16
  pointZero := true

/-- A list of `n` zeros. -/
def zeros (n : Nat) : List Char := List.replicate n '0'

/-- Writes the digits of `d` around the point. -/
def Layout.positionally (layout : Layout) (d : Decimal) : List Char :=
  let digits := Nat.toDigits 10 d.digits
  let beforePoint := (digits.length : Int) + d.exponent
  if 0 ≤ d.exponent then
    digits ++ zeros d.exponent.toNat ++ (if layout.pointZero then ['.', '0'] else [])
  else if 0 < beforePoint then
    digits.take beforePoint.toNat ++ '.' :: digits.drop beforePoint.toNat
  else '0' :: '.' :: zeros (-beforePoint).toNat ++ digits

/-- Writes the digits of `d` with a point behind the first one, and an exponent. -/
def scientifically (d : Decimal) : List Char :=
  let digits := Nat.toDigits 10 d.digits
  let exponent := d.exponent + digits.length - 1
  let mantissa := digits.take 1 ++ (if digits.length = 1 then [] else '.' :: digits.drop 1)
  mantissa ++ 'e' :: ((if exponent < 0 then ['-'] else []) ++ Nat.toDigits 10 exponent.natAbs)

/-- Whether the float is negative, the negative zero included. -/
def isNegative (x : Float) : Bool := twoTo 63 ≤ x.toBits.toNat

/-- The text of a float in the given format. -/
def Layout.render (layout : Layout) (x : Float) : String :=
  if x.isNaN then "NaN"
  else
    let sign := if isNegative x then ['-'] else []
    let magnitude :=
      if x.isInf then ['i', 'n', 'f']
      else
        let d := shortest layout.tie x
        if layout.positional (d.exponent + digitCount d.digits - 1) then layout.positionally d
        else scientifically d
    String.ofList (sign ++ magnitude)

/-- The fewest digits that read back, written positionally. -/
def plain (x : Float) : String := Layout.plain.render x

/-- The whole number that a float is, without its sign, if it is one. -/
def whole? (x : Float) : Option Nat :=
  if x.isFinite then
    let b := Binary.ofFloat x
    let divisor := twoTo (-b.scale).toNat
    let numerator := b.mantissa * twoTo b.scale.toNat
    if numerator % divisor = 0 then some (numerator / divisor) else none
  else none

/-- The digits of a whole number, all of them exact, with its sign; zero has no sign. -/
def wholeDigits (x : Float) (magnitude : Nat) : String :=
  (if isNegative x && magnitude != 0 then "-" else "") ++ String.ofList (Nat.toDigits 10 magnitude)

end FormWizard.Number
