import FormWizard.Number.Written

/-!
# Float operations beyond the four basic ones

The remainder is exact: both operands are brought to the same power of two, where the remainder is
one of natural numbers, and the result needs no rounding. It takes the sign of the dividend.

A whole power is formed by repeated squaring, one rounding per product, and a negative power is the
reciprocal of the positive one; `roundTo` builds on it and rounds halves away from zero. `smaller`
and `larger` look past an operand that is not a number, and of two equal operands give the first.
-/

namespace FormWizard.Number

/-- The remainder of `x` by `y`, with the sign of `x`. -/
def remainder (x y : Float) : Float :=
  if x.isNaN || y.isNaN || x.isInf || y == 0.0 then 0.0 / 0.0
  else if y.isInf then x
  else
    let a := Binary.ofFloat x
    let b := Binary.ofFloat y
    let scale := min a.scale b.scale
    let units (c : Binary) : Nat := c.mantissa * twoTo (c.scale - scale).toNat
    let r := units a % units b
    let magnitude := (Float.ofNat r).scaleB scale
    if isNegative x then -magnitude else magnitude

/-- Multiplies `acc` by `base ^ n`, squaring `base` for each binary digit of `n`. -/
def powerInto (base acc : Float) (n : Nat) : Float :=
  let acc := if n % 2 = 1 then acc * base else acc
  if n / 2 = 0 then acc else powerInto (base * base) acc (n / 2)
termination_by n

/-- The whole power `base ^ n`. -/
def power (base : Float) (n : Int) : Float :=
  let magnitude := powerInto base 1.0 n.natAbs
  if n < 0 then 1.0 / magnitude else magnitude

/-- Rounds `x` to `digits` places behind the point, halves away from zero. The count is cut to a
whole number of 32 bits; a count that is not a number is zero. -/
def roundTo (x digits : Float) : Float :=
  let factor := power 10.0 digits.toInt32.toInt
  (x * factor).round / factor

/-- The smaller of two numbers. -/
def smaller (x y : Float) : Float := if x.isNaN then y else if y < x then y else x

/-- The larger of two numbers. -/
def larger (x y : Float) : Float := if x.isNaN then y else if x < y then y else x

end FormWizard.Number
