import FormWizard.Json.Basic

/-!
# Numbers in JSON documents

A number without fraction and exponent is whole if it fits into 64 bits, with a sign or without, and
is not the negative zero. Any other number is a float, found by a fast rule that is not always the
nearest one: the digits are read into a significand of 64 bits, and the significand is multiplied or
divided once by the power of ten that is left. Digits in front of the point that no longer fit only
raise the power of ten, and digits behind it are dropped from the first that does not fit on.

A number whose float would be infinite denotes no value.
-/

namespace FormWizard.Json

/-- The digits of a number as it is written. -/
structure Numeral where
  /-- Whether a minus sign stands in front. -/
  negative : Bool
  /-- The digits before the point. -/
  whole : List Nat
  /-- The digits behind the point, if there is one. -/
  fraction : Option (List Nat)
  /-- The exponent, if there is one: whether it is negative, and its digits. -/
  exponent : Option (Bool × List Nat)

/-- The values of the digits at the start of a text, and the rest. -/
def spanDigitValues (cs : List Char) : List Nat × List Char :=
  let (digits, rest) := cs.span Char.isDigit
  (digits.map fun c ↦ c.toNat - '0'.toNat, rest)

/-- The numeral at the start of a text, and the rest. A zero in front of other digits is refused,
and so is a point or an exponent without digits. -/
def readNumeral (cs : List Char) : Option (Numeral × List Char) := do
  let (negative, cs) := match cs with
    | '-' :: cs => (true, cs)
    | cs => (false, cs)
  let (front, cs) := spanDigitValues cs
  if front.isEmpty || (front.head? = some 0 && 1 < front.length) then none
  let (fraction, cs) ← match cs with
    | '.' :: cs =>
      let (digits, cs) := spanDigitValues cs
      if digits.isEmpty then none else some (some digits, cs)
    | cs => some (none, cs)
  let (exponent, cs) ← match cs with
    | c :: rest =>
      if c = 'e' || c = 'E' then
        let (negative, rest) := match rest with
          | '-' :: rest => (true, rest)
          | '+' :: rest => (false, rest)
          | rest => (false, rest)
        let (digits, rest) := spanDigitValues rest
        if digits.isEmpty then none else some (some (negative, digits), rest)
      else some (none, cs)
    | [] => some (none, cs)
  some (⟨negative, front, fraction, exponent⟩, cs)

/-- Digits appended to a significand as long as it fits into 64 bits, and the number of digits left
over. -/
def fill (significand : Nat) : List Nat → Nat × Nat
  | [] => (significand, 0)
  | d :: ds =>
    if 10 * significand + d < Number.twoTo 64 then fill (10 * significand + d) ds
    else (significand, ds.length + 1)

/-- A power of ten. -/
def powerOfTen (n : Nat) : Float := Float.ofScientific 1 false n

/-- A float divided by powers of ten until the given negative exponent is used up. -/
def scaleDown (x : Float) (exponent : Nat) : Float :=
  if 308 < exponent then
    if x == 0.0 then x else scaleDown (x / powerOfTen 308) (exponent - 308)
  else x / powerOfTen exponent
termination_by exponent
decreasing_by omega

/-- The significand times a power of ten, unless it is infinite. -/
def scaled? (significand : Nat) (exponent : Int) : Option Float :=
  let x := significand.toUInt64.toFloat
  if exponent < 0 then some (scaleDown x exponent.natAbs)
  else if 308 < exponent then if significand = 0 then some x else none
  else
    let y := x * powerOfTen exponent.toNat
    if y.isInf then none else some y

namespace Numeral

/-- The significand and the power of ten without the exponent that is written. -/
def significand (n : Numeral) : Nat × Int :=
  let (front, overflow) := fill 0 n.whole
  match n.fraction with
  | none => (front, overflow)
  | some digits =>
    let (all, dropped) := fill front digits
    (all, (overflow : Int) - (digits.length - dropped : Nat))

/-- The float that the numeral denotes. An exponent beyond 31 bits makes it zero or nothing. -/
def float? (n : Numeral) : Option Float :=
  let (significand, power) := n.significand
  let magnitude : Option Float := match n.exponent with
    | none => scaled? significand power
    | some (negative, digits) =>
      let e : Nat := digits.foldl (fun e d ↦ 10 * e + d) 0
      let shift : Int := if negative then -(e : Int) else e
      if e < Number.twoTo 31 then scaled? significand (power + shift)
      else if negative || significand = 0 then some 0.0
      else none
  magnitude.map fun x ↦ if n.negative then -x else x

/-- The document that the numeral is. -/
def toJson (n : Numeral) : Json :=
  let float := match n.float? with
    | some x => Json.float x
    | none => .unreadable
  if n.fraction.isSome || n.exponent.isSome then float
  else
    let (magnitude, overflow) := fill 0 n.whole
    if overflow != 0 then float
    else if !n.negative then .whole magnitude
    else if magnitude = 0 || Number.twoTo 63 < magnitude then float
    else .whole (-(magnitude : Int))

end Numeral

end FormWizard.Json
