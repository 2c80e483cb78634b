import FormWizard.Number.Decimal

/-!
# The fewest digits that read back

A finite positive float is `mantissa * 2 ^ scale`. The real numbers that round to it form an
interval: from halfway to the neighbour below to halfway to the neighbour above, the ends included
exactly when the mantissa is even. `Binary.holds` is membership of a decimal in that interval, by
exact comparison of natural numbers.

`shortest` looks for a decimal of the interval on coarser and coarser grids, one digit first. On
each grid only the two neighbours of the value itself can be the nearest hit, so two candidates are
tested. Of two hits the nearer is taken; a `TieRule` decides when both are equally near. Seventeen
digits always suffice, and beyond them the exact decimal expansion is returned, never a guess.
-/

namespace FormWizard.Number

/-- The positive number `mantissa * 2 ^ scale`. -/
structure Binary where
  /-- The binary digits, read as one natural number. -/
  mantissa : Nat
  /-- The power of two they are multiplied by. -/
  scale : Int
  /-- Whether the neighbour below is half as far away as the neighbour above. -/
  narrowBelow : Bool
deriving DecidableEq, Repr

/-- The magnitude of a finite float. -/
def Binary.ofFloat (x : Float) : Binary :=
  let bits := x.toBits.toNat
  let exponent : Nat := bits / twoTo 52 % twoTo 11
  let fraction : Nat := bits % twoTo 52
  if exponent = 0 then ⟨fraction, -1074, false⟩
  else ⟨twoTo 52 + fraction, (exponent : Int) - 1075, fraction == 0 && 1 < exponent⟩

/-- Which of two equally near decimals is taken. -/
inductive TieRule where
  /-- The one with the even last digit. -/
  | toEven
  /-- The larger one. -/
  | up
deriving DecidableEq, Repr

/-- Compares the decimal `d` with `n * 2 ^ scale`. -/
def Decimal.compareScaled (d : Decimal) (n : Nat) (scale : Int) : Ordering :=
  compare (d.digits * tenTo d.exponent.toNat * twoTo (-scale).toNat)
    (n * twoTo scale.toNat * tenTo (-d.exponent).toNat)

/-- Whether the decimal `d` rounds to `b`. -/
def Binary.holds (b : Binary) (d : Decimal) : Bool :=
  let below := if b.narrowBelow then 4 * b.mantissa - 1 else 4 * b.mantissa - 2
  let above := 4 * b.mantissa + 2
  let closed := b.mantissa % 2 == 0
  let low := d.compareScaled below (b.scale - 2)
  let high := d.compareScaled above (b.scale - 2)
  (low == .gt || (closed && low == .eq)) && (high == .lt || (closed && high == .eq))

/-- The number of units of `10 ^ exponent` in `b`, rounded down. -/
def Binary.units (b : Binary) (exponent : Int) : Nat :=
  b.mantissa * twoTo b.scale.toNat * tenTo (-exponent).toNat
    / (tenTo exponent.toNat * twoTo (-b.scale).toNat)

/-- The least `k`, from the estimate `k` on, with `b < 10 ^ k`; the estimate is never too high by
more than the steps tried. -/
def Binary.leadingFrom (b : Binary) : Nat → Int → Int
  | 0, k => k
  | steps + 1, k => if b.units k = 0 then k else b.leadingFrom steps (k + 1)

/-- The least `k` with `b < 10 ^ k`. The binary length times `log 2` gives it up to one, and the
fraction used for `log 2` is below the true value. -/
def Binary.leading (b : Binary) : Int :=
  let binaryLength := (b.mantissa.log2 : Int) + b.scale
  b.leadingFrom 4 (Int.fdiv (binaryLength * 30102) 100000 - 1)

/-- The nearest decimal with grid `10 ^ exponent` that rounds to `b`, if one of the two neighbours
of `b` on that grid does. -/
def Binary.onGrid? (tie : TieRule) (b : Binary) (exponent : Int) : Option Decimal :=
  let n := b.units exponent
  let lower : Decimal := ⟨n, exponent⟩
  let upper : Decimal := ⟨n + 1, exponent⟩
  match b.holds lower, b.holds upper with
  | true, false => some lower
  | false, true => some upper
  | false, false => none
  | true, true =>
    match (⟨2 * n + 1, exponent⟩ : Decimal).compareScaled (2 * b.mantissa) b.scale, tie with
    | .gt, _ => some lower
    | .lt, _ => some upper
    | .eq, .up => some upper
    | .eq, .toEven => some (if n % 2 = 0 then lower else upper)

/-- Moves trailing zeros of the digits into the exponent, at most `steps` of them. -/
def Decimal.stripZeros : Nat → Decimal → Decimal
  | 0, d => d
  | steps + 1, d =>
    if d.digits % 10 = 0 && d.digits != 0 then stripZeros steps ⟨d.digits / 10, d.exponent + 1⟩
    else d

/-- The exact decimal value: half a unit is five tenths of it. -/
def Binary.exact (b : Binary) : Decimal :=
  let halvings := (-b.scale).toNat
  ⟨b.mantissa * twoTo b.scale.toNat * Nat.pow 5 halvings, -(halvings : Int)⟩

/-- The decimal with the fewest digits that rounds to the finite float `x` without its sign. -/
def shortest (tie : TieRule) (x : Float) : Decimal :=
  let b := Binary.ofFloat x
  if b.mantissa = 0 then ⟨0, 0⟩
  else
    let leading := b.leading
    let found := (List.range 17).findSome? fun (n : Nat) ↦ b.onGrid? tie (leading - 1 - n)
    let d := found.getD b.exact
    d.stripZeros (digitCount d.digits)

end FormWizard.Number
