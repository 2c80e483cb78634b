/-!
# Ranges of case mappings

Characters and their counterparts in the other case mostly lie in two parallel runs, or alternate. A
`CaseRange` says so for a run of characters: every `stride`-th one from `first` to `last` has its
counterpart `shift` code points further on.
-/

namespace FormWizard.Text

/-- A run of characters with counterparts at one distance. -/
structure CaseRange where
  /-- The first character of the run. -/
  first : Nat
  /-- The last character of the run. -/
  last : Nat
  /-- The distance between neighbours in the run. -/
  stride : Nat
  /-- The distance from a character to its counterpart. -/
  shift : Int

namespace CaseRange

/-- Whether a code point belongs to the run. -/
def contains (r : CaseRange) (n : Nat) : Bool :=
  r.first ≤ n && n ≤ r.last && (n - r.first) % r.stride = 0

/-- The counterpart of a code point in the first run that it belongs to. -/
def mapped? (ranges : List CaseRange) (n : Nat) : Option Nat :=
  (ranges.find? (·.contains n)).map fun r ↦ ((n : Int) + r.shift).toNat

/-- The code points with the given counterpart. -/
def sources (ranges : List CaseRange) (n : Nat) : List Nat :=
  ranges.filterMap fun r ↦
    let source := ((n : Int) - r.shift).toNat
    if r.contains source then some source else none

/-- The counterpart of a character: by the sequences first, by the ranges otherwise, and the
character itself where it has none. -/
def mapped (ranges : List CaseRange) (sequences : List (Nat × List Nat)) (c : Char) : List Char :=
  match sequences.lookup c.toNat with
  | some counterparts => counterparts.map Char.ofNat
  | none => [Char.ofNat ((mapped? ranges c.toNat).getD c.toNat)]

end CaseRange

end FormWizard.Text
