/-!
# Tables over code points

A property of characters is written down by the places where it changes. A `CodeSet` is a set of
code points whose boundaries are listed in ascending order: the first is in the set, the second is
the first one after it that is not, and so on. A `RunTable` gives every code point a label by the
first code point of each run of equal labels.

Both are looked up by the number of boundaries at or below a code point, which `countUpTo` finds by
halving.
-/

namespace FormWizard.Text

/-- The numbers and labels in rows of words. -/
def tableWords (rows : List String) : List (List Char) :=
  rows.flatMap fun row ↦ (row.toList.splitOnP (· = ' ')).filter (!·.isEmpty)

/-- The number that a word of decimal digits spells. -/
def tableNumber (word : List Char) : Nat :=
  word.foldl (fun n c ↦ 10 * n + (c.toNat - '0'.toNat)) 0

/-- The sums of the list from its start on, starting from `n`. -/
def runningSums (n : Nat) : List Nat → List Nat
  | [] => []
  | k :: ks => (n + k) :: runningSums (n + k) ks

/-- The number of entries at or below `n` of an ascending list, of which those before `low` are
known to be and those from `high` on are known not to be. -/
def countBetween (entries : Array Nat) (n low high : Nat) : Nat :=
  if low < high then
    let middle := (low + high) / 2
    if entries.getD middle 0 ≤ n then countBetween entries n (middle + 1) high
    else countBetween entries n low middle
  else low
termination_by high - low

/-- The number of entries at or below `n` of an ascending list. -/
def countUpTo (entries : Array Nat) (n : Nat) : Nat := countBetween entries n 0 entries.size

/-- A set of code points. -/
structure CodeSet where
  /-- The code points where membership changes, in ascending order. -/
  boundaries : Array Nat

namespace CodeSet

/-- The set whose boundaries lie the given numbers of code points apart, the first from zero. -/
def ofGaps (rows : List String) : CodeSet :=
  ⟨(runningSums 0 ((tableWords rows).map tableNumber)).toArray⟩

/-- Whether a character is in the set. -/
def contains (s : CodeSet) (c : Char) : Bool := countUpTo s.boundaries c.toNat % 2 = 1

end CodeSet

/-- A label for every code point. -/
structure RunTable where
  /-- The first code points of the runs, in ascending order. -/
  starts : Array Nat
  /-- The labels of the runs. -/
  labels : Array String

namespace RunTable

/-- The labels and lengths in a list of words that alternate between the two. -/
def pairs : List (List Char) → List (String × Nat)
  | label :: length :: words => (String.ofList label, tableNumber length) :: pairs words
  | _ => []

/-- The table whose runs from zero on have the given labels and lengths. -/
def ofRuns (rows : List String) : RunTable :=
  let runs := pairs (tableWords rows)
  ⟨(0 :: runningSums 0 (runs.map (·.2))).toArray, (runs.map (·.1)).toArray⟩

/-- The label of a code point. -/
def labelAt (t : RunTable) (n : Nat) : String := t.labels.getD (countUpTo t.starts n - 1) ""

end RunTable

end FormWizard.Text
