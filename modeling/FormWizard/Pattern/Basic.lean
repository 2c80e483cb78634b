/-!
# Text patterns

A `Pattern` is a regular expression over characters: single characters out of a set, sequences,
alternatives, repetitions, and conditions on the place between two characters.

`Pattern.advance` runs a pattern on a whole set of places at once: from the places where a match may
start it finds those where it may end. Since only sets of places are kept, the time does not depend
on the number of ways in which a text matches. `Pattern.occursIn` asks whether a match starts
anywhere.

A place is the number of characters before it; sets of places are ascending lists.
-/

namespace FormWizard

/-- A set of characters. -/
abbrev CharSet := Char → Bool

/-- A condition on the place between two characters. -/
inductive Anchor where
  /-- The start of the text. -/
  | textStart
  /-- The end of the text. -/
  | textEnd
  /-- The start of a line; lines end in a line feed. -/
  | lineStart
  /-- The end of a line; lines end in a line feed. -/
  | lineEnd
  /-- The start of a line; lines end in a carriage return, a line feed, or both in this order. -/
  | anyLineStart
  /-- The end of a line; lines end in a carriage return, a line feed, or both in this order. -/
  | anyLineEnd
  /-- A place with a character of the set on exactly one side. -/
  | boundary (word : CharSet)
  /-- A place that is no boundary. -/
  | noBoundary (word : CharSet)
  /-- A place before which no character of the set stands, and behind which one does. -/
  | wordStart (word : CharSet)
  /-- A place before which a character of the set stands, and behind which none does. -/
  | wordEnd (word : CharSet)
  /-- A place before which no character of the set stands. -/
  | startHalf (word : CharSet)
  /-- A place behind which no character of the set stands. -/
  | endHalf (word : CharSet)

/-- Whether the condition holds between two neighbours, either of which may be missing. -/
def Anchor.holds (before after : Option Char) : Anchor → Bool
  | .textStart => before.isNone
  | .textEnd => after.isNone
  | .lineStart => before.all (· = '\n')
  | .lineEnd => after.all (· = '\n')
  | .anyLineStart => before.all (· = '\n') || (before.all (· = '\r') && after != some '\n')
  | .anyLineEnd => after.all (· = '\r') || (after.all (· = '\n') && before != some '\r')
  | .boundary word => before.any word != after.any word
  | .noBoundary word => before.any word == after.any word
  | .wordStart word => !before.any word && after.any word
  | .wordEnd word => before.any word && !after.any word
  | .startHalf word => !before.any word
  | .endHalf word => !after.any word

/-- A regular expression. -/
inductive Pattern where
  /-- The empty text. -/
  | empty
  /-- One character out of a set. -/
  | one (set : CharSet)
  /-- The empty text at a place that satisfies a condition. -/
  | anchor (a : Anchor)
  /-- One pattern and then another. -/
  | seq (first second : Pattern)
  /-- One pattern or another. -/
  | alt (first second : Pattern)
  /-- A pattern at least so many times in a row, and at most so many times if that is bounded. -/
  | repeated (p : Pattern) (least : Nat) (most : Option Nat)

namespace Pattern

/-- The places in either of two sets. -/
def union (ps qs : List Nat) : List Nat := (ps.merge qs (· ≤ ·)).eraseReps

/-- Applies a step a number of times, or until it changes nothing. -/
def iterate (step : List Nat → List Nat) : Nat → List Nat → List Nat
  | 0, ps => ps
  | n + 1, ps =>
    let qs := step ps
    if qs = ps then ps else iterate step n qs

/-- The places reached in at most the given number of steps: those already reached and what comes
from the places reached last. -/
def reach (step : List Nat → List Nat) : Nat → List Nat → List Nat → List Nat
  | 0, reached, _ => reached
  | n + 1, reached, last =>
    let fresh := (step last).filter (!reached.contains ·)
    if fresh.isEmpty then reached else reach step n (union reached fresh) fresh

/-- The places where a match may end, out of those where it may start. Steps that reach new places
without bound end after as many steps as there are places. -/
def advance (text : Array Char) : Pattern → List Nat → List Nat
  | .empty, ps => ps
  | .one set, ps => ps.filterMap fun i ↦ if (text[i]?).any set then some (i + 1) else none
  | .anchor a, ps =>
    ps.filter fun i ↦ a.holds (if i = 0 then none else text[i - 1]?) text[i]?
  | .seq p q, ps => advance text q (advance text p ps)
  | .alt p q, ps => union (advance text p ps) (advance text q ps)
  | .repeated p least most, ps =>
    let start := iterate (advance text p) least ps
    let more := match most with
      | some m => m - least
      | none => text.size + 1
    reach (advance text p) more start start

/-- Whether the pattern matches somewhere in the text. -/
def occursIn (p : Pattern) (s : String) : Bool :=
  let text := s.toList.toArray
  !(advance text p (List.range (text.size + 1))).isEmpty

end Pattern

end FormWizard
