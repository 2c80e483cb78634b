/-!
# Flaws in patterns

A `Flaw` says why a text is no pattern, and where. A place is given by the number of characters left
from it on, since a reader knows what it has yet to read.

`Flaw.report` shows the text with carets under the flawed part, and under a second part where that
helps: the earlier one of two names, for instance. Lines are numbered if there are several.
-/

namespace FormWizard.Pattern

/-- Why a text is no pattern. -/
inductive FlawKind where
  | classEscapeInvalid
  | classRangeInvalid
  | classRangeLiteral
  | classUnclosed
  | decimalInvalid
  | hexEmpty
  | hexInvalid
  | hexInvalidDigit
  | escapeUnexpectedEnd
  | escapeUnrecognized
  | flagDanglingNegation
  | flagDuplicate
  | flagRepeatedNegation
  | flagUnexpectedEnd
  | flagUnrecognized
  | groupNameDuplicate
  | groupNameEmpty
  | groupNameInvalid
  | groupNameUnexpectedEnd
  | groupUnclosed
  | groupUnopened
  | countInvalid
  | countEmpty
  | countUnclosed
  | repetitionMissing
  | wordBoundaryUnclosed
  | wordBoundaryUnrecognized
  | wordBoundaryUnexpectedEnd
  | propertyInvalid
  | backreference
  | lookAround
  | unicodeNotAllowed
  | invalidUtf8
  | propertyNotFound
  | propertyValueNotFound
deriving DecidableEq, Repr

/-- The wording of a reason. -/
def FlawKind.message : FlawKind → String
  | .classEscapeInvalid => "invalid escape sequence found in character class"
  | .classRangeInvalid => "invalid character class range, the start must be <= the end"
  | .classRangeLiteral => "invalid range boundary, must be a literal"
  | .classUnclosed => "unclosed character class"
  | .decimalInvalid => "decimal literal invalid"
  | .hexEmpty => "hexadecimal literal empty"
  | .hexInvalid => "hexadecimal literal is not a Unicode scalar value"
  | .hexInvalidDigit => "invalid hexadecimal digit"
  | .escapeUnexpectedEnd => "incomplete escape sequence, reached end of pattern prematurely"
  | .escapeUnrecognized => "unrecognized escape sequence"
  | .flagDanglingNegation => "dangling flag negation operator"
  | .flagDuplicate => "duplicate flag"
  | .flagRepeatedNegation => "flag negation operator repeated"
  | .flagUnexpectedEnd => "expected flag but got end of regex"
  | .flagUnrecognized => "unrecognized flag"
  | .groupNameDuplicate => "duplicate capture group name"
  | .groupNameEmpty => "empty capture group name"
  | .groupNameInvalid => "invalid capture group character"
  | .groupNameUnexpectedEnd => "unclosed capture group name"
  | .groupUnclosed => "unclosed group"
  | .groupUnopened => "unopened group"
  | .countInvalid => "invalid repetition count range, the start must be <= the end"
  | .countEmpty => "repetition quantifier expects a valid decimal"
  | .countUnclosed => "unclosed counted repetition"
  | .repetitionMissing => "repetition operator missing expression"
  | .wordBoundaryUnclosed =>
    "special word boundary assertion is either unclosed or contains an invalid character"
  | .wordBoundaryUnrecognized =>
    "unrecognized special word boundary assertion, valid choices are: start, end, start-half or "
      ++ "end-half"
  | .wordBoundaryUnexpectedEnd =>
    "found either the beginning of a special word boundary or a bounded repetition on a \\b with "
      ++ "an opening brace, but no closing brace"
  | .propertyInvalid => "invalid Unicode character class"
  | .backreference => "backreferences are not supported"
  | .lookAround => "look-around, including look-ahead and look-behind, is not supported"
  | .unicodeNotAllowed => "Unicode not allowed here"
  | .invalidUtf8 => "pattern can match invalid UTF-8"
  | .propertyNotFound => "Unicode property not found"
  | .propertyValueNotFound => "Unicode property value not found"

/-- A part of a text, by the numbers of characters left at its two ends. -/
structure Extent where
  /-- The number of characters left where the part starts. -/
  start : Nat
  /-- The number of characters left where the part stops. -/
  stop : Nat
deriving DecidableEq, Repr

/-- The part between what is left at two places. -/
def Extent.between (start stop : List Char) : Extent := ⟨start.length, stop.length⟩

/-- The first character of what is left. -/
def Extent.first (start : List Char) : Extent := ⟨start.length, start.length - 1⟩

/-- A reason and the part of the text that it is about. -/
structure Flaw where
  /-- The reason. -/
  kind : FlawKind
  /-- The part that is flawed. -/
  extent : Extent
  /-- An earlier part that it conflicts with. -/
  earlier : Option Extent := none
deriving DecidableEq, Repr

/-- A place in a text, line and column counted from one. -/
structure Place where
  /-- The line. -/
  line : Nat
  /-- The column. -/
  column : Nat
deriving DecidableEq, Repr

/-- The place behind some characters. -/
def Place.behind (cs : List Char) : Place :=
  ⟨cs.count '\n' + 1, (cs.reverse.takeWhile (· != '\n')).length + 1⟩

namespace Flaw

/-- The lines of a text, without the ends of lines. The last line need not be ended. -/
def lines (cs : List Char) : List (List Char) :=
  let parts := cs.splitOn '\n'
  let parts := if parts.getLast? = some [] then parts.dropLast else parts
  parts.map fun line ↦ if line.getLast? = some '\r' then line.dropLast else line

/-- The places where an extent starts and stops. -/
def places (cs : List Char) (e : Extent) : Place × Place :=
  (.behind (cs.take (cs.length - e.start)), .behind (cs.take (cs.length - e.stop)))

/-- The extents of a flaw, in the order of the text. -/
def extents (f : Flaw) : List Extent :=
  match f.earlier with
  | some e => if e.start < f.extent.start then [f.extent, e] else [e, f.extent]
  | none => [f.extent]

/-- Carets under columns, each run at least one wide, given the width of what is written so far. -/
def carets (width : Nat) : List (Nat × Nat) → List Char
  | [] => []
  | (start, stop) :: rest =>
    let gap := start - 1 - width
    let run := max 1 (stop - start)
    List.replicate gap ' ' ++ List.replicate run '^' ++ carets (width + gap + run) rest

/-- The text with a line of carets under each line that has a flawed part. -/
def notated (cs : List Char) (marks : List (Place × Place)) : List String :=
  let count := (lines cs).length + (if cs.getLast? = some '\n' then 1 else 0)
  let digits := if count ≤ 1 then 0 else (toString count).length
  let margin := if digits = 0 then 4 else digits + 2
  (lines cs).zipIdx.flatMap fun (line, i) ↦
    let number := toString (i + 1)
    let heading :=
      if digits = 0 then "    "
      else String.ofList (List.replicate (digits - number.length) ' ') ++ number ++ ": "
    let here := marks.filter fun (a, b) ↦ a.line = b.line && a.line = i + 1
    let notes := carets 0 (here.map fun (a, b) ↦ (a.column, b.column))
    (heading ++ String.ofList line) ::
      (if here.isEmpty then [] else [String.ofList (List.replicate margin ' ' ++ notes)])

/-- Where a flawed part goes over several lines. -/
def spread (marks : List (Place × Place)) : List String :=
  (marks.filter fun (a, b) ↦ a.line != b.line).map fun (a, b) ↦
    let first := s!"on line {a.line} (column {a.column})"
    s!"{first} through line {b.line} (column {b.column - 1})"

/-- The flaw shown in the text that it was found in. -/
def report (f : Flaw) (text : String) : String :=
  let cs := text.toList
  let marks := f.extents.map (places cs)
  let divider := if cs.contains '\n' then [String.ofList (List.replicate 79 '~')] else []
  let shown := divider ++ notated cs marks ++ divider ++ spread marks
  "\n".intercalate ("regex parse error:" :: shown ++ ["error: " ++ f.kind.message])

end Flaw

end FormWizard.Pattern
