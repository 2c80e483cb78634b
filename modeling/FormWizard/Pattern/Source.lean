import FormWizard.Number.Decimal
import FormWizard.Pattern.CharClass
import FormWizard.Pattern.Flaw

/-!
# Patterns read from text

`Pattern.ofText` reads the usual notation of regular expressions: alternatives, groups with or
without a name, repetitions, classes with nested classes and set operators, escapes, and flags.
Conditions that look ahead or behind, and references back to a group, are no patterns.

Flags in a group of their own hold to the end of the group around them, across its alternatives.
What a pattern matches depends on the flags where it is written, so they are resolved while reading,
and a `Pattern` carries none. Case is folded before a class is negated.

Every reader returns the text left over, or the first flaw. What the text says may be flawed
although it is well formed, a property that does not exist for instance; such a flaw counts only if
the whole text is well formed, so the first one is noted and reading goes on. The readers for groups
and classes are structural in a bound on the characters that may still be read.
-/

namespace FormWizard.Pattern

open FormWizard.Text

/-- How the text from some place on is read. -/
structure Flags where
  /-- Whether case makes no difference. -/
  ignoreCase : Bool
  /-- Whether `^` and `$` hold at the ends of lines. -/
  multiLine : Bool
  /-- Whether `.` stands for ends of lines too. -/
  dotAll : Bool
  /-- Whether classes and word characters are those of all scripts. -/
  unicode : Bool
  /-- Whether carriage returns end lines too. -/
  anyLineEnds : Bool
  /-- Whether blanks and comments in the pattern are skipped. -/
  verbose : Bool

/-- The flags at the start of a pattern. -/
def Flags.initial : Flags := ⟨false, false, false, true, false, false⟩

/-- Sets the flag of a letter; one letter changes nothing about what is matched. -/
def Flags.set? (flags : Flags) (letter : Char) (on : Bool) : Option Flags :=
  match letter with
  | 'i' => some { flags with ignoreCase := on }
  | 'm' => some { flags with multiLine := on }
  | 's' => some { flags with dotAll := on }
  | 'U' => some flags
  | 'u' => some { flags with unicode := on }
  | 'R' => some { flags with anyLineEnds := on }
  | 'x' => some { flags with verbose := on }
  | _ => none

/-- The text without blanks and comments in front, from inside a comment or not. -/
def skipBlanks (inComment : Bool) : List Char → List Char
  | [] => []
  | c :: cs =>
    if inComment then skipBlanks (c != '\n') cs
    else if isBlank c then skipBlanks false cs
    else if c = '#' then skipBlanks true cs
    else c :: cs

/-- The text from the next character that counts. -/
def Flags.skip (flags : Flags) (cs : List Char) : List Char :=
  if flags.verbose then skipBlanks false cs else cs

/-- The end of the text. -/
def endOfText : Extent := ⟨0, 0⟩

/-! ### Numbers and names -/

/-- The value of a hexadecimal digit. -/
def hexValue? (c : Char) : Option Nat :=
  if c.isDigit then some (c.toNat - '0'.toNat)
  else if 'a' ≤ c && c ≤ 'f' then some (c.toNat - 'a'.toNat + 10)
  else if 'A' ≤ c && c ≤ 'F' then some (c.toNat - 'A'.toNat + 10)
  else none

/-- Reads exactly so many hexadecimal digits after a number read so far. -/
def hexDigits (flags : Flags) : Nat → Nat → List Char → Except Flaw (Nat × List Char)
  | 0, n, cs => .ok (n, cs)
  | _ + 1, _, [] => .error ⟨.escapeUnexpectedEnd, endOfText, none⟩
  | k + 1, n, c :: cs =>
    match hexValue? c with
    | some d => hexDigits flags k (16 * n + d) (flags.skip cs)
    | none => .error ⟨.hexInvalidDigit, .first (c :: cs), none⟩

/-- Reads hexadecimal digits up to a closing brace, which is left over. Given is what is left from
the opening brace on, and the number read so far if there is one. -/
def bracedHex (flags : Flags) (brace : List Char) (read : Option Nat) :
    List Char → Except Flaw (Nat × List Char)
  | [] => .error ⟨.escapeUnexpectedEnd, .between brace [], none⟩
  | '\x7d' :: cs =>
    match read with
    | some n => .ok (n, '\x7d' :: cs)
    | none => .error ⟨.hexEmpty, .between brace (flags.skip cs), none⟩
  | c :: cs =>
    match hexValue? c with
    | some d => bracedHex flags brace (some (16 * read.getD 0 + d)) cs
    | none =>
      if flags.verbose && isBlank c then bracedHex flags brace read cs
      else .error ⟨.hexInvalidDigit, .first (c :: cs), none⟩

/-- The character of a code point that was written between two places. -/
def charOf (n : Nat) (start stop : List Char) : Except Flaw Char :=
  if n.isValidChar then .ok (Char.ofNat n) else .error ⟨.hexInvalid, .between start stop, none⟩

/-- The decimal digits in front. -/
def countDigits (flags : Flags) : Nat → List Char → List Char × List Char
  | bound + 1, c :: cs =>
    if c.isDigit then
      let (digits, rest) := countDigits flags bound (flags.skip cs)
      (c :: digits, rest)
    else ([], c :: cs)
  | _, cs => ([], cs)

/-- A number of at most 32 bits between blanks, or why there is none, and what is left. -/
def readCount (flags : Flags) (cs : List Char) : Except Flaw Nat × List Char :=
  let start := cs.dropWhile isBlank
  let (digits, stop) := countDigits flags start.length start
  let rest := flags.skip (stop.dropWhile isBlank)
  let n := Number.natOfDigits digits
  if digits.isEmpty then (.error ⟨.countEmpty, .between start stop, none⟩, rest)
  else if Number.twoTo 32 ≤ n then (.error ⟨.decimalInvalid, .between start stop, none⟩, rest)
  else (.ok n, rest)

/-- The text behind the mark of a repetition, which may say that it takes as little as it can. -/
def afterMark : List Char → List Char
  | '?' :: cs => cs
  | cs => cs

/-- The bounds of a repetition, from its opening brace on. -/
def readBounds (flags : Flags) (brace : List Char) :
    Except Flaw ((Nat × Option Nat) × List Char) := do
  let unclosed (rest : List Char) : Flaw := ⟨.countUnclosed, .between brace rest, none⟩
  let close (least : Nat) (most : Option Nat) (rest : List Char) :
      Except Flaw ((Nat × Option Nat) × List Char) :=
    let rest := afterMark (flags.skip rest)
    if most.all (least ≤ ·) then .ok ((least, most), rest)
    else .error ⟨.countInvalid, .between brace rest, none⟩
  let inside := flags.skip (brace.drop 1)
  if inside.isEmpty then throw (unclosed [])
  let (least, rest) := readCount flags inside
  match rest with
  | [] => throw (unclosed [])
  | ',' :: more =>
    match flags.skip more with
    | [] => throw (unclosed [])
    | '\x7d' :: rest => close (← least) none rest
    | rest =>
      let least ← least
      let (most, rest) := readCount flags rest
      let most ← most
      match rest with
      | '\x7d' :: rest => close least (some most) rest
      | _ => throw (unclosed rest)
  | '\x7d' :: rest =>
    let least ← least
    close least (some least) rest
  | _ =>
    let _ ← least
    throw (unclosed rest)

/-- Whether a character may stand in the name of a group. -/
def isNameChar (first : Bool) (c : Char) : Bool :=
  let letter := c = '_' || Property.alphabetic.contains c
  if first then letter
  else letter || c = '.' || c = '[' || c = ']' || Category.holds "N" c

/-- The characters of the name of a group up to its closing angle, which is left over. -/
def nameChars (first : Bool) : List Char → Except Flaw (List Char × List Char)
  | [] => .error ⟨.groupNameUnexpectedEnd, endOfText, none⟩
  | c :: cs =>
    if c = '>' then .ok ([], c :: cs)
    else if isNameChar first c then do
      let (name, rest) ← nameChars false cs
      return (c :: name, rest)
    else .error ⟨.groupNameInvalid, .first (c :: cs), none⟩

/-- The names of the groups read so far, each with its place, and the first flaw noted. -/
structure Notes where
  /-- The names. -/
  names : List (List Char × Extent)
  /-- The flaw. -/
  flaw : Option Flaw

/-- Notes a flaw, unless there is one already. -/
def Notes.add (notes : Notes) (flaw : Option Flaw) : Notes :=
  { notes with flaw := notes.flaw.or flaw }

/-- Reads the name of a group and notes it. -/
def groupName (notes : Notes) (cs : List Char) : Except Flaw (Notes × List Char) := do
  let (name, stop) ← nameChars true cs
  if name.isEmpty then throw ⟨.groupNameEmpty, .between cs cs, none⟩
  let extent := Extent.between cs stop
  match notes.names.lookup name with
  | some earlier => throw ⟨.groupNameDuplicate, extent, some earlier⟩
  | none => return ({ notes with names := (name, extent) :: notes.names }, stop.drop 1)

/-- Flags up to a colon or a closing parenthesis, which is left over, and whether there are none.
Given are the letters and signs read so far with their places, and the place of a minus sign that
stands last. -/
def readFlags (flags : Flags) (seen : List (Char × Extent)) (dangling : Option Extent) :
    List Char → Except Flaw ((Flags × Bool) × List Char)
  | [] => .error ⟨.flagUnexpectedEnd, endOfText, none⟩
  | c :: cs =>
    let here := Extent.first (c :: cs)
    if c = ':' || c = ')' then
      match dangling with
      | some extent => .error ⟨.flagDanglingNegation, extent, none⟩
      | none => .ok ((flags, seen.isEmpty), c :: cs)
    else
      match seen.lookup c with
      | some earlier =>
        let kind := if c = '-' then FlawKind.flagRepeatedNegation else .flagDuplicate
        .error ⟨kind, here, some earlier⟩
      | none =>
        if c = '-' then readFlags flags ((c, here) :: seen) (some here) cs
        else
          match flags.set? c (seen.lookup '-').isNone with
          | some flags => readFlags flags ((c, here) :: seen) none cs
          | none => .error ⟨.flagUnrecognized, here, none⟩

/-! ### Single characters, sets and conditions -/

/-- What an escape, or a character without one, stands for. -/
inductive Item where
  /-- A character that stands for itself. -/
  | char (c : Char)
  /-- A part of a character, given by its eight bits. -/
  | byte (c : Char)
  /-- A set of characters. -/
  | set (s : CharSet)
  /-- A condition on a place. -/
  | anchor (a : Anchor)
  /-- Nothing, for a reason. -/
  | flawed (kind : FlawKind)

/-- Reads the code point behind the letter of an escape that has so many digits without braces. -/
def hexEscape (flags : Flags) (digits : Nat) (cs : List Char) :
    Except Flaw (Item × List Char) := do
  match flags.skip cs with
  | [] => throw ⟨.escapeUnexpectedEnd, endOfText, none⟩
  | '\x7b' :: inside =>
    let (n, stop) ← bracedHex flags ('\x7b' :: inside) none inside
    let c ← charOf n inside stop
    return (.char c, flags.skip (stop.drop 1))
  | start =>
    let (n, stop) ← hexDigits flags digits 0 start
    let c ← charOf n start stop
    return (if digits = 2 && !flags.unicode && 128 ≤ n then .byte c else .char c, stop)

/-- The word characters under the flags. -/
def Flags.word (flags : Flags) : CharSet :=
  if flags.unicode then CharSet.word else CharSet.asciiWord

/-- Folds case if the flags say so. -/
def Flags.fold (flags : Flags) (s : CharSet) : CharSet :=
  if !flags.ignoreCase then s
  else if flags.unicode then s.foldCase
  else s.foldAsciiCase

/-- Whether a set can be matched: without the classes of all scripts, characters beyond ASCII cannot
be told from parts of characters. -/
def Flags.canMatch (flags : Flags) (s : CharSet) : Bool :=
  flags.unicode || (List.range 128).all fun n ↦ !s (Char.ofNat (128 + n))

/-- A set as it is matched. -/
def Flags.matched (flags : Flags) (s : CharSet) : CharSet :=
  if flags.unicode then s else s.inter CharSet.ascii

/-- The condition written as a word in braces behind `\b`. -/
def wordAnchor? (word : CharSet) (name : String) : Option Anchor :=
  match name with
  | "start" => some (.wordStart word)
  | "end" => some (.wordEnd word)
  | "start-half" => some (.startHalf word)
  | "end-half" => some (.endHalf word)
  | _ => none

/-- Whether a character may stand in such a word. -/
def isAnchorChar (c : Char) : Bool := c.isAlpha || c = '-'

/-- The characters of such a word, and what is left. -/
def anchorChars (flags : Flags) : Nat → List Char → List Char × List Char
  | bound + 1, c :: cs =>
    if isAnchorChar c then
      let (word, rest) := anchorChars flags bound (flags.skip cs)
      (c :: word, rest)
    else ([], c :: cs)
  | _, cs => ([], cs)

/-- What stands behind `\b`: a word in braces, or anything else, which is left over. Given is what
is left from the backslash on. -/
def readBoundary (flags : Flags) (start cs : List Char) : Except Flaw (Item × List Char) :=
  match cs with
  | '\x7b' :: inside =>
    match flags.skip inside with
    | [] => .error ⟨.wordBoundaryUnexpectedEnd, .between start [], none⟩
    | c :: more =>
      if isAnchorChar c then
        let (name, stop) := anchorChars flags (c :: more).length (c :: more)
        match stop with
        | '\x7d' :: rest =>
          match wordAnchor? flags.word (String.ofList name) with
          | some a => .ok (.anchor a, rest)
          | none => .error ⟨.wordBoundaryUnrecognized, .between (c :: more) stop, none⟩
        | _ => .error ⟨.wordBoundaryUnclosed, .between cs stop, none⟩
      else .ok (.anchor (.boundary flags.word), cs)
  | _ => .ok (.anchor (.boundary flags.word), cs)

/-- The name of a property cut at its relation to a value: the parts and whether they differ. An
inequality counts before a colon, and a colon before an equals sign. -/
def splitRelation (name : List Char) : List Char × Option (List Char × Bool) :=
  let cutAt (sign : Char) : Option (List Char × List Char) :=
    match name.span (· != sign) with
    | (before, _ :: after) => some (before, after)
    | _ => none
  match differs name with
  | some (before, after) => (before, some (after, true))
  | none =>
    match (cutAt ':').or (cutAt '=') with
    | some (before, after) => (before, some (after, false))
    | none => (name, none)
where
  /-- The parts around the first sign of inequality. -/
  differs : List Char → Option (List Char × List Char)
    | '!' :: '=' :: after => some ([], after)
    | c :: cs => (differs cs).map fun (before, after) ↦ (c :: before, after)
    | [] => none

/-- The set that a property in braces stands for. -/
def bracedProperty (name : List Char) : Except FlawKind CharSet :=
  match splitRelation name with
  | (name, none) => (CharSet.named? name).elim (.error .propertyNotFound) .ok
  | (name, some (value, differs)) =>
    if CharSet.hasValues name then
      match CharSet.withValue? name value with
      | some s => .ok (if differs then s.complement else s)
      | none => .error .propertyValueNotFound
    else .error .propertyNotFound

/-- The item of a property. -/
def propertyItem (flags : Flags) (negated : Bool) (s : Except FlawKind CharSet) : Item :=
  if !flags.unicode then .flawed .unicodeNotAllowed
  else
    match s with
    | .ok s => .set (if negated then (flags.fold s).complement else flags.fold s)
    | .error kind => .flawed kind

/-- The property behind `\p` or `\P`. -/
def readProperty (flags : Flags) (negated : Bool) (cs : List Char) :
    Except Flaw (Item × List Char) :=
  match flags.skip cs with
  | [] => .error ⟨.escapeUnexpectedEnd, endOfText, none⟩
  | '\x7b' :: inside =>
    match inside.span (· != '\x7d') with
    | (name, _ :: rest) =>
      let name := if flags.verbose then name.filter (!isBlank ·) else name
      .ok (propertyItem flags negated (bracedProperty name), rest)
    | (_, []) => .error ⟨.escapeUnexpectedEnd, endOfText, none⟩
  | c :: rest =>
    if c = '\\' then .error ⟨.propertyInvalid, .first (c :: rest), none⟩
    else
      let s := (CharSet.named? [c]).elim (Except.error .propertyNotFound) .ok
      .ok (propertyItem flags negated s, flags.skip rest)

/-- The characters with a meaning of their own that an escape takes away, and all others in ASCII
that are neither letters nor digits nor angles. -/
def isEscapable (c : Char) : Bool :=
  CharSet.ascii c && !c.isAlphanum && c != '<' && c != '>'

/-- What an escape stands for, from its backslash on. -/
def readEscape (flags : Flags) (start : List Char) : Except Flaw (Item × List Char) :=
  match start.drop 1 with
  | [] => .error ⟨.escapeUnexpectedEnd, .between start [], none⟩
  | c :: rest =>
    let digit := if flags.unicode then CharSet.digit else CharSet.asciiDigit
    let blank := if flags.unicode then isBlank else CharSet.asciiBlank
    match c with
    | 'x' => hexEscape flags 2 rest
    | 'u' => hexEscape flags 4 rest
    | 'U' => hexEscape flags 8 rest
    | 'p' => readProperty flags false rest
    | 'P' => readProperty flags true rest
    | 'd' => .ok (.set digit, rest)
    | 'D' => .ok (.set (CharSet.complement digit), rest)
    | 's' => .ok (.set blank, rest)
    | 'S' => .ok (.set (CharSet.complement blank), rest)
    | 'w' => .ok (.set flags.word, rest)
    | 'W' => .ok (.set flags.word.complement, rest)
    | 'a' => .ok (.char '\x07', rest)
    | 'f' => .ok (.char '\x0c', rest)
    | 't' => .ok (.char '\t', rest)
    | 'n' => .ok (.char '\n', rest)
    | 'r' => .ok (.char '\r', rest)
    | 'v' => .ok (.char '\x0b', rest)
    | 'A' => .ok (.anchor .textStart, rest)
    | 'z' => .ok (.anchor .textEnd, rest)
    | 'b' => readBoundary flags start rest
    | 'B' => .ok (.anchor (.noBoundary flags.word), rest)
    | '<' => .ok (.anchor (.wordStart flags.word), rest)
    | '>' => .ok (.anchor (.wordEnd flags.word), rest)
    | c =>
      if c.isDigit then .error ⟨.backreference, .between start rest, none⟩
      else if isEscapable c then .ok (.char c, rest)
      else .error ⟨.escapeUnrecognized, .between start rest, none⟩

/-- The pattern of an item, or why it has none. -/
def ofItem (flags : Flags) : Item → Except FlawKind Pattern
  | .char c =>
    if flags.unicode || CharSet.ascii c then .ok (.one (flags.fold (· == c)))
    else .ok (.one (· == c))
  | .byte _ => .error .invalidUtf8
  | .set s => if flags.canMatch s then .ok (.one (flags.matched s)) else .error .invalidUtf8
  | .anchor a => .ok (.anchor a)
  | .flawed kind => .error kind

/-- The pattern of the point, or why it has none. -/
def dot (flags : Flags) : Except FlawKind Pattern :=
  if !flags.unicode then .error .invalidUtf8
  else if flags.dotAll then .ok (.one CharSet.any)
  else if flags.anyLineEnds then .ok (.one fun c ↦ c != '\n' && c != '\r')
  else .ok (.one (· != '\n'))

/-- The condition of `^`. -/
def caret (flags : Flags) : Anchor :=
  if !flags.multiLine then .textStart
  else if flags.anyLineEnds then .anyLineStart
  else .lineStart

/-- The condition of `$`. -/
def dollar (flags : Flags) : Anchor :=
  if !flags.multiLine then .textEnd
  else if flags.anyLineEnds then .anyLineEnd
  else .lineEnd

/-! ### Classes -/

/-- The operators between parts of a class. -/
inductive SetOp where
  /-- Characters in both parts. -/
  | inter
  /-- Characters in the first part only. -/
  | diff
  /-- Characters in exactly one part. -/
  | symmDiff

/-- The class read so far: what stands before the last operator, the part behind it, and the first
flaw noted. -/
structure ClassReading where
  /-- Whether the class is negated. -/
  negated : Bool
  /-- The place of the opening of the class. -/
  opening : Extent
  /-- The value of the class up to the last operator, and that operator. -/
  before : Option (CharSet × SetOp)
  /-- The characters listed since. -/
  part : CharSet
  /-- The flaw. -/
  flaw : Option Flaw

namespace ClassReading

/-- The class when a part ends. -/
def value (flags : Flags) (r : ClassReading) : CharSet :=
  match r.before with
  | none => r.part
  | some (s, .inter) => (flags.fold s).inter (flags.fold r.part)
  | some (s, .diff) => (flags.fold s).diff (flags.fold r.part)
  | some (s, .symmDiff) => (flags.fold s).symmDiff (flags.fold r.part)

/-- The class when it ends. -/
def closed (flags : Flags) (r : ClassReading) : CharSet :=
  let s := flags.fold (r.value flags)
  if r.negated then s.complement else s

/-- The class with more characters listed, and perhaps a flaw. -/
def add (r : ClassReading) (s : CharSet) (flaw : Option Flaw) : ClassReading :=
  { r with part := r.part.union s, flaw := r.flaw.or flaw }

/-- The class with an operator behind it. -/
def operate (flags : Flags) (r : ClassReading) (op : SetOp) : ClassReading :=
  { r with before := some (r.value flags, op), part := CharSet.none }

/-- The flaw of a class that does not end. -/
def unclosed (r : ClassReading) : Flaw := ⟨.classUnclosed, r.opening, none⟩

end ClassReading

/-- A named class from its opening bracket on. -/
def bracketed? (flags : Flags) (cs : List Char) : Option (CharSet × List Char) :=
  match cs with
  | '[' :: ':' :: cs =>
    let (negated, cs) := match cs with
      | '^' :: cs => (true, cs)
      | cs => (false, cs)
    match cs.span (· != ':') with
    | (name, ':' :: ']' :: rest) =>
      (CharSet.bracketed? (String.ofList name)).map fun s ↦
        let s := flags.fold s
        (if negated then s.complement else s, rest)
    | _ => none
  | _ => none

/-- An item of a class. -/
def classItem (flags : Flags) (cs : List Char) : Except Flaw (Item × List Char) :=
  match cs with
  | c :: rest => if c = '\\' then readEscape flags cs else .ok (.char c, rest)
  | [] => .error ⟨.classUnclosed, endOfText, none⟩

/-- The character that an item is in a class, and why it may not be listed. -/
def Item.listed (flags : Flags) : Item → Option (Char × Option FlawKind)
  | .char c =>
    some (c, if flags.unicode || CharSet.ascii c then none else some .unicodeNotAllowed)
  | .byte c => some (c, none)
  | _ => none

/-- A single item between two places, as it is listed in a class. -/
def single (flags : Flags) (item : Item) (start stop : List Char) :
    Except Flaw (CharSet × Option Flaw) :=
  let extent := Extent.between start stop
  match item with
  | .set s => .ok (s, none)
  | .flawed kind => .ok (CharSet.none, some ⟨kind, extent, none⟩)
  | .anchor _ => .error ⟨.classEscapeInvalid, extent, none⟩
  | item =>
    match item.listed flags with
    | some (c, kind) => .ok ((· == c), kind.map (⟨·, extent, none⟩))
    | none => .ok (CharSet.none, none)

/-- A single item or a range of a class. -/
def classRange (flags : Flags) (r : ClassReading) (cs : List Char) :
    Except Flaw ((CharSet × Option Flaw) × List Char) := do
  let (first, firstStop) ← classItem flags cs
  let alone : Except Flaw ((CharSet × Option Flaw) × List Char) := do
    return (← single flags first cs firstStop, flags.skip firstStop)
  match flags.skip firstStop with
  | [] => throw r.unclosed
  | '-' :: more =>
    match flags.skip more with
    | [] => if more.isEmpty then throw r.unclosed else alone
    | d :: ds =>
      if d = ']' || d = '-' then alone
      else
        let start := d :: ds
        let (last, stop) ← classItem flags start
        match first.listed flags, last.listed flags with
        | none, _ => throw ⟨.classRangeLiteral, .between cs firstStop, none⟩
        | _, none => throw ⟨.classRangeLiteral, .between start stop, none⟩
        | some (a, aKind), some (b, bKind) =>
          if a ≤ b then
            let aFlaw := aKind.map (⟨·, .between cs firstStop, none⟩)
            let bFlaw := bKind.map (⟨·, .between start stop, none⟩)
            return ((CharSet.range a b, aFlaw.or bFlaw), stop)
          else throw ⟨.classRangeInvalid, .between cs stop, none⟩
  | _ => alone

/-- Hyphens at the start of a class, and whether there are any. -/
def hyphens (flags : Flags) : Nat → List Char → Bool × List Char
  | bound + 1, '-' :: cs => (true, (hyphens flags bound (flags.skip cs)).2)
  | _, cs => (false, cs)

/-- The start of a class, from its bracket on: whether it is negated, and what is listed before the
first character that could end it. -/
def openClass (flags : Flags) (start : List Char) : Except Flaw (ClassReading × List Char) :=
  let unclosed : Flaw := ⟨.classUnclosed, .between start [], none⟩
  let (negated, inside) := match flags.skip (start.drop 1) with
    | '^' :: rest => (true, flags.skip rest)
    | rest => (false, rest)
  let begin (listed : CharSet) (rest : List Char) : Except Flaw (ClassReading × List Char) :=
    .ok (⟨negated, .between start rest, none, listed, none⟩, rest)
  match hyphens flags inside.length inside with
  | (_, []) =>
    if inside.isEmpty then .error unclosed
    else .error ⟨.classUnclosed, .between start start, none⟩
  | (true, rest) => begin (· == '-') rest
  | (false, ']' :: rest) =>
    match flags.skip rest with
    | [] => .error unclosed
    | rest => begin (· == ']') rest
  | (false, rest) => begin CharSet.none rest

/-- A class up to its closing bracket, and the first flaw noted in it. -/
def readClass (flags : Flags) :
    Nat → ClassReading → List Char → Except Flaw ((CharSet × Option Flaw) × List Char)
  | 0, r, _ => .error r.unclosed
  | bound + 1, r, cs =>
    match flags.skip cs with
    | [] => .error r.unclosed
    | ']' :: rest => .ok ((r.closed flags, r.flaw), rest)
    | '&' :: '&' :: rest => readClass flags bound (r.operate flags .inter) rest
    | '-' :: '-' :: rest => readClass flags bound (r.operate flags .diff) rest
    | '~' :: '~' :: rest => readClass flags bound (r.operate flags .symmDiff) rest
    | '[' :: rest =>
      match bracketed? flags ('[' :: rest) with
      | some (s, rest) => readClass flags bound (r.add s none) rest
      | none => do
        let (inner, rest) ← openClass flags ('[' :: rest)
        let ((s, flaw), rest) ← readClass flags bound inner rest
        readClass flags bound (r.add s flaw) rest
    | cs => do
      let ((s, flaw), rest) ← classRange flags r cs
      readClass flags bound (r.add s flaw) rest

/-! ### Groups -/

/-- What has been read of a group: the alternatives that are finished, the current one up to its
last item, and that item, unless nothing stands there that could be repeated. -/
structure GroupReading where
  /-- The finished alternatives. -/
  finished : Option Pattern
  /-- The current alternative before its last item. -/
  before : Pattern
  /-- The last item. -/
  last : Option Pattern

namespace GroupReading

/-- Nothing. -/
def start : GroupReading := ⟨none, .empty, none⟩

/-- The current alternative. -/
def current (g : GroupReading) : Pattern :=
  match g.last with
  | some p => .seq g.before p
  | none => g.before

/-- The pattern of the group when it ends. -/
def value (g : GroupReading) : Pattern :=
  match g.finished with
  | some p => .alt p g.current
  | none => g.current

/-- Begins another alternative. -/
def alternative (g : GroupReading) : GroupReading := ⟨some g.value, .empty, none⟩

/-- Adds an item. -/
def item (g : GroupReading) (p : Pattern) : GroupReading :=
  { g with before := g.current, last := p }

/-- Adds a setting of flags, which cannot be repeated. -/
def setting (g : GroupReading) : GroupReading := { g with before := g.current, last := none }

/-- Repeats the last item. -/
def repeat? (g : GroupReading) (least : Nat) (most : Option Nat) : Option GroupReading :=
  g.last.map fun p ↦ { g with last := some (.repeated p least most) }

end GroupReading

/-- What stands behind the parenthesis that opens a group. -/
inductive Opening where
  /-- A group with the flags around it. -/
  | plain
  /-- A group with flags of its own. -/
  | flagged (flags : Flags)
  /-- No group, but flags for what follows. -/
  | setting (flags : Flags)

/-- Reads what stands behind the parenthesis that opens a group, from the parenthesis on. -/
def readOpening (flags : Flags) (notes : Notes) (start : List Char) :
    Except Flaw ((Opening × Notes) × List Char) := do
  let inside := flags.skip (start.drop 1)
  let lookAround (rest : List Char) : Flaw := ⟨.lookAround, .between start rest, none⟩
  match inside with
  | '?' :: '=' :: rest => throw (lookAround rest)
  | '?' :: '!' :: rest => throw (lookAround rest)
  | '?' :: '<' :: '=' :: rest => throw (lookAround rest)
  | '?' :: '<' :: '!' :: rest => throw (lookAround rest)
  | '?' :: 'P' :: '<' :: rest =>
    let (notes, rest) ← groupName notes rest
    return ((.plain, notes), rest)
  | '?' :: '<' :: rest =>
    let (notes, rest) ← groupName notes rest
    return ((.plain, notes), rest)
  | ['?'] => throw ⟨.groupUnclosed, .first start, none⟩
  | '?' :: rest =>
    match ← readFlags flags [] none rest with
    | ((inner, isEmpty), ')' :: rest) =>
      if isEmpty then throw ⟨.repetitionMissing, .between inside inside, none⟩
      else return ((.setting inner, notes), rest)
    | ((inner, _), rest) => return ((.flagged inner, notes), rest.drop 1)
  | rest => return ((.plain, notes), rest)

/-- What has been read of a group with one more item, or with a flaw noted in its place. -/
def GroupReading.take (g : GroupReading) (notes : Notes) (p : Except FlawKind Pattern)
    (start stop : List Char) : GroupReading × Notes :=
  match p with
  | .ok p => (g.item p, notes)
  | .error kind => (g.item .empty, notes.add (some ⟨kind, .between start stop, none⟩))

/-- A group up to its closing parenthesis or the end of the text, neither of which is read. Given
are the notes so far and what has been read of this group. -/
def readGroup :
    Nat → Flags → Notes → GroupReading → List Char → Except Flaw ((Pattern × Notes) × List Char)
  | 0, _, _, _, _ => .error ⟨.groupUnclosed, endOfText, none⟩
  | bound + 1, flags, notes, g, cs =>
    let repeated (cs : List Char) (least : Nat) (most : Option Nat) : Except Flaw GroupReading :=
      match g.repeat? least most with
      | some g => .ok g
      | none => .error ⟨.repetitionMissing, .between cs cs, none⟩
    match flags.skip cs with
    | [] => .ok ((g.value, notes), [])
    | ')' :: rest => .ok ((g.value, notes), ')' :: rest)
    | '|' :: rest => readGroup bound flags notes g.alternative rest
    | '(' :: rest => do
      let start := '(' :: rest
      let ((kind, notes), rest) ← readOpening flags notes start
      match kind with
      | .setting flags => readGroup bound flags notes g.setting rest
      | kind =>
        let inner := match kind with
          | .flagged inner => inner
          | _ => flags
        let ((p, notes), rest) ← readGroup bound inner notes .start rest
        match rest with
        | ')' :: rest => readGroup bound flags notes (g.item p) rest
        | _ => throw ⟨.groupUnclosed, .first start, none⟩
    | '[' :: rest => do
      let start := '[' :: rest
      let (r, rest) ← openClass flags start
      let ((s, flaw), rest) ← readClass flags (rest.length + 1) r rest
      let (g, notes) := g.take (notes.add flaw) (ofItem flags (.set s)) start rest
      readGroup bound flags notes g rest
    | '?' :: rest => do
      let g ← repeated ('?' :: rest) 0 (some 1)
      readGroup bound flags notes g (afterMark rest)
    | '*' :: rest => do
      let g ← repeated ('*' :: rest) 0 none
      readGroup bound flags notes g (afterMark rest)
    | '+' :: rest => do
      let g ← repeated ('+' :: rest) 1 none
      readGroup bound flags notes g (afterMark rest)
    | '\x7b' :: rest => do
      let start := '\x7b' :: rest
      let _ ← repeated start 0 none
      let ((least, most), rest) ← readBounds flags start
      let g ← repeated start least most
      readGroup bound flags notes g rest
    | '\\' :: rest => do
      let start := '\\' :: rest
      let (item, rest) ← readEscape flags start
      let (g, notes) := g.take notes (ofItem flags item) start rest
      readGroup bound flags notes g rest
    | '.' :: rest =>
      let (g, notes) := g.take notes (dot flags) ('.' :: rest) rest
      readGroup bound flags notes g rest
    | '^' :: rest => readGroup bound flags notes (g.item (.anchor (caret flags))) rest
    | '$' :: rest => readGroup bound flags notes (g.item (.anchor (dollar flags))) rest
    | c :: rest =>
      let (g, notes) := g.take notes (ofItem flags (.char c)) (c :: rest) rest
      readGroup bound flags notes g rest

/-- The pattern that a text is, or its first flaw. Every step of a reader takes at least one
character. -/
def ofText (text : String) : Except Flaw Pattern :=
  let cs := text.toList
  match readGroup (cs.length + 1) .initial ⟨[], none⟩ .start cs with
  | .error flaw => .error flaw
  | .ok (_, c :: rest) => .error ⟨.groupUnopened, .first (c :: rest), none⟩
  | .ok ((_, ⟨_, some flaw⟩), []) => .error flaw
  | .ok ((p, ⟨_, none⟩), []) => .ok p

end FormWizard.Pattern
