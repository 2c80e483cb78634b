import FormWizard.Json.Number

/-!
# JSON documents read from text

`Json.ofText?` reads a whole text as one document. Nothing may stand behind it but blanks, of which
there are four; names and texts hold no control characters, and commas stand between items only.

Where a text is well formed and denotes no value, the document says so at that place: at a number
out of range, at an escape that is half of a surrogate pair, at an object with such a name, and at a
list or object that lies inside `depthLimit` others.
-/

namespace FormWizard.Json

/-- The number of lists and objects that may lie inside each other. -/
def depthLimit : Nat := 127

/-- The blanks between the parts of a document. -/
def isSpace (c : Char) : Bool := c = ' ' || c = '\n' || c = '\t' || c = '\r'

/-- The text without the blanks in front. -/
def skipSpace (cs : List Char) : List Char := cs.dropWhile isSpace

/-- The value of a hexadecimal digit. -/
def hexDigit? (c : Char) : Option Nat :=
  if c.isDigit then some (c.toNat - '0'.toNat)
  else if 'a' ≤ c && c ≤ 'f' then some (c.toNat - 'a'.toNat + 10)
  else if 'A' ≤ c && c ≤ 'F' then some (c.toNat - 'A'.toNat + 10)
  else none

/-- A piece of a text: a character, or sixteen bits given by their hexadecimal digits. -/
inductive Piece where
  /-- A character. -/
  | char (c : Char)
  /-- Sixteen bits. -/
  | unit (n : Nat)

/-- The sixteen bits of four hexadecimal digits. -/
def unit? (a b c d : Char) : Option Piece := do
  let a ← hexDigit? a
  let b ← hexDigit? b
  let c ← hexDigit? c
  let d ← hexDigit? d
  some (.unit (((16 * a + b) * 16 + c) * 16 + d))

/-- The character of an escape by one letter. -/
def escaped? (c : Char) : Option Char :=
  match c with
  | '"' => some '"'
  | '\\' => some '\\'
  | '/' => some '/'
  | 'b' => some '\x08'
  | 'f' => some '\x0c'
  | 'n' => some '\n'
  | 'r' => some '\r'
  | 't' => some '\t'
  | _ => none

/-- The pieces of a text up to its closing quote, and what stands behind that. -/
def readPieces : List Char → Option (List Piece × List Char)
  | [] => none
  | '"' :: cs => some ([], cs)
  | '\\' :: 'u' :: a :: b :: c :: d :: cs => do
    let piece ← unit? a b c d
    let (pieces, rest) ← readPieces cs
    some (piece :: pieces, rest)
  | '\\' :: c :: cs => do
    let c ← escaped? c
    let (pieces, rest) ← readPieces cs
    some (.char c :: pieces, rest)
  | c :: cs => do
    if c.toNat < 32 then none
    let (pieces, rest) ← readPieces cs
    some (.char c :: pieces, rest)

/-- The characters that pieces denote: two halves of a surrogate pair in a row are one character,
and a half on its own denotes none. -/
def joinPieces : List Piece → Option (List Char)
  | [] => some []
  | .char c :: pieces => (joinPieces pieces).map (c :: ·)
  | .unit n :: pieces =>
    if n < 0xD800 || 0xDFFF < n then (joinPieces pieces).map (Char.ofNat n :: ·)
    else
      match pieces with
      | .unit m :: pieces =>
        if n < 0xDC00 && 0xDC00 ≤ m && m ≤ 0xDFFF then
          let c := Char.ofNat (0x10000 + (n - 0xD800) * 0x400 + (m - 0xDC00))
          (joinPieces pieces).map (c :: ·)
        else none
      | _ => none

/-- A text behind its opening quote, if it denotes one, and what stands behind its closing quote. -/
def readText (cs : List Char) : Option (Option String × List Char) :=
  (readPieces cs).map fun (pieces, rest) ↦ ((joinPieces pieces).map String.ofList, rest)

/-- The document that a text is, if it denotes one. -/
def ofReadText : Option String → Json
  | some s => .text s
  | none => .unreadable

mutual

/-- The document at the start of a text without blanks in front, and the rest. Given is how many
lists and objects may still lie inside each other. -/
def readValue : Nat → Nat → List Char → Option (Json × List Char)
  | 0, _, _ => none
  | bound + 1, levels, cs =>
    match cs with
    | 'n' :: 'u' :: 'l' :: 'l' :: rest => some (.null, rest)
    | 't' :: 'r' :: 'u' :: 'e' :: rest => some (.bool true, rest)
    | 'f' :: 'a' :: 'l' :: 's' :: 'e' :: rest => some (.bool false, rest)
    | '"' :: rest =>
      (readText rest).map fun (s, rest) ↦ (ofReadText s, rest)
    | '[' :: rest => do
      let (items, rest) ← match skipSpace rest with
        | ']' :: rest => some ([], rest)
        | rest => readItems bound (levels - 1) rest
      some (if levels = 0 then .unreadable else .array items, rest)
    | '\x7b' :: rest => do
      let (members, rest) ← match skipSpace rest with
        | '\x7d' :: rest => some (some [], rest)
        | rest => readMembers bound (levels - 1) rest
      match levels, members with
      | _ + 1, some members => some (.object members, rest)
      | _, _ => some (.unreadable, rest)
    | cs => (readNumeral cs).map fun (n, rest) ↦ (n.toJson, rest)

/-- The items of a list from one of them on, up to the closing bracket. -/
def readItems : Nat → Nat → List Char → Option (List Json × List Char)
  | 0, _, _ => none
  | bound + 1, levels, cs => do
    let (item, rest) ← readValue bound levels cs
    match skipSpace rest with
    | ',' :: rest => do
      let (items, rest) ← readItems bound levels (skipSpace rest)
      some (item :: items, rest)
    | ']' :: rest => some ([item], rest)
    | _ => none

/-- The members of an object from one of them on, up to the closing brace. They are no members if a
name denotes no text. -/
def readMembers : Nat → Nat → List Char → Option (Option (List (String × Json)) × List Char)
  | 0, _, _ => none
  | bound + 1, levels, cs =>
    match cs with
    | '"' :: rest => do
      let (name, rest) ← readText rest
      match skipSpace rest with
      | ':' :: rest => do
        let (value, rest) ← readValue bound levels (skipSpace rest)
        match skipSpace rest with
        | ',' :: rest => do
          let (members, rest) ← readMembers bound levels (skipSpace rest)
          match name, members with
          | some name, some members => some (some ((name, value) :: members), rest)
          | _, _ => some (none, rest)
        | '\x7d' :: rest => some (name.map fun name ↦ [(name, value)], rest)
        | _ => none
      | _ => none
    | _ => none

end

/-- The document that a text is. Two nested steps take at least one character. -/
def ofText? (s : String) : Option Json :=
  let cs := s.toList
  match readValue (2 * cs.length + 2) depthLimit (skipSpace cs) with
  | some (j, rest) => if (skipSpace rest).isEmpty then some j else none
  | none => none

end FormWizard.Json
