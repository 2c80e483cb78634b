import FormWizard.Number.Written

/-!
# JSON documents

`Json` is a document as it stands: members of an object in the order written, repeated names
included, and whole numbers apart from numbers with a fraction or an exponent.

`Json.unreadable` stands for text that is well formed and still denotes no value: a number out of
range, half of a surrogate pair, an object with such a name, or nesting beyond the limit. A reader
that skips a member never looks at it, so one unreadable part does not spoil a whole document;
`Json.readable` is what a reader that takes a part as a whole asks for.

`Json.free` is the normal form of a part kept as it is: of a repeated name the last value counts, at
every level, and names are in order.

## Writing

`Json.compact` writes a document on one line and `Json.pretty` over several. Inside a text the two
quotes of JSON, the backslash and the control characters are escaped, and nothing else.
-/

namespace FormWizard

/-- A JSON document. -/
inductive Json where
  /-- The word `null`. -/
  | null
  /-- A truth value. -/
  | bool (b : Bool)
  /-- A whole number, written without fraction and exponent. -/
  | whole (n : Int)
  /-- Any other number. -/
  | float (x : Float)
  /-- A text. -/
  | text (s : String)
  /-- A list of documents. -/
  | array (items : List Json)
  /-- Named members in the order written. -/
  | object (members : List (String × Json))
  /-- Well-formed text that denotes no value. -/
  | unreadable

namespace Json

mutual

/-- Whether every part of the document denotes a value. -/
def readable : Json → Bool
  | .unreadable => false
  | .array items => allReadable items
  | .object members => membersReadable members
  | _ => true

/-- Whether every document of a list is readable. -/
def allReadable : List Json → Bool
  | [] => true
  | j :: js => readable j && allReadable js

/-- Whether every member is readable. -/
def membersReadable : List (String × Json) → Bool
  | [] => true
  | (_, j) :: ms => readable j && membersReadable ms

end

/-- Puts a member in its place by name, replacing a member of the same name. -/
def placeMember (name : String) (value : Json) : List (String × Json) → List (String × Json)
  | [] => [(name, value)]
  | (other, old) :: ms =>
    if name = other then (name, value) :: ms
    else if name < other then (name, value) :: (other, old) :: ms
    else (other, old) :: placeMember name value ms

mutual

/-- The document with the last of repeated members only, and members in the order of their names. -/
def free : Json → Json
  | .array items => .array (freeAll items)
  | .object members => .object (freeMembers members [])
  | j => j

/-- The normal forms of a list of documents. -/
def freeAll : List Json → List Json
  | [] => []
  | j :: js => free j :: freeAll js

/-- Places the normal forms of the members, in turn, among those already placed. -/
def freeMembers : List (String × Json) → List (String × Json) → List (String × Json)
  | [], placed => placed
  | (name, j) :: ms, placed => freeMembers ms (placeMember name (free j) placed)

end

/-- The first member of a name. -/
def member? (name : String) : List (String × Json) → Option Json
  | [] => none
  | (other, j) :: ms => if name = other then some j else member? name ms

/-! ### Writing -/

/-- The hexadecimal digits of a control character, four of them. -/
def controlDigits (c : Char) : List Char :=
  let digits := Nat.toDigits 16 c.toNat
  List.replicate (4 - digits.length) '0' ++ digits

/-- One character inside a quoted text. -/
def quotedChar (c : Char) : List Char :=
  if c = '"' then ['\\', '"']
  else if c = '\\' then ['\\', '\\']
  else if c = '\n' then ['\\', 'n']
  else if c = '\r' then ['\\', 'r']
  else if c = '\t' then ['\\', 't']
  else if c.toNat = 8 then ['\\', 'b']
  else if c.toNat = 12 then ['\\', 'f']
  else if c.toNat < 32 then '\\' :: 'u' :: controlDigits c
  else [c]

/-- A text in quotes. -/
def quoted (s : String) : String :=
  String.ofList ('"' :: s.toList.flatMap quotedChar ++ ['"'])

/-- Numbers, truth values, texts and `null`; the empty text for anything else. -/
def scalarText : Json → String
  | .null => "null"
  | .bool true => "true"
  | .bool false => "false"
  | .whole n => toString n
  | .float x => Number.Layout.document.render x
  | .text s => quoted s
  | _ => ""

mutual

/-- The document on one line, without blanks. -/
def compact : Json → String
  | .array items => "[" ++ ",".intercalate (compactAll items) ++ "]"
  | .object members => "\x7b" ++ ",".intercalate (compactMembers members) ++ "\x7d"
  | j => scalarText j

/-- The documents of a list, each on one line. -/
def compactAll : List Json → List String
  | [] => []
  | j :: js => compact j :: compactAll js

/-- The members, each on one line. -/
def compactMembers : List (String × Json) → List String
  | [] => []
  | (name, j) :: ms => (quoted name ++ ":" ++ compact j) :: compactMembers ms

end

/-- Parts between two brackets, each on a line of its own, two blanks further in than `indent`. -/
def block (opening closing indent : String) (parts : List String) : String :=
  if parts.isEmpty then opening ++ closing
  else
    opening ++ "\n" ++ ",\n".intercalate (parts.map fun part ↦ indent ++ "  " ++ part)
      ++ "\n" ++ indent ++ closing

mutual

/-- The document over several lines; `indent` is the blank space its own lines start with. -/
def prettyAt (indent : String) : Json → String
  | .array items => block "[" "]" indent (prettyAll (indent ++ "  ") items)
  | .object members => block "\x7b" "\x7d" indent (prettyMembers (indent ++ "  ") members)
  | j => scalarText j

/-- The documents of a list over several lines. -/
def prettyAll (indent : String) : List Json → List String
  | [] => []
  | j :: js => prettyAt indent j :: prettyAll indent js

/-- The members over several lines. -/
def prettyMembers (indent : String) : List (String × Json) → List String
  | [] => []
  | (name, j) :: ms => (quoted name ++ ": " ++ prettyAt indent j) :: prettyMembers indent ms

end

/-- The document over several lines, indented by two blanks a level. -/
def pretty (j : Json) : String := prettyAt "" j

end Json

end FormWizard
