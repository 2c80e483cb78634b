import FormWizard.Json.Basic

/-!
# Records in JSON documents

A record is a document with members that are known in advance. It is written as an object, in which
members stand in any order, unknown ones are passed over and a known one may stand only once, under
one of its names; or as a list of all members in their fixed order, from whose end those may be
missing for which there is a default.

`Record.required`, `Record.optional` and `Record.withDefault` read one member each. A member that is
optional may also be `null`; one that has a default may be absent, but not `null`.
-/

namespace FormWizard

/-- A member that records of some kind have. -/
structure Member where
  /-- The name of the member. -/
  name : String
  /-- The other names that it goes by. -/
  aliases : List String := []
  /-- Whether it may be missing at the end of a list. -/
  mayBeMissing : Bool := false

/-- The members found in a document, each at most once and under its first name. -/
structure Record where
  /-- The members. -/
  members : List (String × Json)

namespace Record

/-- Whether a name is one of those of the member. -/
def isNameOf (name : String) (m : Member) : Bool := name == m.name || m.aliases.contains name

/-- The members of an object that are known. -/
def ofObject? (known : List Member) (members : List (String × Json)) : Option Record :=
  let found := known.map fun m ↦ (m.name, members.filter fun (name, _) ↦ isNameOf name m)
  if found.any fun (_, occurrences) ↦ 1 < occurrences.length then none
  else
    some ⟨found.filterMap fun (name, occurrences) ↦ occurrences.head?.map fun (_, j) ↦ (name, j)⟩

/-- The members of a list, in the order of those that are known. -/
def ofItems? : List Member → List Json → Option (List (String × Json))
  | [], [] => some []
  | [], _ :: _ => none
  | m :: known, [] => if m.mayBeMissing then ofItems? known [] else none
  | m :: known, j :: js => (ofItems? known js).map ((m.name, j) :: ·)

/-- The record that a document is. -/
def ofJson? (known : List Member) : Json → Option Record
  | .object members => ofObject? known members
  | .array items => (ofItems? known items).map Record.mk
  | _ => none

/-- The document under a name. -/
def get? (r : Record) (name : String) : Option Json := r.members.lookup name

/-- A member that has to be there. -/
def required {α : Type} (r : Record) (name : String) (read : Json → Option α) : Option α :=
  (r.get? name).bind read

/-- A member that may be absent or `null`. -/
def optional {α : Type} (r : Record) (name : String) (read : Json → Option α) :
    Option (Option α) :=
  match r.get? name with
  | none => some none
  | some .null => some none
  | some j => (read j).map some

/-- A member that may be absent. -/
def withDefault {α : Type} (r : Record) (name : String) (read : Json → Option α) (default : α) :
    Option α :=
  match r.get? name with
  | none => some default
  | some j => read j

end Record

namespace Json

/-- The text that a document is. -/
def text? : Json → Option String
  | .text s => some s
  | _ => none

/-- The truth value that a document is. -/
def bool? : Json → Option Bool
  | .bool b => some b
  | _ => none

/-- The natural number of at most 64 bits that a document is. -/
def count? : Json → Option Nat
  | .whole n => if 0 ≤ n then some n.toNat else none
  | _ => none

/-- The number that a document is. -/
def number? : Json → Option Float
  | .whole n => some (Float.ofInt n)
  | .float x => some x
  | _ => none

/-- Reads each item of a list. -/
def list? {α : Type} (read : Json → Option α) : Json → Option (List α)
  | .array items => items.mapM read
  | _ => none

end Json

end FormWizard
