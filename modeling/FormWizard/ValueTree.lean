import Std.Data.ExtTreeMap
import FormWizard.FieldPath
import FormWizard.Value

/-!
# Value trees

A `ValueTree` holds the current values of a form by name. Under a name stands either one value or a
group of values, so values nest at most one level deep.

Trees are extensional maps: two trees with the same slot under every name are equal. Everything a
formula or a validation reads goes through `ValueTree.slot?`, `ValueTree.get?` and
`ValueTree.group?`, and `ValueTree.write` is the only way one path is changed: a path at the root
replaces whatever stands there, and a path inside a group makes the group first where there is none.
-/

namespace FormWizard

/-- The values of one group by name. -/
abbrev Members := Std.ExtTreeMap String Value compare

/-- What stands under one name of the tree. -/
inductive Slot where
  /-- One value. -/
  | value (v : Value)
  /-- A group of values. -/
  | group (members : Members)
deriving DecidableEq

/-- The current values of a form. -/
structure ValueTree where
  /-- The slots by name. -/
  slots : Std.ExtTreeMap String Slot compare
deriving DecidableEq

namespace ValueTree

/-- The tree without values. -/
def empty : ValueTree := ⟨∅⟩

instance : EmptyCollection ValueTree := ⟨empty⟩

/-- The slot under a name. -/
def slot? (t : ValueTree) (name : String) : Option Slot := t.slots[name]?

/-- The members of a group, if the name stands for one. -/
def group? (t : ValueTree) (name : String) : Option Members :=
  match t.slot? name with
  | some (.group members) => some members
  | _ => none

/-- The value at a path, if there is one. -/
def get? (t : ValueTree) (p : FieldPath) : Option Value :=
  match p.group, t.slot? p.top with
  | none, some (.value v) => some v
  | some _, some (.group members) => members[p.name]?
  | _, _ => none

/-- Puts a slot under a name. -/
def put (t : ValueTree) (name : String) (slot : Slot) : ValueTree := ⟨t.slots.insert name slot⟩

/-- The tree with `v` at the path. -/
def write (t : ValueTree) (p : FieldPath) (v : Value) : ValueTree :=
  match p.group with
  | none => t.put p.name (.value v)
  | some group => t.put group (.group (((t.group? group).getD ∅).insert p.name v))

/-- The number of names at the top level. -/
def size (t : ValueTree) : Nat := t.slots.size

/-- The members of a group as a JSON object. -/
def membersJson (members : Members) : Json :=
  .object (members.toList.map fun (name, v) ↦ (name, v.toJson))

/-- The tree as a JSON object, as it is handed over on submission. -/
def toJson (t : ValueTree) : Json :=
  .object (t.slots.toList.map fun (name, slot) ↦
    match slot with
    | .value v => (name, v.toJson)
    | .group members => (name, membersJson members))

/-- Equality of groups, numbers compared as numbers. -/
def sameMembers (a b : Members) : Bool :=
  a.size == b.size && a.toList.all fun (name, v) ↦ (b[name]?).any v.same

/-- Equality of trees, numbers compared as numbers. -/
def same (t u : ValueTree) : Bool :=
  t.size == u.size && t.slots.toList.all fun (name, slot) ↦
    match slot, u.slot? name with
    | .value v, some (.value w) => v.same w
    | .group a, some (.group b) => sameMembers a b
    | _, _ => false

end ValueTree

end FormWizard
