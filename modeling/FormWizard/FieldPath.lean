/-!
# Field paths

A `FieldPath` is the address of a field's value: a name at the root of a form, or a name inside one
group. Its text is the name, or group and name with a point between them.

`FieldPath.ofText` reads that text back. It looks at the first point only, so a text with two points
is too deep whatever stands between them, and only then are empty parts looked for.

Paths are ordered by group, those at the root first, and then by name.
-/

namespace FormWizard

/-- The address of a field's value. -/
structure FieldPath where
  /-- The group that holds the field, if one does. -/
  group : Option String
  /-- The name of the field. -/
  name : String
deriving DecidableEq, Repr

/-- Why a text is no path. -/
inductive PathError where
  /-- The text is empty. -/
  | empty
  /-- The text has more than one point. -/
  | tooDeep (text : String)
  /-- One side of the point is empty. -/
  | emptySegment (text : String)
deriving DecidableEq, Repr

/-- The wording of the error. -/
def PathError.message : PathError → String
  | .empty => "Field path is empty"
  | .tooDeep text => s!"Field path '{text}' nests deeper than one group"
  | .emptySegment text => s!"Field path '{text}' contains an empty segment"

namespace FieldPath

instance : Ord FieldPath := ⟨compareLex (compareOn FieldPath.group) (compareOn FieldPath.name)⟩

instance : Std.TransOrd FieldPath :=
  inferInstanceAs (Std.TransCmp (compareLex (compareOn FieldPath.group) (compareOn FieldPath.name)))

instance : Std.LawfulEqOrd FieldPath where
  eq_of_compare {p q} h := by
    have h : compareLex (compareOn FieldPath.group) (compareOn FieldPath.name) p q = .eq := h
    simp only [compareLex, compareOn, Ordering.then_eq_eq, Std.LawfulEqOrd.compare_eq_iff_eq] at h
    cases p; cases q; simp_all

/-- The path of a name at the root. -/
def root (name : String) : FieldPath := ⟨none, name⟩

/-- The path of a name inside a group. -/
def grouped (group name : String) : FieldPath := ⟨some group, name⟩

/-- The name at the top level of the tree that the path starts with. -/
def top (p : FieldPath) : String := p.group.getD p.name

/-- The text of the path. -/
def toText (p : FieldPath) : String :=
  match p.group with
  | some group => group ++ "." ++ p.name
  | none => p.name

/-- The characters before the first point and those after it, if there is one. -/
def splitPoint : List Char → List Char × Option (List Char)
  | [] => ([], none)
  | c :: cs =>
    if c = '.' then ([], some cs)
    else
      let (before, after) := splitPoint cs
      (c :: before, after)

/-- Reads the text of a path. -/
def ofText (text : String) : Except PathError FieldPath :=
  if text.toList.isEmpty then .error .empty
  else
    match splitPoint text.toList with
    | (_, none) => .ok (root text)
    | (before, some after) =>
      if after.contains '.' then .error (.tooDeep text)
      else if before.isEmpty || after.isEmpty then .error (.emptySegment text)
      else .ok (grouped (String.ofList before) (String.ofList after))

end FieldPath

end FormWizard
