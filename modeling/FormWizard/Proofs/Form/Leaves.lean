import FormWizard.Proofs.Form.Header

/-!
# What becomes of the objects in an older document

An object in a stage of an older document is a block, a group or a field. Blocks and groups hold
further parts, and what is left are the objects that are to be fields, the leaves
(`Legacy.Header.leaves`): those that are reached through blocks, or as children of a group that is
reached so, and are neither blocks nor groups (`Legacy.Header.mem_leaves_iff`). In a form that is
read they make entries, one by each, under their own names and in order
(`Form.makeAmong_of_ofLegacyText`). A group that holds a group by its type is refused.

If groups hold nothing else (`Legacy.GroupsFlat`), these are all entries. A block in a group is read
as a field, and what it holds goes unnoticed. Nor does everything with a list of `fields` count as a
block or group: with any other type it is a field, and may have what it likes under `fields`. So in
both of these places objects can be lost (`Form.losesObject_typedParent_and_blockInGroup`).
-/

namespace FormWizard

namespace Legacy

/-! ### Objects inside parts -/

/-- A part holds an object if it is this object, or if it is an object of a kind to look into and a
part among its `fields` holds it. -/
inductive Holds (lookInto : List (String × Json) → Prop) : Json → List (String × Json) → Prop
  | self {ms : List (String × Json)} : Holds lookInto (.object ms) ms
  | inside {ms ks : List (String × Json)} {k : Json} : lookInto ms → k ∈ children ms →
    Holds lookInto k ks → Holds lookInto (.object ms) ks

/-- The object is a block or a group. -/
def IsParent (ms : List (String × Json)) : Prop := isBlock ms = true ∨ isGroup ms = true

instance : DecidablePred IsParent := fun _ ↦ inferInstanceAs (Decidable (_ ∨ _))

/-- A part holds a group: this is a group that stands on its own or in blocks. -/
def HoldsGroup (j : Json) (ms : List (String × Json)) : Prop :=
  Holds (isBlock · = true) j ms ∧ isBlock ms = false ∧ isGroup ms = true

/-- The groups that a part holds have neither blocks nor groups among their `fields`. -/
def GroupsFlat (j : Json) : Prop :=
  ∀ ms, HoldsGroup j ms → ∀ ks, .object ks ∈ children ms → ¬IsParent ks

/-- A part holds a group that has a group among its `fields`. This one shows by its type, and there
is no member that would count as the kind of control instead. -/
def HoldsNestedGroup (j : Json) : Prop :=
  ∃ ms ks, HoldsGroup j ms ∧ .object ks ∈ children ms ∧ type? ks = some "group" ∧
    Json.member? "inputType" ks = none

/-- An object that is to be a field. -/
structure Leaf where
  /-- The index of the stage. -/
  stage : ℕ
  /-- The name of the group, if the object is in one. -/
  group : Option String
  /-- The object. -/
  members : List (String × Json)

/-- The leaves that a part of a group is: none if it is a block or a group itself. -/
def leavesInGroup (stage : ℕ) (group : String) : Json → List Leaf
  | .object ms => if isBlock ms || isGroup ms then [] else [⟨stage, some group, ms⟩]
  | _ => []

mutual

/-- The leaves of a part. -/
def leaves (stage : ℕ) : Json → List Leaf
  | .object ms =>
    if isBlock ms then leavesOf stage ms
    else if isGroup ms then (children ms).flatMap (leavesInGroup stage (nodeName ms))
    else [⟨stage, none, ms⟩]
  | _ => []

/-- The leaves of the parts in the member `fields`. -/
def leavesOf (stage : ℕ) : List (String × Json) → List Leaf
  | [] => []
  | (name, j) :: ms => if name = "fields" then leavesIn stage j else leavesOf stage ms

/-- The leaves of the parts in a list. -/
def leavesIn (stage : ℕ) : Json → List Leaf
  | .array items => leavesOfAll stage items
  | _ => []

/-- The leaves of all parts. -/
def leavesOfAll (stage : ℕ) : List Json → List Leaf
  | [] => []
  | j :: js => leaves stage j ++ leavesOfAll stage js

end

/-- The leaves of a form. -/
def Header.leaves (h : Header) : List Leaf :=
  h.stages.zipIdx.flatMap fun (s, i) ↦ leavesOfAll i s.parts

/-- The entry is the field that the object is read as, where the object stands and under the name
that the object has. -/
structure Leaf.Makes (l : Leaf) (e : Entry) : Prop where
  stage : e.stage = l.stage
  group : e.path.group = l.group
  name : Json.member? "name" l.members = some (.text e.path.name)
  field : Field.ofJson? false (.object (fieldMembers l.members)) = some e.field

variable {ms : List (String × Json)} {stage : String} {i : ℕ} {j : Json}

/-- Induction on parts: what holds of an object may rest on what holds of its children. -/
theorem part_induction {motive : Json → Prop}
    (h : ∀ j, (∀ ms, j = .object ms → ∀ k ∈ children ms, motive k) → motive j) (j : Json) :
    motive j := by
  induction hsize : sizeOf j using Nat.strong_induction_on generalizing j with
  | h n ih =>
    refine h j ?_
    rintro ms rfl k hk
    refine ih (sizeOf k) ?_ k rfl
    rw [children] at hk
    split at hk
    · rename_i items hitems
      have hmember := List.sizeOf_lt_of_mem (Json.mem_of_member?_eq_some hitems)
      have hitem := List.sizeOf_lt_of_mem hk
      simp only [Prod.mk.sizeOf_spec, Json.array.sizeOf_spec] at hmember
      simp only [Json.object.sizeOf_spec] at hsize
      omega
    · cases hk

theorem leavesOfAll_eq (i : ℕ) (js : List Json) : leavesOfAll i js = js.flatMap (leaves i) := by
  induction js with
  | nil => rfl
  | cons j js ih => rw [leavesOfAll, ih, List.flatMap_cons]

/-- The leaves in a block are those of its parts. -/
theorem leavesOf_eq (i : ℕ) (ms : List (String × Json)) :
    leavesOf i ms = (children ms).flatMap (leaves i) := by
  have hwalk : leavesOf i ms = (Json.member? "fields" ms).elim [] (leavesIn i) :=
    Json.walk_eq_elim_member? (fun _ _ _ ↦ by rw [leavesOf]) ms
  rw [hwalk, children]
  cases Json.member? "fields" ms with
  | none => rfl
  | some j =>
    cases j with
    | array items => exact leavesOfAll_eq i items
    | _ => rfl

/-- A block is no leaf, but its parts may have some. -/
theorem leaves_block (hblock : isBlock ms = true) :
    leaves i (.object ms) = (children ms).flatMap (leaves i) := by
  rw [leaves, if_pos hblock, leavesOf_eq]

/-- A group is no leaf, but its children may be. -/
theorem leaves_group (hblock : isBlock ms = false) (hgroup : isGroup ms = true) :
    leaves i (.object ms) = (children ms).flatMap (leavesInGroup i (nodeName ms)) := by
  rw [leaves, if_neg (Bool.eq_false_iff.1 hblock), if_pos hgroup]

theorem leaves_leaf (hleaf : ¬IsParent ms) : leaves i (.object ms) = [⟨i, none, ms⟩] := by
  obtain ⟨hblock, hgroup⟩ := not_or.1 hleaf
  rw [leaves, if_neg hblock, if_neg hgroup]

/-- No group is in a group in a block if this holds of the parts. -/
theorem groupsFlat_block (hblock : isBlock ms = true) (h : ∀ k ∈ children ms, GroupsFlat k) :
    GroupsFlat (.object ms) := by
  rintro gs ⟨hholds, hfalse, hgroup⟩
  cases hholds with
  | self => exact absurd (hblock.symm.trans hfalse) Bool.noConfusion
  | inside _ hk hholds => exact h _ hk gs ⟨hholds, hfalse, hgroup⟩

/-- No group is in a group if none of the children is a group. -/
theorem groupsFlat_of_not_block (hblock : isBlock ms = false)
    (h : ∀ ks, .object ks ∈ children ms → ¬IsParent ks) : GroupsFlat (.object ms) := by
  rintro gs ⟨hholds, -, -⟩
  cases hholds with
  | self => exact h
  | inside htrue _ _ => exact absurd (hblock.symm.trans htrue) Bool.noConfusion

theorem nodesOf_eq_mapM (stage : String) (ms : List (String × Json)) :
    nodesOf stage ms = (children ms).mapM (node stage) := by
  rw [nodesOf_eq, children]
  cases Json.member? "fields" ms with
  | none => rfl
  | some j =>
    cases j with
    | array items => exact nodes_eq stage items
    | _ => rfl

/-- The leaves in a group are its children, unless they are parents themselves. -/
theorem mem_leavesInGroup_iff {g : String} {l : Leaf} :
    l ∈ leavesInGroup i g j ↔ ∃ ms, j = .object ms ∧ ¬IsParent ms ∧ l = ⟨i, some g, ms⟩ := by
  cases j with
  | object ms => simp [leavesInGroup, IsParent]
  | _ => simp [leavesInGroup]

/-- Looking into blocks, one finds no leaves but those of the part. -/
theorem leaves_subset_of_holds (h : Holds (isBlock · = true) j ms) :
    leaves i (.object ms) ⊆ leaves i j := by
  induction h with
  | self => exact List.Subset.refl _
  | @inside ms ks k hblock hk _ ih =>
    rw [leaves_block hblock]
    exact fun l hl ↦ List.mem_flatMap.2 ⟨k, hk, ih hl⟩

/-- A leaf is an object that is neither a block nor a group, either one that is reached through
blocks or one among the `fields` of a group that is. -/
theorem mem_leaves_iff {l : Leaf} : l ∈ leaves i j ↔ l.stage = i ∧ ¬IsParent l.members ∧
    (l.group = none ∧ Holds (isBlock · = true) j l.members ∨
      ∃ ms, HoldsGroup j ms ∧ l.group = some (nodeName ms) ∧ .object l.members ∈ children ms) := by
  constructor
  · induction j using part_induction with
    | h j ih =>
      intro hl
      cases j with
      | object ms =>
        cases hblock : isBlock ms with
        | true =>
          rw [leaves_block hblock] at hl
          obtain ⟨k, hk, hl⟩ := List.mem_flatMap.1 hl
          obtain ⟨hstage, hleaf, ⟨hgroup, hholds⟩ | ⟨gs, hholds, hgroup, hmem⟩⟩ := ih ms rfl k hk hl
          · exact ⟨hstage, hleaf, .inl ⟨hgroup, .inside hblock hk hholds⟩⟩
          · exact ⟨hstage, hleaf, .inr
              ⟨gs, ⟨.inside hblock hk hholds.1, hholds.2⟩, hgroup, hmem⟩⟩
        | false =>
          cases hgroup : isGroup ms with
          | true =>
            rw [leaves_group hblock hgroup] at hl
            obtain ⟨k, hk, hl⟩ := List.mem_flatMap.1 hl
            obtain ⟨ks, rfl, hleaf, rfl⟩ := mem_leavesInGroup_iff.1 hl
            exact ⟨rfl, hleaf, .inr ⟨ms, ⟨.self, hblock, hgroup⟩, rfl, hk⟩⟩
          | false =>
            have hleaf : ¬IsParent ms := by simp [IsParent, hblock, hgroup]
            rw [leaves_leaf hleaf] at hl
            obtain rfl := List.mem_singleton.1 hl
            exact ⟨rfl, hleaf, .inl ⟨rfl, .self⟩⟩
      | _ => cases hl
  · obtain ⟨stage, group, ms⟩ := l
    rintro ⟨rfl, hleaf, ⟨rfl, hholds⟩ | ⟨gs, ⟨hholds, hblock, hgroup⟩, rfl, hmem⟩⟩
    · refine leaves_subset_of_holds hholds ?_
      rw [leaves_leaf hleaf]
      exact List.mem_singleton_self _
    · refine leaves_subset_of_holds hholds ?_
      rw [leaves_group hblock hgroup]
      exact List.mem_flatMap.2 ⟨_, hmem, mem_leavesInGroup_iff.2 ⟨ms, rfl, hleaf, rfl⟩⟩

/-- The leaves of a form are those of the parts of its stages. -/
theorem Header.mem_leaves_iff {h : Header} {l : Leaf} :
    l ∈ h.leaves ↔ ∃ s, h.stages[l.stage]? = some s ∧ ∃ k ∈ s.parts, ¬IsParent l.members ∧
      (l.group = none ∧ Holds (isBlock · = true) k l.members ∨
        ∃ ms, HoldsGroup k ms ∧ l.group = some (nodeName ms) ∧
          .object l.members ∈ children ms) := by
  simp only [Header.leaves, List.mem_flatMap, leavesOfAll_eq, Prod.exists,
    List.mk_mem_zipIdx_iff_getElem?, Legacy.mem_leaves_iff]
  constructor
  · rintro ⟨s, i, hs, k, hk, rfl, hleaf⟩
    exact ⟨s, hs, k, hk, hleaf⟩
  · rintro ⟨s, hs, k, hk, hleaf⟩
    exact ⟨s, l.stage, hs, k, hk, rfl, hleaf⟩

/-! ### Names -/

/-- What is left of an object for its field has the same name. -/
theorem member?_name_fieldMembers (ms : List (String × Json)) :
    Json.member? "name" (fieldMembers ms) = Json.member? "name" ms := by
  rw [fieldMembers]
  split
  · rfl
  · show Json.member? "name" (if _ then _ else _) = _
    split
    · simp
    · simp

/-- A field is read off an object of its name. -/
theorem ofJson?_of_field {f : Field} (h : field stage (.object ms) = .ok f) :
    Json.member? "name" ms = some (.text f.name) ∧
      Field.ofJson? false (.object (fieldMembers ms)) = some f := by
  rw [field] at h
  split at h
  · rename_i f' hf
    cases h
    refine ⟨?_, hf⟩
    rw [← member?_name_fieldMembers]
    exact Field.member?_name_of_ofJson? hf
  · cases h

/-- A group has the name of its object, and its fields are read off the children. -/
theorem fields_of_group {g : Group} (h : group stage ms = .ok g) :
    nodeName ms = g.name ∧ (children ms).mapM (field stage) = .ok g.fields := by
  rw [group] at h
  split at h
  · cases h
  · rename_i g' hg
    obtain ⟨fields, hfields, h⟩ := Except.bind_eq_ok h
    cases h
    refine ⟨?_, hfields⟩
    have hmember : Json.member? "name" ms = some (.text g'.name) := by
      simpa using Group.member?_name_of_ofJson? hg
    rw [nodeName, hmember]
    rfl

/-! ### Entries -/

/-- An object that is read as a field makes its entry. -/
theorem makes_of_field {group : Option String} {f : Field}
    (h : field stage (.object ms) = .ok f) :
    (⟨i, group, ms⟩ : Leaf).Makes ⟨i, ⟨group, f.name⟩, f⟩ := by
  obtain ⟨hname, hfield⟩ := ofJson?_of_field h
  exact ⟨rfl, rfl, hname, hfield⟩

/-- The leaves make entries among those of a list, one by each and in order, and make all of them
provided that a condition holds. -/
def MakeAmong (cond : Prop) (ls : List Leaf) (es : List Entry) : Prop :=
  ∃ made, made.Sublist es ∧ List.Forall₂ Leaf.Makes ls made ∧ (cond → made = es)

variable {cond : Prop}

/-- Leaves make entries part by part. -/
theorem makeAmong_flatMap {α β : Type} {f : α → List Leaf} {g : β → List Entry} {xs : List α}
    {ys : List β} (h : List.Forall₂ (fun x y ↦ MakeAmong cond (f x) (g y)) xs ys) :
    MakeAmong cond (xs.flatMap f) (ys.flatMap g) := by
  induction h with
  | nil => exact ⟨[], .slnil, .nil, fun _ ↦ rfl⟩
  | cons hxy _ ih =>
    obtain ⟨made, hsub, hmakes, hall⟩ := hxy
    obtain ⟨made', hsub', hmakes', hall'⟩ := ih
    refine ⟨made ++ made', hsub.append hsub', List.rel_append hmakes hmakes', fun hcond ↦ ?_⟩
    rw [List.flatMap_cons, hall hcond, hall' hcond]

/-- The fields of a group make its entries if they are all that the group holds. -/
theorem makeAmong_group {g : Group} (h : group stage ms = .ok g)
    (hflat : cond → ∀ ks, .object ks ∈ children ms → ¬IsParent ks) :
    MakeAmong cond ((children ms).flatMap (leavesInGroup i (nodeName ms)))
      (FlatNode.entries i (.group g)) := by
  obtain ⟨hname, hfields⟩ := fields_of_group h
  have hpairs := (List.forall₂_and_left _ _).2 ⟨fun _ hk ↦ hk, Except.forall₂_of_mapM hfields⟩
  rw [hname, FlatNode.entries, List.map_eq_flatMap]
  refine makeAmong_flatMap (hpairs.imp ?_)
  rintro k f ⟨hk, hf⟩
  cases k with
  | object ks =>
    rw [leavesInGroup]
    split
    · rename_i hparent
      refine ⟨[], List.nil_sublist _, .nil, fun hcond ↦ ?_⟩
      exact absurd (Bool.or_eq_true_iff.1 hparent) (hflat hcond ks hk)
    · exact ⟨_, .refl _, .cons (makes_of_field hf) .nil, fun _ ↦ rfl⟩
  | _ => cases hf

theorem flattenAll_eq_flatMap (ns : List Node) :
    Node.flattenAll ns = ns.flatMap Node.flatten := by
  induction ns with
  | nil => rfl
  | cons n ns ih => rw [Node.flattenAll, ih, List.flatMap_cons]

/-- The leaves of a list of parts make entries if those of each part do. -/
theorem makeAmong_of_mapM {js : List Json} {ns : List Node} (h : js.mapM (node stage) = .ok ns)
    (hmakes : ∀ j ∈ js, ∀ n, node stage j = .ok n →
      MakeAmong cond (leaves i j) (n.flatten.flatMap (FlatNode.entries i))) :
    MakeAmong cond (js.flatMap (leaves i))
      ((Node.flattenAll ns).flatMap (FlatNode.entries i)) := by
  have hpairs := (List.forall₂_and_left _ _).2 ⟨hmakes, Except.forall₂_of_mapM h⟩
  rw [flattenAll_eq_flatMap, List.flatMap_assoc]
  exact makeAmong_flatMap (hpairs.imp fun j n hn ↦ hn.1 n hn.2)

/-- The leaves of a part make entries of the part, and all of them if its groups are flat. -/
theorem makeAmong_of_node {n : Node} (h : node stage j = .ok n) (hflat : cond → GroupsFlat j) :
    MakeAmong cond (leaves i j) (n.flatten.flatMap (FlatNode.entries i)) := by
  induction j using part_induction generalizing n with
  | h j ih =>
    cases j with
    | object ms =>
      rw [node] at h
      split at h
      · rename_i hblock
        obtain ⟨ns, hns, h⟩ := Except.bind_eq_ok h
        cases h
        rw [nodesOf_eq_mapM] at hns
        rw [leaves_block hblock, Node.flatten]
        exact makeAmong_of_mapM hns fun k hk n hn ↦ ih ms rfl k hk hn fun hcond ks hks ↦
          hflat hcond ks ⟨.inside hblock hk hks.1, hks.2⟩
      · rename_i hblock
        split at h
        · rename_i hgroup
          obtain ⟨g, hg, rfl⟩ := Except.map_eq_ok h
          have hfalse : isBlock ms = false := Bool.eq_false_of_not_eq_true hblock
          rw [leaves_group hfalse hgroup, Node.flatten, List.flatMap_singleton]
          exact makeAmong_group hg fun hcond ↦ hflat hcond ms ⟨.self, hfalse, hgroup⟩
        · rename_i hgroup
          obtain ⟨f, hf, rfl⟩ := Except.map_eq_ok h
          rw [leaves_leaf (not_or.2 ⟨hblock, hgroup⟩), Node.flatten, List.flatMap_singleton]
          exact ⟨_, .refl _, .cons (makes_of_field hf) .nil, fun _ ↦ rfl⟩
    | _ => cases h

/-! ### Parts without a place in the form -/

/-- Once the header of an older document is read, no field is refused as unreadable. -/
theorem field_ne_unreadable : field stage j ≠ .error .unreadable := by
  intro h
  cases j with
  | object ms =>
    rw [field] at h
    split at h
    · cases h
    · cases h
  | _ => cases h

/-- A part that has no place is told by its name or its text. -/
theorem node_ne_unreadable : node stage j ≠ .error .unreadable := by
  induction j using part_induction with
  | h j ih =>
    intro h
    cases j with
    | object ms =>
      rw [node] at h
      split at h
      · obtain hns | ⟨ns, -, h⟩ := Except.bind_eq_error h
        · rw [nodesOf_eq_mapM] at hns
          obtain ⟨k, hk, herror⟩ := Except.exists_mem_of_mapM_eq_error hns
          exact ih ms rfl k hk herror
        · cases h
      · split at h
        · have hgroup := Except.map_eq_error h
          rw [group] at hgroup
          split at hgroup
          · cases hgroup
          · obtain hfields | ⟨fields, -, h⟩ := Except.bind_eq_error hgroup
            · obtain ⟨k, -, herror⟩ := Except.exists_mem_of_mapM_eq_error hfields
              exact field_ne_unreadable herror
            · cases h
        · exact field_ne_unreadable (Except.map_eq_error h)
    | _ => cases h

/-- Once the header of an older document is read, the document is not refused as unreadable. -/
theorem toForm_ne_unreadable (h : Header) : h.toForm ≠ .error .unreadable := by
  intro herror
  obtain hstages | ⟨stages, -, herror⟩ := Except.bind_eq_error herror
  · obtain ⟨s, -, hs⟩ := Except.exists_mem_of_mapM_eq_error hstages
    obtain hs | ⟨ns, -, hs⟩ := Except.bind_eq_error hs
    · rw [nodes_eq] at hs
      obtain ⟨j, -, hj⟩ := Except.exists_mem_of_mapM_eq_error hs
      exact node_ne_unreadable hj
    · cases hs
  · cases herror

/-- No control is of the kind `group`. -/
theorem field_ne_ok_of_type (htype : type? ms = some "group")
    (hinput : Json.member? "inputType" ms = none) (f : Field) :
    field stage (.object ms) ≠ .ok f := by
  intro h
  obtain ⟨-, hf⟩ := ofJson?_of_field h
  obtain ⟨r, hr, hf⟩ := Option.bind_eq_some_iff.1 hf
  obtain ⟨name, -, hf⟩ := Option.bind_eq_some_iff.1 hf
  obtain ⟨kind, hkind, -⟩ := Option.bind_eq_some_iff.1 hf
  obtain ⟨k, hk, htext⟩ := Option.bind_eq_some_iff.1 htype
  have hget : r.get? "inputType" = some k := by
    rw [Record.get?_of_ofObject? (m := ⟨"inputType", [], true⟩) (by decide) (by decide) hr
      (by simp [Field.members]), member?_fieldMembers hinput]
    simp [hk]
  rw [Record.withDefault, hget] at hkind
  cases k with
  | text s =>
    cases htext
    cases hkind
  | _ => cases htext

/-- A part that holds a group in a group has no place. -/
theorem node_ne_ok_of_holdsNestedGroup (h : HoldsNestedGroup j) (n : Node) :
    node stage j ≠ .ok n := by
  obtain ⟨ms, ks, ⟨hholds, hblock, hgroup⟩, hks, htype, hinput⟩ := h
  intro h
  induction hholds generalizing n with
  | self =>
    rw [node, if_neg (by simp [hblock]), if_pos hgroup] at h
    obtain ⟨g, hg, -⟩ := Except.map_eq_ok h
    obtain ⟨f, -, hf⟩ :=
      (Except.forall₂_of_mapM (fields_of_group hg).2).exists_of_mem_left hks
    exact field_ne_ok_of_type htype hinput f hf
  | inside hinto hk _ ih =>
    rw [node, if_pos hinto] at h
    obtain ⟨ns, hns, -⟩ := Except.bind_eq_ok h
    rw [nodesOf_eq_mapM] at hns
    obtain ⟨n', -, hn'⟩ := (Except.forall₂_of_mapM hns).exists_of_mem_left hk
    exact ih n' hblock hgroup hks hn'

end Legacy

namespace Form

open Legacy

/-- The leaves of an older document are the objects that are neither blocks nor groups, and are
reached from a stage through blocks or stand among the `fields` of a group that is. In a form read
from the document they make entries, one by each and in order, and all of them if groups hold fields
only. If a group holds a group by its type, the document is read, and is no form. -/
theorem makeAmong_of_ofLegacyText {text : String} {j : Json} {header : Header}
    (hj : Json.ofText? text = some j) (hheader : Header.ofJson? j = some header) :
    (∀ l, l ∈ header.leaves ↔
        ∃ s, header.stages[l.stage]? = some s ∧ ∃ k ∈ s.parts, ¬IsParent l.members ∧
          (l.group = none ∧ Holds (isBlock · = true) k l.members ∨
            ∃ ms, HoldsGroup k ms ∧ l.group = some (nodeName ms) ∧
              .object l.members ∈ children ms)) ∧
      (∀ form, ofLegacyText text = .ok form →
        MakeAmong (∀ s ∈ header.stages, ∀ k ∈ s.parts, GroupsFlat k) header.leaves form.entries) ∧
      ((∃ s ∈ header.stages, ∃ k ∈ s.parts, HoldsNestedGroup k) →
        ∃ e, ofLegacyText text = .error e ∧ e ≠ .unreadable) := by
  have hread : ofLegacyText text = header.toForm := by
    rw [ofLegacyText, hj]
    show ofLegacyJson j = _
    rw [ofLegacyJson, hheader]
  rw [hread]
  refine ⟨fun _ ↦ Header.mem_leaves_iff, fun form hform ↦ ?_, ?_⟩
  · obtain ⟨stages, hstages, hform⟩ := Except.bind_eq_ok hform
    cases hform
    -- the stages are converted one by one, each at its place
    have hpairs := (List.forall₂_and_left _ _).2 ⟨fun _ hs ↦ hs, Except.forall₂_of_mapM hstages⟩
    refine makeAmong_flatMap ((List.forall₂_zipIdx hpairs 0).imp ?_)
    rintro ⟨s, i⟩ ⟨s', i'⟩ ⟨⟨hmem, hs⟩, hi⟩
    obtain rfl : i = i' := hi
    obtain ⟨ns, hns, rfl⟩ := StageHeader.exists_of_toStage hs
    rw [nodes_eq] at hns
    show MakeAmong _ (leavesOfAll i s.parts) ((Node.flattenAll ns).flatMap (FlatNode.entries i))
    rw [leavesOfAll_eq]
    exact makeAmong_of_mapM hns fun k hk n hn ↦
      makeAmong_of_node hn fun hflat ↦ hflat s hmem k hk
  · rintro ⟨s, hs, k, hk, hnested⟩
    cases hform : header.toForm with
    | error e => exact ⟨e, rfl, fun heq ↦ toForm_ne_unreadable header (heq ▸ hform)⟩
    | ok form =>
      -- the part with the nested group would have been converted, too
      obtain ⟨stages, hstages, -⟩ := Except.bind_eq_ok hform
      obtain ⟨s', -, hs'⟩ := (Except.forall₂_of_mapM hstages).exists_of_mem_left hs
      obtain ⟨ns, hns, -⟩ := StageHeader.exists_of_toStage hs'
      rw [nodes_eq] at hns
      obtain ⟨n, -, hn⟩ := (Except.forall₂_of_mapM hns).exists_of_mem_left hk
      exact absurd hn (node_ne_ok_of_holdsNestedGroup hnested n)

/-- The document of `olderTripText` as it is read, with the members of parts in the order of their
names. -/
def olderTrip : Header where
  name := "trip"
  description := none
  showStageNames := true
  stages := [⟨"plan", none, [
    .object [("fields", .array [
      .object [("name", .text "mode"), ("type", .text "select")],
      .object [("fields", .array [.object [("name", .text "nights"), ("type", .text "number")]]),
        ("name", .text "stop"), ("type", .text "group")]]), ("name", .text "way")],
    .object [("fields", .array []), ("name", .text "notes")]]⟩]

theorem ofJson?_olderTrip : Header.ofJson? (rewriteForm trip) = some olderTrip := by
  rw [rewriteForm_trip]
  rfl

theorem groupsFlat_olderTrip : ∀ s ∈ olderTrip.stages, ∀ k ∈ s.parts, GroupsFlat k := by
  intro s hs k hk
  obtain rfl := List.mem_singleton.1 hs
  obtain rfl | hk := List.mem_cons.1 hk
  · refine groupsFlat_block rfl fun k hk ↦ ?_
    obtain rfl | hk := List.mem_cons.1 hk
    · exact groupsFlat_of_not_block rfl nofun
    · obtain rfl := List.mem_singleton.1 hk
      refine groupsFlat_of_not_block rfl fun ks hks ↦ ?_
      cases List.mem_singleton.1 hks
      decide
  · obtain rfl := List.mem_singleton.1 hk
    exact groupsFlat_block rfl nofun

/-- A document with a group in a group. -/
def nestedGroupsText : String :=
  "\x7b\"name\":\"trip\",\"stages\":[\x7b\"name\":\"plan\",\"fields\":[" ++
  "\x7b\"type\":\"group\",\"name\":\"stop\",\"fields\":[" ++
  "\x7b\"type\":\"group\",\"name\":\"stay\"\x7d]\x7d]\x7d]\x7d"

/-- The document of `nestedGroupsText`. -/
def nestedGroups : Json :=
  .object [("name", .text "trip"), ("stages", .array [.object [("name", .text "plan"),
    ("fields", .array [.object [("type", .text "group"), ("name", .text "stop"),
      ("fields", .array [.object [("type", .text "group"), ("name", .text "stay")]])]])]])]

theorem ofText?_nestedGroupsText : Json.ofText? nestedGroupsText = some nestedGroups := by
  have hlines : nestedGroupsText.toList = _ :=
    (String.toList_append ..).trans (congrArg (· ++ _) (String.toList_append ..))
  rw [Json.ofText?, hlines]
  cbv

/-- The leaves of `olderTripText` make all of its entries, and a group in a group is refused. -/
theorem makeAmong_of_ofLegacyText_olderTrip :
    (∃ form, ofLegacyText olderTripText = .ok form ∧
      List.Forall₂ Leaf.Makes olderTrip.leaves form.entries ∧
      form.entries.map Entry.path = [.root "mode", .grouped "stop" "nights"]) ∧
    ∃ e, ofLegacyText nestedGroupsText = .error e ∧ e ≠ .unreadable := by
  constructor
  · have hpaths : (ofLegacyText olderTripText).map (·.entries.map Entry.path) =
        .ok [.root "mode", .grouped "stop" "nights"] := by
      rw [ofLegacyText, ofText?_olderTripText, rewriteForm_trip]
      rfl
    obtain ⟨form, hform, hpaths⟩ := Except.map_eq_ok hpaths
    obtain ⟨made, -, hmakes, hall⟩ :=
      (makeAmong_of_ofLegacyText ofText?_olderTripText ofJson?_olderTrip).2.1 form hform
    rw [hall groupsFlat_olderTrip] at hmakes
    exact ⟨form, hform, hmakes, hpaths⟩
  · obtain ⟨header, hheader, hnested⟩ : ∃ header, Header.ofJson? nestedGroups = some header ∧
        ∃ s ∈ header.stages, ∃ k ∈ s.parts, HoldsNestedGroup k :=
      ⟨⟨"trip", none, true, [⟨"plan", none, [_]⟩]⟩, rfl, _, List.mem_singleton_self _, _,
        List.mem_singleton_self _, _, _, ⟨.self, rfl, rfl⟩, List.mem_singleton_self _, rfl, rfl⟩
    exact (makeAmong_of_ofLegacyText ofText?_nestedGroupsText hheader).2.2 hnested

/-- A form is read from the text although an object is lost: it is reached from a stage through
lists of `fields` and has no such list itself, it is no block and no group, and no entry has its
name. -/
def LosesObject (text : String) : Prop :=
  ∃ j header form s k ms, Json.ofText? text = some j ∧ Header.ofJson? j = some header ∧
    ofLegacyText text = .ok form ∧ s ∈ header.stages ∧ k ∈ s.parts ∧ Holds (fun _ ↦ True) k ms ∧
    (∀ items, Json.member? "fields" ms ≠ some (.array items)) ∧ ¬IsParent ms ∧
    ∀ e ∈ form.entries, Json.member? "name" ms ≠ some (.text e.path.name)

/-- A document with one stage, in which stands one part. -/
def onePart (part : List (String × Json)) : Json :=
  .object [("name", .text "trip"), ("stages", .array [.object [("name", .text "plan"),
    ("fields", .array [.object part])]])]

theorem losesObject_onePart (part : List (String × Json)) (name : String) (paths : List FieldPath)
    {text : String} {k : Json} (hj : Json.ofText? text = some (onePart part))
    (hheader : Header.ofJson? (onePart part) = some ⟨"trip", none, true, [⟨"plan", none, [k]⟩]⟩)
    (hpaths : (ofLegacyJson (onePart part)).map (·.entries.map Entry.path) = .ok paths)
    (hholds : Holds (fun _ ↦ True) k [("name", .text name)]) (hname : ∀ p ∈ paths, name ≠ p.name) :
    LosesObject text := by
  obtain ⟨form, hform, rfl⟩ := Except.map_eq_ok hpaths
  refine ⟨_, _, form, _, k, _, hj, hheader, ?_, List.mem_singleton_self _,
    List.mem_singleton_self _, hholds, nofun, not_or.2 ⟨Bool.false_ne_true, Bool.false_ne_true⟩,
    fun e he heq ↦ ?_⟩
  · rw [ofLegacyText, hj]
    exact hform
  · cases heq
    exact hname e.path (List.mem_map_of_mem he) rfl

/-- A document with an object under the `fields` of one that is a field by its type. -/
def typedParentText : String :=
  "\x7b\"name\":\"trip\",\"stages\":[\x7b\"name\":\"plan\",\"fields\":[" ++
  "\x7b\"name\":\"mode\",\"type\":\"text\",\"fields\":[" ++
  "\x7b\"name\":\"seat\"\x7d]\x7d]\x7d]\x7d"

/-- A document with a block in a group. -/
def blockInGroupText : String :=
  "\x7b\"name\":\"trip\",\"stages\":[\x7b\"name\":\"plan\",\"fields\":[" ++
  "\x7b\"name\":\"stop\",\"type\":\"group\",\"fields\":[" ++
  "\x7b\"name\":\"more\",\"fields\":[\x7b\"name\":\"nights\"\x7d]\x7d]\x7d]\x7d]\x7d"

/-- Nothing under the `fields` of an object with a type of its own is read, and nothing under those
of a block in a group. -/
theorem losesObject_typedParent_and_blockInGroup :
    LosesObject typedParentText ∧ LosesObject blockInGroupText := by
  constructor
  · refine losesObject_onePart [("name", .text "mode"), ("type", .text "text"),
      ("fields", .array [.object [("name", .text "seat")]])] "seat" [.root "mode"] ?_ rfl rfl
      (.inside trivial (List.mem_singleton_self _) .self) (by decide)
    have hlines : typedParentText.toList = _ :=
      (String.toList_append ..).trans (congrArg (· ++ _) (String.toList_append ..))
    rw [Json.ofText?, hlines]
    cbv
  · refine losesObject_onePart [("name", .text "stop"), ("type", .text "group"),
      ("fields", .array [.object [("name", .text "more"),
        ("fields", .array [.object [("name", .text "nights")]])]])] "nights"
      [.grouped "stop" "more"] ?_ rfl rfl
      (.inside trivial (List.mem_singleton_self _)
        (.inside trivial (List.mem_singleton_self _) .self)) (by decide)
    have hlines : blockInGroupText.toList = _ :=
      (String.toList_append ..).trans (congrArg (· ++ _) (String.toList_append ..))
    rw [Json.ofText?, hlines]
    cbv

end Form

end FormWizard
