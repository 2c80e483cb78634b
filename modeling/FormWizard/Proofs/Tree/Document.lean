import FormWizard.Proofs.Json.Normal
import FormWizard.ValueTree

/-!
# The document of a tree

A tree is handed over as a JSON object, `ValueTree.toJson`. It has one member for each name of the
tree, in the order of the names. Where a value stands in the tree its document stands in the object,
and where a group stands there is an object made of its members in the same way
(`ValueTree.exists_toJson_eq`, `ValueTree.exists_membersJson_eq`).
-/

namespace FormWizard

/-! ### Objects written for maps -/

namespace Json

variable {β : Type} (write : β → Json) (m : Std.ExtTreeMap String β compare)

/-- The members written for a map have its names, in order. -/
theorem sorted_map_toList :
    ((m.toList.map fun item ↦ (item.1, write item.2)).map Prod.fst).Pairwise
      (compare · · = .lt) := by
  rw [List.map_map, List.pairwise_map]
  exact m.ordered_keys_toList

/-- Under a name stands what is written for the item of the map. -/
theorem member?_map_toList (name : String) :
    member? name (m.toList.map fun item ↦ (item.1, write item.2)) = m[name]?.map write := by
  cases hitem : m[name]? with
  | none =>
    refine member?_eq_none_iff.2 fun hname ↦ ?_
    rw [List.map_map] at hname
    obtain ⟨⟨other, x⟩, hx, heq⟩ := List.mem_map.1 hname
    obtain rfl : other = name := heq
    rw [Std.ExtTreeMap.mem_toList_iff_getElem?_eq_some.1 hx] at hitem
    cases hitem
  | some x =>
    have hnodup : ((m.toList.map fun item ↦ (item.1, write item.2)).map Prod.fst).Nodup := by
      refine (sorted_map_toList write m).imp fun {name other} hlt heq ↦ ?_
      exact absurd ((compare_eq_iff_eq.2 heq).symm.trans hlt) nofun
    exact member?_of_mem hnodup
      (List.mem_map_of_mem (Std.ExtTreeMap.mem_toList_iff_getElem?_eq_some.2 hitem))

end Json

/-! ### Trees -/

/-- The document of what stands under a name. -/
def Slot.toJson : Slot → Json
  | .value v => v.toJson
  | .group members => ValueTree.membersJson members

namespace ValueTree

/-- The document of a group is an object with the names of the group in order, and under each of
them the document of its value. -/
theorem exists_membersJson_eq (members : Members) :
    ∃ ms, membersJson members = .object ms ∧ (ms.map Prod.fst).Pairwise (compare · · = .lt) ∧
      ∀ name, Json.member? name ms = members[name]?.map Value.toJson :=
  ⟨_, rfl, Json.sorted_map_toList _ members, Json.member?_map_toList _ members⟩

/-- The document of a tree is an object with the names of the tree in order, and under each of them
the document of the value or the group that stands there. -/
theorem exists_toJson_eq (t : ValueTree) :
    ∃ ms, t.toJson = .object ms ∧ (ms.map Prod.fst).Pairwise (compare · · = .lt) ∧
      ∀ name, Json.member? name ms = (t.slot? name).map Slot.toJson := by
  refine ⟨t.slots.toList.map fun item ↦ (item.1, item.2.toJson), ?_,
    Json.sorted_map_toList _ t.slots, Json.member?_map_toList _ t.slots⟩
  rw [toJson]
  refine congrArg Json.object (List.map_congr_left ?_)
  rintro ⟨name, v | members⟩ -
  · rfl
  · rfl

end ValueTree

end FormWizard
