import FormWizard.ValueTree
import Mathlib.Data.List.Nodup

/-!
# The laws of writing

A value tree is known by its slots (`ValueTree.ext_slot?`), and a write changes one of them
(`ValueTree.slot?_write`). Everything else about writes follows from these two.

Two paths are `FieldPath.Compatible` if neither uses a name for a field at the root that the other
one uses for a group. Between compatible paths writes behave like updates of a function: the later
of two writes at one path counts (`ValueTree.write_write`), writes at different paths commute
(`ValueTree.write_comm`), and a write is seen at its own path alone (`ValueTree.get?_write_self`,
`ValueTree.get?_write_of_ne`).

`ValueTree.writeAll` does several writes in a row. What comes out depends on the last value written
at each path and on nothing else (`ValueTree.writeAll_eq_of_listsLast`).
-/

namespace FormWizard

/-- Two paths that use no name in two ways, for a field at the root and for a group. -/
def FieldPath.Compatible (p q : FieldPath) : Prop := p.top = q.top → p.group = q.group

namespace FieldPath

variable {p q : FieldPath}

/-- A path without a group is one at the root. -/
theorem eq_root_of_group (h : p.group = none) : p = .root p.top := by
  obtain ⟨g, n⟩ := p
  subst h
  rfl

/-- Compatible paths in one slot are fields of one group, or the same. -/
theorem Compatible.exists_group (h : p.Compatible q) (hne : p ≠ q) (htop : p.top = q.top) :
    ∃ g n m, p = grouped g n ∧ q = grouped g m ∧ n ≠ m := by
  obtain ⟨g, n⟩ := p
  obtain ⟨g', m⟩ := q
  obtain rfl : g = g' := h htop
  rcases g with _ | g
  · exact absurd (congrArg root (show n = m from htop)) hne
  · refine ⟨g, n, m, rfl, rfl, ?_⟩
    rintro rfl
    exact hne rfl

end FieldPath

namespace ValueTree

variable {t u : ValueTree} {p q : FieldPath} {v w : Value} {a b g : String}

/-! ### Slots -/

/-- A tree is known by its slots. -/
theorem ext_slot? (h : ∀ name, t.slot? name = u.slot? name) : t = u := by
  obtain ⟨t⟩ := t
  obtain ⟨u⟩ := u
  exact congrArg ValueTree.mk (Std.ExtTreeMap.ext_getElem? h)

/-- What is put under a name is found there, and nothing else changes. -/
@[simp]
theorem slot?_put (t : ValueTree) (a : String) (s : Slot) (b : String) :
    (t.put a s).slot? b = if a = b then some s else t.slot? b := by
  simp [slot?, put, Std.ExtTreeMap.getElem?_insert]

/-- The later of two slots put under one name counts. -/
@[simp]
theorem put_put (t : ValueTree) (a : String) (s s' : Slot) : (t.put a s).put a s' = t.put a s' := by
  refine ext_slot? fun name ↦ ?_
  by_cases ha : a = name <;> simp [ha]

/-- Slots put under different names do not disturb each other. -/
theorem put_comm (h : a ≠ b) (t : ValueTree) (s s' : Slot) :
    (t.put a s).put b s' = (t.put b s').put a s := by
  refine ext_slot? fun name ↦ ?_
  simp only [slot?_put]
  split_ifs with hb ha
  · exact absurd (ha.trans hb.symm) h
  all_goals rfl

/-- A slot put under a name counts if there was none. -/
theorem size_put (t : ValueTree) (a : String) (s : Slot) :
    (t.put a s).size = t.size + if (t.slot? a).isNone then 1 else 0 := by
  have hmem : a ∈ t.slots ↔ ¬ (t.slot? a).isNone := by
    rw [slot?, Option.isNone_iff_eq_none, ← Ne, Option.ne_none_iff_isSome,
      Std.ExtTreeMap.mem_iff_isSome_getElem?]
  rw [size, put, Std.ExtTreeMap.size_insert, ← size]
  split_ifs <;> simp_all

/-- Where a group is found stands a group. -/
theorem slot?_of_group? {members : Members} (h : t.group? g = some members) :
    t.slot? g = some (.group members) := by
  rw [group?] at h
  split at h
  · rename_i hslot
    rw [hslot, Option.some.inj h]
  · cases h

@[simp]
theorem group?_put_self (t : ValueTree) (a : String) (members : Members) :
    (t.put a (.group members)).group? a = some members := by
  simp [group?]

/-- What is put under another name does not touch a group. -/
theorem group?_put_of_ne (h : a ≠ b) (t : ValueTree) (s : Slot) :
    (t.put a s).group? b = t.group? b := by
  simp [group?, h]

/-! ### One write -/

theorem write_root (t : ValueTree) (a : String) (v : Value) :
    t.write (.root a) v = t.put a (.value v) := rfl

theorem write_grouped (t : ValueTree) (g a : String) (v : Value) :
    t.write (.grouped g a) v = t.put g (.group (((t.group? g).getD ∅).insert a v)) := rfl

/-- A write puts a slot that depends only on the group that stood there. -/
theorem exists_write_eq_put (t : ValueTree) (p : FieldPath) (v : Value) :
    ∃ s, ∀ u : ValueTree, u.group? p.top = t.group? p.top → u.write p v = u.put p.top s := by
  obtain ⟨_ | g, n⟩ := p
  · exact ⟨.value v, fun _ _ ↦ rfl⟩
  · refine ⟨.group (((t.group? g).getD ∅).insert n v), fun u hu ↦ ?_⟩
    exact congrArg (fun m : Option Members ↦ u.put g (.group ((m.getD ∅).insert n v))) hu

/-- A write leaves the slots alone that its path does not start with. -/
theorem slot?_write_of_ne (h : p.top ≠ a) (t : ValueTree) (v : Value) :
    (t.write p v).slot? a = t.slot? a := by
  obtain ⟨_ | g, n⟩ := p <;> exact (slot?_put _ _ _ _).trans (if_neg h)

/-- A write leaves a slot where there was one, and puts one where its path starts. -/
theorem isSome_slot?_write (t : ValueTree) (p : FieldPath) (v : Value) (a : String) :
    ((t.write p v).slot? a).isSome ↔ p.top = a ∨ (t.slot? a).isSome := by
  obtain ⟨s, hs⟩ := exists_write_eq_put t p v
  rw [hs t rfl]
  by_cases htop : p.top = a <;> simp [htop]

/-- A write adds a slot where there was none. -/
theorem size_write (t : ValueTree) (p : FieldPath) (v : Value) :
    (t.write p v).size = t.size + if (t.slot? p.top).isNone then 1 else 0 := by
  obtain ⟨s, hs⟩ := exists_write_eq_put t p v
  rw [hs t rfl, size_put]

/-- A write leaves the groups alone that its path does not start with. -/
theorem group?_write_of_ne (h : p.top ≠ a) (t : ValueTree) (v : Value) :
    (t.write p v).group? a = t.group? a := by
  rw [group?, group?, slot?_write_of_ne h]

@[simp]
theorem group?_write_grouped (t : ValueTree) (g a : String) (v : Value) :
    (t.write (.grouped g a) v).group? g = some (((t.group? g).getD ∅).insert a v) :=
  group?_put_self _ _ _

/-- Groups stay where they are unless a field at the root has their name. -/
theorem isSome_group?_write (h : (t.group? g).isSome) (hp : p ≠ .root g) (v : Value) :
    ((t.write p v).group? g).isSome := by
  by_cases htop : p.top = g
  · obtain ⟨_ | g', n⟩ := p
    · exact absurd (congrArg FieldPath.root htop) hp
    · obtain rfl : g' = g := htop
      exact (congrArg Option.isSome (group?_write_grouped t g' n v)).trans rfl
  · rwa [group?_write_of_ne htop]

/-! ### Two writes -/

/-- The later of two writes at one path counts. -/
@[simp]
theorem write_write (t : ValueTree) (p : FieldPath) (v w : Value) :
    (t.write p v).write p w = t.write p w := by
  obtain ⟨_ | g, n⟩ := p
  · exact put_put _ _ _ _
  have hinsert (members : Members) : (members.insert n v).insert n w = members.insert n w := by
    refine Std.ExtTreeMap.ext_getElem? fun m ↦ ?_
    simp only [Std.ExtTreeMap.getElem?_insert]
    split_ifs <;> rfl
  show (t.write (.grouped g n) v).write (.grouped g n) w = t.write (.grouped g n) w
  rw [write_grouped, group?_write_grouped, Option.getD_some, hinsert, write_grouped, put_put,
    write_grouped]

/-- Writes at different paths commute. -/
theorem write_comm (h : p.Compatible q) (hne : p ≠ q) (t : ValueTree) (v w : Value) :
    (t.write p v).write q w = (t.write q w).write p v := by
  by_cases htop : p.top = q.top
  · -- the paths are two fields of one group
    obtain ⟨g, n, m, rfl, rfl, hnm⟩ := h.exists_group hne htop
    have hinsert (members : Members) :
        (members.insert n v).insert m w = (members.insert m w).insert n v := by
      refine Std.ExtTreeMap.ext_getElem? fun k ↦ ?_
      simp only [Std.ExtTreeMap.getElem?_insert, Std.LawfulEqOrd.compare_eq_iff_eq]
      split_ifs with hm hn
      · exact absurd (hn.trans hm.symm) hnm
      all_goals rfl
    simp only [write_grouped, group?_put_self, Option.getD_some, hinsert, put_put]
  -- neither write sees the slot that the other one puts
  obtain ⟨s, hs⟩ := exists_write_eq_put t p v
  obtain ⟨s', hs'⟩ := exists_write_eq_put t q w
  calc (t.write p v).write q w = (t.put p.top s).put q.top s' := by
        rw [hs t rfl, hs' _ (group?_put_of_ne htop _ _)]
    _ = (t.put q.top s').put p.top s := put_comm htop _ _ _
    _ = (t.write q w).write p v := by rw [hs' t rfl, hs _ (group?_put_of_ne (Ne.symm htop) _ _)]

/-! ### Reading after a write -/

/-- At the root a value is found where no group stands. -/
theorem get?_root (t : ValueTree) (a : String) :
    t.get? (.root a) = match t.slot? a with | some (.value v) => some v | _ => none := by
  rcases hslot : t.slot? a with _ | _ | _ <;> simp [get?, FieldPath.root, FieldPath.top, hslot]

/-- Where a value at the root is found stands a value. -/
theorem slot?_of_get?_root (h : t.get? (.root a) = some v) : t.slot? a = some (.value v) := by
  rw [get?_root] at h
  split at h
  · rename_i hslot
    rw [hslot, Option.some.inj h]
  · cases h

theorem get?_grouped (t : ValueTree) (g a : String) :
    t.get? (.grouped g a) = (t.group? g).bind (·[a]?) := by
  rcases hslot : t.slot? g with _ | _ | _ <;>
    simp [get?, group?, FieldPath.grouped, FieldPath.top, hslot]

/-- What was written at a path is found there. -/
@[simp]
theorem get?_write_self (t : ValueTree) (p : FieldPath) (v : Value) :
    (t.write p v).get? p = some v := by
  obtain ⟨_ | g, n⟩ := p
  · show (t.write (.root n) v).get? (.root n) = some v
    simp [get?_root, write_root]
  · show (t.write (.grouped g n) v).get? (.grouped g n) = some v
    simp [get?_grouped]

/-- A write is not seen at other paths, as long as these use no name in another way. -/
theorem get?_write_of_ne (h : p.Compatible q) (hne : p ≠ q) (t : ValueTree) (v : Value) :
    (t.write p v).get? q = t.get? q := by
  by_cases htop : p.top = q.top
  · obtain ⟨g, n, m, rfl, rfl, hnm⟩ := h.exists_group hne htop
    rw [get?_grouped, get?_grouped, group?_write_grouped, Option.bind_some,
      Std.ExtTreeMap.getElem?_insert, if_neg (by simpa using hnm)]
    cases t.group? g <;> simp
  · rw [get?, get?, slot?_write_of_ne htop]

/-- A write replaces what stood at paths that use its name in the other way. -/
theorem get?_write_of_not_compatible (h : ¬ p.Compatible q) (t : ValueTree) (v : Value) :
    (t.write p v).get? q = none := by
  obtain ⟨htop, hgroup⟩ := Classical.not_imp.1 h
  obtain ⟨_ | g, n⟩ := p <;> obtain ⟨_ | g', m⟩ := q
  · exact absurd rfl hgroup
  · -- a value stands where a group is looked for
    obtain rfl : n = g' := htop
    have hslot : (t.write (.root n) v).slot? n = some (.value v) :=
      by simp [write_root]
    show (t.write (.root n) v).get? (.grouped n m) = none
    rw [get?_grouped, group?, hslot]
    rfl
  · obtain rfl : g = m := htop
    have hslot : (t.write (.grouped g n) v).slot? g =
        some (.group (((t.group? g).getD ∅).insert n v)) :=
      by simp [write_grouped]
    show (t.write (.grouped g n) v).get? (.root g) = none
    rw [get?_root, hslot]
  · exact absurd (congrArg some htop) hgroup

/-- Writing what is there already changes nothing. -/
theorem write_eq_self (h : t.get? p = some v) : t.write p v = t := by
  refine ext_slot? fun name ↦ ?_
  by_cases htop : p.top = name
  swap
  · exact slot?_write_of_ne htop t v
  subst htop
  obtain ⟨_ | g, n⟩ := p
  · show (t.write (.root n) v).slot? n = t.slot? n
    simp [write_root, slot?_of_get?_root h]
  · show (t.write (.grouped g n) v).slot? g = t.slot? g
    have h : t.get? (.grouped g n) = some v := h
    obtain ⟨members, hmembers, hn⟩ := Option.bind_eq_some_iff.1 ((get?_grouped t g n).symm.trans h)
    have hinsert : members.insert n v = members := by
      refine Std.ExtTreeMap.ext_getElem? fun m ↦ ?_
      rw [Std.ExtTreeMap.getElem?_insert]
      split_ifs with hm
      · rw [← Std.LawfulEqOrd.eq_of_compare hm, hn]
      · rfl
    simp [write_grouped, hmembers, hinsert, slot?_of_group? hmembers]

/-! ### Several writes -/

/-- The tree after several writes, one after the other. -/
def writeAll (t : ValueTree) (ws : List (FieldPath × Value)) : ValueTree :=
  ws.foldl (fun t w ↦ t.write w.1 w.2) t

/-- The last value that a list of writes has for a path. -/
def lastValue? (ws : List (FieldPath × Value)) (p : FieldPath) : Option Value :=
  (ws.findRev? fun w ↦ w.1 = p).map Prod.snd

variable {ws : List (FieldPath × Value)}

@[simp]
theorem writeAll_nil (t : ValueTree) : t.writeAll [] = t := rfl

@[simp]
theorem writeAll_cons (t : ValueTree) (w : FieldPath × Value) (ws : List (FieldPath × Value)) :
    t.writeAll (w :: ws) = (t.write w.1 w.2).writeAll ws := rfl

@[simp]
theorem writeAll_append (t : ValueTree) (ws us : List (FieldPath × Value)) :
    t.writeAll (ws ++ us) = (t.writeAll ws).writeAll us := List.foldl_append

/-- A write may be done before or after writes at other paths. -/
theorem writeAll_write_comm (h : ∀ w ∈ ws, p.Compatible w.1 ∧ p ≠ w.1) (t : ValueTree) (v : Value) :
    (t.write p v).writeAll ws = (t.writeAll ws).write p v := by
  induction ws generalizing t with
  | nil => rfl
  | cons w ws ih =>
    obtain ⟨⟨hw, hne⟩, hws⟩ := List.forall_mem_cons.1 h
    simp [write_comm hw hne, ih hws]

/-- Writes are not seen at other paths. -/
theorem get?_writeAll_of_ne (h : ∀ w ∈ ws, w.1.Compatible p ∧ w.1 ≠ p) (t : ValueTree) :
    (t.writeAll ws).get? p = t.get? p := by
  induction ws generalizing t with
  | nil => rfl
  | cons w ws ih =>
    obtain ⟨⟨hw, hne⟩, hws⟩ := List.forall_mem_cons.1 h
    simp [ih hws, get?_write_of_ne hw hne]

/-- Of writes at different paths each one is seen. -/
theorem get?_writeAll_of_mem (hnodup : (ws.map Prod.fst).Nodup)
    (hws : ∀ w ∈ ws, ∀ u ∈ ws, w.1.Compatible u.1) {w : FieldPath × Value} (hw : w ∈ ws)
    (t : ValueTree) : (t.writeAll ws).get? w.1 = some w.2 := by
  obtain ⟨as, bs, rfl⟩ := List.append_of_mem hw
  rw [List.map_append, List.map_cons, List.nodup_middle, List.nodup_cons] at hnodup
  rw [writeAll_append, writeAll_cons, get?_writeAll_of_ne, get?_write_self]
  intro u hu
  have hmem : u.1 ∈ as.map Prod.fst ++ bs.map Prod.fst :=
    List.mem_append_right _ (List.mem_map_of_mem hu)
  exact ⟨hws u (by simp [hu]) w hw, fun heq ↦ hnodup.1 (heq ▸ hmem)⟩

/-- A write is lost if there is a later one at its path. -/
theorem writeAll_write_of_mem (h : ∀ w ∈ ws, p.Compatible w.1) (hmem : p ∈ ws.map Prod.fst)
    (t : ValueTree) (v : Value) : (t.write p v).writeAll ws = t.writeAll ws := by
  induction ws generalizing t with
  | nil => cases hmem
  | cons w ws ih =>
    obtain ⟨hw, hws⟩ := List.forall_mem_cons.1 h
    by_cases hp : p = w.1
    · simp [hp]
    · -- the two writes change places, and the later one is further on
      have hmem : p ∈ ws.map Prod.fst := (List.mem_cons.1 hmem).resolve_left hp
      simp [write_comm hw hp, ih hws hmem]

/-! ### The last value at each path -/

/-- A list that holds each path written to once, with the last value written there. -/
structure ListsLast (ls ws : List (FieldPath × Value)) : Prop where
  /-- No path is listed twice. -/
  nodup : (ls.map Prod.fst).Nodup
  /-- Listed are the last values. -/
  mem_iff : ∀ p v, (p, v) ∈ ls ↔ lastValue? ws p = some v

/-- The first of several writes is the last one at its path if there is none behind it. -/
theorem lastValue?_cons (w : FieldPath × Value) (ws : List (FieldPath × Value)) (p : FieldPath) :
    lastValue? (w :: ws) p = (lastValue? ws p).or (if w.1 = p then some w.2 else none) := by
  rw [lastValue?, lastValue?, List.findRev?]
  generalize ws.findRev? (fun w ↦ decide (w.1 = p)) = later
  rcases later with _ | u
  · by_cases h : w.1 = p <;> simp [h]
  · rfl

/-- The last value at a path was written there. -/
theorem mem_of_lastValue? (h : lastValue? ws p = some v) : (p, v) ∈ ws := by
  induction ws with
  | nil => cases h
  | cons w ws ih =>
    rw [lastValue?_cons, Option.or_eq_some_iff] at h
    obtain h | ⟨-, h⟩ := h
    · exact List.mem_cons_of_mem _ (ih h)
    · obtain ⟨rfl, hv⟩ := Option.ite_none_right_eq_some.1 h
      cases hv
      exact List.mem_cons_self

theorem lastValue?_cons_of_ne {w : FieldPath × Value} (h : w.1 ≠ p) :
    lastValue? (w :: ws) p = lastValue? ws p := by
  rw [lastValue?_cons, if_neg h, Option.or_none]

/-- A write is not the last one at its path if there is one behind it. -/
theorem lastValue?_cons_of_eq_some {w : FieldPath × Value} (h : lastValue? ws w.1 = some v) :
    lastValue? (w :: ws) = lastValue? ws := by
  funext p
  by_cases hp : w.1 = p
  · rw [lastValue?_cons, ← hp, h]
    rfl
  · exact lastValue?_cons_of_ne hp

/-- A write with a later one at its path does not change what the last values are. -/
theorem listsLast_cons_iff {ls : List (FieldPath × Value)} {w : FieldPath × Value}
    (h : lastValue? ws w.1 = some v) : ListsLast ls (w :: ws) ↔ ListsLast ls ws := by
  refine ⟨fun hls ↦ ⟨hls.nodup, fun p u ↦ ?_⟩, fun hls ↦ ⟨hls.nodup, fun p u ↦ ?_⟩⟩
  · rw [hls.mem_iff, lastValue?_cons_of_eq_some h]
  · rw [hls.mem_iff, lastValue?_cons_of_eq_some h]

/-- The only write at its path is listed with the last values of the others. -/
theorem ListsLast.cons {ls : List (FieldPath × Value)} {w : FieldPath × Value}
    (hls : ListsLast ls ws) (h : lastValue? ws w.1 = none) : ListsLast (w :: ls) (w :: ws) := by
  have hne : w.1 ∉ ls.map Prod.fst := by
    intro hmem
    obtain ⟨u, hu, hpath⟩ := List.mem_map.1 hmem
    have hlast := (hls.mem_iff u.1 u.2).1 hu
    rw [hpath, h] at hlast
    cases hlast
  refine ⟨List.nodup_cons.2 ⟨hne, hls.nodup⟩, fun p v ↦ ?_⟩
  rw [List.mem_cons, hls.mem_iff]
  by_cases hp : w.1 = p
  · subst hp
    rw [lastValue?_cons, h, if_pos rfl, Option.none_or, Option.some_inj]
    exact ⟨fun hv ↦ (congrArg Prod.snd (hv.resolve_right nofun)).symm, fun hv ↦ .inl (hv ▸ rfl)⟩
  · rw [lastValue?_cons_of_ne hp]
    exact or_iff_right fun heq ↦ hp (congrArg Prod.fst heq).symm

/-- Every list of writes has such a list. -/
theorem exists_listsLast (ws : List (FieldPath × Value)) : ∃ ls, ListsLast ls ws := by
  induction ws with
  | nil => exact ⟨[], List.nodup_nil, fun p v ↦ ⟨nofun, nofun⟩⟩
  | cons w ws ih =>
    obtain ⟨ls, hls⟩ := ih
    rcases hlast : lastValue? ws w.1 with _ | v
    · exact ⟨w :: ls, hls.cons hlast⟩
    · exact ⟨ls, (listsLast_cons_iff hlast).2 hls⟩

/-- The order of writes does not matter, and neither does what was written at a path before the last
value. -/
theorem writeAll_eq_of_listsLast {ls : List (FieldPath × Value)} (h : ListsLast ls ws)
    (hws : ∀ w ∈ ws, ∀ u ∈ ws, w.1.Compatible u.1) (t : ValueTree) :
    t.writeAll ls = t.writeAll ws := by
  induction ws generalizing ls t with
  | nil =>
    have hnil : ls = [] := List.eq_nil_iff_forall_not_mem.2 fun w hw ↦ by
      cases (h.mem_iff w.1 w.2).1 hw
    rw [hnil]
  | cons w ws ih =>
    have hcompatible : ∀ u ∈ ws, w.1.Compatible u.1 := fun u hu ↦
      hws w List.mem_cons_self u (List.mem_cons_of_mem _ hu)
    replace ih {ls} (h : ListsLast ls ws) := ih h fun u hu u' hu' ↦
      hws u (List.mem_cons_of_mem _ hu) u' (List.mem_cons_of_mem _ hu')
    rcases hlast : lastValue? ws w.1 with _ | v
    · -- this write is the last one at its path and can be moved to the front
      have hmem : w ∈ ls := (h.mem_iff _ _).2 (by rw [lastValue?_cons, hlast, if_pos rfl]; rfl)
      obtain ⟨as, bs, rfl⟩ := List.append_of_mem hmem
      have hnodup := h.nodup
      rw [List.map_append, List.map_cons, List.nodup_middle, List.nodup_cons, ← List.map_append]
        at hnodup
      have hne : ∀ u ∈ as ++ bs, w.1 ≠ u.1 := fun u hu heq ↦
        hnodup.1 (heq ▸ List.mem_map_of_mem hu)
      have hrest : ListsLast (as ++ bs) ws := by
        refine ⟨hnodup.2, fun p v ↦ ?_⟩
        by_cases hp : w.1 = p
        · subst hp
          rw [hlast]
          exact ⟨fun hu ↦ absurd rfl (hne (w.1, v) hu), nofun⟩
        · rw [← lastValue?_cons_of_ne hp, ← h.mem_iff, List.mem_append, List.mem_append,
            List.mem_cons]
          simp [Prod.ext_iff, Ne.symm hp]
      have hfront : (t.write w.1 w.2).writeAll as = (t.writeAll as).write w.1 w.2 := by
        refine writeAll_write_comm (fun u hu ↦ ?_) t w.2
        have hu := List.mem_append_left bs hu
        exact ⟨hcompatible _ (mem_of_lastValue? ((hrest.mem_iff u.1 u.2).1 hu)), hne u hu⟩
      simp [← ih hrest, hfront]
    · -- there is a later one, and this one is lost
      have hsame : ListsLast ls ws := (listsLast_cons_iff hlast).1 h
      rw [writeAll_cons, ← ih hsame, writeAll_write_of_mem]
      · exact fun u hu ↦ hcompatible _ (mem_of_lastValue? ((hsame.mem_iff u.1 u.2).1 hu))
      · exact List.mem_map.2 ⟨_, (hsame.mem_iff _ _).2 hlast, rfl⟩

end ValueTree

end FormWizard
