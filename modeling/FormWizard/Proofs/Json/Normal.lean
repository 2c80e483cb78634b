import FormWizard.Json.Record
import FormWizard.Proofs.General
import Mathlib.Data.List.Nodup
import Mathlib.Data.String.Basic

/-!
# Reading normal forms

The normal form of a document (`Json.free`) has the members of an object in the order of their
names, the last one of each name. A reader is *steady* (`Json.Steady`) if it reads off the normal
form of a document whatever it reads off the document itself. Readers of scalars are, since the
normal form of a scalar is the scalar, and lists of what is read by a steady reader are read by one,
too (`Json.Steady.list?`).

For records this comes down to look-ups. What a record has under a name is what the document has
there (`Record.get?_of_ofJson?`), an object in which no name is repeated has the same under each
name as its normal form, up to normal forms (`Json.member?_freeMembers`), and readers of a single
member go by that alone (`Record.Frees`).
-/

namespace FormWizard

/-! ### Members of objects -/

namespace Json

variable {name other : String} {ms placed : List (String × Json)} {j v : Json}

@[simp]
theorem member?_nil (name : String) : member? name [] = none := rfl

@[simp]
theorem member?_cons (name other : String) (j : Json) (ms : List (String × Json)) :
    member? name ((other, j) :: ms) = if name = other then some j else member? name ms := rfl

/-- The first member of a name counts. -/
theorem member?_eq_find? (name : String) (ms : List (String × Json)) :
    member? name ms = (ms.find? fun m ↦ m.1 == name).map Prod.snd := by
  induction ms with
  | nil => rfl
  | cons m ms ih =>
    obtain ⟨other, j⟩ := m
    rw [member?_cons, List.find?_cons, ih]
    by_cases h : name = other
    · simp [h]
    · have hne : (other == name) = false := beq_eq_false_iff_ne.2 (Ne.symm h)
      simp [h, hne]

/-- A walk along the members that stops at the first one of a name finds what `member?` does. -/
theorem walk_eq_elim_member? {β : Type} {walk : List (String × Json) → β} {read : Json → β}
    (hcons : ∀ other j ms,
      walk ((other, j) :: ms) = if other = name then read j else walk ms)
    (ms : List (String × Json)) : walk ms = (member? name ms).elim (walk []) read := by
  induction ms with
  | nil => rfl
  | cons m ms ih =>
    obtain ⟨other, j⟩ := m
    rw [hcons, member?_cons, ih]
    by_cases hname : other = name
    · rw [if_pos hname, if_pos hname.symm, Option.elim_some]
    · rw [if_neg hname, if_neg (Ne.symm hname)]

/-- Members behind others count only where these have none of the name. -/
@[simp]
theorem member?_append (name : String) (ms ms' : List (String × Json)) :
    member? name (ms ++ ms') = (member? name ms).or (member? name ms') := by
  rw [member?_eq_find?, member?_eq_find?, member?_eq_find?, List.find?_append, Option.map_or]

/-- Nothing is found under a name that no member has. -/
theorem member?_eq_none_iff : member? name ms = none ↔ name ∉ ms.map Prod.fst := by
  rw [member?_eq_find?, Option.map_eq_none_iff, List.find?_eq_none, List.mem_map]
  constructor
  · rintro h ⟨m, hm, rfl⟩
    exact h m hm (beq_self_eq_true _)
  · exact fun h m hm heq ↦ h ⟨m, hm, eq_of_beq heq⟩

/-- What is found is a member. -/
theorem mem_of_member?_eq_some (h : member? name ms = some j) : (name, j) ∈ ms := by
  rw [member?_eq_find?] at h
  obtain ⟨⟨other, j'⟩, hfind, rfl⟩ := Option.map_eq_some_iff.1 h
  have hname : (other == name) = true := by
    have hfound := List.find?_some hfind
    exact hfound
  rw [← eq_of_beq hname]
  exact List.mem_of_find?_eq_some hfind

/-- In an object in which no name is repeated any member is found. -/
theorem member?_of_mem (hnodup : (ms.map Prod.fst).Nodup) (h : (name, j) ∈ ms) :
    member? name ms = some j := by
  obtain ⟨j', hj'⟩ := Option.ne_none_iff_exists'.1 fun hnone ↦
    member?_eq_none_iff.1 hnone (List.mem_map_of_mem h)
  have heq : (name, j') = (name, j) :=
    List.inj_on_of_nodup_map hnodup (mem_of_member?_eq_some hj') h rfl
  rw [hj', (Prod.mk.inj heq).2]

/-- In an object in which no name is repeated the order does not matter. -/
theorem member?_reverse (h : (ms.filter fun m ↦ m.1 == name).length ≤ 1) :
    member? name ms.reverse = member? name ms := by
  rw [member?_eq_find?, member?_eq_find?, ← List.head?_filter, ← List.head?_filter,
    List.filter_reverse]
  generalize ms.filter (fun m ↦ m.1 == name) = found at h
  rcases found with _ | ⟨m, _ | ⟨m', rest⟩⟩
  · rfl
  · rfl
  · exact absurd h (by simp)

/-- If no name is repeated, at most one member has it. -/
theorem length_filter_le_one (hnodup : (ms.map Prod.fst).Nodup) (name : String) :
    (ms.filter fun m ↦ m.1 == name).length ≤ 1 := by
  have hcount := List.nodup_iff_count_le_one.1 hnodup name
  rw [List.count, List.countP_map, List.countP_eq_length_filter] at hcount
  exact hcount

/-! ### Normal forms -/

/-- A member is placed under its name and no other. -/
@[simp]
theorem member?_placeMember (name other : String) (v : Json) (ms : List (String × Json)) :
    member? name (placeMember other v ms) = if name = other then some v else member? name ms := by
  induction ms with
  | nil => rfl
  | cons m ms ih =>
    obtain ⟨third, w⟩ := m
    rw [placeMember]
    split
    · rename_i heq
      subst heq
      rw [member?_cons, member?_cons]
      split <;> rfl
    · split
      · rw [member?_cons]
      · rename_i hne hlt
        rw [member?_cons, member?_cons, ih]
        by_cases hthird : name = third
        · rw [if_pos hthird, if_pos hthird, if_neg]
          exact fun heq ↦ hne (heq.symm.trans hthird)
        · rw [if_neg hthird, if_neg hthird]

/-- Of members of one name the last one counts. -/
theorem member?_freeMembers_placed (name : String) (ms placed : List (String × Json)) :
    member? name (freeMembers ms placed) =
      ((member? name ms.reverse).map free).or (member? name placed) := by
  induction ms generalizing placed with
  | nil => rfl
  | cons m ms ih =>
    obtain ⟨other, j⟩ := m
    rw [freeMembers, ih]
    by_cases h : name = other
    · subst h
      cases hms : member? name ms.reverse <;> simp [hms]
    · cases hms : member? name ms.reverse <;> simp [h, hms]

/-- A member of a name that is not repeated counts as it is, up to normal forms. -/
theorem member?_freeMembers (h : (ms.filter fun m ↦ m.1 == name).length ≤ 1) :
    member? name (freeMembers ms []) = (member? name ms).map free := by
  rw [member?_freeMembers_placed, member?_reverse h, member?_nil, Option.or_none]

/-- The members after one is placed are that one and those that were there. -/
theorem mem_placeMember {m : String × Json} (h : m ∈ placeMember name v ms) :
    m = (name, v) ∨ m ∈ ms := by
  induction ms with
  | nil =>
    rw [placeMember, List.mem_singleton] at h
    exact .inl h
  | cons m' ms ih =>
    obtain ⟨other, w⟩ := m'
    rw [placeMember] at h
    split at h
    · exact (List.mem_cons.1 h).imp_right (List.mem_cons_of_mem _)
    · split at h
      · exact List.mem_cons.1 h
      · obtain rfl | h := List.mem_cons.1 h
        · exact .inr List.mem_cons_self
        · exact (ih h).imp_right (List.mem_cons_of_mem _)

/-- Members are placed in the order of their names. -/
theorem sorted_placeMember (h : ms.Pairwise fun m m' ↦ m.1 < m'.1) (name : String) (v : Json) :
    (placeMember name v ms).Pairwise fun m m' ↦ m.1 < m'.1 := by
  induction ms with
  | nil => exact List.pairwise_singleton _ _
  | cons m ms ih =>
    obtain ⟨other, w⟩ := m
    obtain ⟨hfirst, hrest⟩ := List.pairwise_cons.1 h
    rw [placeMember]
    split
    · rename_i heq
      subst heq
      exact List.pairwise_cons.2 ⟨hfirst, hrest⟩
    · split
      · rename_i hne hlt
        refine List.pairwise_cons.2 ⟨fun m hm ↦ ?_, h⟩
        obtain rfl | hm := List.mem_cons.1 hm
        · exact hlt
        · exact lt_trans hlt (hfirst m hm)
      · rename_i hne hlt
        refine List.pairwise_cons.2 ⟨fun m hm ↦ ?_, ih hrest⟩
        obtain rfl | hm := mem_placeMember hm
        · exact lt_of_le_of_ne (le_of_not_gt hlt) (Ne.symm hne)
        · exact hfirst m hm

/-- The members of a normal form are in the order of their names. -/
theorem sorted_freeMembers (h : placed.Pairwise fun m m' ↦ m.1 < m'.1)
    (ms : List (String × Json)) :
    (freeMembers ms placed).Pairwise fun m m' ↦ m.1 < m'.1 := by
  induction ms generalizing placed with
  | nil => exact h
  | cons m ms ih => exact ih (sorted_placeMember h _ _)

/-- No name is repeated in a normal form. -/
theorem nodup_freeMembers (ms : List (String × Json)) :
    ((freeMembers ms []).map Prod.fst).Nodup := by
  have hsorted := sorted_freeMembers List.Pairwise.nil ms
  exact List.pairwise_map.2 (hsorted.imp ne_of_lt)

@[simp]
theorem freeAll_eq_map (js : List Json) : freeAll js = js.map free := by
  induction js with
  | nil => rfl
  | cons j js ih => rw [freeAll, ih, List.map_cons]

@[simp]
theorem free_array (items : List Json) : (array items).free = .array (items.map free) := by
  rw [free, freeAll_eq_map]

/-- Only `null` has the normal form `null`. -/
@[simp]
theorem free_eq_null_iff : j.free = .null ↔ j = .null := by
  cases j with
  | null => simp [free]
  | bool b => simp [free]
  | whole n => simp [free]
  | float x => simp [free]
  | text s => simp [free]
  | array items => simp [free]
  | object members => simp [free]
  | unreadable => simp [free]

/-! ### Steady readers -/

/-- What the reader reads off a document it reads off its normal form, too. -/
def Steady {α : Type} (read : Json → Option α) : Prop :=
  ∀ j x, read j = some x → read j.free = some x

theorem steady_text? : Steady text? := by
  intro j x h
  cases j with
  | text s => exact h
  | _ => cases h

theorem steady_bool? : Steady bool? := by
  intro j x h
  cases j with
  | bool b => exact h
  | _ => cases h

theorem steady_count? : Steady count? := by
  intro j x h
  cases j with
  | whole n => exact h
  | _ => cases h

theorem steady_number? : Steady number? := by
  intro j x h
  cases j with
  | whole n => exact h
  | float y => exact h
  | _ => cases h

/-- Lists of what is read by a steady reader are read by one. -/
theorem Steady.list? {α : Type} {read : Json → Option α} (hread : Steady read) :
    Steady (Json.list? read) := by
  intro j xs h
  cases j with
  | array items =>
    rw [free_array]
    exact List.mapM_map_eq_pure (fun j _ x hx ↦ hread j x hx) h
  | _ => cases h

end Json

/-! ### Records -/

namespace Record

variable {known : List Member} {ms ms' : List (String × Json)} {items : List Json} {r r' : Record}
  {j : Json} {name : String}

/-- An object is a record if no member is there twice. -/
theorem ofObject?_eq_some_iff : ofObject? known ms = some r ↔
    (∀ m ∈ known, (ms.filter fun x ↦ isNameOf x.1 m).length ≤ 1) ∧
      r = ⟨known.filterMap fun m ↦
        (ms.find? fun x ↦ isNameOf x.1 m).map fun x ↦ (m.name, x.2)⟩ := by
  have hmembers : ((known.map fun m ↦ (m.name, ms.filter fun x ↦ isNameOf x.1 m)).filterMap
      fun found ↦ found.2.head?.map fun x ↦ (found.1, x.2)) =
      known.filterMap fun m ↦ (ms.find? fun x ↦ isNameOf x.1 m).map fun x ↦ (m.name, x.2) := by
    rw [List.filterMap_map]
    refine List.filterMap_congr fun m _ ↦ ?_
    show (ms.filter fun x ↦ isNameOf x.1 m).head?.map (fun x ↦ (m.name, x.2)) = _
    rw [List.head?_filter]
  rw [ofObject?]
  dsimp only
  split
  · rename_i hany
    rw [List.any_map, List.any_eq_true] at hany
    obtain ⟨m, hm, hlength⟩ := hany
    constructor
    · intro h
      cases h
    · rintro ⟨hall, -⟩
      exact absurd (hall m hm) (Nat.not_le_of_lt (of_decide_eq_true hlength))
  · rename_i hany
    show some (Record.mk ((known.map fun m ↦ (m.name, ms.filter fun x ↦ isNameOf x.1 m)).filterMap
      fun found ↦ found.2.head?.map fun x ↦ (found.1, x.2))) = some r ↔ _
    rw [hmembers, Option.some_inj, eq_comm]
    refine (and_iff_right fun m hm ↦ Nat.le_of_not_lt fun hlength ↦ hany ?_).symm
    rw [List.any_map]
    exact List.any_eq_true.2 ⟨m, hm, decide_eq_true hlength⟩

/-- A list is a record if it is not too long and nothing is missing at its end. -/
theorem ofItems?_eq_some_iff : ofItems? known items = some ms ↔
    items.length ≤ known.length ∧ (∀ m ∈ known.drop items.length, m.mayBeMissing) ∧
      ms = List.zipWith (fun m j ↦ (m.name, j)) known items := by
  induction known generalizing items ms with
  | nil =>
    cases items with
    | nil =>
      rw [ofItems?, Option.some_inj, eq_comm]
      simp
    | cons j js => simp [ofItems?]
  | cons m known ih =>
    cases items with
    | nil =>
      rw [ofItems?]
      split
      · rename_i hm
        rw [ih]
        simp [hm]
      · rename_i hm
        simp [hm]
    | cons j js =>
      rw [ofItems?, Option.map_eq_some_iff]
      constructor
      · rintro ⟨rest, hrest, rfl⟩
        obtain ⟨hlength, hmissing, rfl⟩ := ih.1 hrest
        exact ⟨Nat.succ_le_succ hlength, hmissing, rfl⟩
      · rintro ⟨hlength, hmissing, rfl⟩
        exact ⟨_, ih.2 ⟨Nat.le_of_succ_le_succ hlength, hmissing, rfl⟩, rfl⟩

/-- Members that are picked by their names have no others. -/
theorem lookup_filterMap_eq_none (f : Member → Option Json) (h : name ∉ known.map Member.name) :
    (known.filterMap fun m ↦ (f m).map fun j ↦ (m.name, j)).lookup name = none := by
  rw [List.lookup_eq_none_iff]
  rintro ⟨other, j⟩ hj
  obtain ⟨m, hm, hname⟩ := List.mem_filterMap.1 hj
  obtain ⟨_, -, heq⟩ := Option.map_eq_some_iff.1 hname
  rw [← (Prod.mk.inj heq).1, bne_iff_ne]
  exact fun heq ↦ h (heq ▸ List.mem_map_of_mem hm)

/-- Under the name of a member stands what was picked for it. -/
theorem lookup_filterMap (f : Member → Option Json) (hnodup : (known.map Member.name).Nodup)
    {m : Member} (hm : m ∈ known) :
    (known.filterMap fun m ↦ (f m).map fun j ↦ (m.name, j)).lookup m.name = f m := by
  induction known with
  | nil => cases hm
  | cons m' known ih =>
    obtain ⟨hfirst, hrest⟩ := List.nodup_cons.1 hnodup
    rw [List.filterMap_cons]
    obtain rfl | hm := List.mem_cons.1 hm
    · cases hf : f m with
      | none => exact lookup_filterMap_eq_none f hfirst
      | some j => simp
    · have hne : (m.name == m'.name) = false :=
        beq_eq_false_iff_ne.2 fun heq ↦ hfirst (heq ▸ List.mem_map_of_mem hm)
      cases f m' with
      | none => exact ih hrest hm
      | some j =>
        simp only [Option.map_some, List.lookup_cons, hne]
        exact ih hrest hm

/-- Under the name of a member stands the item at its place. -/
theorem lookup_zipWith (hnodup : (known.map Member.name).Nodup) {m : Member} {place : ℕ}
    (hm : known[place]? = some m) :
    (List.zipWith (fun m j ↦ (m.name, j)) known items).lookup m.name = items[place]? := by
  induction known generalizing items place with
  | nil => cases hm
  | cons m' known ih =>
    obtain ⟨hfirst, hrest⟩ := List.nodup_cons.1 hnodup
    cases items with
    | nil => rfl
    | cons j js =>
      rw [List.zipWith_cons_cons, List.lookup_cons]
      cases place with
      | zero =>
        obtain rfl : m' = m := Option.some.inj hm
        rw [beq_self_eq_true]
        rfl
      | succ place =>
        have hmem : m ∈ known := List.mem_of_getElem? hm
        have hne : (m.name == m'.name) = false :=
          beq_eq_false_iff_ne.2 fun heq ↦ hfirst (heq ▸ List.mem_map_of_mem hmem)
        rw [hne]
        exact ih hrest hm

/-- What a document has under the names of a member, or, if it is a list, at its place. -/
def found? (m : Member) (place : ℕ) : Json → Option Json
  | .object ms => (ms.find? fun x ↦ isNameOf x.1 m).map Prod.snd
  | .array items => items[place]?
  | _ => none

/-- A record has under the name of a member what the document has there. -/
theorem get?_of_ofJson? (hnodup : (known.map Member.name).Nodup)
    (h : ofJson? known j = some r) {m : Member} {place : ℕ} (hm : known[place]? = some m) :
    r.get? m.name = found? m place j := by
  cases j with
  | object ms =>
    obtain ⟨-, rfl⟩ := ofObject?_eq_some_iff.1 h
    have hlookup := lookup_filterMap
      (fun m ↦ (ms.find? fun x ↦ isNameOf x.1 m).map Prod.snd) hnodup (List.mem_of_getElem? hm)
    simp only [Option.map_map] at hlookup
    exact hlookup
  | array items =>
    obtain ⟨members, hmembers, rfl⟩ := Option.map_eq_some_iff.1 h
    obtain ⟨-, -, rfl⟩ := ofItems?_eq_some_iff.1 hmembers
    exact lookup_zipWith hnodup hm
  | _ => cases h

/-- A member that goes by one name only is looked up under it. -/
theorem find?_isNameOf {m : Member} (hplain : m.aliases = []) (ms : List (String × Json)) :
    (ms.find? fun x ↦ isNameOf x.1 m).map Prod.snd = Json.member? m.name ms := by
  rw [Json.member?_eq_find?]
  simp only [isNameOf, hplain, List.contains_nil, Bool.or_false]

/-- If members go by one name only, a record has under it what the object has there. -/
theorem get?_of_ofObject? (hnodup : (known.map Member.name).Nodup)
    (hplain : ∀ m ∈ known, m.aliases = []) (h : ofObject? known ms = some r) {m : Member}
    (hm : m ∈ known) : r.get? m.name = Json.member? m.name ms := by
  obtain ⟨place, hplace⟩ := List.mem_iff_getElem?.1 hm
  have hfound := get?_of_ofJson? (j := .object ms) hnodup h hplace
  rw [hfound, found?, find?_isNameOf (hplain m hm)]

/-- A member that is read as a text is one in the object. -/
theorem member?_of_required (hnodup : (known.map Member.name).Nodup)
    (hplain : ∀ m ∈ known, m.aliases = []) (h : ofObject? known ms = some r) {m : Member}
    (hm : m ∈ known) {s : String} (hs : r.required m.name Json.text? = some s) :
    Json.member? m.name ms = some (.text s) := by
  obtain ⟨k, hk, htext⟩ := Option.bind_eq_some_iff.1 hs
  have hmember : Json.member? m.name ms = some k := by
    rw [← get?_of_ofObject? hnodup hplain h hm]
    exact hk
  cases k with
  | text s =>
    cases htext
    exact hmember
  | _ => cases htext

/-- A record has nothing under a name that is not known. -/
theorem get?_eq_none_of_ofObject? (h : ofObject? known ms = some r)
    (hname : name ∉ known.map Member.name) : r.get? name = none := by
  obtain ⟨-, rfl⟩ := ofObject?_eq_some_iff.1 h
  have hlookup := lookup_filterMap_eq_none
    (fun m ↦ (ms.find? fun x ↦ isNameOf x.1 m).map Prod.snd) hname
  simp only [Option.map_map] at hlookup
  exact hlookup

/-- An object in which no name is repeated is a record. -/
theorem exists_ofObject?_of_nodup (known : List Member) (hplain : ∀ m ∈ known, m.aliases = [])
    (hnodup : (ms.map Prod.fst).Nodup) : ∃ r, ofObject? known ms = some r := by
  refine ⟨_, ofObject?_eq_some_iff.2 ⟨fun m hm ↦ ?_, rfl⟩⟩
  simp only [isNameOf, hplain m hm, List.contains_nil, Bool.or_false]
  exact Json.length_filter_le_one hnodup m.name

/-- The second record has under the name the normal form of what the first has there. -/
def FreesAt (r r' : Record) (name : String) : Prop := r'.get? name = (r.get? name).map Json.free

/-- The members of the second record are the normal forms of those of the first. -/
def Frees (r r' : Record) : Prop := ∀ name, r.FreesAt r' name

@[simp]
theorem lookup_map_free (name : String) (ms : List (String × Json)) :
    (ms.map fun x ↦ (x.1, x.2.free)).lookup name = (ms.lookup name).map Json.free := by
  induction ms with
  | nil => rfl
  | cons m ms ih =>
    rw [List.map_cons, List.lookup_cons, List.lookup_cons, ih]
    cases name == m.1 <;> rfl

/-- If members go by one name only, it is enough to compare the objects where they are known. -/
theorem freesAt_of_member? (hnodup : (known.map Member.name).Nodup)
    (hplain : ∀ m ∈ known, m.aliases = []) (h : ofObject? known ms = some r)
    (h' : ofObject? known ms' = some r')
    (hmember : name ∈ known.map Member.name →
      Json.member? name ms' = (Json.member? name ms).map Json.free) : r.FreesAt r' name := by
  by_cases hname : name ∈ known.map Member.name
  · obtain ⟨m, hm, rfl⟩ := List.mem_map.1 hname
    rw [FreesAt, get?_of_ofObject? hnodup hplain h hm, get?_of_ofObject? hnodup hplain h' hm,
      hmember hname]
  · rw [FreesAt, get?_eq_none_of_ofObject? h hname, get?_eq_none_of_ofObject? h' hname,
      Option.map_none]

/-- The normal form of a record is one, too. -/
theorem exists_frees (hnodup : (known.map Member.name).Nodup)
    (hplain : ∀ m ∈ known, m.aliases = []) (h : ofJson? known j = some r) :
    ∃ r', ofJson? known j.free = some r' ∧ r.Frees r' := by
  cases j with
  | object ms =>
    obtain ⟨r', hr'⟩ := exists_ofObject?_of_nodup known hplain (Json.nodup_freeMembers ms)
    refine ⟨r', hr', fun name ↦ freesAt_of_member? hnodup hplain h hr' fun hname ↦ ?_⟩
    obtain ⟨m, hm, rfl⟩ := List.mem_map.1 hname
    have hlength := (ofObject?_eq_some_iff.1 h).1 m hm
    simp only [isNameOf, hplain m hm, List.contains_nil, Bool.or_false] at hlength
    exact Json.member?_freeMembers hlength
  | array items =>
    obtain ⟨members, hmembers, rfl⟩ := Option.map_eq_some_iff.1 h
    obtain ⟨hlength, hmissing, rfl⟩ := ofItems?_eq_some_iff.1 hmembers
    rw [Json.free_array]
    refine ⟨⟨_⟩, Option.map_eq_some_iff.2 ⟨_, ofItems?_eq_some_iff.2 ⟨?_, ?_, rfl⟩, rfl⟩,
      fun name ↦ ?_⟩
    · rwa [List.length_map]
    · rwa [List.length_map]
    · show List.lookup name _ = (List.lookup name _).map Json.free
      rw [← lookup_map_free, List.map_zipWith, List.zipWith_map_right]
  | _ => cases h

section

variable {α : Type} {read read' : Json → Option α} {x default : α} {o : Option α}

/-- A member that may be absent or `null` is either, or it is read. -/
theorem optional_eq_some (h : r.optional name read = some o) :
    (o = none ∧ ∀ j, r.get? name = some j → j = .null) ∨
      ∃ j x, r.get? name = some j ∧ j ≠ .null ∧ read j = some x ∧ o = some x := by
  rw [optional] at h
  split at h
  · rename_i hnone
    cases h
    exact .inl ⟨rfl, fun j hj ↦ by rw [hnone] at hj; cases hj⟩
  · rename_i hnull
    cases h
    exact .inl ⟨rfl, fun j hj ↦ by rw [hnull] at hj; exact (Option.some.inj hj).symm⟩
  · rename_i j hnull hj
    obtain ⟨x, hx, rfl⟩ := Option.map_eq_some_iff.1 h
    exact .inr ⟨j, x, hj, hnull, hx, rfl⟩

theorem optional_of_null (h : ∀ j, r.get? name = some j → j = .null) :
    r.optional name read = some none := by
  rw [optional]
  cases hj : r.get? name with
  | none => rfl
  | some j =>
    rw [h j hj]

theorem optional_of_read {j : Json} (hj : r.get? name = some j) (hnull : j ≠ .null)
    (hx : read j = some x) : r.optional name read = some (some x) := by
  rw [optional, hj]
  split
  · rename_i heq
    cases heq
  · rename_i heq
    exact absurd (Option.some.inj heq) hnull
  · rename_i heq
    cases heq
    rw [hx, Option.map_some]

namespace FreesAt

/-- A member that must be there is read off both records alike. -/
theorem required (h : r.FreesAt r' name) (hread : Json.Steady read)
    (hx : r.required name read = some x) : r'.required name read = some x := by
  obtain ⟨j, hj, hjx⟩ := Option.bind_eq_some_iff.1 hx
  rw [Record.required, h, hj]
  exact hread j x hjx

/-- The second record may be read in another way, if that makes no difference here. -/
theorem withDefault_of (h : r.FreesAt r' name)
    (hread : ∀ j x, r.get? name = some j → read j = some x → read' j.free = some x)
    (hx : r.withDefault name read default = some x) :
    r'.withDefault name read' default = some x := by
  rw [Record.withDefault] at hx
  rw [Record.withDefault, h]
  cases hj : r.get? name with
  | none =>
    rw [hj] at hx
    exact hx
  | some j =>
    rw [hj] at hx
    exact hread j x hj hx

/-- A member with a default is read off both records alike. -/
theorem withDefault (h : r.FreesAt r' name) (hread : Json.Steady read)
    (hx : r.withDefault name read default = some x) :
    r'.withDefault name read default = some x :=
  h.withDefault_of (fun j x _ hjx ↦ hread j x hjx) hx

/-- A member that may be missing is read off both records alike. -/
theorem optional (h : r.FreesAt r' name) (hread : Json.Steady read)
    (ho : r.optional name read = some o) : r'.optional name read = some o := by
  obtain ⟨rfl, hnull⟩ | ⟨j, x, hj, hnull, hx, rfl⟩ := optional_eq_some ho
  · refine optional_of_null fun j hj ↦ ?_
    rw [h] at hj
    obtain ⟨k, hk, rfl⟩ := Option.map_eq_some_iff.1 hj
    exact Json.free_eq_null_iff.2 (hnull k hk)
  · refine optional_of_read (j := j.free) ?_ (fun heq ↦ hnull (Json.free_eq_null_iff.1 heq))
      (hread j x hx)
    rw [h, hj, Option.map_some]

end FreesAt

end

end Record

end FormWizard
