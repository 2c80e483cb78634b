import FormWizard.Form.Legacy
import FormWizard.Proofs.Form.Reading

/-!
# Parts of a stage in the older shape

`Legacy.rewriteNode` takes the document of a part of a stage to the older shape. A field loses its
type, and its kind of control is called `type` then; a group says `group`, and its fields lose their
types; a block loses its type and always has `fields`, in which everything is rewritten in turn.

What a part is then shows in its members, so it matters that there are no others: `Node.Documented`
says of a document that it has known members only, each once, at every depth. The normal form of
such a part, rewritten, is converted to what the part is (`Legacy.node_rewriteNode`). There is one
lemma for each kind of part, which looks up the members in the rewritten part
(`Legacy.field_rewriteFieldMembers`, `Legacy.group_rewriteGroupMembers`,
`Legacy.node_rewriteBlockMembers`), and blocks within blocks are an induction on `Node.Documented`.
-/

namespace FormWizard

/-- The document with each of its items rewritten, if it is a list. -/
def Json.mapItems (f : Json → Json) : Json → Json
  | .array items => .array (items.map f)
  | j => j

namespace Legacy

/-! ### The older shape -/

/-- The members of a field in the older shape. -/
def rewriteFieldMembers (ms : List (String × Json)) : List (String × Json) :=
  (without "type" ms).map fun m ↦ (if m.1 = "inputType" then "type" else m.1, m.2)

/-- A field in the older shape. -/
def rewriteField : Json → Json
  | .object ms => .object (rewriteFieldMembers ms)
  | j => j

/-- What stands under a name in a group, in the older shape. -/
def rewriteGroupMember (name : String) (j : Json) : Json :=
  if name = "type" then .text "group"
  else if name = "fields" then j.mapItems rewriteField else j

/-- The members of a group in the older shape. -/
def rewriteGroupMembers (ms : List (String × Json)) : List (String × Json) :=
  ms.map fun m ↦ (m.1, rewriteGroupMember m.1 m.2)

/-- The members of a block in the older shape, given those with the parts inside rewritten. -/
def rewriteBlockMembers (ms : List (String × Json)) : List (String × Json) :=
  if (Json.member? "fields" ms).isSome then without "type" ms
  else ("fields", .array []) :: without "type" ms

mutual

/-- A part of a stage in the older shape. -/
def rewriteNode : Json → Json
  | .object ms =>
    match (Json.member? "type" ms).bind (NodeType.ofJson? true) with
    | some .field => .object (rewriteFieldMembers ms)
    | some .group => .object (rewriteGroupMembers ms)
    | some .block => .object (rewriteBlockMembers (rewriteInside ms))
    | none => .object ms
  | j => j

/-- The members of a block with the parts inside rewritten. -/
def rewriteInside : List (String × Json) → List (String × Json)
  | [] => []
  | (name, j) :: ms =>
    (name, if name = "fields" then rewriteNodes j else j) :: rewriteInside ms

/-- A list of parts in the older shape. -/
def rewriteNodes : Json → Json
  | .array items => .array (rewriteNodeAll items)
  | j => j

/-- Each part of a list in the older shape. -/
def rewriteNodeAll : List Json → List Json
  | [] => []
  | j :: js => rewriteNode j :: rewriteNodeAll js

end

@[simp]
theorem rewriteNodeAll_eq (js : List Json) : rewriteNodeAll js = js.map rewriteNode := by
  induction js with
  | nil => rfl
  | cons j js ih => rw [rewriteNodeAll, ih, List.map_cons]

@[simp]
theorem rewriteNodes_eq (j : Json) : rewriteNodes j = j.mapItems rewriteNode := by
  cases j with
  | array items => rw [rewriteNodes, rewriteNodeAll_eq, Json.mapItems]
  | _ => rfl

/-- Only what stands under `fields` changes. -/
theorem rewriteInside_eq (ms : List (String × Json)) : rewriteInside ms =
    ms.map fun m ↦ (m.1, if m.1 = "fields" then m.2.mapItems rewriteNode else m.2) := by
  induction ms with
  | nil => rfl
  | cons m ms ih => rw [rewriteInside, ih, rewriteNodes_eq, List.map_cons]

end Legacy

/-! ### Documents with known members only -/

/-- An object has known members only, and each of them once. -/
structure Json.HasOnly (known : List String) (ms : List (String × Json)) : Prop where
  nodup : (ms.map Prod.fst).Nodup
  subset : ms.map Prod.fst ⊆ known

/-- The document of a field has known members only. Its kind of control is written in a way that
both readers of kinds take alike. -/
inductive Field.Documented : Json → Prop
  | object {ms : List (String × Json)} :
    Json.HasOnly ("type" :: Field.members.map Member.name) ms →
    (∀ k, Json.member? "inputType" ms = some k →
      InputType.ofJson? true k = InputType.ofJson? false k) →
    Field.Documented (.object ms)

/-- The document of a part of a stage, and those of the parts inside, have known members only. -/
inductive Node.Documented : Json → Prop
  | field {ms : List (String × Json)} :
    (Json.member? "type" ms).bind (NodeType.ofJson? true) = some .field →
    Field.Documented (.object ms) → Node.Documented (.object ms)
  | group {ms : List (String × Json)} :
    (Json.member? "type" ms).bind (NodeType.ofJson? true) = some .group →
    Json.HasOnly ("type" :: Group.members.map Member.name) ms →
    (∀ items, Json.member? "fields" ms = some (.array items) → ∀ j ∈ items, Field.Documented j) →
    Node.Documented (.object ms)
  | block {ms : List (String × Json)} :
    (Json.member? "type" ms).bind (NodeType.ofJson? true) = some .block →
    Json.HasOnly ("type" :: Node.blockMembers.map Member.name) ms →
    (∀ items, Json.member? "fields" ms = some (.array items) → ∀ j ∈ items, Node.Documented j) →
    Node.Documented (.object ms)

namespace Json

variable {known : List String} {ms : List (String × Json)} {name other : String}

/-- There is no member of a name that is not known. -/
theorem HasOnly.member?_eq_none (h : HasOnly known ms) (hname : name ∉ known) :
    member? name ms = none :=
  member?_eq_none_iff.2 fun hmem ↦ hname (h.subset hmem)

/-! ### Members of rewritten parts -/

/-- Nothing is left under the name, and everything under the others. -/
@[simp]
theorem member?_without (name other : String) (ms : List (String × Json)) :
    member? name (Legacy.without other ms) = if name = other then none else member? name ms := by
  induction ms with
  | nil => exact (ite_self none).symm
  | cons m ms ih =>
    obtain ⟨third, j⟩ := m
    rw [Legacy.without, List.filter_cons]
    by_cases hthird : third = other
    · subst hthird
      rw [if_neg (by simp), ← Legacy.without, ih, member?_cons]
      split <;> rfl
    · rw [if_pos (by simpa using hthird), member?_cons, ← Legacy.without, ih, member?_cons]
      by_cases hname : name = third
      · rw [if_pos hname, if_pos hname, if_neg (hname ▸ hthird)]
      · rw [if_neg hname, if_neg hname]

/-- A member is what the function makes of its name and what stood there. -/
theorem member?_map (f : String → Json → Json) (name : String) (ms : List (String × Json)) :
    member? name (ms.map fun m ↦ (m.1, f m.1 m.2)) = (member? name ms).map (f name) := by
  induction ms with
  | nil => rfl
  | cons m ms ih =>
    obtain ⟨other, j⟩ := m
    by_cases h : name = other
    · simp [h]
    · simp [h, ih]

theorem nodup_without (h : (ms.map Prod.fst).Nodup) (other : String) :
    ((Legacy.without other ms).map Prod.fst).Nodup :=
  h.sublist (List.filter_sublist.map Prod.fst)

theorem nodup_map (h : (ms.map Prod.fst).Nodup) (f : String → Json → Json) :
    ((ms.map fun m ↦ (m.1, f m.1 m.2)).map Prod.fst).Nodup := by
  rw [List.map_map]
  exact h

/-- In an object in which no name is repeated a member has the same value as in the normal form, up
to normal forms. -/
theorem member?_freeMembers_of_nodup (h : (ms.map Prod.fst).Nodup) (name : String) :
    member? name (freeMembers ms []) = (member? name ms).map free :=
  member?_freeMembers (length_filter_le_one h name)

end Json

namespace Legacy

variable {ms ms₀ : List (String × Json)} {stage : String}

/-- The kind of control stands under `type`, and everything else where it stood. -/
@[simp]
theorem member?_rewriteFieldMembers (name : String) (ms : List (String × Json)) :
    Json.member? name (rewriteFieldMembers ms) =
      if name = "inputType" then none
      else if name = "type" then Json.member? "inputType" ms else Json.member? name ms := by
  induction ms with
  | nil =>
    show none = _
    split
    · rfl
    · split <;> rfl
  | cons m ms ih =>
    obtain ⟨other, j⟩ := m
    rw [rewriteFieldMembers, without, List.filter_cons]
    by_cases htype : other = "type"
    · subst htype
      rw [if_neg (by simp), ← without, ← rewriteFieldMembers, ih, Json.member?_cons,
        Json.member?_cons]
      split
      · rfl
      · split
        · rfl
        · rfl
    · rw [if_pos (by simpa using htype), List.map_cons, ← without, ← rewriteFieldMembers,
        Json.member?_cons, ih, Json.member?_cons, Json.member?_cons]
      by_cases hother : other = "inputType"
      · subst hother
        by_cases hname : name = "type"
        · simp [hname]
        · by_cases hinput : name = "inputType" <;> simp [hname, hinput]
      · by_cases hname : name = other
        · subst hname
          simp [hother, htype]
        · simp [hname, Ne.symm hother, hother]

/-- No name is repeated, since `type` is free once the type is gone. -/
theorem nodup_rewriteFieldMembers (h : (ms.map Prod.fst).Nodup) :
    ((rewriteFieldMembers ms).map Prod.fst).Nodup := by
  have hnames : (rewriteFieldMembers ms).map Prod.fst =
      ((without "type" ms).map Prod.fst).map fun name ↦
        if name = "inputType" then "type" else name := by
    rw [rewriteFieldMembers, List.map_map, List.map_map]
    rfl
  have hne : ∀ name ∈ (without "type" ms).map Prod.fst, name ≠ "type" := by
    intro name hname
    obtain ⟨m, hm, rfl⟩ := List.mem_map.1 hname
    exact bne_iff_ne.1 (List.mem_filter.1 hm).2
  rw [hnames]
  refine (Json.nodup_without h "type").map_on fun a ha b hb heq ↦ ?_
  split at heq
  · split at heq
    · rename_i ha' hb'
      rw [ha', hb']
    · exact absurd heq.symm (hne b hb)
  · split at heq
    · exact absurd heq (hne a ha)
    · exact heq

/-- The converter finds the kind of control under `type`, and everything else where it stands. -/
theorem member?_fieldMembers (h : Json.member? "inputType" ms = none) (name : String) :
    Json.member? name (fieldMembers ms) =
      if name = "type" then none
      else if name = "inputType" then Json.member? "type" ms else Json.member? name ms := by
  rw [fieldMembers]
  cases htype : Json.member? "type" ms with
  | none =>
    show Json.member? name ms = _
    split
    · rename_i hname
      rw [hname, htype]
    · split
      · rename_i hname
        rw [hname, h]
      · rfl
  | some k =>
    by_cases hname : name = "inputType"
    · simp [h, hname]
    · simp [h, hname]

/-- What the converter makes of the members of a field has no name repeated. -/
theorem nodup_fieldMembers (h : Json.member? "inputType" ms = none)
    (hnodup : (ms.map Prod.fst).Nodup) : ((fieldMembers ms).map Prod.fst).Nodup := by
  rw [fieldMembers]
  cases htype : Json.member? "type" ms with
  | none => exact hnodup
  | some k =>
    have hrest : Json.member? "inputType" (without "type" ms) = none := by simp [h]
    simp only [hrest]
    rw [if_neg (by simp)]
    exact List.nodup_cons.2 ⟨Json.member?_eq_none_iff.1 hrest, Json.nodup_without hnodup "type"⟩

/-! ### Fields -/

/-- The known members of a field as they are read are those of the document, but for the type. -/
theorem field_rewriteFieldMembers {f : Field} (hnodup : (ms.map Prod.fst).Nodup)
    (hsame : ∀ name, name ≠ "type" → Json.member? name ms₀ = Json.member? name ms)
    (hkind : ∀ k, Json.member? "inputType" ms = some k →
      InputType.ofJson? true k = InputType.ofJson? false k)
    (h : Field.ofJson? true (.object ms₀) = some f) :
    field stage (.object (Json.freeMembers (rewriteFieldMembers ms) [])) = .ok f := by
  obtain ⟨r, hr, -⟩ := Option.bind_eq_some_iff.1 h
  have hfree : ∀ name, Json.member? name (Json.freeMembers (rewriteFieldMembers ms) []) =
      (Json.member? name (rewriteFieldMembers ms)).map Json.free :=
    Json.member?_freeMembers_of_nodup (nodup_rewriteFieldMembers hnodup)
  have hinput :
      Json.member? "inputType" (Json.freeMembers (rewriteFieldMembers ms) []) = none := by
    simp [hfree]
  have hmember : ∀ name ∈ Field.members.map Member.name,
      Json.member? name (fieldMembers (Json.freeMembers (rewriteFieldMembers ms) [])) =
        (Json.member? name ms₀).map Json.free := by
    intro name hname
    have htype : name ≠ "type" := by
      revert name
      decide
    rw [member?_fieldMembers hinput, if_neg htype, hsame name htype, hfree, hfree,
      member?_rewriteFieldMembers, member?_rewriteFieldMembers]
    by_cases hkindName : name = "inputType"
    · simp [hkindName]
    · simp [hkindName, htype]
  obtain ⟨r', hr'⟩ := Record.exists_ofObject?_of_nodup Field.members (by decide)
    (nodup_fieldMembers hinput (Json.nodup_freeMembers (rewriteFieldMembers ms)))
  have hfrees : r.Frees r' := fun name ↦
    Record.freesAt_of_member? (by decide) (by decide) hr hr' (hmember name)
  have hread : Field.ofJson? false
      (.object (fieldMembers (Json.freeMembers (rewriteFieldMembers ms) []))) = some f := by
    refine Field.ofJson?_of_frees hr hr' hfrees (fun k hk ↦ hkind k ?_) h
    have hget : r.get? "inputType" = Json.member? "inputType" ms₀ :=
      Record.get?_of_ofObject? (m := ⟨"inputType", [], true⟩) (by decide) (by decide) hr
        (by simp [Field.members])
    rw [← hsame "inputType" (by decide), ← hget, hk]
  rw [field, hread]

/-- A field on its own, in a group. -/
theorem field_rewriteField {j : Json} {f : Field} (hdoc : Field.Documented j)
    (h : Field.ofJson? true j = some f) : field stage (rewriteField j).free = .ok f := by
  cases hdoc with
  | object honly hkind =>
    exact field_rewriteFieldMembers honly.nodup (fun name _ ↦ rfl) hkind h

/-! ### Groups -/

/-- The members of a group are rewritten in place. -/
@[simp]
theorem member?_rewriteGroupMembers (name : String) (ms : List (String × Json)) :
    Json.member? name (rewriteGroupMembers ms) =
      (Json.member? name ms).map (rewriteGroupMember name) :=
  Json.member?_map rewriteGroupMember name ms

theorem nodup_rewriteGroupMembers (h : (ms.map Prod.fst).Nodup) :
    ((rewriteGroupMembers ms).map Prod.fst).Nodup := Json.nodup_map h rewriteGroupMember

/-- What is neither the type nor the fields stays as it is. -/
theorem rewriteGroupMember_of_ne {name : String} (htype : name ≠ "type")
    (hfields : name ≠ "fields") (j : Json) : rewriteGroupMember name j = j := by
  simp [rewriteGroupMember, htype, hfields]

@[simp]
theorem rewriteGroupMember_fields (items : List Json) :
    rewriteGroupMember "fields" (.array items) = .array (items.map rewriteField) := by
  simp [rewriteGroupMember, Json.mapItems]

/-- The fields of a group are converted one by one. -/
theorem children_rewriteGroupMembers {fields : List Field} (hnodup : (ms.map Prod.fst).Nodup)
    (hdoc : ∀ items, Json.member? "fields" ms = some (.array items) →
      ∀ j ∈ items, Field.Documented j)
    (h : (Json.member? "fields" ms).elim (some []) (Json.list? (Field.ofJson? true)) =
      some fields) :
    (children (Json.freeMembers (rewriteGroupMembers ms) [])).mapM (field stage) = .ok fields := by
  rw [children, Json.member?_freeMembers_of_nodup (nodup_rewriteGroupMembers hnodup),
    member?_rewriteGroupMembers]
  cases hmember : Json.member? "fields" ms with
  | none =>
    rw [hmember] at h
    cases h
    rfl
  | some j =>
    rw [hmember] at h
    cases j with
    | array items =>
      simp only [Option.map_some, rewriteGroupMember_fields, Json.free_array, List.map_map]
      exact List.mapM_map_eq_pure
        (fun j hj f hf ↦ field_rewriteField (hdoc items hmember j hj) hf) h
    | _ => cases h

/-- The header of a rewritten group, which is what is left without the type and the fields. -/
theorem header_rewriteGroupMembers {g : Group} (hnodup : (ms.map Prod.fst).Nodup)
    (h : Group.ofJson? true (.object (without "type" ms)) = some g) :
    Group.ofJson? false (.object
      (without "type" (without "fields" (Json.freeMembers (rewriteGroupMembers ms) [])))) =
        some { g with fields := [] } := by
  obtain ⟨r, hr, h⟩ := Option.bind_eq_some_iff.1 h
  obtain ⟨name, hname, h⟩ := Option.bind_eq_some_iff.1 h
  obtain ⟨label, hlabel, h⟩ := Option.bind_eq_some_iff.1 h
  obtain ⟨hiddenLabel, hhiddenLabel, h⟩ := Option.bind_eq_some_iff.1 h
  obtain ⟨isHidden, hisHidden, h⟩ := Option.bind_eq_some_iff.1 h
  obtain ⟨fields, -, h⟩ := Option.bind_eq_some_iff.1 h
  cases h
  have hmember (name : String) : Json.member? name
      (without "type" (without "fields" (Json.freeMembers (rewriteGroupMembers ms) []))) =
        if name = "type" then none
        else if name = "fields" then none
        else ((Json.member? name ms).map (rewriteGroupMember name)).map Json.free := by
    simp [Json.member?_freeMembers_of_nodup (nodup_rewriteGroupMembers hnodup)]
  obtain ⟨r', hr'⟩ := Record.exists_ofObject?_of_nodup Group.members (by decide)
    (Json.nodup_without (Json.nodup_without
      (Json.nodup_freeMembers (rewriteGroupMembers ms)) "fields") "type")
  have hfrees : ∀ name, name ≠ "type" → name ≠ "fields" → r.FreesAt r' name := by
    intro name htype hfields
    refine Record.freesAt_of_member? (by decide) (by decide) hr hr' fun _ ↦ ?_
    cases hms : Json.member? name ms with
    | none => simp [hmember, hms]
    | some j => simp [hmember, htype, hfields, hms, rewriteGroupMember_of_ne]
  have hnoFields : r'.get? "fields" = none := by
    rw [Record.get?_of_ofObject? (m := ⟨"fields", [], true⟩) (by decide) (by decide) hr'
      (by simp [Group.members]), hmember]
    rfl
  have hempty : r'.withDefault "fields" (Json.list? (Field.ofJson? false)) [] = some [] := by
    rw [Record.withDefault, hnoFields]
  refine Option.bind_eq_some_iff.2 ⟨r', hr', ?_⟩
  simp only [Option.bind_eq_bind, hempty, Option.bind_some,
    (hfrees "name" (by decide) (by decide)).required Json.steady_text? hname,
    (hfrees "label" (by decide) (by decide)).optional Json.steady_text? hlabel,
    (hfrees "hiddenLabel" (by decide) (by decide)).withDefault Json.steady_bool? hhiddenLabel,
    (hfrees "isHidden" (by decide) (by decide)).withDefault Json.steady_bool? hisHidden]

/-- The fields of a group are those of its member `fields`, none if there is no such member. -/
theorem fields_of_ofJson? {g : Group}
    (h : Group.ofJson? true (.object (without "type" ms)) = some g) :
    (Json.member? "fields" ms).elim (some []) (Json.list? (Field.ofJson? true)) =
      some g.fields := by
  obtain ⟨r, hr, h⟩ := Option.bind_eq_some_iff.1 h
  obtain ⟨name, -, h⟩ := Option.bind_eq_some_iff.1 h
  obtain ⟨label, -, h⟩ := Option.bind_eq_some_iff.1 h
  obtain ⟨hiddenLabel, -, h⟩ := Option.bind_eq_some_iff.1 h
  obtain ⟨isHidden, -, h⟩ := Option.bind_eq_some_iff.1 h
  obtain ⟨fields, hfields, h⟩ := Option.bind_eq_some_iff.1 h
  cases h
  have hget : r.get? "fields" = Json.member? "fields" ms := by
    rw [Record.get?_of_ofObject? (m := ⟨"fields", [], true⟩) (by decide) (by decide) hr
      (by simp [Group.members])]
    simp
  rw [Record.withDefault, hget] at hfields
  cases hmember : Json.member? "fields" ms with
  | none =>
    rw [hmember] at hfields
    exact hfields
  | some j =>
    rw [hmember] at hfields
    exact hfields

/-- A group is converted if its fields are. -/
theorem group_rewriteGroupMembers {g : Group} (hnodup : (ms.map Prod.fst).Nodup)
    (hdoc : ∀ items, Json.member? "fields" ms = some (.array items) →
      ∀ j ∈ items, Field.Documented j)
    (h : Group.ofJson? true (.object (without "type" ms)) = some g) :
    group stage (Json.freeMembers (rewriteGroupMembers ms) []) = .ok g := by
  have hheader := header_rewriteGroupMembers hnodup h
  have hchildren : (children (Json.freeMembers (rewriteGroupMembers ms) [])).mapM (field stage) =
      .ok g.fields := children_rewriteGroupMembers hnodup hdoc (fields_of_ofJson? h)
  rw [group]
  simp only [hheader, hchildren]
  rfl

/-! ### Blocks -/

/-- The parts inside a block are those of its member `fields`. -/
theorem insideObject_eq (ms : List (String × Json)) :
    Node.insideObject ms = (Json.member? "fields" ms).elim (some []) Node.inside :=
  Json.walk_eq_elim_member? (fun _ _ _ ↦ by rw [Node.insideObject]) ms

@[simp]
theorem insideAll_eq (js : List Json) : Node.insideAll js = js.mapM (Node.ofJson? true) := by
  induction js with
  | nil => rfl
  | cons j js ih =>
    rw [Node.insideAll, ih, List.mapM_cons]
    rfl

/-- The converter takes the parts inside a block from its member `fields`. -/
theorem nodesOf_eq (stage : String) (ms : List (String × Json)) :
    nodesOf stage ms = (Json.member? "fields" ms).elim (.ok []) (nodesIn stage) :=
  Json.walk_eq_elim_member? (fun _ _ _ ↦ by rw [nodesOf]) ms

@[simp]
theorem nodes_eq (stage : String) (js : List Json) : nodes stage js = js.mapM (node stage) := by
  induction js with
  | nil => rfl
  | cons j js ih => rw [nodes, ih, List.mapM_cons]

/-- The parts inside a block are rewritten in place. -/
@[simp]
theorem member?_rewriteInside (name : String) (ms : List (String × Json)) :
    Json.member? name (rewriteInside ms) = (Json.member? name ms).map fun j ↦
      if name = "fields" then j.mapItems rewriteNode else j := by
  rw [rewriteInside_eq]
  exact Json.member?_map (fun name j ↦ if name = "fields" then j.mapItems rewriteNode else j)
    name ms

theorem nodup_rewriteInside (h : (ms.map Prod.fst).Nodup) :
    ((rewriteInside ms).map Prod.fst).Nodup := by
  rw [rewriteInside_eq]
  exact Json.nodup_map h fun name j ↦ if name = "fields" then j.mapItems rewriteNode else j

/-- A block has fields but no type, and everything else where it stood. -/
@[simp]
theorem member?_rewriteBlockMembers (name : String) (ms : List (String × Json)) :
    Json.member? name (rewriteBlockMembers ms) =
      if name = "type" then none
      else if name = "fields" then some ((Json.member? "fields" ms).getD (.array []))
      else Json.member? name ms := by
  rw [rewriteBlockMembers]
  cases hfields : Json.member? "fields" ms with
  | none =>
    by_cases hname : name = "fields"
    · simp [hname]
    · simp [hname]
  | some j =>
    by_cases hname : name = "fields"
    · simp [hname, hfields]
    · simp [hname]

/-- No name is repeated, since `fields` is added only where there is none. -/
theorem nodup_rewriteBlockMembers (h : (ms.map Prod.fst).Nodup) :
    ((rewriteBlockMembers ms).map Prod.fst).Nodup := by
  rw [rewriteBlockMembers]
  split
  · exact Json.nodup_without h "type"
  · rename_i hfields
    refine List.nodup_cons.2 ⟨Json.member?_eq_none_iff.1 ?_, Json.nodup_without h "type"⟩
    simpa using hfields

/-- What the converter finds under a name in a rewritten block. -/
theorem member?_freeMembers_rewriteBlockMembers (h : (ms.map Prod.fst).Nodup) (name : String) :
    Json.member? name (Json.freeMembers (rewriteBlockMembers (rewriteInside ms)) []) =
      if name = "type" then none
      else if name = "fields" then
        some (((Json.member? "fields" ms).map (Json.mapItems rewriteNode)).getD (.array [])).free
      else (Json.member? name ms).map Json.free := by
  rw [Json.member?_freeMembers_of_nodup (nodup_rewriteBlockMembers (nodup_rewriteInside h))]
  by_cases htype : name = "type"
  · simp [htype]
  by_cases hfields : name = "fields"
  · simp [hfields]
  · simp [htype, hfields]

/-- The parts inside a rewritten block are converted one by one. -/
theorem nodesOf_rewriteBlockMembers {nodes : List Node} (hnodup : (ms.map Prod.fst).Nodup)
    (hinside : ∀ items, Json.member? "fields" ms = some (.array items) → ∀ j ∈ items, ∀ n,
      Node.ofJson? true j = some n → node stage (rewriteNode j).free = .ok n)
    (h : Node.insideObject ms = some nodes) :
    nodesOf stage (Json.freeMembers (rewriteBlockMembers (rewriteInside ms)) []) = .ok nodes := by
  rw [nodesOf_eq, member?_freeMembers_rewriteBlockMembers hnodup]
  rw [insideObject_eq] at h
  cases hmembers : Json.member? "fields" ms with
  | none =>
    rw [hmembers] at h
    cases h
    rfl
  | some j =>
    rw [hmembers] at h
    cases j with
    | array items =>
      have hitems : items.mapM (Node.ofJson? true) = some nodes := by
        rw [← insideAll_eq]
        exact h
      show nodesIn stage (Json.array (items.map rewriteNode)).free = .ok nodes
      simp only [Json.free_array, nodesIn, nodes_eq, List.map_map]
      exact List.mapM_map_eq_pure (hinside items hmembers) hitems
    | _ => cases h

/-- A block is converted if the parts inside are. -/
theorem node_rewriteBlockMembers {n : Node}
    (honly : Json.HasOnly ("type" :: Node.blockMembers.map Member.name) ms)
    (hinside : ∀ items, Json.member? "fields" ms = some (.array items) → ∀ j ∈ items, ∀ n,
      Node.ofJson? true j = some n → node stage (rewriteNode j).free = .ok n)
    (h : Node.ofType? .block (.object (without "type" ms)) (Node.insideObject ms) = some n) :
    node stage (.object (Json.freeMembers (rewriteBlockMembers (rewriteInside ms)) [])) =
      .ok n := by
  obtain ⟨r, hr, h⟩ := Option.bind_eq_some_iff.1 h
  obtain ⟨name, hname, h⟩ := Option.bind_eq_some_iff.1 h
  obtain ⟨label, hlabel, h⟩ := Option.bind_eq_some_iff.1 h
  obtain ⟨nodes, hnodes, h⟩ := Option.bind_eq_some_iff.1 h
  cases h
  have hget : ∀ m ∈ Node.blockMembers, r.get? m.name = Json.member? m.name ms := by
    intro m hm
    have htype : m.name ≠ "type" := by
      revert m
      decide
    rw [Record.get?_of_ofObject? (by decide) (by decide) hr hm]
    simp [htype]
  have hnodesOf := nodesOf_rewriteBlockMembers honly.nodup hinside hnodes
  have hmember := member?_freeMembers_rewriteBlockMembers honly.nodup
  generalize Json.freeMembers (rewriteBlockMembers (rewriteInside ms)) [] = bs at *
  have hblock : isBlock bs = true := by
    simp [isBlock, type?, hmember]
  have hnodeName : nodeName bs = name := by
    obtain ⟨j, hj, htext⟩ := Option.bind_eq_some_iff.1 hname
    have hj : r.get? "name" = some j := hj
    rw [hget ⟨"name", [], false⟩ (by simp [Node.blockMembers])] at hj
    simp [nodeName, hmember, hj, Json.steady_text? j name htext]
  have hblockLabel : (Json.member? "label" bs).bind Json.text? = label := by
    rw [hmember "label"]
    simp only [String.reduceEq, if_false]
    rw [← hget ⟨"label", [], true⟩ (by simp [Node.blockMembers])]
    obtain ⟨rfl, hnull⟩ | ⟨j, x, hj, -, hx, rfl⟩ := Record.optional_eq_some hlabel
    · cases hj : r.get? "label" with
      | none => rfl
      | some j =>
        rw [hnull j hj]
        rfl
    · rw [hj, Option.map_some, Option.bind_some, Json.steady_text? j x hx]
  rw [node, if_pos hblock, hnodesOf, hblockLabel, hnodeName]
  rfl

/-! ### Parts of any kind -/

/-- The types that are read in a list of stages are read inside other parts, too. -/
theorem ofJson?_true_of_ofJson? {nested : Bool} {j : Json} {type : NodeType}
    (h : NodeType.ofJson? nested j = some type) : NodeType.ofJson? true j = some type := by
  cases nested with
  | true => exact h
  | false =>
    unfold NodeType.ofJson? at h
    split at h
    · exact h
    · exact h
    · exact h
    all_goals cases h

/-- A part has the type that it names. -/
theorem ofType?_of_ofJson? {nested : Bool} {type : NodeType} {n : Node}
    (h : Node.ofJson? nested (.object ms) = some n)
    (htype : (Json.member? "type" ms).bind (NodeType.ofJson? true) = some type) :
    Node.ofType? type (.object (without "type" ms)) (Node.insideObject ms) = some n := by
  rw [Node.ofJson?] at h
  split at h
  · rename_i name j hfilter
    obtain ⟨type', htype', h⟩ := Option.bind_eq_some_iff.1 h
    rw [Json.member?_eq_find?, ← List.head?_filter, hfilter] at htype
    have heq : type' = type := Option.some.inj ((ofJson?_true_of_ofJson? htype').symm.trans htype)
    rw [← heq]
    exact h
  · cases h

/-- No kind of control is called `group`. -/
theorem ne_group_of_ofJson? {f : Field}
    (h : Field.ofJson? true (.object (without "type" ms)) = some f) {j : Json}
    (hj : Json.member? "inputType" ms = some j) : j ≠ .text "group" := by
  rintro rfl
  obtain ⟨r, hr, h⟩ := Option.bind_eq_some_iff.1 h
  obtain ⟨name, -, h⟩ := Option.bind_eq_some_iff.1 h
  obtain ⟨kind, hkind, -⟩ := Option.bind_eq_some_iff.1 h
  have hget : r.get? "inputType" = some (.text "group") := by
    rw [Record.get?_of_ofObject? (m := ⟨"inputType", [], true⟩) (by decide) (by decide) hr
      (by simp [Field.members])]
    simp [hj]
  have hread : InputType.ofJson? true (.text "group") = some kind := by
    rw [Record.withDefault, hget] at hkind
    exact hkind
  cases hread

/-- A field in the older shape is neither taken for a block nor for a group. -/
theorem node_rewriteFieldMembers {f : Field} (hdoc : Field.Documented (.object ms))
    (h : Field.ofJson? true (.object (without "type" ms)) = some f) :
    node stage (.object (Json.freeMembers (rewriteFieldMembers ms) [])) = .ok (.field f) := by
  obtain ⟨honly, hkind⟩ := hdoc
  have hfield : field stage (.object (Json.freeMembers (rewriteFieldMembers ms) [])) = .ok f :=
    field_rewriteFieldMembers honly.nodup
      (fun name hname ↦ by simp [hname]) hkind h
  have hmember (name : String) : Json.member? name (Json.freeMembers (rewriteFieldMembers ms) []) =
      (if name = "inputType" then none
        else if name = "type" then Json.member? "inputType" ms
        else Json.member? name ms).map Json.free := by
    rw [Json.member?_freeMembers_of_nodup (nodup_rewriteFieldMembers honly.nodup),
      member?_rewriteFieldMembers]
  have hnone : ∀ name, name ∉ "type" :: Field.members.map Member.name →
      Json.member? name (Json.freeMembers (rewriteFieldMembers ms) []) = none := by
    intro name hname
    have htype : name ≠ "type" := fun heq ↦ hname (heq ▸ List.mem_cons_self)
    simp [hmember, htype, honly.member?_eq_none hname]
  have hblock : isBlock (Json.freeMembers (rewriteFieldMembers ms) []) = false := by
    rw [isBlock, flag, hnone "isSection" (by decide), hnone "fields" (by decide)]
    rfl
  have hgroup : isGroup (Json.freeMembers (rewriteFieldMembers ms) []) = false := by
    rw [isGroup, flag, hnone "isGroup" (by decide), type?, hmember]
    cases hj : Json.member? "inputType" ms with
    | none => rfl
    | some j =>
      have hne := ne_group_of_ofJson? h hj
      cases j with
      | text s => simpa [Json.free, Json.text?] using hne
      | _ => rfl
  rw [node, if_neg (by simp [hblock]), if_neg (by simp [hgroup]), hfield]
  rfl

/-- A group in the older shape is not taken for a block, since its type is a text. -/
theorem node_rewriteGroupMembers {g : Group}
    (htype : (Json.member? "type" ms).bind (NodeType.ofJson? true) = some .group)
    (honly : Json.HasOnly ("type" :: Group.members.map Member.name) ms)
    (hdoc : ∀ items, Json.member? "fields" ms = some (.array items) →
      ∀ j ∈ items, Field.Documented j)
    (h : Group.ofJson? true (.object (without "type" ms)) = some g) :
    node stage (.object (Json.freeMembers (rewriteGroupMembers ms) [])) = .ok (.group g) := by
  have hgroup : group stage (Json.freeMembers (rewriteGroupMembers ms) []) = .ok g :=
    group_rewriteGroupMembers honly.nodup hdoc h
  have hmember (name : String) : Json.member? name (Json.freeMembers (rewriteGroupMembers ms) []) =
      ((Json.member? name ms).map (rewriteGroupMember name)).map Json.free := by
    rw [Json.member?_freeMembers_of_nodup (nodup_rewriteGroupMembers honly.nodup),
      member?_rewriteGroupMembers]
  have htext : type? (Json.freeMembers (rewriteGroupMembers ms) []) = some "group" := by
    obtain ⟨j, hj, -⟩ := Option.bind_eq_some_iff.1 htype
    rw [type?, hmember, hj]
    rfl
  have hblock : isBlock (Json.freeMembers (rewriteGroupMembers ms) []) = false := by
    rw [isBlock, flag, hmember, honly.member?_eq_none (by decide), htext]
    simp
  have hisGroup : isGroup (Json.freeMembers (rewriteGroupMembers ms) []) = true := by
    rw [isGroup, htext]
    simp
  rw [node, if_neg (by simp [hblock]), if_pos hisGroup, hgroup]
  rfl

/-- The normal form of a part in the older shape is converted to what the part is. -/
theorem node_rewriteNode {j : Json} (hdoc : Node.Documented j) {nested : Bool} {n : Node}
    (h : Node.ofJson? nested j = some n) (stage : String) :
    node stage (rewriteNode j).free = .ok n := by
  induction hdoc generalizing nested n with
  | field htype hdoc =>
    obtain ⟨f, hf, rfl⟩ := Option.map_eq_some_iff.1 (ofType?_of_ofJson? h htype)
    rw [rewriteNode, htype]
    exact node_rewriteFieldMembers hdoc hf
  | group htype honly hfields =>
    obtain ⟨g, hg, rfl⟩ := Option.map_eq_some_iff.1 (ofType?_of_ofJson? h htype)
    rw [rewriteNode, htype]
    exact node_rewriteGroupMembers htype honly hfields hg
  | block htype honly _ ih =>
    rw [rewriteNode, htype]
    exact node_rewriteBlockMembers honly
      (fun items hitems j hj n hn ↦ ih items hitems j hj hn) (ofType?_of_ofJson? h htype)

/-! ### Parts that are readable -/

theorem allReadable_iff (js : List Json) :
    Json.allReadable js = true ↔ ∀ j ∈ js, j.readable = true := by
  induction js with
  | nil => simp [Json.allReadable]
  | cons j js ih => rw [Json.allReadable, Bool.and_eq_true, ih, List.forall_mem_cons]

theorem membersReadable_iff (ms : List (String × Json)) :
    Json.membersReadable ms = true ↔ ∀ m ∈ ms, m.2.readable = true := by
  induction ms with
  | nil => simp [Json.membersReadable]
  | cons m ms ih => rw [Json.membersReadable, Bool.and_eq_true, ih, List.forall_mem_cons]

/-- Rewriting the items of a list leaves it readable if it leaves each of them so. -/
theorem readable_mapItems {f : Json → Json} {j : Json} (h : j.readable = true)
    (hf : ∀ items, j = .array items → ∀ k ∈ items, k.readable = true → (f k).readable = true) :
    (j.mapItems f).readable = true := by
  cases j with
  | array items =>
    have hitems := (allReadable_iff items).1 h
    refine (allReadable_iff _).2 fun k' hk' ↦ ?_
    obtain ⟨k, hk, rfl⟩ := List.mem_map.1 hk'
    exact hf items rfl k hk (hitems k hk)
  | _ => exact h

/-- Rewriting a field leaves it readable. -/
theorem readable_rewriteField {j : Json} (h : j.readable = true) :
    (rewriteField j).readable = true := by
  cases j with
  | object ms =>
    have hms := (membersReadable_iff ms).1 h
    refine (membersReadable_iff _).2 fun m' hm' ↦ ?_
    obtain ⟨m, hm, rfl⟩ := List.mem_map.1 hm'
    exact hms m (List.mem_of_mem_filter hm)
  | _ => exact h

/-- Rewriting a part leaves it readable. -/
theorem readable_rewriteNode {j : Json} (hdoc : Node.Documented j) (h : j.readable = true) :
    (rewriteNode j).readable = true := by
  induction hdoc with
  | field htype _ =>
    rw [rewriteNode, htype]
    exact readable_rewriteField h
  | @group ms htype honly _ =>
    have hms := (membersReadable_iff ms).1 h
    rw [rewriteNode, htype]
    refine (membersReadable_iff _).2 fun m' hm' ↦ ?_
    obtain ⟨m, hm, rfl⟩ := List.mem_map.1 hm'
    show (rewriteGroupMember m.1 m.2).readable = true
    rw [rewriteGroupMember]
    split
    · rfl
    · split
      · exact readable_mapItems (hms m hm) fun _ _ k _ hk ↦ readable_rewriteField hk
      · exact hms m hm
  | @block ms htype honly _ ih =>
    have hms := (membersReadable_iff ms).1 h
    have hinside : ∀ m ∈ rewriteInside ms, m.2.readable = true := by
      rw [rewriteInside_eq]
      intro m' hm'
      obtain ⟨m, hm, rfl⟩ := List.mem_map.1 hm'
      show (if m.1 = "fields" then m.2.mapItems rewriteNode else m.2).readable = true
      split
      · rename_i hname
        refine readable_mapItems (hms m hm) fun items hitems k hk hreadable ↦ ?_
        have hmember := Json.member?_of_mem honly.nodup hm
        rw [hname, hitems] at hmember
        exact ih items hmember k hk hreadable
      · exact hms m hm
    rw [rewriteNode, htype]
    refine (membersReadable_iff _).2 fun m hm ↦ ?_
    rw [rewriteBlockMembers] at hm
    split at hm
    · exact hinside m (List.mem_of_mem_filter hm)
    · obtain rfl | hm := List.mem_cons.1 hm
      · rfl
      · exact hinside m (List.mem_of_mem_filter hm)

end Legacy

end FormWizard
