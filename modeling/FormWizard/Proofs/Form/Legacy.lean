import FormWizard.Proofs.Form.Rewriting

/-!
# Documents in the older shape

A form read from a document has the stages that the form read from the document in the older shape
has (`Form.ofLegacyText_of_rewriteForm`). Its parts have to be documented (`Form.Documented`), and
the members of the form itself have to be such that the older reader takes them
(`Legacy.FitsHeader`): that reader insists on the stages, and knows the flag for the titles of
stages by the name `show_stage_names`, which is nothing to the other reader. Without that it can
refuse a document of which not one part has to be rewritten
(`Form.lostInRewriting_strangeHeaders`).

Stages and the form itself are read member by member, and rewriting changes what stands under one
member of each (`Record.rewriteAt`); all other members are found as before.
-/

namespace FormWizard

/-! ### Rewriting one member of a record -/

namespace Record

/-- The document with what stands under the names of a member, or, if it is a list, at its place,
rewritten. -/
def rewriteAt (m : Member) (place : ℕ) (f : Json → Json) : Json → Json
  | .object ms => .object (ms.map fun x ↦ (x.1, if isNameOf x.1 m then f x.2 else x.2))
  | .array items => .array (items.modify place f)
  | j => j

variable {known : List Member} {m m' : Member} {place place' : ℕ} {f : Json → Json} {j : Json}

theorem filter_rewriteAt (p : String → Bool) (g : String × Json → Json)
    (ms : List (String × Json)) :
    (ms.map fun x ↦ (x.1, g x)).filter (fun x ↦ p x.1) =
      (ms.filter fun x ↦ p x.1).map fun x ↦ (x.1, g x) := by
  rw [List.filter_map]
  rfl

theorem find?_rewriteAt (p : String → Bool) (g : String × Json → Json)
    (ms : List (String × Json)) :
    (ms.map fun x ↦ (x.1, g x)).find? (fun x ↦ p x.1) =
      (ms.find? fun x ↦ p x.1).map fun x ↦ (x.1, g x) := by
  rw [List.find?_map]
  rfl

/-- What is found for the member that is rewritten is what was found, rewritten. -/
theorem found?_rewriteAt_self (m : Member) (place : ℕ) (f : Json → Json) (j : Json) :
    found? m place (rewriteAt m place f j) = (found? m place j).map f := by
  cases j with
  | object ms =>
    rw [rewriteAt, found?, found?,
      find?_rewriteAt (isNameOf · m) fun x ↦ if isNameOf x.1 m then f x.2 else x.2]
    cases hfind : ms.find? fun x ↦ isNameOf x.1 m with
    | none => rfl
    | some x =>
      have hname := List.find?_some hfind
      simp only [Option.map_some, hname, if_true]
  | array items =>
    rw [rewriteAt, found?, found?, List.getElem?_modify_eq]
    rfl
  | _ => rfl

/-- A member goes by its name and its aliases. -/
theorem isNameOf_iff {name : String} : isNameOf name m = true ↔ name ∈ m.name :: m.aliases := by
  rw [isNameOf, Bool.or_eq_true, beq_iff_eq, List.contains_iff_mem, List.mem_cons]

theorem found?_rewriteAt_of_ne (hnames : ∀ name ∈ m'.name :: m'.aliases, name ∉ m.name :: m.aliases)
    (hplace : place ≠ place') (f : Json → Json) (j : Json) :
    found? m' place' (rewriteAt m place f j) = found? m' place' j := by
  cases j with
  | object ms =>
    rw [rewriteAt, found?, found?,
      find?_rewriteAt (isNameOf · m') fun x ↦ if isNameOf x.1 m then f x.2 else x.2]
    cases hfind : ms.find? fun x ↦ isNameOf x.1 m' with
    | none => rfl
    | some x =>
      have hname := List.find?_some hfind
      have hne : ¬isNameOf x.1 m = true := fun h ↦
        hnames x.1 (isNameOf_iff.1 hname) (isNameOf_iff.1 h)
      simp only [Option.map_some, if_neg hne]
  | array items =>
    rw [rewriteAt, found?, found?, List.getElem?_modify_ne f items hplace]
  | _ => rfl

variable {known' : List Member} {r r' : Record}

/-- A record has the same for any other member. -/
theorem get?_rewriteAt_of_ne (m' : Member) (place' : ℕ) (hnodup : (known.map Member.name).Nodup)
    (hnodup' : (known'.map Member.name).Nodup) (hr : ofJson? known j = some r)
    (hr' : ofJson? known' (rewriteAt m place f j) = some r') (hm : known[place']? = some m')
    (hm' : known'[place']? = some m')
    (hnames : ∀ name ∈ m'.name :: m'.aliases, name ∉ m.name :: m.aliases)
    (hplace : place ≠ place') : r'.get? m'.name = r.get? m'.name := by
  rw [get?_of_ofJson? hnodup hr hm, get?_of_ofJson? hnodup' hr' hm',
    found?_rewriteAt_of_ne hnames hplace]

/-- Of members that are not repeated any is found. -/
theorem find?_of_mem {ms : List (String × Json)} {p : String × Json → Bool} {x : String × Json}
    (hlength : (ms.filter p).length ≤ 1) (hx : x ∈ ms) (hp : p x = true) :
    ms.find? p = some x := by
  have hmem : x ∈ ms.filter p := List.mem_filter.2 ⟨hx, hp⟩
  rw [← List.head?_filter]
  generalize ms.filter p = found at hlength hmem
  rcases found with _ | ⟨y, _ | ⟨z, rest⟩⟩
  · cases hmem
  · rw [List.mem_singleton.1 hmem]
    rfl
  · exact absurd hlength (by simp)

/-- A record stays one. -/
theorem exists_ofJson?_rewriteAt (h : ∃ r, ofJson? known j = some r) (m : Member) (place : ℕ)
    (f : Json → Json) : ∃ r, ofJson? known (rewriteAt m place f j) = some r := by
  obtain ⟨r, hr⟩ := h
  cases j with
  | object ms =>
    refine ⟨_, ofObject?_eq_some_iff.2 ⟨fun m' hm' ↦ ?_, rfl⟩⟩
    rw [filter_rewriteAt (isNameOf · m') fun x ↦ if isNameOf x.1 m then f x.2 else x.2,
      List.length_map]
    exact (ofObject?_eq_some_iff.1 hr).1 m' hm'
  | array items =>
    obtain ⟨members, hmembers, -⟩ := Option.map_eq_some_iff.1 hr
    obtain ⟨hlength, hmissing, -⟩ := ofItems?_eq_some_iff.1 hmembers
    refine ⟨_, Option.map_eq_some_iff.2 ⟨_, ofItems?_eq_some_iff.2 ⟨?_, ?_, rfl⟩, rfl⟩⟩
    · rwa [List.length_modify]
    · rwa [List.length_modify]
  | _ => cases hr

end Record

/-! ### Stages -/

/-- The parts of the stage are documented. -/
def Stage.Documented (j : Json) : Prop :=
  ∀ items, Record.found? ⟨"fields", [], true⟩ 2 j = some (.array items) →
    ∀ k ∈ items, Node.Documented k

/-- A stage in the older shape. -/
def Legacy.rewriteStage : Json → Json :=
  Record.rewriteAt ⟨"fields", [], true⟩ 2 (Json.mapItems rewriteNode)

/-- A stage in the older shape is read and converted to the stage. -/
theorem Legacy.header_rewriteStage {j : Json} {s : Stage} (hdoc : Stage.Documented j)
    (h : Stage.ofJson? j = some s) :
    ∃ header, StageHeader.ofJson? (rewriteStage j) = some header ∧ header.toStage = .ok s := by
  obtain ⟨r, hr, h⟩ := Option.bind_eq_some_iff.1 h
  obtain ⟨name, hname, h⟩ := Option.bind_eq_some_iff.1 h
  obtain ⟨label, hlabel, h⟩ := Option.bind_eq_some_iff.1 h
  obtain ⟨nodes, hnodes, h⟩ := Option.bind_eq_some_iff.1 h
  cases h
  obtain ⟨r', hr'⟩ := Record.exists_ofJson?_rewriteAt ⟨r, hr⟩ ⟨"fields", [], true⟩ 2
    (Json.mapItems rewriteNode)
  -- the rewritten stage has the same name and label, and its own parts under `fields`
  have hgetName : r'.get? "name" = r.get? "name" :=
    Record.get?_rewriteAt_of_ne ⟨"name", [], false⟩ 0 (by decide) (by decide)
      hr hr' rfl rfl (by decide) (by decide)
  have hgetLabel : r'.get? "label" = r.get? "label" :=
    Record.get?_rewriteAt_of_ne ⟨"label", [], true⟩ 1 (by decide) (by decide)
      hr hr' rfl rfl (by decide) (by decide)
  have hget : r.get? "fields" = Record.found? ⟨"fields", [], true⟩ 2 j :=
    Record.get?_of_ofJson? (m := ⟨"fields", [], true⟩) (by decide) hr rfl
  have hget' : r'.get? "fields" = (r.get? "fields").map (Json.mapItems rewriteNode) := by
    rw [hget, ← Record.found?_rewriteAt_self]
    exact Record.get?_of_ofJson? (m := ⟨"fields", [], true⟩) (by decide) hr' rfl
  have hname' : r'.required "name" Json.text? = some name := by
    rw [Record.required, hgetName]
    exact hname
  have hlabel' : r'.optional "label" Json.text? = some label := by
    rw [Record.optional, hgetLabel]
    exact hlabel
  have hparts : ∃ parts, r'.withDefault "fields"
        (Json.list? fun j ↦ if j.readable then some j.free else none) [] = some parts ∧
      Legacy.nodes name parts = .ok nodes := by
    rw [Record.withDefault] at hnodes
    rw [Record.withDefault, hget']
    cases hfields : r.get? "fields" with
    | none =>
      rw [hfields] at hnodes
      cases hnodes
      exact ⟨[], rfl, rfl⟩
    | some k =>
      rw [hfields] at hnodes
      rw [hget] at hfields
      cases k with
      | array items =>
        simp only [nodes_eq]
        refine List.exists_mapM_map (fun k hk n hn ↦ ?_) hnodes
        split at hn
        · rename_i hreadable
          have hdocumented := hdoc items hfields k hk
          refine ⟨_, if_pos (readable_rewriteNode hdocumented hreadable), ?_⟩
          exact node_rewriteNode hdocumented hn name
        · cases hn
      | _ => cases hnodes
  obtain ⟨parts, hparts, hconverted⟩ := hparts
  refine ⟨⟨name, label, parts⟩, ?_, ?_⟩
  · rw [StageHeader.ofJson?]
    refine Option.bind_eq_some_iff.2 ⟨r', hr', ?_⟩
    simp only [Option.bind_eq_bind, Option.bind_some, hname', hlabel', hparts]
  · show (do return (⟨name, label, ← Legacy.nodes name parts⟩ : Stage)) = _
    rw [hconverted]
    rfl

/-! ### Forms -/

/-- The parts of the stages of the form are documented. -/
def Form.Documented (j : Json) : Prop :=
  ∀ items, Record.found? ⟨"stages", ["formGroup"], true⟩ 4 j = some (.array items) →
    ∀ k ∈ items, Stage.Documented k

namespace Legacy

/-- A form in the older shape. -/
def rewriteForm : Json → Json :=
  Record.rewriteAt ⟨"stages", ["formGroup"], true⟩ 4 (Json.mapItems rewriteStage)

/-- The members of the form itself are such that the older reader takes them: there are stages, and
the flag by the name that only this reader knows is a truth value or `null`, and not there a second
time under its other name. -/
def FitsHeader : Json → Prop
  | .object ms =>
    (∃ x ∈ ms, x.1 = "stages" ∨ x.1 = "formGroup") ∧
      (ms.filter fun x ↦ x.1 = "show_stage_names" ∨ x.1 = "showformStageName").length ≤ 1 ∧
      ∀ x ∈ ms, x.1 = "show_stage_names" → x.2 = .null ∨ ∃ b, x.2 = .bool b
  | .array items => items.length = 5
  | _ => False

variable {j : Json} {r r' : Record}

/-- What was read as a flag that may be missing is `null` or a truth value. -/
theorem isFlag_of_optional {name : String} {o : Option Bool}
    (h : r.optional name Json.bool? = some o) {k : Json} (hk : r.get? name = some k) :
    k = .null ∨ ∃ b, k = .bool b := by
  obtain ⟨-, hnull⟩ | ⟨k', b, hk', -, hb, -⟩ := Record.optional_eq_some h
  · exact .inl (hnull k hk)
  · obtain rfl : k = k' := Option.some.inj (hk.symm.trans hk')
    cases k with
    | bool b => exact .inr ⟨b, rfl⟩
    | _ => cases hb

theorem exists_optional {name : String}
    (h : ∀ k, r.get? name = some k → k = .null ∨ ∃ b, k = .bool b) :
    ∃ o, r.optional name Json.bool? = some o := by
  cases hk : r.get? name with
  | none => exact ⟨none, Record.optional_of_null fun k hk' ↦ by rw [hk] at hk'; cases hk'⟩
  | some k =>
    obtain rfl | ⟨b, rfl⟩ := h k hk
    · exact ⟨none, Record.optional_of_null fun k hk' ↦ (Option.some.inj (hk.symm.trans hk')).symm⟩
    · exact ⟨some b, Record.optional_of_read hk Json.noConfusion rfl⟩

theorem isNameOf_flag (name : String) :
    Record.isNameOf name ⟨"show_stage_names", ["showformStageName"], true⟩ =
      decide (name = "show_stage_names" ∨ name = "showformStageName") := by
  rw [Bool.eq_iff_iff, Record.isNameOf_iff, decide_eq_true_iff, List.mem_cons, List.mem_singleton]

/-- If the header fits, the older reader finds a flag if it finds anything. -/
theorem isFlag_of_fitsHeader (hheader : FitsHeader j) (hr : Record.ofJson? Form.members j = some r)
    {o : Option Bool} (ho : r.optional "showStageNames" Json.bool? = some o) {k : Json}
    (hk : Record.found? ⟨"show_stage_names", ["showformStageName"], true⟩ 2 j = some k) :
    k = .null ∨ ∃ b, k = .bool b := by
  have hget : r.get? "showStageNames" =
      Record.found? ⟨"showStageNames", ["showformStageName"], true⟩ 2 j :=
    Record.get?_of_ofJson? (m := ⟨"showStageNames", ["showformStageName"], true⟩) (by decide) hr rfl
  cases j with
  | object ms =>
    obtain ⟨-, -, hbool⟩ := hheader
    obtain ⟨x, hx, rfl⟩ := Option.map_eq_some_iff.1 hk
    have hmem := List.mem_of_find?_eq_some hx
    have hname := List.find?_some hx
    rw [isNameOf_flag, decide_eq_true_iff] at hname
    obtain hname | hname := hname
    · exact hbool x hmem hname
    · -- this is the one that the other reader finds
      refine isFlag_of_optional ho ?_
      have hshown : Record.isNameOf x.1 ⟨"showStageNames", ["showformStageName"], true⟩ = true :=
        Record.isNameOf_iff.2 (hname ▸ by simp)
      have hlength := (Record.ofObject?_eq_some_iff.1 hr).1
        ⟨"showStageNames", ["showformStageName"], true⟩ (by simp [Form.members])
      rw [hget, Record.found?, Record.find?_of_mem hlength hmem hshown, Option.map_some]
  | array items => exact isFlag_of_optional ho (hget.trans hk)
  | _ => cases hheader

/-- If the header fits, there are stages. -/
theorem exists_stages_of_fitsHeader (hheader : FitsHeader j) :
    ∃ k, Record.found? ⟨"stages", ["formGroup"], true⟩ 4 j = some k := by
  cases j with
  | object ms =>
    obtain ⟨⟨x, hx, hname⟩, -, -⟩ := hheader
    have hsome : (ms.find? fun x ↦ Record.isNameOf x.1 ⟨"stages", ["formGroup"], true⟩).isSome := by
      refine List.find?_isSome.2 ⟨x, hx, Record.isNameOf_iff.2 ?_⟩
      rw [List.mem_cons, List.mem_singleton]
      exact hname
    obtain ⟨y, hy⟩ := Option.isSome_iff_exists.1 hsome
    exact ⟨y.2, Option.map_eq_some_iff.2 ⟨y, hy, rfl⟩⟩
  | array items =>
    have hlength : items.length = 5 := hheader
    exact ⟨items[4], List.getElem?_eq_getElem _⟩
  | _ => cases hheader

/-- If the header fits, the older reader takes the members that the other reader takes. -/
theorem exists_record_of_fitsHeader (hheader : FitsHeader j)
    (hr : Record.ofJson? Form.members j = some r) :
    ∃ r', Record.ofJson? formMembers j = some r' := by
  cases j with
  | object ms =>
    obtain ⟨-, hflag, -⟩ := hheader
    obtain ⟨hlength, -⟩ := Record.ofObject?_eq_some_iff.1 hr
    refine ⟨_, Record.ofObject?_eq_some_iff.2 ⟨fun m hm ↦ ?_, rfl⟩⟩
    -- all but the flag go by the names that they have for the other reader
    simp only [formMembers, List.mem_cons, List.not_mem_nil, or_false] at hm
    obtain rfl | rfl | rfl | rfl | rfl := hm
    · exact hlength ⟨"name", [], false⟩ (by simp [Form.members])
    · exact hlength ⟨"description", [], true⟩ (by simp [Form.members])
    · simp only [isNameOf_flag]
      exact hflag
    · exact hlength ⟨"hideName", [], true⟩ (by simp [Form.members])
    · exact hlength ⟨"stages", ["formGroup"], true⟩ (by simp [Form.members])
  | array items =>
    obtain ⟨members, hmembers, -⟩ := Option.map_eq_some_iff.1 hr
    have hlength : items.length = 5 := hheader
    refine ⟨_, Option.map_eq_some_iff.2 ⟨_, Record.ofItems?_eq_some_iff.2 ⟨?_, ?_, rfl⟩, rfl⟩⟩
    · exact hlength.le
    · rw [hlength]
      exact nofun
  | _ => cases hheader

/-- A form in the older shape is read and converted to a form with the same stages. -/
theorem ofLegacyJson_rewriteForm {form : Form} (hdoc : Form.Documented j) (hheader : FitsHeader j)
    (h : Form.ofJson? j = some form) :
    ∃ f, Form.ofLegacyJson (rewriteForm j) = .ok f ∧ f.stages = form.stages := by
  obtain ⟨r, hr, h⟩ := Option.bind_eq_some_iff.1 h
  obtain ⟨name, hname, h⟩ := Option.bind_eq_some_iff.1 h
  obtain ⟨description, hdescription, h⟩ := Option.bind_eq_some_iff.1 h
  obtain ⟨shown, hshown, h⟩ := Option.bind_eq_some_iff.1 h
  obtain ⟨hidden, hhidden, h⟩ := Option.bind_eq_some_iff.1 h
  obtain ⟨stages, hstages, h⟩ := Option.bind_eq_some_iff.1 h
  cases h
  obtain ⟨r', hr'⟩ := Record.exists_ofJson?_rewriteAt (exists_record_of_fitsHeader hheader hr)
    ⟨"stages", ["formGroup"], true⟩ 4 (Json.mapItems rewriteStage)
  -- only the stages are rewritten, but the older reader knows the flag under another name
  have hgetName : r'.get? "name" = r.get? "name" :=
    Record.get?_rewriteAt_of_ne ⟨"name", [], false⟩ 0 (by decide) (by decide)
      hr hr' rfl rfl (by decide) (by decide)
  have hgetDescription : r'.get? "description" = r.get? "description" :=
    Record.get?_rewriteAt_of_ne ⟨"description", [], true⟩ 1 (by decide)
      (by decide) hr hr' rfl rfl (by decide) (by decide)
  have hgetHidden : r'.get? "hideName" = r.get? "hideName" :=
    Record.get?_rewriteAt_of_ne ⟨"hideName", [], true⟩ 3 (by decide)
      (by decide) hr hr' rfl rfl (by decide) (by decide)
  have hgetShown : r'.get? "show_stage_names" =
      Record.found? ⟨"show_stage_names", ["showformStageName"], true⟩ 2 j := by
    have hfound : r'.get? "show_stage_names" = Record.found?
        ⟨"show_stage_names", ["showformStageName"], true⟩ 2 (rewriteForm j) :=
      Record.get?_of_ofJson? (m := ⟨"show_stage_names", ["showformStageName"], true⟩) (by decide)
        hr' rfl
    exact hfound.trans (Record.found?_rewriteAt_of_ne (by decide) (by decide) _ j)
  have hget : r.get? "stages" = Record.found? ⟨"stages", ["formGroup"], true⟩ 4 j :=
    Record.get?_of_ofJson? (m := ⟨"stages", ["formGroup"], true⟩) (by decide) hr rfl
  have hget' : r'.get? "stages" = (r.get? "stages").map (Json.mapItems rewriteStage) := by
    rw [hget, ← Record.found?_rewriteAt_self]
    exact Record.get?_of_ofJson? (m := ⟨"stages", ["formGroup"], false⟩) (by decide) hr' rfl
  have hname' : r'.required "name" Json.text? = some name := by
    rw [Record.required, hgetName]
    exact hname
  have hdescription' : r'.optional "description" Json.text? = some description := by
    rw [Record.optional, hgetDescription]
    exact hdescription
  have hhidden' : r'.optional "hideName" Json.bool? = some hidden := by
    rw [Record.optional, hgetHidden]
    exact hhidden
  obtain ⟨shown', hshown'⟩ : ∃ o, r'.optional "show_stage_names" Json.bool? = some o :=
    exists_optional fun k hk ↦ isFlag_of_fitsHeader hheader hr hshown (hgetShown.symm.trans hk)
  obtain ⟨k, hk⟩ : ∃ k, r.get? "stages" = some k := by
    rw [hget]
    exact exists_stages_of_fitsHeader hheader
  have hheaders : ∃ headers,
      r'.required "stages" (Json.list? StageHeader.ofJson?) = some headers ∧
        headers.mapM StageHeader.toStage = .ok stages := by
    rw [Record.withDefault, hk] at hstages
    rw [Record.required, hget', hk]
    cases k with
    | array items =>
      exact List.exists_mapM_map
        (fun j hj s hs ↦ header_rewriteStage (hdoc items (hget.symm.trans hk) j hj) hs) hstages
    | _ => cases hstages
  obtain ⟨headers, hheaders, hconverted⟩ := hheaders
  have hread : Header.ofJson? (rewriteForm j) =
      some ⟨name, description, Form.stageNamesShown shown' hidden, headers⟩ := by
    rw [Header.ofJson?]
    refine Option.bind_eq_some_iff.2 ⟨r', hr', ?_⟩
    simp only [Option.bind_eq_bind, Option.bind_some, hname', hdescription', hshown', hhidden',
      hheaders]
  refine ⟨⟨name, description, Form.stageNamesShown shown' hidden, stages⟩, ?_, rfl⟩
  rw [Form.ofLegacyJson, hread]
  show (do
    let stages ← headers.mapM StageHeader.toStage
    return (⟨name, description, Form.stageNamesShown shown' hidden, stages⟩ : Form)) = _
  rw [hconverted]
  rfl

end Legacy

namespace Form

/-- If the parts of a form read from a document are documented and its header fits, any text of the
document in the older shape is read, too, and the form read from it has the same stages. -/
theorem ofLegacyText_of_rewriteForm {text olderText : String} {j : Json} {form : Form}
    (hj : Json.ofText? text = some j)
    (holder : Json.ofText? olderText = some (Legacy.rewriteForm j)) (hdoc : Form.Documented j)
    (hheader : Legacy.FitsHeader j) (h : ofText? text = some form) :
    ∃ f, ofLegacyText olderText = .ok f ∧ f.stages = form.stages := by
  rw [ofText?, hj] at h
  rw [ofLegacyText, holder]
  exact Legacy.ofLegacyJson_rewriteForm hdoc hheader h

/-- A form with a block in which stand a field and a group, and a block without parts. -/
def tripText : String :=
  "\x7b\"name\":\"trip\",\"stages\":[\x7b\"name\":\"plan\",\"fields\":[" ++
  "\x7b\"type\":\"section\",\"name\":\"way\",\"fields\":[" ++
  "\x7b\"type\":\"field\",\"name\":\"mode\",\"inputType\":\"select\"\x7d," ++
  "\x7b\"type\":\"group\",\"name\":\"stop\",\"fields\":[" ++
  "\x7b\"name\":\"nights\",\"inputType\":\"number\"\x7d]\x7d]\x7d," ++
  "\x7b\"type\":\"section\",\"name\":\"notes\"\x7d]\x7d]\x7d"

/-- The same form in the older shape. -/
def olderTripText : String :=
  "\x7b\"name\":\"trip\",\"stages\":[\x7b\"name\":\"plan\",\"fields\":[" ++
  "\x7b\"name\":\"way\",\"fields\":[" ++
  "\x7b\"name\":\"mode\",\"type\":\"select\"\x7d," ++
  "\x7b\"type\":\"group\",\"name\":\"stop\",\"fields\":[" ++
  "\x7b\"name\":\"nights\",\"type\":\"number\"\x7d]\x7d]\x7d," ++
  "\x7b\"fields\":[],\"name\":\"notes\"\x7d]\x7d]\x7d"

/-- The document of `tripText`. -/
def trip : Json :=
  .object [("name", .text "trip"), ("stages", .array [.object [("name", .text "plan"),
    ("fields", .array [
      .object [("type", .text "section"), ("name", .text "way"), ("fields", .array [
        .object [("type", .text "field"), ("name", .text "mode"), ("inputType", .text "select")],
        .object [("type", .text "group"), ("name", .text "stop"), ("fields", .array [
          .object [("name", .text "nights"), ("inputType", .text "number")]])]])],
      .object [("type", .text "section"), ("name", .text "notes")]])]])]

theorem rewriteForm_trip : Legacy.rewriteForm trip =
    .object [("name", .text "trip"), ("stages", .array [.object [("name", .text "plan"),
      ("fields", .array [
        .object [("name", .text "way"), ("fields", .array [
          .object [("name", .text "mode"), ("type", .text "select")],
          .object [("type", .text "group"), ("name", .text "stop"), ("fields", .array [
            .object [("name", .text "nights"), ("type", .text "number")]])]])],
        .object [("fields", .array []), ("name", .text "notes")]])]])] := by
  rfl

theorem toList_lines {a b c d e f : List Char} :
    (String.ofList a ++ String.ofList b ++ String.ofList c ++ String.ofList d ++ String.ofList e ++
      String.ofList f).toList = a ++ b ++ c ++ d ++ e ++ f := by
  simp only [String.toList_append, String.toList_ofList]

set_option maxRecDepth 2000 in
theorem ofText?_tripText : Json.ofText? tripText = some trip := by
  rw [Json.ofText?, show tripText.toList = _ from toList_lines]
  cbv

set_option maxRecDepth 2000 in
theorem ofText?_olderTripText : Json.ofText? olderTripText = some (Legacy.rewriteForm trip) := by
  rw [Json.ofText?, show olderTripText.toList = _ from toList_lines, rewriteForm_trip]
  cbv

theorem documented_trip : Documented trip := by
  have hmode : Node.Documented (.object
      [("type", .text "field"), ("name", .text "mode"), ("inputType", .text "select")]) := by
    refine .field rfl (.object ⟨by decide, by decide⟩ ?_)
    rintro k ⟨⟩
    rfl
  have hstop : Node.Documented (.object [("type", .text "group"), ("name", .text "stop"),
      ("fields", .array [.object [("name", .text "nights"), ("inputType", .text "number")]])]) := by
    refine .group rfl ⟨by decide, by decide⟩ ?_
    rintro items ⟨⟩ j hj
    obtain rfl := List.mem_singleton.1 hj
    refine .object ⟨by decide, by decide⟩ ?_
    rintro k ⟨⟩
    rfl
  have hnotes : Node.Documented (.object [("type", .text "section"), ("name", .text "notes")]) :=
    .block rfl ⟨by decide, by decide⟩ nofun
  rintro stages ⟨⟩ stage hstage
  obtain rfl := List.mem_singleton.1 hstage
  rintro nodes ⟨⟩ node hnode
  obtain rfl | hnode := List.mem_cons.1 hnode
  · refine .block rfl ⟨by decide, by decide⟩ ?_
    rintro items ⟨⟩ j hj
    obtain rfl | hj := List.mem_cons.1 hj
    · exact hmode
    · obtain rfl := List.mem_singleton.1 hj
      exact hstop
  · obtain rfl := List.mem_singleton.1 hnode
    exact hnotes

/-- Both texts are read, and give the same stages. -/
theorem ofLegacyText_of_rewriteForm_trip :
    Json.ofText? tripText = some trip ∧
      Json.ofText? olderTripText = some (Legacy.rewriteForm trip) ∧
      Documented trip ∧ Legacy.FitsHeader trip ∧
      ∃ form, ofText? tripText = some form ∧
        ∃ f, ofLegacyText olderTripText = .ok f ∧ f.stages = form.stages := by
  have hheader : Legacy.FitsHeader trip :=
    ⟨⟨_, List.mem_cons_of_mem _ List.mem_cons_self, .inl rfl⟩, by decide, by simp⟩
  have hform : (ofText? tripText).isSome := by
    rw [ofText?, ofText?_tripText]
    decide +kernel
  obtain ⟨form, hform⟩ := Option.isSome_iff_exists.1 hform
  exact ⟨ofText?_tripText, ofText?_olderTripText, documented_trip, hheader, form, hform,
    ofLegacyText_of_rewriteForm ofText?_tripText ofText?_olderTripText documented_trip hheader
      hform⟩

/-- A form with documented parts is read from the text, and no form with its stages from a text of
the document in the older shape. -/
def LostInRewriting (text : String) : Prop :=
  ∃ olderText j form, Json.ofText? text = some j ∧
    Json.ofText? olderText = some (Legacy.rewriteForm j) ∧ Documented j ∧
    ofText? text = some form ∧ ¬∃ f, ofLegacyText olderText = .ok f ∧ f.stages = form.stages

/-- Without stages to rewrite a document is its own rewriting. -/
theorem lostInRewriting_of_rewriteForm_eq {text : String} {j : Json} {form : Form}
    (hj : Json.ofText? text = some j) (hsame : Legacy.rewriteForm j = j) (hdoc : Documented j)
    (hform : ofJson? j = some form) (holder : Legacy.Header.ofJson? j = none) :
    LostInRewriting text := by
  refine ⟨text, j, form, hj, by rw [hsame, hj], hdoc, by rw [ofText?, hj]; exact hform, ?_⟩
  have herror : ofLegacyText text = .error .unreadable := by
    rw [ofLegacyText, hj]
    show ofLegacyJson j = _
    rw [ofLegacyJson, holder]
  rintro ⟨f, hf, -⟩
  rw [herror] at hf
  cases hf

/-- The older reader takes no form without stages, none with a flag that is no truth value, and none
with the flag under both of its names. -/
theorem lostInRewriting_strangeHeaders :
    LostInRewriting "\x7b\"name\":\"x\"\x7d" ∧
      LostInRewriting "\x7b\"name\":\"x\",\"show_stage_names\":\"no\",\"stages\":[]\x7d" ∧
      LostInRewriting ("\x7b\"name\":\"x\",\"show_stage_names\":true," ++
        "\"showformStageName\":true,\"stages\":[]\x7d") := by
  refine ⟨?_, ?_, ?_⟩
  · exact lostInRewriting_of_rewriteForm_eq (j := .object [("name", .text "x")]) (by cbv) rfl
      nofun rfl rfl
  · refine lostInRewriting_of_rewriteForm_eq (j := .object [("name", .text "x"),
      ("show_stage_names", .text "no"), ("stages", .array [])]) (by cbv) rfl ?_ rfl rfl
    rintro items ⟨⟩ k ⟨⟩
  · refine lostInRewriting_of_rewriteForm_eq (j := .object [("name", .text "x"),
      ("show_stage_names", .bool true), ("showformStageName", .bool true), ("stages", .array [])])
      (by cbv) rfl ?_ rfl rfl
    rintro items ⟨⟩ k ⟨⟩

end Form

end FormWizard
