import FormWizard.Proofs.Form.Legacy
import FormWizard.Proofs.Expr.Failure

/-!
# What two readers make of one header

A text may be a document for both readers, the one for documents and the one for older documents. If
it is, both see the same form as far as its name, its description and the names and labels of its
stages go (`Form.header_eq_of_ofText?`). They find the stages under either name, and every other
member of the header as well, except for the flag for the titles of stages: what one reader calls
`showStageNames` the other one calls `show_stage_names`, and each passes over the other name. Only
`showformStageName` is the flag for both.

So the flag is read alike if it has neither of the two names that only one reader knows
(`Form.FlagShared`). Otherwise one document can turn the titles off for one reader and leave them on
for the other (`Form.header_flag_differs`).
-/

namespace FormWizard

/-! ### Stages -/

namespace Legacy.StageHeader

variable {j : Json} {s : Stage} {h : StageHeader}

/-- Both readers find the same name and label in a stage. -/
theorem eq_of_ofJson? (hs : Stage.ofJson? j = some s) (hh : ofJson? j = some h) :
    h.name = s.name ∧ h.label = s.label := by
  obtain ⟨r, hr, hs⟩ := Option.bind_eq_some_iff.1 hs
  obtain ⟨name, hname, hs⟩ := Option.bind_eq_some_iff.1 hs
  obtain ⟨label, hlabel, hs⟩ := Option.bind_eq_some_iff.1 hs
  obtain ⟨nodes, -, hs⟩ := Option.bind_eq_some_iff.1 hs
  cases hs
  obtain ⟨r', hr', hh⟩ := Option.bind_eq_some_iff.1 hh
  obtain rfl : r = r' := Option.some.inj (hr.symm.trans hr')
  obtain ⟨name', hname', hh⟩ := Option.bind_eq_some_iff.1 hh
  obtain ⟨label', hlabel', hh⟩ := Option.bind_eq_some_iff.1 hh
  obtain ⟨parts, -, hh⟩ := Option.bind_eq_some_iff.1 hh
  cases hh
  exact ⟨Option.some.inj (hname'.symm.trans hname), Option.some.inj (hlabel'.symm.trans hlabel)⟩

/-- A stage keeps its name and its label when its parts are converted. -/
theorem exists_of_toStage (hs : h.toStage = .ok s) :
    ∃ ns, nodes h.name h.parts = .ok ns ∧ s = ⟨h.name, h.label, ns⟩ := by
  obtain ⟨ns, hns, hs⟩ := Except.bind_eq_ok hs
  exact ⟨ns, hns, (Except.ok.inj hs).symm⟩

end Legacy.StageHeader

/-- A form read from an older document is what its header is converted to. -/
theorem Form.exists_header_of_ofLegacyText {text : String} {form : Form}
    (h : ofLegacyText text = .ok form) :
    ∃ j header stages, Json.ofText? text = some j ∧ Legacy.Header.ofJson? j = some header ∧
      header.stages.mapM Legacy.StageHeader.toStage = .ok stages ∧
      form = ⟨header.name, header.description, header.showStageNames, stages⟩ := by
  rw [ofLegacyText] at h
  split at h
  · rename_i j hj
    rw [ofLegacyJson] at h
    split at h
    · rename_i header hheader
      obtain ⟨stages, hstages, h⟩ := Except.bind_eq_ok h
      exact ⟨j, header, stages, hj, hheader, hstages, (Except.ok.inj h).symm⟩
    · cases h
  · cases h

/-- The documents of stages give stages of the same names and labels to both readers. -/
theorem Legacy.headings_eq {js : List Json} {stages stages' : List Stage}
    {headers : List StageHeader} (hstages : js.mapM Stage.ofJson? = some stages)
    (hheaders : js.mapM StageHeader.ofJson? = some headers)
    (hconverted : headers.mapM StageHeader.toStage = .ok stages') :
    stages'.map (fun s ↦ (s.name, s.label)) = stages.map fun s ↦ (s.name, s.label) := by
  replace hstages := Option.forall₂_of_mapM hstages
  replace hheaders := Option.forall₂_of_mapM hheaders
  replace hconverted := Except.forall₂_of_mapM hconverted
  induction hstages generalizing headers stages' with
  | nil =>
    cases hheaders
    cases hconverted
    rfl
  | cons hs _ ih =>
    obtain _ | ⟨hh, hheaders⟩ := hheaders
    obtain _ | ⟨hc, hconverted⟩ := hconverted
    obtain ⟨hname, hlabel⟩ := StageHeader.eq_of_ofJson? hs hh
    obtain ⟨ns, -, rfl⟩ := StageHeader.exists_of_toStage hc
    rw [List.map_cons, List.map_cons, ih hheaders hconverted, hname, hlabel]

/-! ### The flag for the titles of stages -/

namespace Form

/-- The flag for the titles of stages does not go by a name that only one of the readers knows; a
member of such a name that is `null` says nothing. -/
def FlagShared : Json → Prop
  | .object ms => ∀ x ∈ ms, x.1 = "showStageNames" ∨ x.1 = "show_stage_names" → x.2 = .null
  | _ => True

section

variable {known : List Member} {name : String} {r : Record} {ms : List (String × Json)}
  (hnodup : (known.map Member.name).Nodup)
  (hm : known[2]? = some ⟨name, ["showformStageName"], true⟩)
  (hr : Record.ofJson? known (.object ms) = some r)

include hnodup hm hr

/-- Under the name that is shared the flag is found. -/
theorem get?_flag {k : Json} (hk : ("showformStageName", k) ∈ ms) : r.get? name = some k := by
  have hlength := (Record.ofObject?_eq_some_iff.1 hr).1 _ (List.mem_of_getElem? hm)
  have hfind := Record.find?_of_mem hlength hk (Record.isNameOf_iff.2 (by simp))
  have hget := Record.get?_of_ofJson? hnodup hr hm
  rw [Record.found?, hfind, Option.map_some] at hget
  exact hget

/-- Without the name that is shared the flag says something only under its own name. -/
theorem optional_flag (hshared : ∀ x ∈ ms, x.1 = name → x.2 = .null)
    (halias : ∀ x ∈ ms, x.1 ≠ "showformStageName") :
    r.optional name Json.bool? = some none := by
  refine Record.optional_of_null fun k hk ↦ ?_
  have hget : r.get? name = _ := Record.get?_of_ofJson? hnodup hr hm
  obtain ⟨x, hx, rfl⟩ := Option.map_eq_some_iff.1 (hget.symm.trans hk)
  have hmem := List.mem_of_find?_eq_some hx
  have hname := List.find?_some hx
  rw [Record.isNameOf_iff, List.mem_cons, List.mem_singleton] at hname
  obtain hname | hname := hname
  · exact hshared x hmem hname
  · exact absurd hname (halias x hmem)

end

variable {j : Json} {r r' : Record}

/-- Both readers find the same flag if it goes by no name that only one of them knows. -/
theorem optional_flag_eq (hshared : FlagShared j) (hr : Record.ofJson? members j = some r)
    (hr' : Record.ofJson? Legacy.formMembers j = some r') :
    r'.optional "show_stage_names" Json.bool? = r.optional "showStageNames" Json.bool? := by
  have hnodup : (members.map Member.name).Nodup := by decide
  have hnodup' : (Legacy.formMembers.map Member.name).Nodup := by decide
  cases j with
  | object ms =>
    by_cases halias : ∃ k, ("showformStageName", k) ∈ ms
    · obtain ⟨k, hk⟩ := halias
      rw [Record.optional, Record.optional, get?_flag hnodup rfl hr hk,
        get?_flag hnodup' rfl hr' hk]
    · have hno : ∀ x ∈ ms, x.1 ≠ "showformStageName" := by
        rintro ⟨_, k⟩ hx rfl
        exact halias ⟨k, hx⟩
      rw [optional_flag hnodup rfl hr (fun x hx hname ↦ hshared x hx (.inl hname)) hno,
        optional_flag hnodup' rfl hr' (fun x hx hname ↦ hshared x hx (.inr hname)) hno]
  | array items =>
    have hget : r.get? "showStageNames" = items[2]? :=
      Record.get?_of_ofJson? (m := ⟨"showStageNames", ["showformStageName"], true⟩) hnodup hr rfl
    have hget' : r'.get? "show_stage_names" = items[2]? :=
      Record.get?_of_ofJson? (m := ⟨"show_stage_names", ["showformStageName"], true⟩) hnodup' hr'
        rfl
    rw [Record.optional, Record.optional, hget, hget']
  | _ => cases hr

/-! ### Headers -/

/-- Under a name that both readers know they find the same. -/
theorem get?_eq (m m' : Member) (place : ℕ) (hr : Record.ofJson? members j = some r)
    (hr' : Record.ofJson? Legacy.formMembers j = some r') (hm : members[place]? = some m)
    (hm' : Legacy.formMembers[place]? = some m')
    (hfound : Record.found? m' place j = Record.found? m place j) :
    r'.get? m'.name = r.get? m.name := by
  rw [Record.get?_of_ofJson? (by decide) hr hm, Record.get?_of_ofJson? (by decide) hr' hm', hfound]

/-- If a text is a document for both readers, they see the same name, description and stages, and
the same flag for the titles of stages if it goes by no name that only one of them knows. -/
theorem header_eq_of_ofText? {text : String} {f g : Form} (hf : ofText? text = some f)
    (hg : ofLegacyText text = .ok g) :
    g.name = f.name ∧ g.description = f.description ∧ g.stages.length = f.stages.length ∧
      g.stages.map (fun s ↦ (s.name, s.label)) = f.stages.map (fun s ↦ (s.name, s.label)) ∧
      ∀ j, Json.ofText? text = some j → FlagShared j → g.showStageNames = f.showStageNames := by
  obtain ⟨j, hj, hf⟩ := Option.bind_eq_some_iff.1 hf
  obtain ⟨j', header, stages', hj', hheader, hconverted, rfl⟩ := exists_header_of_ofLegacyText hg
  obtain rfl : j = j' := Option.some.inj (hj.symm.trans hj')
  -- what the two readers find, member by member
  obtain ⟨r, hr, hf⟩ := Option.bind_eq_some_iff.1 hf
  obtain ⟨name, hname, hf⟩ := Option.bind_eq_some_iff.1 hf
  obtain ⟨description, hdescription, hf⟩ := Option.bind_eq_some_iff.1 hf
  obtain ⟨shown, hshown, hf⟩ := Option.bind_eq_some_iff.1 hf
  obtain ⟨hidden, hhidden, hf⟩ := Option.bind_eq_some_iff.1 hf
  obtain ⟨stages, hstages, hf⟩ := Option.bind_eq_some_iff.1 hf
  cases hf
  obtain ⟨r', hr', hheader⟩ := Option.bind_eq_some_iff.1 hheader
  obtain ⟨name', hname', hheader⟩ := Option.bind_eq_some_iff.1 hheader
  obtain ⟨description', hdescription', hheader⟩ := Option.bind_eq_some_iff.1 hheader
  obtain ⟨shown', hshown', hheader⟩ := Option.bind_eq_some_iff.1 hheader
  obtain ⟨hidden', hhidden', hheader⟩ := Option.bind_eq_some_iff.1 hheader
  obtain ⟨headers, hheaders, hheader⟩ := Option.bind_eq_some_iff.1 hheader
  cases hheader
  have hgetName : r'.get? "name" = r.get? "name" :=
    get?_eq ⟨"name", [], false⟩ ⟨"name", [], false⟩ 0 hr hr' rfl rfl rfl
  have hgetDescription : r'.get? "description" = r.get? "description" :=
    get?_eq ⟨"description", [], true⟩ ⟨"description", [], true⟩ 1 hr hr' rfl rfl rfl
  have hgetHidden : r'.get? "hideName" = r.get? "hideName" :=
    get?_eq ⟨"hideName", [], true⟩ ⟨"hideName", [], true⟩ 3 hr hr' rfl rfl rfl
  have hgetStages : r'.get? "stages" = r.get? "stages" :=
    get?_eq ⟨"stages", ["formGroup"], true⟩ ⟨"stages", ["formGroup"], false⟩ 4 hr hr' rfl rfl rfl
  rw [Record.required, hgetName] at hname'
  rw [Record.optional, hgetDescription] at hdescription'
  rw [Record.optional, hgetHidden] at hhidden'
  obtain ⟨k, hk, hheaders⟩ := Option.bind_eq_some_iff.1 hheaders
  rw [Record.withDefault, ← hgetStages, hk] at hstages
  have hheadings : stages'.map (fun s ↦ (s.name, s.label)) =
      stages.map fun s ↦ (s.name, s.label) := by
    cases k with
    | array items => exact Legacy.headings_eq hstages hheaders hconverted
    | _ => cases hheaders
  refine ⟨Option.some.inj (hname'.symm.trans hname),
    Option.some.inj (hdescription'.symm.trans hdescription), ?_, hheadings, fun j' hj' hshared ↦ ?_⟩
  · have hlength := congrArg List.length hheadings
    rwa [List.length_map, List.length_map] at hlength
  · obtain rfl : j = j' := Option.some.inj (hj.symm.trans hj')
    have hflag := optional_flag_eq hshared hr hr'
    obtain rfl : shown' = shown :=
      Option.some.inj (hshown'.symm.trans (hflag.trans hshown))
    obtain rfl : hidden' = hidden := Option.some.inj (hhidden'.symm.trans hhidden)
    rfl

/-- A document with a stage that holds a group, in which the titles of stages are hidden. -/
def hiddenTitlesText : String :=
  "\x7b\"name\":\"trip\",\"hideName\":true,\"showformStageName\":null,\"formGroup\":[" ++
  "\x7b\"name\":\"plan\",\"label\":\"Plan\",\"fields\":[" ++
  "\x7b\"type\":\"group\",\"name\":\"stop\",\"fields\":[\x7b\"name\":\"nights\"\x7d]\x7d]\x7d]\x7d"

/-- The document of `hiddenTitlesText`. -/
def hiddenTitles : Json :=
  .object [("name", .text "trip"), ("hideName", .bool true), ("showformStageName", .null),
    ("formGroup", .array [.object [("name", .text "plan"), ("label", .text "Plan"),
      ("fields", .array [.object [("type", .text "group"), ("name", .text "stop"),
        ("fields", .array [.object [("name", .text "nights")]])]])]])]

set_option maxRecDepth 2000 in
theorem ofText?_hiddenTitlesText : Json.ofText? hiddenTitlesText = some hiddenTitles := by
  have hlines : hiddenTitlesText.toList = _ :=
    (String.toList_append ..).trans (congrArg (· ++ _) (String.toList_append ..))
  rw [Json.ofText?, hlines]
  cbv

/-- Both readers take the document, and neither shows the title of its stage. -/
theorem header_eq_of_ofText?_hiddenTitles :
    FlagShared hiddenTitles ∧ ∃ f g, ofText? hiddenTitlesText = some f ∧
      ofLegacyText hiddenTitlesText = .ok g ∧ f.showStageNames = false ∧
      g.showStageNames = false ∧ g.name = f.name ∧
      g.stages.map (fun s ↦ (s.name, s.label)) = f.stages.map (fun s ↦ (s.name, s.label)) := by
  have hshared : FlagShared hiddenTitles := by
    simp [FlagShared, hiddenTitles]
  have hf : (ofText? hiddenTitlesText).map Form.showStageNames = some false := by
    rw [ofText?, ofText?_hiddenTitlesText]
    decide +kernel
  obtain ⟨f, hf, hhidden⟩ := Option.map_eq_some_iff.1 hf
  have hg : (ofLegacyText hiddenTitlesText).isOk := by
    rw [ofLegacyText, ofText?_hiddenTitlesText]
    decide +kernel
  obtain ⟨g, hg⟩ : ∃ g, ofLegacyText hiddenTitlesText = .ok g := by
    cases hg' : ofLegacyText hiddenTitlesText with
    | error e =>
      rw [hg'] at hg
      cases hg
    | ok g => exact ⟨g, rfl⟩
  obtain ⟨hname, -, -, hheadings, hflag⟩ := header_eq_of_ofText? hf hg
  exact ⟨hshared, f, g, hf, hg, hhidden,
    (hflag _ ofText?_hiddenTitlesText hshared).trans hhidden, hname, hheadings⟩

/-- The name `showStageNames` is nothing to the reader of older documents. -/
theorem header_flag_differs :
    ∃ f g, ofText? "\x7b\"name\":\"x\",\"showStageNames\":false,\"stages\":[]\x7d" = some f ∧
      ofLegacyText "\x7b\"name\":\"x\",\"showStageNames\":false,\"stages\":[]\x7d" = .ok g ∧
      f.showStageNames = false ∧ g.showStageNames = true := by
  have hj : Json.ofText? "\x7b\"name\":\"x\",\"showStageNames\":false,\"stages\":[]\x7d" =
      some (.object [("name", .text "x"), ("showStageNames", .bool false),
        ("stages", .array [])]) := by
    cbv
  refine ⟨⟨"x", none, false, []⟩, ⟨"x", none, true, []⟩, ?_, ?_, rfl, rfl⟩
  · rw [ofText?, hj]
    rfl
  · rw [ofLegacyText, hj]
    rfl

end Form

end FormWizard
