import FormWizard.Form.Document
import FormWizard.Proofs.Json.Normal

/-!
# Reading fields off normal forms

The readers of everything that a field is made of are steady: of values, of validation rules
(`ValidationRule.steady_ofJson?`) and of options (`Options.steady_ofJson?`), for which the lists by
key end up in a map anyway. So a field is read alike off two documents if one of them has the
members of the other up to normal forms (`Field.ofJson?_of_frees`). Only its kind of control may be
written in a way that one reader takes and another one does not.
-/

namespace FormWizard

/-- Values are scalars, and these are normal forms. -/
theorem Value.steady_ofJson? : Json.Steady Value.ofJson? := by
  intro j v h
  cases j with
  | array items => cases h
  | object members => cases h
  | unreadable => cases h
  | _ => exact h

/-! ### Options -/

namespace Options

variable {members : List (String × Json)} {lists : List (String × List String)} {key : String}

/-- The list of a member by its key. -/
def list? (member : String × Json) : Option (String × List String) :=
  (member.2.list? Json.text?).map fun options ↦ (member.1, options)

/-- The last of the lists of a key counts. -/
theorem getElem?_foldl_insert (h : members.mapM list? = some lists) (key : String)
    (m : Std.ExtTreeMap String (List String) compare) :
    (lists.foldl (fun m (key, options) ↦ m.insert key options) m)[key]? =
      ((Json.member? key members.reverse).bind (Json.list? Json.text?)).or m[key]? := by
  induction members generalizing lists m with
  | nil =>
    cases h
    rfl
  | cons member members ih =>
    obtain ⟨name, j⟩ := member
    rw [List.mapM_cons] at h
    obtain ⟨x, hx, h⟩ := Option.bind_eq_some_iff.1 h
    obtain ⟨options, hoptions, rfl⟩ := Option.map_eq_some_iff.1 hx
    obtain ⟨rest, hrest, h⟩ := Option.bind_eq_some_iff.1 h
    cases h
    rw [List.foldl_cons, ih hrest, List.reverse_cons, Json.member?_append,
      Std.ExtTreeMap.getElem?_insert]
    cases hmember : Json.member? key members.reverse with
    | none =>
      by_cases hkey : key = name
      · subst hkey
        have hread : j.list? Json.text? = some options := hoptions
        simp [hread]
      · simp [hkey, Ne.symm hkey]
    | some k =>
      have hk := Json.mem_of_member?_eq_some hmember
      obtain ⟨x, -, hx⟩ :=
        (Option.forall₂_of_mapM hrest).exists_of_mem_left (List.mem_reverse.1 hk)
      obtain ⟨options', hoptions', -⟩ := Option.map_eq_some_iff.1 hx
      have hk : k.list? Json.text? = some options' := hoptions'
      simp [hk]

/-- Options by the value of another field are lists under the keys, and the last list of a key
counts. -/
theorem steady_ofJson? : Json.Steady ofJson? := by
  intro j options h
  cases j with
  | array items =>
    obtain ⟨texts, htexts, rfl⟩ := Option.map_eq_some_iff.1 h
    have hfree : (items.map Json.free).mapM Json.text? = some texts :=
      List.mapM_map_eq_pure (fun j _ x hx ↦ Json.steady_text? j x hx) htexts
    rw [Json.free_array, ofJson?, hfree]
    rfl
  | object members =>
    rw [ofJson?] at h
    obtain ⟨lists, hlists, h⟩ := Option.bind_eq_some_iff.1 h
    cases h
    -- each member of the normal form is one of the document
    have hread : ∀ m ∈ Json.freeMembers members [], ∃ x, list? m = some x := by
      rintro ⟨key, k⟩ hm
      have hk := Json.member?_of_mem (Json.nodup_freeMembers members) hm
      rw [Json.member?_freeMembers_placed, Json.member?_nil, Option.or_none] at hk
      obtain ⟨k', hk', rfl⟩ := Option.map_eq_some_iff.1 hk
      obtain ⟨x, -, hx⟩ := (Option.forall₂_of_mapM hlists).exists_of_mem_left
        (List.mem_reverse.1 (Json.mem_of_member?_eq_some hk'))
      obtain ⟨options, hoptions, -⟩ := Option.map_eq_some_iff.1 hx
      exact ⟨(key, options), Option.map_eq_some_iff.2
        ⟨options, Json.steady_text?.list? _ _ hoptions, rfl⟩⟩
    obtain ⟨lists', hlists'⟩ := List.exists_mapM_eq_some hread
    have hsame : lists'.foldl (fun m (key, options) ↦ m.insert key options) ∅ =
        (lists.foldl (fun m (key, options) ↦ m.insert key options) ∅ :
          Std.ExtTreeMap String (List String) compare) := by
      refine Std.ExtTreeMap.ext_getElem? fun key ↦ ?_
      rw [getElem?_foldl_insert hlists', getElem?_foldl_insert hlists,
        Json.member?_reverse (Json.length_filter_le_one (Json.nodup_freeMembers members) key),
        Json.member?_freeMembers_placed, Json.member?_nil, Option.or_none]
      congr 1
      cases hmember : Json.member? key members.reverse with
      | none => rfl
      | some k =>
        obtain ⟨x, -, hx⟩ := (Option.forall₂_of_mapM hlists).exists_of_mem_left
          (List.mem_reverse.1 (Json.mem_of_member?_eq_some hmember))
        obtain ⟨options, hoptions, -⟩ := Option.map_eq_some_iff.1 hx
        have hk : k.list? Json.text? = some options := hoptions
        rw [Option.map_some, Option.bind_some, Option.bind_some, hk,
          Json.steady_text?.list? _ _ hk]
    rw [Json.free, ofJson?]
    refine Option.bind_eq_some_iff.2 ⟨lists', hlists', ?_⟩
    rw [hsame]
  | _ => cases h

end Options

/-! ### Validation rules and fields -/

/-- Rules are read off normal forms as they are. -/
theorem ValidationRule.steady_ofJson? : Json.Steady ValidationRule.ofJson? := by
  intro j rule h
  obtain ⟨r, hr, h⟩ := Option.bind_eq_some_iff.1 h
  obtain ⟨r', hr', hfrees⟩ := Record.exists_frees (by decide) (by decide) hr
  refine Option.bind_eq_some_iff.2 ⟨r', hr', ?_⟩
  refine Option.bind_eq_some_of h
    (fun _ ↦ (hfrees "type").required Json.steady_text?) fun kind h ↦ ?_
  refine Option.bind_eq_some_of h
    (fun _ ↦ (hfrees "regex").optional Json.steady_text?) fun regex h ↦ ?_
  refine Option.bind_eq_some_of h
    (fun _ ↦ (hfrees "function").optional Json.steady_text?) fun body h ↦ ?_
  refine Option.bind_eq_some_of h
    (fun _ ↦ (hfrees "message").withDefault Json.steady_text?) ?_
  exact fun message h ↦ h

/-- Kinds of controls are read off normal forms as they are. -/
theorem InputType.ofJson?_free {allowEmptyObject : Bool} {j : Json} {t : InputType}
    (h : ofJson? allowEmptyObject j = some t) : ofJson? allowEmptyObject j.free = some t := by
  unfold ofJson? at h
  split at h
  · exact h
  · exact h
  · exact h
  · cases h

namespace Field

variable {r r' : Record} {j j' : Json} {f : Field} {allow allow' : Bool}

/-- A field is read alike off documents with the same members up to normal forms. -/
theorem ofJson?_of_frees (hr : Record.ofJson? members j = some r)
    (hr' : Record.ofJson? members j' = some r') (hfrees : r.Frees r')
    (hkind : ∀ k, r.get? "inputType" = some k →
      InputType.ofJson? allow k = InputType.ofJson? allow' k)
    (h : ofJson? allow j = some f) : ofJson? allow' j' = some f := by
  have hinput : ∀ k t, r.get? "inputType" = some k → InputType.ofJson? allow k = some t →
      InputType.ofJson? allow' k.free = some t := fun k t hk ht ↦
    InputType.ofJson?_free ((hkind k hk).symm.trans ht)
  have hname (name : String) (x : String) : r.required name Json.text? = some x →
      r'.required name Json.text? = some x := (hfrees name).required Json.steady_text?
  have htext (name : String) (o : Option String) : r.optional name Json.text? = some o →
      r'.optional name Json.text? = some o := (hfrees name).optional Json.steady_text?
  have hflag (name : String) (b : Bool) : r.withDefault name Json.bool? false = some b →
      r'.withDefault name Json.bool? false = some b := (hfrees name).withDefault Json.steady_bool?
  have hcount (name : String) (o : Option ℕ) : r.optional name Json.count? = some o →
      r'.optional name Json.count? = some o := (hfrees name).optional Json.steady_count?
  have hnumber (name : String) (o : Option Float) : r.optional name Json.number? = some o →
      r'.optional name Json.number? = some o := (hfrees name).optional Json.steady_number?
  obtain ⟨r₀, hr₀, h⟩ := Option.bind_eq_some_iff.1 h
  obtain rfl : r₀ = r := Option.some.inj (hr₀.symm.trans hr)
  refine Option.bind_eq_some_iff.2 ⟨r', hr', ?_⟩
  refine Option.bind_eq_some_of h (hname "name") fun name h ↦ ?_
  refine Option.bind_eq_some_of h
    (fun _ ↦ (hfrees "inputType").withDefault_of hinput) fun kind h ↦ ?_
  refine Option.bind_eq_some_of h (htext "label") fun label h ↦ ?_
  refine Option.bind_eq_some_of h (hflag "hiddenLabel") fun hiddenLabel h ↦ ?_
  refine Option.bind_eq_some_of h (htext "placeholder") fun placeholder h ↦ ?_
  refine Option.bind_eq_some_of h
    (fun _ ↦ (hfrees _).optional Value.steady_ofJson?) fun value h ↦ ?_
  refine Option.bind_eq_some_of h (hcount "minLength") fun minLength h ↦ ?_
  refine Option.bind_eq_some_of h (hcount "maxLength") fun maxLength h ↦ ?_
  refine Option.bind_eq_some_of h (hnumber "min") fun min h ↦ ?_
  refine Option.bind_eq_some_of h (hnumber "max") fun max h ↦ ?_
  refine Option.bind_eq_some_of h (hnumber "step") fun step h ↦ ?_
  refine Option.bind_eq_some_of h
    (fun _ ↦ (hfrees _).optional Options.steady_ofJson?) fun options h ↦ ?_
  refine Option.bind_eq_some_of h (htext "optionsDependentOn") fun dependency h ↦ ?_
  refine Option.bind_eq_some_of h (htext "valueCalculation") fun calculation h ↦ ?_
  refine Option.bind_eq_some_of h (hflag "isMultiSelect") fun isMultiSelect h ↦ ?_
  refine Option.bind_eq_some_of h (hflag "required") fun required h ↦ ?_
  refine Option.bind_eq_some_of h
    (fun _ ↦ (hfrees _).withDefault ValidationRule.steady_ofJson?.list?) fun validations h ↦ ?_
  refine Option.bind_eq_some_of h
    (fun _ ↦ (hfrees _).withDefault Json.steady_text?.list?) fun dependencies h ↦ ?_
  refine Option.bind_eq_some_of h (hflag "isHidden") fun isHidden h ↦ ?_
  refine Option.bind_eq_some_of h (hflag "isReadOnly") fun isReadOnly h ↦ ?_
  refine Option.bind_eq_some_of h (htext "leftIcon") fun leftIcon h ↦ ?_
  refine Option.bind_eq_some_of h (htext "rightIcon") ?_
  exact fun rightIcon h ↦ h

/-- A field has the name that its document has. -/
theorem member?_name_of_ofJson? {ms : List (String × Json)}
    (h : ofJson? allow (.object ms) = some f) :
    Json.member? "name" ms = some (.text f.name) := by
  obtain ⟨r, hr, h⟩ := Option.bind_eq_some_iff.1 h
  obtain ⟨name, hname, h⟩ := Option.bind_eq_some_iff.1 h
  -- whatever else is read does not change the name
  repeat refine (Option.bind_eq_some_iff.1 h).elim fun _ h ↦ h.elim fun _ h ↦ ?_
  cases h
  exact Record.member?_of_required (m := ⟨"name", [], false⟩) (by decide) (by decide) hr
    (by simp [members]) hname

end Field

/-- A group has the name that its document has. -/
theorem Group.member?_name_of_ofJson? {allow : Bool} {ms : List (String × Json)} {g : Group}
    (h : ofJson? allow (.object ms) = some g) :
    Json.member? "name" ms = some (.text g.name) := by
  obtain ⟨r, hr, h⟩ := Option.bind_eq_some_iff.1 h
  obtain ⟨name, hname, h⟩ := Option.bind_eq_some_iff.1 h
  repeat refine (Option.bind_eq_some_iff.1 h).elim fun _ h ↦ h.elim fun _ h ↦ ?_
  cases h
  exact Record.member?_of_required (m := ⟨"name", [], false⟩) (by decide) (by decide) hr
    (by simp [members]) hname

end FormWizard
