import FormWizard.Proofs.Derivation.Pass
import FormWizard.Proofs.Session.Run

/-!
# The values of a session do not depend on its history

A session derives the computed fields after every edit and carries the old results into the next
pass. For forms without late reads nothing of them survives: after any run the values are those that
one pass derives from the initial values with all accepted edits written into them
(`Session.DerivedFrom.run`). Writes at one path replace each other and writes at different paths
commute, so only the last accepted edit of each path counts, and the order of these does not
(`Session.values_run_eq_of_listsLast`).
-/

namespace FormWizard

namespace Form

variable {fs : Registry} {form : Form} {p : FieldPath}

/-- An edit is accepted only at the path of a field that is not computed. -/
theorem hasPath_of_accepted (h : (form.compile fs).refusal? p = none) :
    form.HasPath p ∧ p ∉ (form.compile fs).calculations.map Calculation.path := by
  obtain ⟨hpath, hnot⟩ := CompiledForm.refusal?_eq_none_iff.1 h
  refine ⟨hpath, fun hmem ↦ ?_⟩
  obtain ⟨d, hd, hpath⟩ := List.mem_map.1 hmem
  exact hnot d hd hpath

/-- A pass before an edit is lost in the pass after it. -/
theorem derive_write_derive (hnames : form.NamesApart) (hlate : (form.compile fs).lateReads = [])
    {t : ValueTree} (ht : t.HoldsGroups form) (h : (form.compile fs).refusal? p = none)
    (v : Value) :
    (form.compile fs).derive (((form.compile fs).derive t).write p v) =
      (form.compile fs).derive (t.write p v) := by
  obtain ⟨hpath, hne⟩ := hasPath_of_accepted h
  exact Calculation.applyAll_write_applyAll hnames (fun d hd ↦ hasPath_of_mem_calculations hd)
    (ordered_of_lateReads hnames hlate) ht hpath hne v

end Form

namespace Session

variable {fs : Registry} {form : Form}

/-- The values are derived from the initial values with some edits at paths of the form. -/
structure DerivedFrom (fs : Registry) (form : Form) (es : List (FieldPath × Value)) (s : Session) :
    Prop where
  /-- The edits are at paths of the form. -/
  hasPath : ∀ e ∈ es, form.HasPath e.1
  /-- The values are derived from the initial values with the edits. -/
  values_eq : s.values = (form.compile fs).derive (form.initialValues.writeAll es)

/-- At the start the values are derived from no edits. -/
theorem derivedFrom_start (fs : Registry) (form : Form) :
    DerivedFrom fs form [] (start (form.compile fs)) := ⟨nofun, rfl⟩

section Step

variable (hnames : form.NamesApart) (hlate : (form.compile fs).lateReads = [])
include hnames hlate

/-- One request adds the edit that it made. -/
theorem DerivedFrom.perform {es : List (FieldPath × Value)} {s : Session}
    (h : DerivedFrom fs form es s) (shared : SharedState) (r : Request) :
    DerivedFrom fs form (es ++ (r.edit? (s.perform (form.compile fs) shared r).1).toList)
      (s.perform (form.compile fs) shared r).2.1 := by
  obtain ⟨hedit, hvalues⟩ | ⟨p, v, hedit, hrefusal, hvalues⟩ :=
    values_perform (form.compile fs) s shared r
  · rw [hedit]
    refine ⟨by simpa using h.hasPath, ?_⟩
    rw [hvalues, h.values_eq, Option.toList_none, List.append_nil]
  · rw [hedit, Option.toList_some]
    refine ⟨fun e he ↦ ?_, ?_⟩
    · obtain he | he := List.mem_append.1 he
      · exact h.hasPath e he
      · rw [List.mem_singleton.1 he]
        exact (Form.hasPath_of_accepted hrefusal).1
    · -- the results of the pass before the edit are lost in the pass after it
      have hgroups : (form.initialValues.writeAll es).HoldsGroups form :=
        (Form.holdsGroups_initialValues hnames).writeAll hnames h.hasPath
      rw [hvalues, h.values_eq, Form.derive_write_derive hnames hlate hgroups hrefusal,
        ValueTree.writeAll_append]
      rfl

/-- A run adds the edits that were accepted. -/
theorem DerivedFrom.run {es : List (FieldPath × Value)} {s : Session}
    (h : DerivedFrom fs form es s) (shared : SharedState) (rs : List Request) :
    DerivedFrom fs form (es ++ acceptedEdits rs (s.run (form.compile fs) shared rs).1)
      (s.run (form.compile fs) shared rs).2.1 := by
  induction rs generalizing es s shared with
  | nil => simpa [Session.run, acceptedEdits] using h
  | cons r rs ih =>
    have hrest := ih (h.perform hnames hlate shared r) (s.perform (form.compile fs) shared r).2.2
    rw [Session.run, acceptedEdits_cons, ← List.append_assoc]
    exact hrest

end Step

/-- The values of a session are those that one pass derives from the initial values and the last
accepted edit of each path, in whatever order these are written. -/
theorem values_run_eq_of_listsLast (fs : Registry) (form : Form) (hnames : form.NamesApart)
    (hlate : (form.compile fs).lateReads = []) (shared : SharedState) (rs : List Request)
    (ls : List (FieldPath × Value))
    (hls : ValueTree.ListsLast ls
      (acceptedEdits rs ((start (form.compile fs)).run (form.compile fs) shared rs).1)) :
    ((start (form.compile fs)).run (form.compile fs) shared rs).2.1.values =
      (form.compile fs).derive (form.initialValues.writeAll ls) := by
  obtain ⟨hpaths, hvalues⟩ := (derivedFrom_start fs form).run hnames hlate shared rs
  rw [List.nil_append] at hpaths hvalues
  rw [hvalues, ValueTree.writeAll_eq_of_listsLast hls]
  exact fun e he e' he' ↦ (hpaths e he).compatible (hpaths e' he') hnames

/-- Requests of which two are edits that are accepted, both of the first name. -/
def nameRequests : List Request :=
  [.changeAt (.grouped "name" "first") (.text "Ada"), .changeAt (.root "full") .null, .next,
    .change "name.first" (.text "Bob")]

/-- The first name entered first does not matter. -/
theorem values_run_nameRequests :
    nameForm.NamesApart ∧ (nameForm.compile .empty).lateReads = [] ∧
      ((start (nameForm.compile .empty)).run (nameForm.compile .empty) .empty
          nameRequests).2.1.values =
        (nameForm.compile .empty).derive
          (nameForm.initialValues.writeAll [(.grouped "name" "first", .text "Bob")]) := by
  have hedits : acceptedEdits nameRequests
      ((start (nameForm.compile .empty)).run (nameForm.compile .empty) .empty nameRequests).1 =
        [(.grouped "name" "first", .text "Ada"), (.grouped "name" "first", .text "Bob")] := by
    decide +kernel
  refine ⟨namesApart_nameForm, Form.lateReads_nameForm, values_run_eq_of_listsLast .empty nameForm
    namesApart_nameForm Form.lateReads_nameForm .empty nameRequests _ ?_⟩
  rw [hedits]
  have hnil : ValueTree.ListsLast [] [] := ⟨List.nodup_nil, fun p v ↦ ⟨nofun, nofun⟩⟩
  have hlater : ValueTree.lastValue? [(.grouped "name" "first", .text "Bob")]
      (.grouped "name" "first") = some (.text "Bob") := by
    decide
  exact (ValueTree.listsLast_cons_iff hlater).2 (hnil.cons rfl)

end Session

end FormWizard
