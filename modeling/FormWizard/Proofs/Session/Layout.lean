import FormWizard.Proofs.Session.History
import FormWizard.Proofs.Validation.Failures

/-!
# Blocks are for layout only

Two lists of parts are *regrouped* (`Node.Regrouped`) if one comes from the other by putting
neighbours into a block, or taking a block away, any number of times and at any depth. They are if
and only if the same fields and groups stand in them in the same order (`Node.regrouped_iff`):
taking all blocks away is a regrouping, and what is left then is a normal form.

What a session sees of a compiled form is collected in `CompiledForm.Alike`. Regrouping the stages
of a form does not change any of it (`Form.Regrouped.alike`), and sessions of forms that are alike
go through the same states and give the same answers (`CompiledForm.Alike.run_eq`), by induction
over the requests with `CompiledForm.Alike.perform_eq` for one of them.
-/

namespace FormWizard

/-! ### Regrouping -/

namespace Node

/-- The parts are the same up to blocks. -/
inductive Regrouped : List Node → List Node → Prop
  | refl (ns : List Node) : Regrouped ns ns
  | symm {ns ns' : List Node} : Regrouped ns ns' → Regrouped ns' ns
  | trans {ns ns' ns'' : List Node} : Regrouped ns ns' → Regrouped ns' ns'' → Regrouped ns ns''
  /-- Some neighbours are put into a block. -/
  | wrap (before run after : List Node) (name : String) (label : Option String) :
      Regrouped (before ++ run ++ after) (before ++ .block name label run :: after)
  /-- The parts in a block are regrouped. -/
  | inside (before after : List Node) (name : String) (label : Option String)
      {ns ns' : List Node} : Regrouped ns ns' →
      Regrouped (before ++ .block name label ns :: after)
        (before ++ .block name label ns' :: after)

variable {ns ns' : List Node}

/-- Regrouping leaves the fields and groups in their order. -/
theorem Regrouped.flattenAll_eq (h : Regrouped ns ns') : flattenAll ns = flattenAll ns' := by
  induction h with
  | refl ns => rfl
  | symm _ ih => exact ih.symm
  | trans _ _ ih ih' => exact ih.trans ih'
  | wrap before run after name label => simp
  | inside before after name label _ ih => simp [ih]

/-- Regrouping does not mind what stands around: it can be done in a block made for it. -/
theorem Regrouped.append (h : Regrouped ns ns') (before after : List Node) :
    Regrouped (before ++ ns ++ after) (before ++ ns' ++ after) :=
  have hwrap := Regrouped.wrap before ns after "" none
  have hinside := Regrouped.inside before after "" none h
  have hunwrap := (Regrouped.wrap before ns' after "" none).symm
  hwrap.trans (hinside.trans hunwrap)

end Node

/-- The field or group as a part of a stage. -/
def FlatNode.toNode : FlatNode → Node
  | .field f => .field f
  | .group g => .group g

namespace Node

mutual

/-- All blocks can be taken away from a single part. -/
theorem regrouped_flatten : ∀ n : Node, Regrouped [n] (n.flatten.map FlatNode.toNode)
  | .field f => .refl [.field f]
  | .group g => .refl [.group g]
  | .block name label nodes => by
    have hunwrap : Regrouped [.block name label nodes] nodes := by
      have hwrap := Regrouped.wrap [] nodes [] name label
      rw [List.nil_append, List.append_nil] at hwrap
      exact hwrap.symm
    rw [flatten_block]
    exact hunwrap.trans (regrouped_flattenAll nodes)

/-- All blocks can be taken away. -/
theorem regrouped_flattenAll : ∀ ns : List Node,
    Regrouped ns ((flattenAll ns).map FlatNode.toNode)
  | [] => .refl []
  | n :: ns => by
    have hhead := (regrouped_flatten n).append [] ns
    have htail := (regrouped_flattenAll ns).append (n.flatten.map FlatNode.toNode) []
    rw [List.append_nil, List.append_nil] at htail
    rw [flattenAll_cons, List.map_append]
    exact hhead.trans htail

end

/-- Parts are the same up to blocks if and only if they hold the same fields and groups in the same
order. -/
theorem regrouped_iff {ns ns' : List Node} :
    Regrouped ns ns' ↔ flattenAll ns = flattenAll ns' := by
  constructor
  · exact Regrouped.flattenAll_eq
  · intro h
    have hns' := (regrouped_flattenAll ns').symm
    rw [← h] at hns'
    exact (regrouped_flattenAll ns).trans hns'

end Node

/-! ### What a session sees of a form -/

namespace CompiledForm

/-- Sessions cannot tell the forms apart. -/
structure Alike (c c' : CompiledForm) : Prop where
  functions_eq : c.functions = c'.functions
  calculations_eq : c.calculations = c'.calculations
  rules_eq : c.rules = c'.rules
  entries_eq : c.form.entries = c'.form.entries
  stageEntries_eq : c.stageEntries = c'.stageEntries
  length_stages_eq : c.form.stages.length = c'.form.stages.length
  initialValues_eq : c.form.initialValues = c'.form.initialValues

namespace Alike

variable {c c' : CompiledForm}

theorem derive_eq (h : c.Alike c') : c.derive = c'.derive := by
  funext values
  rw [derive, derive, h.functions_eq, h.calculations_eq]

theorem refusal?_eq (h : c.Alike c') : c.refusal? = c'.refusal? := by
  funext p
  rw [refusal?, refusal?, Form.field?, Form.field?, isComputed, isComputed, h.entries_eq,
    h.calculations_eq]

theorem validate_eq (h : c.Alike c') : c.validate = c'.validate := by
  have henter : c.enter = c'.enter := by
    funext values errors e
    rw [enter, enter, failures, failures, rulesAt, rulesAt, h.rules_eq, h.functions_eq]
  funext index values
  rw [validate, validate, h.stageEntries_eq, henter]

/-- The same calculations read what is derived later. -/
theorem lateReads_eq (h : c.Alike c') : c.lateReads = c'.lateReads := by
  have hposition : c.readPosition? = c'.readPosition? := by
    funext p
    rw [readPosition?, readPosition?, position?, position?, position?, position?,
      h.calculations_eq]
  have hof : c.lateReadsOf = c'.lateReadsOf := by
    funext calculation place
    rw [lateReadsOf, lateReadsOf, hposition]
  rw [lateReads, lateReads, h.calculations_eq, hof]

/-! ### Sessions of forms that are alike -/

theorem revalidate_eq (h : c.Alike c') (s : Session) : s.revalidate c = s.revalidate c' := by
  rw [Session.revalidate, Session.revalidate, Session.currentErrors, Session.currentErrors,
    h.validate_eq]

theorem start_eq (h : c.Alike c') : Session.start c = Session.start c' := by
  rw [Session.start, Session.start, h.derive_eq, h.initialValues_eq, h.length_stages_eq]

theorem changeAt_eq (h : c.Alike c') (s : Session) (p : FieldPath) (v : Value) :
    s.changeAt c p v = s.changeAt c' p v := by
  rw [Session.changeAt, Session.changeAt, h.refusal?_eq, h.derive_eq, h.revalidate_eq]

theorem change_eq (h : c.Alike c') (s : Session) (path : String) (v : Value) :
    s.change c path v = s.change c' path v := by
  rcases hpath : FieldPath.ofText path with e | p
  · rw [Session.change_of_error hpath, Session.change_of_error hpath]
  · rw [Session.change_of_ok hpath, Session.change_of_ok hpath, h.changeAt_eq]

theorem next_eq (h : c.Alike c') (s : Session) : s.next c = s.next c' := by
  rw [Session.next, Session.next, h.validate_eq]
  simp only [h.revalidate_eq]

theorem goTo_eq (h : c.Alike c') (s : Session) (step : Transition × Navigation) :
    s.goTo c step = s.goTo c' step := by
  rw [Session.goTo, Session.goTo, h.revalidate_eq]

/-- A request has the same answer and the same effect. -/
theorem perform_eq (h : c.Alike c') (s : Session) (shared : SharedState) (r : Request) :
    s.perform c shared r = s.perform c' shared r := by
  cases r with
  | change path v => rw [Session.perform, Session.perform, h.change_eq]
  | changeAt p v => rw [Session.perform, Session.perform, h.changeAt_eq]
  | next => rw [Session.perform, Session.perform, h.next_eq]
  | submitInto =>
    rw [Session.perform, Session.perform, Session.submitInto, Session.submitInto, h.next_eq]
  | previous =>
    rw [Session.perform, Session.perform, Session.previous, Session.previous, h.goTo_eq]
  | jumpTo target =>
    rw [Session.perform, Session.perform, Session.jumpTo, Session.jumpTo, h.goTo_eq]

/-- Requests have the same answers and the same effect. -/
theorem run_eq (h : c.Alike c') (s : Session) (shared : SharedState) (rs : List Request) :
    s.run c shared rs = s.run c' shared rs := by
  induction rs generalizing s shared with
  | nil => rfl
  | cons r rs ih => simp [h.perform_eq, ih]

end Alike

end CompiledForm

/-! ### Regrouped forms -/

namespace Form

/-- The stages of the forms hold the same parts up to blocks. -/
def Regrouped (form form' : Form) : Prop :=
  List.Forall₂ (fun s s' ↦ Node.Regrouped s.nodes s'.nodes) form.stages form'.stages

variable {form form' : Form}

/-- Stages are the same up to blocks if they hold the same fields and groups in the same order. -/
theorem map_flatten_eq_iff : form.stages.map Stage.flatten = form'.stages.map Stage.flatten ↔
    form.Regrouped form' := by
  rw [Regrouped, ← List.forall₂_eq_eq_eq, List.forall₂_map_left_iff, List.forall₂_map_right_iff]
  simp only [Node.regrouped_iff]
  rfl

/-- The entries of a form are determined by its stages without their blocks. -/
theorem entries_eq_zipIdx_map (form : Form) : form.entries =
    (form.stages.map Stage.flatten).zipIdx.flatMap fun (ns, i) ↦
      ns.flatMap (FlatNode.entries i) := by
  rw [entries, List.zipIdx_map, List.flatMap_map]
  rfl

/-- So are the entries of a single stage. -/
theorem stageEntries_compile (fs : Registry) (form : Form) (index : ℕ) :
    (form.compile fs).stageEntries index =
      (((form.stages.map Stage.flatten)[index]?).getD []).flatMap (FlatNode.entries index) := by
  rw [CompiledForm.stageEntries_eq, List.getElem?_map]
  show (form.stages[index]?.map _).getD [] = _
  rcases form.stages[index]? with _ | s <;> rfl

/-- No session can tell how the parts of a form are grouped in blocks. -/
theorem Regrouped.alike (h : form.Regrouped form') (fs : Registry) :
    (form.compile fs).Alike (form'.compile fs) := by
  have hflatten := map_flatten_eq_iff.2 h
  have hentries : form.entries = form'.entries := by
    rw [entries_eq_zipIdx_map, entries_eq_zipIdx_map, hflatten]
  have hlength : form.stages.length = form'.stages.length := h.length_eq
  have hinitial : form.initialValues = form'.initialValues := by
    rw [initialValues, initialValues, List.flatMap_def, List.flatMap_def, hflatten]
  refine ⟨rfl, ?_, ?_, hentries, ?_, hlength, hinitial⟩
  · show form.entries.filterMap _ = form'.entries.filterMap _
    rw [hentries]
  · show form.entries.flatMap _ = form'.entries.flatMap _
    rw [hentries]
  · funext index
    rw [stageEntries_compile, stageEntries_compile, hflatten]

end Form

namespace Session

/-- Forms whose stages differ in their blocks only have the same calculations and the same late
reads, and their sessions answer any requests alike and end with the same values, places, statuses,
errors, and shared documents. -/
theorem run_eq_of_regrouped {form form' : Form} (h : form.Regrouped form') (fs : Registry) :
    (form.compile fs).calculations = (form'.compile fs).calculations ∧
      (form.compile fs).lateReads = (form'.compile fs).lateReads ∧
      ∀ (shared : SharedState) (rs : List Request),
        (start (form.compile fs)).run (form.compile fs) shared rs =
            (start (form'.compile fs)).run (form'.compile fs) shared rs ∧
          ((start (form.compile fs)).run (form.compile fs) shared rs).2.1.visibleErrors =
            ((start (form'.compile fs)).run (form'.compile fs) shared rs).2.1.visibleErrors := by
  have halike := h.alike fs
  refine ⟨halike.calculations_eq, halike.lateReads_eq, fun shared rs ↦ ?_⟩
  have hrun : (start (form.compile fs)).run (form.compile fs) shared rs =
      (start (form'.compile fs)).run (form'.compile fs) shared rs := by
    rw [halike.start_eq, halike.run_eq]
  exact ⟨hrun, by rw [hrun]⟩

/-- The form for a name with its parts in blocks within blocks. -/
def nestedNameForm : Form :=
  { nameForm with
    stages := [⟨"person", none,
      [.block "outer" none
        [.block "inner" (some "Your name")
          [.group ⟨"name", none, false, false, [.plain "first" none, .plain "last" none]⟩],
        .field (.plain "full" (some "values.name.first + ' ' + values.name.last"))],
      .block "empty" none [],
      .field (.plain "greeting" (some "'Hello ' + values.full"))]⟩] }

/-- In blocks or not, the form for a name ends with the same greeting. -/
theorem run_eq_of_regrouped_nameForm :
    nestedNameForm.Regrouped nameForm ∧
      ((start (nestedNameForm.compile .empty)).run (nestedNameForm.compile .empty) .empty
          nameRequests).2.1.value? (.root "greeting") = some (.text "Hello Bob ") := by
  have hregrouped : nestedNameForm.Regrouped nameForm := Form.map_flatten_eq_iff.1 rfl
  have hgreeting : ((start (nameForm.compile .empty)).run (nameForm.compile .empty) .empty
      nameRequests).2.1.value? (.root "greeting") = some (.text "Hello Bob ") := by
    decide +kernel
  obtain ⟨-, -, hrun⟩ := run_eq_of_regrouped hregrouped .empty
  refine ⟨hregrouped, ?_⟩
  rw [(hrun .empty nameRequests).1]
  exact hgreeting

end Session

end FormWizard
