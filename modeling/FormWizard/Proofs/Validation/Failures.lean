import FormWizard.Validation
import Mathlib.Data.List.Basic

/-!
# What validation reports

The messages of a stage are entered one after the other, and one that is entered at a path replaces
what stood there. `CompiledForm.getElem?_validate` says what this comes to: at a path stands the
last of the messages that the fields of the stage with this path have, in order, and nothing if they
have none.
-/

namespace FormWizard.CompiledForm

variable {c : CompiledForm} {values : ValueTree} {index : ℕ} {p q : FieldPath} {message : String}

/-- The entries of a stage are those of its fields and groups, and there are none behind the last
stage. -/
theorem stageEntries_eq (c : CompiledForm) (index : ℕ) : c.stageEntries index =
    (c.form.stages[index]?.map fun s ↦ s.flatten.flatMap (·.entries index)).getD [] := by
  rw [stageEntries]
  rcases c.form.stages[index]? with _ | s <;> rfl

/-- Of several messages entered at one path the last one stays. -/
theorem getElem?_insertAll (messages : List String) (errors : ErrorMap) (p q : FieldPath) :
    (messages.foldl (fun errors message ↦ errors.insert p message) errors)[q]? =
      if p = q then messages.getLast?.or errors[q]? else errors[q]? := by
  induction messages generalizing errors with
  | nil => simp
  | cons message messages ih =>
    rw [List.foldl_cons, ih, Std.ExtTreeMap.getElem?_insert]
    by_cases hpq : p = q
    · subst hpq
      rw [if_pos rfl, if_pos rfl, if_pos Std.ReflCmp.compare_self, List.getLast?_cons]
      cases messages.getLast? <;> rfl
    · rw [if_neg hpq, if_neg hpq, if_neg (by simpa using hpq)]

/-- Entering a list of fields leaves at each path the last of their messages there. -/
theorem getElem?_enterAll (c : CompiledForm) (values : ValueTree) (es : List Entry)
    (errors : ErrorMap) (p : FieldPath) :
    (es.foldl (c.enter values) errors)[p]? =
      ((es.filter (·.path = p)).flatMap (c.failures values)).getLast?.or errors[p]? := by
  induction es generalizing errors with
  | nil => rfl
  | cons e es ih =>
    rw [List.foldl_cons, ih, enter, getElem?_insertAll]
    by_cases hpath : e.path = p
    · rw [if_pos hpath, List.filter_cons_of_pos (by simpa using hpath), List.flatMap_cons,
        List.getLast?_append, Option.or_assoc]
    · rw [if_neg hpath, List.filter_cons_of_neg (by simpa using hpath)]

/-- At a path stands the last message of the fields of the stage that have the path. -/
theorem getElem?_validate (c : CompiledForm) (index : ℕ) (values : ValueTree) (p : FieldPath) :
    (c.validate index values)[p]? =
      (((c.stageEntries index).filter (·.path = p)).flatMap (c.failures values)).getLast? := by
  rw [validate, getElem?_enterAll, Std.ExtTreeMap.getElem?_empty, Option.or_none]

/-- An error is a message of a field of the stage, at the path of the field. -/
theorem exists_mem_failures (h : (c.validate index values)[p]? = some message) :
    ∃ e ∈ c.stageEntries index, e.path = p ∧ message ∈ c.failures values e := by
  rw [getElem?_validate] at h
  obtain ⟨e, he, hmessage⟩ := List.mem_flatMap.1 (List.mem_of_getLast? h)
  obtain ⟨he, hpath⟩ := List.mem_filter.1 he
  exact ⟨e, he, of_decide_eq_true hpath, hmessage⟩

end FormWizard.CompiledForm
