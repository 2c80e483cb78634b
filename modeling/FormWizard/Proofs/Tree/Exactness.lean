import FormWizard.Proofs.Derivation.Reads
import FormWizard.Proofs.Expr.Folding
import FormWizard.Proofs.Expr.Spelling

/-!
# One write, seen from the tree and from formulas

What a write does to a tree is seen at its paths, in its slots and their number, and by the formulas
that read it. `ValueTree.exact_write` puts the three together.

For paths and slots it rests on the laws of writing. For formulas there are two halves: the text of
a variable whose parts are names reads as this variable and compiles unchanged
(`Expr.ofSource_toText`, `Expr.compile_of_ofSource`), and a variable that spells out a path reads
the value there if there is one (`Scope.followTree_of_get?`, `Scope.followGroup_of_get?`). Nothing
is said of a path without a value: depending on what stands in its way, its variable reads no value,
an error, or the length of a text.
-/

namespace FormWizard

/-! ### Variables that spell out a path -/

namespace FieldPath

/-- The members that lead to the path from the root of a tree. -/
def members (p : FieldPath) : List String := p.group.toList ++ [p.name]

/-- The name of the path, and its group if it has one, are names of the configuration language. -/
def IsNamed (p : FieldPath) : Prop := ∀ m ∈ p.members, IsName m

variable {g n : String}

theorem isNamed_root : (root n).IsNamed ↔ IsName n := List.forall_mem_singleton

theorem isNamed_grouped : (grouped g n).IsNamed ↔ IsName g ∧ IsName n :=
  List.forall_mem_cons.trans (and_congr_right fun _ ↦ List.forall_mem_singleton)

/-- The variable that leads to the path is written with the text of the path. -/
theorem toText_members (root : String) (p : FieldPath) :
    (⟨root, p.members⟩ : Variable).toText = root ++ "." ++ p.toText := by
  obtain ⟨_ | g, n⟩ := p
  · show ".".intercalate [root, n] = root ++ "." ++ n
    rw [String.intercalate_cons_cons, String.intercalate_singleton]
  · show ".".intercalate [root, g, n] = root ++ "." ++ (g ++ "." ++ n)
    rw [String.intercalate_cons_cons, String.intercalate_cons_cons, String.intercalate_singleton]

end FieldPath

namespace Scope

variable {t : ValueTree} {q : FieldPath} {w : Value} {g n : String}

theorem followGroup_of_get? (h : t.get? (.grouped g n) = some w) (path : String) :
    followGroup (t.group? g) path [n] = .ok w := by
  rw [ValueTree.get?_grouped] at h
  rw [followGroup, h]
  rfl

/-- A path is followed to the value that stands there. -/
theorem followTree_of_get? (h : t.get? q = some w) (path : String) :
    followTree t path q.members = .ok w := by
  obtain ⟨_ | g, n⟩ := q
  · show followTree t path [n] = .ok w
    rw [followTree, ValueTree.slot?_of_get?_root h]
    rfl
  · have hgroup := followGroup_of_get? h (path ++ "." ++ g)
    obtain ⟨members, hmembers, -⟩ := Option.bind_eq_some_iff.1 ((t.get?_grouped g n).symm.trans h)
    rw [hmembers] at hgroup
    exact (followTree_group hmembers path [n]).trans hgroup

/-- In a rule `formValue` stands for what is around the field. -/
theorem resolve_formValue (name : String) (value : Value) (members : Option Members)
    (t : ValueTree) (ms : List String) :
    (predicate name value (.group members) t).resolve ⟨"formValue", ms⟩ =
      followGroup members "formValue" ms := by
  simp [resolve, binding?, predicate, lookup?]

end Scope

namespace Expr

/-- The text of a variable reads as this variable. -/
theorem ofSource_toText {v : Variable} (hroot : IsName v.root)
    (hmembers : ∀ m ∈ v.members, IsName m) (hne : v.members ≠ []) (hreturn : v.root ≠ "return") :
    ofSource v.toText = .ok (.variable v) := by
  have hspelled := spelled_dotted hroot hmembers
  have hder : Derives 1 (.name v.root :: dotted v.members) (.variable v) :=
    (Derives.var fun hnil ↦ absurd hnil hne).mono (by decide)
  refine ofSource_of_derivable ⟨_, hspelled, hder⟩ ?_
  -- all that could be taken off is the word `return`
  by_contra h
  obtain ⟨rs, hls, -⟩ := spelled_unwrap hspelled hder.shaped.isChain h
  exact hreturn (Lexeme.name.inj (List.cons.inj hls).1)

/-- A variable compiles to itself where its root may be read. -/
theorem compile_of_ofSource {fs : Registry} {roots : List String} {source : String} {v : Variable}
    (h : ofSource source = .ok (.variable v)) (hroot : v.root ∈ roots) :
    compile fs roots source = .ok (.variable v) := by
  have hvariables : checkVariables roots [v] = .ok () := by
    simp [checkVariables, hroot]
  have hfold : (Expr.variable v).fold = .variable v := by
    rw [fold_eq_foldPass, foldPass]
  rw [compile, h]
  show (do
    checkVariables roots [v]
    prepareCalls fs (Expr.variable v).fold.calls
    return (Expr.variable v).fold) = Except.ok (Expr.variable v)
  rw [hvariables, hfold]
  rfl

/-- The text is a formula that compiles as it stands where the given roots may be read, and that has
the value in the scope. -/
def Yields (fs : Registry) (roots : List String) (s : Scope) (text : String) (v : Value) : Prop :=
  ∃ e, ofSource text = .ok e ∧ compile fs roots text = .ok e ∧ e.evaluate fs s = .ok v

/-- A name with the members of a path compiles to a formula with the value that it has. -/
theorem yields_variable (fs : Registry) {roots : List String} {s : Scope} {root : String}
    {q : FieldPath} {w : Value} (hroot : IsName root) (hq : q.IsNamed) (hreturn : root ≠ "return")
    (hmem : root ∈ roots) (h : s.resolve ⟨root, q.members⟩ = .ok w) :
    Yields fs roots s (root ++ "." ++ q.toText) w := by
  have hne : q.members ≠ [] := List.append_ne_nil_of_right_ne_nil _ (List.cons_ne_nil _ _)
  have hsource := ofSource_toText (v := ⟨root, q.members⟩) hroot hq hne hreturn
  rw [FieldPath.toText_members] at hsource
  refine ⟨_, hsource, compile_of_ofSource hsource hmem, ?_⟩
  rw [evaluate, trace, h]
  rfl

/-- What stands at a path is read from the root of the tree. -/
theorem yields_values {t : ValueTree} {q : FieldPath} {w : Value} (fs : Registry) (hq : q.IsNamed)
    (h : t.get? q = some w) :
    Yields fs Scope.computedRoots (.computed t) ("values." ++ q.toText) w := by
  have hroot : IsName "values" := .name rfl (List.all_eq_true.1 rfl)
  have hresolve : (Scope.computed t).resolve ⟨"values", q.members⟩ = .ok w := by
    rw [Scope.resolve_computed, if_pos rfl, Scope.followTree_of_get? h]
  have hyields := yields_variable fs hroot hq (by decide) (List.mem_singleton.2 rfl) hresolve
  rwa [show "values" ++ "." = "values." by decide] at hyields

/-- What stands at a path in a group is read from the group. -/
theorem yields_formValue {t : ValueTree} {g n : String} {w : Value} (fs : Registry) (hn : IsName n)
    (h : t.get? (.grouped g n) = some w) (name : String) (value : Value) :
    Yields fs Scope.predicateRoots (.predicate name value (.group (t.group? g)) t)
      ("formValue." ++ n) w := by
  have hroot : IsName "formValue" := .name rfl (List.all_eq_true.1 rfl)
  have hresolve := (Scope.resolve_formValue name value (t.group? g) t [n]).trans
    (Scope.followGroup_of_get? h _)
  have hmem : "formValue" ∈ Scope.predicateRoots := by decide
  have hyields := yields_variable fs (q := .root n) hroot (FieldPath.isNamed_root.2 hn)
    (by decide) hmem hresolve
  rwa [show "formValue" ++ "." = "formValue." by decide] at hyields

end Expr

namespace ValueTree

open FormWizard.Expr (Yields)

/-- One write is exact. The value is seen at its path; the other paths in the group keep what they
held and so do those under other names, while those that use the name of the slot in the other way
hold nothing; the other slots stay as they are, and there is one more if the slot is new. And a
formula that spells out a path with a value reads it, from the root of the tree and from the group
of the path. -/
theorem exact_write (t : ValueTree) (p q : FieldPath) (v : Value) :
    let u := t.write p v
    u.get? p = some v ∧
      (q ≠ p → (p.top ≠ q.top ∨ ∃ g, p.group = some g ∧ q.group = some g) →
        u.get? q = t.get? q) ∧
      (p.top = q.top → p.group.isSome ≠ q.group.isSome → u.get? q = none) ∧
      (∀ name, name ≠ p.top → u.slot? name = t.slot? name) ∧
      (u.size = t.size + if (t.slot? p.top).isNone then 1 else 0) ∧
      ∀ w, u.get? q = some w → ∀ fs : Registry,
        (q.IsNamed →
          Yields fs Scope.computedRoots (.computed u) ("values." ++ q.toText) w) ∧
        ∀ g n, q = .grouped g n → IsName n → ∀ name value,
          Yields fs Scope.predicateRoots (.predicate name value (.group (u.group? g)) u)
            ("formValue." ++ n) w := by
  intro u
  refine ⟨get?_write_self t p v, ?keeps, ?replaces, ?slots, size_write t p v, ?formulas⟩
  case keeps =>
    intro hne hplace
    -- paths under different names, or in one group, use no name in two ways
    refine get?_write_of_ne (fun htop ↦ ?_) (Ne.symm hne) t v
    obtain ⟨g, hp, hq⟩ := hplace.resolve_left (not_not.2 htop)
    rw [hp, hq]
  case replaces =>
    intro htop hgroup
    exact get?_write_of_not_compatible (fun h ↦ hgroup (congrArg Option.isSome (h htop))) t v
  case slots =>
    intro name hname
    exact slot?_write_of_ne hname.symm t v
  case formulas =>
    intro w hw fs
    refine ⟨fun hq ↦ Expr.yields_values fs hq hw, ?_⟩
    rintro g n rfl hn name value
    exact Expr.yields_formValue fs hn hw name value

/-- A length in a group. -/
def sizeValues : ValueTree := write ∅ (.grouped "size" "length") (.text "2")

/-- A width is written beside the length, which formulas read as before; a size at the root takes
its place. -/
theorem exact_write_sizeValues :
    ∃ t p q u, t = sizeValues ∧ p = FieldPath.grouped "size" "width" ∧
      q = FieldPath.grouped "size" "length" ∧ u = t.write p (.text "3") ∧
      q ≠ p ∧ t.get? q = some (.text "2") ∧ u.get? p = some (.text "3") ∧
      u.get? q = some (.text "2") ∧ u.size = t.size ∧ q.IsNamed ∧
      Yields .empty Scope.computedRoots (.computed u) "values.size.length" (.text "2") ∧
      Yields .empty Scope.predicateRoots
        (.predicate "width" (.text "3") (.group (u.group? "size")) u) "formValue.length"
        (.text "2") ∧
      (t.write (.root "size") (.text "XL")).get? q = none := by
  obtain ⟨hself, hkeeps, -, -, hsize, hformulas⟩ := exact_write sizeValues
    (.grouped "size" "width") (.grouped "size" "length") (.text "3")
  obtain ⟨-, -, hreplaces, -⟩ := exact_write sizeValues
    (.root "size") (.grouped "size" "length") (.text "XL")
  have hne : FieldPath.grouped "size" "length" ≠ .grouped "size" "width" := by decide
  have hbefore : sizeValues.get? (.grouped "size" "length") = some (.text "2") :=
    get?_write_self _ _ _
  have hafter := (hkeeps hne (.inr ⟨_, rfl, rfl⟩)).trans hbefore
  have hlength : IsName "length" := .name rfl (List.all_eq_true.1 rfl)
  have hnamed : (FieldPath.grouped "size" "length").IsNamed :=
    FieldPath.isNamed_grouped.2 ⟨.name rfl (List.all_eq_true.1 rfl), hlength⟩
  obtain ⟨hvalues, hformValue⟩ := hformulas _ hafter .empty
  have hvalues := hvalues hnamed
  rw [show "values." ++ (FieldPath.grouped "size" "length").toText = "values.size.length" by
    decide] at hvalues
  have hformValue := hformValue _ _ rfl hlength "width" (.text "3")
  rw [show "formValue." ++ "length" = "formValue.length" by decide] at hformValue
  exact ⟨_, _, _, _, rfl, rfl, rfl, rfl, hne, hbefore, hself, hafter, hsize, hnamed, hvalues,
    hformValue, hreplaces rfl (by decide)⟩

end ValueTree

end FormWizard
