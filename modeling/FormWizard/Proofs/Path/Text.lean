import FormWizard.Proofs.Session.Run

/-!
# Paths and their texts

The text of a path does not always read back: a point in a name is read as the one behind a group,
and an empty name as no name at all. `FieldPath.IsProper` says which paths are safe from this, those
whose parts are not empty and hold no point, and `FieldPath.ofText_eq_ok_iff` that reading accepts
the texts of proper paths and no others, each as its own path. Everything else follows from it.

Reading looks at the first point only. A text has none, or it is cut there
(`FieldPath.exists_joined`), and these two cases carry the proof: `FieldPath.ofText_of_notMem` and
`FieldPath.ofText_joined` say what is read in each, the errors included.
-/

namespace FormWizard

/-- A part of a text of a path: it is not empty and holds no point. -/
def IsSegment (s : String) : Prop := s ≠ "" ∧ '.' ∉ s.toList

instance (s : String) : Decidable (IsSegment s) := inferInstanceAs (Decidable (_ ∧ _))

namespace FieldPath

/-- The name of the path, and its group if it has one, are parts of a text. -/
def IsProper (p : FieldPath) : Prop := IsSegment p.name ∧ ∀ g ∈ p.group, IsSegment g

variable {p q : FieldPath} {text g n : String}

theorem isProper_root : (root n).IsProper ↔ IsSegment n := and_iff_left nofun

theorem isProper_grouped : (grouped g n).IsProper ↔ IsSegment n ∧ IsSegment g :=
  and_congr_right fun _ ↦ by simp [grouped]

/-! ### The first point -/

theorem splitPoint_of_notMem {cs : List Char} (h : '.' ∉ cs) : splitPoint cs = (cs, none) := by
  induction cs with
  | nil => rfl
  | cons c cs ih =>
    obtain ⟨hc, hcs⟩ := not_or.1 (mt List.mem_cons.2 h)
    rw [splitPoint, if_neg (Ne.symm hc), ih hcs]

/-- A text is split at its first point. -/
theorem splitPoint_append {as : List Char} (h : '.' ∉ as) (bs : List Char) :
    splitPoint (as ++ '.' :: bs) = (as, some bs) := by
  induction as with
  | nil => rfl
  | cons a as ih =>
    obtain ⟨ha, has⟩ := not_or.1 (mt List.mem_cons.2 h)
    rw [List.cons_append, splitPoint, if_neg (Ne.symm ha), ih has]

theorem toList_joined (g n : String) : (g ++ "." ++ n).toList = g.toList ++ '.' :: n.toList := by
  rw [String.toList_append, String.toList_append, List.append_assoc]
  rfl

/-- A text with a point is cut at its first one. -/
theorem exists_joined (h : '.' ∈ text.toList) :
    ∃ g n : String, '.' ∉ g.toList ∧ text = g ++ "." ++ n := by
  obtain ⟨as, bs, htext, has⟩ := List.eq_append_cons_of_mem h
  -- what stands before the first point is the group, even if there are more points
  refine ⟨String.ofList as, String.ofList bs, by rwa [String.toList_ofList], ?_⟩
  rw [← String.toList_inj, toList_joined, String.toList_ofList, String.toList_ofList, htext]

/-! ### Reading -/

/-- A text without a point is a name at the root, unless it is empty. -/
theorem ofText_of_notMem (h : '.' ∉ text.toList) :
    ofText text = if text = "" then .error .empty else .ok (root text) := by
  rw [ofText, splitPoint_of_notMem h]
  simp only [List.isEmpty_iff, String.toList_eq_nil_iff]

/-- A text with a point is a name inside a group, unless there is another point or a part is
empty. -/
theorem ofText_joined (h : '.' ∉ g.toList) (n : String) :
    ofText (g ++ "." ++ n) =
      if '.' ∈ n.toList then .error (.tooDeep (g ++ "." ++ n))
      else if g = "" ∨ n = "" then .error (.emptySegment (g ++ "." ++ n))
      else .ok (grouped g n) := by
  have hne : ¬ (g.toList ++ '.' :: n.toList).isEmpty := by simp
  rw [ofText, toList_joined, if_neg hne, splitPoint_append h]
  simp only [List.contains_iff_mem, Bool.or_eq_true, List.isEmpty_iff, String.toList_eq_nil_iff,
    String.ofList_toList]

/-- Accepted are the texts of proper paths, each as its path. -/
theorem ofText_eq_ok_iff : ofText text = .ok p ↔ p.IsProper ∧ p.toText = text := by
  constructor
  · intro h
    -- whether the text has a point decides which kind of path is read
    by_cases hpoint : '.' ∈ text.toList
    · obtain ⟨g, n, hg, rfl⟩ := exists_joined hpoint
      rw [ofText_joined hg] at h
      split_ifs at h with hn hempty
      obtain ⟨hg', hn'⟩ := not_or.1 hempty
      cases h
      exact ⟨isProper_grouped.2 ⟨⟨hn', hn⟩, hg', hg⟩, rfl⟩
    · rw [ofText_of_notMem hpoint] at h
      split_ifs at h with hempty
      cases h
      exact ⟨isProper_root.2 ⟨hempty, hpoint⟩, rfl⟩
  · rintro ⟨hp, rfl⟩
    obtain ⟨_ | g, n⟩ := p
    · obtain ⟨hne, hpoint⟩ := isProper_root.1 hp
      exact (ofText_of_notMem hpoint).trans (if_neg hne)
    · obtain ⟨⟨hn, hpoint⟩, hg, hpoint'⟩ := isProper_grouped.1 hp
      exact (ofText_joined hpoint' n).trans
        ((if_neg hpoint).trans (if_neg (not_or.2 ⟨hg, hn⟩)))

/-- A proper path is read back from its text. -/
theorem ofText_toText (h : p.IsProper) : ofText p.toText = .ok p := ofText_eq_ok_iff.2 ⟨h, rfl⟩

/-- A text is read as some path if it is a part by itself, or two with a point between them. -/
theorem exists_ofText_iff : (∃ p, ofText text = .ok p) ↔
    IsSegment text ∨ ∃ g n, IsSegment g ∧ IsSegment n ∧ text = g ++ "." ++ n := by
  simp only [ofText_eq_ok_iff]
  constructor
  · rintro ⟨⟨_ | g, n⟩, hp, rfl⟩
    · exact .inl (isProper_root.1 hp)
    · obtain ⟨hn, hg⟩ := isProper_grouped.1 hp
      exact .inr ⟨g, n, hg, hn, rfl⟩
  · rintro (htext | ⟨g, n, hg, hn, rfl⟩)
    · exact ⟨root text, isProper_root.2 htext, rfl⟩
    · exact ⟨grouped g n, isProper_grouped.2 ⟨hn, hg⟩, rfl⟩

/-- Proper paths have different texts. -/
theorem toText_injective (hp : p.IsProper) (hq : q.IsProper) (h : p.toText = q.toText) : p = q :=
  Except.ok.inj ((ofText_toText hp).symm.trans (h ▸ ofText_toText hq))

end FieldPath

namespace Session

/-- Paths and texts correspond one to one. A text is accepted if it is a part by itself or two with
a point between them, and is then the text of the path it is read as; a path is read back from its
text if and only if it is proper. So an edit at the text of a proper path is the edit at the path,
and different proper paths have different texts. -/
theorem ofText_and_change_toText :
    (∀ text, (∃ p, FieldPath.ofText text = .ok p) ↔
        IsSegment text ∨ ∃ g n, IsSegment g ∧ IsSegment n ∧ text = g ++ "." ++ n) ∧
      (∀ text p, FieldPath.ofText text = .ok p → p.toText = text) ∧
      (∀ p : FieldPath, FieldPath.ofText p.toText = .ok p ↔ p.IsProper) ∧
      (∀ p : FieldPath, p.IsProper → ∀ (c : CompiledForm) (s : Session) (v : Value),
        s.change c p.toText v = (.ok (s.changeAt c p v).1, (s.changeAt c p v).2)) ∧
      ∀ p q : FieldPath, p.IsProper → q.IsProper → p ≠ q → p.toText ≠ q.toText := by
  refine ⟨fun _ ↦ FieldPath.exists_ofText_iff, fun text p h ↦ (FieldPath.ofText_eq_ok_iff.1 h).2,
    fun p ↦ ⟨fun h ↦ (FieldPath.ofText_eq_ok_iff.1 h).1, FieldPath.ofText_toText⟩, ?change, ?differ⟩
  case change => exact fun p hp c s v ↦ change_of_ok (FieldPath.ofText_toText hp)
  case differ => exact fun p q hp hq hne h ↦ hne (FieldPath.toText_injective hp hq h)

/-- The last name is entered by the text of its path, which no field at the root has. -/
theorem ofText_and_change_toText_lastName :
    ∃ p q, p = FieldPath.grouped "name" "last" ∧ q = FieldPath.root "last" ∧
      p.IsProper ∧ q.IsProper ∧ FieldPath.ofText "name.last" = .ok p ∧ p.toText = "name.last" ∧
      p ≠ q ∧ p.toText ≠ q.toText ∧
      ∃ c s, c = nameForm.compile .empty ∧ s = start c ∧
        s.change c p.toText (.text "Lane") =
          (.ok (s.changeAt c p (.text "Lane")).1, (s.changeAt c p (.text "Lane")).2) ∧
        (s.changeAt c p (.text "Lane")).1 = true := by
  obtain ⟨-, htext, hread, hchange, hdiffer⟩ := ofText_and_change_toText
  have hp : (FieldPath.grouped "name" "last").IsProper :=
    FieldPath.isProper_grouped.2 ⟨by decide, by decide⟩
  have hq : (FieldPath.root "last").IsProper := FieldPath.isProper_root.2 (by decide)
  have hok : FieldPath.ofText "name.last" = .ok (.grouped "name" "last") := (hread _).2 hp
  have hne : FieldPath.grouped "name" "last" ≠ .root "last" := by decide
  exact ⟨_, _, rfl, rfl, hp, hq, hok, htext _ _ hok, hne, hdiffer _ _ hp hq hne,
    _, _, rfl, rfl, hchange _ hp _ _ _, by decide +kernel⟩

end Session

end FormWizard
