import FormWizard.Proofs.Expr.Source
import Mathlib.Algebra.Ring.Int.Defs

/-!
# Spelling formulas

`Spelled` and `Expr.Derives` take texts and formulas apart. This file puts them together: texts are
joined with signs, points and parentheses between them, and `Expr.Written` joins the formulas along
with them.

A text that is spelled is read as what the grammar derives from it (`Expr.ofSource_of_derivable`),
with one exception. The word `return` in front of a formula is taken off, also where it is the name
of a variable or a function. What is left may be a formula, but never the same one: the lexemes of a
formula determine its size (`Expr.Derives.weightOf_eq`), and one of them is missing.
-/

namespace FormWizard

/-! ### Texts from texts -/

namespace Spelled

variable {ls rs : List Lexeme} {s : String}

/-- Lexemes are spelled one after the other, with blanks between them. -/
theorem append {cs gap ds : List Char} (h : Spelled ls cs)
    (hgap : ∀ c ∈ gap, Token.isSeparator c) (hr : Spelled rs ds) :
    Spelled (ls ++ rs) (cs ++ gap ++ ds) := by
  induction h with
  | last h => exact .cons h hgap hr
  | cons h hgap' _ ih =>
    rw [List.cons_append, List.append_assoc, List.append_assoc, ← List.append_assoc _ gap]
    exact .cons h hgap' ih

/-- Two texts without separators between them. -/
theorem adjoin {t : String} (h : Spelled ls s.toList) (hr : Spelled rs t.toList) :
    Spelled (ls ++ rs) (s ++ t).toList := by
  have happend : Spelled (ls ++ rs) (s.toList ++ [] ++ t.toList) :=
    h.append (List.forall_mem_nil _) hr
  rwa [List.append_nil, ← String.toList_append] at happend

/-- A sign is spelled as it is. -/
theorem sign {l : Lexeme} (h : (l, s.toList) ∈ Lexeme.signs) : Spelled [l] s.toList :=
  .last (.sign h)

/-- Two texts with a sign between them, and blanks around it. -/
theorem joined {l : Lexeme} {t sign : String} (h : Spelled ls s.toList)
    (hsign : (l, sign.toList) ∈ Lexeme.signs) (hr : Spelled rs t.toList) :
    Spelled (ls ++ l :: rs) (s ++ " " ++ sign ++ " " ++ t).toList := by
  have hblank : ∀ c ∈ [' '], Token.isSeparator c := List.forall_mem_singleton.2 rfl
  have happend := h.append hblank ((Spelled.sign hsign).append hblank hr)
  simpa [String.toList_append, List.append_assoc] using happend

/-- A text in parentheses. -/
theorem parenthesized (h : Spelled ls s.toList) :
    Spelled (.opening :: ls ++ [.closing]) ("(" ++ s ++ ")").toList := by
  have hopening : Spelled [.opening] "(".toList := .sign (by decide)
  have hclosing : Spelled [.closing] ")".toList := .sign (by decide)
  exact (hopening.adjoin h).adjoin hclosing

/-- Each of the lexemes is spelled somehow. -/
theorem exists_spelling {cs : List Char} (h : Spelled ls cs) : ∀ l ∈ ls, ∃ w, l.Spelling w := by
  induction h with
  | last h => exact List.forall_mem_singleton.2 ⟨_, h⟩
  | cons h _ _ ih => exact List.forall_mem_cons.2 ⟨⟨_, h⟩, ih⟩

end Spelled

/-- The text is a name. -/
def IsName (s : String) : Prop := (Lexeme.name s).Spelling s.toList

/-- What is spelled as a name is one. -/
theorem isName_of_spelling {s : String} {cs : List Char} (h : (Lexeme.name s).Spelling cs) :
    IsName s := by
  generalize hl : Lexeme.name s = l at h
  cases h with
  | @name c cs hc hcs =>
    cases hl
    rw [IsName, String.toList_ofList]
    exact .name hc hcs
  | sign h =>
    subst hl
    simp [Lexeme.signs] at h
  | _ => cases hl

/-- Names with points between them. -/
theorem spelled_dotted {root : String} {members : List String} (hroot : IsName root)
    (hmembers : ∀ m ∈ members, IsName m) :
    Spelled (.name root :: Expr.dotted members) (".".intercalate (root :: members)).toList := by
  induction members generalizing root with
  | nil =>
    rw [String.intercalate_singleton]
    exact .last hroot
  | cons m ms ih =>
    obtain ⟨hm, hms⟩ := List.forall_mem_cons.1 hmembers
    have hpoint : Spelled [.point] ".".toList := .sign (by decide)
    rw [String.intercalate_cons_cons, String.append_assoc]
    show Spelled ([.name root] ++ ([.point] ++ .name m :: Expr.dotted ms)) _
    exact (Spelled.last hroot).adjoin (hpoint.adjoin (ih hm hms))

/-- No lexeme starts with a brace. -/
theorem Spelled.head_ne_brace {ls : List Lexeme} {cs : List Char} (h : Spelled ls cs) :
    ∀ c ∈ cs.head?, c ≠ '\x7b' := by
  obtain ⟨l, more, w, rest, -, rfl, hw⟩ := h.exists_cons
  obtain ⟨c, w, rfl, hkind⟩ := hw.head
  rintro d ⟨⟩ rfl
  obtain ⟨hdigit, -⟩ | ⟨hquote, -⟩ | ⟨hname, -⟩ | hsign := hkind
  · exact absurd hdigit (by decide)
  · exact absurd hquote (by decide)
  · exact absurd hname (by decide)
  · simp [Lexeme.signs] at hsign

namespace Expr

/-! ### Written formulas -/

/-- The text is written with lexemes that are the formula, whose outermost operator binds with the
strength given or more. -/
def Written (k : ℕ) (s : String) (e : Expr) : Prop := ∃ ls, Spelled ls s.toList ∧ Derives k ls e

/-- A formula that is derived at a strength is derived at all weaker ones. -/
theorem Derives.mono {j k : ℕ} {ls : List Lexeme} {e : Expr} (h : Derives k ls e) (hjk : j ≤ k) :
    Derives j ls e := by
  induction hjk with
  | refl => exact h
  | step _ ih => exact ih h.tighter

/-- Every operator has a sign that joins formulas by it. -/
theorem exists_sign (op : BinaryOp) :
    ∃ sign : Lexeme, sign.Joins op ∧ (sign, op.symbol.toList) ∈ Lexeme.signs := by
  cases op with
  | subtract => exact ⟨.minus, .minus, by decide⟩
  | _ => exact ⟨_, .operator _, by decide⟩

namespace Written

variable {j k : ℕ} {s t : String} {e l r : Expr}

/-- A text that is written at a strength is written at all weaker ones. -/
theorem mono (h : Written k s e) (hjk : j ≤ k) : Written j s e := by
  obtain ⟨ls, hls, hder⟩ := h
  exact ⟨ls, hls, hder.mono hjk⟩

/-- In parentheses a formula may stand anywhere. -/
theorem parenthesized (h : Written 1 s e) : Written 9 ("(" ++ s ++ ")") e := by
  obtain ⟨ls, hls, hder⟩ := h
  exact ⟨_, hls.parenthesized, .parenthesized hder⟩

/-- An operator stands between a left operand that binds as strongly, and a right one that binds
more strongly. -/
theorem binary (op : BinaryOp) (hl : Written op.strength s l) (hr : Written (op.strength + 1) t r) :
    Written op.strength (s ++ " " ++ op.symbol ++ " " ++ t) (.binary op l r) := by
  obtain ⟨ls, hls, hderl⟩ := hl
  obtain ⟨rs, hrs, hderr⟩ := hr
  obtain ⟨sign, hjoins, hsign⟩ := exists_sign op
  exact ⟨_, hls.joined hsign hrs, .binary hjoins hderl hderr⟩

end Written

end Expr

/-! ### The size of what is read -/

/-- What a lexeme adds to the size of a formula. A point takes back what the name behind it adds. -/
def Lexeme.weight : Lexeme → ℤ
  | .number _ | .quoted _ | .name _ | .operator _ | .minus | .bang | .question => 1
  | .point => -1
  | .colon | .comma | .opening | .closing | .stray => 0

theorem Lexeme.Joins.weight_eq {l : Lexeme} {op : BinaryOp} (h : l.Joins op) : l.weight = 1 := by
  cases h <;> rfl

namespace Expr

/-- The weight of a list of lexemes. -/
def weightOf (ls : List Lexeme) : ℤ := (ls.map Lexeme.weight).sum

@[simp]
theorem weightOf_cons (l : Lexeme) (ls : List Lexeme) :
    weightOf (l :: ls) = l.weight + weightOf ls := by
  rw [weightOf, List.map_cons, List.sum_cons, weightOf]

@[simp]
theorem weightOf_append (ls rs : List Lexeme) :
    weightOf (ls ++ rs) = weightOf ls + weightOf rs := by
  rw [weightOf, List.map_append, List.sum_append, weightOf, weightOf]

@[simp]
theorem weightOf_dotted (members : List String) : weightOf (dotted members) = 0 := by
  induction members with
  | nil => rfl
  | cons m ms ih =>
    simp [dotted_cons, Lexeme.weight, ih]

/-- Arguments weigh their sizes, since commas weigh nothing. -/
theorem weightOf_separated {args : List (List Lexeme × Expr)}
    (h : ∀ a ∈ args, weightOf a.1 = a.2.size) :
    weightOf (separated (args.map Prod.fst)) = sizeOfAll (args.map Prod.snd) := by
  induction args with
  | nil => rfl
  | cons a args ih =>
    obtain ⟨ha, hargs⟩ := List.forall_mem_cons.1 h
    rcases args with _ | ⟨b, args⟩
    · exact ha
    · show weightOf (a.1 ++ .comma :: separated ((b :: args).map Prod.fst)) =
        (a.2.size + sizeOfAll ((b :: args).map Prod.snd) : ℕ)
      rw [weightOf_append, weightOf_cons, ha, ih hargs, Lexeme.weight, Int.zero_add,
        Int.natCast_add]

/-- The lexemes of a formula weigh its size. -/
theorem Derives.weightOf_eq {k : ℕ} {ls : List Lexeme} {e : Expr} (h : Derives k ls e) :
    weightOf ls = e.size := by
  induction h with
  | tighter _ ih => exact ih
  | conditional _ _ _ ihc iht ihe =>
    simp only [weightOf_append, weightOf_cons, ihc, iht, ihe, Lexeme.weight, size]
    omega
  | binary hsign _ _ ihl ihr =>
    have hweight : Lexeme.weight _ = 1 := hsign.weight_eq
    simp only [weightOf_append, weightOf_cons, ihl, ihr, hweight, size]
    omega
  | not _ ih =>
    simp only [weightOf_cons, ih, Lexeme.weight, size]
    omega
  | negate _ ih =>
    simp only [weightOf_cons, ih, Lexeme.weight, size]
    omega
  | number x => rfl
  | quoted s => rfl
  | keyword _ => rfl
  | var _ =>
    rw [weightOf_cons, weightOf_dotted]
    rfl
  | call _ _ ih =>
    rw [weightOf_append, weightOf_append, weightOf_cons, weightOf_cons, weightOf_dotted,
      weightOf_separated ih, size]
    simp [weightOf, Lexeme.weight]
    omega
  | parenthesized _ ih =>
    simp only [weightOf_append, weightOf_cons, ih]
    simp [weightOf, Lexeme.weight]

/-! ### The word `return` in front -/

/-- Either nothing is taken away, or the word `return` and the blanks behind it. -/
theorem withoutReturn_cases (cs : List Char) :
    withoutReturn cs = cs ∨ ∃ c rest, cs = "return".toList ++ c :: rest ∧
      Token.continuesName c = false ∧ withoutReturn cs = Text.trimStart (c :: rest) := by
  rw [withoutReturn.eq_def]
  split
  · rename_i c rest
    split_ifs with hc
    · refine .inr ⟨c, rest, rfl, ?_, rfl⟩
      by_contra hname
      have hedge := isEdge_of_continuesName (Bool.of_not_eq_false hname)
      rw [isBlank_of_isEdge hedge] at hc
      obtain rfl : c = '(' := by simpa using hc
      exact hname rfl
    · exact .inl rfl
  · exact .inl rfl

/-- A spelled text has no braces, blanks or semicolons to take off. -/
theorem unwrap_eq_of_spelled {ls rs : List Lexeme} {cs ds : List Char} (h : Spelled ls cs)
    (hreturn : withoutReturn cs = ds) (hr : Spelled rs ds) : unwrap cs = ds := by
  obtain ⟨c, hc, hfirst⟩ := h.isEdge_head
  obtain ⟨d, hd, hlast⟩ := h.isEdge_getLast
  obtain ⟨e, he, hend⟩ := hr.isEdge_getLast
  have hblank : ∀ f ∈ ds.getLast?, Text.isBlank f = false := fun f hf ↦
    Option.mem_unique hf he ▸ isBlank_of_isEdge hend
  have hsemicolon : ∀ f ∈ ds.getLast?, decide (f = ';') = false := fun f hf ↦
    decide_eq_false (Option.mem_unique hf he ▸ hend.2.2)
  rw [unwrap, Text.trim_eq_self (fun f hf ↦ Option.mem_unique hf hc ▸ isBlank_of_isEdge hfirst)
    fun f hf ↦ Option.mem_unique hf hd ▸ isBlank_of_isEdge hlast,
    withoutBraces_eq_self h.head_ne_brace, hreturn]
  simp only [Text.trimEnd, Text.trimEndWhile_eq_self hblank, Text.trimEndWhile_eq_self hsemicolon]

/-- All that is taken off a spelled text is the word `return`, if that is its first name. -/
theorem spelled_unwrap {ls : List Lexeme} {cs : List Char} (h : Spelled ls cs)
    (hchain : ls.IsChain Lexeme.Separable) (hreturn : withoutReturn cs ≠ cs) :
    ∃ rs, ls = .name "return" :: rs ∧ Spelled rs (unwrap cs) := by
  obtain ⟨c, rest, hcs, hc, hreturn⟩ := (withoutReturn_cases cs).resolve_left hreturn
  have hword : (Lexeme.name "return").Spelling "return".toList :=
    .name rfl (List.all_eq_true.1 rfl)
  have hnext := @Token.next?_of_spelling _ _ (c :: rest) hword
    fun d hd ↦ Option.mem_some.1 hd ▸ hc
  rw [← hcs] at hnext
  cases h with
  | @last l _ hl =>
    have hnext' := @Token.next?_of_spelling _ _ [] hl l.endsBefore_nil
    rw [List.append_nil, hnext] at hnext'
    cases hnext'
  | @cons l ls w gap ds hl hgap hds =>
    have hnext' := Token.next?_of_spelling hl (Lexeme.endsBefore_of_spelled hchain hgap hds)
    rw [← List.append_assoc, hnext, Option.some.injEq, Prod.mk.injEq] at hnext'
    obtain ⟨rfl, hrest⟩ := hnext'
    obtain ⟨d, hd, hedge⟩ := hds.isEdge_head
    have htrim : Text.trimStart (c :: rest) = ds := by
      rw [hrest, Text.trimStart,
        List.dropWhile_append_of_pos fun g hg ↦ isBlank_of_isSeparator (hgap g hg)]
      exact List.dropWhile_eq_self_of_head? fun f hf ↦
        Option.mem_unique hf hd ▸ isBlank_of_isEdge hedge
    rw [htrim] at hreturn
    rw [unwrap_eq_of_spelled (.cons hl hgap hds) hreturn hds]
    exact ⟨ls, rfl, hds⟩

/-- A text in which lexemes are spelled is read as the formula that the grammar derives from
them. -/
theorem ofSource_iff_derives {text : String} {ls : List Lexeme} {e : Expr}
    (h : Spelled ls (unwrap text.toList)) (hchain : ls.IsChain Lexeme.Separable) :
    ofSource text = .ok e ↔ Derives 1 ls e := by
  have hne : unwrap text.toList ≠ [] := by
    obtain ⟨c, hc, -⟩ := h.isEdge_head
    intro hnil
    rw [hnil] at hc
    cases hc
  rw [ofSource_of_unwrap rfl hne, ofTokens_eq_ok, Token.lexemes_scan h hchain]

/-- A text that derives a formula is read as it if no word `return` is taken away. -/
theorem ofSource_of_derivable {text : String} {e : Expr} (h : Derivable text e)
    (hreturn : withoutReturn text.toList = text.toList) : ofSource text = .ok e := by
  obtain ⟨ls, hls, hder⟩ := h
  refine (ofSource_iff_derives ?_ hder.shaped.isChain).2 hder
  rw [unwrap_eq_of_spelled hls hreturn hls]
  exact hls

end Expr

end FormWizard
