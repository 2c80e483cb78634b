import FormWizard.Proofs.Expr.Grammar
import FormWizard.Proofs.General

/-!
# Scanning reads back what is spelled

`Token.scan` cuts a text into the longest lexemes it can. The lexical layer of the grammar does not
ask for the longest ones, so the two agree only where no lexeme could be read further than it was
written: `Lexeme.EndsBefore l rest` says so of one lexeme and the text behind it, and
`Lexeme.endsBefore_of_separable` derives it from the spelling of the next one.

* `Token.next?_of_spelling` and `Token.spelling_of_next?` are the two directions for one lexeme.
* `Token.lexemes_scan` and `Token.spelled_of_scanUpTo` are the two directions for a text.
-/

namespace FormWizard

/-! ### Numbers -/

namespace Number

theorem spanSign_of_isDigit {c : Char} {cs : List Char} (h : c.isDigit) :
    spanSign (c :: cs) = (false, c :: cs) := by
  rw [spanSign]
  · rintro cs' ⟨⟩
    exact absurd h (by decide)
  · rintro cs' ⟨⟩
    exact absurd h (by decide)

theorem toLower_of_isDigit {c : Char} (h : c.isDigit) : c.toLower = c := by
  simp only [Char.isDigit, ge_iff_le, Bool.and_eq_true, decide_eq_true_eq] at h
  have hle : c.val ≤ 57 := h.2
  refine dif_neg fun hc ↦ ?_
  exact absurd (UInt32.le_trans hc.1 hle) (by decide)

/-- What is written as a number reads as the number written. -/
theorem ofText?_of_decimal? {c : Char} {cs : List Char} {d : Decimal} (hc : c.isDigit)
    (h : decimal? (c :: cs) = some d) : ofText? (c :: cs) = some d.toFloat := by
  have hi : c ≠ 'i' := by rintro rfl; exact absurd hc (by decide)
  have hn : c ≠ 'n' := by rintro rfl; exact absurd hc (by decide)
  simp [ofText?, spanSign_of_isDigit hc, toLower_of_isDigit hc, hi, hn, h]

/-- Digits are a number. -/
theorem ofText?_whole {ds : List Char} (hne : ds ≠ []) (hd : ∀ c ∈ ds, c.isDigit) :
    ofText? ds = some (ofDigits ds []) := by
  have hspan : spanDigits ds = (ds, []) := by
    simpa [spanDigits] using @List.span_append _ _ ds [] hd (by simp)
  obtain ⟨c, cs, rfl⟩ := List.exists_cons_of_ne_nil hne
  exact ofText?_of_decimal? (hd c List.mem_cons_self) (by simp [decimal?, hspan, exponent?])

/-- Digits with a point between them are a number. -/
theorem ofText?_fraction {ds fs : List Char} (hne : ds ≠ []) (hd : ∀ c ∈ ds, c.isDigit)
    (hf : ∀ c ∈ fs, c.isDigit) : ofText? (ds ++ '.' :: fs) = some (ofDigits ds fs) := by
  have hspan : spanDigits (ds ++ '.' :: fs) = (ds, '.' :: fs) :=
    List.span_append hd (by simp)
  have hspan' : spanDigits fs = (fs, []) := by
    simpa [spanDigits] using @List.span_append _ _ fs [] hf (by simp)
  obtain ⟨c, cs, rfl⟩ := List.exists_cons_of_ne_nil hne
  refine ofText?_of_decimal? (hd c List.mem_cons_self) ?_
  show decimal? (c :: cs ++ '.' :: fs) = _
  rw [decimal?, hspan]
  simp [hspan', exponent?]

end Number

/-! ### One lexeme -/

namespace Lexeme

/-- The text behind a lexeme does not go on with it. -/
def EndsBefore : Lexeme → List Char → Prop
  | .number _, rest => ∀ c ∈ rest.head?, c.isDigit = false ∧ c ≠ '.'
  | .name _, rest => ∀ c ∈ rest.head?, Token.continuesName c = false
  | .operator _, rest => ∀ c ∈ rest.head?, c ≠ '='
  | .bang, rest => ∀ c ∈ rest.head?, c ≠ '='
  | _, _ => True

theorem endsBefore_nil (l : Lexeme) : l.EndsBefore [] := by
  cases l <;> simp [EndsBefore]

/-- Separators end every lexeme. -/
theorem endsBefore_of_isSeparator (l : Lexeme) {c : Char} {rest : List Char}
    (h : Token.isSeparator c) : l.EndsBefore (c :: rest) := by
  have hc : c = ' ' ∨ c = '\t' ∨ c = '\r' ∨ c = '\n' := by
    simpa [Token.isSeparator, or_assoc] using h
  obtain rfl | rfl | rfl | rfl := hc <;> cases l <;> simp [EndsBefore] <;> decide

/-- A spelling is not empty, and how it begins tells the kind of lexeme. -/
theorem Spelling.head {l : Lexeme} {cs : List Char} (h : l.Spelling cs) :
    ∃ c rest, cs = c :: rest ∧
      ((c.isDigit ∧ ∃ x, l = .number x) ∨ ((c = '"' ∨ c = '\'') ∧ ∃ s, l = .quoted s) ∨
        (Token.startsName c ∧ ∃ s, l = .name s) ∨ (l, cs) ∈ signs) := by
  cases h with
  | whole hne hd =>
    obtain ⟨c, rest, rfl⟩ := List.exists_cons_of_ne_nil hne
    exact ⟨c, rest, rfl, .inl ⟨hd c List.mem_cons_self, _, rfl⟩⟩
  | fraction hne hd =>
    obtain ⟨c, rest, rfl⟩ := List.exists_cons_of_ne_nil hne
    exact ⟨c, _, rfl, .inl ⟨hd c List.mem_cons_self, _, rfl⟩⟩
  | quoted hq => exact ⟨_, _, rfl, .inr (.inl ⟨hq, _, rfl⟩)⟩
  | name hc => exact ⟨_, _, rfl, .inr (.inr (.inl ⟨hc, _, rfl⟩))⟩
  | sign h =>
    have hne : cs ≠ [] := by
      rintro rfl
      simp [signs] at h
    obtain ⟨c, rest, rfl⟩ := List.exists_cons_of_ne_nil hne
    exact ⟨c, rest, rfl, .inr (.inr (.inr h))⟩

/-- No sign starts like a number, a quoted text or a name, and only two start like the rest of a
longer lexeme. -/
theorem head_of_mem_signs : ∀ p ∈ signs, ∀ c ∈ p.2.head?,
    c.isDigit = false ∧ c ≠ '"' ∧ c ≠ '\'' ∧ Token.continuesName c = false ∧
      (c ≠ '.' ∨ p.1 = .point) ∧ (c ≠ '=' ∨ p.1 = .operator .equal) := by
  simp only [signs, List.forall_mem_cons, List.not_mem_nil, false_imp_iff, implies_true,
    and_true, List.head?_cons, Option.mem_some_iff, forall_eq']
  and_intros <;> decide

/-- No sign goes on with the lexeme before it, unless the two are not separable. -/
theorem endsBefore_sign {l r : Lexeme} {cs : List Char} (h : (r, cs) ∈ signs) (hsep : l.Separable r)
    (rest : List Char) : l.EndsBefore (cs ++ rest) := by
  obtain ⟨c, w, rfl, -⟩ := (Spelling.sign h).head
  obtain ⟨hdigit, -, -, hname, hpoint, hequal⟩ := head_of_mem_signs _ h c rfl
  cases l with
  | number x =>
    rintro d ⟨⟩
    refine ⟨hdigit, hpoint.resolve_right ?_⟩
    rintro rfl
    exact hsep
  | name s =>
    rintro d ⟨⟩
    exact hname
  | operator op =>
    rintro d ⟨⟩
    refine hequal.resolve_right ?_
    rintro rfl
    exact hsep
  | bang =>
    rintro d ⟨⟩
    refine hequal.resolve_right ?_
    rintro rfl
    exact hsep
  | _ => exact trivial

/-- A lexeme ends before the spelling of any lexeme that it is separable from. -/
theorem endsBefore_of_separable {l r : Lexeme} {cs rest : List Char} (hsep : l.Separable r)
    (h : r.Spelling cs) : l.EndsBefore (cs ++ rest) := by
  obtain ⟨c, cs', rfl, ⟨hc, x, rfl⟩ | ⟨hc, s, rfl⟩ | ⟨hc, s, rfl⟩ | hsign⟩ := h.head
  · have hne : c ≠ '=' := by
      rintro rfl
      exact absurd hc (by decide)
    cases l <;> simp_all [EndsBefore, Separable]
  · obtain rfl | rfl := hc <;> cases l <;> simp [EndsBefore] <;> decide
  · have hne : c ≠ '=' := by
      rintro rfl
      exact absurd hc (by decide)
    cases l <;> simp_all [EndsBefore, Separable]
  · exact endsBefore_sign hsign hsep rest

end Lexeme

namespace Token

/-- A sign is read where it does not run on. -/
theorem sign?_of_mem_signs :
    ∀ p ∈ Lexeme.signs, ∀ rest, p.1.EndsBefore rest → sign? (p.2 ++ rest) = some (p.1, rest) := by
  simp only [Lexeme.signs, List.forall_mem_cons, List.not_mem_nil, false_imp_iff, implies_true,
    and_true]
  and_intros <;>
    first
    | exact fun _ _ ↦ rfl
    | rintro (_ | ⟨c, rest⟩) h <;> simp_all [sign?, Lexeme.EndsBefore]

/-- What is read as a sign is spelled as one. -/
theorem mem_signs_of_sign? {cs rest : List Char} {l : Lexeme} (h : sign? cs = some (l, rest)) :
    ∃ w, cs = w ++ rest ∧ (l, w) ∈ Lexeme.signs := by
  rw [sign?.eq_def] at h
  split at h <;> cases h
  all_goals
    first
    | exact ⟨[_], rfl, by decide⟩
    | exact ⟨[_, _], rfl, by decide⟩
    | exact ⟨[_, _, _], rfl, by decide⟩

/-! #### Numbers -/

/-- A whole number ends where the digits do, and no point follows. -/
theorem spanNumber_whole {ds rest : List Char} (hd : ∀ c ∈ ds, c.isDigit)
    (hr : ∀ c ∈ rest.head?, c.isDigit = false ∧ c ≠ '.') :
    spanNumber (ds ++ rest) = (ds, rest) := by
  rw [spanNumber, List.span_append hd fun c hc ↦ (hr c hc).1]
  rcases rest with _ | ⟨c, rest⟩
  · rfl
  · have hc : c ≠ '.' := (hr c rfl).2
    simp [hc]

/-- A number with a point ends where the digits behind it do. -/
theorem spanNumber_fraction {ds fs rest : List Char} (hd : ∀ c ∈ ds, c.isDigit) (hne : fs ≠ [])
    (hf : ∀ c ∈ fs, c.isDigit) (hr : ∀ c ∈ rest.head?, c.isDigit = false) :
    spanNumber (ds ++ '.' :: fs ++ rest) = (ds ++ '.' :: fs, rest) := by
  rw [List.append_assoc, spanNumber, List.span_append hd (by simp)]
  obtain ⟨f, fs, rfl⟩ := List.exists_cons_of_ne_nil hne
  show (if f.isDigit then (ds ++ '.' :: ((f :: fs ++ rest).span Char.isDigit).1,
    ((f :: fs ++ rest).span Char.isDigit).2) else _) = _
  rw [if_pos (hf f List.mem_cons_self), List.span_append hf hr]

/-- The digits taken are a number, and the rest is what stands behind them. -/
theorem spelling_spanNumber {c : Char} {cs : List Char} (hc : c.isDigit) :
    ∃ x, Number.ofText? (spanNumber (c :: cs)).1 = some x ∧
      (Lexeme.number x).Spelling (spanNumber (c :: cs)).1 ∧
      c :: cs = (spanNumber (c :: cs)).1 ++ (spanNumber (c :: cs)).2 := by
  obtain ⟨happend, hdigits, -⟩ := List.span_spec Char.isDigit (c :: cs)
  have hne := @List.span_fst_ne_nil _ _ cs c hc
  rw [spanNumber]
  revert happend hdigits hne
  generalize (c :: cs).span Char.isDigit = run
  obtain ⟨ds, rest⟩ := run
  intro happend hdigits hne
  rw [happend]
  dsimp only at *
  have hwhole : ∃ x, Number.ofText? ds = some x ∧ (Lexeme.number x).Spelling ds ∧
      ds ++ rest = ds ++ rest := ⟨_, Number.ofText?_whole hne hdigits, .whole hne hdigits, rfl⟩
  split
  · -- a point belongs to the number only if a digit follows it
    rename_i d more
    obtain ⟨happend', hfraction, -⟩ := List.span_spec Char.isDigit (d :: more)
    split_ifs with hd
    · refine ⟨_, Number.ofText?_fraction hne hdigits hfraction,
        .fraction hne hdigits (List.span_fst_ne_nil hd) hfraction, ?_⟩
      rw [List.append_assoc, List.cons_append, ← happend']
    · exact hwhole
  · exact hwhole

/-! #### All lexemes -/

theorem startsName_eq_false_of_isDigit {c : Char} (h : c.isDigit) : startsName c = false := by
  have hc : 48 ≤ c.toNat ∧ c.toNat ≤ 57 := by
    simpa [Char.isDigit, UInt32.le_iff_toNat_le] using h
  have hne : c ≠ '_' ∧ c ≠ '$' :=
    ⟨by rintro rfl; exact absurd h (by decide), by rintro rfl; exact absurd h (by decide)⟩
  unfold startsName Char.isAlpha Char.isUpper Char.isLower
  simp [UInt32.le_iff_toNat_le, hne]
  omega

theorem continuesName_of_startsName {c : Char} (h : startsName c) : continuesName c := by
  simp only [startsName, continuesName, Char.isAlphanum, Bool.or_eq_true] at h ⊢
  obtain (h | h) | h := h
  · exact .inl (.inl (.inl h))
  · exact .inl (.inr h)
  · exact .inr h

/-- Reading one lexeme where it is spelled gives this lexeme and what stands behind it. -/
theorem next?_of_spelling {l : Lexeme} {cs rest : List Char} (h : l.Spelling cs)
    (hend : l.EndsBefore rest) : next? (cs ++ rest) = some (l, rest) := by
  cases h with
  | @whole ds hne hd =>
    have hnumber := Number.ofText?_whole hne hd
    have hspan := spanNumber_whole hd hend
    obtain ⟨c, cs, rfl⟩ := List.exists_cons_of_ne_nil hne
    simp only [List.cons_append] at hspan ⊢
    simp [next?, hd c List.mem_cons_self, hspan, hnumber]
  | @fraction ds fs hne hd hne' hf =>
    have hnumber := Number.ofText?_fraction hne hd hf
    have hspan := spanNumber_fraction hd hne' hf fun c hc ↦ (hend c hc).1
    obtain ⟨c, cs, rfl⟩ := List.exists_cons_of_ne_nil hne
    simp only [List.cons_append, List.append_assoc] at hspan hnumber ⊢
    simp [next?, hd c List.mem_cons_self, hspan, hnumber]
  | @quoted q cs hq hin =>
    have hspan : (cs ++ q :: rest).span (· != q) = (cs, q :: rest) :=
      List.span_append (fun c hc ↦ bne_iff_ne.2 fun h ↦ hin (h ▸ hc)) (by simp)
    have hdigit : q.isDigit = false := by
      obtain rfl | rfl := hq <;> rfl
    rw [List.append_assoc, List.singleton_append, List.cons_append, next?,
      if_neg (by simp [hdigit]), if_pos (by simpa using hq), quoted?, hspan]
  | @name c cs hc hcs =>
    -- a name starts with neither a digit nor a quote, so it is not taken for a number or a text
    have hspan : (c :: (cs ++ rest)).span continuesName = (c :: cs, rest) :=
      List.span_append (List.forall_mem_cons.2 ⟨continuesName_of_startsName hc, hcs⟩) hend
    have hdigit : ¬ c.isDigit := fun h ↦ by
      rw [startsName_eq_false_of_isDigit h] at hc
      cases hc
    have hquote : ¬ (c = '"' || c = '\'') := by
      rw [Bool.or_eq_true, decide_eq_true_eq, decide_eq_true_eq]
      rintro (rfl | rfl) <;> exact absurd hc (by decide)
    show next? (c :: (cs ++ rest)) = _
    rw [next?, if_neg hdigit, if_neg hquote, if_pos hc, hspan]
  | sign h =>
    have hsign := sign?_of_mem_signs _ h rest hend
    obtain ⟨c, cs, rfl, -⟩ := (Lexeme.Spelling.sign h).head
    obtain ⟨hdigit, hdouble, hsingle, hname, -⟩ := Lexeme.head_of_mem_signs _ h c rfl
    have hstart : ¬ startsName c := fun hc ↦ by
      rw [continuesName_of_startsName hc] at hname
      cases hname
    show next? (c :: (cs ++ rest)) = _
    rw [next?, if_neg (by simp [hdigit]), if_neg (by simp [hdouble, hsingle]),
      if_neg hstart]
    exact hsign

/-- A quoted text that is read is spelled between its quotes. -/
theorem spelling_of_quoted? {q : Char} {cs rest : List Char} {l : Lexeme} (hq : q = '"' ∨ q = '\'')
    (h : quoted? q cs = some (l, rest)) : ∃ w, q :: cs = w ++ rest ∧ l.Spelling w := by
  obtain ⟨happend, hinside, hstop⟩ := List.span_spec (· != q) cs
  rw [quoted?] at h
  revert happend hinside hstop h
  generalize cs.span (· != q) = run
  obtain ⟨inside, _ | ⟨c, behind⟩⟩ := run
  · intro h
    cases h
  · intro h happend hinside hstop
    cases h
    have hc : c = q := by simpa using hstop c rfl
    subst hc
    refine ⟨c :: inside ++ [c], by simp [happend], .quoted hq fun hmem ↦ ?_⟩
    simpa using hinside c hmem

/-- A lexeme that is read is spelled by what was taken. -/
theorem spelling_of_next? {cs rest : List Char} {l : Lexeme} (h : next? cs = some (l, rest)) :
    ∃ w, cs = w ++ rest ∧ l.Spelling w := by
  rcases cs with _ | ⟨c, cs⟩
  · cases h
  rw [next?] at h
  split_ifs at h with hdigit hquote hstart
  · obtain ⟨x, hx, hspelling, happend⟩ := @spelling_spanNumber c cs hdigit
    revert hx hspelling happend h
    generalize spanNumber (c :: cs) = run
    intro h hx hspelling happend
    simp only [hx, Option.map_some, Option.some.injEq, Prod.mk.injEq] at h
    obtain ⟨rfl, rfl⟩ := h
    exact ⟨_, happend, hspelling⟩
  · exact spelling_of_quoted? (by simpa using hquote) h
  · obtain ⟨happend, hname, -⟩ := List.span_spec continuesName (c :: cs)
    have hne := @List.span_fst_ne_nil _ _ cs c (continuesName_of_startsName hstart)
    revert happend hname hne h
    generalize (c :: cs).span continuesName = run
    obtain ⟨name, behind⟩ := run
    intro h happend hname hne
    cases h
    obtain ⟨d, name, rfl⟩ := List.exists_cons_of_ne_nil hne
    obtain ⟨rfl, -⟩ := List.cons.inj happend
    exact ⟨_, happend, .name hstart fun x hx ↦ hname x (List.mem_cons_of_mem _ hx)⟩
  · obtain ⟨w, happend, hmem⟩ := mem_signs_of_sign? h
    exact ⟨w, happend, .sign hmem⟩

end Token

/-! ### The ends of a text -/

/-- The characters that lexemes begin and end with: visible ASCII other than the semicolon. -/
def IsEdge (c : Char) : Prop := 33 ≤ c.toNat ∧ c.toNat ≤ 126 ∧ c ≠ ';'

instance (c : Char) : Decidable (IsEdge c) :=
  inferInstanceAs (Decidable (33 ≤ c.toNat ∧ c.toNat ≤ 126 ∧ c ≠ ';'))

theorem isEdge_of_continuesName {c : Char} (h : Token.continuesName c) : IsEdge c := by
  have hne : c ≠ ';' := by
    rintro rfl
    exact absurd h (by decide)
  unfold Token.continuesName Char.isAlphanum Char.isAlpha Char.isUpper Char.isLower at h
  refine ⟨?_, ?_, hne⟩ <;> by_contra hc <;>
    simp [Char.isDigit, UInt32.le_iff_toNat_le] at h hc
  all_goals
    obtain (((h | h) | h) | rfl) | rfl := h
    all_goals first | omega | exact absurd hc (by decide)

theorem isEdge_of_isDigit {c : Char} (h : c.isDigit) : IsEdge c :=
  isEdge_of_continuesName (by simp [Token.continuesName, Char.isAlphanum, h])

/-- Nothing that a lexeme starts or ends with is blank. -/
theorem isBlank_of_isEdge {c : Char} (h : IsEdge c) : Text.isBlank c = false := by
  obtain ⟨hlow, hhigh, -⟩ := h
  simp [Text.isBlank]
  omega

theorem isBlank_of_isSeparator {c : Char} (h : Token.isSeparator c) : Text.isBlank c := by
  have hc : c = ' ' ∨ c = '\t' ∨ c = '\r' ∨ c = '\n' := by
    simpa [Token.isSeparator, or_assoc] using h
  obtain rfl | rfl | rfl | rfl := hc <;> rfl

theorem not_isSeparator_of_isBlank {c : Char} (h : Text.isBlank c = false) :
    ¬ Token.isSeparator c := by
  intro hsep
  rw [isBlank_of_isSeparator hsep] at h
  cases h

/-- A spelling begins and ends with a visible character. -/
theorem Lexeme.Spelling.isEdge {l : Lexeme} {cs : List Char} (h : l.Spelling cs) :
    (∀ c ∈ cs.head?, IsEdge c) ∧ ∀ c ∈ cs.getLast?, IsEdge c := by
  cases h with
  | whole _ hd =>
    exact ⟨fun c hc ↦ isEdge_of_isDigit (hd c (List.mem_of_mem_head? hc)),
      fun c hc ↦ isEdge_of_isDigit (hd c (List.mem_of_mem_getLast? hc))⟩
  | @fraction ds fs hne hd hne' hf =>
    rw [List.head?_append_of_ne_nil _ hne, List.getLast?_append_of_ne_nil _ (List.cons_ne_nil _ _),
      List.getLast?_cons_of_ne_nil hne']
    exact ⟨fun c hc ↦ isEdge_of_isDigit (hd c (List.mem_of_mem_head? hc)),
      fun c hc ↦ isEdge_of_isDigit (hf c (List.mem_of_mem_getLast? hc))⟩
  | @quoted q cs hq =>
    have hedge : IsEdge q := by
      obtain rfl | rfl := hq <;> decide
    rw [List.getLast?_concat]
    exact ⟨fun c hc ↦ Option.mem_some.1 hc ▸ hedge, fun c hc ↦ Option.mem_some.1 hc ▸ hedge⟩
  | @name c cs hc hcs =>
    have hall : ∀ d ∈ c :: cs, IsEdge d := List.forall_mem_cons.2
      ⟨isEdge_of_continuesName (Token.continuesName_of_startsName hc),
        fun d hd ↦ isEdge_of_continuesName (hcs d hd)⟩
    exact ⟨fun d hd ↦ hall d (List.mem_of_mem_head? hd),
      fun d hd ↦ hall d (List.mem_of_mem_getLast? hd)⟩
  | sign h =>
    have htable : ∀ p ∈ signs, (∀ c ∈ p.2.head?, IsEdge c) ∧ ∀ c ∈ p.2.getLast?, IsEdge c := by
      simp only [signs, List.forall_mem_cons, List.not_mem_nil, false_imp_iff, implies_true,
        and_true, List.head?_cons, List.getLast?_cons_cons, List.getLast?_singleton,
        Option.mem_some_iff, forall_eq']
      and_intros <;> decide
    exact htable _ h

namespace Spelled

variable {ls : List Lexeme} {cs : List Char}

/-- The first lexeme stands at the beginning. -/
theorem exists_cons (h : Spelled ls cs) :
    ∃ l more w rest, ls = l :: more ∧ cs = w ++ rest ∧ l.Spelling w := by
  cases h with
  | last h => exact ⟨_, _, _, _, rfl, (List.append_nil _).symm, h⟩
  | cons h => exact ⟨_, _, _, _, rfl, List.append_assoc _ _ _, h⟩

/-- Spelled lexemes do not start with blanks. -/
theorem isEdge_head (h : Spelled ls cs) : ∃ c ∈ cs.head?, IsEdge c := by
  obtain ⟨l, more, w, rest, rfl, rfl, hw⟩ := h.exists_cons
  have hedge := hw.isEdge.1
  obtain ⟨c, w, rfl, -⟩ := hw.head
  exact ⟨c, rfl, hedge c rfl⟩

/-- Spelled lexemes do not end with blanks. -/
theorem isEdge_getLast (h : Spelled ls cs) : ∃ c ∈ cs.getLast?, IsEdge c := by
  induction h with
  | last h =>
    have hedge := h.isEdge.2
    obtain ⟨c, w, rfl, -⟩ := h.head
    exact ⟨_, List.getLast?_eq_some_getLast (List.cons_ne_nil c w), hedge _
      (List.getLast?_eq_some_getLast (List.cons_ne_nil c w))⟩
  | cons _ _ _ ih =>
    obtain ⟨c, hc, hedge⟩ := ih
    exact ⟨c, List.mem_getLast?_append_of_mem_getLast? hc, hedge⟩

theorem length_le (h : Spelled ls cs) : ls.length ≤ cs.length := by
  induction h with
  | last h =>
    obtain ⟨c, w, rfl, -⟩ := h.head
    simp
  | cons h _ _ ih =>
    obtain ⟨c, w, rfl, -⟩ := h.head
    simp only [List.length_cons, List.length_append]
    omega

end Spelled

/-! ### A text -/

/-- The first lexeme ends at a separator, or where the next one begins. -/
theorem Lexeme.endsBefore_of_spelled {l : Lexeme} {ls : List Lexeme} {gap rest : List Char}
    (hchain : (l :: ls).IsChain Separable) (hgap : ∀ c ∈ gap, Token.isSeparator c)
    (hrest : Spelled ls rest) : l.EndsBefore (gap ++ rest) := by
  rcases gap with _ | ⟨g, gap⟩
  · obtain ⟨r, more, w, behind, rfl, rfl, hw⟩ := hrest.exists_cons
    rw [List.nil_append]
    exact endsBefore_of_separable (List.isChain_cons_cons.1 hchain).1 hw
  · exact l.endsBefore_of_isSeparator (hgap g List.mem_cons_self)

namespace Token

/-- The separators in front of a spelled text are all that is dropped. -/
theorem dropWhile_gap {gap cs : List Char} {ls : List Lexeme} (hgap : ∀ c ∈ gap, isSeparator c)
    (h : Spelled ls cs) : (gap ++ cs).dropWhile isSeparator = cs := by
  obtain ⟨c, hc, hedge⟩ := h.isEdge_head
  rw [List.dropWhile_append_of_pos hgap]
  rcases cs with _ | ⟨d, cs⟩
  · cases hc
  · cases hc
    exact List.dropWhile_cons_of_neg (not_isSeparator_of_isBlank (isBlank_of_isEdge hedge))

/-- The lexemes of a text that spells them are these, if no two neighbours run together. -/
theorem lexemes_scanUpTo {ls : List Lexeme} {cs gap : List Char} {n : ℕ} (h : Spelled ls cs)
    (hchain : ls.IsChain Lexeme.Separable) (hgap : ∀ c ∈ gap, isSeparator c) (hn : ls.length ≤ n) :
    (scanUpTo n (gap ++ cs)).map lexeme = ls := by
  induction h generalizing gap n with
  | @last l cs h =>
    obtain ⟨n, rfl⟩ := Nat.exists_eq_add_of_lt (Nat.lt_of_lt_of_le Nat.zero_lt_one hn)
    have hnext := @next?_of_spelling _ _ [] h l.endsBefore_nil
    rw [List.append_nil] at hnext
    obtain ⟨c, cs, rfl, -⟩ := h.head
    simp only [scanUpTo, dropWhile_gap hgap (.last h), hnext]
    rcases n with _ | n <;> simp [scanUpTo]
  | @cons l ls cs gap' rest h hgap' hrest ih =>
    obtain ⟨n, rfl⟩ := Nat.exists_eq_add_of_lt (Nat.lt_of_lt_of_le (Nat.succ_pos _) hn)
    have hnext := next?_of_spelling h (Lexeme.endsBefore_of_spelled hchain hgap' hrest)
    rw [← List.append_assoc] at hnext
    have htail := ih hchain.tail hgap' (n := 0 + n) (by simpa using hn)
    simp only [scanUpTo, dropWhile_gap hgap (.cons h hgap' hrest), hnext]
    obtain ⟨c, cs, rfl, -⟩ := h.head
    simpa using htail

/-- The lexemes of a text that spells them are these. -/
theorem lexemes_scan {ls : List Lexeme} {cs : List Char} (h : Spelled ls cs)
    (hchain : ls.IsChain Lexeme.Separable) : (scan cs).map lexeme = ls :=
  @lexemes_scanUpTo _ _ [] _ h hchain (by simp) (h.length_le.trans (Nat.le_succ _))

/-- What is scanned without a stray character is spelled, except for separators around it. -/
theorem spelled_of_scanUpTo {n : ℕ} {cs : List Char} (hn : cs.length < n)
    (hstray : ∀ t ∈ scanUpTo n cs, t.lexeme ≠ .stray) :
    (scanUpTo n cs = [] ∧ ∀ c ∈ cs, isSeparator c) ∨
      ∃ before body behind, cs = before ++ body ++ behind ∧ (∀ c ∈ before, isSeparator c) ∧
        (∀ c ∈ behind, isSeparator c) ∧ Spelled ((scanUpTo n cs).map lexeme) body := by
  induction n generalizing cs with
  | zero => omega
  | succ n ih =>
    have hsplit := @List.takeWhile_append_dropWhile _ isSeparator cs
    have hbefore : ∀ c ∈ cs.takeWhile isSeparator, isSeparator c := fun c hc ↦
      List.mem_takeWhile_imp hc
    simp only [scanUpTo] at hstray ⊢
    generalize cs.takeWhile isSeparator = before at *
    generalize cs.dropWhile isSeparator = start at *
    subst hsplit
    rcases start with _ | ⟨c, start⟩
    · exact .inl ⟨rfl, by simpa using hbefore⟩
    rw [if_neg (by simp)] at hstray ⊢
    -- where no lexeme can be read the character is a stray one
    rcases hnext : next? (c :: start) with _ | ⟨l, rest⟩
    · simp [hnext] at hstray
    simp only [hnext, List.forall_mem_cons] at hstray ⊢
    obtain ⟨w, happend, hw⟩ := spelling_of_next? hnext
    obtain ⟨d, w', rfl, -⟩ := hw.head
    rw [happend] at hn ⊢
    right
    -- the lexeme is the last one, or there are more behind the separators that follow
    obtain ⟨hnil, hrest⟩ | ⟨before', body, behind, rfl, hbefore', hbehind, hbody⟩ :=
      @ih rest (by simp at hn; omega) hstray.2
    · refine ⟨before, d :: w', rest, by simp, hbefore, hrest, ?_⟩
      rw [hnil]
      exact .last hw
    · exact ⟨before, d :: w' ++ before' ++ body, behind, by simp, hbefore, hbehind,
        .cons hw hbefore' hbody⟩

end Token

end FormWizard
