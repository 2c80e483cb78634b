import FormWizard.Proofs.Expr.Completeness

/-!
# Formulas as texts

The two layers of the grammar are put together again, and the wrapping of older documents with them.

* `Expr.unwrap_eq_self` says which texts have no wrapping to take off, and `Expr.unwrap_wrapped`
  that the wrapping `{ return …; }` comes off whole.
* `Expr.ofTokens_scan` is the grammar on a text without separators at its ends.
* `Expr.ofSource_iff_derivable` is the result: reading a text and deriving a formula from it are the
  same, and a text has one derivation at most.
-/

namespace FormWizard

/-! ### Trimming -/

namespace Text

variable {p : Char → Bool} {cs ds : List Char}

/-- What is trimmed at the end is what the test holds of. -/
theorem trimEndWhile_append (hd : ∀ d ∈ ds, p d) (h : ∀ c ∈ cs.getLast?, p c = false) :
    trimEndWhile p (cs ++ ds) = cs := by
  rw [trimEndWhile, List.reverse_append,
    List.dropWhile_append_of_pos fun d hd' ↦ hd d (List.mem_reverse.1 hd'),
    List.dropWhile_eq_self_of_head?, List.reverse_reverse]
  rwa [List.head?_reverse]

theorem trimEndWhile_eq_self (h : ∀ c ∈ cs.getLast?, p c = false) : trimEndWhile p cs = cs := by
  have happend := @trimEndWhile_append p cs [] (by simp) h
  rwa [List.append_nil] at happend

/-- A text without blanks at its ends is left as it is. -/
theorem trim_eq_self (hhead : ∀ c ∈ cs.head?, isBlank c = false)
    (hlast : ∀ c ∈ cs.getLast?, isBlank c = false) : trim cs = cs := by
  rw [trim, trimStart, List.dropWhile_eq_self_of_head? hhead, trimEnd, trimEndWhile_eq_self hlast]

end Text

namespace Expr

/-! ### The wrapping of older documents -/

/-- A text without blanks around it and without the wrapping of older documents. -/
structure Bare (cs : List Char) : Prop where
  /-- There is a text. -/
  ne_nil : cs ≠ []
  /-- It starts with no blank and no brace. -/
  head : ∀ c ∈ cs.head?, Text.isBlank c = false ∧ c ≠ '\x7b'
  /-- It ends with no blank and no semicolon. -/
  last : ∀ c ∈ cs.getLast?, Text.isBlank c = false ∧ c ≠ ';'
  /-- The name it starts with, if there is one, is not `return`. -/
  name : cs.takeWhile Token.continuesName ≠ "return".toList

theorem withoutBraces_eq_self {cs : List Char} (h : ∀ c ∈ cs.head?, c ≠ '\x7b') :
    withoutBraces cs = cs := by
  rw [withoutBraces.eq_def]
  split
  · exact absurd rfl (h _ rfl)
  · rfl

/-- A text that does not start with the word `return` is left as it is. -/
theorem withoutReturn_eq_self {cs : List Char}
    (h : cs.takeWhile Token.continuesName ≠ "return".toList) : withoutReturn cs = cs := by
  rw [withoutReturn.eq_def]
  split
  · -- the word is taken off in front of a blank or a parenthesis, so it would be the whole name
    rename_i c rest
    rw [if_neg]
    rintro hc
    have hend : Token.continuesName c = false := by
      by_contra hname
      have hedge := isEdge_of_continuesName (Bool.of_not_eq_false hname)
      rw [isBlank_of_isEdge hedge] at hc
      obtain rfl : c = '(' := by simpa using hc
      exact hname rfl
    refine h ?_
    have hword : ∀ d ∈ "return".toList, Token.continuesName d := List.all_eq_true.1 rfl
    exact (List.takeWhile_append_of_pos hword).trans
      (by rw [List.takeWhile_cons_of_neg (by simp [hend]), List.append_nil])
  · rfl

/-- A bare text is left as it is. -/
theorem unwrap_eq_self {cs : List Char} (h : Bare cs) : unwrap cs = cs := by
  have hlast : ∀ c ∈ cs.getLast?, Text.isBlank c = false := fun c hc ↦ (h.last c hc).1
  have hsemicolon : ∀ c ∈ cs.getLast?, decide (c = ';') = false := fun c hc ↦
    decide_eq_false (h.last c hc).2
  rw [unwrap, Text.trim_eq_self (fun c hc ↦ (h.head c hc).1) hlast,
    withoutBraces_eq_self fun c hc ↦ (h.head c hc).2, withoutReturn_eq_self h.name]
  simp only [Text.trimEnd, Text.trimEndWhile_eq_self hlast, Text.trimEndWhile_eq_self hsemicolon]

/-- Braces around a text come off together with the blanks inside them. -/
theorem withoutBraces_braced (cs : List Char) :
    withoutBraces ('\x7b' :: cs ++ ['\x7d']) = Text.trim cs := by
  simp [withoutBraces]

/-- The wrapping comes off whole, whatever the text in it starts with. -/
theorem unwrap_wrapped {ls : List Lexeme} {cs : List Char} (h : Spelled ls cs) :
    unwrap ("\x7b return ".toList ++ cs ++ "; \x7d".toList) = cs := by
  obtain ⟨c, hc, hfirst⟩ := h.isEdge_head
  obtain ⟨d, hd, hlast⟩ := h.isEdge_getLast
  have hhead : ∀ e ∈ (cs ++ [';']).head?, Text.isBlank e = false := by
    rw [List.head?_append_of_ne_nil _ (by rintro rfl; cases hc)]
    exact fun e he ↦ Option.mem_unique he hc ▸ isBlank_of_isEdge hfirst
  have hblank : ∀ e ∈ cs.getLast?, Text.isBlank e = false := fun e he ↦
    Option.mem_unique he hd ▸ isBlank_of_isEdge hlast
  have hsemicolon : ∀ e ∈ cs.getLast?, decide (e = ';') = false := fun e he ↦
    decide_eq_false (Option.mem_unique he hd ▸ hlast.2.2)
  have hclosed : ∀ e ∈ (cs ++ [';']).getLast?, Text.isBlank e = false := by
    rw [List.getLast?_concat]
    rintro e ⟨⟩
    rfl
  -- the layers from the outside in
  have htrim : Text.trim ("\x7b return ".toList ++ cs ++ "; \x7d".toList) =
      '\x7b' :: (" return ".toList ++ (cs ++ [';']) ++ [' ']) ++ ['\x7d'] := by
    rw [Text.trim_eq_self]
    · simp
    · rintro e ⟨⟩
      rfl
    · rw [List.getLast?_append_of_ne_nil _ (by decide)]
      rintro e ⟨⟩
      rfl
  have hinner : Text.trim (" return ".toList ++ (cs ++ [';']) ++ [' ']) =
      "return ".toList ++ (cs ++ [';']) := by
    have hstart : Text.trimStart (" return ".toList ++ (cs ++ [';']) ++ [' ']) =
        "return ".toList ++ (cs ++ [';']) ++ [' '] := rfl
    rw [Text.trim, hstart, Text.trimEnd, Text.trimEndWhile_append (List.forall_mem_singleton.2 rfl)]
    rw [List.getLast?_append_of_ne_nil _ (by simp)]
    exact hclosed
  have hreturn : withoutReturn ("return ".toList ++ (cs ++ [';'])) = cs ++ [';'] := by
    have hskip : withoutReturn ("return ".toList ++ (cs ++ [';'])) =
        Text.trimStart (cs ++ [';']) := rfl
    rw [hskip, Text.trimStart, List.dropWhile_eq_self_of_head? hhead]
  have hend : Text.trimEnd (cs ++ [';']) = cs ++ [';'] := Text.trimEndWhile_eq_self hclosed
  rw [unwrap, htrim, withoutBraces_braced, hinner, hreturn, hend,
    Text.trimEndWhile_append (List.forall_mem_singleton.2 rfl) hsemicolon]
  exact Text.trimEndWhile_eq_self hblank

/-! ### Texts and their formulas -/

theorem stray_notMem_dotted (members : List String) : .stray ∉ dotted members := by
  simp [dotted]

theorem stray_notMem_separated {args : List (List Lexeme)} (h : ∀ ls ∈ args, .stray ∉ ls) :
    .stray ∉ separated args := by
  rcases args with _ | ⟨ls, args⟩
  · exact List.not_mem_nil
  · rw [separated_cons]
    simpa using h

/-- No formula is derived from characters that mean nothing. -/
theorem Derives.stray_notMem {k : ℕ} {ls : List Lexeme} {e : Expr} (h : Derives k ls e) :
    .stray ∉ ls := by
  induction h with
  | tighter _ ih => exact ih
  | conditional _ _ _ ihc iht ihe => simp [ihc, iht, ihe]
  | binary hsign _ _ ihl ihr => cases hsign <;> simp [ihl, ihr]
  | not _ ih => simp [ih]
  | negate _ ih => simp [ih]
  | number x => simp
  | quoted s => simp
  | keyword _ => simp
  | var _ => simp [stray_notMem_dotted]
  | @call _ _ _ args _ _ ih =>
    have hargs : .stray ∉ separated (args.map Prod.fst) := by
      refine stray_notMem_separated fun ls hls ↦ ?_
      obtain ⟨a, ha, rfl⟩ := List.mem_map.1 hls
      exact ih a ha
    simp [stray_notMem_dotted, hargs]
  | parenthesized _ ih => simp [ih]

/-- A text without separators at its ends is read as a formula exactly if the formula is derived
from it. -/
theorem ofTokens_scan {cs : List Char} {e : Expr} (hhead : ∀ c ∈ cs.head?, ¬ Token.isSeparator c)
    (hlast : ∀ c ∈ cs.getLast?, ¬ Token.isSeparator c) :
    ofTokens (Token.scan cs) = .ok e ↔ ∃ ls, Spelled ls cs ∧ Derives 1 ls e := by
  rw [ofTokens_eq_ok]
  constructor
  · intro h
    have hstray : ∀ t ∈ Token.scan cs, t.lexeme ≠ .stray := fun t ht heq ↦
      h.stray_notMem (heq ▸ List.mem_map_of_mem ht)
    obtain ⟨hnil, -⟩ | ⟨before, body, behind, hcs, hbefore, hbehind, hbody⟩ :=
      Token.spelled_of_scanUpTo (Nat.lt_succ_self _) hstray
    · exact absurd (by rw [Token.scan, hnil, List.map_nil]) h.shaped.ne_nil
    refine ⟨_, ?_, h⟩
    -- separators in front would be at the head of the text, and those behind at its end
    obtain rfl : before = [] := by
      by_contra hne
      obtain ⟨c, before, rfl⟩ := List.exists_cons_of_ne_nil hne
      exact hhead c (by simp [hcs]) (hbefore c List.mem_cons_self)
    obtain rfl : behind = [] := by
      by_contra hne
      have hc := List.getLast?_eq_some_getLast hne
      refine hlast _ ?_ (hbehind _ (List.getLast_mem hne))
      rw [hcs, List.getLast?_append_of_ne_nil _ hne]
      exact hc
    rw [List.nil_append, List.append_nil] at hcs
    rw [hcs] at hbody ⊢
    exact hbody
  · rintro ⟨ls, hls, hder⟩
    rwa [Token.lexemes_scan hls hder.shaped.isChain]

/-- Text with nothing in it but a formula. -/
theorem ofSource_of_unwrap {text : String} {cs : List Char} {e : Expr}
    (h : unwrap text.toList = cs) (hne : cs ≠ []) :
    ofSource text = .ok e ↔ ofTokens (Token.scan cs) = .ok e := by
  rw [ofSource, h, if_neg (by simpa using hne)]
  rcases ofTokens (Token.scan cs) with unread | e'
  · exact ⟨nofun, nofun⟩
  · simp only [Except.ok.injEq]

/-- Reading a text that is not wrapped gives a formula exactly if the grammar derives it, a
derivable text may be wrapped, and no text has two derivations. -/
theorem ofSource_iff_derivable :
    (∀ text : String, Bare text.toList → ∀ e, ofSource text = .ok e ↔ Derivable text e) ∧
      (∀ text e, Derivable text e → ofSource ("\x7b return " ++ text ++ "; \x7d") = .ok e) ∧
      ∀ text e e', Derivable text e → Derivable text e' → e = e' := by
  refine ⟨fun text hbare e ↦ ?_, fun text e h ↦ ?_, fun text e e' h h' ↦ ?_⟩
  · rw [ofSource_of_unwrap (unwrap_eq_self hbare) hbare.ne_nil]
    exact ofTokens_scan (fun c hc ↦ not_isSeparator_of_isBlank (hbare.head c hc).1)
      fun c hc ↦ not_isSeparator_of_isBlank (hbare.last c hc).1
  · obtain ⟨ls, hls, hder⟩ := h
    have hunwrap : unwrap ("\x7b return " ++ text ++ "; \x7d").toList = text.toList := by
      rw [String.toList_append, String.toList_append]
      exact unwrap_wrapped hls
    obtain ⟨c, hc, -⟩ := hls.isEdge_head
    rw [ofSource_of_unwrap hunwrap (by intro hnil; rw [hnil] at hc; cases hc), ofTokens_eq_ok,
      Token.lexemes_scan hls hder.shaped.isChain]
    exact hder
  · obtain ⟨ls, hls, hder⟩ := h
    obtain ⟨ls', hls', hder'⟩ := h'
    have hread := ofTokens_eq_ok.2 ((Token.lexemes_scan hls hder.shaped.isChain).symm ▸ hder)
    have hread' := ofTokens_eq_ok.2 ((Token.lexemes_scan hls' hder'.shaped.isChain).symm ▸ hder')
    exact Except.ok.inj (hread.symm.trans hread')

/-- Differences group to the left. -/
theorem ofSource_difference :
    Bare "a - b - c".toList ∧
      ofSource "a - b - c" = .ok (.binary .subtract
        (.binary .subtract (.variable ⟨"a", []⟩) (.variable ⟨"b", []⟩)) (.variable ⟨"c", []⟩)) := by
  have hbare : Bare "a - b - c".toList := by
    refine ⟨by decide, ?_, ?_, by decide⟩
    all_goals
      rintro c ⟨⟩
      decide
  have hblank : ∀ c ∈ [' '], Token.isSeparator c := List.forall_mem_singleton.2 rfl
  have hspelled : Spelled [.name "a", .minus, .name "b", .minus, .name "c"] "a - b - c".toList :=
    @Spelled.cons _ _ ['a'] [' '] "- b - c".toList (.name (by decide) nofun) hblank <|
      @Spelled.cons _ _ ['-'] [' '] "b - c".toList (.sign (by decide)) hblank <|
      @Spelled.cons _ _ ['b'] [' '] "- c".toList (.name (by decide) nofun) hblank <|
      @Spelled.cons _ _ ['-'] [' '] "c".toList (.sign (by decide)) hblank <|
      .last (.name (by decide) nofun)
  have hvar (root : String) (h : root ∉ keywords.map Prod.fst) :
      Derives 7 [.name root] (.variable ⟨root, []⟩) :=
    .tighter (.tighter (@Derives.var root [] fun _ ↦ h))
  have hderives := Derives.binary .minus (.binary .minus (.tighter (hvar "a" (by decide)))
    (hvar "b" (by decide))) (hvar "c" (by decide))
  exact ⟨hbare, (ofSource_iff_derivable.1 _ hbare _).2
    ⟨_, hspelled, .tighter (.tighter (.tighter (.tighter (.tighter hderives))))⟩⟩

end Expr

end FormWizard
