import FormWizard.Proofs.Expr.Scanning

/-!
# What the readers take is derived

Everything here is about lists of tokens. `Expr.Reads k ts e rest` says that a reader took a prefix
of `ts` from which the grammar derives `e` at strength `k`, and left `rest`.

Soundness is one induction on the bound of the readers, which all of them share: `Expr.Sound n` says
what each of them takes at bound `n`, and each reader at the next bound is one lemma. The size of
the bound plays no part, since a reader that runs out takes less or fails.

* `Expr.sound` holds at every bound.
* `Expr.derives_of_ofTokens` is what it says of whole lists.
-/

namespace FormWizard.Expr

/-! ### Names -/

theorem dotted_cons (m : String) (ms : List String) :
    dotted (m :: ms) = .point :: .name m :: dotted ms := rfl

/-- Behind the first item of a list in parentheses each one follows a comma. -/
theorem separated_cons (ls : List Lexeme) (more : List (List Lexeme)) :
    separated (ls :: more) = ls ++ more.flatMap (.comma :: ·) := by
  induction more generalizing ls with
  | nil => simp [separated]
  | cons ms more ih => rw [separated, ih ms, List.flatMap_cons, List.cons_append]; simp

/-- A name with its members is a keyword or a variable. -/
theorem derives_ofName (root : String) (members : List String) :
    Derives 9 (.name root :: dotted members) (ofName root members) := by
  rw [ofName]
  split_ifs with hmembers htrue hfalse hnull
  · obtain rfl := List.isEmpty_iff.1 hmembers
    subst htrue
    exact .keyword (by decide)
  · obtain rfl := List.isEmpty_iff.1 hmembers
    subst hfalse
    exact .keyword (by decide)
  · obtain rfl := List.isEmpty_iff.1 hmembers
    rw [Bool.or_eq_true, decide_eq_true_eq, decide_eq_true_eq] at hnull
    obtain rfl | rfl := hnull <;> exact .keyword (by decide)
  · obtain rfl := List.isEmpty_iff.1 hmembers
    refine .var fun _ ↦ ?_
    simp_all [keywords]
  · exact .var fun h ↦ absurd (List.isEmpty_iff.2 h) hmembers

/-- The name under which a function is called is one that the grammar has for it. -/
theorem calls_calledName (root : String) (members : List String) :
    Calls root members (calledName root members) := by
  rw [calledName.eq_def]
  split
  · rename_i name
    split_ifs with h
    · subst h
      exact .math
    · have hjoin : root ++ "." ++ name = ".".intercalate [root, name] := rfl
      rw [hjoin]
      exact .dotted fun hm ↦ h hm.1
  · rename_i hmembers
    refine .dotted fun hm ↦ ?_
    obtain ⟨m, rfl⟩ := List.length_eq_one_iff.1 hm.2
    exact hmembers m rfl

/-- The members that are read off a list of tokens are a prefix of it, and spelled with points. -/
theorem readMembers_spec (ts : List Token) :
    ∃ us, ts = us ++ (readMembers ts).2 ∧ us.map Token.lexeme = dotted (readMembers ts).1 := by
  fun_induction readMembers ts with
  | case1 s member s' rest members rest' heq ih =>
    obtain ⟨us, hts, hus⟩ := ih
    rw [heq] at hts hus
    exact ⟨⟨.point, s⟩ :: ⟨.name member, s'⟩ :: us, by simp [hts], by simp [hus, dotted_cons]⟩
  | case2 ts => exact ⟨[], rfl, rfl⟩

/-! ### Soundness -/

/-- A prefix of the tokens derives the formula, and the rest is left. -/
def Reads (k : ℕ) (ts : List Token) (e : Expr) (rest : List Token) : Prop :=
  ∃ us, ts = us ++ rest ∧ Derives k (us.map Token.lexeme) e

/-- A prefix of the tokens is arguments behind commas. -/
def ReadsMore (ts : List Token) (es : List Expr) (rest : List Token) : Prop :=
  ∃ (us : List Token) (args : List (List Lexeme × Expr)), ts = us ++ rest ∧
    us.map Token.lexeme = (args.map Prod.fst).flatMap (.comma :: ·) ∧ args.map Prod.snd = es ∧
    ∀ a ∈ args, Derives 1 a.1 a.2

/-- A prefix of the tokens is a list of arguments in parentheses. -/
def ReadsArguments (ts : List Token) (es : List Expr) (rest : List Token) : Prop :=
  ∃ (us : List Token) (args : List (List Lexeme × Expr)), ts = us ++ rest ∧
    us.map Token.lexeme = .opening :: separated (args.map Prod.fst) ++ [.closing] ∧
    args.map Prod.snd = es ∧ ∀ a ∈ args, Derives 1 a.1 a.2

/-- A prefix of the tokens is the two branches of a choice. -/
def ReadsBranches (ts : List Token) (t e : Expr) (rest : List Token) : Prop :=
  ∃ us vs ws, ts = us ++ rest ∧
    us.map Token.lexeme = .question :: vs ++ .colon :: ws ∧ Derives 1 vs t ∧ Derives 1 ws e

/-- What the readers take at a bound. -/
structure Sound (n : ℕ) : Prop where
  /-- A formula of any kind. -/
  conditional {ts e rest} : readConditional n ts = .ok (e, rest) → Reads 1 ts e rest
  /-- The branches of a choice. -/
  branches {ts t e rest} : readBranches n ts = some (t, e, rest) → ReadsBranches ts t e rest
  /-- A formula with operators of the given levels. -/
  binary {levels ts e rest} : levels <:+ Level.all → readBinary n levels ts = .ok (e, rest) →
    Reads (8 - levels.length) ts e rest
  /-- The operators of one level behind a formula. -/
  chain {level tighter left ts e rest ls} : (level :: tighter) <:+ Level.all →
    Derives (7 - tighter.length) ls left → readChain n level tighter left ts = (e, rest) →
    ∃ us, ts = us ++ rest ∧ Derives (7 - tighter.length) (ls ++ us.map Token.lexeme) e
  /-- An operand with the operators in front of it. -/
  unary {ts e rest} : readUnary n ts = .ok (e, rest) → Reads 8 ts e rest
  /-- An operand. -/
  operand {ts e rest} : readOperand n ts = .ok (e, rest) → Reads 9 ts e rest
  /-- The arguments of a call. -/
  arguments {ts es rest} : readArguments n ts = some (es, rest) → ReadsArguments ts es rest
  /-- Further arguments. -/
  moreArguments {ts es rest} : readMoreArguments n ts = (es, rest) → ReadsMore ts es rest

/-- The place of a level in the list of all is the strength of its operators. -/
theorem strength_eq_iff {op : BinaryOp} {level : Level} {tighter : List Level}
    (h : (level :: tighter) <:+ Level.all) :
    op.strength = 7 - tighter.length ↔ op.level = level := by
  simp only [Level.all, List.suffix_cons_iff, List.cons.injEq, List.suffix_nil, reduceCtorEq,
    or_false] at h
  obtain ⟨rfl, rfl⟩ | ⟨rfl, rfl⟩ | ⟨rfl, rfl⟩ | ⟨rfl, rfl⟩ | ⟨rfl, rfl⟩ | ⟨rfl, rfl⟩ := h <;>
    cases op <;> decide

/-- Below a level are those that bind tighter, by one step of strength. -/
theorem tighter_suffix {level : Level} {tighter : List Level}
    (h : (level :: tighter) <:+ Level.all) :
    tighter <:+ Level.all ∧ 8 - tighter.length = 7 - tighter.length + 1 := by
  have hlen := h.length_le
  simp only [List.length_cons, Level.all, List.length_nil] at hlen
  exact ⟨(List.suffix_cons level tighter).trans h, by omega⟩

/-- A token is an operator if its lexeme joins formulas by it. -/
theorem operator?_eq_some {t : Token} {op : BinaryOp} :
    t.operator? = some op ↔ t.lexeme.Joins op := by
  rw [Token.operator?]
  constructor
  · intro h
    split at h
    · rename_i heq
      cases h
      exact heq ▸ .operator op
    · rename_i heq
      cases h
      exact heq ▸ .minus
    · cases h
  · intro h
    generalize t.lexeme = l at h
    cases h <;> rfl

section Step

variable {n : ℕ} (h : Sound n)
include h

/-- A formula is a condition alone, or one with its two branches. -/
theorem Sound.conditional_succ {ts : List Token} {e : Expr} {rest : List Token}
    (hread : readConditional (n + 1) ts = .ok (e, rest)) : Reads 1 ts e rest := by
  simp only [readConditional, bind, Except.bind] at hread
  split at hread
  · cases hread
  rename_i c hc
  obtain ⟨us, hus, hder⟩ := h.binary (List.suffix_refl _) hc
  split at hread
  · rename_i hbranches
    cases hread
    obtain ⟨vs, ts', es', hvs, hlex, ht, he⟩ := h.branches hbranches
    refine ⟨us ++ vs, by rw [hus, hvs, List.append_assoc], ?_⟩
    simpa [hlex] using Derives.conditional hder ht he
  · cases hread
    exact ⟨us, hus, .tighter hder⟩

/-- Two branches are formulas of any kind, behind a question mark and a colon. -/
theorem Sound.branches_succ {ts : List Token} {t e : Expr} {rest : List Token}
    (hread : readBranches (n + 1) ts = some (t, e, rest)) : ReadsBranches ts t e rest := by
  rw [readBranches.eq_def] at hread
  dsimp only at hread
  split at hread
  · rename_i s rest'
    split at hread
    · rename_i consequent s' rest'' hconsequent
      split at hread
      · rename_i halternative
        cases hread
        obtain ⟨us, rfl, hus⟩ := h.conditional hconsequent
        obtain ⟨vs, rfl, hvs⟩ := h.conditional halternative
        exact ⟨⟨.question, s⟩ :: us ++ ⟨.colon, s'⟩ :: vs, _, _, by simp, by simp, hus, hvs⟩
      · cases hread
    · cases hread
  · cases hread

/-- With the loosest of the levels left, a formula is a chain of operands of tighter levels. -/
theorem Sound.binary_succ {levels : List Level} {ts : List Token} {e : Expr} {rest : List Token}
    (hl : levels <:+ Level.all) (hread : readBinary (n + 1) levels ts = .ok (e, rest)) :
    Reads (8 - levels.length) ts e rest := by
  rcases levels with _ | ⟨level, tighter⟩
  · exact h.unary hread
  simp only [readBinary, bind, Except.bind] at hread
  split at hread
  · cases hread
  rename_i first hfirst
  obtain ⟨htighter, hlen⟩ := tighter_suffix hl
  obtain ⟨us, hus, hder⟩ := h.binary htighter hfirst
  rw [hlen] at hder
  obtain ⟨vs, hvs, hder'⟩ := h.chain hl (.tighter hder) (Except.ok.inj hread)
  exact ⟨us ++ vs, by rw [hus, hvs, List.append_assoc], by simpa using hder'⟩

/-- One more operator of the level joins its right operand to what stands on the left. -/
theorem Sound.chain_succ {level : Level} {tighter : List Level} {left : Expr} {ts : List Token}
    {e : Expr} {rest : List Token} {ls : List Lexeme} (hl : (level :: tighter) <:+ Level.all)
    (hleft : Derives (7 - tighter.length) ls left)
    (hread : readChain (n + 1) level tighter left ts = (e, rest)) :
    ∃ us, ts = us ++ rest ∧ Derives (7 - tighter.length) (ls ++ us.map Token.lexeme) e := by
  have hstop : (left, ts) = (e, rest) →
      ∃ us, ts = us ++ rest ∧ Derives (7 - tighter.length) (ls ++ us.map Token.lexeme) e := by
    intro heq
    cases heq
    exact ⟨[], rfl, by simpa using hleft⟩
  rw [readChain.eq_def] at hread
  dsimp only at hread
  split at hread
  · exact hstop hread
  rename_i t rest'
  split at hread
  · exact hstop hread
  rename_i op hop
  split_ifs at hread with hlevel
  · split at hread
    · rename_i right rest'' hright
      -- the operator and its right operand join the formula on the left
      obtain ⟨htighter, hlen⟩ := tighter_suffix hl
      obtain ⟨us, hus, hder⟩ := h.binary htighter hright
      rw [hlen] at hder
      have hstrength := (strength_eq_iff hl).2 hlevel
      rw [← hstrength] at hleft hder ⊢
      have hboth := Derives.binary (operator?_eq_some.1 hop) hleft hder
      rw [hstrength] at hboth
      obtain ⟨vs, hvs, hall⟩ := h.chain hl hboth hread
      refine ⟨t :: us ++ vs, by simp [hus, hvs], ?_⟩
      rw [hstrength]
      simpa using hall
    · exact hstop hread
  · exact hstop hread

/-- Signs in front of an operand take the operand first. -/
theorem Sound.unary_succ {ts : List Token} {e : Expr} {rest : List Token}
    (hread : readUnary (n + 1) ts = .ok (e, rest)) : Reads 8 ts e rest := by
  rw [readUnary.eq_def] at hread
  dsimp only at hread
  split at hread
  · rename_i s rest'
    split at hread
    · rename_i hoperand
      cases hread
      obtain ⟨us, rfl, hder⟩ := h.unary hoperand
      exact ⟨⟨.bang, s⟩ :: us, rfl, .not hder⟩
    · cases hread
  · rename_i s rest'
    split at hread
    · rename_i hoperand
      cases hread
      obtain ⟨us, rfl, hder⟩ := h.unary hoperand
      exact ⟨⟨.minus, s⟩ :: us, rfl, .negate hder⟩
    · cases hread
  · obtain ⟨us, hus, hder⟩ := h.operand hread
    exact ⟨us, hus, .tighter hder⟩

/-- An operand is a number, a quotation, a keyword, a variable, a call or a formula in parentheses.
-/
theorem Sound.operand_succ {ts : List Token} {e : Expr} {rest : List Token}
    (hread : readOperand (n + 1) ts = .ok (e, rest)) : Reads 9 ts e rest := by
  rw [readOperand.eq_def] at hread
  dsimp only at hread
  split at hread
  · rename_i x s rest'
    cases hread
    exact ⟨[⟨.number x, s⟩], rfl, .number x⟩
  · rename_i x s rest'
    cases hread
    exact ⟨[⟨.quoted x, s⟩], rfl, .quoted x⟩
  · rename_i root s rest'
    obtain ⟨us, hus, hlex⟩ := readMembers_spec rest'
    revert hread hus hlex
    generalize readMembers rest' = members
    obtain ⟨members, rest''⟩ := members
    dsimp only
    intro hread hus hlex
    -- a name with arguments is a call, and any other a keyword or a variable
    split at hread
    · rename_i hargs
      cases hread
      obtain ⟨vs, args, hvs, hlex', rfl, hder⟩ := h.arguments hargs
      refine ⟨⟨.name root, s⟩ :: us ++ vs, by simp [hus, hvs], ?_⟩
      have hcall := Derives.call (calls_calledName root members) hder
      simpa [hlex, hlex'] using hcall
    · cases hread
      refine ⟨⟨.name root, s⟩ :: us, by simp [hus], ?_⟩
      simpa [hlex] using derives_ofName root members
  · rename_i s rest'
    split at hread
    · rename_i s' rest'' hinside
      cases hread
      obtain ⟨us, rfl, hder⟩ := h.conditional hinside
      exact ⟨⟨.opening, s⟩ :: us ++ [⟨.closing, s'⟩], by simp, by simpa using .parenthesized hder⟩
    · cases hread
    · cases hread
  · cases hread

/-- One more argument is a formula behind a comma. -/
theorem Sound.moreArguments_succ {ts : List Token} {es : List Expr} {rest : List Token}
    (hread : readMoreArguments (n + 1) ts = (es, rest)) : ReadsMore ts es rest := by
  have hstop : (([], ts) : List Expr × List Token) = (es, rest) → ReadsMore ts es rest := by
    intro heq
    cases heq
    exact ⟨[], [], rfl, rfl, rfl, by simp⟩
  rw [readMoreArguments.eq_def] at hread
  dsimp only at hread
  split at hread
  · rename_i s rest'
    split at hread
    · rename_i e rest'' harg
      obtain ⟨us, rfl, hder⟩ := h.conditional harg
      generalize hmore : readMoreArguments n rest'' = more at hread
      obtain ⟨more, rest3⟩ := more
      cases hread
      obtain ⟨vs, args, rfl, hlex, rfl, hders⟩ := h.moreArguments hmore
      refine ⟨⟨.comma, s⟩ :: us ++ vs, (us.map Token.lexeme, e) :: args, by simp, ?_, rfl, ?_⟩
      · simp [hlex]
      · exact List.forall_mem_cons.2 ⟨hder, hders⟩
    · exact hstop hread
  · exact hstop hread

/-- Arguments in parentheses are a first one and further ones, or none. -/
theorem Sound.arguments_succ {ts : List Token} {es : List Expr} {rest : List Token}
    (hread : readArguments (n + 1) ts = some (es, rest)) : ReadsArguments ts es rest := by
  rw [readArguments.eq_def] at hread
  dsimp only at hread
  split at hread
  · rename_i s rest'
    split at hread
    · rename_i s' rest'' hclosing
      cases hread
      split at hclosing
      · rename_i first rest3 hfirst
        obtain ⟨us, rfl, hder⟩ := h.conditional hfirst
        generalize hmore : readMoreArguments n rest3 = more at hclosing
        obtain ⟨more, rest4⟩ := more
        dsimp only at hclosing
        subst hclosing
        obtain ⟨vs, args, rfl, hlex, rfl, hders⟩ := h.moreArguments hmore
        refine ⟨⟨.opening, s⟩ :: us ++ vs ++ [⟨.closing, s'⟩],
          (us.map Token.lexeme, first) :: args, by simp, ?_, by simp, ?_⟩
        · simp [hlex, separated_cons]
        · exact List.forall_mem_cons.2 ⟨hder, hders⟩
      · -- no formula could be read behind the opening parenthesis
        dsimp only at hclosing
        subst hclosing
        exact ⟨[⟨.opening, s⟩, ⟨.closing, s'⟩], [], rfl, rfl, rfl, by simp⟩
    · cases hread
  · cases hread

end Step

/-- Every reader takes what the grammar derives. -/
theorem sound (n : ℕ) : Sound n := by
  induction n with
  | zero =>
    refine ⟨fun h ↦ ?_, fun h ↦ ?_, fun _ h ↦ ?_, fun _ hleft h ↦ ?_, fun h ↦ ?_, fun h ↦ ?_,
      fun h ↦ ?_, fun h ↦ ?_⟩
    -- with nothing left of the bound a chain and further arguments end, and all else fails
    all_goals cases h
    · exact ⟨[], rfl, by simpa using hleft⟩
    · exact ⟨[], [], rfl, rfl, rfl, by simp⟩
  | succ n ih =>
    exact ⟨ih.conditional_succ, ih.branches_succ, ih.binary_succ, ih.chain_succ, ih.unary_succ,
      ih.operand_succ, ih.arguments_succ, ih.moreArguments_succ⟩

/-- What `ofTokens` accepts is derived. -/
theorem derives_of_ofTokens {ts : List Token} {e : Expr} (h : ofTokens ts = .ok e) :
    Derives 1 (ts.map Token.lexeme) e := by
  rw [ofTokens] at h
  split at h
  · rename_i hread
    cases h
    obtain ⟨us, rfl, hder⟩ := (sound _).conditional hread
    simpa using hder
  · cases h
  · cases h

end FormWizard.Expr
