import FormWizard.Proofs.Expr.Soundness

/-!
# What is derived is taken by the readers

The converse of soundness, and the part in which bounds matter. `Expr.Stops k rest` says that
nothing at the start of `rest` could belong to a formula of strength `k` in front of it, and
`Expr.Takes read k ts e` that with a bound that is large enough a reader takes just `ts` out of
`ts ++ rest`. The bound that is needed falls by two with each level of strength, since a reader of
one level calls that of the next, and grows by twelve with each token.

The operators of one level are no exception to this but need more: their left operand is of their
own level and does not stop in front of the operator. What the reader of the level does behind a
formula of the level is to go on with its chain, which is what `Expr.Complete.chain` says.

* `Expr.complete` holds of all derivations, by induction on them with one lemma for each rule.
* `Expr.ofTokens_eq_ok` is both directions for whole lists.
-/

namespace FormWizard.Expr

/-! ### Where a formula stops -/

/-- Nothing at the start of the tokens could belong to a formula of strength `k` before them. -/
def Stops (k : ℕ) (rest : List Token) : Prop :=
  ∀ t ∈ rest.head?, t.lexeme ≠ .point ∧ t.lexeme ≠ .opening ∧
    (∀ op, t.lexeme.Joins op → op.strength < k) ∧ (k ≤ 1 → t.lexeme ≠ .question)

theorem stops_nil (k : ℕ) : Stops k [] := by
  rintro t ⟨⟩

/-- Where operators of a strength stop, stronger ones do. -/
theorem Stops.mono {k m : ℕ} {rest : List Token} (h : Stops k rest) (hkm : k ≤ m) :
    Stops m rest := by
  intro t ht
  obtain ⟨hpoint, hopening, hop, hquestion⟩ := h t ht
  exact ⟨hpoint, hopening, fun op hj ↦ (hop op hj).trans_le hkm, fun hm ↦ hquestion (hkm.trans hm)⟩

/-- What binds more strongly stops in front of an operator. -/
theorem stops_of_joins {t : Token} {op : BinaryOp} {rest : List Token} (h : t.lexeme.Joins op) :
    Stops (op.strength + 1) (t :: rest) := by
  rintro t' ⟨⟩
  refine ⟨?_, ?_, fun op' h' ↦ ?_, fun hk ↦ ?_⟩
  · rintro heq
    rw [heq] at h
    cases h
  · rintro heq
    rw [heq] at h
    cases h
  · rw [← operator?_eq_some] at h h'
    rw [h] at h'
    cases h'
    exact Nat.lt_succ_self _
  · cases op <;> simp [BinaryOp.strength] at hk

/-- The signs that end a part of a formula. -/
theorem stops_of_ends {k : ℕ} {t : Token} {rest : List Token}
    (h : t.lexeme = .colon ∨ t.lexeme = .comma ∨ t.lexeme = .closing) : Stops k (t :: rest) := by
  rintro t' ⟨⟩
  obtain h | h | h := h <;> rw [h] <;> exact ⟨nofun, nofun, nofun, nofun⟩

/-- All operators stop in front of a question mark. -/
theorem stops_question {k : ℕ} {t : Token} {rest : List Token} (h : t.lexeme = .question)
    (hk : 2 ≤ k) : Stops k (t :: rest) := by
  rintro t' ⟨⟩
  rw [h]
  exact ⟨nofun, nofun, nofun, by omega⟩

/-! ### What the readers do on derived tokens -/

/-- With a bound that is large enough the reader takes the tokens and leaves what follows, if that
could not belong to the formula. -/
def Takes (read : ℕ → List Token → Reading) (k : ℕ) (ts : List Token) (e : Expr) : Prop :=
  ∀ n rest, 12 * ts.length + 12 ≤ n + 2 * k → Stops k rest → read n (ts ++ rest) = .ok (e, rest)

/-- What the reader for a strength does on tokens that are a formula of this strength. -/
structure Complete (k : ℕ) (ts : List Token) (e : Expr) : Prop where
  /-- There are nine strengths. -/
  le : k ≤ 9
  /-- There is a token. -/
  pos : 0 < ts.length
  /-- A formula of any kind. -/
  conditional : k ≤ 1 → Takes readConditional 1 ts e
  /-- Behind a formula of a level, its reader goes on with the chain of the level. -/
  chain {level : Level} {tighter : List Level} : (level :: tighter) <:+ Level.all →
    k = 7 - tighter.length → ∀ n rest, 12 * ts.length + 12 ≤ n + 2 * k → Stops (k + 1) rest →
    ∃ m, n ≤ m + ts.length ∧
      readBinary n (level :: tighter) (ts ++ rest) = .ok (readChain m level tighter e rest)
  /-- An operand with the operators in front of it. -/
  unary : k = 8 → Takes readUnary 8 ts e
  /-- An operand. -/
  operand : k = 9 →
    (∀ t ∈ ts.head?, t.lexeme ≠ .bang ∧ t.lexeme ≠ .minus) ∧ Takes readOperand 9 ts e

theorem tighter_length_le {level : Level} {tighter : List Level}
    (h : (level :: tighter) <:+ Level.all) : tighter.length ≤ 5 := by
  have hlen := h.length_le
  simp only [List.length_cons, Level.all, List.length_nil] at hlen
  omega

/-- No choice goes on where any formula stops. -/
theorem readBranches_of_stops {rest : List Token} (h : Stops 1 rest) (n : ℕ) :
    readBranches n rest = none := by
  rw [readBranches.eq_def]
  split
  · rfl
  split
  · exact absurd rfl ((h _ rfl).2.2.2 le_rfl)
  · rfl

/-- No arguments stand where a formula stops. -/
theorem readArguments_of_stops {k : ℕ} {rest : List Token} (h : Stops k rest) (n : ℕ) :
    readArguments n rest = none := by
  rw [readArguments.eq_def]
  split
  · rfl
  split
  · exact absurd rfl (h _ rfl).2.1
  · rfl

/-- A chain ends where the level stops. -/
theorem readChain_of_stops {level : Level} {tighter : List Level} {rest : List Token}
    (hl : (level :: tighter) <:+ Level.all) (h : Stops (7 - tighter.length) rest) (n : ℕ)
    (e : Expr) : readChain n level tighter e rest = (e, rest) := by
  rw [readChain.eq_def]
  split
  · rfl
  split
  · rfl
  rename_i t rest'
  split
  · rfl
  rename_i op hop
  obtain ⟨-, -, hstrength, -⟩ := h t rfl
  refine if_neg fun hlevel ↦ ?_
  have hlt := hstrength op (operator?_eq_some.1 hop)
  rw [(strength_eq_iff hl).2 hlevel] at hlt
  exact hlt.false

section Rules

variable {k : ℕ} {ts us vs : List Token} {e e' e'' : Expr}

/-- A reader of binary operators takes what is of the strength of its weakest level. -/
theorem Complete.binary (h : Complete k ts e) {levels : List Level} (hl : levels <:+ Level.all)
    (hk : k = 8 - levels.length) {n : ℕ} {rest : List Token}
    (hn : 12 * ts.length + 13 ≤ n + 2 * k) (hstops : Stops k rest) :
    readBinary n levels (ts ++ rest) = .ok (e, rest) := by
  rcases levels with _ | ⟨level, tighter⟩
  · subst hk
    rcases n with _ | n
    · simp only [List.length_nil] at hn
      have := h.pos
      omega
    exact h.unary rfl n rest (by simp only [List.length_nil] at hn; omega) hstops
  · have hk' : k = 7 - tighter.length := by
      simp only [List.length_cons] at hk
      omega
    obtain ⟨m, -, hread⟩ := h.chain hl hk' n rest (by omega) (hstops.mono (Nat.le_succ _))
    rw [hread, readChain_of_stops hl (hk' ▸ hstops)]

/-- What stronger readers take whole, weaker ones do, since they begin with these. -/
theorem Complete.tighter (h : Complete (k + 1) ts e) : Complete k ts e := by
  have hle := h.le
  have hpos := h.pos
  refine ⟨by omega, hpos, fun hk ↦ ?_, fun {level tighter} hl hk n rest hn hstops ↦ ?_,
    fun hk n rest hn hstops ↦ ?_, by omega⟩
  · -- a formula with operators only: no question mark follows it
    obtain rfl | rfl : k = 0 ∨ k = 1 := by omega
    · exact h.conditional le_rfl
    intro n rest hn hstops
    rcases n with _ | n
    · omega
    have hbinary : readBinary n Level.all (ts ++ rest) = .ok (e, rest) :=
      h.binary (List.suffix_refl _) rfl (by omega) (hstops.mono (Nat.le_succ _))
    simp only [readConditional, bind, Except.bind, hbinary, readBranches_of_stops hstops]
    rfl
  · -- a formula of the next level: it is the first one of a chain
    have hlen := tighter_length_le hl
    obtain ⟨htighter, hsucc⟩ := tighter_suffix hl
    rcases n with _ | n
    · omega
    have hbinary : readBinary n tighter (ts ++ rest) = .ok (e, rest) :=
      h.binary htighter (by omega) (by omega) hstops
    refine ⟨n, by omega, ?_⟩
    simp only [readBinary, bind, Except.bind, hbinary]
    rfl
  · -- an operand by itself: it starts with no operator
    subst hk
    obtain ⟨hhead, hread⟩ := h.operand rfl
    rcases n with _ | n
    · omega
    have hoperand := hread n rest (by omega) (hstops.mono (Nat.le_succ _))
    obtain ⟨⟨l, s⟩, ts, rfl⟩ := List.exists_cons_of_length_pos hpos
    obtain ⟨hbang, hminus⟩ := hhead _ rfl
    rw [List.cons_append] at hoperand ⊢
    rw [readUnary]
    · exact hoperand
    · rintro s' rest' heq
      cases heq
      exact hbang rfl
    · rintro s' rest' heq
      cases heq
      exact hminus rfl

theorem Complete.branches {q c : Token} (hq : q.lexeme = .question) (hc : c.lexeme = .colon)
    (ht : Complete 1 us e) (he : Complete 1 vs e') {n : ℕ} {rest : List Token}
    (hn : 12 * (us.length + vs.length) + 12 ≤ n) (hstops : Stops 1 rest) :
    readBranches n (q :: us ++ c :: (vs ++ rest)) = some (e, e', rest) := by
  obtain ⟨_, s⟩ := q
  obtain ⟨_, s'⟩ := c
  subst hq hc
  rcases n with _ | n
  · omega
  have hus := ht.conditional le_rfl n (⟨.colon, s'⟩ :: (vs ++ rest)) (by omega)
    (stops_of_ends (.inl rfl))
  have hvs := he.conditional le_rfl n rest (by omega) hstops
  simp only [readBranches, List.cons_append, hus, hvs]

/-- A condition is taken first, and its branches behind it. -/
theorem Complete.choice {q c : Token} (hq : q.lexeme = .question) (hc : c.lexeme = .colon)
    (h : Complete 2 ts e) (ht : Complete 1 us e') (he : Complete 1 vs e'') :
    Complete 1 (ts ++ q :: us ++ c :: vs) (.conditional e e' e'') := by
  have hpos : 0 < (ts ++ q :: us ++ c :: vs).length := by
    simp only [List.length_append, List.length_cons]
    omega
  refine ⟨by omega, hpos, fun _ n rest hn hstops ↦ ?_, fun hl hk ↦ ?_, by omega, by omega⟩
  · simp only [List.length_append, List.length_cons] at hn
    rcases n with _ | n
    · omega
    have hcondition : readBinary n Level.all (ts ++ (q :: us ++ c :: (vs ++ rest))) =
        .ok (e, q :: us ++ c :: (vs ++ rest)) :=
      h.binary (List.suffix_refl _) rfl (by omega) (stops_question hq le_rfl)
    have hbranches : readBranches n (q :: us ++ c :: (vs ++ rest)) = some (e', e'', rest) :=
      ht.branches hq hc he (by omega) hstops
    simp only [List.append_assoc, List.cons_append] at hcondition hbranches ⊢
    simp only [readConditional, bind, Except.bind, hcondition, hbranches]
    rfl
  · have hlen := tighter_length_le hl
    omega

/-- The chain of a level goes on behind a left operand with its operator. -/
theorem Complete.operator {t : Token} {op : BinaryOp} (ht : t.lexeme.Joins op)
    (hl : Complete op.strength us e) (hr : Complete (op.strength + 1) vs e') :
    Complete op.strength (us ++ t :: vs) (.binary op e e') := by
  have hop : 2 ≤ op.strength ∧ op.strength ≤ 7 := by cases op <;> decide
  have hpos : 0 < (us ++ t :: vs).length := by
    simp only [List.length_append, List.length_cons]
    omega
  refine ⟨by omega, hpos, by omega, fun {level tighter} hlevels hk n rest hn hstops ↦ ?_,
    by omega, by omega⟩
  obtain ⟨htighter, hsucc⟩ := tighter_suffix hlevels
  simp only [List.length_append, List.length_cons] at hn
  -- the left operand is of the same level, whose reader goes on behind it with the operator
  obtain ⟨m, hm, hleft⟩ := hl.chain hlevels hk n (t :: vs ++ rest) (by omega) (stops_of_joins ht)
  rcases m with _ | m
  · omega
  have hright : readBinary m tighter (vs ++ rest) = .ok (e', rest) :=
    hr.binary htighter (by omega) (by omega) hstops
  refine ⟨m, by simp only [List.length_append, List.length_cons]; omega, ?_⟩
  rw [List.append_assoc, hleft, List.cons_append, readChain]
  simp only [operator?_eq_some.2 ht, if_pos ((strength_eq_iff hlevels).1 hk), hright]

theorem Complete.ofUnary (hpos : 0 < ts.length) (h : Takes readUnary 8 ts e) : Complete 8 ts e := by
  refine ⟨by omega, hpos, by omega, fun hl hk ↦ ?_, fun _ ↦ h, by omega⟩
  omega

/-- What is read as an operand is taken whole if no sign stands in front of it. -/
theorem Complete.ofOperand (hpos : 0 < ts.length)
    (hhead : ∀ t ∈ ts.head?, t.lexeme ≠ .bang ∧ t.lexeme ≠ .minus) (h : Takes readOperand 9 ts e) :
    Complete 9 ts e := by
  refine ⟨by omega, hpos, by omega, fun hl hk ↦ ?_, by omega, fun _ ↦ ⟨hhead, h⟩⟩
  omega

/-- A sign is taken with the operand behind it. -/
theorem Complete.prefixed {t : Token} {op : UnaryOp}
    (ht : t.lexeme = .bang ∧ op = .not ∨ t.lexeme = .minus ∧ op = .negate) (h : Complete 8 ts e) :
    Complete 8 (t :: ts) (.unary op e) := by
  refine .ofUnary (Nat.succ_pos _) fun n rest hn hstops ↦ ?_
  rw [List.length_cons] at hn
  rcases n with _ | n
  · omega
  have hread := h.unary rfl n rest (by omega) hstops
  obtain ⟨_, s⟩ := t
  obtain ⟨rfl, rfl⟩ | ⟨rfl, rfl⟩ := ht <;> rw [List.cons_append, readUnary, hread]

/-- A formula in parentheses is taken with these. -/
theorem Complete.parenthesized {t t' : Token} (ht : t.lexeme = .opening)
    (ht' : t'.lexeme = .closing) (h : Complete 1 ts e) : Complete 9 (t :: ts ++ [t']) e := by
  obtain ⟨_, s⟩ := t
  obtain ⟨_, s'⟩ := t'
  subst ht ht'
  refine .ofOperand (Nat.succ_pos _) (by simp) fun n rest hn _ ↦ ?_
  simp only [List.length_append, List.length_cons, List.length_nil] at hn
  rcases n with _ | n
  · omega
  have hinside := h.conditional le_rfl n (⟨.closing, s'⟩ :: rest) (by omega)
    (stops_of_ends (.inr (.inr rfl)))
  simp only [List.cons_append, List.append_assoc, List.nil_append, readOperand, hinside]

/-! ### Names and calls -/

/-- Members are taken as long as points follow. -/
theorem readMembers_append {members : List String} {rest : List Token}
    (hts : ts.map Token.lexeme = dotted members) (hrest : ∀ t ∈ rest.head?, t.lexeme ≠ .point) :
    readMembers (ts ++ rest) = (members, rest) := by
  induction members generalizing ts with
  | nil =>
    obtain rfl := List.map_eq_nil_iff.1 hts
    rw [List.nil_append, readMembers.eq_def]
    split
    · exact absurd rfl (hrest _ rfl)
    · rfl
  | cons m members ih =>
    rw [dotted_cons] at hts
    obtain ⟨⟨_, s⟩, us, rfl, hpoint, hus⟩ := List.map_eq_cons_iff.1 hts
    obtain ⟨⟨_, s'⟩, vs, rfl, hname, hvs⟩ := List.map_eq_cons_iff.1 hus
    subst hpoint hname
    rw [List.cons_append, List.cons_append, readMembers, ih hvs]

/-- A name with its members is read first, and what is behind it decides what it is. -/
theorem readOperand_name {t : Token} {root : String} {members : List String} {rest : List Token}
    (ht : t.lexeme = .name root) (hts : ts.map Token.lexeme = dotted members)
    (hrest : ∀ t ∈ rest.head?, t.lexeme ≠ .point) (n : ℕ) :
    readOperand (n + 1) (t :: ts ++ rest) =
      match readArguments n rest with
      | some (args, rest) => .ok (.call (calledName root members) args, rest)
      | none => .ok (ofName root members, rest) := by
  obtain ⟨_, s⟩ := t
  subst ht
  rcases hargs : readArguments n rest with _ | ⟨args, rest'⟩
  · simp only [List.cons_append, readOperand, readMembers_append hts hrest, hargs]
  · simp only [List.cons_append, readOperand, readMembers_append hts hrest, hargs]

theorem ofName_of_mem_keywords {root : String} {v : Value} (h : (root, v) ∈ keywords) :
    ofName root [] = .literal v := by
  simp only [keywords, List.mem_cons, Prod.mk.injEq, List.not_mem_nil, or_false] at h
  obtain ⟨rfl, rfl⟩ | ⟨rfl, rfl⟩ | ⟨rfl, rfl⟩ | ⟨rfl, rfl⟩ := h <;> rfl

/-- A name that is not a keyword on its own is a variable. -/
theorem ofName_of_not_mem_keywords {root : String} {members : List String}
    (h : members = [] → root ∉ keywords.map Prod.fst) :
    ofName root members = .variable ⟨root, members⟩ := by
  rcases members with _ | ⟨m, members⟩
  · have hroot := h rfl
    simp only [keywords, List.map_cons, List.map_nil, List.mem_cons, List.not_mem_nil, or_false,
      not_or] at hroot
    obtain ⟨htrue, hfalse, hnull, hundefined⟩ := hroot
    simp [ofName, htrue, hfalse, hnull, hundefined]
  · rfl

/-- A function is called under the name that the grammar has for it. -/
theorem calledName_of_calls {root f : String} {members : List String}
    (h : Calls root members f) : calledName root members = f := by
  cases h with
  | math => rfl
  | dotted h =>
    rw [calledName.eq_def]
    split
    · rename_i name
      rw [if_neg fun hroot ↦ h ⟨hroot, rfl⟩]
      rfl
    · rfl

/-- A name is taken with its members. -/
theorem Complete.ofNamed {t : Token} {root : String} {members : List String}
    (ht : t.lexeme = .name root) (hts : ts.map Token.lexeme = dotted members) :
    Complete 9 (t :: ts) (ofName root members) := by
  refine .ofOperand (Nat.succ_pos _) (by rintro _ ⟨⟩; simp [ht]) fun n rest hn hstops ↦ ?_
  rw [List.length_cons] at hn
  rcases n with _ | n
  · omega
  rw [readOperand_name ht hts fun t ht ↦ (hstops t ht).1, readArguments_of_stops hstops]

section Arguments

variable {args : List (List Lexeme × Expr)} {t t' t'' : Token}

/-- Behind an argument is a comma or the closing parenthesis. -/
theorem stops_arguments (ht : t.lexeme = .closing)
    (hts : ts.map Token.lexeme = (args.map Prod.fst).flatMap (.comma :: ·)) (rest : List Token) :
    Stops 1 (ts ++ t :: rest) := by
  rcases args with _ | ⟨a, args⟩
  · obtain rfl := List.map_eq_nil_iff.1 hts
    exact stops_of_ends (.inr (.inr ht))
  · rw [List.map_cons, List.flatMap_cons, List.cons_append] at hts
    obtain ⟨c, us, rfl, hc, -⟩ := List.map_eq_cons_iff.1 hts
    exact stops_of_ends (.inr (.inl hc))

/-- No formula starts with a closing parenthesis. -/
theorem readConditional_closing (ht : t.lexeme = .closing) (n : ℕ) (rest : List Token) :
    ∃ unread, readConditional n (t :: rest) = .error unread := by
  rcases hread : readConditional n (t :: rest) with unread | ⟨e, rest'⟩
  · exact ⟨unread, rfl⟩
  -- what was read would start with the parenthesis
  obtain ⟨us, hus, hder⟩ := (sound n).conditional hread
  obtain ⟨l, hl, hstarts⟩ := hder.shaped.begins
  rcases us with _ | ⟨u, us⟩
  · cases hl
  obtain ⟨rfl, -⟩ := List.cons.inj hus
  cases hl
  rw [ht] at hstarts
  cases hstarts

variable (hargs : ∀ a ∈ args, ∀ us : List Token, us.map Token.lexeme = a.1 → Complete 1 us a.2)
include hargs

/-- The arguments from the second one on, up to the closing parenthesis. -/
theorem readMoreArguments_append (ht : t.lexeme = .closing)
    (hts : ts.map Token.lexeme = (args.map Prod.fst).flatMap (.comma :: ·)) {n : ℕ}
    (hn : 12 * ts.length < n) (rest : List Token) :
    readMoreArguments n (ts ++ t :: rest) = (args.map Prod.snd, t :: rest) := by
  induction args generalizing ts n with
  | nil =>
    obtain rfl := List.map_eq_nil_iff.1 hts
    rcases n with _ | n
    · omega
    rw [List.nil_append, readMoreArguments]
    · rfl
    · rintro s' rest' heq
      cases heq
      cases ht
  | cons a args ih =>
    obtain ⟨ha, hargs⟩ := List.forall_mem_cons.1 hargs
    rw [List.map_cons, List.flatMap_cons, List.cons_append] at hts
    obtain ⟨⟨_, s⟩, us, rfl, hcomma, hus⟩ := List.map_eq_cons_iff.1 hts
    obtain ⟨vs, ws, rfl, hvs, hws⟩ := List.map_eq_append_iff.1 hus
    subst hcomma
    simp only [List.length_cons, List.length_append] at hn
    rcases n with _ | n
    · omega
    have hfirst := (ha vs hvs).conditional le_rfl n _ (by omega) (stops_arguments ht hws rest)
    have hmore := ih hargs hws (n := n) (by omega)
    simp only [List.cons_append, List.append_assoc, readMoreArguments, hfirst, hmore]
    rfl

/-- Arguments in parentheses are taken whole. -/
theorem readArguments_append (ht : t.lexeme = .opening) (ht' : t'.lexeme = .closing)
    (hts : ts.map Token.lexeme = separated (args.map Prod.fst)) {n : ℕ}
    (hn : 12 * ts.length + 12 < n) (rest : List Token) :
    readArguments n (t :: ts ++ t' :: rest) = some (args.map Prod.snd, rest) := by
  obtain ⟨_, s⟩ := t
  subst ht
  rcases n with _ | n
  · omega
  rw [List.cons_append, readArguments]
  rcases args with _ | ⟨a, args⟩
  · obtain rfl := List.map_eq_nil_iff.1 hts
    obtain ⟨unread, hunread⟩ := readConditional_closing ht' n rest
    obtain ⟨_, s'⟩ := t'
    subst ht'
    rw [List.nil_append, hunread]
    rfl
  · obtain ⟨ha, hargs⟩ := List.forall_mem_cons.1 hargs
    rw [List.map_cons, separated_cons] at hts
    obtain ⟨us, vs, rfl, hus, hvs⟩ := List.map_eq_append_iff.1 hts
    rw [List.length_append] at hn
    have hfirst := (ha us hus).conditional le_rfl n _ (by omega) (stops_arguments ht' hvs rest)
    have hmore := readMoreArguments_append hargs ht' hvs (n := n) (by omega) rest
    obtain ⟨_, s'⟩ := t'
    subst ht'
    rw [List.append_assoc, hfirst]
    dsimp only
    rw [hmore]
    rfl

/-- The name of a function is taken with its arguments. -/
theorem Complete.called {root f : String} {members : List String} (ht : t.lexeme = .name root)
    (ht' : t'.lexeme = .opening) (ht'' : t''.lexeme = .closing) (hf : Calls root members f)
    (hts : ts.map Token.lexeme = dotted members)
    (hus : us.map Token.lexeme = separated (args.map Prod.fst)) :
    Complete 9 (t :: ts ++ t' :: us ++ [t'']) (.call f (args.map Prod.snd)) := by
  refine .ofOperand (Nat.succ_pos _) (by rintro _ ⟨⟩; simp [ht]) fun n rest hn hstops ↦ ?_
  simp only [List.length_append, List.length_cons, List.length_nil] at hn
  rcases n with _ | n
  · omega
  have hsome := readArguments_append hargs ht' ht'' hus (n := n) (by omega) rest
  have hpoint : ∀ u ∈ (t' :: us ++ t'' :: rest).head?, u.lexeme ≠ .point := by
    rintro u ⟨⟩
    simp [ht']
  have hread := readOperand_name ht hts hpoint n
  rw [hsome] at hread
  simpa [calledName_of_calls hf] using hread

end Arguments

end Rules

/-! ### All derivations -/

/-- The readers take what is derived. -/
theorem complete {k : ℕ} {ls : List Lexeme} {e : Expr} (h : Derives k ls e) {ts : List Token}
    (hts : ts.map Token.lexeme = ls) : Complete k ts e := by
  -- the tokens are cut where the derivation cuts the lexemes
  induction h generalizing ts with
  | tighter _ ih => exact (ih hts).tighter
  | conditional _ _ _ ihc iht ihe =>
    obtain ⟨us, ws, rfl, hus, hws⟩ := List.map_eq_append_iff.1 hts
    obtain ⟨vs, c, rfl, hvs, hc⟩ := List.map_eq_append_iff.1 hus
    obtain ⟨q, vs', rfl, hq, hvs'⟩ := List.map_eq_cons_iff.1 hc
    obtain ⟨c, ws, rfl, hc, hws⟩ := List.map_eq_cons_iff.1 hws
    exact .choice hq hc (ihc hvs) (iht hvs') (ihe hws)
  | binary hsign _ _ ihl ihr =>
    obtain ⟨us, vs, rfl, hus, hvs⟩ := List.map_eq_append_iff.1 hts
    obtain ⟨t, ws, rfl, rfl, hws⟩ := List.map_eq_cons_iff.1 hvs
    exact .operator hsign (ihl hus) (ihr hws)
  | not _ ih =>
    obtain ⟨t, ts, rfl, ht, hts⟩ := List.map_eq_cons_iff.1 hts
    exact .prefixed (.inl ⟨ht, rfl⟩) (ih hts)
  | negate _ ih =>
    obtain ⟨t, ts, rfl, ht, hts⟩ := List.map_eq_cons_iff.1 hts
    exact .prefixed (.inr ⟨ht, rfl⟩) (ih hts)
  | number x =>
    obtain ⟨⟨_, s⟩, rfl, rfl⟩ := List.map_eq_singleton_iff.1 hts
    refine .ofOperand Nat.one_pos (by simp) fun n rest hn _ ↦ ?_
    rcases n with _ | n
    · simp at hn
    rfl
  | quoted s =>
    obtain ⟨⟨_, s'⟩, rfl, rfl⟩ := List.map_eq_singleton_iff.1 hts
    refine .ofOperand Nat.one_pos (by simp) fun n rest hn _ ↦ ?_
    rcases n with _ | n
    · simp at hn
    rfl
  | keyword hmem =>
    obtain ⟨t, rfl, ht⟩ := List.map_eq_singleton_iff.1 hts
    rw [← ofName_of_mem_keywords hmem]
    exact .ofNamed ht rfl
  | var hkeyword =>
    obtain ⟨t, ts, rfl, ht, hts⟩ := List.map_eq_cons_iff.1 hts
    rw [← ofName_of_not_mem_keywords hkeyword]
    exact .ofNamed ht hts
  | call hf _ ih =>
    obtain ⟨us, vs, rfl, hus, hvs⟩ := List.map_eq_append_iff.1 hts
    obtain ⟨t'', rfl, ht''⟩ := List.map_eq_singleton_iff.1 hvs
    obtain ⟨xs, ys, rfl, hxs, hys⟩ := List.map_eq_append_iff.1 hus
    obtain ⟨t, names, rfl, ht, hnames⟩ := List.map_eq_cons_iff.1 hxs
    obtain ⟨t', inside, rfl, ht', hinside⟩ := List.map_eq_cons_iff.1 hys
    exact .called (fun a ha us hus ↦ ih a ha hus) ht ht' ht'' hf hnames hinside
  | parenthesized _ ih =>
    obtain ⟨us, vs, rfl, hus, hvs⟩ := List.map_eq_append_iff.1 hts
    obtain ⟨t', rfl, ht'⟩ := List.map_eq_singleton_iff.1 hvs
    obtain ⟨t, us, rfl, ht, hus⟩ := List.map_eq_cons_iff.1 hus
    exact .parenthesized ht ht' (ih hus)

/-- A list of tokens is read as a formula exactly if the grammar derives this formula. -/
theorem ofTokens_eq_ok {ts : List Token} {e : Expr} :
    ofTokens ts = .ok e ↔ Derives 1 (ts.map Token.lexeme) e := by
  refine ⟨derives_of_ofTokens, fun h ↦ ?_⟩
  have hread := (complete h rfl).conditional le_rfl (12 * ts.length + 12) [] (by omega)
    (stops_nil 1)
  rw [List.append_nil] at hread
  rw [ofTokens, hread]

end FormWizard.Expr
