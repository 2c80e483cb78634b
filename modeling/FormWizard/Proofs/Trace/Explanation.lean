import FormWizard.Proofs.Expr.Regrouping
import FormWizard.Proofs.Number.ReadBack
import FormWizard.Proofs.Trace.Inputs

/-!
# What an explanation reads as

An explanation is a formula with notes on the values that were read. `Trace.piecesIn` tells the two
kinds of pieces apart, and all pieces in a row are the explanation (`Trace.textIn_eq`). Without the
notes it is a text like that of any formula. It need not be that of the formula explained:

* parentheses stand around operands that bind more weakly than the operator around them, so a right
  operand of the same level has none and is read as part of a chain (`Expr.graft`);
* a number too large for a float is shown as `inf`, which is read as a variable;
* a name `return` in front is read as the word of older documents.

Nothing else is lost if every operator has looked at both operands and the formula has no choice and
no quotes in a text: `Expr.ofSource_withoutNotes_eq_iff`. It rests on `Expr.shows_of_explains`, one
case for each kind of trace.
-/

namespace FormWizard

namespace Trace

/-! ### The pieces of an explanation -/

/-- Induction on traces, with the arguments of a call by membership. -/
@[induction_eliminator]
theorem induct {motive : Trace → Prop} (literal : ∀ v, motive (.literal v))
    (input : ∀ v x, motive (.input v x)) (unary : ∀ op t v, motive t → motive (.unary op t v))
    (binary : ∀ op l r v, motive l → motive r → motive (.binary op l r v))
    (decided : ∀ op l, motive l → motive (.decided op l))
    (conditional : ∀ c b, motive c → motive b → motive (.conditional c b))
    (call : ∀ f ts v, (∀ t ∈ ts, motive t) → motive (.call f ts v)) (t : Trace) : motive t :=
  @Trace.rec motive (fun ts ↦ ∀ t ∈ ts, motive t) literal input unary binary decided conditional
    (fun f ts v ↦ call f ts v) (fun _ h ↦ absurd h List.not_mem_nil)
    (fun _ _ head tail _ h ↦ (List.mem_cons.1 h).elim (fun h ↦ h ▸ head) (tail _)) t

/-- A piece of an explanation. -/
inductive Piece where
  /-- A part of the formula. -/
  | formula (s : String)
  /-- A note on the value that was read from the variable in front of it. -/
  | note (v : Value)

/-- The piece as it is written. -/
def Piece.toText : Piece → String
  | .formula s => s
  | .note v => s!" (was {v.literal})"

/-- The piece without notes. -/
def Piece.toFormula : Piece → String
  | .formula s => s
  | .note _ => ""

@[simp]
theorem Piece.toText_formula (s : String) : (Piece.formula s).toText = s := rfl

@[simp]
theorem Piece.toText_note (v : Value) : (Piece.note v).toText = s!" (was {v.literal})" := rfl

@[simp]
theorem Piece.toFormula_formula (s : String) : (Piece.formula s).toFormula = s := rfl

@[simp]
theorem Piece.toFormula_note (v : Value) : (Piece.note v).toFormula = "" := rfl

/-- Puts parentheses around pieces that bind more weakly than what stands around them. -/
def encloseAll (strength around : ℕ) (ps : List Piece) : List Piece :=
  if strength < around then .formula "(" :: ps ++ [.formula ")"] else ps

mutual

/-- The pieces of the text of a trace inside something that binds with the given strength. -/
def piecesIn (around : ℕ) (t : Trace) : List Piece :=
  let own := t.strength
  encloseAll own around <| match t with
    | .literal v => [.formula v.literal]
    | .input source v => [.formula source.toText, .note v]
    | .unary op operand _ => .formula op.symbol :: piecesIn own operand
    | .binary op left right _ =>
      piecesIn own left ++ .formula s!" {op.symbol} " :: piecesIn own right
    | .decided _ left => piecesIn own left
    | .conditional condition branch =>
      piecesIn (own + 1) condition ++ .formula " ? " :: piecesIn own branch
    | .call function args _ =>
      .formula (function ++ "(") :: piecesOfAll args ++ [.formula ")"]

/-- The pieces of the arguments of a call, with commas between them. -/
def piecesOfAll : List Trace → List Piece
  | [] => []
  | [t] => piecesIn 0 t
  | t :: ts => piecesIn 0 t ++ .formula ", " :: piecesOfAll ts

end

/-- The text of the pieces without the notes. -/
def formulaIn (around : ℕ) (t : Trace) : String :=
  String.join ((piecesIn around t).map Piece.toFormula)

/-- An explanation without the notes. -/
def withoutNotes (t : Trace) : String := formulaIn 0 t

/-- The texts of the arguments of a call without the notes. -/
def formulaOfAll (ts : List Trace) : String := String.join ((piecesOfAll ts).map Piece.toFormula)

mutual

/-- Whether every operator has looked at both of its operands. -/
def isComplete : Trace → Bool
  | .literal _ => true
  | .input _ _ => true
  | .unary _ operand _ => isComplete operand
  | .binary _ left right _ => isComplete left && isComplete right
  | .decided _ _ => false
  | .conditional condition branch => isComplete condition && isComplete branch
  | .call _ args _ => areComplete args

/-- Whether every operator of a list of traces has. -/
def areComplete : List Trace → Bool
  | [] => true
  | t :: ts => isComplete t && areComplete ts

end

theorem isComplete_of_areComplete {ts : List Trace} (h : areComplete ts = true) :
    ∀ t ∈ ts, isComplete t = true := by
  induction ts with
  | nil => exact List.forall_mem_nil _
  | cons t ts ih =>
    obtain ⟨ht, hts⟩ := Bool.and_eq_true_iff.1 h
    exact List.forall_mem_cons.2 ⟨ht, ih hts⟩

/-- Parentheses around pieces are parentheses around their text. -/
theorem join_encloseAll (f : Piece → String) (hf : ∀ s, f (.formula s) = s) (own around : ℕ)
    (ps : List Piece) :
    String.join ((encloseAll own around ps).map f) =
      enclose own around (String.join (ps.map f)) := by
  rw [encloseAll, enclose]
  split_ifs
  · simp [hf, String.join_cons, String.join_append, String.append_assoc]
  · rfl

@[simp]
theorem join_toText_encloseAll (own around : ℕ) (ps : List Piece) :
    String.join ((encloseAll own around ps).map Piece.toText) =
      enclose own around (String.join (ps.map Piece.toText)) :=
  join_encloseAll _ Piece.toText_formula own around ps

@[simp]
theorem join_toFormula_encloseAll (own around : ℕ) (ps : List Piece) :
    String.join ((encloseAll own around ps).map Piece.toFormula) =
      enclose own around (String.join (ps.map Piece.toFormula)) :=
  join_encloseAll _ Piece.toFormula_formula own around ps

/-- The text of a list of traces is made of pieces if that of each of them is. -/
theorem textOfAll_eq {ts : List Trace}
    (h : ∀ t ∈ ts, textIn 0 t = String.join ((piecesIn 0 t).map Piece.toText)) :
    textOfAll ts = String.join ((piecesOfAll ts).map Piece.toText) := by
  induction ts with
  | nil => rfl
  | cons t ts ih =>
    obtain ⟨ht, hts⟩ := List.forall_mem_cons.1 h
    rcases ts with _ | ⟨u, ts⟩
    · exact ht
    · show textIn 0 t ++ ", " ++ textOfAll (u :: ts) =
        String.join ((piecesIn 0 t ++ .formula ", " :: piecesOfAll (u :: ts)).map Piece.toText)
      simp [ht, ih hts, String.append_assoc]

/-- The pieces make up the text. -/
theorem textIn_eq (around : ℕ) (t : Trace) :
    textIn around t = String.join ((piecesIn around t).map Piece.toText) := by
  induction t generalizing around with
  | literal v => simp [textIn, piecesIn]
  | input v x => simp [textIn, piecesIn, String.append_assoc]
  | unary op t v ih => simp [textIn, piecesIn, ih]
  | binary op l r v ihl ihr => simp [textIn, piecesIn, ihl, ihr, String.append_assoc]
  | decided op l ih => simp [textIn, piecesIn, ih]
  | conditional c b ihc ihb => simp [textIn, piecesIn, ihc, ihb, String.append_assoc]
  | call f ts v ih =>
    simp [textIn, piecesIn, textOfAll_eq fun t ht ↦ ih t ht 0, String.append_assoc]

/-! ### The text without the notes -/

section

variable {t l r : Trace} {v : Value}

/-- Only the parentheses around a formula depend on where it stands. -/
theorem formulaIn_eq (around : ℕ) (t : Trace) :
    formulaIn around t = enclose t.strength around (formulaIn 0 t) := by
  have henclosed : ∃ ps, ∀ k, piecesIn k t = encloseAll t.strength k ps := by
    cases t with
    | _ => exact ⟨_, fun k ↦ by rw [piecesIn]⟩
  obtain ⟨ps, hps⟩ := henclosed
  simp [formulaIn, hps, enclose]

theorem formulaIn_literal (v : Value) : formulaIn 0 (.literal v) = v.literal := by
  simp [formulaIn, piecesIn, enclose]

theorem formulaIn_input (source : Variable) (v : Value) :
    formulaIn 0 (.input source v) = source.toText := by
  simp [formulaIn, piecesIn, enclose]

theorem formulaIn_unary (op : UnaryOp) (t : Trace) (v : Value) :
    formulaIn 0 (.unary op t v) = op.symbol ++ formulaIn 8 t := by
  simp [formulaIn, piecesIn, enclose, strength]

/-- An operator is printed between its operands, both with its own strength around them. -/
theorem formulaIn_binary (op : BinaryOp) (l r : Trace) (v : Value) :
    formulaIn 0 (.binary op l r v) =
      formulaIn op.strength l ++ " " ++ op.symbol ++ " " ++ formulaIn op.strength r := by
  have hstrength : (Trace.binary op l r v).strength = op.strength := by cases op <;> rfl
  simp [formulaIn, piecesIn, hstrength, enclose, String.append_assoc]

theorem formulaIn_call (f : String) (ts : List Trace) (v : Value) :
    formulaIn 0 (.call f ts v) = f ++ "(" ++ formulaOfAll ts ++ ")" := by
  simp [formulaIn, piecesIn, enclose, formulaOfAll, String.append_assoc]

/-- Arguments are printed with commas between them. -/
theorem formulaOfAll_cons_cons (t u : Trace) (ts : List Trace) :
    formulaOfAll (t :: u :: ts) = formulaIn 0 t ++ ", " ++ formulaOfAll (u :: ts) := by
  show String.join ((piecesIn 0 t ++ .formula ", " :: piecesOfAll (u :: ts)).map
    Piece.toFormula) = _
  simp [formulaIn, formulaOfAll, String.append_assoc]

end

end Trace

namespace Expr

/-! ### Formulas that can be written -/

/-- Nothing is in the formula that cannot be read back from its text: no choice, of which only one
branch is shown, and no quoted text that holds the quote it is shown in. -/
def IsPlain : Expr → Prop
  | .conditional _ _ _ => False
  | .literal (.text s) => '"' ∉ s.toList
  | _ => True

/-- The formula is made of numbers and names that can be written. -/
inductive Printable : Expr → Prop where
  /-- A number that is written somehow. -/
  | number {x : Float} {cs : List Char} : (Lexeme.number x).Spelling cs →
      Printable (.literal (.number x))
  /-- A text without quotes. -/
  | text {s : String} : '"' ∉ s.toList → Printable (.literal (.text s))
  /-- A keyword. -/
  | keyword {s : String} {v : Value} : (s, v) ∈ keywords → Printable (.literal v)
  /-- A variable with its members. -/
  | var {root : String} {members : List String} : IsName root → (∀ m ∈ members, IsName m) →
      (members = [] → root ∉ keywords.map Prod.fst) → Printable (.variable ⟨root, members⟩)
  /-- An operator in front of a formula. -/
  | unary {op : UnaryOp} {e : Expr} : Printable e → Printable (.unary op e)
  /-- An operator between two formulas. -/
  | binary {op : BinaryOp} {l r : Expr} : Printable l → Printable r → Printable (.binary op l r)
  /-- A call. -/
  | call {f root : String} {members : List String} {args : List Expr} : Calls root members f →
      IsName root → (∀ m ∈ members, IsName m) → (∀ a ∈ args, Printable a) →
      Printable (.call f args)

/-- Members that are spelled behind points are names. -/
theorem isName_of_mem_dotted {members : List String}
    (h : ∀ l ∈ dotted members, ∃ w, l.Spelling w) : ∀ m ∈ members, IsName m := by
  intro m hm
  obtain ⟨w, hw⟩ := h (.name m) (List.mem_flatMap.2 ⟨m, hm, by simp⟩)
  exact isName_of_spelling hw

theorem subset_separated {ls : List Lexeme} {args : List (List Lexeme)} (h : ls ∈ args) :
    ls ⊆ separated args := by
  rcases args with _ | ⟨ms, more⟩
  · cases h
  · rw [separated_cons]
    obtain rfl | h := List.mem_cons.1 h
    · exact List.subset_append_left _ _
    · exact fun l hl ↦ List.mem_append_right _
        (List.mem_flatMap.2 ⟨ls, h, List.mem_cons_of_mem _ hl⟩)

/-- A plain formula that was read can be printed: its constants and names are spelled in its
source. -/
theorem printable_of_derives {k : ℕ} {ls : List Lexeme} {e : Expr} (h : Derives k ls e)
    (hspelled : ∀ l ∈ ls, ∃ w, l.Spelling w) (hplain : ∀ d : Expr, d.Within e → d.IsPlain) :
    e.Printable := by
  induction h with
  | tighter _ ih => exact ih hspelled hplain
  | conditional _ _ _ _ _ _ =>
    -- no plain formula has a choice
    exact (hplain _ (.refl _)).elim
  | @binary op sign ls rs l r _ _ _ ihl ihr =>
    obtain ⟨-, hl, hr⟩ := forall_within_binary.1 hplain
    refine .binary (ihl (fun l hl ↦ hspelled l ?_) hl) (ihr (fun l hl ↦ hspelled l ?_) hr)
    · exact List.mem_append_left _ hl
    · exact List.mem_append_right _ (List.mem_cons_of_mem _ hl)
  | not _ ih =>
    exact .unary (ih (List.forall_mem_cons.1 hspelled).2 (forall_within_unary.1 hplain).2)
  | negate _ ih =>
    exact .unary (ih (List.forall_mem_cons.1 hspelled).2 (forall_within_unary.1 hplain).2)
  | number x =>
    obtain ⟨w, hw⟩ := List.forall_mem_singleton.1 hspelled
    exact .number hw
  | quoted s => exact .text (hplain _ (.refl _))
  | keyword hmem => exact .keyword hmem
  | var hkeyword =>
    obtain ⟨⟨w, hw⟩, hmembers⟩ := List.forall_mem_cons.1 hspelled
    exact .var (isName_of_spelling hw) (isName_of_mem_dotted hmembers) hkeyword
  | @call root f members args hf _ ih =>
    obtain ⟨-, hparts⟩ := forall_within_iff.1 hplain
    rw [List.cons_append, List.cons_append] at hspelled
    obtain ⟨⟨w, hw⟩, hrest⟩ := List.forall_mem_cons.1 hspelled
    refine .call hf (isName_of_spelling hw)
      (isName_of_mem_dotted fun l hl ↦ hrest l (by simp [hl])) fun a ha ↦ ?_
    obtain ⟨p, hp, rfl⟩ := List.mem_map.1 ha
    refine ih p hp (fun l hl ↦ hrest l ?_) (hparts _ ha)
    have hmem := subset_separated (List.mem_map_of_mem (f := Prod.fst) hp) hl
    simp [hmem]
  | parenthesized _ ih =>
    refine ih (fun l hl ↦ hspelled l ?_) hplain
    exact List.mem_append_left _ (List.mem_cons_of_mem _ hl)

/-! ### What the text shows -/

/-- The text shows the formula to an operator of the given strength around it. -/
def Shows (k : ℕ) (s : String) (e : Expr) : Prop := ∃ ls, Spelled ls s.toList ∧ Continues k ls e

/-- A text that shows a formula is one that the grammar derives. -/
theorem Shows.derivable {k : ℕ} {s : String} {e : Expr} (h : Shows k s e) (hk : 1 ≤ k) :
    Derivable s e := by
  obtain ⟨ls, hls, hcontinues⟩ := h
  exact ⟨ls, hls, hcontinues.derives.mono hk⟩

/-- With the parentheses that it needs a formula is shown inside any operator. -/
theorem Shows.enclose {k : ℕ} {s : String} {e : Expr} (h : Shows e.strength s e) (hk : k ≤ 8) :
    Shows k (Trace.enclose e.strength k s) e := by
  obtain ⟨ls, hls, hcontinues⟩ := h
  rw [Trace.enclose]
  split_ifs with hlt
  · exact ⟨_, hls.parenthesized,
      .parenthesized (hcontinues.derives.mono e.one_le_strength) hlt hk⟩
  · obtain hlt | rfl := (Nat.not_lt.1 hlt).lt_or_eq
    · exact ⟨ls, hls, hcontinues.of_strength_lt hlt⟩
    · exact ⟨ls, hls, hcontinues⟩

/-- A name on its own shows the formula that it stands for. -/
theorem shows_name {s : String} {e : Expr} (hname : IsName s) (h : Derives 9 [.name s] e) :
    Shows 9 s e :=
  ⟨[.name s], .last hname, .of_lt h (by decide)⟩

/-- The text of a constant shows the constant as it comes back. -/
theorem shows_literal {v : Value} (h : (Expr.literal v).Printable) :
    Shows 9 v.literal (Expr.literal v).reread := by
  cases h with
  | @number x cs hx =>
    rw [reread]
    split_ifs with hfinite
    · exact ⟨[.number x], .last (Number.spelling_numberText hx hfinite),
        .of_lt (.number x) (by decide)⟩
    · have htext : (Value.number x).literal = "inf" :=
        Number.numberText_of_not_isFinite hx (Bool.eq_false_iff.2 hfinite)
      rw [htext]
      refine shows_name (.name rfl (List.all_eq_true.1 rfl)) (@Derives.var "inf" [] fun _ ↦ ?_)
      decide
  | @text s hquote =>
    refine ⟨[.quoted s], .last ?_, .of_lt (.quoted s) (by decide)⟩
    have hspelling : (Lexeme.quoted (String.ofList s.toList)).Spelling ('"' :: s.toList ++ ['"']) :=
      .quoted (.inl rfl) hquote
    rw [String.ofList_toList] at hspelling
    simpa [Value.literal, String.toList_append] using hspelling
  | keyword hmem =>
    simp only [keywords, List.mem_cons, Prod.mk.injEq, List.not_mem_nil, or_false] at hmem
    obtain ⟨-, rfl⟩ | ⟨-, rfl⟩ | ⟨-, rfl⟩ | ⟨-, rfl⟩ := hmem
    all_goals
      refine shows_name (.name rfl (List.all_eq_true.1 rfl)) (.keyword ?_)
      simp [keywords, Value.literal, Value.toText]

/-- A function is called by its own name. -/
theorem exists_calls {f root : String} {members : List String} (h : Calls root members f)
    (hroot : IsName root) (hmembers : ∀ m ∈ members, IsName m) :
    ∃ root' members', Calls root' members' f ∧
      Spelled (.name root' :: dotted members') f.toList := by
  cases h with
  | math =>
    have hcalls := @Calls.dotted f [] (by simp)
    rw [String.intercalate_singleton] at hcalls
    exact ⟨f, [], hcalls, .last (hmembers f List.mem_cons_self)⟩
  | dotted h => exact ⟨root, members, .dotted h, spelled_dotted hroot hmembers⟩

/-- Arguments that are printed one by one show a list of arguments. -/
theorem exists_separated {parts : List (Trace × Expr)} (hne : parts ≠ [])
    (h : ∀ p ∈ parts, Derivable (Trace.formulaIn 0 p.1) p.2.reread) :
    ∃ args : List (List Lexeme × Expr), (∀ a ∈ args, Derives 1 a.1 a.2) ∧
      args.map Prod.snd = rereadAll (parts.map Prod.snd) ∧
      Spelled (separated (args.map Prod.fst))
        (Trace.formulaOfAll (parts.map Prod.fst)).toList := by
  induction parts with
  | nil => exact absurd rfl hne
  | cons p parts ih =>
    obtain ⟨⟨ls, hls, hder⟩, hparts⟩ := List.forall_mem_cons.1 h
    rcases parts with _ | ⟨q, parts⟩
    · exact ⟨[(ls, p.2.reread)], List.forall_mem_singleton.2 hder, rfl, hls⟩
    · obtain ⟨args, hargs, hsnd, hspelled⟩ := ih (List.cons_ne_nil _ _) hparts
      have hcomma : Spelled [.comma] ",".toList := .sign (by decide)
      have hblank : ∀ c ∈ [' '], Token.isSeparator c := List.forall_mem_singleton.2 rfl
      rcases args with _ | ⟨a, args⟩
      · cases hsnd
      refine ⟨(ls, p.2.reread) :: a :: args, List.forall_mem_cons.2 ⟨hder, hargs⟩,
        congrArg (p.2.reread :: ·) hsnd, ?_⟩
      have happend := (hls.adjoin hcomma).append hblank hspelled
      have htext : (Trace.formulaOfAll ((p :: q :: parts).map Prod.fst)).toList =
          (Trace.formulaIn 0 p.1 ++ ",").toList ++ [' '] ++
            (Trace.formulaOfAll ((q :: parts).map Prod.fst)).toList := by
        rw [List.map_cons, List.map_cons, Trace.formulaOfAll_cons_cons, String.toList_append,
          String.toList_append, String.toList_append, List.append_assoc _ ",".toList]
        rfl
      rw [htext]
      rw [List.append_assoc] at happend
      exact happend

/-- Arguments between parentheses, none included. -/
theorem exists_arguments {parts : List (Trace × Expr)}
    (h : ∀ p ∈ parts, Derivable (Trace.formulaIn 0 p.1) p.2.reread) :
    ∃ args : List (List Lexeme × Expr), (∀ a ∈ args, Derives 1 a.1 a.2) ∧
      args.map Prod.snd = rereadAll (parts.map Prod.snd) ∧
      Spelled (.opening :: separated (args.map Prod.fst) ++ [.closing])
        ("(" ++ Trace.formulaOfAll (parts.map Prod.fst) ++ ")").toList := by
  rcases parts with _ | ⟨p, parts⟩
  · have hopening : Spelled [.opening] "(".toList := .sign (by decide)
    have hclosing : Spelled [.closing] ")".toList := .sign (by decide)
    exact ⟨[], List.forall_mem_nil _, rfl, hopening.adjoin hclosing⟩
  · obtain ⟨args, hargs, hsnd, hspelled⟩ := exists_separated (List.cons_ne_nil _ _) h
    exact ⟨args, hargs, hsnd, hspelled.parenthesized⟩

variable {fs : Registry} {t : Trace} {e : Expr}

/-- A trace is printed with the strength of its formula. -/
theorem strength_of_explains (h : t.Explains fs e) : t.strength = e.strength := by
  have hlevel (op : BinaryOp) : Trace.levelStrength op.level = op.strength := by
    cases op <;> rfl
  cases h with
  | binary => exact hlevel _
  | decided => exact hlevel _
  | _ => rfl

/-- Where it stands inside another a formula is shown with the parentheses that this takes. -/
theorem Shows.inside {k : ℕ} (h : Shows e.strength (Trace.formulaIn 0 t) e.reread)
    (ht : t.Explains fs e) (hk : k ≤ 8) : Shows k (Trace.formulaIn k t) e.reread := by
  rw [Trace.formulaIn_eq, strength_of_explains ht, ← strength_reread]
  rw [← strength_reread] at h
  exact h.enclose hk

/-- The text without the notes shows what the formula becomes. -/
theorem shows_of_explains (h : t.Explains fs e) (hcomplete : t.isComplete = true)
    (hprintable : e.Printable) : Shows e.strength (Trace.formulaIn 0 t) e.reread := by
  induction h with
  | literal v =>
    rw [Trace.formulaIn_literal]
    exact shows_literal hprintable
  | input v x =>
    cases hprintable with
    | var hroot hmembers hkeyword =>
      rw [Trace.formulaIn_input]
      exact ⟨_, spelled_dotted hroot hmembers, .of_lt (.var hkeyword) (show 7 < 9 by decide)⟩
  | @unary op t e v ht _ ih =>
    cases hprintable with
    | unary he =>
      obtain ⟨ls, hls, hcontinues⟩ := (ih hcomplete he).inside ht le_rfl
      rw [Trace.formulaIn_unary]
      -- a sign binds more strongly than any operator, so nothing continues what is in front of it
      cases op with
      | not =>
        have hsign : Spelled [.bang] "!".toList := .sign (by decide)
        exact ⟨_, hsign.adjoin hls, .of_lt (.not hcontinues.derives) (show 7 < 8 by decide)⟩
      | negate =>
        have hsign : Spelled [.minus] "-".toList := .sign (by decide)
        exact ⟨_, hsign.adjoin hls, .of_lt (.negate hcontinues.derives) (show 7 < 8 by decide)⟩
  | decided => cases hcomplete
  | @binary op t u l r v ht _ hu _ iht ihu =>
    cases hprintable with
    | binary hl hr =>
      obtain ⟨hcompletel, hcompleter⟩ := Bool.and_eq_true_iff.1 hcomplete
      have hbound : op.strength ≤ 8 := op.strength_bounds.2.trans (by decide)
      obtain ⟨ls, hls, hleft⟩ := (iht hcompletel hl).inside ht hbound
      obtain ⟨rs, hrs, hright⟩ := (ihu hcompleter hr).inside hu hbound
      obtain ⟨sign, hjoins, hsign⟩ := exists_sign op
      -- the right operand may be a chain of the same level, which goes on from the left one
      rw [Trace.formulaIn_binary]
      exact ⟨_, hls.joined hsign hrs, hleft.binary hjoins hright⟩
  | consequent => cases hprintable
  | alternative => cases hprintable
  | @call f parts v _ _ ih =>
    cases hprintable with
    | call hf hroot hmembers hargs =>
      have hparts : ∀ p ∈ parts, Derivable (Trace.formulaIn 0 p.1) p.2.reread := by
        intro p hp
        have hp' := Trace.isComplete_of_areComplete hcomplete p.1 (List.mem_map_of_mem hp)
        exact (ih p hp hp' (hargs _ (List.mem_map_of_mem hp))).derivable (one_le_strength _)
      obtain ⟨args, hder, hsnd, hspelled⟩ := exists_arguments hparts
      obtain ⟨root, members, hcalls, hname⟩ := exists_calls hf hroot hmembers
      have hcall := Derives.call hcalls hder
      rw [hsnd] at hcall
      have htext : Trace.formulaIn 0 (.call f (parts.map Prod.fst) v) =
          f ++ ("(" ++ Trace.formulaOfAll (parts.map Prod.fst) ++ ")") := by
        rw [Trace.formulaIn_call, String.append_assoc, String.append_assoc, String.append_assoc]
      rw [List.append_assoc] at hcall
      rw [htext, reread]
      exact ⟨_, hname.adjoin hspelled, .of_lt hcall (show 7 < 9 by decide)⟩

/-! ### Reading an explanation -/

/-- A formula that was read is made of what can be written. -/
theorem printable_of_ofSource {source : String} (hread : ofSource source = .ok e)
    (hplain : ∀ d : Expr, d.Within e → d.IsPlain) : e.Printable := by
  rw [ofSource] at hread
  split_ifs at hread
  split at hread
  · rename_i e' hread'
    cases hread
    have hder := derives_of_ofTokens hread'
    have hstray : ∀ t ∈ Token.scan (unwrap source.toList), t.lexeme ≠ .stray := fun t ht heq ↦
      hder.stray_notMem (heq ▸ List.mem_map_of_mem ht)
    obtain ⟨hnil, -⟩ | ⟨-, body, -, -, -, -, hbody⟩ :=
      Token.spelled_of_scanUpTo (Nat.lt_succ_self _) hstray
    · exact absurd (by rw [Token.scan, hnil, List.map_nil]) hder.shaped.ne_nil
    · exact printable_of_derives hder hbody.exists_spelling hplain
  · cases hread

/-- An explanation without its notes is read as what becomes of the formula, unless its first name
is taken for the word `return` of older documents. That is the formula itself exactly if no operator
has a right operand of its own level and all numbers are finite. -/
theorem ofSource_withoutNotes_eq_iff {source : String} {s : Scope}
    (hread : ofSource source = .ok e) (hplain : ∀ d : Expr, d.Within e → d.IsPlain)
    (htrace : e.trace fs s = .ok t) (hcomplete : t.isComplete = true) :
    t.toText = String.join ((t.piecesIn 0).map Trace.Piece.toText) ∧
      (withoutReturn t.withoutNotes.toList = t.withoutNotes.toList →
        ofSource t.withoutNotes = .ok e.reread) ∧
      (ofSource t.withoutNotes = .ok e ↔
        withoutReturn t.withoutNotes.toList = t.withoutNotes.toList ∧
          ∀ d : Expr, d.Within e → d.Survives) := by
  have hexplains := (trace_eq_ok_iff.1 htrace).1
  have hshows := shows_of_explains hexplains hcomplete (printable_of_ofSource hread hplain)
  have hwritten : Derivable t.withoutNotes e.reread := hshows.derivable e.one_le_strength
  refine ⟨Trace.textIn_eq 0 t, ?_⟩
  by_cases hreturn : withoutReturn t.withoutNotes.toList = t.withoutNotes.toList
  · have hreread : ofSource t.withoutNotes = .ok e.reread := ofSource_of_derivable hwritten hreturn
    refine ⟨fun _ ↦ hreread, ?_⟩
    rw [hreread, Except.ok.injEq, reread_eq_self_iff]
    exact (and_iff_right hreturn).symm
  · refine ⟨fun h ↦ absurd h hreturn, iff_of_false (fun hsource ↦ ?_) fun h ↦ hreturn h.1⟩
    -- without the word the text is one name shorter than that of a formula of the same size
    obtain ⟨ls, hls, hder⟩ := hwritten
    have hchain := hder.shaped.isChain
    obtain ⟨rs, rfl, hrs⟩ := spelled_unwrap hls hchain hreturn
    have hweight := ((ofSource_iff_derives hrs hchain.tail).1 hsource).weightOf_eq
    have hweight' := hder.weightOf_eq
    rw [weightOf_cons, hweight, size_reread, Lexeme.weight] at hweight'
    omega

/-- A number of one digit. -/
def digit (c : Char) : Expr := .literal (.number (Number.ofDigits [c] []))

theorem written_digit {c : Char} (hc : c.isDigit) : Written 9 (String.ofList [c]) (digit c) := by
  refine ⟨[.number (Number.ofDigits [c] [])], ?_, .number _⟩
  rw [String.toList_ofList]
  exact .last (.whole (List.cons_ne_nil _ _) (List.forall_mem_singleton.2 hc))

/-- The formula `fieldValue * (fieldValue - 1)`. -/
def timesLess : Expr :=
  .binary .multiply (.variable ⟨"fieldValue", []⟩)
    (.binary .subtract (.variable ⟨"fieldValue", []⟩) (digit '1'))

/-- This is how the formula is read. -/
theorem ofSource_timesLess : ofSource "fieldValue * (fieldValue - 1)" = .ok timesLess := by
  have hvar : Written 9 "fieldValue" (.variable ⟨"fieldValue", []⟩) :=
    ⟨_, .last (.name rfl (List.all_eq_true.1 rfl)), @Derives.var "fieldValue" [] fun _ ↦ by decide⟩
  have hless := Written.binary .subtract (hvar.mono (by decide))
    ((written_digit (c := '1') rfl).mono (by decide))
  have htimes := Written.binary .multiply (hvar.mono (by decide))
    ((hless.mono (by decide)).parenthesized.mono (by decide))
  have htext : "fieldValue" ++ " " ++ "*" ++ " " ++
      ("(" ++ ("fieldValue" ++ " " ++ "-" ++ " " ++ String.ofList ['1']) ++ ")") =
        "fieldValue * (fieldValue - 1)" := by decide
  exact ofSource_of_derivable (htext ▸ htimes.mono (by decide)) (by decide)

theorem forall_within_timesLess {P : Expr → Prop} :
    (∀ d : Expr, d.Within timesLess → P d) ↔
      P timesLess ∧ P (.variable ⟨"fieldValue", []⟩) ∧
        P (.binary .subtract (.variable ⟨"fieldValue", []⟩) (digit '1')) ∧
        P (.variable ⟨"fieldValue", []⟩) ∧ P (digit '1') := by
  rw [timesLess, forall_within_binary, forall_within_binary, forall_within_variable, digit,
    forall_within_literal]

/-- Parentheses around an operand that binds more weakly are kept. -/
theorem ofSource_withoutNotes_eq_iff_timesLess :
    let x : Value := .number 3.0
    let one := Number.ofDigits ['1'] []
    let s := Scope.predicate "age" x (.group none) ∅
    let t : Trace := .binary .multiply (.input ⟨"fieldValue", []⟩ x)
      (.binary .subtract (.input ⟨"fieldValue", []⟩ x) (.literal (.number one))
        (.number (3.0 - one))) (.number (3.0 * (3.0 - one)))
    ofSource "fieldValue * (fieldValue - 1)" = .ok timesLess ∧
      (∀ d : Expr, d.Within timesLess → d.IsPlain) ∧
      timesLess.trace .builtin s = .ok t ∧ t.isComplete = true ∧
      t.toText = "fieldValue (was 3) * (fieldValue (was 3) - 1)" ∧
      t.withoutNotes = "fieldValue * (fieldValue - 1)" ∧
      ofSource t.withoutNotes = .ok timesLess := by
  intro x one s t
  have hplain : ∀ d : Expr, d.Within timesLess → d.IsPlain :=
    forall_within_timesLess.2 ⟨trivial, trivial, trivial, trivial, trivial⟩
  have hsurvives : ∀ d : Expr, d.Within timesLess → d.Survives :=
    forall_within_timesLess.2 ⟨(by decide : 6 ≠ 7), trivial, (by decide : 9 ≠ 6), trivial, rfl⟩
  have htrace : timesLess.trace .builtin s = .ok t := rfl
  have htext : t.withoutNotes = "fieldValue * (fieldValue - 1)" := by decide +kernel
  have hreturn : withoutReturn t.withoutNotes.toList = t.withoutNotes.toList := by
    rw [htext]
    decide
  exact ⟨ofSource_timesLess, hplain, htrace, rfl, by decide +kernel, htext,
    (ofSource_withoutNotes_eq_iff ofSource_timesLess hplain htrace rfl).2.2.2 ⟨hreturn, hsurvives⟩⟩

/-- The difference `1 - (2 - 3)` loses its parentheses and is read as another one. -/
theorem ofSource_withoutNotes_nestedDifference :
    let one := Number.ofDigits ['1'] []
    let two := Number.ofDigits ['2'] []
    let three := Number.ofDigits ['3'] []
    let e : Expr := .binary .subtract (digit '1') (.binary .subtract (digit '2') (digit '3'))
    let t : Trace := .binary .subtract (.literal (.number one))
      (.binary .subtract (.literal (.number two)) (.literal (.number three))
        (.number (two - three))) (.number (one - (two - three)))
    ofSource "1 - (2 - 3)" = .ok e ∧ (∀ d : Expr, d.Within e → d.IsPlain) ∧
      e.trace .builtin .empty = .ok t ∧ t.isComplete = true ∧ t.toText = "1 - 2 - 3" ∧
      t.withoutNotes = "1 - 2 - 3" ∧ ofSource t.withoutNotes ≠ .ok e := by
  intro one two three e t
  have hone : Written 9 "1" (digit '1') := written_digit rfl
  have htwo : Written 9 "2" (digit '2') := written_digit rfl
  have hthree : Written 9 "3" (digit '3') := written_digit rfl
  have hsource : ofSource "1 - (2 - 3)" = .ok e := by
    have hinner := Written.binary .subtract (htwo.mono (by decide)) (hthree.mono (by decide))
    have houter := Written.binary .subtract (hone.mono (by decide))
      ((hinner.mono (by decide)).parenthesized.mono (by decide))
    exact ofSource_of_derivable (houter.mono (by decide)) (by decide)
  have hplain : ∀ d : Expr, d.Within e → d.IsPlain := by
    simp only [e, digit, forall_within_binary, forall_within_literal]
    exact ⟨trivial, trivial, trivial, trivial, trivial⟩
  have htext : t.withoutNotes = "1 - 2 - 3" := by decide +kernel
  refine ⟨hsource, hplain, rfl, rfl, by decide +kernel, htext, ?_⟩
  have hread : ofSource "1 - 2 - 3" =
      .ok (.binary .subtract (.binary .subtract (digit '1') (digit '2')) (digit '3')) := by
    have hinner := Written.binary .subtract (hone.mono (by decide)) (htwo.mono (by decide))
    have houter := Written.binary .subtract hinner (hthree.mono (by decide))
    exact ofSource_of_derivable (houter.mono (by decide)) (by decide)
  rw [htext, hread]
  simp [e, digit]

end Expr

end FormWizard
