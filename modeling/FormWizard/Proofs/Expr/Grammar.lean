import FormWizard.Expr.Source
import Mathlib.Data.List.Chain

/-!
# The grammar of formulas

What a formula is written like, said without a reader. The grammar has two layers.

* `Lexeme.Spelling` says how one lexeme is written, and `Spelled` that a text writes lexemes one
  after the other, with any number of separators between two of them. Nothing here asks for the
  longest lexeme: `Spelled` may cut a text in several ways.
* `Derives k ls e` says that the lexemes `ls` are a formula `e` whose outermost operator binds with
  strength `k` or more. Strength one is the choice `?:`, two to seven are the levels of binary
  operators, eight is an operator in front of an operand, and nine an operand by itself. A left
  operand may be of the level of its operator and a right operand may not, so the levels group to
  the left; both branches of a choice may be choices, and its condition may not, so the choice
  groups to the right.

`Derivable` puts the layers together. What all derivations have in common is `Lexeme.Shaped`: they
begin and end like operands, and no two neighbours in them run together when written without a
separator (`Derives.shaped`).
-/

namespace FormWizard

/-! ### How lexemes are written -/

/-- The value of a number in decimal notation, given the digits before and after the point. -/
def Number.ofDigits (whole fraction : List Char) : Float :=
  Decimal.toFloat ⟨natOfDigits (whole ++ fraction), -fraction.length⟩

namespace Lexeme

/-- The signs, each with its spellings. -/
def signs : List (Lexeme × List Char) :=
  [(.operator .or, ['|', '|']), (.operator .and, ['&', '&']),
    (.operator .equal, ['=', '=']), (.operator .equal, ['=', '=', '=']),
    (.operator .notEqual, ['!', '=']), (.operator .notEqual, ['!', '=', '=']),
    (.operator .less, ['<']), (.operator .lessEqual, ['<', '=']),
    (.operator .greater, ['>']), (.operator .greaterEqual, ['>', '=']),
    (.operator .add, ['+']), (.minus, ['-']),
    (.operator .multiply, ['*']), (.operator .divide, ['/']), (.operator .remainder, ['%']),
    (.bang, ['!']), (.question, ['?']), (.colon, [':']), (.point, ['.']), (.comma, [',']),
    (.opening, ['(']), (.closing, [')'])]

/-- The ways in which a lexeme is written. -/
inductive Spelling : Lexeme → List Char → Prop where
  /-- A whole number is written by its digits. -/
  | whole {ds : List Char} : ds ≠ [] → (∀ c ∈ ds, c.isDigit) →
      Spelling (.number (Number.ofDigits ds [])) ds
  /-- Any other number has a point with digits on either side. -/
  | fraction {ds fs : List Char} : ds ≠ [] → (∀ c ∈ ds, c.isDigit) → fs ≠ [] →
      (∀ c ∈ fs, c.isDigit) → Spelling (.number (Number.ofDigits ds fs)) (ds ++ '.' :: fs)
  /-- A text stands between two quotes of one kind and does not hold that quote. -/
  | quoted {q : Char} {cs : List Char} : q = '"' ∨ q = '\'' → q ∉ cs →
      Spelling (.quoted (String.ofList cs)) (q :: cs ++ [q])
  /-- A name starts with a letter, an underscore or a dollar sign, and may go on with digits. -/
  | name {c : Char} {cs : List Char} : Token.startsName c → (∀ d ∈ cs, Token.continuesName d) →
      Spelling (.name (String.ofList (c :: cs))) (c :: cs)
  /-- A sign is written as the table says. -/
  | sign {l : Lexeme} {cs : List Char} : (l, cs) ∈ signs → Spelling l cs

end Lexeme

/-- A text writes lexemes one after the other, with separators between two of them or none. -/
inductive Spelled : List Lexeme → List Char → Prop where
  /-- The last lexeme. -/
  | last {l : Lexeme} {cs : List Char} : l.Spelling cs → Spelled [l] cs
  /-- A lexeme, separators, and the lexemes behind it. -/
  | cons {l : Lexeme} {ls : List Lexeme} {cs gap rest : List Char} : l.Spelling cs →
      (∀ c ∈ gap, Token.isSeparator c) → Spelled ls rest → Spelled (l :: ls) (cs ++ gap ++ rest)

/-! ### Which lexemes are a formula -/

/-- How strongly a binary operator binds. -/
def BinaryOp.strength : BinaryOp → ℕ
  | .or => 2
  | .and => 3
  | .equal | .notEqual => 4
  | .less | .lessEqual | .greater | .greaterEqual => 5
  | .add | .subtract => 6
  | .multiply | .divide | .remainder => 7

/-- The lexemes that stand for a binary operator between its operands. -/
inductive Lexeme.Joins : Lexeme → BinaryOp → Prop where
  /-- The sign of an operator stands for it. -/
  | operator (op : BinaryOp) : Joins (.operator op) op
  /-- The minus stands for the difference, though not only for it. -/
  | minus : Joins .minus .subtract

namespace Expr

/-- The members behind a name, each behind a point. -/
def dotted (members : List String) : List Lexeme := members.flatMap fun m ↦ [.point, .name m]

/-- Lists of lexemes with commas between them. -/
def separated : List (List Lexeme) → List Lexeme
  | [] => []
  | [ls] => ls
  | ls :: more => ls ++ .comma :: separated more

/-- The names that stand for a value. -/
def keywords : List (String × Value) :=
  [("true", .bool true), ("false", .bool false), ("null", .null), ("undefined", .null)]

/-- The name of the function that a dotted name calls: `Math.f` calls `f`. -/
inductive Calls : String → List String → String → Prop where
  /-- A single member of `Math` stands for itself. -/
  | math {f : String} : Calls "Math" [f] f
  /-- Any other name is the name of its function, points included. -/
  | dotted {root : String} {members : List String} : ¬ (root = "Math" ∧ members.length = 1) →
      Calls root members (".".intercalate (root :: members))

/-- The lexemes are a formula whose outermost operator binds with the strength given or more. -/
inductive Derives : ℕ → List Lexeme → Expr → Prop where
  /-- What binds more strongly may stand where less is asked for. -/
  | tighter {k : ℕ} {ls : List Lexeme} {e : Expr} : Derives (k + 1) ls e → Derives k ls e
  /-- A choice. -/
  | conditional {cs ts es : List Lexeme} {c t e : Expr} : Derives 2 cs c → Derives 1 ts t →
      Derives 1 es e → Derives 1 (cs ++ .question :: ts ++ .colon :: es) (.conditional c t e)
  /-- A binary operator between its operands. -/
  | binary {op : BinaryOp} {sign : Lexeme} {ls rs : List Lexeme} {l r : Expr} : sign.Joins op →
      Derives op.strength ls l → Derives (op.strength + 1) rs r →
      Derives op.strength (ls ++ sign :: rs) (.binary op l r)
  /-- `!` in front of its operand. -/
  | not {ls : List Lexeme} {e : Expr} : Derives 8 ls e → Derives 8 (.bang :: ls) (.unary .not e)
  /-- `-` in front of its operand. -/
  | negate {ls : List Lexeme} {e : Expr} : Derives 8 ls e →
      Derives 8 (.minus :: ls) (.unary .negate e)
  /-- A number. -/
  | number (x : Float) : Derives 9 [.number x] (.literal (.number x))
  /-- A quoted text. -/
  | quoted (s : String) : Derives 9 [.quoted s] (.literal (.text s))
  /-- A keyword. -/
  | keyword {s : String} {v : Value} : (s, v) ∈ keywords → Derives 9 [.name s] (.literal v)
  /-- A variable with its members; by itself it is no keyword. -/
  | var {root : String} {members : List String} :
      (members = [] → root ∉ keywords.map Prod.fst) →
      Derives 9 (.name root :: dotted members) (.variable ⟨root, members⟩)
  /-- A call with its arguments. -/
  | call {root f : String} {members : List String} {args : List (List Lexeme × Expr)} :
      Calls root members f → (∀ a ∈ args, Derives 1 a.1 a.2) →
      Derives 9 (.name root :: dotted members ++ .opening :: separated (args.map Prod.fst)
        ++ [.closing]) (.call f (args.map Prod.snd))
  /-- A formula in parentheses. -/
  | parenthesized {ls : List Lexeme} {e : Expr} : Derives 1 ls e →
      Derives 9 (.opening :: ls ++ [.closing]) e

/-- The text is a formula by the grammar. -/
def Derivable (text : String) (e : Expr) : Prop :=
  ∃ ls, Spelled ls text.toList ∧ Derives 1 ls e

end Expr

/-! ### The shape of derivations -/

namespace Lexeme

/-- Whether a formula may start with the lexeme. -/
def startsOperand : Lexeme → Bool
  | .number _ | .quoted _ | .name _ | .bang | .minus | .opening => true
  | _ => false

/-- Whether a formula may end with the lexeme. -/
def endsOperand : Lexeme → Bool
  | .number _ | .quoted _ | .name _ | .closing => true
  | _ => false

/-- Whether the lexeme stands between two formulas. -/
def connects : Lexeme → Bool
  | .operator _ | .minus | .question | .colon | .comma => true
  | _ => false

/-- Whether two lexemes can be written without a separator and are still read as these two. A digit
goes on with a number, and so does a point, a letter or digit with a name, and `=` with an
operator. -/
def Separable : Lexeme → Lexeme → Prop
  | .number _, .number _ | .number _, .name _ | .number _, .point => False
  | .name _, .number _ | .name _, .name _ => False
  | .operator _, .operator _ | .bang, .operator _ => False
  | _, _ => True

/-- Nothing that connects operands runs together with what starts one. -/
theorem separable_of_connects {a b : Lexeme} (ha : a.connects) (hb : b.startsOperand) :
    a.Separable b := by
  cases a <;> cases b <;> simp_all [connects, startsOperand, Separable]

/-- Nothing that ends an operand runs together with what connects it to another. -/
theorem separable_connects {a b : Lexeme} (ha : a.endsOperand) (hb : b.connects) :
    a.Separable b := by
  cases a <;> cases b <;> simp_all [connects, endsOperand, Separable]

theorem separable_closing {a : Lexeme} : a.Separable .closing := by
  cases a <;> exact trivial

theorem Joins.connects {l : Lexeme} {op : BinaryOp} (h : l.Joins op) : l.connects := by
  cases h <;> rfl

/-- What all derivations have in common: they begin and end like operands, and neighbours in them do
not run together. -/
structure Shaped (ls : List Lexeme) : Prop where
  /-- The first lexeme starts an operand. -/
  begins : ∃ l ∈ ls.head?, l.startsOperand
  /-- The last lexeme ends an operand. -/
  ends : ∃ l ∈ ls.getLast?, l.endsOperand
  /-- Neighbours do not run together. -/
  isChain : ls.IsChain Separable

namespace Shaped

variable {ls rs : List Lexeme}

theorem ne_nil (h : Shaped ls) : ls ≠ [] := by
  rintro rfl
  obtain ⟨l, hl, -⟩ := h.begins
  cases hl

theorem singleton {l : Lexeme} (hs : l.startsOperand) (he : l.endsOperand) : Shaped [l] :=
  ⟨⟨l, rfl, hs⟩, ⟨l, rfl, he⟩, .singleton l⟩

/-- A lexeme in front that starts an operand by itself. -/
theorem cons {l : Lexeme} (hs : l.startsOperand)
    (hsep : ∀ r : Lexeme, r.startsOperand → l.Separable r) (h : Shaped rs) : Shaped (l :: rs) := by
  obtain ⟨r, hr, hrs⟩ := h.begins
  refine ⟨⟨l, rfl, hs⟩, ?_, ?_⟩
  · obtain ⟨e, he, hends⟩ := h.ends
    exact ⟨e, by rw [List.getLast?_cons_of_ne_nil h.ne_nil]; exact he, hends⟩
  · refine List.isChain_cons.2 ⟨fun y hy ↦ ?_, h.isChain⟩
    rw [Option.mem_unique hy hr]
    exact hsep r hrs

/-- Two formulas with a lexeme between them. -/
theorem append {l : Lexeme} (hl : l.connects) (h : Shaped ls) (hr : Shaped rs) :
    Shaped (ls ++ l :: rs) := by
  obtain ⟨b, hb, hbs⟩ := h.begins
  obtain ⟨e, he, hee⟩ := h.ends
  obtain ⟨r, hrb, hrs⟩ := hr.begins
  obtain ⟨f, hf, hfe⟩ := hr.ends
  refine ⟨⟨b, ?_, hbs⟩, ⟨f, ?_, hfe⟩, ?_⟩
  · rw [List.head?_append_of_ne_nil _ h.ne_nil]
    exact hb
  · rw [List.getLast?_append_of_ne_nil _ (List.cons_ne_nil _ _),
      List.getLast?_cons_of_ne_nil hr.ne_nil]
    exact hf
  · refine List.isChain_append.2 ⟨h.isChain, List.isChain_cons.2 ⟨fun y hy ↦ ?_, hr.isChain⟩,
      fun x hx y hy ↦ ?_⟩
    · rw [Option.mem_unique hy hrb]
      exact separable_of_connects hl hrs
    · rw [Option.mem_unique hx he, ← Option.mem_some.1 hy]
      exact separable_connects hee hl

/-- A closing parenthesis behind. -/
theorem closed (h : ls.IsChain Separable) (hs : ∃ l ∈ ls.head?, l.startsOperand) :
    Shaped (ls ++ [.closing]) := by
  obtain ⟨b, hb, hbs⟩ := hs
  have hne : ls ≠ [] := by
    rintro rfl
    cases hb
  refine ⟨⟨b, ?_, hbs⟩, ⟨.closing, List.getLast?_concat, rfl⟩, ?_⟩
  · rw [List.head?_append_of_ne_nil _ hne]
    exact hb
  · refine List.isChain_append.2 ⟨h, .singleton _, fun x _ y hy ↦ ?_⟩
    rw [← Option.mem_some.1 hy]
    exact separable_closing

end Shaped

end Lexeme

namespace Expr

open Lexeme

/-- A name with its members has the shape of an operand. -/
theorem shaped_name_dotted (root : String) (members : List String) :
    Shaped (.name root :: dotted members) := by
  induction members generalizing root with
  | nil => exact .singleton rfl rfl
  | cons m ms ih =>
    obtain ⟨e, he, hends⟩ := (ih m).ends
    refine ⟨⟨.name root, rfl, rfl⟩, ⟨e, he, hends⟩, ?_⟩
    exact List.isChain_cons_cons.2 ⟨trivial, List.isChain_cons_cons.2 ⟨trivial, (ih m).isChain⟩⟩

/-- Arguments with commas between them have the shape of one. -/
theorem shaped_separated {args : List (List Lexeme)} (hne : args ≠ [])
    (h : ∀ ls ∈ args, Shaped ls) : Shaped (separated args) := by
  induction args with
  | nil => exact absurd rfl hne
  | cons ls more ih =>
    cases more with
    | nil => exact h ls List.mem_cons_self
    | cons ms more =>
      exact .append rfl (h ls List.mem_cons_self)
        (ih (List.cons_ne_nil _ _) fun a ha ↦ h a (List.mem_cons_of_mem _ ha))

/-- A list of arguments in parentheses, none included, forms a chain. -/
theorem isChain_opening_separated {args : List (List Lexeme)} (h : ∀ ls ∈ args, Shaped ls) :
    (.opening :: separated args : List Lexeme).IsChain Separable := by
  cases args with
  | nil => exact .singleton _
  | cons ls more =>
    have hs : Shaped (separated (ls :: more)) := shaped_separated (List.cons_ne_nil _ _) h
    exact List.isChain_cons.2 ⟨fun _ _ ↦ trivial, hs.isChain⟩

/-- What derives a formula begins and ends with operands, and no two lexemes in it run together. -/
theorem Derives.shaped {k : ℕ} {ls : List Lexeme} {e : Expr} (h : Derives k ls e) : Shaped ls := by
  induction h with
  | tighter _ ih => exact ih
  | conditional _ _ _ ihc iht ihe =>
    rw [List.append_assoc]
    exact .append rfl ihc (.append rfl iht ihe)
  | binary hsign _ _ ihl ihr => exact .append hsign.connects ihl ihr
  | not _ ih =>
    refine .cons rfl (fun r hr ↦ ?_) ih
    cases r <;> simp_all [startsOperand, Separable]
  | negate _ ih => exact .cons rfl (fun r hr ↦ separable_of_connects rfl hr) ih
  | number x => exact .singleton rfl rfl
  | quoted s => exact .singleton rfl rfl
  | keyword _ => exact .singleton rfl rfl
  | var _ => exact shaped_name_dotted _ _
  | @call root f members args _ _ ih =>
    have hargs : ∀ ls ∈ args.map Prod.fst, Shaped ls := by
      intro ls hls
      obtain ⟨a, ha, rfl⟩ := List.mem_map.1 hls
      exact ih a ha
    refine .closed (List.isChain_append.2 ⟨(shaped_name_dotted root members).isChain,
      isChain_opening_separated hargs, fun x hx y hy ↦ ?_⟩) ⟨.name root, rfl, rfl⟩
    -- the opening parenthesis follows a name
    obtain ⟨e, he, hends⟩ := (shaped_name_dotted root members).ends
    rw [Option.mem_unique hx he, ← Option.mem_some.1 hy]
    cases e <;> trivial
  | parenthesized _ ih =>
    exact .closed (List.isChain_cons.2 ⟨fun _ _ ↦ trivial, ih.isChain⟩) ⟨.opening, rfl, rfl⟩

end Expr

end FormWizard
