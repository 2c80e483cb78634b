import Mathlib.Control.Basic
import Mathlib.Data.List.Forall2
import Mathlib.Data.List.TakeDrop
import Mathlib.Data.List.TakeWhile

/-!
# Facts about lists, options and results

Nothing here depends on forms. Most of it is about reading a list item by item: a `mapM` in `Option`
or `Except` that ends in a list has read each item, `List.forall₂_of_mapM`, and whatever was read
item by item is what `mapM` reads, `List.mapM_eq_pure_of_forall₂`. The other lemmas about `mapM`
follow from these two.
-/

/-! ### Results that may fail -/

namespace Except

variable {ε α β : Type} {x : Except ε α} {e : ε} {b : β}

/-- Of two steps that fail, either the first one fails or it has a value on which the second one
does. -/
theorem bind_eq_error {f : α → Except ε β} (h : x.bind f = .error e) :
    x = .error e ∨ ∃ a, x = .ok a ∧ f a = .error e := by
  rcases x with e' | a
  · exact .inl (congrArg Except.error (Except.error.inj h))
  · exact .inr ⟨a, rfl, h⟩

/-- Two steps that end in a value both do. -/
theorem bind_eq_ok {f : α → Except ε β} (h : x.bind f = .ok b) :
    ∃ a, x = .ok a ∧ f a = .ok b := by
  rcases x with e | a
  · cases h
  · exact ⟨a, rfl, h⟩

theorem map_eq_error {f : α → β} (h : x.map f = .error e) : x = .error e := by
  rcases x with e' | a
  · exact congrArg Except.error (Except.error.inj h)
  · cases h

theorem map_eq_ok {f : α → β} (h : x.map f = .ok b) : ∃ a, x = .ok a ∧ f a = b := by
  rcases x with e | a
  · cases h
  · exact ⟨a, rfl, Except.ok.inj h⟩

end Except

/-- Readers that go on with the same value go on alike. -/
theorem Option.bind_eq_some_of {α β : Type} {o o' : Option α} {f f' : α → Option β} {y : β}
    (h : o.bind f = some y) (ho : ∀ x, o = some x → o' = some x)
    (hf : ∀ x, f x = some y → f' x = some y) : o'.bind f' = some y := by
  obtain ⟨x, hx, hy⟩ := Option.bind_eq_some_iff.1 h
  exact Option.bind_eq_some_iff.2 ⟨x, ho x hx, hf x hy⟩

/-! ### Lists side by side -/

namespace List

variable {α β : Type} {R : α → β → Prop} {l : List α} {xs : List β} {a : α}

theorem Forall₂.exists_of_mem_left (h : Forall₂ R l xs) (ha : a ∈ l) : ∃ x ∈ xs, R a x := by
  induction h with
  | nil => cases ha
  | cons hx _ ih =>
    obtain rfl | ha := mem_cons.1 ha
    · exact ⟨_, mem_cons_self, hx⟩
    · obtain ⟨x, hmem, hx⟩ := ih ha
      exact ⟨x, mem_cons_of_mem _ hmem, hx⟩

/-- Numbering two lists keeps what holds of their items. -/
theorem forall₂_zipIdx (h : Forall₂ R l xs) (n : ℕ) :
    Forall₂ (fun a x ↦ R a.1 x.1 ∧ a.2 = x.2) (l.zipIdx n) (xs.zipIdx n) := by
  induction h generalizing n with
  | nil => exact .nil
  | cons hR _ ih => exact .cons ⟨hR, rfl⟩ (ih (n + 1))

/-- Of the items of a list, each with its place, the one at a given place is picked out. -/
theorem flatMap_zipIdx_ite (l : List α) (f : α → List β) (start i : ℕ) :
    (l.zipIdx start).flatMap (fun x ↦ if x.2 = start + i then f x.1 else []) =
      (l[i]?.map f).getD [] := by
  induction l generalizing start i with
  | nil => rfl
  | cons a l ih =>
    rw [zipIdx_cons, flatMap_cons]
    rcases i with _ | i
    · have hrest : (l.zipIdx (start + 1)).flatMap
          (fun x ↦ if x.2 = start + 0 then f x.1 else []) = [] := by
        refine flatMap_eq_nil_iff.2 fun x hx ↦ if_neg ?_
        have hplace := (mem_zipIdx hx).1
        omega
      rw [hrest, append_nil]
      exact if_pos rfl
    · have hplace : start + (i + 1) = start + 1 + i := by omega
      rw [if_neg (show start ≠ start + (i + 1) by omega), nil_append, hplace, ih]
      rfl

theorem findSome?_eq_bind_find? (f : α → Option β) (l : List α) :
    l.findSome? f = (l.find? fun a ↦ (f a).isSome).bind f := by
  induction l with
  | nil => rfl
  | cons a l ih =>
    rw [findSome?_cons, find?_cons, ih]
    cases h : f a <;> simp [h]

end List

/-! ### Reading a list item by item -/

namespace List

section Monad

variable {m : Type → Type} [Monad m] [LawfulMonad m] {α β γ : Type} {f : α → m β} {l : List α}
variable {xs : List β}

/-- The results of reading a list one by one. In the monad a step that ends in a value has one. -/
theorem forall₂_of_mapM
    (hbind : ∀ {γ δ : Type} {x : m γ} {g : γ → m δ} {b : δ},
      x >>= g = pure b → ∃ a, x = pure a ∧ g a = pure b)
    (hpure : ∀ {γ : Type} {a b : γ}, (pure a : m γ) = pure b → a = b)
    (h : l.mapM f = pure xs) : Forall₂ (fun a x ↦ f a = pure x) l xs := by
  induction l generalizing xs with
  | nil =>
    cases hpure h
    exact .nil
  | cons a l ih =>
    rw [mapM_cons] at h
    obtain ⟨x, hx, h⟩ := hbind h
    obtain ⟨ys, hys, h⟩ := hbind h
    cases hpure h
    exact .cons hx (ih hys)

/-- What is read one by one is what is read of the list. -/
theorem mapM_eq_pure_of_forall₂ (h : Forall₂ (fun a x ↦ f a = pure x) l xs) :
    l.mapM f = pure xs := by
  induction h with
  | nil => rfl
  | cons hx _ ih => rw [mapM_cons, hx, pure_bind, ih, pure_bind]

end Monad

end List

theorem Option.forall₂_of_mapM {α β : Type} {f : α → Option β} {l : List α} {xs : List β}
    (h : l.mapM f = some xs) : List.Forall₂ (fun a x ↦ f a = some x) l xs :=
  List.forall₂_of_mapM (fun h ↦ Option.bind_eq_some_iff.1 h) Option.some.inj h

theorem Except.forall₂_of_mapM {ε α β : Type} {f : α → Except ε β} {l : List α} {xs : List β}
    (h : l.mapM f = .ok xs) : List.Forall₂ (fun a x ↦ f a = .ok x) l xs :=
  List.forall₂_of_mapM (fun h ↦ Except.bind_eq_ok h) Except.ok.inj h

/-- A list that cannot be read has an item that cannot. -/
theorem Except.exists_mem_of_mapM_eq_error {ε α β : Type} {f : α → Except ε β} {l : List α} {e : ε}
    (h : l.mapM f = .error e) : ∃ a ∈ l, f a = .error e := by
  induction l with
  | nil => cases h
  | cons a l ih =>
    rw [List.mapM_cons] at h
    obtain ha | ⟨x, -, h⟩ := Except.bind_eq_error h
    · exact ⟨a, List.mem_cons_self, ha⟩
    · obtain hl | ⟨xs, -, h⟩ := Except.bind_eq_error h
      · obtain ⟨a', ha', hf⟩ := ih hl
        exact ⟨a', List.mem_cons_of_mem a ha', hf⟩
      · cases h

namespace List

variable {α β γ δ ε : Type} {f : α → γ} {read : α → Option β} {l : List α} {xs : List β}

/-- A list is read if each of its items is. -/
theorem exists_mapM_eq_some (h : ∀ a ∈ l, ∃ x, read a = some x) : ∃ xs, l.mapM read = some xs := by
  induction l with
  | nil => exact ⟨[], rfl⟩
  | cons a l ih =>
    obtain ⟨⟨x, hx⟩, hl⟩ := forall_mem_cons.1 h
    obtain ⟨xs, hxs⟩ := ih hl
    refine ⟨x :: xs, ?_⟩
    rw [mapM_cons, hx, hxs]
    rfl

/-- Items made from others are read one by one, whatever becomes of a failure. -/
theorem mapM_map_eq_pure {m : Type → Type} [Monad m] [LawfulMonad m] {read' : γ → m β}
    (hread : ∀ a ∈ l, ∀ x, read a = some x → read' (f a) = pure x) (h : l.mapM read = some xs) :
    (l.map f).mapM read' = pure xs := by
  have hitems := (forall₂_and_left _ _).2 ⟨fun _ ha ↦ ha, Option.forall₂_of_mapM h⟩
  refine mapM_eq_pure_of_forall₂ (forall₂_map_left_iff.2 (hitems.imp ?_))
  rintro a x ⟨ha, hx⟩
  exact hread a ha x hx

/-- Items made from others are read and converted one by one. -/
theorem exists_mapM_map {read' : γ → Option δ} {convert : δ → Except ε β}
    (hread : ∀ a ∈ l, ∀ x, read a = some x → ∃ y, read' (f a) = some y ∧ convert y = .ok x)
    (h : l.mapM read = some xs) :
    ∃ ys, (l.map f).mapM read' = some ys ∧ ys.mapM convert = .ok xs := by
  induction l generalizing xs with
  | nil =>
    cases h
    exact ⟨[], rfl, rfl⟩
  | cons a l ih =>
    obtain ⟨ha, hl⟩ := forall_mem_cons.1 hread
    rw [mapM_cons] at h
    obtain ⟨x, hx, h⟩ := Option.bind_eq_some_iff.1 h
    obtain ⟨xs', hxs', h⟩ := Option.bind_eq_some_iff.1 h
    cases h
    obtain ⟨y, hy, hconvert⟩ := ha x hx
    obtain ⟨ys, hys, hconverts⟩ := ih hl hxs'
    refine ⟨y :: ys, ?_, ?_⟩
    · rw [map_cons, mapM_cons, hy, hys]
      rfl
    · rw [mapM_cons, hconvert, hconverts]
      rfl

end List

/-! ### Runs of characters -/

namespace List

variable {α : Type} {p : α → Bool} {xs ys : List α}

/-- Nothing is dropped if the first item, where there is one, stays: `List.dropWhile_eq_self_iff`
with the first item as an option, which is how the ends of runs are stated below. -/
theorem dropWhile_eq_self_of_head? (h : ∀ a ∈ xs.head?, p a = false) : xs.dropWhile p = xs :=
  dropWhile_eq_self_iff.2 fun hlength ↦
    Bool.not_eq_true _ ▸ h _ (head?_eq_getElem?.trans (getElem?_eq_getElem hlength))

/-- A run ends where the items behind it do not belong to it. -/
theorem span_append (hx : ∀ a ∈ xs, p a) (hy : ∀ a ∈ ys.head?, p a = false) :
    (xs ++ ys).span p = (xs, ys) := by
  rw [span_eq_takeWhile_dropWhile, takeWhile_append_of_pos hx, dropWhile_append_of_pos hx,
    dropWhile_eq_self_of_head? hy]
  cases ys with
  | nil => simp
  | cons y ys => simp [hy y rfl]

/-- A run and the items behind it. -/
theorem span_spec (p : α → Bool) (xs : List α) :
    xs = (xs.span p).1 ++ (xs.span p).2 ∧ (∀ a ∈ (xs.span p).1, p a) ∧
      ∀ a ∈ (xs.span p).2.head?, p a = false := by
  rw [span_eq_takeWhile_dropWhile]
  refine ⟨takeWhile_append_dropWhile.symm, fun a ha ↦ mem_takeWhile_imp ha, fun a ha ↦ ?_⟩
  have h := head?_dropWhile_not p xs
  rwa [show (xs.dropWhile p).head? = some a from ha] at h

/-- A run that starts with an item of the class is not empty. -/
theorem span_fst_ne_nil {a : α} (h : p a) : ((a :: xs).span p).1 ≠ [] := by
  rw [span_eq_takeWhile_dropWhile, takeWhile_cons_of_pos h]
  exact cons_ne_nil _ _

end List

/-! ### Texts -/

@[simp]
theorem String.toString_eq_self (s : String) : toString s = s := rfl
