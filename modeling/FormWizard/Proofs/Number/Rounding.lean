import FormWizard.Number.Shortest
import Mathlib.Algebra.Order.Field.Power
import Mathlib.Data.Rat.Floor
import Mathlib.Tactic.FinCases
import Mathlib.Tactic.Linarith
import Mathlib.Tactic.NormNum
import Mathlib.Tactic.Positivity

/-!
# Rounding to the nearest float

Floats are computed with on their bits: a mantissa with two residual bits is shifted to the scale of
the result and rounded by these bits. `Represents` says which rational numbers a mantissa with its
residual bits stands for, and shifting keeps that (`Represents.shiftRight`). So the bits never have
to be looked at again: whatever they stand for is rounded to the float that it is nearest to
(`roundWithAccuracy_eq`), where `RoundsTo` says nearest in terms of rational numbers.

The float of a positive decimal is a product or a quotient that is rounded once
(`Decimal.exists_computes`). That holds on both ways on which it is computed: small decimals from
floats that are exact, all others from natural numbers. `Decimal.Computes.eq_finite` is the result,
a decimal is read as the float that it rounds to.
-/

namespace FormWizard.Number

open Float.Model Float.Model.UnpackedFloat

/-! ### What a mantissa with residual bits stands for -/

/-- The rational number lies where the mantissa and its two residual bits say: on the mantissa, in
the lower half behind it, in the middle, or in the upper half. -/
def Represents : ExtendedMantissa → ℚ → Prop
  | ⟨m, false, false⟩, v => v = m
  | ⟨m, false, true⟩, v => m < v ∧ v < m + 1 / 2
  | ⟨m, true, false⟩, v => v = m + 1 / 2
  | ⟨m, true, true⟩, v => m + 1 / 2 < v ∧ v < m + 1

/-- The integer is the nearest one to the rational number, and even if the number is in the middle
between two. -/
structure IsNearest (k : ℕ) (v : ℚ) : Prop where
  lower : k - 1 / 2 ≤ v
  upper : v ≤ k + 1 / 2
  odd : k % 2 = 1 → k - 1 / 2 < v ∧ v < k + 1 / 2

namespace Represents

variable {em : ExtendedMantissa} {v : ℚ}

/-- Without residual bits the number is the mantissa, and otherwise it lies strictly above. -/
theorem residue (h : Represents em v) :
    (em.roundBit || em.stickyBit) = false ∧ v = em.mantissa ∨
      (em.roundBit || em.stickyBit) = true ∧ em.mantissa < v ∧ v < em.mantissa + 1 := by
  obtain ⟨m, round, sticky⟩ := em
  rcases round with _ | _
  · rcases sticky with _ | _
    · exact .inl ⟨rfl, h⟩
    · obtain ⟨hlow, hhigh⟩ : (m : ℚ) < v ∧ v < m + 1 / 2 := h
      exact .inr ⟨rfl, hlow, by linarith⟩
  · rcases sticky with _ | _
    · have hv : v = m + 1 / 2 := h
      exact .inr ⟨rfl, by linarith, by linarith⟩
    · obtain ⟨hlow, hhigh⟩ : (m : ℚ) + 1 / 2 < v ∧ v < m + 1 := h
      exact .inr ⟨rfl, by linarith, hhigh⟩

/-- A number lies above its mantissa, by less than one. -/
theorem floor (h : Represents em v) : em.mantissa ≤ v ∧ v < em.mantissa + 1 := by
  obtain ⟨-, rfl⟩ | ⟨-, hlow, hhigh⟩ := h.residue
  · exact ⟨le_rfl, lt_add_one _⟩
  · exact ⟨hlow.le, hhigh⟩

/-- The mantissa is rounded to the nearest whole number, ties to the even one. -/
theorem roundedMantissa_eq {k : ℕ} (h : Represents em v) (hk : IsNearest k v) :
    em.roundedMantissa = k := by
  obtain ⟨m, round, sticky⟩ := em
  obtain ⟨hlower, hupper, hodd⟩ := hk
  rcases round with _ | _
  · have hm : (m : ℚ) ≤ v ∧ v < m + 1 / 2 := by
      rcases sticky with _ | _
      · have hv : v = m := h
        exact ⟨hv.ge, by linarith⟩
      · exact ⟨h.1.le, h.2⟩
    have hlt : (k : ℚ) < m + 1 := by linarith
    have hgt : (m : ℚ) < k + 1 := by linarith
    norm_cast at hlt hgt
    obtain rfl : m = k := by omega
    rcases sticky with _ | _ <;> rfl
  · rcases sticky with _ | _
    · have hv : v = m + 1 / 2 := h
      have hle : (k : ℚ) ≤ m + 1 := by linarith
      have hge : (m : ℚ) ≤ k := by linarith
      norm_cast at hle hge
      -- of the two integers next to the middle, the nearest one is even
      have heven : k % 2 = 0 := by
        by_contra hne
        obtain ⟨hlow, hhigh⟩ := hodd (by omega)
        have hlt : (k : ℚ) < m + 1 := by linarith
        have hgt : (m : ℚ) < k := by linarith
        norm_cast at hlt hgt
        omega
      show m + m % 2 = k
      omega
    · obtain ⟨hlow, hhigh⟩ : (m : ℚ) + 1 / 2 < v ∧ v < m + 1 := h
      have hle : (k : ℚ) < m + 2 := by linarith
      have hge : (m : ℚ) < k := by linarith
      norm_cast at hle hge
      show m + 1 = k
      omega

/-- Halving the mantissa puts the bit that it loses in front of the others. -/
theorem shiftRightOne (h : Represents em v) : Represents em.shiftRightOne (v / 2) := by
  have hm : (em.mantissa : ℚ) = 2 * (em.mantissa / 2 : ℕ) + (em.mantissa % 2 : ℕ) := by
    exact_mod_cast (Nat.div_add_mod em.mantissa 2).symm
  rw [ExtendedMantissa.shiftRightOne]
  obtain ⟨hbits, hv⟩ | ⟨hbits, hlow, hhigh⟩ := h.residue
  · rw [hbits]
    obtain hmod | hmod := Nat.mod_two_eq_zero_or_one em.mantissa
    · rw [hmod] at hm ⊢
      show v / 2 = (em.mantissa / 2 : ℕ)
      rw [hv, hm]
      ring
    · rw [hmod] at hm ⊢
      show v / 2 = (em.mantissa / 2 : ℕ) + 1 / 2
      rw [hv, hm]
      push_cast
      ring
  · rw [hbits]
    obtain hmod | hmod := Nat.mod_two_eq_zero_or_one em.mantissa
    · rw [hmod] at hm ⊢
      push_cast at hm
      exact ⟨by linarith, by linarith⟩
    · rw [hmod] at hm ⊢
      push_cast at hm
      exact ⟨by linarith, by linarith⟩

/-- Shifting to the right divides, and keeps track of what is cut off. -/
theorem shiftRight (h : Represents em v) (n : ℕ) : Represents (em >>> n) (v / 2 ^ n) := by
  show Represents (n.repeat ExtendedMantissa.shiftRightOne em) _
  induction n with
  | zero => rwa [pow_zero, div_one]
  | succ n ih =>
    rw [pow_succ, ← div_div]
    exact ih.shiftRightOne

end Represents

theorem represents_exact (m : ℕ) : Represents (.ofMantissaAndAccuracy m .exact) m := rfl

/-- A quotient with its remainder stands for the fraction. -/
theorem represents_fraction (m : ℕ) {n : ℕ} (hn : 0 < n) :
    Represents (.ofMantissaAndAccuracy (m / n) (accuracyOfFraction (m % n) n)) (m / n : ℚ) := by
  have hpos : (0 : ℚ) < n := by exact_mod_cast hn
  have hm : (m : ℚ) / n = (m / n : ℕ) + (m % n : ℕ) / n := by
    have hdiv : (m : ℚ) = n * (m / n : ℕ) + (m % n : ℕ) := by
      exact_mod_cast (Nat.div_add_mod m n).symm
    rw [hdiv, add_div, mul_div_cancel_left₀ _ hpos.ne']
  have hlt : ((m % n : ℕ) : ℚ) / n < 1 := by
    rw [div_lt_one hpos]
    exact_mod_cast Nat.mod_lt m hn
  rw [hm, accuracyOfFraction]
  split
  · rename_i hzero
    rw [hzero, Nat.cast_zero, zero_div, add_zero]
    rfl
  · rename_i hne
    have hr : (0 : ℚ) < (m % n : ℕ) / n := by
      have : (0 : ℚ) < (m % n : ℕ) := by exact_mod_cast Nat.pos_of_ne_zero hne
      positivity
    cases hcompare : compare (2 * (m % n)) n with
    | lt =>
      have hhalf : ((m % n : ℕ) : ℚ) / n < 1 / 2 := by
        rw [div_lt_div_iff₀ hpos two_pos, one_mul, mul_comm]
        exact_mod_cast Nat.compare_eq_lt.1 hcompare
      exact ⟨by linarith, by linarith⟩
    | eq =>
      have hhalf : ((m % n : ℕ) : ℚ) / n = 1 / 2 := by
        rw [div_eq_div_iff hpos.ne' two_ne_zero, one_mul, mul_comm]
        exact_mod_cast Nat.compare_eq_eq.1 hcompare
      show _ = _ + _
      rw [hhalf]
    | gt =>
      have hhalf : 1 / 2 < ((m % n : ℕ) : ℚ) / n := by
        rw [div_lt_div_iff₀ two_pos hpos, one_mul, mul_comm]
        exact_mod_cast Nat.compare_eq_gt.1 hcompare
      exact ⟨by linarith, by linarith⟩

/-! ### Units of the format -/

/-- The mantissa and the scale of a positive float in the form that the format keeps: with all 53
bits, or with the least scale. -/
structure IsCanonical (m : ℕ) (s : ℤ) : Prop where
  pos : 0 < m
  lt : m < 2 ^ 53
  min : -1074 ≤ s
  normal : s = -1074 ∨ 2 ^ 52 ≤ m

/-- The number rounds to the float: in units of the float it is nearest to the mantissa, and below
a power of two, where the floats lie twice as close, it is still nearer. -/
structure RoundsTo (m : ℕ) (s : ℤ) (v : ℚ) : Prop where
  nearest : IsNearest m (v / 2 ^ s)
  narrow : m = 2 ^ 52 → -1074 < s → m - 1 / 4 ≤ v / 2 ^ s

/-- The power of two is the distance between floats where the number lies. -/
structure IsUnit (t : ℤ) (v : ℚ) : Prop where
  min : -1074 ≤ t
  lt : v < 2 ^ (t + 53)
  le : t = -1074 ∨ 2 ^ (t + 52) ≤ v

theorem targetExponent_total (total : ℤ) :
    Format.binary64.targetExponent total = max (total - 53) (-1074) := by
  rw [Format.targetExponent, Format.minExponent]
  rfl

/-- Where a mantissa and an exponent are rounded depends on the place of the highest bit. -/
theorem targetExponent_eq (m : ℕ) (e : ℤ) :
    Format.binary64.targetExponent (totalExponent m e) = max (m.log2 + e - 52) (-1074) := by
  rw [targetExponent_total, totalExponent]
  omega

theorem two_zpow_le {a b : ℤ} (h : a ≤ b) : (2 : ℚ) ^ a ≤ 2 ^ b := zpow_le_zpow_right₀ one_le_two h

theorem two_zpow_add (a b : ℤ) : (2 : ℚ) ^ (a + b) = 2 ^ a * 2 ^ b := zpow_add₀ two_ne_zero a b

/-- The exponent that is aimed at is the unit of the number, if no bits are missing. -/
theorem isUnit_targetExponent {m : ℕ} {e : ℤ} {w : ℚ} (hlow : m ≤ w) (hhigh : w < m + 1)
    (he : e ≤ Format.binary64.targetExponent (totalExponent m e)) :
    IsUnit (Format.binary64.targetExponent (totalExponent m e)) (w * 2 ^ e) := by
  have hpos : (0 : ℚ) < 2 ^ e := by positivity
  have hlt : w < 2 ^ ((m.log2 : ℤ) + 1) := by
    have hm : (m : ℚ) + 1 ≤ 2 ^ (m.log2 + 1) := by exact_mod_cast Nat.lt_log2_self (n := m)
    exact_mod_cast hhigh.trans_le hm
  rw [targetExponent_eq] at he ⊢
  refine ⟨le_max_right _ _, ?_, ?_⟩
  · calc w * 2 ^ e < 2 ^ ((m.log2 : ℤ) + 1) * 2 ^ e := mul_lt_mul_of_pos_right hlt hpos
      _ = 2 ^ ((m.log2 : ℤ) + 1 + e) := (two_zpow_add _ _).symm
      _ ≤ _ := two_zpow_le (by omega)
  · obtain hmin | hmax := le_total ((m.log2 : ℤ) + e - 52) (-1074)
    · exact .inl (max_eq_right hmin)
    · refine .inr ?_
      rw [max_eq_left hmax] at he ⊢
      have hm : (2 : ℚ) ^ (m.log2 : ℤ) ≤ w := by
        have hne : m ≠ 0 := by
          rintro rfl
          simp at he
        have hself : (2 : ℚ) ^ m.log2 ≤ m := by exact_mod_cast Nat.log2_self_le hne
        exact_mod_cast hself.trans hlow
      calc (2 : ℚ) ^ ((m.log2 : ℤ) + e - 52 + 52) = 2 ^ (m.log2 : ℤ) * 2 ^ e := by
            rw [← two_zpow_add]
            congr 1
            omega
        _ ≤ w * 2 ^ e := mul_le_mul_of_nonneg_right hm hpos.le

namespace RoundsTo

variable {m : ℕ} {s t : ℤ} {v : ℚ}

theorem lower (h : RoundsTo m s v) : (m - 1 / 2) * 2 ^ s ≤ v :=
  (le_div_iff₀ (by positivity)).1 h.nearest.lower

theorem upper (h : RoundsTo m s v) : v ≤ (m + 1 / 2) * 2 ^ s :=
  (div_le_iff₀ (by positivity)).1 h.nearest.upper

/-- The unit of a number that rounds to a float is that of the float, unless the number lies just
below a power of two. -/
theorem scale_eq (h : RoundsTo m s v) (hc : IsCanonical m s) (ht : IsUnit t v) :
    t = s ∨ m = 2 ^ 52 ∧ s = t + 1 := by
  have hpos : (0 : ℚ) < 2 ^ s := by positivity
  obtain hts | rfl | hst := lt_trichotomy t s
  · -- the unit of the number is smaller, so it lies just below a power of two
    refine .inr ?_
    have hm : 2 ^ 52 ≤ m := hc.normal.resolve_left (by have := ht.min; omega)
    have hm' : (2 : ℚ) ^ 52 ≤ m := by exact_mod_cast hm
    have hv : ((m : ℚ) - 1 / 2) * 2 ^ s < 2 ^ (t + 53) := h.lower.trans_lt ht.lt
    have hs : s = t + 1 := by
      by_contra hne
      have hle : (2 : ℚ) ^ (t + 53) ≤ 2 ^ 51 * 2 ^ s := by
        rw [← zpow_natCast, ← two_zpow_add]
        exact two_zpow_le (by push_cast; omega)
      nlinarith
    refine ⟨?_, hs⟩
    have hlt : (2 : ℚ) ^ (t + 53) = 2 ^ 52 * 2 ^ s := by
      rw [← zpow_natCast, ← two_zpow_add, hs]
      congr 1
      push_cast
      omega
    rw [hlt] at hv
    have hm'' : (m : ℚ) < 2 ^ 52 + 1 := by
      have := lt_of_mul_lt_mul_right hv hpos.le
      linarith
    have hlt' : m < 2 ^ 52 + 1 := by exact_mod_cast hm''
    omega
  · exact .inl rfl
  · -- the unit of the number is larger, so the mantissa would not fit
    exfalso
    have hle : (2 : ℚ) ^ (t + 52) ≤ v := ht.le.resolve_left (by have := hc.min; omega)
    have hm : (m : ℚ) + 1 ≤ 2 ^ 53 := by exact_mod_cast hc.lt
    have hs : (2 : ℚ) ^ 53 * 2 ^ s ≤ 2 ^ (t + 52) := by
      rw [← zpow_natCast, ← two_zpow_add]
      exact two_zpow_le (by push_cast; omega)
    have hupper := h.upper
    nlinarith

/-- Just below a power of two the number is nearest to the power in its own unit. -/
theorem nearest_power (h : RoundsTo (2 ^ 52) (t + 1) v) (ht : IsUnit t v) :
    IsNearest (2 ^ 53) (v / 2 ^ t) := by
  have hpos : (0 : ℚ) < 2 ^ t := by positivity
  have hunits : v / 2 ^ t = 2 * (v / 2 ^ (t + 1)) := by
    rw [zpow_add_one₀ two_ne_zero]
    field_simp
  have hlt : v / 2 ^ t < 2 ^ 53 := by
    rw [div_lt_iff₀ hpos, ← zpow_natCast, ← two_zpow_add, add_comm]
    exact_mod_cast ht.lt
  have hnarrow := h.narrow rfl (by have := ht.min; omega)
  push_cast at hnarrow
  refine ⟨?_, ?_, fun hodd ↦ absurd hodd (by decide)⟩
  · push_cast
    linarith
  · push_cast
    linarith

end RoundsTo

/-! ### Rounding -/

section

variable {m : ℕ} {e t : ℤ}

/-- A mantissa that fits is not shifted. -/
theorem shiftToTargetExponent_exact (hm : m < 2 ^ 53) (ht : -1074 ≤ t) :
    shiftToTargetExponent .binary64 m t .exact = (⟨m, false, false⟩, t) := by
  have hlog : m.log2 ≤ 52 := by
    by_cases hzero : m = 0
    · subst hzero
      decide
    · exact Nat.lt_succ_iff.1 ((Nat.log2_lt hzero).2 hm)
  have hshift : (Format.binary64.targetExponent (totalExponent m t) - t).toNat = 0 := by
    rw [targetExponent_eq]
    omega
  rw [shiftToTargetExponent, shiftToExponent, hshift]
  simp only [Nat.cast_zero, add_zero]
  rfl

/-- Rounding up to the next power of two carries over into the exponent. -/
theorem shiftToTargetExponent_power (ht : -1074 ≤ t) :
    shiftToTargetExponent .binary64 (2 ^ 53) t .exact = (⟨2 ^ 52, false, false⟩, t + 1) := by
  have hshift : (Format.binary64.targetExponent (totalExponent (2 ^ 53) t) - t).toNat = 1 := by
    rw [targetExponent_eq, Nat.log2_two_pow]
    omega
  rw [shiftToTargetExponent, shiftToExponent, hshift]
  rfl

/-- The number that a mantissa and its accuracy stand for is rounded to the float that it rounds
to. -/
theorem roundWithAccuracy_eq {acc : Accuracy} {w : ℚ} {k : ℕ} {s : ℤ} (sign : Sign)
    (hw : Represents (.ofMantissaAndAccuracy m acc) w)
    (he : e ≤ Format.binary64.targetExponent (totalExponent m e)) (hc : IsCanonical k s)
    (h : RoundsTo k s (w * 2 ^ e)) :
    roundWithAccuracy .binary64 sign m e acc = .finite sign k s hc.pos := by
  have hmantissa : (ExtendedMantissa.ofMantissaAndAccuracy m acc).mantissa = m := by
    rcases acc with _ | _ | _ | _ <;> rfl
  have hunit : IsUnit (Format.binary64.targetExponent (totalExponent m e)) (w * 2 ^ e) := by
    obtain ⟨hlow, hhigh⟩ := hw.floor
    rw [hmantissa] at hlow hhigh
    exact isUnit_targetExponent hlow hhigh he
  obtain ⟨n, hn⟩ := Int.le.dest he
  have hshift : shiftToTargetExponent .binary64 m e acc =
      (ExtendedMantissa.ofMantissaAndAccuracy m acc >>> n, e + n) := by
    rw [shiftToTargetExponent, shiftToExponent, ← hn, add_sub_cancel_left, Int.toNat_natCast]
  rw [← hn] at hunit
  have hrep := hw.shiftRight n
  -- the mantissa shifted is the number in its own unit
  have hunits : w / 2 ^ n = w * 2 ^ e / 2 ^ (e + n) := by
    rw [two_zpow_add, zpow_natCast]
    field_simp
  rw [hunits] at hrep
  rw [roundWithAccuracy, hshift]
  obtain hs | ⟨rfl, hs⟩ := h.scale_eq hc hunit
  · rw [hs] at hrep ⊢
    have hrounded := hrep.roundedMantissa_eq h.nearest
    dsimp only
    rw [hrounded, shiftToTargetExponent_exact hc.lt hc.min]
    exact dif_neg hc.pos.ne'
  · subst hs
    have hrounded := hrep.roundedMantissa_eq (h.nearest_power hunit)
    dsimp only
    rw [hrounded, shiftToTargetExponent_power hunit.min]
    rfl

/-! ### Products and quotients -/

variable {m₁ m₂ k : ℕ} {e₁ e₂ s : ℤ}

/-- A product is rounded once. -/
theorem mul_eq (h₁ : 0 < m₁) (h₂ : 0 < m₂) (hbits : 2 ^ 52 ≤ m₁ * m₂) (hc : IsCanonical k s)
    (h : RoundsTo k s (m₁ * 2 ^ e₁ * (m₂ * 2 ^ e₂))) :
    UnpackedFloat.mul .binary64 (.finite .positive m₁ e₁ h₁) (.finite .positive m₂ e₂ h₂) =
      .finite .positive k s hc.pos := by
  refine roundWithAccuracy_eq .positive (represents_exact (m₁ * m₂)) ?_ hc ?_
  · have hlog : 52 ≤ (m₁ * m₂).log2 := (Nat.le_log2 (Nat.mul_pos h₁ h₂).ne').2 hbits
    rw [targetExponent_eq]
    omega
  · rw [two_zpow_add]
    push_cast
    rwa [mul_mul_mul_comm]

/-- The quotient is formed with as many bits as the result has, or more. -/
theorem le_targetExponent_quotient (h₁ : 0 < m₁) (h₂ : 0 < m₂) {t : ℤ} {n : ℕ}
    (ht : t ≤ max (m₁.log2 + e₁ - (m₂.log2 + e₂) - 53) (-1074)) (hn : t + n = e₁ - e₂) :
    t ≤ Format.binary64.targetExponent (totalExponent (m₁ * 2 ^ n / m₂) t) := by
  rw [targetExponent_eq]
  obtain hmin | hmax := le_total ((m₁.log2 : ℤ) + e₁ - (m₂.log2 + e₂) - 53) (-1074)
  · omega
  · have hbits : 2 ^ 52 ≤ m₁ * 2 ^ n / m₂ := by
      rw [Nat.le_div_iff_mul_le h₂]
      calc 2 ^ 52 * m₂ ≤ 2 ^ 52 * 2 ^ (m₂.log2 + 1) :=
            Nat.mul_le_mul_left _ Nat.lt_log2_self.le
        _ = 2 ^ (52 + (m₂.log2 + 1)) := (Nat.pow_add ..).symm
        _ ≤ 2 ^ (m₁.log2 + n) := Nat.pow_le_pow_right two_pos (by omega)
        _ = 2 ^ m₁.log2 * 2 ^ n := Nat.pow_add ..
        _ ≤ m₁ * 2 ^ n := Nat.mul_le_mul_right _ (Nat.log2_self_le h₁.ne')
    have hlog : 52 ≤ (m₁ * 2 ^ n / m₂).log2 :=
      (Nat.le_log2 (lt_of_lt_of_le (by positivity) hbits).ne').2 hbits
    omega

/-- A quotient is rounded once. -/
theorem div_eq (h₁ : 0 < m₁) (h₂ : 0 < m₂) (hc : IsCanonical k s)
    (h : RoundsTo k s (m₁ * 2 ^ e₁ / (m₂ * 2 ^ e₂))) :
    UnpackedFloat.div .binary64 (.finite .positive m₁ e₁ h₁) (.finite .positive m₂ e₂ h₂) =
      .finite .positive k s hc.pos := by
  have hpos : (0 : ℚ) < m₂ := by exact_mod_cast h₂
  obtain ⟨t, ht⟩ : ∃ t, t = min (e₁ - e₂)
      (Format.binary64.targetExponent (totalExponent m₁ e₁ - totalExponent m₂ e₂)) := ⟨_, rfl⟩
  obtain ⟨n, hn⟩ := Int.le.dest (ht.le.trans (min_le_left _ _))
  have hcore : divCore .binary64 m₁ e₁ m₂ e₂ =
      (m₁ * 2 ^ n / m₂, t, accuracyOfFraction (m₁ * 2 ^ n % m₂) m₂) := by
    rw [divCore, ← ht, ← hn, add_sub_cancel_left, Int.toNat_natCast, Nat.shiftLeft_eq]
  show (let (m, e, acc) := divCore .binary64 m₁ e₁ m₂ e₂
    roundWithAccuracy .binary64 .positive m e acc) = _
  rw [hcore]
  refine roundWithAccuracy_eq .positive (represents_fraction (m₁ * 2 ^ n) h₂) ?_ hc ?_
  · refine le_targetExponent_quotient h₁ h₂ ?_ hn
    rw [targetExponent_total, totalExponent, totalExponent] at ht
    omega
  · have hvalue : ((m₁ * 2 ^ n : ℕ) : ℚ) / m₂ * 2 ^ t = m₁ * 2 ^ e₁ / (m₂ * 2 ^ e₂) := by
      have hexponent : (2 : ℚ) ^ t * 2 ^ n * 2 ^ e₂ = 2 ^ e₁ := by
        rw [← zpow_natCast, ← two_zpow_add, ← two_zpow_add, hn, sub_add_cancel]
      rw [div_mul_eq_mul_div, div_eq_div_iff hpos.ne' (by positivity), ← hexponent]
      push_cast
      ring
    rwa [hvalue]

/-! ### Decimals -/

/-- The rational number that a decimal is. -/
def Decimal.value (d : Decimal) : ℚ := d.digits * 10 ^ d.exponent

/-- What is rounded to a finite float is not too large. -/
theorem RoundsTo.lt_two_pow {v : ℚ} (h : RoundsTo k s v) (hc : IsCanonical k s) (hs : s ≤ 971) :
    v < 2 ^ (1024 : ℤ) := by
  have hk : (k : ℚ) + 1 ≤ 2 ^ (53 : ℤ) := by exact_mod_cast hc.lt
  have hpos : (0 : ℚ) < 2 ^ s := by positivity
  calc v ≤ (k + 1 / 2) * 2 ^ s := h.upper
    _ < 2 ^ (53 : ℤ) * 2 ^ s := mul_lt_mul_of_pos_right (by linarith) hpos
    _ = 2 ^ (53 + s) := (two_zpow_add _ _).symm
    _ ≤ 2 ^ (1024 : ℤ) := two_zpow_le (by omega)

/-- What is rounded to a float other than zero is not too small. -/
theorem RoundsTo.two_pow_le {v : ℚ} (h : RoundsTo k s v) (hc : IsCanonical k s) :
    2 ^ (-1075 : ℤ) ≤ v := by
  have hk : (1 : ℚ) ≤ k := by exact_mod_cast hc.pos
  have hpos : (0 : ℚ) < 2 ^ s := by positivity
  calc (2 : ℚ) ^ (-1075 : ℤ) ≤ 2 ^ (-1 + s) := two_zpow_le (by have := hc.min; omega)
    _ = 1 / 2 * 2 ^ s := by rw [two_zpow_add, zpow_neg_one, one_div]
    _ ≤ (k - 1 / 2) * 2 ^ s := mul_le_mul_of_nonneg_right (by linarith) hpos.le
    _ ≤ v := h.lower

/-- The ways in which the float of a positive decimal is computed: the product or the quotient of
two numbers whose value is that of the decimal, or nothing to compute because the decimal lies
outside the range of the format. -/
inductive Decimal.Computes (d : Decimal) : UnpackedFloat → Prop where
  /-- A product, with enough bits to be rounded once. -/
  | product {m₁ m₂ : ℕ} (e₁ e₂ : ℤ) (h₁ : 0 < m₁) (h₂ : 0 < m₂) : 2 ^ 52 ≤ m₁ * m₂ →
      (m₁ * 2 ^ e₁ * (m₂ * 2 ^ e₂) : ℚ) = d.value →
      Computes d (.mul .binary64 (.finite .positive m₁ e₁ h₁) (.finite .positive m₂ e₂ h₂))
  /-- A quotient. -/
  | quotient {m₁ m₂ : ℕ} (e₁ e₂ : ℤ) (h₁ : 0 < m₁) (h₂ : 0 < m₂) :
      (m₁ * 2 ^ e₁ / (m₂ * 2 ^ e₂) : ℚ) = d.value →
      Computes d (.div .binary64 (.finite .positive m₁ e₁ h₁) (.finite .positive m₂ e₂ h₂))
  /-- Zero for what is too small. -/
  | zero : d.value < 2 ^ (-1075 : ℤ) → Computes d (.zero .positive)
  /-- Infinity for what is too large. -/
  | infinity : 2 ^ (1024 : ℤ) ≤ d.value → Computes d (.infinity .positive)

/-- A decimal near a float is computed to be that float. -/
theorem Decimal.Computes.eq_finite {d : Decimal} {u : UnpackedFloat} (hu : d.Computes u)
    (hc : IsCanonical k s) (hs : s ≤ 971) (h : RoundsTo k s d.value) :
    u = .finite .positive k s hc.pos := by
  cases hu with
  | product _ _ h₁ h₂ hbits hvalue => exact mul_eq h₁ h₂ hbits hc (hvalue.symm ▸ h)
  | quotient _ _ h₁ h₂ hvalue => exact div_eq h₁ h₂ hc (hvalue.symm ▸ h)
  | zero hlt => exact absurd hlt (h.two_pow_le hc).not_gt
  | infinity hle => exact absurd hle (h.lt_two_pow hc hs).not_ge

/-- A decimal with a large exponent is too large. -/
theorem Decimal.two_pow_le_value {d : Decimal} (hd : 0 < d.digits) (hexponent : 1024 ≤ d.exponent) :
    2 ^ (1024 : ℤ) ≤ d.value := by
  have hone : (1 : ℚ) ≤ d.digits := by exact_mod_cast hd
  calc (2 : ℚ) ^ (1024 : ℤ) ≤ 2 ^ d.exponent := two_zpow_le hexponent
    _ ≤ 10 ^ d.exponent := zpow_le_zpow_left₀ (by omega) (by norm_num) (by norm_num)
    _ ≤ d.value := le_mul_of_one_le_left (by positivity) hone

/-- A decimal with a small exponent is too small. -/
theorem Decimal.value_lt_two_pow {d : Decimal} (hexponent : d.exponent ≤ -(1076 + d.digits.log2)) :
    d.value < 2 ^ (-1075 : ℤ) := by
  have hdigits : (d.digits : ℚ) < 2 ^ ((d.digits.log2 : ℤ) + 1) := by
    exact_mod_cast Nat.lt_log2_self (n := d.digits)
  have hpower : (10 : ℚ) ^ d.exponent ≤ 2 ^ d.exponent := by
    have hle : (2 : ℚ) ^ (-d.exponent) ≤ 10 ^ (-d.exponent) :=
      zpow_le_zpow_left₀ (by omega) (by norm_num) (by norm_num)
    rw [zpow_neg, zpow_neg] at hle
    exact (inv_le_inv₀ (by positivity) (by positivity)).1 hle
  calc d.value < 2 ^ ((d.digits.log2 : ℤ) + 1) * 10 ^ d.exponent :=
        mul_lt_mul_of_pos_right hdigits (by positivity)
    _ ≤ 2 ^ ((d.digits.log2 : ℤ) + 1) * 2 ^ d.exponent :=
        mul_le_mul_of_nonneg_left hpower (by positivity)
    _ = 2 ^ ((d.digits.log2 : ℤ) + 1 + d.exponent) := (two_zpow_add _ _).symm
    _ ≤ 2 ^ (-1075 : ℤ) := two_zpow_le (by omega)

/-- The float of a decimal is computed in one of these ways, by the size of its exponent. -/
theorem Decimal.computes_ofScientific {d : Decimal} (hd : 0 < d.digits) :
    d.Computes (UnpackedFloat.ofScientific .binary64 d.digits d.exponent) := by
  have hbound : (2 : ℤ) ^ Format.binary64.exponentBits = 2048 := rfl
  rw [UnpackedFloat.ofScientific, dif_neg hd.ne', hbound]
  by_cases hlarge : d.exponent > 2048
  · rw [if_pos hlarge]
    exact .infinity (two_pow_le_value hd (by omega))
  rw [if_neg hlarge]
  by_cases hsmall : d.exponent < -(2048 + d.digits.log2)
  · rw [if_pos hsmall]
    exact .zero (value_lt_two_pow (by omega))
  rw [if_neg hsmall]
  by_cases hnonneg : 0 ≤ d.exponent
  · rw [if_pos hnonneg]
    obtain ⟨n, hn⟩ := Int.eq_ofNat_of_zero_le hnonneg
    refine .product (-53) 0 _ _ ?_ ?_
    · rw [Nat.shiftLeft_eq]
      calc 2 ^ 52 ≤ 1 * 2 ^ 53 * 1 := by norm_num
        _ ≤ d.digits * 2 ^ 53 * 10 ^ d.exponent.toNat :=
          Nat.mul_le_mul (Nat.mul_le_mul_right _ hd) (Nat.one_le_pow _ _ (by norm_num))
    · have hshift : ((d.digits <<< 53 : ℕ) : ℚ) * 2 ^ (-53 : ℤ) = d.digits := by
        rw [Nat.shiftLeft_eq]
        rw [Nat.cast_mul, Nat.cast_pow, Nat.cast_ofNat, mul_assoc, ← zpow_natCast, ← two_zpow_add,
          Nat.cast_ofNat, add_neg_cancel, zpow_zero, mul_one]
      refine (congrArg (· * _) hshift).trans ?_
      rw [Decimal.value, hn, Int.toNat_natCast, zpow_natCast, zpow_zero, mul_one, Nat.cast_pow,
        Nat.cast_ofNat]
  · rw [if_neg hnonneg]
    obtain ⟨n, hn⟩ := Int.eq_ofNat_of_zero_le (show 0 ≤ -d.exponent by omega)
    refine .quotient 0 0 _ _ ?_
    rw [Decimal.value, hn, Int.toNat_natCast, ← neg_neg d.exponent, hn, zpow_neg, zpow_natCast,
      zpow_zero, mul_one, mul_one, Nat.cast_pow, Nat.cast_ofNat, div_eq_mul_inv]

end

/-! ### Floats of small decimals -/

theorem roundsTo_self {k : ℕ} {s : ℤ} : RoundsTo k s (k * 2 ^ s) := by
  have hpos : (0 : ℚ) < 2 ^ s := by positivity
  have hunits : (k : ℚ) * 2 ^ s / 2 ^ s = k := mul_div_cancel_right₀ _ hpos.ne'
  refine ⟨⟨?_, ?_, fun _ ↦ ⟨?_, ?_⟩⟩, fun _ _ ↦ ?_⟩
  all_goals
    rw [hunits]
    linarith

theorem log2_mul_two_pow {m : ℕ} (hm : m ≠ 0) (n : ℕ) : (m * 2 ^ n).log2 = m.log2 + n := by
  refine (Nat.log2_eq_iff (by positivity)).2 ⟨?_, ?_⟩
  · rw [Nat.pow_add]
    exact Nat.mul_le_mul_right _ (Nat.log2_self_le hm)
  · rw [Nat.add_right_comm, Nat.pow_add]
    exact Nat.mul_lt_mul_of_pos_right Nat.lt_log2_self (by positivity)

/-- Rounding gives the canonical float that is nearest. -/
theorem round_eq {m k : ℕ} {e s : ℤ} (sign : Sign) (hc : IsCanonical k s)
    (h : RoundsTo k s (m * 2 ^ e)) :
    UnpackedFloat.round .binary64 sign m e = .finite sign k s hc.pos := by
  obtain ⟨t, ht⟩ : ∃ t, t = Format.binary64.targetExponent (totalExponent m e) := ⟨_, rfl⟩
  obtain ⟨n, hn⟩ : ∃ n, n = (e - t).toNat := ⟨_, rfl⟩
  have hvalue : ((m * 2 ^ n : ℕ) : ℚ) * 2 ^ (e - n) = m * 2 ^ e := by
    push_cast
    rw [mul_assoc, ← zpow_natCast, ← two_zpow_add, add_sub_cancel]
  rw [UnpackedFloat.round, decreaseExponent, ← ht, ← hn, Nat.shiftLeft_eq]
  refine roundWithAccuracy_eq sign (represents_exact (m * 2 ^ n)) ?_ hc (hvalue.symm ▸ h)
  have hm : m ≠ 0 := by
    rintro rfl
    have hlow := h.two_pow_le hc
    rw [Nat.cast_zero, zero_mul] at hlow
    exact hlow.not_gt (by positivity)
  rw [targetExponent_eq] at ht ⊢
  rw [log2_mul_two_pow hm]
  omega

/-- A normal float is packed without the first bit of its mantissa. -/
theorem pack_normal {k : ℕ} {s : ℤ} (hc : IsCanonical k s) (hs : s ≤ 971) (hk : 2 ^ 52 ≤ k) :
    UnpackedFloat.pack .binary64 (.finite .positive k s hc.pos) =
      packComponents .binary64 .positive (BitVec.ofNat 11 (s + 1075).toNat)
        (BitVec.ofNat 52 k) := by
  have hlog : k.log2 = 52 := (Nat.log2_eq_iff hc.pos.ne').2 ⟨hk, hc.lt⟩
  have hbiased : (s + (1023 : ℕ) + (52 : ℕ)).toNat = (s + 1075).toNat := by
    congr 1
    omega
  have hmin := hc.min
  unfold UnpackedFloat.pack
  show (if 2 ^ 11 ≤ (s + (1023 : ℕ) + (52 : ℕ)).toNat + 1 then _
    else if k.log2 + 1 = 53 then _ else _) = _
  rw [hbiased, if_neg (by omega), if_pos (by omega)]
  show packComponents .binary64 .positive
    (BitVec.ofNat 11 (s + (1023 : ℕ) + (52 : ℕ)).toNat) (BitVec.ofNat 52 k) = _
  rw [hbiased]

/-- A subnormal float is packed with the exponent zero. -/
theorem pack_subnormal {k : ℕ} {s : ℤ} (hc : IsCanonical k s) (hk : k < 2 ^ 52) :
    UnpackedFloat.pack .binary64 (.finite .positive k s hc.pos) =
      packComponents .binary64 .positive 0#11 (BitVec.ofNat 52 k) := by
  have hlog : k.log2 < 52 := (Nat.log2_lt hc.pos.ne').2 hk
  obtain rfl : s = -1074 := hc.normal.resolve_right (by omega)
  unfold UnpackedFloat.pack
  show (if 2 ^ 11 ≤ (-1074 + (1023 : ℕ) + (52 : ℕ) : ℤ).toNat + 1 then _
    else if k.log2 + 1 = 53 then _ else _) = _
  rw [if_neg (by decide), if_neg (by omega)]

theorem unpackSign_packComponents {spec : Format} {sign : Sign}
    {e : BitVec spec.exponentBits} {m : BitVec spec.mantissaBitsWithoutImplicit} :
    unpackSign (packComponents spec sign e m) = sign.toBitVec := by
  ext i hi
  have hplace : spec.mantissaBitsWithoutImplicit + spec.exponentBits + i -
      spec.mantissaBitsWithoutImplicit - spec.exponentBits = i := by omega
  unfold unpackSign packComponents
  simp only [BitVec.getElem_cast, BitVec.extractLsb, BitVec.getElem_extractLsb',
    BitVec.getLsbD_append]
  rw [if_neg (by omega), if_neg (by omega), hplace, BitVec.getLsbD_eq_getElem hi]

/-- Bits with an exponent that is neither the least nor the greatest one are those of a float whose
first bit is not written. -/
theorem exists_unpack_eq_finite {b : BitVec 64} (hones : @unpackExponent .binary64 b ≠ -1#11)
    (hzero : @unpackExponent .binary64 b ≠ 0#11) :
    ∃ h, UnpackedFloat.unpack .binary64 b =
      .finite (Sign.ofBitVec (@unpackSign .binary64 b)) (1#1 ++ @unpackMantissa .binary64 b).toNat
        ((@unpackExponent .binary64 b).toNat - ((1023 : ℕ) + (52 : ℕ))) h :=
  ⟨_, (if_neg hones).trans (if_neg hzero)⟩

/-- A normal float is unpacked as it was packed. -/
theorem unpack_pack_normal {k : ℕ} {s : ℤ} (hc : IsCanonical k s) (hs : s ≤ 971)
    (hk : 2 ^ 52 ≤ k) :
    (Float.Model.pack (.finite .positive k s hc.pos)).unpack = .finite .positive k s hc.pos := by
  have hmin := hc.min
  have hlt := hc.lt
  have hexponent : (BitVec.ofNat 11 (s + 1075).toNat).toNat = (s + 1075).toNat := by
    rw [BitVec.toNat_ofNat]
    omega
  have hones : BitVec.ofNat 11 (s + 1075).toNat ≠ -1#11 := by
    intro heq
    have hnat := congrArg BitVec.toNat heq
    rw [hexponent] at hnat
    have hones : (-1#11 : BitVec 11).toNat = 2047 := by decide
    omega
  have hzero : BitVec.ofNat 11 (s + 1075).toNat ≠ 0#11 := by
    intro heq
    have hnat := congrArg BitVec.toNat heq
    rw [hexponent, BitVec.toNat_zero] at hnat
    omega
  have hmantissa : (1#1 ++ BitVec.ofNat 52 k).toNat = k := by
    rw [BitVec.toNat_append, BitVec.toNat_ofNat]
    have hor : 1 <<< 52 ||| k % 2 ^ 52 = 2 ^ 52 + k % 2 ^ 52 := by
      rw [← Nat.shiftLeft_add_eq_or_of_lt (Nat.mod_lt k (by norm_num)), Nat.shiftLeft_eq, one_mul]
    show 1 <<< 52 ||| k % 2 ^ 52 = k
    omega
  show UnpackedFloat.unpack .binary64
    (UnpackedFloat.pack .binary64 (.finite .positive k s hc.pos)) = _
  rw [pack_normal hc hs hk]
  obtain ⟨hpos, hunpack⟩ := exists_unpack_eq_finite
    (b := packComponents .binary64 .positive (BitVec.ofNat 11 (s + 1075).toNat) (BitVec.ofNat 52 k))
    (by rwa [unpackExponent_packComponents]) (by rwa [unpackExponent_packComponents])
  rw [hunpack, UnpackedFloat.finite.injEq, unpackExponent_packComponents,
    unpackMantissa_packComponents, unpackSign_packComponents]
  refine ⟨rfl, hmantissa, ?_⟩
  rw [hexponent]
  show _ - ((1023 : ℕ) + (52 : ℕ) : ℤ) = _
  omega

/-- A number of at most 53 bits is filled up to 53 bits. -/
theorem filledUp {m : ℕ} (hpos : 0 < m) (hlt : m < 2 ^ 53) :
    2 ^ 52 ≤ m * 2 ^ (52 - m.log2) ∧ m * 2 ^ (52 - m.log2) < 2 ^ 53 := by
  have hlog : m.log2 ≤ 52 := Nat.lt_succ_iff.1 ((Nat.log2_lt hpos.ne').2 hlt)
  have hfull : (m * 2 ^ (52 - m.log2)).log2 = 52 := by
    rw [log2_mul_two_pow hpos.ne', Nat.add_sub_cancel' hlog]
  exact (Nat.log2_eq_iff (by positivity)).1 hfull

/-- A natural number of at most 53 bits is a float. -/
theorem unpack_toFloat {m : ℕ} (hpos : 0 < m) (hlt : m < 2 ^ 53) :
    ∃ (k : ℕ) (s : ℤ) (hk : 0 < k), 2 ^ 52 ≤ k ∧ (k * 2 ^ s : ℚ) = m ∧
      m.toUInt64.toFloat.toModel.unpack = .finite .positive k s hk := by
  obtain ⟨hlow, hhigh⟩ := filledUp hpos hlt
  obtain ⟨n, hn⟩ : ∃ n, n = 52 - m.log2 := ⟨_, rfl⟩
  rw [← hn] at hlow hhigh
  have hk : 0 < m * 2 ^ n := by positivity
  have hc : IsCanonical (m * 2 ^ n) (-n) := ⟨hk, hhigh, by omega, .inr hlow⟩
  have hvalue : ((m * 2 ^ n : ℕ) : ℚ) * 2 ^ (-n : ℤ) = m := by
    push_cast
    rw [mul_assoc, ← zpow_natCast, ← two_zpow_add, add_neg_cancel, zpow_zero, mul_one]
  have hround : UnpackedFloat.ofNat .binary64 m = .finite .positive (m * 2 ^ n) (-n) hk := by
    have hcompare : compare (m : ℤ) 0 = .gt := compare_gt_iff_gt.2 (by exact_mod_cast hpos)
    rw [UnpackedFloat.ofNat, UnpackedFloat.ofInt, UnpackedFloat.normalize]
    rw [hcompare]
    dsimp only
    rw [Int.toNat_natCast]
    refine round_eq .positive hc ?_
    rw [zpow_zero, mul_one, ← hvalue]
    exact roundsTo_self
  refine ⟨m * 2 ^ n, -n, hk, hlow, hvalue, ?_⟩
  have hbits : m.toUInt64.toNat = m := UInt64.toNat_ofNat_of_lt' (hlt.trans (by decide))
  show (Float.Model.pack (UnpackedFloat.ofNat .binary64 m.toUInt64.toNat)).unpack = _
  rw [hbits, hround]
  exact unpack_pack_normal hc (by omega) hlow

/-- The powers of ten in the table are what they should be. -/
theorem unpack_power (e : Fin 23) :
    ∃ (k : ℕ) (s : ℤ) (hk : 0 < k), 2 ^ 52 ≤ k ∧ (k * 2 ^ s : ℚ) = 10 ^ e.val ∧
      Float.exactlyRepresentablePowersOfTen[e].toModel.unpack = .finite .positive k s hk := by
  have hfive : 5 ^ e.val < 2 ^ 53 :=
    (Nat.pow_le_pow_right (by norm_num) (Nat.lt_succ_iff.1 e.isLt)).trans_lt
      (by norm_num : 5 ^ 22 < 2 ^ 53)
  have hten : (10 : ℚ) ^ e.val = 5 ^ e.val * 2 ^ e.val := by
    rw [← mul_pow]
    norm_num
  refine ⟨5 ^ e.val * 2 ^ (52 - (5 ^ e.val).log2), e.val - (52 - (5 ^ e.val).log2 : ℕ),
    by positivity, (filledUp (by positivity) hfive).1, ?_, ?_⟩
  · push_cast
    rw [hten, mul_assoc, ← zpow_natCast 2 (52 - _), ← two_zpow_add, add_sub_cancel, zpow_natCast]
  · fin_cases e <;> rfl

/-- The float of a decimal is computed in one rounding, also if the decimal is short enough for its
parts to be floats. -/
theorem Decimal.exists_computes {d : Decimal} (hd : 0 < d.digits) :
    ∃ u, d.Computes u ∧
      Float.ofScientific d.digits (decide (d.exponent < 0)) d.exponent.natAbs =
        .ofModel (.pack u) := by
  rw [Float.ofScientific]
  split
  · rename_i hshort
    obtain ⟨m₁, e₁, hm₁, hbits₁, hvalue₁, hunpack₁⟩ := unpack_toFloat hd hshort.1
    obtain ⟨m₂, e₂, hm₂, -, hvalue₂, hunpack₂⟩ :=
      unpack_power ⟨d.exponent.natAbs, Nat.lt_succ_iff.2 hshort.2⟩
    dsimp only at hvalue₂
    split
    · rename_i hneg
      have hexponent : d.exponent = -d.exponent.natAbs := by
        have := of_decide_eq_true hneg
        omega
      refine ⟨_, .quotient e₁ e₂ hm₁ hm₂ ?_, ?_⟩
      · rw [hvalue₁, hvalue₂, Decimal.value, hexponent, zpow_neg, zpow_natCast, Int.natAbs_neg,
          Int.natAbs_natCast, div_eq_mul_inv]
      · exact congrArg (Float.ofModel <| .pack ·)
          (congrArg₂ (UnpackedFloat.div .binary64) hunpack₁ hunpack₂)
    · rename_i hnonneg
      have hexponent : d.exponent = d.exponent.natAbs := by
        have := of_decide_eq_false (Bool.eq_false_iff.2 hnonneg)
        omega
      refine ⟨_, .product e₁ e₂ hm₁ hm₂ (hbits₁.trans (Nat.le_mul_of_pos_right m₁ hm₂)) ?_, ?_⟩
      · rw [hvalue₁, hvalue₂, Decimal.value, hexponent, zpow_natCast, Int.natAbs_natCast]
      · exact congrArg (Float.ofModel <| .pack ·)
          (congrArg₂ (UnpackedFloat.mul .binary64) hunpack₁ hunpack₂)
  · have hexponent : (if decide (d.exponent < 0) then Int.negOfNat d.exponent.natAbs
        else Int.ofNat d.exponent.natAbs) = d.exponent := by
      rw [Int.negOfNat_eq]
      split
      · rename_i hneg
        have := of_decide_eq_true hneg
        show -(d.exponent.natAbs : ℤ) = _
        omega
      · rename_i hnonneg
        have := of_decide_eq_false (Bool.eq_false_iff.2 hnonneg)
        show (d.exponent.natAbs : ℤ) = _
        omega
    refine ⟨_, computes_ofScientific hd, ?_⟩
    show Float.ofModel (Float.Model.pack (UnpackedFloat.ofScientific .binary64 d.digits _)) = _
    rw [hexponent]

end FormWizard.Number
