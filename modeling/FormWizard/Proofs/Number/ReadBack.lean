import FormWizard.Proofs.Expr.Grammar
import FormWizard.Proofs.Number.Rounding

/-!
# Written numbers read back

The text of a number is made of the digits that `shortest` finds. Only one thing about them matters
here: they lie in the interval of the float (`roundsTo_shortest`). How few they are does not, nor
where the search ends, since the exact digits it falls back to lie in the interval as well. A
decimal is read as the float that it rounds to (`Decimal.toFloat_eq`), so the digits are read as the
float they were found for (`spelling_numberText`).

What has been read from digits has no sign and is zero, infinity or one of the floats
`IsCanonical.float`, as its bits tell (`Decimal.toBits_toFloat_le`). Infinity is the exception: it
is not written with digits, and its text is that of a name (`numberText_of_not_isFinite`).
-/

namespace FormWizard.Number

open Float.Model Float.Model.UnpackedFloat

theorem twoTo_eq (n : ℕ) : twoTo n = 2 ^ n := rfl

theorem tenTo_eq (n : ℕ) : tenTo n = 10 ^ n := rfl

/-! ### Floats and their bits -/

theorem float_ext {x y : Float} (h : x.toBits.toNat = y.toBits.toNat) : x = y := by
  obtain ⟨⟨a, ha⟩⟩ := x
  obtain ⟨⟨b, hb⟩⟩ := y
  obtain rfl : a = b := UInt64.toNat_inj.1 h
  rfl

/-- The bits of a float without a sign, as a number. -/
theorem toNat_packComponents (e : BitVec 11) (m : BitVec 52) :
    (packComponents .binary64 .positive e m).toNat = e.toNat * 2 ^ 52 + m.toNat := by
  have he : (Sign.positive.toBitVec ++ e).toNat = e.toNat := by
    rw [BitVec.toNat_append]
    exact (congrArg (· ||| e.toNat) (Nat.zero_shiftLeft 11)).trans (Nat.zero_or _)
  show (Sign.positive.toBitVec ++ e ++ m).toNat = _
  rw [BitVec.toNat_append, he, ← Nat.shiftLeft_add_eq_or_of_lt m.isLt, Nat.shiftLeft_eq]

/-- A number that has no sign. -/
def IsUnsigned : UnpackedFloat → Prop
  | .infinity s | .zero s | .finite s _ _ _ => s = .positive
  | .notANumber => False

/-- The bits of a number without a sign are those of infinity at most. -/
theorem toNat_pack_le {u : UnpackedFloat} (h : IsUnsigned u) :
    (UnpackedFloat.pack .binary64 u).toNat ≤ 2047 * 2 ^ 52 := by
  have hinfinity : (packComponents .binary64 .positive (-1#11) 0).toNat ≤ 2047 * 2 ^ 52 := by
    rw [toNat_packComponents]
    decide
  cases u with
  | notANumber => exact h.elim
  | infinity s =>
    obtain rfl : s = .positive := h
    exact hinfinity
  | zero s =>
    obtain rfl : s = .positive := h
    exact (toNat_packComponents 0 0).trans_le (by decide)
  | finite s m e hm =>
    obtain rfl : s = .positive := h
    obtain ⟨biased, hbiased⟩ : ∃ biased, biased = (e + (1023 : ℕ) + (52 : ℕ)).toNat := ⟨_, rfl⟩
    unfold UnpackedFloat.pack
    show (if 2 ^ 11 ≤ (e + (1023 : ℕ) + (52 : ℕ)).toNat + 1 then _
      else if m.log2 + 1 = 53 then packComponents .binary64 .positive
        (BitVec.ofNat 11 (e + (1023 : ℕ) + (52 : ℕ)).toNat) (BitVec.ofNat 52 m) else _).toNat ≤ _
    rw [← hbiased]
    split_ifs
    · exact hinfinity
    · rw [toNat_packComponents, BitVec.toNat_ofNat, BitVec.toNat_ofNat]
      omega
    · refine (toNat_packComponents 0#11 (BitVec.ofNat 52 m)).trans_le ?_
      rw [BitVec.toNat_ofNat, BitVec.toNat_ofNat]
      omega

theorem isUnsigned_roundWithAccuracy (m : ℕ) (e : ℤ) (acc : Accuracy) :
    IsUnsigned (roundWithAccuracy .binary64 .positive m e acc) := by
  unfold roundWithAccuracy
  dsimp only
  rw [apply_dite IsUnsigned]
  exact dite_prop_iff_and.2 ⟨fun _ ↦ rfl, fun _ ↦ rfl⟩

theorem Decimal.Computes.isUnsigned {d : Decimal} {u : UnpackedFloat} (h : d.Computes u) :
    IsUnsigned u := by
  cases h with
  | product => exact isUnsigned_roundWithAccuracy _ _ _
  | quotient => exact isUnsigned_roundWithAccuracy _ _ _
  | zero => rfl
  | infinity => rfl

/-- What is read from a decimal has no sign. -/
theorem Decimal.toBits_toFloat_le (d : Decimal) : d.toFloat.toBits.toNat ≤ 2047 * 2 ^ 52 := by
  rw [Decimal.toFloat]
  split_ifs with hzero hlarge
  · decide
  · decide
  · have hd : 0 < d.digits := Nat.pos_of_ne_zero fun h ↦ hzero (by simp [h])
    obtain ⟨u, hu, heq⟩ := d.exists_computes hd
    rw [heq]
    exact toNat_pack_le hu.isUnsigned

/-- The float with the mantissa and the scale, as far as its digits depend on it. -/
def binaryOf (m : ℕ) (s : ℤ) : Binary := ⟨m, s, m == 2 ^ 52 && decide (-1074 < s)⟩

namespace IsCanonical

variable {m : ℕ} {s : ℤ}

/-- The float with the mantissa and the scale. -/
def float (hc : IsCanonical m s) : Float := .ofModel (.pack (.finite .positive m s hc.pos))

/-- The bits of a normal float are its exponent and what its mantissa has above the first bit. -/
theorem toBits_normal (hc : IsCanonical m s) (hs : s ≤ 971) (hm : 2 ^ 52 ≤ m) :
    hc.float.toBits.toNat = (s + 1075).toNat * 2 ^ 52 + (m - 2 ^ 52) := by
  have hmin := hc.min
  have hlt := hc.lt
  show (UnpackedFloat.pack .binary64 (.finite .positive m s hc.pos)).toNat = _
  rw [pack_normal hc hs hm, toNat_packComponents, BitVec.toNat_ofNat, BitVec.toNat_ofNat]
  omega

/-- The bits of a subnormal float are its mantissa. -/
theorem toBits_subnormal (hc : IsCanonical m s) (hm : m < 2 ^ 52) :
    hc.float.toBits.toNat = m := by
  show (UnpackedFloat.pack .binary64 (.finite .positive m s hc.pos)).toNat = _
  rw [pack_subnormal hc hm, toNat_packComponents, BitVec.toNat_ofNat]
  show 0 * 2 ^ 52 + m % 2 ^ 52 = m
  omega

/-- The parts of a float are found in its bits. -/
theorem ofFloat_float (hc : IsCanonical m s) (hs : s ≤ 971) :
    Binary.ofFloat hc.float = binaryOf m s := by
  have hmin := hc.min
  have hlt := hc.lt
  obtain hm | hm := le_or_gt (2 ^ 52) m
  · have hbits := hc.toBits_normal hs hm
    have hexponent : hc.float.toBits.toNat / twoTo 52 % twoTo 11 = (s + 1075).toNat := by
      rw [twoTo_eq, twoTo_eq]
      omega
    have hfraction : hc.float.toBits.toNat % twoTo 52 = m - 2 ^ 52 := by
      rw [twoTo_eq]
      omega
    have hmantissa : twoTo 52 + (m - 2 ^ 52) = m := by
      rw [twoTo_eq]
      omega
    have hscale : ((s + 1075).toNat : ℤ) - 1075 = s := by omega
    have hnarrow : (m - 2 ^ 52 == 0 && decide (1 < (s + 1075).toNat)) =
        (m == 2 ^ 52 && decide (-1074 < s)) := by
      rw [Bool.eq_iff_iff]
      simp only [Bool.and_eq_true, beq_iff_eq, decide_eq_true_eq]
      omega
    have hne : ¬ (s + 1075).toNat = 0 := by omega
    simp only [Binary.ofFloat, binaryOf, hexponent, hfraction, if_neg hne, hmantissa, hscale,
      hnarrow]
  · have hbits := hc.toBits_subnormal hm
    have hexponent : hc.float.toBits.toNat / twoTo 52 % twoTo 11 = 0 := by
      rw [twoTo_eq, twoTo_eq]
      omega
    have hfraction : hc.float.toBits.toNat % twoTo 52 = m := by
      rw [twoTo_eq]
      omega
    obtain rfl : s = -1074 := hc.normal.resolve_right (by omega)
    simp only [Binary.ofFloat, binaryOf, hexponent, hfraction, if_true,
      beq_eq_false_iff_ne.2 hm.ne, Bool.false_and]

end IsCanonical

/-- A float whose bits come before those of infinity is finite. -/
theorem isFinite_of_toBits_lt {x : Float} (hx : x.toBits.toNat < 2047 * 2 ^ 52) :
    x.isFinite = true := by
  have hexponent : @unpackExponent .binary64 x.toModel.toBits.toBitVec ≠ -1#11 := by
    intro heq
    have hnat : (BitVec.extractLsb 62 52 x.toModel.toBits.toBitVec).toNat = 2047 :=
      congrArg BitVec.toNat heq
    rw [BitVec.extractLsb_toNat, Nat.shiftRight_eq_div_pow] at hnat
    have hbits : x.toModel.toBits.toBitVec.toNat < 2047 * 2 ^ 52 := hx
    omega
  show (UnpackedFloat.unpack .binary64 x.toModel.toBits.toBitVec).isFinite = true
  by_cases hzero : @unpackExponent .binary64 x.toModel.toBits.toBitVec = 0#11
  · unfold UnpackedFloat.unpack
    dsimp only
    rw [if_neg hexponent, if_pos hzero]
    by_cases hmantissa : @unpackMantissa .binary64 x.toModel.toBits.toBitVec = 0#52
    · rw [dif_pos hmantissa]
      rfl
    · rw [dif_neg hmantissa]
      rfl
  · obtain ⟨hpos, hunpack⟩ := exists_unpack_eq_finite hexponent hzero
    rw [hunpack]
    rfl

/-- The only number without a sign that is not finite. -/
theorem eq_infinity {x : Float} (hx : x.toBits.toNat ≤ 2047 * 2 ^ 52) (h : x.isFinite = false) :
    x = 1.0 / 0.0 := by
  refine float_ext (hx.eq_of_not_lt fun hlt ↦ ?_)
  rw [isFinite_of_toBits_lt hlt] at h
  cases h

/-- Zero apart, a float that is finite and has no sign is one of these. -/
theorem exists_isCanonical {x : Float} (hx : x.toBits.toNat ≤ 2047 * 2 ^ 52)
    (hfinite : x.isFinite = true) :
    x = 0.0 ∨ ∃ (m : ℕ) (s : ℤ) (hc : IsCanonical m s), s ≤ 971 ∧ x = hc.float := by
  have hne : x.toBits.toNat ≠ 2047 * 2 ^ 52 := by
    intro heq
    obtain rfl : x = 1.0 / 0.0 := float_ext heq
    exact absurd hfinite (by decide)
  obtain ⟨n, hn⟩ : ∃ n, n = x.toBits.toNat := ⟨_, rfl⟩
  rw [← hn] at hx hne
  obtain hlow | hlow := lt_or_ge n (2 ^ 52)
  · obtain rfl | hpos := Nat.eq_zero_or_pos n
    · exact .inl (float_ext hn.symm)
    · have hc : IsCanonical n (-1074) := ⟨hpos, by omega, le_rfl, .inl rfl⟩
      exact .inr ⟨n, -1074, hc, by omega, float_ext (hn.symm.trans (hc.toBits_subnormal hlow).symm)⟩
  · have hc : IsCanonical (2 ^ 52 + n % 2 ^ 52) ((n / 2 ^ 52 : ℕ) - 1075) :=
      ⟨by omega, by omega, by omega, .inr (by omega)⟩
    refine .inr ⟨_, _, hc, by omega, float_ext (hn.symm.trans ?_)⟩
    rw [hc.toBits_normal (by omega) (by omega)]
    omega

/-! ### The interval of a float -/

/-- An exponent below zero becomes one above zero on the other side. -/
theorem zpow_mul_pow_toNat {a : ℚ} (ha : a ≠ 0) (e : ℤ) : a ^ e * a ^ (-e).toNat = a ^ e.toNat := by
  rw [← zpow_natCast, ← zpow_natCast, ← zpow_add₀ ha]
  congr 1
  omega

/-- The comparison of natural numbers is that of the values. -/
theorem Decimal.compareScaled_eq (d : Decimal) (n : ℕ) (s : ℤ) :
    d.compareScaled n s = compare d.value (n * 2 ^ s) := by
  have hpos : (0 : ℚ) < 2 ^ (-s).toNat * 10 ^ (-d.exponent).toNat := by positivity
  have hvalue : d.value * (2 ^ (-s).toNat * 10 ^ (-d.exponent).toNat) =
      (d.digits * tenTo d.exponent.toNat * twoTo (-s).toNat : ℕ) := by
    rw [tenTo_eq, twoTo_eq]
    push_cast
    rw [← zpow_mul_pow_toNat (by norm_num) d.exponent, Decimal.value]
    ring
  have hscaled : (n * 2 ^ s : ℚ) * (2 ^ (-s).toNat * 10 ^ (-d.exponent).toNat) =
      (n * twoTo s.toNat * tenTo (-d.exponent).toNat : ℕ) := by
    rw [tenTo_eq, twoTo_eq]
    push_cast
    rw [← zpow_mul_pow_toNat two_ne_zero s]
    ring
  rw [← cmp_eq_compare, ← (strictMono_mul_right_of_pos hpos).cmp_map_eq]
  rw [hvalue, hscaled]
  rw [Nat.strictMono_cast.cmp_map_eq, cmp_eq_compare]
  rfl

/-- In quarters of a unit. -/
theorem Decimal.compareScaled_sub_two (d : Decimal) (n : ℕ) (s : ℤ) :
    d.compareScaled n (s - 2) = compare (d.value / 2 ^ s) (n / 4 : ℚ) := by
  have hpos : (0 : ℚ) < 2 ^ s := by positivity
  have hquarter : (n / 4 : ℚ) * 2 ^ s = n * 2 ^ (s - 2) := by
    rw [zpow_sub₀ two_ne_zero]
    ring
  rw [compareScaled_eq, ← cmp_eq_compare, ← cmp_eq_compare,
    ← (strictMono_mul_right_of_pos hpos).cmp_map_eq (d.value / 2 ^ s)]
  rw [div_mul_cancel₀ _ hpos.ne', hquarter]

/-- The decimals of the interval of a float round to it. -/
theorem roundsTo_of_holds {m : ℕ} {s : ℤ} {d : Decimal} (hm : 0 < m)
    (h : (binaryOf m s).holds d = true) : RoundsTo m s d.value := by
  simp only [Binary.holds, binaryOf, Decimal.compareScaled_sub_two, Bool.and_eq_true,
    Bool.or_eq_true, beq_iff_eq, compare_gt_iff_gt, compare_eq_iff_eq, compare_lt_iff_lt] at h
  obtain ⟨hlow, hhigh⟩ := h
  have hhalf : ((4 * m - 2 : ℕ) : ℚ) / 4 = m - 1 / 2 := by
    rw [Nat.cast_sub (by omega)]
    push_cast
    ring
  have hquarter : ((4 * m - 1 : ℕ) : ℚ) / 4 = m - 1 / 4 := by
    rw [Nat.cast_sub (by omega)]
    push_cast
    ring
  have habove : ((4 * m + 2 : ℕ) : ℚ) / 4 = m + 1 / 2 := by
    push_cast
    ring
  rw [habove] at hhigh
  -- below a power of two the interval is the narrower one
  have hlower : (m : ℚ) - 1 / 2 < d.value / 2 ^ s ∨
      m % 2 = 0 ∧ (m : ℚ) - 1 / 2 ≤ d.value / 2 ^ s := by
    split_ifs at hlow with hnarrow
    · rw [hquarter] at hlow
      obtain hlow | ⟨-, hlow⟩ := hlow
      · exact .inl (by linarith)
      · exact .inl (by linarith)
    · rw [hhalf] at hlow
      exact hlow.imp id (And.imp_right Eq.ge)
  refine ⟨⟨?_, ?_, fun hodd ↦ ⟨?_, ?_⟩⟩, fun hpower hs ↦ ?_⟩
  · obtain hlower | ⟨-, hlower⟩ := hlower
    · exact hlower.le
    · exact hlower
  · obtain hhigh | ⟨-, hhigh⟩ := hhigh
    · exact hhigh.le
    · exact hhigh.le
  · exact hlower.resolve_right fun h ↦ by omega
  · exact hhigh.resolve_right fun h ↦ by omega
  · rw [if_pos ⟨hpower, decide_eq_true hs⟩, hquarter] at hlow
    obtain hlow | ⟨-, hlow⟩ := hlow
    · exact hlow.le
    · exact hlow.ge

/-- A decimal that is taken from a grid is in the interval. -/
theorem Binary.holds_of_onGrid? {tie : TieRule} {b : Binary} {e : ℤ} {d : Decimal}
    (h : b.onGrid? tie e = some d) : b.holds d = true := by
  simp only [Binary.onGrid?] at h
  split at h
  · rename_i hlower _
    cases h
    exact hlower
  · rename_i _ hupper
    cases h
    exact hupper
  · cases h
  · rename_i hlower hupper
    split at h
    · cases h
      exact hlower
    · cases h
      exact hupper
    · cases h
      exact hupper
    · split_ifs at h
      · cases h
        exact hlower
      · cases h
        exact hupper

/-- A decimal without its last zeros has the same value. -/
theorem Decimal.value_stripZeros (steps : ℕ) (d : Decimal) :
    (d.stripZeros steps).value = d.value := by
  induction steps generalizing d with
  | zero => rfl
  | succ steps ih =>
    rw [Decimal.stripZeros]
    split
    · rename_i hzero
      have hmod : d.digits % 10 = 0 := by simpa using (Bool.and_eq_true_iff.1 hzero).1
      have hdigits : (d.digits : ℚ) = 10 * (d.digits / 10 : ℕ) := by
        exact_mod_cast (Nat.mul_div_cancel' (Nat.dvd_of_mod_eq_zero hmod)).symm
      rw [ih, Decimal.value, Decimal.value, hdigits, zpow_add_one₀ (by norm_num)]
      ring
    · rfl

/-- The decimal with all digits of a float has its value. -/
theorem value_exact (m : ℕ) (s : ℤ) : (binaryOf m s).exact.value = m * 2 ^ s := by
  have hten : (5 : ℚ) ^ (-s).toNat * 10 ^ (-((-s).toNat : ℤ)) = (2 ^ (-s).toNat)⁻¹ := by
    rw [zpow_neg, zpow_natCast, show (10 : ℚ) = 5 * 2 by norm_num, mul_pow, mul_inv, ← mul_assoc,
      mul_inv_cancel₀ (by positivity), one_mul]
  show ((m * twoTo s.toNat * Nat.pow 5 (-s).toNat : ℕ) : ℚ) * 10 ^ (-((-s).toNat : ℤ)) = _
  rw [twoTo_eq, Nat.pow_eq]
  push_cast
  rw [mul_assoc _ (5 ^ _), hten, ← zpow_mul_pow_toNat two_ne_zero s, ← mul_assoc,
    mul_inv_cancel_right₀ (by positivity)]

/-- The shortest digits of a float round to it. -/
theorem roundsTo_shortest {m : ℕ} {s : ℤ} (tie : TieRule) (hc : IsCanonical m s) (hs : s ≤ 971) :
    RoundsTo m s (shortest tie hc.float).value := by
  have hne : ¬ (binaryOf m s).mantissa = 0 := hc.pos.ne'
  simp only [shortest, hc.ofFloat_float hs, if_neg hne, Decimal.value_stripZeros]
  cases hfound : (List.range 17).findSome? fun (n : ℕ) ↦
      (binaryOf m s).onGrid? tie ((binaryOf m s).leading - 1 - n) with
  | none =>
    rw [Option.getD_none, value_exact]
    exact roundsTo_self
  | some d =>
    obtain ⟨n, -, hn⟩ := List.exists_of_findSome?_eq_some hfound
    exact roundsTo_of_holds hc.pos (Binary.holds_of_onGrid? hn)

/-! ### Reading a decimal -/

/-- A number lies between the powers of ten that its count of digits names. -/
theorem digitCount_spec {n : ℕ} (hn : 0 < n) :
    0 < digitCount n ∧ 10 ^ (digitCount n - 1) ≤ n ∧ n < 10 ^ digitCount n := by
  rw [digitCount, if_neg hn.ne']
  have hpos : 0 < (Nat.toDigits 10 n).length := List.length_pos_iff.2 Nat.toDigits_ne_nil
  refine ⟨hpos, ?_, (Nat.length_toDigits_le_iff (by decide) hpos).1 le_rfl⟩
  by_contra hlt
  obtain hone | hmore := Nat.eq_zero_or_pos ((Nat.toDigits 10 n).length - 1)
  · rw [hone] at hlt
    omega
  · have := (Nat.length_toDigits_le_iff (by decide) hmore).2 (Nat.not_le.1 hlt)
    omega

theorem two_pow_1024_le : 2 ^ 1024 ≤ 10 ^ 310 := by decide +kernel

theorem two_pow_1075_le : 2 ^ 1075 ≤ 10 ^ 331 := by decide +kernel

/-- A decimal is read as the float that it rounds to. -/
theorem Decimal.toFloat_eq {d : Decimal} {m : ℕ} {s : ℤ} (hc : IsCanonical m s) (hs : s ≤ 971)
    (h : RoundsTo m s d.value) : d.toFloat = hc.float := by
  have hlow := h.two_pow_le hc
  have hhigh := h.lt_two_pow hc hs
  have hd : 0 < d.digits := by
    refine Nat.pos_of_ne_zero fun hzero ↦ ?_
    rw [Decimal.value, hzero, Nat.cast_zero, zero_mul] at hlow
    exact hlow.not_gt (by positivity)
  obtain ⟨hcount, hleast, hlt⟩ := digitCount_spec hd
  have hten : (10 : ℚ) ≠ 0 := by norm_num
  have hsmall : ¬ d.exponent + digitCount d.digits < -330 := by
    intro hmagnitude
    refine hlow.not_gt ?_
    calc d.value < 10 ^ (digitCount d.digits : ℤ) * 10 ^ d.exponent :=
          mul_lt_mul_of_pos_right (by exact_mod_cast hlt) (by positivity)
      _ = 10 ^ (digitCount d.digits + d.exponent) := (zpow_add₀ hten _ _).symm
      _ ≤ 10 ^ (-331 : ℤ) := zpow_le_zpow_right₀ (by norm_num) (by omega)
      _ ≤ 2 ^ (-1075 : ℤ) := by
        rw [zpow_neg, zpow_neg]
        exact inv_anti₀ (by positivity) (by exact_mod_cast two_pow_1075_le)
  have hlarge : ¬ 310 < d.exponent + digitCount d.digits := by
    intro hmagnitude
    refine hhigh.not_ge ?_
    calc (2 : ℚ) ^ (1024 : ℤ) ≤ 10 ^ (310 : ℤ) := by exact_mod_cast two_pow_1024_le
      _ ≤ 10 ^ (((digitCount d.digits - 1 : ℕ) : ℤ) + d.exponent) :=
        zpow_le_zpow_right₀ (by norm_num) (by omega)
      _ = 10 ^ ((digitCount d.digits - 1 : ℕ) : ℤ) * 10 ^ d.exponent := zpow_add₀ hten _ _
      _ ≤ d.value := mul_le_mul_of_nonneg_right (by exact_mod_cast hleast) (by positivity)
  obtain ⟨u, hu, heq⟩ := d.exists_computes hd
  rw [Decimal.toFloat, if_neg (by simp [hd.ne', hsmall]), if_neg hlarge, heq,
    hu.eq_finite hc hs h]
  rfl

/-! ### Digits -/

/-- Digits behind others are read from where these lead. -/
theorem natOfDigits_append (cs ds : List Char) :
    natOfDigits (cs ++ ds) = Nat.ofDigitChars 10 ds (natOfDigits cs) :=
  Nat.ofDigitChars_append 0

theorem natOfDigits_toDigits (n : ℕ) : natOfDigits (Nat.toDigits 10 n) = n :=
  Nat.ofDigitChars_toDigits (by decide) (by decide)

/-- Zeros behind digits multiply by a power of ten. -/
theorem natOfDigits_append_zeros (cs : List Char) (n : ℕ) :
    natOfDigits (cs ++ zeros n) = 10 ^ n * natOfDigits cs := by
  rw [natOfDigits_append, zeros, Nat.ofDigitChars_replicate_zero]

/-- Zeros in front of digits do not count. -/
theorem natOfDigits_zeros_append (n : ℕ) (cs : List Char) :
    natOfDigits (zeros n ++ cs) = natOfDigits cs := by
  have hzeros : natOfDigits (zeros n) = 0 := by
    have happend := natOfDigits_append_zeros [] n
    rwa [List.nil_append] at happend
  rw [natOfDigits_append, hzeros]
  rfl

theorem isDigit_of_mem_toDigits {n : ℕ} {c : Char} (h : c ∈ Nat.toDigits 10 n) : c.isDigit :=
  Nat.isDigit_of_mem_toDigits (by decide) (by decide) h

theorem isDigit_of_mem_zeros {n : ℕ} {c : Char} (h : c ∈ zeros n) : c.isDigit := by
  rw [List.eq_of_mem_replicate h]
  rfl

/-- The digits of a decimal around the point spell a number of the same value. -/
theorem exists_spelling_positionally (d : Decimal) :
    ∃ d' : Decimal, d'.value = d.value ∧
      (Lexeme.number d'.toFloat).Spelling (Layout.plain.positionally d) := by
  obtain ⟨ds, hds⟩ : ∃ ds, ds = Nat.toDigits 10 d.digits := ⟨_, rfl⟩
  have hne : ds ≠ [] := hds ▸ Nat.toDigits_ne_nil
  have hdigit : ∀ c ∈ ds, c.isDigit := fun c hc ↦ isDigit_of_mem_toDigits (hds ▸ hc)
  have hnat : natOfDigits ds = d.digits := hds ▸ natOfDigits_toDigits _
  simp only [Layout.positionally, Layout.plain, ← hds, Bool.false_eq_true, if_false,
    List.append_nil]
  split_ifs with hwhole hfront
  · -- no digit stands behind the point
    refine ⟨⟨natOfDigits (ds ++ zeros d.exponent.toNat ++ []), 0⟩, ?_, ?_⟩
    · obtain ⟨n, hn⟩ := Int.eq_ofNat_of_zero_le hwhole
      rw [List.append_nil, natOfDigits_append_zeros, hnat, Decimal.value, Decimal.value, hn,
        Int.toNat_natCast, zpow_natCast, zpow_zero]
      push_cast
      ring
    · refine .whole (List.append_ne_nil_of_left_ne_nil hne _) fun c hc ↦ ?_
      exact (List.mem_append.1 hc).elim (hdigit c) isDigit_of_mem_zeros
  · -- the point stands between two digits
    have hfraction : (ds.drop (ds.length + d.exponent).toNat).length = -d.exponent := by
      rw [List.length_drop]
      omega
    refine ⟨⟨natOfDigits (ds.take (ds.length + d.exponent).toNat ++
      ds.drop (ds.length + d.exponent).toNat), -(ds.drop (ds.length + d.exponent).toNat).length⟩,
      ?_, ?_⟩
    · rw [List.take_append_drop, hnat, hfraction, neg_neg]
    · refine .fraction ?_ (fun c hc ↦ hdigit c (List.mem_of_mem_take hc)) ?_
        fun c hc ↦ hdigit c (List.mem_of_mem_drop hc)
      · rw [Ne, List.take_eq_nil_iff]
        simp only [hne, or_false]
        omega
      · rw [← List.length_pos_iff]
        omega
  · -- all digits stand behind the point
    have hfraction : ((zeros (-(ds.length + d.exponent)).toNat ++ ds).length : ℤ) =
        -d.exponent := by
      rw [List.length_append, zeros, List.length_replicate]
      omega
    refine ⟨⟨natOfDigits (['0'] ++ (zeros (-(ds.length + d.exponent)).toNat ++ ds)),
      -(zeros (-(ds.length + d.exponent)).toNat ++ ds).length⟩, ?_, ?_⟩
    · have hzero : natOfDigits (['0'] ++ (zeros (-(ds.length + d.exponent)).toNat ++ ds)) =
          natOfDigits (zeros (-(ds.length + d.exponent)).toNat ++ ds) :=
        natOfDigits_zeros_append 1 _
      rw [hzero, natOfDigits_zeros_append, hnat, hfraction, neg_neg]
    · refine .fraction (List.cons_ne_nil _ _) (List.forall_mem_singleton.2 rfl)
        (List.append_ne_nil_of_right_ne_nil _ hne) fun c hc ↦ ?_
      exact (List.mem_append.1 hc).elim isDigit_of_mem_zeros (hdigit c)

/-! ### The text of a number -/

/-- What is finite is of neither of the other kinds. -/
theorem isNaN_and_isInf_eq_false {x : Float} (h : x.isFinite = true) :
    x.isNaN = false ∧ x.isInf = false := by
  revert h
  show x.toModel.unpack.isFinite = true →
    x.toModel.unpack.isNaN = false ∧ x.toModel.unpack.isInf = false
  cases x.toModel.unpack with
  | notANumber => exact nofun
  | infinity => exact nofun
  | _ => exact fun _ ↦ ⟨rfl, rfl⟩

/-- A float whose bits do not come behind those of infinity is not negative. -/
theorem isNegative_eq_false {x : Float} (hx : x.toBits.toNat ≤ 2047 * 2 ^ 52) :
    isNegative x = false := by
  refine decide_eq_false fun hle ↦ ?_
  rw [twoTo_eq] at hle
  omega

/-- The whole number that a float is has the value of the float. -/
theorem value_of_whole? {m n : ℕ} {s : ℤ} (hc : IsCanonical m s) (hs : s ≤ 971)
    (h : whole? hc.float = some n) : (n : ℚ) = m * 2 ^ s := by
  simp only [whole?, hc.ofFloat_float hs, binaryOf, twoTo_eq] at h
  split_ifs at h with hfinite hmod
  have hn : 2 ^ (-s).toNat * n = m * 2 ^ s.toNat := by
    rw [← Option.some.inj h]
    exact Nat.mul_div_cancel' (Nat.dvd_of_mod_eq_zero hmod)
  have hn' : (2 : ℚ) ^ (-s).toNat * n = m * 2 ^ s.toNat := by exact_mod_cast hn
  rw [← zpow_mul_pow_toNat two_ne_zero s, ← mul_assoc, mul_comm] at hn'
  exact mul_right_cancel₀ (by positivity) hn'

/-- A number that is spelled is not negative, since a sign is a lexeme of its own. -/
theorem toBits_le_of_spelling {x : Float} {cs : List Char} (h : (Lexeme.number x).Spelling cs) :
    x.toBits.toNat ≤ 2047 * 2 ^ 52 := by
  cases h with
  | whole => exact Decimal.toBits_toFloat_le _
  | fraction => exact Decimal.toBits_toFloat_le _
  | sign h => simp [Lexeme.signs] at h

/-- A number that is spelled in some way is also spelled by its text, unless it is too large. -/
theorem spelling_numberText {x : Float} {cs : List Char} (h : (Lexeme.number x).Spelling cs)
    (hfinite : x.isFinite = true) : (Lexeme.number x).Spelling (Value.numberText x).toList := by
  have hx := toBits_le_of_spelling h
  obtain rfl | ⟨m, s, hc, hs, rfl⟩ := exists_isCanonical hx hfinite
  · have hzero : (Value.numberText 0.0).toList = ['0'] := by decide +kernel
    rw [hzero]
    exact @Lexeme.Spelling.whole ['0'] (List.cons_ne_nil _ _) (List.forall_mem_singleton.2 rfl)
  have hnegative := isNegative_eq_false hx
  rw [Value.numberText]
  cases hwhole : whole? hc.float with
  | some n =>
    have hvalue := value_of_whole? hc hs hwhole
    have hround : RoundsTo m s (⟨n, 0⟩ : Decimal).value := by
      rw [Decimal.value, zpow_zero, mul_one, hvalue]
      exact roundsTo_self
    have hspelling : (Lexeme.number (ofDigits (Nat.toDigits 10 n) [])).Spelling
        (Nat.toDigits 10 n) := .whole Nat.toDigits_ne_nil fun c ↦ isDigit_of_mem_toDigits
    have hread : ofDigits (Nat.toDigits 10 n) [] = hc.float := by
      rw [ofDigits, List.append_nil, natOfDigits_toDigits]
      exact Decimal.toFloat_eq hc hs hround
    rw [hread] at hspelling
    simpa [wholeDigits, hnegative] using hspelling
  | none =>
    obtain ⟨d, hd, hspelling⟩ := exists_spelling_positionally (shortest .up hc.float)
    have hround : RoundsTo m s d.value := hd ▸ roundsTo_shortest .up hc hs
    rw [Decimal.toFloat_eq hc hs hround] at hspelling
    obtain ⟨hnan, hinf⟩ := isNaN_and_isInf_eq_false hfinite
    have hplain : plain hc.float =
        String.ofList (Layout.plain.positionally (shortest .up hc.float)) := by
      simp only [plain, Layout.render, hnan, hinf, hnegative, Bool.false_eq_true, if_false,
        List.nil_append]
      rfl
    simpa [hplain] using hspelling

/-- What is too large is written like a name. -/
theorem numberText_of_not_isFinite {x : Float} {cs : List Char} (h : (Lexeme.number x).Spelling cs)
    (hfinite : x.isFinite = false) : Value.numberText x = "inf" := by
  rw [eq_infinity (toBits_le_of_spelling h) hfinite]
  rfl

end FormWizard.Number
