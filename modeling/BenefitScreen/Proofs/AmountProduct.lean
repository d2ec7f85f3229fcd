import BenefitScreen.Proofs.AmountShare

/-!
# Products and whole parts of amounts

A product is the exact product, settled, however many digits the factors have after the point. So
products keep the order and the sign of factors that are not negative, and whole parts keep the
order of all amounts.
-/

namespace BenefitScreen

namespace Decimal

variable {a a' b b' c c' : Decimal}

/-- The scale of a product may be twice that of an amount. -/
lemma settleOver_of_scale {s : Nat} (n : Nat) (hs : s ≤ 56) :
    settleOver n (tenPow (s - 28)) * tenPow (28 - s) =
      settleOver (n * tenPow (56 - s)) (tenPow 28) := by
  rcases Nat.le_total s 28 with hshort | hlong
  · have hscale : 56 - s = 28 - s + 28 := by omega
    rw [Nat.sub_eq_zero_of_le hshort, tenPow_zero, settleOver_one, hscale, tenPow_add,
      ← Nat.mul_assoc, settleOver_mul _ (tenPow_pos 28), settle_mul_tenPow]
  · have hscale : 28 = s - 28 + (56 - s) := by omega
    have hsplit : tenPow 28 = tenPow (s - 28) * tenPow (56 - s) := by
      rw [← tenPow_add, ← hscale]
    rw [Nat.sub_eq_zero_of_le hlong, tenPow_zero, Nat.mul_one, hsplit,
      settleOver_mul_right _ _ (tenPow_pos _)]

lemma units_mul_units (a b : Decimal) : a.units * b.units =
    if a.negative != b.negative then
      -((a.mantissa * b.mantissa * tenPow (56 - (a.scale + b.scale)) : Nat) : Int)
    else (a.mantissa * b.mantissa * tenPow (56 - (a.scale + b.scale)) : Nat) := by
  have hscale : 56 - (a.scale + b.scale) = 28 - a.scale + (28 - b.scale) := by
    have ha := a.scale_le
    have hb := b.scale_le
    omega
  rw [units_of_sign a, units_of_sign b, hscale, tenPow_add]
  cases a.negative <;> cases b.negative <;>
    simp only [bne_self_eq_false, Bool.false_eq_true, if_false, if_true, Bool.true_bne,
      Bool.false_bne, Bool.not_false] <;> push_cast <;> ring

lemma units_vanished (a b : Decimal) : (vanished a b).units = 0 := by
  apply units_of_isZero
  unfold vanished
  split
  · split <;> rfl
  · rfl

/-- A product that does not overflow is the exact product, settled. -/
theorem units_mul (h : a.mul b = .ok c) : c.units = shareUnits (a.units * b.units) (tenPow 28) := by
  have hscale : a.scale + b.scale ≤ 56 := by
    have ha := a.scale_le
    have hb := b.scale_le
    omega
  rw [units_mul_units, shareUnits_of_sign _ (tenPow_pos 28), ← settleOver_of_scale _ hscale]
  unfold mul at h
  split at h
  · rename_i hzero
    obtain rfl := Except.ok.inj h
    have hproduct : a.mantissa * b.mantissa = 0 := by simpa [isZero] using hzero
    rw [hproduct, settleOver_zero (tenPow_pos _), Nat.zero_mul, units_zero]
    simp
  · split at h
    · rename_i d hfits
      obtain ⟨hsize, hsign⟩ := fit?_eq_some hfits
      rw [← hsize]
      -- A product of nothing but digits that are lost shows as one of several zeros.
      have hunits : c.units = d.units := by
        obtain rfl := Except.ok.inj h
        split
        · rename_i hlost
          rw [units_vanished, units_of_isZero hlost]
        · rfl
      rw [hunits, units_of_sign d, hsign]
      by_cases hm : d.mantissa = 0
      · simp [hm]
      · simp [hm]
    · cases h

/-- Factors that are not negative keep their order in a product. -/
theorem mul_le_mul (ha : zero ≤ a) (hb : zero ≤ b) (haa : a ≤ a') (hbb : b ≤ b')
    (h : a.mul b = .ok c) (h' : a'.mul b' = .ok c') : c ≤ c' := by
  rw [zero_le_iff] at ha hb
  rw [le_iff_units] at haa hbb
  rw [le_iff_units, units_mul h, units_mul h']
  apply shareUnits_mono (tenPow_pos 28)
  exact Int.mul_le_mul haa hbb hb (Int.le_trans ha haa)

/-- A factor that is not negative keeps any order. -/
theorem mul_le_mul_right (hb : zero ≤ b) (haa : a ≤ a') (h : a.mul b = .ok c)
    (h' : a'.mul b = .ok c') : c ≤ c' := by
  rw [zero_le_iff] at hb
  rw [le_iff_units] at haa
  rw [le_iff_units, units_mul h, units_mul h']
  exact shareUnits_mono (tenPow_pos 28) (Int.mul_le_mul_of_nonneg_right haa hb)

theorem zero_le_mul (ha : zero ≤ a) (hb : zero ≤ b) (h : a.mul b = .ok c) : zero ≤ c := by
  have hnone : zero.mul b = .ok zero := rfl
  exact mul_le_mul (zero_le_whole 0) hb ha (le_refl b) hnone h

section WholePart

/-- The whole part goes towards zero. -/
lemma units_trunc (a : Decimal) : a.trunc.units = a.units.tdiv (tenPow 28) * tenPow 28 := by
  have hsplit : tenPow 28 = tenPow a.scale * tenPow (28 - a.scale) := by
    rw [← tenPow_add, Nat.add_sub_cancel' a.scale_le]
  have hwhole : a.mantissa * tenPow (28 - a.scale) / tenPow 28 = a.mantissa / tenPow a.scale := by
    rw [hsplit, Nat.mul_div_mul_right _ _ (tenPow_pos _)]
  rw [units_of_sign a, units_of_sign a.trunc]
  unfold trunc
  dsimp only
  cases a.negative with
  | false =>
    rw [if_neg (by decide), if_neg (by decide), ← Int.ofNat_tdiv, hwhole]
    push_cast
    rfl
  | true =>
    rw [if_pos rfl, if_pos rfl, Int.neg_tdiv, ← Int.ofNat_tdiv, hwhole]
    push_cast
    ring

theorem trunc_le_trunc (h : a ≤ b) : a.trunc ≤ b.trunc := by
  have hpos : (0 : Int) < tenPow 28 := by exact_mod_cast tenPow_pos 28
  rw [le_iff_units] at h ⊢
  rw [units_trunc, units_trunc]
  exact Int.mul_le_mul_of_nonneg_right (Int.tdiv_le_tdiv hpos h) (Int.le_of_lt hpos)

lemma units_of_scale_zero (h : a.scale = 0) : a.units = a.signed * tenPow 28 := by
  rw [units, h, Nat.sub_zero]

lemma trunc_of_scale_zero (h : a.scale = 0) : a.trunc.units = a.units := by
  have hpos : (tenPow 28 : Int) ≠ 0 := by exact_mod_cast (tenPow_pos 28).ne'
  rw [units_trunc, units_of_scale_zero h, Int.mul_tdiv_cancel _ hpos]

/-- One past the last mantissa settles above itself. -/
lemma le_settleUnits_add_one (a : Decimal) : a.signed + 1 ≤ settleUnits (a.signed + 1) := by
  have hsize : a.signed.natAbs < mantissaBound := by
    rw [natAbs_signed]
    exact a.mantissa_lt
  by_cases hlast : a.signed + 1 = mantissaBound
  · have hdigits : excessDigits mantissaBound = 1 := by
      rw [excessDigits_of_le (Nat.le_refl _), excessDigits_of_lt (by decide)]
    have hsettled : settle mantissaBound = mantissaBound + 4 := by
      rw [settle, hdigits]
      decide
    rw [hlast, settleUnits, if_neg (by omega), Int.natAbs_natCast, hsettled]
    omega
  · rw [settleUnits_of_lt (by omega)]

/-- One more than a whole amount is more also in its whole part. -/
lemma lt_trunc_of_add_one (ha : a.scale = 0) (h : a.add one = .ok b) : a < b.trunc := by
  have hpos : (0 : Int) < tenPow 28 := by exact_mod_cast tenPow_pos 28
  have hone : one.units = 1 * tenPow 28 := rfl
  have hb : b.units = settleUnits (a.signed + 1) * tenPow 28 := by
    rw [units_add h, units_of_scale_zero ha, hone, ← Int.add_mul, settleUnits_mul_tenPow]
  rw [lt_iff_units, units_trunc, hb, units_of_scale_zero ha, Int.mul_tdiv_cancel _ hpos.ne']
  apply Int.mul_lt_mul_of_pos_right ?_ hpos
  have hmore := le_settleUnits_add_one a
  omega

end WholePart

end Decimal

end BenefitScreen
