import BenefitScreen.Proofs.AmountProduct
import Mathlib.Algebra.Order.BigOperators.Group.List
import Mathlib.Algebra.Order.Ring.Rat
import Mathlib.Data.Rat.Cast.Order
import Mathlib.Tactic.FieldSimp
import Mathlib.Tactic.Linarith
import Mathlib.Tactic.NormNum
import Mathlib.Tactic.Positivity

/-!
# Amounts that are computed exactly

The value of an amount is a rational number. A sum, a difference, a product or a share is computed
without overflow and without loss wherever its value on paper is the value of some amount. So a
computation is exact as soon as every value that it meets on paper can be written as an amount.
-/

namespace BenefitScreen

namespace Decimal

open Fallible

variable {a b c : Decimal} {q : ℚ} {n : Nat}

/-- The number that an amount stands for. -/
def value (a : Decimal) : ℚ := a.signed / tenPow a.scale

lemma tenPow_cast_pos (n : Nat) : (0 : ℚ) < tenPow n := by exact_mod_cast tenPow_pos n

lemma units_cast (a : Decimal) : (a.units : ℚ) = a.value * tenPow 28 := by
  have hsplit : tenPow 28 = tenPow a.scale * tenPow (28 - a.scale) := by
    rw [← tenPow_add, Nat.add_sub_cancel' a.scale_le]
  have hpos := tenPow_cast_pos a.scale
  rw [units, value, hsplit]
  push_cast
  field_simp

lemma units_eq_of_value {z : Int} (h : a.value * tenPow 28 = z) : a.units = z := by
  rw [← units_cast] at h
  exact_mod_cast h

lemma value_eq_of_units (h : (a.units : ℚ) = q * tenPow 28) : a.value = q := by
  rw [units_cast] at h
  exact mul_right_cancel₀ (tenPow_cast_pos 28).ne' h

lemma le_iff_value : a ≤ b ↔ a.value ≤ b.value := by
  rw [le_iff_units, ← mul_le_mul_iff_of_pos_right (tenPow_cast_pos 28), ← units_cast, ← units_cast]
  exact Int.cast_le.symm

lemma lt_iff_value : a < b ↔ a.value < b.value := by
  rw [← not_le_iff_lt, le_iff_value, not_le]

@[simp] lemma value_zero : zero.value = 0 := by
  rw [value, signed_zero]
  simp

@[simp] lemma value_neg (a : Decimal) : (-a).value = -a.value := by
  have hscale : (-a).scale = a.scale := rfl
  rw [value, value, signed_neg, hscale]
  push_cast
  ring

lemma value_nonnegative {k : Nat} (hn : n < mantissaBound) (hk : k ≤ 28) :
    (⟨false, n, k, hn, hk⟩ : Decimal).value = n / tenPow k := by
  rw [value, signed, if_neg Bool.false_ne_true, Int.cast_natCast]

lemma value_whole (n : UInt64) : (whole n).value = n.toNat := by
  rw [whole, value_nonnegative, tenPow_zero]
  simp

lemma value_tenths (n : UInt64) : (tenths n).value = n.toNat / 10 := by
  rw [tenths, value_nonnegative]
  norm_num [tenPow]

lemma value_hundredths (n : UInt64) : (hundredths n).value = n.toNat / 100 := by
  rw [hundredths, value_nonnegative]
  norm_num [tenPow]

lemma value_max (a b : Decimal) : (a.max b).value = max a.value b.value := by
  unfold Decimal.max
  split
  · rename_i hlt
    rw [max_eq_right (lt_iff_value.mp hlt).le]
  · rename_i hle
    rw [lt_iff_value, not_lt] at hle
    rw [max_eq_left hle]

lemma max_le_iff : a.max b ≤ c ↔ a ≤ c ∧ b ≤ c := by
  rw [le_iff_value, le_iff_value, le_iff_value, value_max]
  exact sup_le_iff

lemma le_max_left (a b : Decimal) : a ≤ a.max b := (max_le_iff.mp (le_refl _)).1

lemma le_max_right (a b : Decimal) : b ≤ a.max b := (max_le_iff.mp (le_refl _)).2

lemma max_le_max (hab : a ≤ b) (c : Decimal) : a.max c ≤ b.max c :=
  max_le_iff.mpr ⟨le_trans hab (le_max_left b c), le_max_right b c⟩

/-- Some amount has this value. -/
def Representable (q : ℚ) : Prop := ∃ a : Decimal, a.value = q

lemma Representable.neg (h : Representable q) : Representable (-q) := by
  obtain ⟨a, rfl⟩ := h
  exact ⟨-a, value_neg a⟩

lemma representable_of_digits {z : Int} {k : Nat} (hk : k ≤ 28) (hz : z.natAbs < mantissaBound) :
    Representable (z / tenPow k) := by
  refine ⟨⟨z < 0, z.natAbs, k, hz, hk⟩, ?_⟩
  have hsigned : (⟨z < 0, z.natAbs, k, hz, hk⟩ : Decimal).signed = z := by
    unfold signed
    dsimp only
    by_cases hneg : z < 0
    · rw [if_pos (decide_eq_true hneg)]
      omega
    · rw [if_neg (by simpa using hneg)]
      omega
  rw [value, hsigned]

section Fitting

/-- What fits, once digits are lost, is what rounds to a whole number that fits. -/
lemma exists_fit?_iff {negative : Bool} {s : Nat} :
    (∃ c, fit? negative n s = some c) ↔ divHalfEven n (tenPow s) < mantissaBound := by
  have hround := divHalfEven_digits_le n (tenPow (s - 28))
  have hkept := div_tenPow_excessDigits_lt (n / tenPow (s - 28))
  rw [Nat.div_div_eq_div_mul, ← tenPow_add] at hkept
  rw [← tenPow_add] at hround
  have hlower := le_divHalfEven n (tenPow s)
  have hupper := divHalfEven_le n (tenPow s)
  simp only [fit?]
  by_cases hdigits : s - 28 + excessDigits (n / tenPow (s - 28)) ≤ s
  swap
  · -- Even without any digit after the point the whole part is too large.
    have hlarge := le_of_excessDigits (show s - (s - 28) < excessDigits (n / tenPow (s - 28)) by
      omega)
    rw [Nat.le_div_iff_mul_le (tenPow_pos _), Nat.mul_assoc, ← tenPow_add,
      Nat.sub_add_cancel (Nat.sub_le s 28), ← Nat.le_div_iff_mul_le (tenPow_pos _)] at hlarge
    simp only [dif_neg fun h : _ ∧ _ => hdigits h.1, reduceCtorEq, exists_false, false_iff]
    omega
  have hscale : s - (s - 28 + excessDigits (n / tenPow (s - 28))) ≤ 28 := by omega
  rw [dif_pos ⟨hdigits, hscale⟩]
  rcases Nat.lt_or_eq_of_le hdigits with hleft | hall
  · -- A digit after the point is left, so that the whole part is far from the largest one.
    have hwhole : n / tenPow s ≤ n / tenPow (s - 28 + excessDigits (n / tenPow (s - 28))) / 10 := by
      rw [Nat.div_div_eq_div_mul, ← tenPow_succ]
      exact Nat.div_le_div_left (tenPow_le_tenPow hleft) (tenPow_pos _)
    have hfits : divHalfEven n (tenPow s) < mantissaBound := by
      unfold mantissaBound at hkept ⊢
      omega
    refine iff_of_true ?_ hfits
    by_cases hm : divHalfEven n (tenPow (s - 28 + excessDigits (n / tenPow (s - 28)))) <
        mantissaBound
    · exact ⟨_, dif_pos hm⟩
    · have hlast := Nat.le_antisymm hround (Nat.not_lt.mp hm)
      rw [dif_neg hm, if_pos hleft]
      exact ⟨_, dif_pos (by rw [hlast]; decide)⟩
  · have hsame : divHalfEven n (tenPow (s - 28 + excessDigits (n / tenPow (s - 28)))) =
        divHalfEven n (tenPow s) := by rw [hall]
    rw [← hsame]
    by_cases hm : divHalfEven n (tenPow (s - 28 + excessDigits (n / tenPow (s - 28)))) <
        mantissaBound
    · exact iff_of_true ⟨_, dif_pos hm⟩ hm
    · rw [dif_neg hm, if_neg (by omega)]
      simp [hm]

/-- The nearest whole number to `z / d` fits a mantissa. -/
def InRange (z : Int) (d : Nat) : Prop := divHalfEven z.natAbs d < mantissaBound

lemma inRange_mul {z : Int} {d k : Nat} (hk : 0 < k) :
    InRange (z * k) (d * k) ↔ InRange z d := by
  rw [InRange, Int.natAbs_mul, Int.natAbs_natCast, divHalfEven_mul_right _ _ hk, InRange]

lemma inRange_units (a : Decimal) : InRange a.units (tenPow 28) := by
  have hunits : tenPow 28 = tenPow a.scale * tenPow (28 - a.scale) := by
    rw [← tenPow_add, Nat.add_sub_cancel' a.scale_le]
  rw [hunits, units, inRange_mul (tenPow_pos _), InRange, natAbs_signed]
  exact (divHalfEven_le_self _ (tenPow_pos _)).trans_lt a.mantissa_lt

/-- Whether a sum overflows depends on the values alone. -/
lemma exists_add_iff :
    (∃ c, a.add b = .ok c) ↔ InRange (a.units + b.units) (tenPow 28) := by
  simp only [add_eq_ok]
  unfold add?
  split
  · rename_i ha
    rw [units_of_isZero ha, Int.zero_add]
    exact iff_of_true ⟨b, rfl⟩ (inRange_units b)
  split
  · rename_i hb
    rw [units_of_isZero hb, Int.add_zero]
    exact iff_of_true ⟨a, rfl⟩ (inRange_units a)
  have hscale : Nat.max a.scale b.scale ≤ 28 := Nat.max_le.mpr ⟨a.scale_le, b.scale_le⟩
  have hunits : tenPow 28 = tenPow (Nat.max a.scale b.scale) *
      tenPow (28 - Nat.max a.scale b.scale) := by
    rw [← tenPow_add, Nat.add_sub_cancel' hscale]
  rw [← signed_mul_finer a (Nat.le_max_left _ _) hscale,
    ← signed_mul_finer b (Nat.le_max_right _ _) hscale, ← Int.add_mul, hunits,
    inRange_mul (tenPow_pos _)]
  exact exists_fit?_iff

/-- Whether a difference overflows depends on the values alone. -/
lemma exists_sub_iff :
    (∃ c, a.sub b = .ok c) ↔ InRange (a.units - b.units) (tenPow 28) := by
  simp only [sub_eq_ok]
  split
  · rename_i hb
    rw [units_of_isZero hb, Int.sub_zero]
    exact iff_of_true ⟨_, rfl⟩ (inRange_units a)
  · rw [exists_add_iff, units_neg, Int.sub_eq_add_neg]

/-- Whether a product overflows depends on the values alone. -/
lemma exists_mul_iff :
    (∃ c, a.mul b = .ok c) ↔ InRange (a.units * b.units) (tenPow 56) := by
  have hscale : a.scale + b.scale ≤ 56 := by
    have ha := a.scale_le
    have hb := b.scale_le
    omega
  have hunits : tenPow 56 = tenPow (a.scale + b.scale) * tenPow (56 - (a.scale + b.scale)) := by
    rw [← tenPow_add, Nat.add_sub_cancel' hscale]
  have hrange : InRange (a.units * b.units) (tenPow 56) ↔
      divHalfEven (a.mantissa * b.mantissa) (tenPow (a.scale + b.scale)) < mantissaBound := by
    have hsize : (a.units * b.units).natAbs =
        a.mantissa * b.mantissa * tenPow (56 - (a.scale + b.scale)) := by
      rw [units_mul_units]
      split
      · rw [Int.natAbs_neg, Int.natAbs_natCast]
      · rw [Int.natAbs_natCast]
    rw [InRange, hsize, hunits, divHalfEven_mul_right _ _ (tenPow_pos _)]
  rw [hrange]
  unfold mul
  split
  · rename_i hzero
    have hproduct : a.mantissa * b.mantissa = 0 := by
      simpa [isZero] using hzero
    rw [hproduct]
    refine iff_of_true ⟨_, rfl⟩ ?_
    simp [divHalfEven, zero_lt_mantissaBound]
  · rw [← exists_fit?_iff]
    cases fit? (a.negative != b.negative) (a.mantissa * b.mantissa) (a.scale + b.scale) <;> simp

end Fitting

section Exact

/-- The computation gives an amount of exactly this value. -/
def Computes (x : Except Overflow Decimal) (q : ℚ) : Prop := ∃ a, x = .ok a ∧ a.value = q

/-- A sum that can be written as an amount is that amount. -/
theorem computes_add (h : Representable (a.value + b.value)) :
    Computes (a.add b) (a.value + b.value) := by
  obtain ⟨d, hd⟩ := h
  have hunits : d.units = a.units + b.units := by
    apply units_eq_of_value
    push_cast
    rw [hd, add_mul, units_cast, units_cast]
  obtain ⟨c, hc⟩ := exists_add_iff.mpr (hunits ▸ inRange_units d)
  refine ⟨c, hc, value_eq_of_units ?_⟩
  rw [units_add hc, ← hunits, settleUnits_units, units_cast, hd]

/-- A difference that can be written as an amount is that amount. -/
theorem computes_sub (h : Representable (a.value - b.value)) :
    Computes (a.sub b) (a.value - b.value) := by
  obtain ⟨d, hd⟩ := h
  have hunits : d.units = a.units - b.units := by
    apply units_eq_of_value
    push_cast
    rw [hd, sub_mul, units_cast, units_cast]
  obtain ⟨c, hc⟩ := exists_sub_iff.mpr (hunits ▸ inRange_units d)
  refine ⟨c, hc, value_eq_of_units ?_⟩
  rw [units_sub hc, ← hunits, settleUnits_units, units_cast, hd]

/-- A product that can be written as an amount is that amount. -/
theorem computes_mul (h : Representable (a.value * b.value)) :
    Computes (a.mul b) (a.value * b.value) := by
  obtain ⟨d, hd⟩ := h
  have hunits : d.units * tenPow 28 = a.units * b.units := by
    have hcast : ((d.units * tenPow 28 : Int) : ℚ) = (a.units * b.units : Int) := by
      push_cast
      rw [units_cast, units_cast, units_cast, hd]
      ring
    exact_mod_cast hcast
  have hrange : InRange (a.units * b.units) (tenPow 56) := by
    rw [← hunits, tenPow_add 28 28, inRange_mul (tenPow_pos 28)]
    exact inRange_units d
  obtain ⟨c, hc⟩ := exists_mul_iff.mpr hrange
  refine ⟨c, hc, value_eq_of_units ?_⟩
  rw [units_mul hc, ← hunits, shareUnits_mul _ (tenPow_pos 28), settleUnits_units, units_cast, hd]

/-- A share of one is the whole amount. -/
lemma units_divNat_one (a : Decimal) : (a.divNat 1).units = a.units := by
  have hself : Represents (a.mantissa, a.scale) (a.mantissa * tenPow (28 - a.scale)) :=
    ⟨a.mantissa_lt, a.scale_le, rfl⟩
  unfold divNat
  by_cases hzero : a.isZero = true
  · rw [if_pos hzero, units_zero, units_of_isZero hzero]
  · have hdivided : longDivide 1 a.mantissa 0 a.scale = (a.mantissa, a.scale) := by
      rw [longDivide, if_pos rfl]
    rw [if_neg hzero, units_of_sign a, ← units_ofSign hself]
    simp only [Nat.mod_one, Nat.div_one, hdivided, if_true]
    rw [dif_pos ⟨hself.mantissa_lt, hself.scale_le⟩]

/-- A share that can be written as an amount is that amount. -/
theorem value_divNat (hn : 0 < n) (h : Representable (a.value / n)) :
    (a.divNat n).value = a.value / n := by
  obtain ⟨d, hd⟩ := h
  have hpos : (0 : ℚ) < n := by exact_mod_cast hn
  have hunits : a.units = d.units * n := by
    have hcast : ((d.units * n : Int) : ℚ) = (a.units : Int) := by
      push_cast
      rw [units_cast, units_cast, hd]
      field_simp
    exact_mod_cast hcast.symm
  apply value_eq_of_units
  rcases Nat.eq_or_lt_of_le hn with rfl | hn
  · rw [units_divNat_one, units_cast]
    simp
  · rw [units_divNat a hn, hunits, shareUnits_mul _ (by omega), settleUnits_units, units_cast, hd]

end Exact

section Totals

variable {α : Type} {f : α → Except Overflow Decimal} {v : α → ℚ} {xs : List α}

/-- Adding the values up from the first on meets only values of amounts. -/
def AddUp (vs : List ℚ) : Prop := ∀ n, Representable (vs.take n).sum

/-- A running total is computed exactly where all it takes in is, and each sum on the way can be
written as an amount. -/
theorem computes_total (hf : ∀ x ∈ xs, Computes (f x) (v x)) (hsums : AddUp (xs.map v)) :
    Computes (xs.foldlM (fun total x => do total.add (← f x)) zero) (xs.map v).sum := by
  refine exists_foldlM_of_step (fun before (t : Decimal) => t.value = (before.map v).sum) ?_ ?_
  · simp
  · intro before x after hsplit t ht
    obtain ⟨a, ha, hvalue⟩ := hf x (hsplit ▸ List.mem_append_right _ List.mem_cons_self)
    have hsum : t.value + a.value = ((before ++ [x]).map v).sum := by
      rw [ht, hvalue, List.map_append, List.sum_append]
      simp
    have hprefix : ((xs.map v).take (before.length + 1)) = (before ++ [x]).map v := by
      rw [hsplit, ← List.map_take]
      simp [List.take_append]
    obtain ⟨c, hc, hcvalue⟩ := computes_add (hsum ▸ hprefix ▸ hsums (before.length + 1))
    refine ⟨c, ?_, hcvalue.trans hsum⟩
    rw [ha]
    exact hc

/-- A value that some of the items hold. -/
lemma sum_holding (xs : List α) (holds : α → Bool) (q : ℚ) :
    (xs.map fun x => if holds x then q else 0).sum = xs.countP holds * q := by
  induction xs with
  | nil => simp
  | cons x xs ih =>
    rw [List.map_cons, List.sum_cons, ih, List.countP_cons]
    split
    · push_cast
      ring
    · rw [zero_add, Nat.add_zero]

/-- A traversal that computes some amount for each item. -/
lemma exists_mapM_amounts {β : Type} {g : Decimal → β} {f : α → Except Overflow β}
    (hf : ∀ x ∈ xs, ∃ a, f x = .ok (g a) ∧ a.value = v x) :
    ∃ amounts : List Decimal, xs.mapM f = .ok (amounts.map g) ∧ amounts.map value = xs.map v := by
  induction xs with
  | nil => exact ⟨[], rfl, rfl⟩
  | cons x xs ih =>
    obtain ⟨a, ha, hvalue⟩ := hf x List.mem_cons_self
    obtain ⟨amounts, hamounts, hvalues⟩ := ih fun y hy => hf y (List.mem_cons_of_mem _ hy)
    refine ⟨a :: amounts, ?_, ?_⟩
    · rw [List.mapM_cons, ha, ok_bind, hamounts]
      rfl
    · rw [List.map_cons, List.map_cons, hvalue, hvalues]

/-- A number with at most `k` digits after the point. -/
def HasDigits (k : Nat) (q : ℚ) : Prop := ∃ z : Int, q = z / tenPow k

lemma hasDigits_value {k : Nat} (h : a.scale ≤ k) : HasDigits k a.value := by
  refine ⟨a.signed * tenPow (k - a.scale), ?_⟩
  have hsplit : tenPow k = tenPow a.scale * tenPow (k - a.scale) := by
    rw [← tenPow_add, Nat.add_sub_cancel' h]
  have hscale := tenPow_cast_pos a.scale
  have hrest := tenPow_cast_pos (k - a.scale)
  rw [value, hsplit]
  push_cast
  field_simp

lemma HasDigits.mul {j k : Nat} {p : ℚ} (hp : HasDigits j p) (hq : HasDigits k q) :
    HasDigits (j + k) (p * q) := by
  obtain ⟨z, rfl⟩ := hp
  obtain ⟨w, rfl⟩ := hq
  refine ⟨z * w, ?_⟩
  rw [tenPow_add, div_mul_div_comm]
  push_cast
  rfl

lemma HasDigits.mono {j k : Nat} (hjk : j ≤ k) (h : HasDigits j q) : HasDigits k q := by
  obtain ⟨z, rfl⟩ := h
  refine ⟨z * tenPow (k - j), ?_⟩
  have hsplit : tenPow k = tenPow j * tenPow (k - j) := by
    rw [← tenPow_add, Nat.add_sub_cancel' hjk]
  have hrest := tenPow_cast_pos (k - j)
  rw [hsplit]
  push_cast
  rw [mul_div_mul_right _ _ hrest.ne']

lemma HasDigits.add {k : Nat} {p : ℚ} (hp : HasDigits k p) (hq : HasDigits k q) :
    HasDigits k (p + q) := by
  obtain ⟨z, rfl⟩ := hp
  obtain ⟨w, rfl⟩ := hq
  exact ⟨z + w, by push_cast; rw [add_div]⟩

lemma HasDigits.sub {k : Nat} {p : ℚ} (hp : HasDigits k p) (hq : HasDigits k q) :
    HasDigits k (p - q) := by
  obtain ⟨z, rfl⟩ := hp
  obtain ⟨w, rfl⟩ := hq
  exact ⟨z - w, by push_cast; rw [sub_div]⟩

lemma HasDigits.sum {k : Nat} {vs : List ℚ} (h : ∀ v ∈ vs, HasDigits k v) : HasDigits k vs.sum := by
  induction vs with
  | nil => exact ⟨0, by simp⟩
  | cons v vs ih =>
    rw [List.sum_cons]
    exact (h v List.mem_cons_self).add (ih fun x hx => h x (List.mem_cons_of_mem _ hx))

lemma HasDigits.max {k : Nat} {p : ℚ} (hp : HasDigits k p) (hq : HasDigits k q) :
    HasDigits k (Max.max p q) := by
  rcases max_choice p q with h | h <;> rw [h] <;> assumption

/-- Amounts of up to `10 ^ 23` have room for five digits after the point. -/
lemma HasDigits.representable {k : Nat} (hk : k ≤ 5) (h : HasDigits k q) (hsize : |q| ≤ 10 ^ 23) :
    Representable q := by
  obtain ⟨z, rfl⟩ := h.mono hk
  apply representable_of_digits (by decide)
  rw [abs_div, abs_of_pos (tenPow_cast_pos 5), div_le_iff₀ (tenPow_cast_pos 5)] at hsize
  have hunscaled : z.natAbs ≤ 10 ^ 23 * tenPow 5 := by
    rw [← Nat.cast_le (α := ℚ), Nat.cast_natAbs, Int.cast_abs]
    exact_mod_cast hsize
  exact hunscaled.trans_lt (by decide)

lemma abs_sum_le (vs : List ℚ) : |vs.sum| ≤ (vs.map abs).sum := by
  induction vs with
  | nil => simp
  | cons v vs ih =>
    rw [List.map_cons, List.sum_cons, List.sum_cons]
    exact (abs_add_le _ _).trans (add_le_add_right ih _)

lemma sum_abs_le_of_sublist {vs ws : List ℚ} (h : vs.Sublist ws) :
    (vs.map abs).sum ≤ (ws.map abs).sum := by
  apply (h.map _).sum_le_sum
  intro v hv
  obtain ⟨w, _, rfl⟩ := List.mem_map.mp hv
  exact abs_nonneg w

/-- Whichever of some numbers are added up, an amount has the value of the sum. -/
def AddUpFreely (vs : List ℚ) : Prop := ∀ ws : List ℚ, ws.Sublist vs → Representable ws.sum

lemma AddUpFreely.addUp {vs : List ℚ} (h : AddUpFreely vs) : AddUp vs :=
  fun n => h _ (List.take_sublist n vs)

/-- Numbers with few digits after the point add up in any order as long as all of them together are
not too large. -/
theorem addUpFreely_of_digits {k : Nat} {vs : List ℚ} (hk : k ≤ 5)
    (hdigits : ∀ v ∈ vs, HasDigits k v) (hsize : (vs.map abs).sum ≤ 10 ^ 23) : AddUpFreely vs := by
  intro ws hws
  apply (HasDigits.sum fun v hv => hdigits v (hws.subset hv)).representable hk
  exact (abs_sum_le _).trans ((sum_abs_le_of_sublist hws).trans hsize)

end Totals

end Decimal

end BenefitScreen
