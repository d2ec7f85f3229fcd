import BenefitScreen.Outcome
import BenefitScreen.Proofs.AmountRounding
import BenefitScreen.Proofs.Fallible
import Mathlib.Algebra.Order.BigOperators.Group.List

/-!
# Sums of amounts

An amount counts in units of its twenty-eighth digit after the point, so that amounts of all scales
are whole numbers of units and compare as such. A sum is the exact sum in units, settled on the
nearest number that has few enough digits, and so sums keep the order and the sign.
-/

namespace BenefitScreen

namespace Decimal

/-- What fits an exact result is the result settled, on the scale that is left. Digits beyond the
twenty-eighth after the point only count for the rounding. -/
lemma fit?_eq_some {negative : Bool} {n s : Nat} {c : Decimal} (h : fit? negative n s = some c) :
    c.mantissa * tenPow (28 - c.scale) = settleOver n (tenPow (s - 28)) * tenPow (28 - s) ∧
      c.negative = (negative && c.mantissa != 0) := by
  have hdivisor : tenPow (s - 28 + excessDigits (n / tenPow (s - 28))) =
      tenPow (s - 28) * tenPow (excessDigits (n / tenPow (s - 28))) := tenPow_add _ _
  have hscale : ∀ k, s - 28 + k ≤ s → 28 - (s - (s - 28 + k)) = k + (28 - s) := by omega
  have hscale' : ∀ k, s - 28 + k < s → 28 - (s - (s - 28 + k) - 1) = k + 1 + (28 - s) := by omega
  simp only [fit?, hdivisor] at h
  split at h
  · rename_i hk
    split at h
    · rename_i hm
      obtain rfl := Option.some.inj h
      dsimp only [ofSign]
      rw [settleOver, carried_of_lt hm, hscale _ hk.1, tenPow_add, Nat.mul_assoc]
      exact ⟨rfl, rfl⟩
    · rename_i hm
      split at h
      · rename_i hks
        split at h
        · obtain rfl := Option.some.inj h
          dsimp only [ofSign]
          rw [settleOver, carried, if_neg hm, hscale' _ hks, tenPow_add, tenPow_succ]
          refine ⟨by ring, rfl⟩
        · cases h
      · cases h
  · cases h

/-- The amount in units of the twenty-eighth digit after the point. -/
def units (a : Decimal) : Int := a.signed * tenPow (28 - a.scale)

/-- Two amounts brought to a common scale, in units of the fifty-sixth digit. -/
lemma signed_mul_scales (a b : Decimal) :
    a.signed * tenPow b.scale * (tenPow (28 - a.scale) * tenPow (28 - b.scale) : Nat) =
      a.units * tenPow 28 := by
  have hsplit : tenPow 28 = tenPow b.scale * tenPow (28 - b.scale) := by
    rw [← tenPow_add, Nat.add_sub_cancel' b.scale_le]
  rw [units, hsplit]
  push_cast
  ring

lemma le_iff_units {a b : Decimal} : a ≤ b ↔ a.units ≤ b.units := by
  have hpos : (0 : Int) < (tenPow (28 - a.scale) * tenPow (28 - b.scale) : Nat) := by
    exact_mod_cast Nat.mul_pos (tenPow_pos _) (tenPow_pos _)
  have hpos' : (0 : Int) < tenPow 28 := by exact_mod_cast tenPow_pos 28
  have hb := signed_mul_scales b a
  rw [Nat.mul_comm] at hb
  rw [le_iff, ← Int.mul_le_mul_iff_of_pos_right hpos, signed_mul_scales a b, hb,
    Int.mul_le_mul_iff_of_pos_right hpos']

lemma lt_iff_units {a b : Decimal} : a < b ↔ a.units < b.units := by
  have hle : b ≤ a ↔ b.units ≤ a.units := le_iff_units
  rw [le_iff] at hle
  rw [lt_iff]
  omega

lemma not_le_iff_lt {a b : Decimal} : ¬a ≤ b ↔ b < a := by
  rw [le_iff_units, lt_iff_units, Int.not_le]

lemma le_refl (a : Decimal) : a ≤ a := le_iff_units.mpr (Int.le_refl _)

lemma le_trans {a b c : Decimal} (hab : a ≤ b) (hbc : b ≤ c) : a ≤ c := by
  rw [le_iff_units] at hab hbc ⊢
  exact Int.le_trans hab hbc

lemma le_of_lt {a b : Decimal} (h : a < b) : a ≤ b := by
  rw [lt_iff_units] at h
  exact le_iff_units.mpr (Int.le_of_lt h)

@[simp] lemma units_zero : zero.units = 0 := rfl

@[simp] lemma units_neg (a : Decimal) : (-a).units = -a.units := by
  have hscale : (-a).scale = a.scale := rfl
  rw [units, units, signed_neg, hscale, Int.neg_mul]

lemma zero_le_iff {a : Decimal} : zero ≤ a ↔ 0 ≤ a.units := by rw [le_iff_units, units_zero]

lemma lt_zero_iff {a : Decimal} : a < zero ↔ a.units < 0 := by rw [lt_iff_units, units_zero]

lemma zero_le_iff_not_lt {a : Decimal} : zero ≤ a ↔ ¬a < zero := by
  rw [zero_le_iff, lt_zero_iff, Int.not_lt]

lemma zero_le_whole (n : UInt64) : zero ≤ whole n := by
  rw [zero_le_iff]
  exact Int.mul_nonneg (Int.natCast_nonneg _) (Int.natCast_nonneg _)

lemma whole_le_whole {m n : UInt64} : whole m ≤ whole n ↔ m ≤ n := by
  rw [le_iff, UInt64.le_iff_toNat_le]
  simp [whole, signed]

lemma natAbs_signed (a : Decimal) : a.signed.natAbs = a.mantissa := by
  unfold signed
  cases a.negative <;> simp

@[simp] lemma settleUnits_units (a : Decimal) : settleUnits a.units = a.units := by
  rw [units, settleUnits_mul_tenPow, settleUnits_of_lt (by rw [natAbs_signed]; exact a.mantissa_lt)]

lemma units_of_isZero {a : Decimal} (h : a.isZero = true) : a.units = 0 := by
  have hm : a.mantissa = 0 := by simpa [isZero] using h
  have hsigned : a.signed = 0 := by
    rw [← Int.natAbs_eq_zero, natAbs_signed, hm]
  rw [units, hsigned, Int.zero_mul]

lemma signed_mul_finer (a : Decimal) {s : Nat} (ha : a.scale ≤ s) (hs : s ≤ 28) :
    a.signed * tenPow (s - a.scale) * tenPow (28 - s) = a.units := by
  have hscale : 28 - a.scale = s - a.scale + (28 - s) := by omega
  rw [units, hscale, tenPow_add, Int.natCast_mul, Int.mul_assoc]

lemma signed_of_sign {c : Decimal} {n : Int} (h : c.negative = (n < 0 && c.mantissa != 0)) :
    c.signed = if n < 0 then -(c.mantissa : Int) else c.mantissa := by
  unfold signed
  rw [h]
  by_cases hn : n < 0
  · by_cases hm : c.mantissa = 0
    · simp [hm]
    · simp [hn, hm]
  · simp [hn]

lemma units_of_fit? {n : Int} {s : Nat} (hs : s ≤ 28) {c : Decimal}
    (h : fit? (n < 0) n.natAbs s = some c) : c.units = settleUnits (n * tenPow (28 - s)) := by
  obtain ⟨hsize, hsign⟩ := fit?_eq_some h
  rw [Nat.sub_eq_zero_of_le hs, tenPow_zero, settleOver_one] at hsize
  have hsize' : (c.mantissa : Int) * tenPow (28 - c.scale) =
      settle n.natAbs * tenPow (28 - s) := by exact_mod_cast hsize
  rw [settleUnits_mul_tenPow, units, signed_of_sign hsign, settleUnits]
  by_cases hneg : n < 0
  · rw [if_pos hneg, if_pos hneg, Int.neg_mul, Int.neg_mul, hsize']
  · rw [if_neg hneg, if_neg hneg, hsize']

lemma add_eq_ok {a b c : Decimal} : a.add b = .ok c ↔ a.add? b = some c := by
  unfold add
  cases a.add? b <;> simp

/-- A sum that does not overflow is the exact sum, settled. -/
theorem units_add {a b c : Decimal} (h : a.add b = .ok c) :
    c.units = settleUnits (a.units + b.units) := by
  rw [add_eq_ok] at h
  unfold add? at h
  by_cases ha : a.isZero = true
  · rw [if_pos ha] at h
    obtain rfl := Option.some.inj h
    rw [units_of_isZero ha, Int.zero_add, settleUnits_units]
  · rw [if_neg ha] at h
    by_cases hb : b.isZero = true
    · rw [if_pos hb] at h
      obtain rfl := Option.some.inj h
      rw [units_of_isZero hb, Int.add_zero, settleUnits_units]
    · rw [if_neg hb] at h
      have hscale : max a.scale b.scale ≤ 28 := Nat.max_le.mpr ⟨a.scale_le, b.scale_le⟩
      rw [units_of_fit? hscale h, Int.add_mul, signed_mul_finer a (Nat.le_max_left _ _) hscale,
        signed_mul_finer b (Nat.le_max_right _ _) hscale]

theorem add_le_add {a a' b b' c c' : Decimal} (ha : a ≤ a') (hb : b ≤ b') (h : a.add b = .ok c)
    (h' : a'.add b' = .ok c') : c ≤ c' := by
  rw [le_iff_units] at ha hb ⊢
  rw [units_add h, units_add h']
  exact settleUnits_mono (by omega)

/-- Adding what is not negative never takes anything away. -/
theorem le_add {a b c : Decimal} (hb : zero ≤ b) (h : a.add b = .ok c) : a ≤ c := by
  rw [zero_le_iff] at hb
  have hmono : settleUnits a.units ≤ settleUnits (a.units + b.units) := settleUnits_mono (by omega)
  rw [settleUnits_units] at hmono
  rwa [le_iff_units, units_add h]

/-- So does adding to what is not negative. -/
theorem le_add_left {a b c : Decimal} (ha : zero ≤ a) (h : a.add b = .ok c) : b ≤ c := by
  rw [zero_le_iff] at ha
  have hmono : settleUnits b.units ≤ settleUnits (a.units + b.units) := settleUnits_mono (by omega)
  rw [settleUnits_units] at hmono
  rwa [le_iff_units, units_add h]

theorem zero_le_add {a b c : Decimal} (ha : zero ≤ a) (hb : zero ≤ b) (h : a.add b = .ok c) :
    zero ≤ c := by
  have hle : a ≤ c := le_add hb h
  rw [zero_le_iff] at ha ⊢
  rw [le_iff_units] at hle
  omega

lemma sub_eq_ok {a b c : Decimal} : a.sub b = .ok c ↔
    if b.isZero then c = (if a.isZero then b else a) else a.add (-b) = .ok c := by
  unfold sub
  split
  · rw [Except.ok.injEq, eq_comm]
  · rw [add_eq_ok]
    cases a.add? (-b) <;> simp

/-- A difference that does not overflow is the exact difference, settled. -/
theorem units_sub {a b c : Decimal} (h : a.sub b = .ok c) :
    c.units = settleUnits (a.units - b.units) := by
  rw [sub_eq_ok] at h
  split at h
  · rename_i hb
    rw [units_of_isZero hb, Int.sub_zero, settleUnits_units, h]
    split
    · rename_i ha
      rw [units_of_isZero ha, units_of_isZero hb]
    · rfl
  · rw [units_add h, units_neg, Int.sub_eq_add_neg]

theorem sub_le_sub {a a' b b' c c' : Decimal} (ha : a ≤ a') (hb : b' ≤ b) (h : a.sub b = .ok c)
    (h' : a'.sub b' = .ok c') : c ≤ c' := by
  rw [le_iff_units] at ha hb ⊢
  rw [units_sub h, units_sub h']
  exact settleUnits_mono (by omega)

theorem zero_le_sub {a b c : Decimal} (hb : b ≤ a) (h : a.sub b = .ok c) : zero ≤ c := by
  have hmono : settleUnits 0 ≤ c.units := by
    rw [le_iff_units] at hb
    rw [units_sub h]
    exact settleUnits_mono (by omega)
  rwa [settleUnits_zero, ← zero_le_iff] at hmono

theorem sub_le {a b c : Decimal} (hb : zero ≤ b) (h : a.sub b = .ok c) : c ≤ a := by
  rw [zero_le_iff] at hb
  rw [le_iff_units]
  calc c.units = settleUnits (a.units - b.units) := units_sub h
    _ ≤ settleUnits a.units := settleUnits_mono (by omega)
    _ = a.units := settleUnits_units a

/-- A whole amount added to a negative one leaves all digits as they are, unless the sum is not
negative any more: what is left has fewer digits than there were. -/
theorem units_add_of_neg {a b c : Decimal} (hb : zero ≤ b) (hscale : b.scale = 0)
    (hneg : a.units + b.units < 0) (h : a.add b = .ok c) : c.units = a.units + b.units := by
  rw [zero_le_iff] at hb
  have hpos : (0 : Int) < tenPow (28 - a.scale) := by exact_mod_cast tenPow_pos _
  have halign : b.signed * tenPow a.scale * tenPow (28 - a.scale) = b.units := by
    have hfiner := signed_mul_finer b (s := a.scale) (by omega) a.scale_le
    rwa [hscale, Nat.sub_zero] at hfiner
  have hsum : a.units + b.units =
      (a.signed + b.signed * tenPow a.scale) * tenPow (28 - a.scale) := by
    rw [Int.add_mul, halign, units]
  have hbsigned : 0 ≤ b.signed * tenPow a.scale := by
    rw [← halign] at hb
    exact Int.nonneg_of_mul_nonneg_left hb hpos
  have hsmall : a.signed + b.signed * tenPow a.scale < 0 := by
    by_contra hnonneg
    have hprod := Int.mul_nonneg (Int.not_lt.mp hnonneg) (Int.le_of_lt hpos)
    omega
  have hfits : (a.signed + b.signed * tenPow a.scale).natAbs < mantissaBound := by
    have hmantissa := a.mantissa_lt
    rw [← natAbs_signed] at hmantissa
    omega
  rw [units_add h, hsum, settleUnits_mul_tenPow, settleUnits_of_lt hfits]

section Sums

open Fallible

variable {xs : List Decimal} {a a' t t' : Decimal} {k : Nat}

lemma foldlM_add_mono (ha : a ≤ a') (h : xs.foldlM add a = .ok t) (h' : xs.foldlM add a' = .ok t') :
    t ≤ t' := by
  have hsame : List.Forall₂ Eq xs xs := List.forall₂_same.mpr fun _ _ => rfl
  refine foldlM_related hsame ?_ ha h h'
  rintro x _ b b' c c' rfl hle hc hc'
  exact add_le_add hle (le_refl x) hc hc'

/-- Totals of items of which each counts for no more than the other one. -/
lemma total_le_total {α β : Type} {R : α → β → Prop} {f : α → Except Overflow Decimal}
    {g : β → Except Overflow Decimal} {l : List α} {l' : List β} (hl : List.Forall₂ R l l')
    (hle : ∀ x y b c, R x y → f x = .ok b → g y = .ok c → b ≤ c)
    (h : l.foldlM (fun total x => do total.add (← f x)) zero = .ok t)
    (h' : l'.foldlM (fun total x => do total.add (← g x)) zero = .ok t') : t ≤ t' := by
  refine foldlM_related hl (fun x y b b' c c' hxy hb hc hc' => ?_) (le_refl zero) h h'
  obtain ⟨v, hv, hc⟩ := bind_eq_ok.mp hc
  obtain ⟨v', hv', hc'⟩ := bind_eq_ok.mp hc'
  exact add_le_add hb (hle x y v v' hxy hv hv') hc hc'

/-- A sum of amounts that are not negative is positive if one of them is. -/
lemma zero_lt_foldlM_add (hxs : ∀ x ∈ xs, zero ≤ x) (ha : zero ≤ a)
    (hpos : zero < a ∨ ∃ x ∈ xs, zero < x) (h : xs.foldlM add a = .ok t) : zero < t := by
  induction xs generalizing a with
  | nil =>
    obtain rfl := pure_eq_ok.mp h
    exact hpos.resolve_right fun ⟨_, hx, _⟩ => by cases hx
  | cons x xs ih =>
    obtain ⟨b, hb, h⟩ := foldlM_cons_eq_ok.mp h
    have hx : zero ≤ x := hxs x List.mem_cons_self
    have hless : a ≤ b := le_add hx hb
    have hless' : x ≤ b := le_add_left ha hb
    rw [le_iff_units] at hless hless'
    apply ih (fun y hy => hxs y (List.mem_cons_of_mem _ hy)) (zero_le_add ha hx hb) ?_ h
    rcases hpos with hpos | ⟨y, hy, hpos⟩
    · rw [lt_iff_units] at hpos ⊢
      exact .inl (by omega)
    · rcases List.mem_cons.mp hy with rfl | hy
      · rw [lt_iff_units] at hpos ⊢
        exact .inl (by omega)
      · exact .inr ⟨y, hy, hpos⟩

lemma sum_units_nonneg (hxs : ∀ x ∈ xs, zero ≤ x) : 0 ≤ (xs.map units).sum := by
  apply List.sum_nonneg
  intro z hz
  obtain ⟨x, hx, rfl⟩ := List.mem_map.mp hz
  exact zero_le_iff.mp (hxs x hx)

/-- The sign of a running sum is that of the exact sum when whole amounts that are not negative are
added: while it is negative nothing is rounded, and afterwards it stays as it is. -/
theorem foldlM_add_lt_zero_iff (hxs : ∀ x ∈ xs, zero ≤ x ∧ x.scale = 0)
    (h : xs.foldlM add a = .ok t) : t < zero ↔ a.units + (xs.map units).sum < 0 := by
  induction xs generalizing a with
  | nil =>
    obtain rfl := pure_eq_ok.mp h
    rw [lt_zero_iff, List.map_nil, List.sum_nil, Int.add_zero]
  | cons x xs ih =>
    obtain ⟨b, hb, h⟩ := foldlM_cons_eq_ok.mp h
    have ⟨hx, hscale⟩ := hxs x List.mem_cons_self
    have hrest : ∀ y ∈ xs, zero ≤ y ∧ y.scale = 0 := fun y hy => hxs y (List.mem_cons_of_mem _ hy)
    rw [ih hrest h, List.map_cons, List.sum_cons]
    by_cases hneg : a.units + x.units < 0
    · rw [units_add_of_neg hx hscale hneg hb, Int.add_assoc]
    · have hsettled : 0 ≤ b.units := by
        have hmono := settleUnits_mono (Int.not_lt.mp hneg)
        rwa [settleUnits_zero, ← units_add hb] at hmono
      have hsum := sum_units_nonneg fun y hy => (hrest y hy).1
      omega

/-- A running sum moves away from the exact one by at most five of the last digit a summand. -/
lemma foldlM_add_near (h : xs.foldlM add a = .ok t)
    (hk : a.units.natAbs + (xs.map (·.units.natAbs)).sum + 5 * xs.length * tenPow k <
      mantissaBound * tenPow k) :
    (t.units - (a.units + (xs.map units).sum)).natAbs ≤ 5 * xs.length * tenPow k := by
  induction xs generalizing a with
  | nil =>
    obtain rfl := pure_eq_ok.mp h
    simp
  | cons x xs ih =>
    obtain ⟨b, hb, h⟩ := foldlM_cons_eq_ok.mp h
    have hlength : 5 * (x :: xs).length * tenPow k = 5 * xs.length * tenPow k + 5 * tenPow k := by
      rw [List.length_cons]
      ring
    rw [hlength, List.map_cons, List.sum_cons] at hk
    have hnear : (b.units - (a.units + x.units)).natAbs ≤ 5 * tenPow k := by
      rw [units_add hb]
      exact settleUnits_near (excessDigits_le (by omega))
    have hrest := ih h (by omega)
    rw [hlength, List.map_cons, List.sum_cons]
    omega

/-- Adding nothing, however often, leaves a sum as it is. -/
lemma units_foldlM_add_zeros (hxs : ∀ x ∈ xs, x.units = 0) (h : xs.foldlM add a = .ok t) :
    t.units = a.units := by
  refine foldlM_invariant (fun b : Decimal => b.units = a.units) ?_ h rfl
  intro x hx b c hc hb
  rw [units_add hc, hxs x hx, Int.add_zero, settleUnits_units, hb]

/-- A sum with only one summand that is not zero. -/
lemma units_sum_of_single {before after : List Decimal} {y : Decimal}
    (hothers : ∀ x ∈ before ++ after, x.units = 0) (h : sum (before ++ y :: after) = .ok t) :
    t.units = y.units := by
  obtain ⟨b, hb, h⟩ := foldlM_append_eq_ok.mp h
  obtain ⟨c, hc, h⟩ := foldlM_cons_eq_ok.mp h
  have hbefore := units_foldlM_add_zeros (fun x hx => hothers x (List.mem_append_left _ hx)) hb
  have hafter := units_foldlM_add_zeros (fun x hx => hothers x (List.mem_append_right _ hx)) h
  rw [hafter, units_add hc, hbefore, units_zero, Int.zero_add, settleUnits_units]

end Sums

section Whole

open Fallible

variable {a b : Decimal} {m n : Nat}

/-- A whole amount that is not negative and has no digits after the point. -/
structure IsWhole (a : Decimal) (n : Nat) : Prop where
  negative : a.negative = false
  mantissa : a.mantissa = n
  scale : a.scale = 0

lemma isWhole_whole (n : UInt64) : (whole n).IsWhole n.toNat := ⟨rfl, rfl, rfl⟩

lemma IsWhole.signed (ha : a.IsWhole n) : a.signed = n := by
  simp [Decimal.signed, ha.negative, ha.mantissa]

lemma fit?_of_whole (h : n < mantissaBound) : ∃ c, fit? false n 0 = some c ∧ c.IsWhole n := by
  have hdigits : 0 - 28 + excessDigits (n / tenPow (0 - 28)) = 0 := by
    rw [Nat.zero_sub, tenPow_zero, Nat.div_one, excessDigits_of_lt h]
  refine ⟨ofSign false n 0 h zero_le_scale, ?_, rfl, rfl, rfl⟩
  simp only [fit?, hdigits, tenPow_zero, divHalfEven_one]
  rw [dif_pos ⟨Nat.le_refl 0, zero_le_scale⟩, dif_pos h]

/-- Whole amounts add up exactly as long as the sum fits. -/
lemma exists_add_of_whole (ha : a.IsWhole m) (hb : b.IsWhole n) (h : m + n < mantissaBound) :
    ∃ c, a.add b = .ok c ∧ c.IsWhole (m + n) := by
  simp only [add_eq_ok]
  unfold add?
  by_cases hzero : a.isZero = true
  · have hm : m = 0 := by simpa [isZero, ha.mantissa] using hzero
    exact ⟨b, if_pos hzero, by rwa [hm, Nat.zero_add]⟩
  · rw [if_neg hzero]
    by_cases hzero' : b.isZero = true
    · have hn : n = 0 := by simpa [isZero, hb.mantissa] using hzero'
      exact ⟨a, if_pos hzero', by rwa [hn, Nat.add_zero]⟩
    · rw [if_neg hzero', ha.signed, hb.signed, ha.scale, hb.scale]
      have hsum : (m : Int) * tenPow 0 + n * tenPow 0 = (m + n : Nat) := by simp
      have hsign : decide (((m + n : Nat) : Int) < 0) = false := by
        rw [decide_eq_false_iff_not]
        omega
      simp only [Nat.max_self, Nat.sub_self, hsum, hsign, Int.natAbs_natCast]
      exact fit?_of_whole h

/-- So do many of them, none above a bound. -/
lemma exists_foldlM_add_of_whole {xs : List Decimal} {bound : Nat} (ha : a.IsWhole m)
    (hxs : ∀ x ∈ xs, ∃ n ≤ bound, x.IsWhole n) (h : m + xs.length * bound < mantissaBound) :
    ∃ t, xs.foldlM add a = .ok t := by
  induction xs generalizing a m with
  | nil => exact ⟨a, rfl⟩
  | cons x xs ih =>
    rw [List.length_cons, Nat.add_mul, Nat.one_mul] at h
    obtain ⟨n, hn, hx⟩ := hxs x List.mem_cons_self
    obtain ⟨b, hb, hwhole⟩ := exists_add_of_whole ha hx (by omega)
    obtain ⟨t, ht⟩ := ih hwhole (fun y hy => hxs y (List.mem_cons_of_mem _ hy)) (by omega)
    exact ⟨t, foldlM_cons_eq_ok.mpr ⟨b, hb, ht⟩⟩

end Whole

end Decimal

/-- Another program whose value is not negative never lowers the total. -/
theorem totalValue_le {before after : List ProgramResult} {r : ProgramResult} {t t' : Decimal}
    (hr : Decimal.zero ≤ r.value) (h : totalValue (before ++ after) = .ok t)
    (h' : totalValue (before ++ r :: after) = .ok t') : t ≤ t' := by
  unfold totalValue Decimal.sum at h h'
  rw [List.filter_append, List.map_append, Fallible.foldlM_append_eq_ok] at h h'
  obtain ⟨m, hm, hafter⟩ := h
  obtain ⟨m', hm', hafter'⟩ := h'
  obtain rfl : m = m' := Except.ok.inj (hm.symm.trans hm')
  cases heligible : r.eligible with
  | false =>
    rw [List.filter_cons_of_neg (by simp [heligible]), hafter] at hafter'
    obtain rfl := Except.ok.inj hafter'
    exact Decimal.le_iff_units.mpr (Int.le_refl _)
  | true =>
    rw [List.filter_cons_of_pos (by simp [heligible]), List.map_cons] at hafter'
    obtain ⟨b, hb, hafter'⟩ := Fallible.foldlM_cons_eq_ok.mp hafter'
    exact Decimal.foldlM_add_mono (Decimal.le_add hr hb) hafter hafter'

end BenefitScreen
