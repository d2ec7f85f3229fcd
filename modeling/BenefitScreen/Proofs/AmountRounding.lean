import BenefitScreen.Decimal.Arithmetic
import Mathlib.Data.Int.Basic
import Mathlib.Tactic.Common
import Mathlib.Tactic.Ring

/-!
# Rounding to the digits of an amount

An exact result settles on the nearest number that has few enough digits, a half going to the even
neighbour, and so does an exact quotient. Settling keeps the order, keeps zero and so the sign,
changes nothing where the digits fit as they are, and moves what does not fit by less than five of
the last digit that is left.
-/

namespace BenefitScreen

section Rounding

lemma divHalfEven_mono {n n' : Nat} (h : n ≤ n') (d : Nat) :
    divHalfEven n d ≤ divHalfEven n' d := by
  have hn := Nat.div_add_mod n d
  have hn' := Nat.div_add_mod n' d
  have hq : n / d ≤ n' / d := Nat.div_le_div_right h
  by_cases heq : n / d = n' / d
  · rw [heq] at hn
    unfold divHalfEven
    rw [heq]
    split <;> split <;> omega
  · have hupper := divHalfEven_le n d
    have hlower := le_divHalfEven n' d
    omega

lemma divHalfEven_mul_right (n d : Nat) {c : Nat} (hc : 0 < c) :
    divHalfEven (n * c) (d * c) = divHalfEven n d := by
  have hdouble : 2 * (n % d * c) = 2 * (n % d) * c := by rw [Nat.mul_assoc]
  have hup : d * c < 2 * (n % d * c) ↔ d < 2 * (n % d) := by
    rw [hdouble, Nat.mul_lt_mul_right hc]
  have hhalf : 2 * (n % d * c) = d * c ↔ 2 * (n % d) = d := by
    rw [hdouble, Nat.mul_left_inj (Nat.ne_of_gt hc)]
  unfold divHalfEven
  rw [Nat.mul_mod_mul_right, Nat.mul_div_mul_right n d hc]
  simp only [hup, hhalf]

lemma divHalfEven_mul_self (n : Nat) {d : Nat} (hd : 0 < d) : divHalfEven (n * d) d = n := by
  have hcancel := divHalfEven_mul_right n 1 hd
  rwa [Nat.one_mul, divHalfEven_one] at hcancel

lemma divHalfEven_le_self (n : Nat) {d : Nat} (hd : 0 < d) : divHalfEven n d ≤ n := by
  have hmono := divHalfEven_mono (Nat.le_mul_of_pos_right n hd) d
  rwa [divHalfEven_mul_self n hd] at hmono

/-- A half is as far as rounding goes. -/
lemma divHalfEven_near (n : Nat) {d : Nat} (hd : 0 < d) :
    2 * n ≤ 2 * (d * divHalfEven n d) + d ∧ 2 * (d * divHalfEven n d) ≤ 2 * n + d := by
  have hsplit := Nat.div_add_mod n d
  have hrest := Nat.mod_lt n hd
  unfold divHalfEven
  split
  · rw [Nat.mul_add]
    omega
  · omega

end Rounding

namespace Decimal

section Digits

lemma excessDigits_of_lt {n : Nat} (h : n < mantissaBound) : excessDigits n = 0 := by
  rw [excessDigits, if_pos h]

lemma excessDigits_of_le {n : Nat} (h : mantissaBound ≤ n) :
    excessDigits n = excessDigits (n / 10) + 1 := by
  rw [excessDigits, if_neg (Nat.not_lt.mpr h)]

lemma div_tenPow_excessDigits_lt (n : Nat) : n / tenPow (excessDigits n) < mantissaBound := by
  induction n using excessDigits.induct with
  | case1 n h => rwa [excessDigits_of_lt h, tenPow_zero, Nat.div_one]
  | case2 n h ih =>
    rw [excessDigits_of_le (Nat.not_lt.mp h), tenPow_succ, Nat.mul_comm, ← Nat.div_div_eq_div_mul]
    exact ih

/-- No fewer digits would do. -/
lemma le_of_excessDigits {n k : Nat} (h : k < excessDigits n) : mantissaBound * tenPow k ≤ n := by
  induction n using excessDigits.induct generalizing k with
  | case1 n hn =>
    rw [excessDigits_of_lt hn] at h
    omega
  | case2 n hn ih =>
    rw [excessDigits_of_le (Nat.not_lt.mp hn)] at h
    cases k with
    | zero =>
      rw [tenPow_zero]
      omega
    | succ k =>
      have hrest := ih (k := k) (by omega)
      rw [tenPow_succ, ← Nat.mul_assoc]
      omega

lemma excessDigits_le {n k : Nat} (h : n < mantissaBound * tenPow k) : excessDigits n ≤ k := by
  by_contra hlt
  have hlarge : mantissaBound * tenPow k ≤ n := le_of_excessDigits (by omega)
  omega

lemma excessDigits_mono {n n' : Nat} (h : n ≤ n') : excessDigits n ≤ excessDigits n' := by
  apply excessDigits_le
  have hfits := (Nat.div_lt_iff_lt_mul (tenPow_pos _)).mp (div_tenPow_excessDigits_lt n')
  omega

lemma excessDigits_eq {n k : Nat} (hfits : n / tenPow k < mantissaBound)
    (hfull : k = 0 ∨ mantissaBound * tenPow (k - 1) ≤ n) : excessDigits n = k := by
  have hup : excessDigits n ≤ k :=
    excessDigits_le ((Nat.div_lt_iff_lt_mul (tenPow_pos k)).mp hfits)
  rcases hfull with rfl | hfull
  · omega
  · by_contra hne
    have hdigits := div_tenPow_excessDigits_lt n
    rw [Nat.div_lt_iff_lt_mul (tenPow_pos _)] at hdigits
    have hless := Nat.mul_le_mul_left mantissaBound
      (tenPow_le_tenPow (show excessDigits n ≤ k - 1 by omega))
    omega

end Digits

/-- A rounding may end one past the last mantissa. It then drops the last digit too. -/
def carried (m : Nat) : Nat := if m < mantissaBound then m else divHalfEven m 10 * 10

lemma carried_of_lt {m : Nat} (h : m < mantissaBound) : carried m = m := if_pos h

lemma carried_mantissaBound : carried mantissaBound = mantissaBound + 4 := by decide

lemma carried_mono {m m' : Nat} (h : m ≤ m') : carried m ≤ carried m' := by
  by_cases hm' : m' < mantissaBound
  · rwa [carried_of_lt hm', carried_of_lt (by omega)]
  · by_cases hm : m < mantissaBound
    · have hbound := carried_mantissaBound
      have hup : divHalfEven mantissaBound 10 ≤ divHalfEven m' 10 :=
        divHalfEven_mono (Nat.not_lt.mp hm') 10
      rw [carried_of_lt hm]
      rw [carried, if_neg (by omega)] at hbound
      rw [carried, if_neg hm']
      omega
    · rw [carried, if_neg hm, carried, if_neg hm']
      exact Nat.mul_le_mul_right 10 (divHalfEven_mono h 10)

lemma le_carried {m : Nat} (h : m ≤ mantissaBound) : m ≤ carried m ∧ carried m ≤ m + 4 := by
  have hlast := carried_mantissaBound
  rcases Nat.lt_or_eq_of_le h with hlt | rfl
  · rw [carried_of_lt hlt]
    omega
  · omega

/-- The number nearest to `n` of those that have few enough digits. -/
def settle (n : Nat) : Nat :=
  carried (divHalfEven n (tenPow (excessDigits n))) * tenPow (excessDigits n)

lemma settle_of_lt {n : Nat} (h : n < mantissaBound) : settle n = n := by
  rw [settle, excessDigits_of_lt h, tenPow_zero, divHalfEven_one, carried_of_lt h, Nat.mul_one]

lemma settle_mul_ten (n : Nat) : settle (n * 10) = settle n * 10 := by
  by_cases h : n * 10 < mantissaBound
  · rw [settle_of_lt h, settle_of_lt (by omega)]
  · have hdigits : excessDigits (n * 10) = excessDigits n + 1 := by
      rw [excessDigits_of_le (Nat.not_lt.mp h), Nat.mul_div_cancel n (by omega)]
    rw [settle, hdigits, tenPow_succ, divHalfEven_mul_right _ _ (by omega), settle, Nat.mul_assoc]

lemma settle_mul_tenPow (n k : Nat) : settle (n * tenPow k) = settle n * tenPow k := by
  induction k with
  | zero => rw [tenPow_zero, Nat.mul_one, Nat.mul_one]
  | succ k ih => rw [tenPow_succ, ← Nat.mul_assoc, settle_mul_ten, ih, Nat.mul_assoc]

/-- The number nearest to `n / d` of those that have few enough digits. -/
def settleOver (n d : Nat) : Nat :=
  carried (divHalfEven n (d * tenPow (excessDigits (n / d)))) * tenPow (excessDigits (n / d))

lemma settleOver_one (n : Nat) : settleOver n 1 = settle n := by
  rw [settleOver, settle, Nat.div_one, Nat.one_mul]

lemma settleOver_mul_right (n d : Nat) {c : Nat} (hc : 0 < c) :
    settleOver (n * c) (d * c) = settleOver n d := by
  rw [settleOver, settleOver, Nat.mul_div_mul_right n d hc, Nat.mul_right_comm,
    divHalfEven_mul_right _ _ hc]

lemma settleOver_mul (n : Nat) {d : Nat} (hd : 0 < d) : settleOver (n * d) d = settle n := by
  have hcancel := settleOver_mul_right n 1 hd
  rwa [Nat.one_mul, settleOver_one] at hcancel

lemma settleOver_zero {d : Nat} (hd : 0 < d) : settleOver 0 d = 0 := by
  have hcancel := settleOver_mul 0 hd
  rwa [Nat.zero_mul, settle_of_lt zero_lt_mantissaBound] at hcancel

lemma settleOver_of_digits {n d k : Nat} (hfits : n / d / tenPow k < mantissaBound)
    (hfull : k = 0 ∨ mantissaBound * tenPow (k - 1) ≤ n / d) :
    settleOver n d = carried (divHalfEven n (d * tenPow k)) * tenPow k := by
  rw [settleOver, excessDigits_eq hfits hfull]

lemma divHalfEven_digits_le (n d : Nat) :
    divHalfEven n (d * tenPow (excessDigits (n / d))) ≤ mantissaBound := by
  have hfits := div_tenPow_excessDigits_lt (n / d)
  have hround := divHalfEven_le n (d * tenPow (excessDigits (n / d)))
  rw [← Nat.div_div_eq_div_mul] at hround
  omega

/-- However many digits go, what is left is at most the last mantissa and its carry. -/
lemma settleOver_le (n d : Nat) :
    settleOver n d ≤ (mantissaBound + 4) * tenPow (excessDigits (n / d)) := by
  have hcarried := carried_mono (divHalfEven_digits_le n d)
  rw [carried_mantissaBound] at hcarried
  exact Nat.mul_le_mul_right _ hcarried

/-- A quotient that loses a digit is no less than what is left of any that does not. -/
lemma le_settleOver {n d k : Nat} (hd : 0 < d) (h : excessDigits (n / d) = k + 1) :
    (mantissaBound + 4) * tenPow k ≤ settleOver n d := by
  have hlarge : mantissaBound * (tenPow k * d) ≤ n := by
    have hquotient : mantissaBound * tenPow k ≤ n / d := le_of_excessDigits (by omega)
    rw [← Nat.mul_assoc]
    exact (Nat.le_div_iff_mul_le hd).mp hquotient
  have hten : d * tenPow (k + 1) = 10 * (tenPow k * d) := by rw [tenPow_succ]; ring
  have hround : divHalfEven mantissaBound 10 ≤ divHalfEven n (d * tenPow (k + 1)) := by
    rw [hten, ← divHalfEven_mul_right mantissaBound 10 (Nat.mul_pos (tenPow_pos k) hd)]
    exact divHalfEven_mono hlarge _
  have hcarried := carried_mono hround
  have htenth : carried (divHalfEven mantissaBound 10) * 10 = mantissaBound + 4 := by decide
  rw [settleOver, h]
  calc (mantissaBound + 4) * tenPow k
      ≤ carried (divHalfEven n (d * tenPow (k + 1))) * 10 * tenPow k := by
        apply Nat.mul_le_mul_right
        omega
    _ = carried (divHalfEven n (d * tenPow (k + 1))) * tenPow (k + 1) := by
        rw [tenPow_succ]
        ring

lemma settleOver_mono {n n' d : Nat} (hd : 0 < d) (h : n ≤ n') :
    settleOver n d ≤ settleOver n' d := by
  have hdigits := excessDigits_mono (Nat.div_le_div_right (c := d) h)
  -- Where as many digits go, both are rounded alike. Else the carry of `n` stays below `n'`.
  by_cases heq : excessDigits (n / d) = excessDigits (n' / d)
  · rw [settleOver, settleOver, heq]
    exact Nat.mul_le_mul_right _ (carried_mono (divHalfEven_mono h _))
  · obtain ⟨k, hk⟩ : ∃ k, excessDigits (n' / d) = k + 1 := ⟨excessDigits (n' / d) - 1, by omega⟩
    calc settleOver n d ≤ (mantissaBound + 4) * tenPow (excessDigits (n / d)) := settleOver_le n d
      _ ≤ (mantissaBound + 4) * tenPow k :=
        Nat.mul_le_mul_left _ (tenPow_le_tenPow (by omega))
      _ ≤ settleOver n' d := le_settleOver hd hk

/-- Settling moves a quotient by no more than five of the last digit that is left. -/
lemma settleOver_near {n d k : Nat} (hd : 0 < d) (hk : excessDigits (n / d) ≤ k) :
    d * settleOver n d ≤ n + 5 * d * tenPow k ∧ n ≤ d * settleOver n d + 5 * d * tenPow k := by
  have hdigit : d * tenPow (excessDigits (n / d)) ≤ d * tenPow k :=
    Nat.mul_le_mul_left d (tenPow_le_tenPow hk)
  have hround := divHalfEven_digits_le n d
  have hsettled : d * settleOver n d = d * tenPow (excessDigits (n / d)) *
      carried (divHalfEven n (d * tenPow (excessDigits (n / d)))) := by
    rw [settleOver]
    ring
  have hlast : 5 * d * tenPow k = 5 * (d * tenPow k) := Nat.mul_assoc _ _ _
  have hpos : 0 < d * tenPow (excessDigits (n / d)) := Nat.mul_pos hd (tenPow_pos _)
  rw [hsettled, hlast]
  generalize d * tenPow (excessDigits (n / d)) = unit at *
  obtain ⟨hlower, hupper⟩ := divHalfEven_near n hpos
  obtain ⟨hcarry, hcarry'⟩ := le_carried hround
  have hless := Nat.mul_le_mul_left unit hcarry
  have hmore := Nat.mul_le_mul_left unit hcarry'
  rw [Nat.mul_add] at hmore
  omega

/-- The settled quotient of a number of units, with the sign kept. -/
def shareUnits (z : Int) (d : Nat) : Int :=
  if z < 0 then -settleOver z.natAbs d else settleOver z.natAbs d

/-- The settled number of units, with the sign kept. -/
def settleUnits (z : Int) : Int := if z < 0 then -settle z.natAbs else settle z.natAbs

lemma shareUnits_one (z : Int) : shareUnits z 1 = settleUnits z := by
  rw [shareUnits, settleUnits, settleOver_one]

lemma shareUnits_mul (z : Int) {d : Nat} (hd : 0 < d) : shareUnits (z * d) d = settleUnits z := by
  have hpos : (0 : Int) < d := by omega
  have hsign : z * d < 0 ↔ z < 0 :=
    ⟨fun h => Int.neg_of_mul_neg_left h hpos, fun h => Int.mul_neg_of_neg_of_pos h hpos⟩
  rw [shareUnits, settleUnits, Int.natAbs_mul, Int.natAbs_natCast, settleOver_mul _ hd]
  simp only [hsign]

lemma shareUnits_mono {y z : Int} {d : Nat} (hd : 0 < d) (h : y ≤ z) :
    shareUnits y d ≤ shareUnits z d := by
  unfold shareUnits
  by_cases hy : y < 0
  · by_cases hz : z < 0
    · have hsize : settleOver z.natAbs d ≤ settleOver y.natAbs d := settleOver_mono hd (by omega)
      rw [if_pos hy, if_pos hz]
      omega
    · rw [if_pos hy, if_neg hz]
      omega
  · have hsize : settleOver y.natAbs d ≤ settleOver z.natAbs d := settleOver_mono hd (by omega)
    rw [if_neg hy, if_neg (by omega)]
    omega

lemma settleUnits_mono {y z : Int} (h : y ≤ z) : settleUnits y ≤ settleUnits z := by
  rw [← shareUnits_one, ← shareUnits_one]
  exact shareUnits_mono Nat.one_pos h

lemma shareUnits_near {z : Int} {d k : Nat} (hd : 0 < d) (hk : excessDigits (z.natAbs / d) ≤ k) :
    (d * shareUnits z d - z).natAbs ≤ 5 * d * tenPow k := by
  obtain ⟨hupper, hlower⟩ := settleOver_near hd hk
  unfold shareUnits
  generalize settleOver z.natAbs d = s at *
  generalize 5 * d * tenPow k = slack at *
  have hcast : ((d * s : Nat) : Int) = d * s := by push_cast; rfl
  split
  · rw [Int.mul_neg]
    omega
  · omega

lemma settleUnits_near {z : Int} {k : Nat} (hk : excessDigits z.natAbs ≤ k) :
    (settleUnits z - z).natAbs ≤ 5 * tenPow k := by
  have hnear := shareUnits_near (z := z) (k := k) Nat.one_pos (by rwa [Nat.div_one])
  rwa [shareUnits_one, Int.natCast_one, Int.one_mul, Nat.mul_one] at hnear

@[simp] lemma settleUnits_zero : settleUnits 0 = 0 := by
  rw [settleUnits, if_neg (by omega), Int.natAbs_zero, settle_of_lt zero_lt_mantissaBound]
  rfl

lemma settleUnits_mul_tenPow (z : Int) (k : Nat) :
    settleUnits (z * tenPow k) = settleUnits z * tenPow k := by
  have hpos : (0 : Int) < tenPow k := by exact_mod_cast tenPow_pos k
  have hsize : settle (z * tenPow k).natAbs = settle z.natAbs * tenPow k := by
    rw [Int.natAbs_mul, Int.natAbs_natCast, settle_mul_tenPow]
  unfold settleUnits
  rw [hsize]
  by_cases hz : z < 0
  · rw [if_pos hz, if_pos (Int.mul_neg_of_neg_of_pos hz hpos), Int.natCast_mul, Int.neg_mul]
  · have hnonneg : 0 ≤ z * tenPow k := Int.mul_nonneg (by omega) (by omega)
    rw [if_neg hz, if_neg (by omega), Int.natCast_mul]

lemma settleUnits_of_lt {z : Int} (h : z.natAbs < mantissaBound) : settleUnits z = z := by
  rw [settleUnits, settle_of_lt h]
  split <;> omega

end Decimal

end BenefitScreen
