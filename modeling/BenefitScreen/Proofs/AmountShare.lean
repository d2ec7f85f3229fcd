import BenefitScreen.Proofs.AmountSum

/-!
# Shares of amounts

A share is the exact quotient in units, settled on the nearest number that has few enough digits.
Long division finds it a few digits at a time: what it has so far and the remainder make up the
whole amount, and where no further digit fits, the remainder alone tells which way to round.
-/

namespace BenefitScreen

namespace Decimal

/-- A mantissa and a scale that stand for so many units. -/
structure Represents (x : Nat × Nat) (units : Nat) : Prop where
  mantissa_lt : x.1 < mantissaBound
  scale_le : x.2 ≤ 28
  value : x.1 * tenPow (28 - x.2) = units

section LongDivision

variable {d q r s : Nat}

lemma divHalfEven_of_rest (hr : r < d) :
    divHalfEven (q * d + r) d = if d < 2 * r ∨ (2 * r = d ∧ q % 2 = 1) then q + 1 else q := by
  have hmod : (q * d + r) % d = r := by rw [Nat.mul_add_mod_self_right, Nat.mod_eq_of_lt hr]
  have hdiv : (q * d + r) / d = q := by
    rw [Nat.mul_comm, Nat.mul_add_div (by omega), Nat.div_eq_of_lt hr, Nat.add_zero]
  rw [divHalfEven, hmod, hdiv]

/-- No further digit fits where the digits after the point or those of a mantissa are used up. -/
lemma full_of_room (hs : s ≤ 28) (h : room q s = 0) : s = 28 ∨ mantissaBound ≤ q * 10 := by
  unfold room at h
  cases hfind : [9, 8, 7, 6, 5, 4, 3, 2, 1].find? fun p =>
      s + p ≤ 28 && q * tenPow p < mantissaBound with
  | none =>
    have hone := List.find?_eq_none.mp hfind 1 (by decide)
    have hten : tenPow 1 = 10 := rfl
    rw [Bool.and_eq_true, decide_eq_true_eq, decide_eq_true_eq, hten] at hone
    omega
  | some p =>
    have hpos : ∀ p ∈ [9, 8, 7, 6, 5, 4, 3, 2, 1], p ≠ 0 := by decide
    rw [hfind] at h
    exact absurd h (hpos p (List.mem_of_find?_eq_some hfind))

lemma fits_of_room (h : room q s ≠ 0) :
    s + room q s ≤ 28 ∧ q * tenPow (room q s) < mantissaBound ∧ room q s ≤ 9 := by
  unfold room at h ⊢
  cases hfind : [9, 8, 7, 6, 5, 4, 3, 2, 1].find? fun p =>
      s + p ≤ 28 && q * tenPow p < mantissaBound with
  | none =>
    rw [hfind] at h
    exact absurd rfl h
  | some p =>
    have hnine : ∀ p ∈ [9, 8, 7, 6, 5, 4, 3, 2, 1], p ≤ 9 := by decide
    have hfits := List.find?_some hfind
    rw [Bool.and_eq_true, decide_eq_true_eq, decide_eq_true_eq] at hfits
    exact ⟨hfits.1, hfits.2, hnine p (List.mem_of_find?_eq_some hfind)⟩

/-- Where no further digit fits, the remainder tells which way to round. -/
lemma settleOver_of_full (hr : r < d) (hq : q < mantissaBound)
    (hfull : s = 28 ∨ mantissaBound ≤ q * 10) :
    settleOver ((q * d + r) * tenPow (28 - s)) d =
      carried (divHalfEven (q * d + r) d) * tenPow (28 - s) := by
  have hquotient : (q * d + r) * tenPow (28 - s) / d / tenPow (28 - s) = q := by
    rw [Nat.div_div_eq_div_mul, Nat.mul_div_mul_right _ _ (tenPow_pos _), Nat.mul_comm,
      Nat.mul_add_div (by omega), Nat.div_eq_of_lt hr, Nat.add_zero]
  rw [settleOver_of_digits (k := 28 - s) (by rwa [hquotient]),
    divHalfEven_mul_right _ _ (tenPow_pos _)]
  by_cases hs : 28 - s = 0
  · exact .inl hs
  · refine .inr ((Nat.le_div_iff_mul_le (by omega)).mpr ?_)
    obtain ⟨j, hj⟩ : ∃ j, 28 - s = j + 1 := ⟨28 - s - 1, by omega⟩
    rw [hj, Nat.add_sub_cancel, tenPow_succ]
    calc mantissaBound * tenPow j * d
        ≤ q * 10 * tenPow j * d :=
          Nat.mul_le_mul_right _ (Nat.mul_le_mul_right _ (by omega))
      _ = q * d * (tenPow j * 10) := by ring
      _ ≤ (q * d + r) * (tenPow j * 10) := Nat.mul_le_mul_right _ (Nat.le_add_right _ _)

/-- Dropping a digit rounds on what it and the remainder make up. -/
lemma dropDigit_eq (hr : r < d) :
    dropDigit q s (r != 0) = (divHalfEven (q * d + r) (10 * d), s - 1) := by
  have hsplit : q * d + r = q / 10 * (10 * d) + (q % 10 * d + r) := by
    conv_lhs => rw [← Nat.div_add_mod q 10]
    ring
  have hrest : q % 10 * d + r < 10 * d := by
    have hdigit : q % 10 * d ≤ 9 * d := Nat.mul_le_mul_right d (by omega)
    omega
  -- Above five or below it the last digit decides. At five the remainder does, and then evenness.
  have hup : (5 < q % 10 || (q % 10 == 5 && (r != 0 || q / 10 % 2 == 1))) = true ↔
      10 * d < 2 * (q % 10 * d + r) ∨ (2 * (q % 10 * d + r) = 10 * d ∧ q / 10 % 2 = 1) := by
    simp only [Bool.or_eq_true, Bool.and_eq_true, decide_eq_true_eq, beq_iff_eq, bne_iff_ne]
    rcases Nat.lt_trichotomy (q % 10) 5 with hless | hfive | hmore
    · have hdigit : q % 10 * d ≤ 4 * d := Nat.mul_le_mul_right d (by omega)
      omega
    · rw [hfive]
      omega
    · have hdigit : 6 * d ≤ q % 10 * d := Nat.mul_le_mul_right d hmore
      omega
  rw [hsplit, divHalfEven_of_rest hrest, dropDigit]
  simp only [hup]

/-- A quotient that outgrew the mantissa fits once a digit is dropped. -/
lemma represents_dropDigit (hs : s ≤ 28) (hpos : 0 < s) (hr : r < d)
    (hlarge : mantissaBound ≤ q) (hfits : q < 9 * mantissaBound) :
    Represents (dropDigit q s (r != 0)) (settleOver ((q * d + r) * tenPow (28 - s)) d) := by
  have hd : 0 < d := by omega
  have hscale : 28 - (s - 1) = 28 - s + 1 := by omega
  have hten : d * tenPow (28 - s + 1) = 10 * d * tenPow (28 - s) := by
    rw [tenPow_succ]
    ring
  have hround := divHalfEven_le (q * d + r) (10 * d)
  have htenth : (q * d + r) / (10 * d) = q / 10 := by
    rw [Nat.mul_comm 10, ← Nat.div_div_eq_div_mul, Nat.mul_comm q, Nat.mul_add_div hd,
      Nat.div_eq_of_lt hr, Nat.add_zero]
  have hbound : divHalfEven (q * d + r) (10 * d) < mantissaBound := by
    unfold mantissaBound at *
    omega
  have hquotient : (q * d + r) * tenPow (28 - s) / d / tenPow (28 - s + 1) = q / 10 := by
    rw [Nat.div_div_eq_div_mul, hten, Nat.mul_div_mul_right _ _ (tenPow_pos _), htenth]
  rw [dropDigit_eq hr, settleOver_of_digits (k := 28 - s + 1), hten,
    divHalfEven_mul_right _ _ (tenPow_pos _), carried_of_lt hbound]
  · exact ⟨hbound, by omega, by rw [hscale]⟩
  · rw [hquotient]
    omega
  · refine .inr ((Nat.le_div_iff_mul_le hd).mpr ?_)
    rw [Nat.add_sub_cancel]
    calc mantissaBound * tenPow (28 - s) * d
        = mantissaBound * d * tenPow (28 - s) := Nat.mul_right_comm _ _ _
      _ ≤ (q * d + r) * tenPow (28 - s) := by
        apply Nat.mul_le_mul_right
        exact (Nat.mul_le_mul_right d hlarge).trans (Nat.le_add_right _ _)

/-- Taking the division on keeps what quotient and remainder make up. -/
lemma taken_on {p : Nat} (hs : s + p ≤ 28) :
    ((q * tenPow p + r * tenPow p / d) * d + r * tenPow p % d) * tenPow (28 - (s + p)) =
      (q * d + r) * tenPow (28 - s) := by
  have hscale : 28 - s = p + (28 - (s + p)) := by omega
  have hrest := Nat.div_add_mod (r * tenPow p) d
  have hwhole : (q * tenPow p + r * tenPow p / d) * d + r * tenPow p % d =
      (q * d + r) * tenPow p := by
    calc (q * tenPow p + r * tenPow p / d) * d + r * tenPow p % d
        = q * d * tenPow p + (d * (r * tenPow p / d) + r * tenPow p % d) := by ring
      _ = (q * d + r) * tenPow p := by rw [hrest]; ring
  rw [hwhole, hscale, tenPow_add, Nat.mul_assoc]

/-- One past the last mantissa drops its last digit. -/
lemma represents_carry (hs : s ≤ 28) (hpos : 0 < s) :
    Represents (dropDigit mantissaBound s true) (carried mantissaBound * tenPow (28 - s)) := by
  have hdrop : dropDigit mantissaBound s true = (mantissaBound / 10 + 1, s - 1) := by
    rw [dropDigit, if_pos (by decide)]
  have htenth : carried mantissaBound = (mantissaBound / 10 + 1) * 10 := by decide
  have hscale : 28 - (s - 1) = 28 - s + 1 := by omega
  rw [hdrop, htenth]
  refine ⟨show mantissaBound / 10 + 1 < mantissaBound by decide, by omega, ?_⟩
  rw [hscale, tenPow_succ]
  ring

lemma taken_on_lt {p : Nat} (hr : r < d) (hfits : q * tenPow p < mantissaBound) (hp : p ≤ 9) :
    q * tenPow p + r * tenPow p / d < 9 * mantissaBound := by
  have hdigits : r * tenPow p / d < tenPow p :=
    Nat.div_lt_of_lt_mul ((Nat.mul_lt_mul_right (tenPow_pos p)).mpr hr)
  have hnine : tenPow p ≤ tenPow 9 := tenPow_le_tenPow hp
  have hsmall : tenPow 9 < mantissaBound := by decide
  omega

/-- Long division settles on the nearest number that has few enough digits. -/
theorem represents_longDivide (hs : s ≤ 28) (hr : r < d) (hq : q < mantissaBound)
    (hcarry : 0 < s ∨ q + 1 < mantissaBound) :
    Represents (longDivide d q r s) (settleOver ((q * d + r) * tenPow (28 - s)) d) := by
  have hroom : ∀ q s, (room q s = 0 ∨ 28 < s + room q s) → room q s = 0 := by
    intro q s hp
    by_contra hne
    have hfits := fits_of_room hne
    omega
  induction q, r, s using longDivide.induct (n := d) with
  | case1 q s =>
    rw [longDivide, if_pos rfl, Nat.add_zero, Nat.mul_right_comm, settleOver_mul _ hr,
      settle_mul_tenPow, settle_of_lt hq]
    exact ⟨hq, hs, rfl⟩
  | case2 q r s hr0 p hp hup hlt =>
    rw [longDivide, if_neg hr0, dif_pos hp, if_pos hup, if_pos hlt,
      settleOver_of_full hr hq (full_of_room hs (hroom q s hp)), divHalfEven_of_rest hr,
      if_pos hup, carried_of_lt hlt]
    exact ⟨hlt, hs, rfl⟩
  | case3 q r s hr0 p hp hup hlt =>
    have hlast : q + 1 = mantissaBound := by omega
    rw [longDivide, if_neg hr0, dif_pos hp, if_pos hup, if_neg hlt,
      settleOver_of_full hr hq (full_of_room hs (hroom q s hp)), divHalfEven_of_rest hr,
      if_pos hup, hlast]
    exact represents_carry hs (by omega)
  | case4 q r s hr0 p hp hup =>
    rw [longDivide, if_neg hr0, dif_pos hp, if_neg hup,
      settleOver_of_full hr hq (full_of_room hs (hroom q s hp)), divHalfEven_of_rest hr,
      if_neg hup, carried_of_lt hq]
    exact ⟨hq, hs, rfl⟩
  | case5 q r s hr0 p hp t q' hlt ih =>
    have hfits := fits_of_room (q := q) (s := s) fun h => hp (.inl h)
    have hrest := ih hfits.1 (Nat.mod_lt _ (by omega)) hlt (.inl (by omega))
    rw [taken_on hfits.1] at hrest
    rwa [longDivide, if_neg hr0, dif_neg hp, if_pos hlt]
  | case6 q r s hr0 p hp t q' hlt =>
    have hfits := fits_of_room (q := q) (s := s) fun h => hp (.inl h)
    have hrest : t % d < d := Nat.mod_lt _ (by omega)
    have hdropped := represents_dropDigit hfits.1 (by omega) hrest (Nat.not_lt.mp hlt)
      (taken_on_lt hr hfits.2.1 hfits.2.2)
    rw [taken_on hfits.1] at hdropped
    rwa [longDivide, if_neg hr0, dif_neg hp, if_neg hlt]

end LongDivision

section Stripping

variable {q s n : Nat}

lemma Represents.drop_zeros (h : Represents (q, s) n) {k : Nat} (hk : k ≤ s)
    (hzeros : q % tenPow k = 0) : Represents (q / tenPow k, s - k) n := by
  have hless : q / tenPow k ≤ q := Nat.div_le_self _ _
  have hscale : 28 - (s - k) = k + (28 - s) := by
    have hs : s ≤ 28 := h.scale_le
    omega
  refine ⟨Nat.lt_of_le_of_lt hless h.mantissa_lt, (Nat.sub_le s k).trans h.scale_le, ?_⟩
  rw [← h.value, hscale, tenPow_add, ← Nat.mul_assoc,
    Nat.div_mul_cancel (Nat.dvd_of_mod_eq_zero hzeros)]

lemma represents_stripOnce {x : Nat × Nat} (k : Nat) (h : Represents x n) :
    Represents (stripOnce k x) n := by
  unfold stripOnce
  split
  · rename_i hzeros
    exact h.drop_zeros hzeros.1 hzeros.2.2
  · exact h

lemma represents_stripEights (h : Represents (q, s) n) : Represents (stripEights q s) n := by
  induction q, s using stripEights.induct with
  | case1 q s hzeros ih =>
    rw [stripEights, if_pos hzeros]
    exact ih (h.drop_zeros hzeros.1 hzeros.2.2)
  | case2 q s hzeros =>
    rwa [stripEights, if_neg hzeros]

/-- Taking zeros off a quotient leaves what it stands for. -/
lemma represents_stripQuotient {x : Nat × Nat} (r : Nat) (h : Represents x n) :
    Represents (if r = 0 then x else stripQuotient x.1 x.2) n := by
  split
  · exact h
  · have heights := represents_stripEights h
    exact represents_stripOnce 1 (represents_stripOnce 2 (represents_stripOnce 4 heights))

end Stripping

lemma units_ofSign {x : Nat × Nat} {n : Nat} (h : Represents x n) (negative : Bool) :
    (ofSign negative x.1 x.2 h.mantissa_lt h.scale_le).units =
      if negative then -(n : Int) else n := by
  have hvalue : (x.1 : Int) * tenPow (28 - x.2) = n := by exact_mod_cast h.value
  unfold units signed ofSign
  cases negative with
  | false => simpa using hvalue
  | true =>
    by_cases hzero : x.1 = 0
    · rw [hzero, Int.natCast_zero, Int.zero_mul] at hvalue
      simp [hzero, ← hvalue]
    · simp [hzero, ← hvalue]

lemma units_of_sign (a : Decimal) :
    a.units = if a.negative then -((a.mantissa * tenPow (28 - a.scale) : Nat) : Int)
      else (a.mantissa * tenPow (28 - a.scale) : Nat) := by
  unfold units signed
  split <;> push_cast <;> ring

/-- A quotient by two or more is at most half of a mantissa, so that it never outgrows one. -/
lemma represents_quotient (a : Decimal) {n : Nat} (hn : 2 ≤ n) :
    Represents (longDivide n (a.mantissa / n) (a.mantissa % n) a.scale)
      (settleOver (a.mantissa * tenPow (28 - a.scale)) n) := by
  have hhalf : a.mantissa / n + 1 < mantissaBound := by
    have hdiv : a.mantissa / n ≤ a.mantissa / 2 := Nat.div_le_div_left hn (by omega)
    have hlt := a.mantissa_lt
    unfold mantissaBound at *
    omega
  have hdivided := represents_longDivide (d := n) a.scale_le (Nat.mod_lt a.mantissa (by omega))
    (Nat.lt_of_succ_lt hhalf) (.inr hhalf)
  rwa [Nat.div_add_mod'] at hdivided

lemma shareUnits_of_sign (m : Nat) {n : Nat} (hn : 0 < n) (negative : Bool) :
    shareUnits (if negative then -(m : Int) else m) n =
      if negative then -(settleOver m n : Int) else settleOver m n := by
  unfold shareUnits
  cases negative with
  | false => simp
  | true =>
    rw [if_pos rfl, if_pos rfl, Int.natAbs_neg, Int.natAbs_natCast]
    rcases Nat.eq_zero_or_pos m with rfl | hm
    · rw [settleOver_zero hn]
      rfl
    · rw [if_pos (by omega)]

/-- A share is the exact quotient, settled. -/
theorem units_divNat (a : Decimal) {n : Nat} (hn : 2 ≤ n) :
    (a.divNat n).units = shareUnits a.units n := by
  have hpos : 0 < n := by omega
  unfold divNat
  by_cases hzero : a.isZero = true
  · have hshare : shareUnits (0 * (n : Int)) n = settleUnits 0 := shareUnits_mul 0 hpos
    rw [Int.zero_mul, settleUnits_zero] at hshare
    rw [if_pos hzero, units_of_isZero hzero, units_zero, hshare]
  · have hshare := represents_stripQuotient (a.mantissa % n) (represents_quotient a hn)
    rw [if_neg hzero, units_of_sign a, shareUnits_of_sign _ hpos, ← units_ofSign hshare]
    rw [dif_pos ⟨hshare.mantissa_lt, hshare.scale_le⟩]

variable {a b : Decimal} {n : Nat}

theorem divNat_le_divNat (hn : 2 ≤ n) (h : a ≤ b) : a.divNat n ≤ b.divNat n := by
  rw [le_iff_units] at h ⊢
  rw [units_divNat a hn, units_divNat b hn]
  exact shareUnits_mono (by omega) h

/-- An amount that is exactly no more than the share is no more than the settled share either. -/
theorem le_divNat (hn : 2 ≤ n) (h : a.units * n ≤ b.units) : a ≤ b.divNat n := by
  have hpos : 0 < n := by omega
  rw [le_iff_units, units_divNat b hn, ← settleUnits_units a, ← shareUnits_mul a.units hpos]
  exact shareUnits_mono hpos h

/-- How far a share is from the exact one, with all parts taken together again. -/
theorem divNat_near (hn : 2 ≤ n) {k : Nat} (hk : excessDigits (a.units.natAbs / n) ≤ k) :
    (n * (a.divNat n).units - a.units).natAbs ≤ 5 * n * tenPow k := by
  rw [units_divNat a hn]
  exact shareUnits_near (by omega) hk

variable {xs : List Decimal} {k : Nat}

lemma natAbs_units_divNat_le (hn : 2 ≤ n) :
    (a.divNat n).units.natAbs ≤ a.units.natAbs := by
  have hsize : ∀ z d, (shareUnits z d).natAbs = settleOver z.natAbs d := by
    intro z d
    unfold shareUnits
    split <;> omega
  have hself : settleOver a.units.natAbs 1 = a.units.natAbs := by
    rw [← hsize, shareUnits_one, settleUnits_units]
  rw [units_divNat a hn, hsize]
  calc settleOver a.units.natAbs n
      ≤ settleOver (a.units.natAbs * n) n :=
        settleOver_mono (by omega) (Nat.le_mul_of_pos_right _ (by omega))
    _ = a.units.natAbs := by rw [settleOver_mul _ (by omega), ← settleOver_one, hself]

/-- The shares of some amounts are together not far from the share of all. -/
lemma sum_divNat_near (hn : 2 ≤ n)
    (hk : (xs.map (·.units.natAbs)).sum < mantissaBound * tenPow k) :
    (n * ((xs.map (·.divNat n)).map units).sum - (xs.map units).sum).natAbs ≤
      5 * n * xs.length * tenPow k := by
  induction xs with
  | nil => simp
  | cons x xs ih =>
    have hlength : 5 * n * (x :: xs).length * tenPow k =
        5 * n * xs.length * tenPow k + 5 * n * tenPow k := by
      rw [List.length_cons]
      ring
    rw [List.map_cons, List.sum_cons] at hk
    have hshare : x.units.natAbs / n ≤ x.units.natAbs := Nat.div_le_self _ _
    have hnear : (n * (x.divNat n).units - x.units).natAbs ≤ 5 * n * tenPow k :=
      divNat_near hn (excessDigits_le (by omega))
    have hrest := ih (by omega)
    rw [hlength, List.map_cons, List.map_cons, List.map_cons, List.sum_cons, List.sum_cons,
      Int.mul_add]
    omega

lemma sum_natAbs_divNat_le (hn : 2 ≤ n) :
    ((xs.map (·.divNat n)).map (·.units.natAbs)).sum ≤ (xs.map (·.units.natAbs)).sum := by
  induction xs with
  | nil => simp
  | cons x xs ih =>
    have hx := natAbs_units_divNat_le (a := x) hn
    rw [List.map_cons, List.map_cons, List.map_cons, List.sum_cons, List.sum_cons]
    omega

/-- A sum of shares next to the share of a sum. -/
lemma sum_shares_near {total t : Decimal} (hn : 2 ≤ n)
    (hk : (xs.map (·.units.natAbs)).sum + 5 * xs.length * tenPow k < mantissaBound * tenPow k)
    (hsum : sum xs = .ok total) (hshares : sum (xs.map (·.divNat n)) = .ok t) :
    (n * t.units - total.units).natAbs ≤ (10 * n + 5) * xs.length * tenPow k := by
  have hless : ((xs.map (·.divNat n)).map (·.units.natAbs)).sum ≤ (xs.map (·.units.natAbs)).sum :=
    sum_natAbs_divNat_le hn
  have hlength : (xs.map (·.divNat n)).length = xs.length := List.length_map _
  have htotal := foldlM_add_near hsum (k := k) (by rw [units_zero]; omega)
  have hparts := foldlM_add_near hshares (k := k) (by rw [units_zero, hlength]; omega)
  have htogether : (n * ((xs.map (·.divNat n)).map units).sum - (xs.map units).sum).natAbs ≤
      5 * n * xs.length * tenPow k :=
    sum_divNat_near hn (by omega)
  rw [units_zero, Int.zero_add] at htotal hparts
  rw [hlength] at hparts
  have hscaled : (n * t.units - n * ((xs.map (·.divNat n)).map units).sum).natAbs ≤
      n * (5 * xs.length * tenPow k) := by
    rw [← Int.mul_sub, Int.natAbs_mul, Int.natAbs_natCast]
    exact Nat.mul_le_mul_left n hparts
  have hbound : (10 * n + 5) * xs.length * tenPow k =
      n * (5 * xs.length * tenPow k) + 5 * n * xs.length * tenPow k +
        5 * xs.length * tenPow k := by
    ring
  rw [hbound]
  omega

end Decimal

end BenefitScreen
