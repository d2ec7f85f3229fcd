import BenefitScreen.Proofs.AmountValue
import BenefitScreen.Proofs.Relisted

/-!
# Computations on values alone

Whether an operation on amounts overflows, and the value of its result, depend on the values of the
amounts and not on the digits that they are written with. So computations on amounts of the same
values overflow together or give results of the same values. A sum may also take its items in
another order, as long as no digit is lost on the way.
-/

namespace BenefitScreen

namespace Decimal

open Fallible

variable {a a' b b' c c' : Decimal} {n : Nat}

lemma sameValue_iff : a.SameValue b ↔ a.units = b.units := by
  have hle : a ≤ b ↔ a.units ≤ b.units := le_iff_units
  have hge : b ≤ a ↔ b.units ≤ a.units := le_iff_units
  rw [le_iff] at hle hge
  unfold SameValue
  omega

lemma sameValue_iff_value : a.SameValue b ↔ a.value = b.value := by
  rw [sameValue_iff]
  constructor
  · intro h
    apply value_eq_of_units
    rw [h, units_cast]
  · intro h
    apply units_eq_of_value
    rw [h, units_cast]

namespace SameValue

@[refl] lemma refl (a : Decimal) : a.SameValue a := Eq.refl _

lemma symm (h : a.SameValue b) : b.SameValue a := Eq.symm h

lemma le_iff_le (ha : a.SameValue a') (hb : b.SameValue b') : a ≤ b ↔ a' ≤ b' := by
  rw [sameValue_iff] at ha hb
  rw [le_iff_units, le_iff_units, ha, hb]

lemma lt_iff_lt (ha : a.SameValue a') (hb : b.SameValue b') : a < b ↔ a' < b' := by
  rw [sameValue_iff] at ha hb
  rw [lt_iff_units, lt_iff_units, ha, hb]

lemma neg (ha : a.SameValue a') : (-a).SameValue (-a') := by
  rw [sameValue_iff] at ha ⊢
  rw [units_neg, units_neg, ha]

lemma max (ha : a.SameValue a') (hb : b.SameValue b') : (a.max b).SameValue (a'.max b') := by
  unfold Decimal.max
  simp only [ha.lt_iff_lt hb]
  split
  · exact hb
  · exact ha

lemma trunc (ha : a.SameValue a') : a.trunc.SameValue a'.trunc := by
  rw [sameValue_iff] at ha ⊢
  rw [units_trunc, units_trunc, ha]

lemma divNat (hn : 2 ≤ n) (ha : a.SameValue a') : (a.divNat n).SameValue (a'.divNat n) := by
  rw [sameValue_iff] at ha ⊢
  rw [units_divNat a hn, units_divNat a' hn, ha]

lemma add (ha : a.SameValue a') (hb : b.SameValue b') :
    Alike SameValue (a.add b) (a'.add b') := by
  rw [sameValue_iff] at ha hb
  refine .of_results (by rw [exists_add_iff, exists_add_iff, ha, hb]) fun c c' hc hc' => ?_
  rw [sameValue_iff, units_add hc, units_add hc', ha, hb]

lemma sub (ha : a.SameValue a') (hb : b.SameValue b') :
    Alike SameValue (a.sub b) (a'.sub b') := by
  rw [sameValue_iff] at ha hb
  refine .of_results (by rw [exists_sub_iff, exists_sub_iff, ha, hb]) fun c c' hc hc' => ?_
  rw [sameValue_iff, units_sub hc, units_sub hc', ha, hb]

lemma mul (ha : a.SameValue a') (hb : b.SameValue b') :
    Alike SameValue (a.mul b) (a'.mul b') := by
  rw [sameValue_iff] at ha hb
  refine .of_results (by rw [exists_mul_iff, exists_mul_iff, ha, hb]) fun c c' hc hc' => ?_
  rw [sameValue_iff, units_mul hc, units_mul hc', ha, hb]

end SameValue

/-- The nearest multiple of `d`, with the sign kept. -/
def roundUnits (z : Int) (d : Nat) : Int :=
  if z < 0 then -(divHalfEven z.natAbs d * d : Nat) else (divHalfEven z.natAbs d * d : Nat)

lemma roundUnits_of_sign (m : Nat) {d : Nat} (hd : 0 < d) (negative : Bool) :
    roundUnits (if negative then -(m : Int) else m) d =
      if negative then -((divHalfEven m d * d : Nat) : Int) else (divHalfEven m d * d : Nat) := by
  unfold roundUnits
  cases negative with
  | false => simp
  | true =>
    rw [if_pos rfl, if_pos rfl, Int.natAbs_neg, Int.natAbs_natCast]
    rcases Nat.eq_zero_or_pos m with rfl | hm
    · rw [Nat.le_zero.mp (divHalfEven_le_self 0 hd)]
      simp
    · rw [if_pos (by omega)]

/-- Rounding to some digits takes the nearest multiple of the last one. -/
lemma units_roundTo (a : Decimal) {k : Nat} (hk : k ≤ 28) :
    (a.roundTo k).units = roundUnits a.units (tenPow (28 - k)) := by
  have hunit := tenPow_pos (28 - k)
  rw [units_of_sign a, roundUnits_of_sign _ hunit]
  unfold roundTo
  split
  · rename_i hscale
    have hwhole : a.mantissa * tenPow (28 - a.scale) =
        a.mantissa * tenPow (k - a.scale) * tenPow (28 - k) := by
      rw [Nat.mul_assoc, ← tenPow_add]
      congr 2
      omega
    rw [hwhole, divHalfEven_mul_self _ hunit, ← hwhole, ← units_of_sign]
  rename_i hscale
  have hunits : tenPow (28 - k) = tenPow (a.scale - k) * tenPow (28 - a.scale) := by
    rw [← tenPow_add]
    congr 1
    have := a.scale_le
    omega
  have hround : divHalfEven (a.mantissa * tenPow (28 - a.scale)) (tenPow (28 - k)) =
      divHalfEven a.mantissa (tenPow (a.scale - k)) := by
    rw [hunits, divHalfEven_mul_right _ _ (tenPow_pos _)]
  have hless := divHalfEven_le_self a.mantissa (tenPow_pos (a.scale - k))
  rw [hround]
  split
  · rename_i hzero
    have hmantissa : a.mantissa = 0 := by simpa [isZero] using hzero
    have hnone : divHalfEven a.mantissa (tenPow (a.scale - k)) = 0 := by omega
    rw [hnone, Nat.zero_mul]
    rw [units_of_isZero (a := { a with scale := k, scale_le := hk }) hzero]
    split <;> rfl
  · rw [dif_pos (hless.trans_lt a.mantissa_lt), ← units_ofSign
      (x := (divHalfEven a.mantissa (tenPow (a.scale - k)), k))
      ⟨hless.trans_lt a.mantissa_lt, hk, rfl⟩]

lemma SameValue.roundTo (ha : a.SameValue a') {k : Nat} (hk : k ≤ 28) :
    (a.roundTo k).SameValue (a'.roundTo k) := by
  rw [sameValue_iff] at ha ⊢
  rw [units_roundTo a hk, units_roundTo a' hk, ha]

section Totals

variable {α β : Type} {f : α → Except Overflow Decimal} {g : β → Except Overflow Decimal}
  {xs : List α} {ys : List β} {vs ws : List ℚ}

lemma AddUpFreely.sublist (h : AddUpFreely vs) (hws : ws.Sublist vs) : AddUpFreely ws :=
  fun us hus => h us (hus.trans hws)

lemma AddUpFreely.perm (h : AddUpFreely vs) (hws : vs.Perm ws) : AddUpFreely ws := by
  intro us hus
  obtain ⟨us', hperm, hus'⟩ := List.exists_perm_sublist hus hws.symm
  exact hperm.sum_eq ▸ h us' hus'

lemma AddUpFreely.cons_zero (h : AddUpFreely vs) : AddUpFreely (0 :: vs) := by
  intro ws hws
  rcases List.sublist_cons_iff.mp hws with hws | ⟨us, rfl, hus⟩
  · exact h ws hws
  · rw [List.sum_cons, zero_add]
    exact h us hus

/-- Taking two of the numbers together leaves no sums that there were not before. -/
lemma AddUpFreely.add_head {p q : ℚ} (h : AddUpFreely (p :: q :: vs)) :
    AddUpFreely ((p + q) :: vs) := by
  intro ws hws
  rcases List.sublist_cons_iff.mp hws with hws | ⟨us, rfl, hus⟩
  · exact h ws ((hws.cons q).cons p)
  · rw [List.sum_cons, add_assoc, ← List.sum_cons, ← List.sum_cons]
    exact h _ ((hus.cons_cons q).cons_cons p)

lemma computes_sum {a : Decimal} {as : List Decimal}
    (h : AddUpFreely (a.value :: as.map value)) :
    Computes (as.foldlM add a) (a.value + (as.map value).sum) := by
  induction as generalizing a with
  | nil => exact ⟨a, rfl, by simp⟩
  | cons b as ih =>
    rw [List.map_cons] at h
    have htwo : [a.value, b.value].Sublist (a.value :: b.value :: as.map value) :=
      ((List.nil_sublist _).cons_cons _).cons_cons _
    have hfits := h _ htwo
    rw [List.sum_cons, List.sum_singleton] at hfits
    obtain ⟨c, hc, hvalue⟩ := computes_add hfits
    obtain ⟨t, ht, htotal⟩ := ih (a := c) (hvalue ▸ h.add_head)
    refine ⟨t, foldlM_cons_eq_ok.mpr ⟨c, hc, ht⟩, ?_⟩
    rw [htotal, hvalue, List.map_cons, List.sum_cons, add_assoc]

/-- The values of the results that there are. -/
def resultValues (f : α → Except Overflow Decimal) (xs : List α) : List ℚ :=
  xs.filterMap fun x => (f x).toOption.map value

lemma resultValues_cons {x : α} {a : Decimal} (h : f x = .ok a) :
    resultValues f (x :: xs) = a.value :: resultValues f xs := by
  rw [resultValues, List.filterMap_cons, h]
  rfl

lemma resultValues_of_computes {v : α → ℚ} (h : ∀ x ∈ xs, Computes (f x) (v x)) :
    resultValues f xs = xs.map v := by
  induction xs with
  | nil => rfl
  | cons x xs ih =>
    obtain ⟨a, ha, hvalue⟩ := h x List.mem_cons_self
    rw [resultValues_cons ha, hvalue, ih fun y hy => h y (List.mem_cons_of_mem _ hy), List.map_cons]

lemma resultValues_of_mapM {as : List Decimal} (h : xs.mapM f = .ok as) :
    resultValues f xs = as.map value := by
  have hall := forall₂_of_mapM h
  clear h
  induction hall with
  | nil => rfl
  | cons hx _ ih => rw [resultValues_cons hx, ih, List.map_cons]

lemma resultValues_sublist {xs' : List α} (h : xs.Sublist xs') :
    (resultValues f xs).Sublist (resultValues f xs') :=
  h.filterMap _

/-- The running total of what is computed for each item. -/
def runningTotal (f : α → Except Overflow Decimal) (xs : List α) : Except Overflow Decimal :=
  xs.foldlM (fun total x => do total.add (← f x)) zero

lemma runningTotal_eq_ok {t : Decimal} : runningTotal f xs = .ok t ↔
    ∃ as, xs.mapM f = .ok as ∧ as.foldlM add zero = .ok t :=
  foldlM_through_eq_ok

lemma computes_runningTotal (hsums : AddUpFreely (resultValues f xs))
    (hall : ∀ x ∈ xs, ∃ a, f x = .ok a) :
    Computes (runningTotal f xs) (resultValues f xs).sum := by
  obtain ⟨as, has, _⟩ := exists_mapM_of_forall (R := fun _ _ => True) fun x hx =>
    (hall x hx).imp fun _ ha => ⟨ha, trivial⟩
  have hvalues := resultValues_of_mapM has
  have hzero := hsums.cons_zero
  rw [hvalues, ← value_zero] at hzero
  obtain ⟨t, ht, htotal⟩ := computes_sum hzero
  refine ⟨t, runningTotal_eq_ok.mpr ⟨as, has, ht⟩, ?_⟩
  rw [htotal, value_zero, zero_add, hvalues]

/-- Without loss, there is a running total where each of its items has a result. -/
lemma exists_runningTotal_iff (hsums : AddUpFreely (resultValues f xs)) :
    (∃ t, runningTotal f xs = .ok t) ↔ ∀ x ∈ xs, ∃ a, f x = .ok a := by
  constructor
  · rintro ⟨t, ht⟩ x hx
    obtain ⟨as, has, _⟩ := runningTotal_eq_ok.mp ht
    have hlisted : Relisted (fun x a => f x = .ok a) xs as := ⟨xs, .refl xs, forall₂_of_mapM has⟩
    exact (hlisted.exists_right hx).imp fun _ h => h.2
  · intro hall
    exact (computes_runningTotal hsums hall).imp fun _ h => h.1

lemma value_runningTotal (hsums : AddUpFreely (resultValues f xs)) {t : Decimal}
    (ht : runningTotal f xs = .ok t) : t.value = (resultValues f xs).sum := by
  have hall := (exists_runningTotal_iff hsums).mp ⟨t, ht⟩
  obtain ⟨t', ht', hvalue⟩ := computes_runningTotal hsums hall
  obtain rfl := Except.ok.inj (ht.symm.trans ht')
  exact hvalue

/-- Totals of parts add up freely where what is in them does. -/
lemma AddUpFreely.totals {part : α → List β} (h : AddUpFreely (resultValues g (xs.flatMap part))) :
    AddUpFreely (resultValues (fun x => runningTotal g (part x)) xs) := by
  intro ws hws
  obtain ⟨zs, hzs, rfl⟩ := List.sublist_filterMap_iff.mp hws
  have hparts := h.sublist (resultValues_sublist (hzs.flatMap part))
  -- The sum of the totals is the sum of what is in the parts that have one.
  obtain ⟨us, hus, hsum⟩ : ∃ us : List ℚ, us.Sublist (resultValues g (zs.flatMap part)) ∧
      us.sum = (resultValues (fun x => runningTotal g (part x)) zs).sum := by
    clear hzs hws
    induction zs with
    | nil => exact ⟨[], List.nil_sublist _, rfl⟩
    | cons z zs ih =>
      rw [List.flatMap_cons, resultValues, List.filterMap_append] at hparts ⊢
      obtain ⟨us, hus, hsum⟩ := ih (hparts.sublist (List.sublist_append_right _ _))
      have hz := hparts.sublist (List.sublist_append_left _ _)
      rw [resultValues, List.filterMap_cons]
      cases ht : runningTotal g (part z) with
      | error e => exact ⟨us, hus.trans (List.sublist_append_right _ _), hsum⟩
      | ok t =>
        refine ⟨resultValues g (part z) ++ us, hus.append_left _, ?_⟩
        rw [List.sum_append, ← value_runningTotal hz ht, hsum]
        rfl
  exact hsum ▸ hparts us hus

lemma perm_resultValues (h : Relisted (fun x y => Alike SameValue (f x) (g y)) xs ys) :
    (resultValues f xs).Perm (resultValues g ys) := by
  refine h.perm_filterMap fun x y hxy => ?_
  cases hx : f x with
  | error e =>
    obtain ⟨e', he'⟩ := hxy.symm.exists_error hx
    rw [he']
    rfl
  | ok a =>
    obtain ⟨b, hb, hab⟩ := hxy.exists_ok hx
    rw [hb]
    exact congrArg some (sameValue_iff_value.mp hab)

/-- Totals of items that are alike are alike in any order, where no digit is lost. -/
theorem alike_runningTotal (h : Relisted (fun x y => Alike SameValue (f x) (g y)) xs ys)
    (hsums : AddUpFreely (resultValues f xs)) :
    Alike SameValue (runningTotal f xs) (runningTotal g ys) := by
  have hvalues := perm_resultValues h
  have hsums' := hsums.perm hvalues
  refine .of_results ?_ fun t t' ht ht' => ?_
  · rw [exists_runningTotal_iff hsums, exists_runningTotal_iff hsums']
    constructor
    · intro hall y hy
      obtain ⟨x, hx, hxy⟩ := h.exists_left hy
      obtain ⟨a, ha⟩ := hall x hx
      exact (hxy.exists_ok ha).imp fun _ hb => hb.1
    · intro hall x hx
      obtain ⟨y, hy, hxy⟩ := h.exists_right hx
      obtain ⟨b, hb⟩ := hall y hy
      exact (hxy.symm.exists_ok hb).imp fun _ ha => ha.1
  · rw [sameValue_iff_value, value_runningTotal hsums ht, value_runningTotal hsums' ht',
      hvalues.sum_eq]

/-- Sums of amounts of the same values are alike in any order, where no digit is lost. -/
lemma SameValue.foldlM_add {a b : Decimal} {as bs : List Decimal} (hab : a.SameValue b)
    (h : Relisted SameValue as bs) (hsums : AddUpFreely (a.value :: as.map value)) :
    Alike SameValue (as.foldlM Decimal.add a) (bs.foldlM Decimal.add b) := by
  have hvalues := h.perm_map fun _ _ => sameValue_iff_value.mp
  have hsums' : AddUpFreely (b.value :: bs.map value) := by
    rw [← sameValue_iff_value.mp hab]
    exact hsums.perm (hvalues.cons _)
  obtain ⟨t, ht, hvalue⟩ := computes_sum hsums
  obtain ⟨t', ht', hvalue'⟩ := computes_sum hsums'
  rw [ht, ht']
  refine .ok (sameValue_iff_value.mpr ?_)
  rw [hvalue, hvalue', hvalues.sum_eq, sameValue_iff_value.mp hab]

end Totals

end Decimal

end BenefitScreen
