import BenefitScreen.Configuration.Shipped
import BenefitScreen.Program.ChildCare
import BenefitScreen.Proofs.AmountShare
import BenefitScreen.Proofs.TaxReturns

/-!
# The boundary of the co-payment

The co-payment of child care assistance compares monthly incomes, each a settled twelfth of what a
member earns in a year, with a settled twelfth of the guideline. Away from the guideline this is the
comparison of yearly amounts: what settling adds up to stays in the last digits. At the guideline
the way in which members share the income decides.
-/

namespace BenefitScreen

open Fallible

lemma Member.grossIncome_window (m : Member) (window : Timeframe) (filters : List IncomeFilter)
    (exclude : List IncomeType) :
    m.grossIncome window filters exclude =
      (m.grossIncome .yearly filters exclude).map window.ofYearly := by
  unfold grossIncome
  cases yearlyTotal (m.streamsBy filters exclude) <;> rfl

namespace Household

/-- What each member earns in a year. -/
def yearlyIncomes (h : Household) (filters : List IncomeFilter) : Except Overflow (List Decimal) :=
  h.members.mapM fun m => m.grossIncome .yearly filters []

/-- The income of a household adds up what its members earn, each brought to the window first. -/
lemma grossIncome_eq_ok {h : Household} {window : Timeframe} {filters : List IncomeFilter}
    {total : Decimal} :
    h.grossIncome window filters = .ok total ↔ ∃ ys, h.yearlyIncomes filters = .ok ys ∧
      Decimal.sum (ys.map window.ofYearly) = .ok total := by
  have hmembers : (h.members.mapM fun m => m.grossIncome window filters []) =
      (h.yearlyIncomes filters).map (List.map window.ofYearly) := by
    simp only [Member.grossIncome_window _ window]
    exact mapM_map_results
  unfold grossIncome Decimal.sum
  rw [foldlM_through_eq_ok, hmembers]
  cases h.yearlyIncomes filters with
  | error e => simp [Except.map]
  | ok ys => simp [Except.map]

end Household

namespace ChildCare

/-- The co-payment of a month above the guideline. -/
def incomeShare (income : Decimal) : Except Overflow Decimal := do
  return (← income.mul copayRate).roundTo 2

/-- How far twelve times the monthly income of `n` members may be from what they earn in a year,
where at most `k` digits are lost. -/
def drift (n k : Nat) : Nat := 125 * n * tenPow k

/-- The totals that decide on the co-payment: what each member earns in a year, what all of them
earn in a year and in a month, and the guideline. -/
structure Totals (h : Household) (t : PovertyTable) (ys : List Decimal)
    (yearly monthly guideline : Decimal) : Prop where
  members : h.yearlyIncomes [.all] = .ok ys
  yearly : h.grossIncome .yearly [.all] = .ok yearly
  monthly : h.grossIncome .monthly [.all] = .ok monthly
  guideline : t.limit h.size = .ok guideline

/-- At most `k` digits are lost with amounts of this size. -/
def Fits (ys : List Decimal) (guideline : Decimal) (k : Nat) : Prop :=
  (ys.map (·.units.natAbs)).sum + guideline.units.natAbs + 5 * ys.length * tenPow k <
    mantissaBound * tenPow k

/-- Whatever the amounts, enough digits can be lost. -/
theorem exists_fits {ys : List Decimal} (guideline : Decimal)
    (hpeople : 5 * ys.length < mantissaBound) : ∃ k, Fits ys guideline k := by
  let size := (ys.map (·.units.natAbs)).sum + guideline.units.natAbs
  refine ⟨size, ?_⟩
  have hdigits : size < tenPow size := Nat.lt_pow_self (by decide)
  have hroom : (5 * ys.length + 1) * tenPow size ≤ mantissaBound * tenPow size :=
    Nat.mul_le_mul_right _ hpeople
  rw [Nat.add_mul, Nat.one_mul] at hroom
  change size + 5 * ys.length * tenPow size < mantissaBound * tenPow size
  omega

variable {h : Household} {t : PovertyTable} {ys : List Decimal} {yearly monthly guideline : Decimal}
  {k : Nat}

namespace Totals

lemma monthlyCopay_eq (ht : Totals h t ys yearly monthly guideline) :
    monthlyCopay h t =
      if monthly ≤ guideline.divNat 12 then .ok minimumCopay else incomeShare monthly := by
  unfold monthlyCopay
  rw [ht.monthly, ok_bind, ht.guideline, ok_bind]
  rfl

/-- A year is made up of what its members earn, and a month of twelfths. -/
lemma sums (ht : Totals h t ys yearly monthly guideline) :
    Decimal.sum ys = .ok yearly ∧ Decimal.sum (ys.map (·.divNat 12)) = .ok monthly := by
  obtain ⟨ys', hys', hsum⟩ := Household.grossIncome_eq_ok.mp ht.yearly
  obtain ⟨ys'', hys'', hsum'⟩ := Household.grossIncome_eq_ok.mp ht.monthly
  obtain rfl : ys = ys' := Except.ok.inj (ht.members.symm.trans hys')
  obtain rfl : ys = ys'' := Except.ok.inj (ht.members.symm.trans hys'')
  exact ⟨by rwa [show ys.map Timeframe.yearly.ofYearly = ys from List.map_id ys] at hsum, hsum'⟩

lemma monthly_near (ht : Totals h t ys yearly monthly guideline) (hk : Fits ys guideline k) :
    (12 * monthly.units - yearly.units).natAbs ≤ drift ys.length k := by
  obtain ⟨hsum, hshares⟩ := ht.sums
  unfold Fits at hk
  exact Decimal.sum_shares_near (n := 12) (by decide) (by omega) hsum hshares

lemma copay_of_twelfths (ht : Totals h t ys yearly monthly guideline) (hle : yearly ≤ guideline)
    (htwelfths : monthly ≤ yearly.divNat 12) : monthlyCopay h t = .ok minimumCopay := by
  have hyear : yearly.divNat 12 ≤ guideline.divNat 12 := Decimal.divNat_le_divNat (by decide) hle
  rw [ht.monthlyCopay_eq, if_pos]
  rw [Decimal.le_iff_units] at htwelfths hyear ⊢
  omega

lemma copay_of_below (ht : Totals h t ys yearly monthly guideline) (hk : Fits ys guideline k)
    (hless : yearly.units + drift ys.length k ≤ guideline.units) :
    monthlyCopay h t = .ok minimumCopay := by
  have hnear := ht.monthly_near hk
  rw [ht.monthlyCopay_eq, if_pos]
  exact Decimal.le_divNat (by decide) (by omega)

lemma copay_of_above (ht : Totals h t ys yearly monthly guideline) (hk : Fits ys guideline k)
    (hmore : guideline.units + drift ys.length k + 60 * tenPow k < yearly.units) :
    monthlyCopay h t = incomeShare monthly := by
  have hnear := ht.monthly_near hk
  have hsize : guideline.units.natAbs < mantissaBound * tenPow k := by
    unfold Fits at hk
    omega
  have hlimit : (12 * (guideline.divNat 12).units - guideline.units).natAbs ≤ 5 * 12 * tenPow k :=
    Decimal.divNat_near (by decide)
      (Decimal.excessDigits_le (Nat.lt_of_le_of_lt (Nat.div_le_self _ _) hsize))
  rw [ht.monthlyCopay_eq, if_neg]
  rw [Decimal.le_iff_units]
  omega

lemma copay_at_guideline (ht : Totals h t ys yearly monthly guideline)
    (hsame : yearly.SameValue guideline) :
    monthlyCopay h t =
      if monthly ≤ yearly.divNat 12 then .ok minimumCopay else incomeShare monthly := by
  have hyear : yearly.divNat 12 ≤ guideline.divNat 12 :=
    Decimal.divNat_le_divNat (by decide) (Int.le_of_eq hsame)
  have hyear' : guideline.divNat 12 ≤ yearly.divNat 12 :=
    Decimal.divNat_le_divNat (by decide) (Int.le_of_eq hsame.symm)
  have hboth : monthly ≤ guideline.divNat 12 ↔ monthly ≤ yearly.divNat 12 := by
    rw [Decimal.le_iff_units] at hyear hyear'
    rw [Decimal.le_iff_units, Decimal.le_iff_units]
    omega
  rw [ht.monthlyCopay_eq]
  simp only [hboth]

end Totals

/-- The co-payment is the minimum up to the guideline and the share of income above it, unless the
yearly income is so close to the guideline that what settling adds up to can tip the balance. At the
guideline itself it depends on how the twelfths of the members add up. -/
theorem monthlyCopay_follows_yearly_income (ht : Totals h t ys yearly monthly guideline)
    (hk : Fits ys guideline k) :
    (yearly ≤ guideline →
        monthly ≤ yearly.divNat 12 ∨ yearly.units + drift ys.length k ≤ guideline.units →
        monthlyCopay h t = .ok minimumCopay) ∧
      (guideline.units + drift ys.length k + 60 * tenPow k < yearly.units →
        monthlyCopay h t = incomeShare monthly) ∧
      (yearly.SameValue guideline → monthlyCopay h t =
        if monthly ≤ yearly.divNat 12 then .ok minimumCopay else incomeShare monthly) := by
  refine ⟨?_, ht.copay_of_above hk, ht.copay_at_guideline⟩
  rintro hle (htwelfths | hless)
  · exact ht.copay_of_twelfths hle htwelfths
  · exact ht.copay_of_below hk hless

open TaxUnits (lodger sharedFlat)

/-- A family of three that lives on wages. -/
def threeEarners (wages : UInt64) : Household := { sharedFlat with
  members := [
    lodger 1 .headOfHousehold (some 40) [⟨.wages, .whole wages, .yearly, none⟩],
    lodger 2 .spouse (some 38) [⟨.wages, .whole 8000, .yearly, none⟩],
    lodger 3 .child (some 17) [⟨.wages, .whole 6650, .yearly, none⟩]] }

/-- A dollar below the guideline the family pays the minimum. -/
theorem threeEarners_below_guideline :
    (threeEarners 11999).grossIncome .yearly [.all] = .ok (.whole 26649) ∧
      Shipped.table2025.limit (threeEarners 11999).size = .ok (.whole 26650) ∧
      monthlyCopay (threeEarners 11999) Shipped.table2025 = .ok minimumCopay := by
  have hyearly : (threeEarners 11999).grossIncome .yearly [.all] = .ok (.whole 26649) := by
    decide +kernel
  have hguideline : Shipped.table2025.limit (threeEarners 11999).size = .ok (.whole 26650) := by
    decide +kernel
  have hreturns : ((threeEarners 11999).grossIncome .monthly [.all]).toOption.any (fun _ => true) =
      true := by
    decide +kernel
  obtain ⟨monthly, hmonthly, _⟩ := exists_ok_of_any hreturns
  have hmembers : (threeEarners 11999).yearlyIncomes [.all] =
      .ok [.whole 11999, .whole 8000, .whole 6650] := by
    decide +kernel
  have hfits : Fits [.whole 11999, .whole 8000, .whole 6650] (.whole 26650) 5 := by
    unfold Fits
    decide +kernel
  obtain ⟨hbelow, _⟩ :=
    monthlyCopay_follows_yearly_income ⟨hmembers, hyearly, hmonthly, hguideline⟩ hfits
  exact ⟨hyearly, hguideline, hbelow (by decide) (.inr (by decide +kernel))⟩

/-- At the guideline the same family pays the share: the twelfths of the three wages, each settled
for itself, add up to more than a twelfth of the guideline. -/
theorem threeEarners_at_guideline :
    Shipped.table2025.validate "2025" = .ok () ∧
      (threeEarners 12000).grossIncome .yearly [.all] = .ok (.whole 26650) ∧
      Shipped.table2025.limit (threeEarners 12000).size = .ok (.whole 26650) ∧
      monthlyCopay (threeEarners 12000) Shipped.table2025 = .ok (.hundredths 15546) := by
  decide +kernel

/-- Amounts of up to four digits after the point are never too close to the guideline: while they
come to at most a thousand million million dollars for at most a million people, only an income of
exactly the guideline leaves the co-payment open. -/
theorem monthlyCopay_off_guideline (ht : Totals h t ys yearly monthly guideline)
    (hscale : yearly.scale ≤ 4) (hscale' : guideline.scale ≤ 4)
    (hamounts : (ys.map (·.units.natAbs)).sum + guideline.units.natAbs ≤ tenPow 43)
    (hpeople : ys.length ≤ tenPow 6) :
    (yearly < guideline → monthlyCopay h t = .ok minimumCopay) ∧
      (guideline < yearly → monthlyCopay h t = incomeShare monthly) := by
  have h15 : tenPow 15 = 10 ^ 15 := by decide
  have h24 : tenPow 24 = 10 ^ 24 := by decide
  have h43 : tenPow 43 = 10 ^ 43 := by decide
  have h6 : tenPow 6 = 10 ^ 6 := by decide
  rw [h43] at hamounts
  rw [h6] at hpeople
  have hapart : ∀ {a b : Decimal}, a.scale ≤ 4 → b.scale ≤ 4 → a < b →
      a.units + tenPow 24 ≤ b.units := by
    intro a b ha hb hlt
    have ha' := a.signed_mul_finer ha (by decide)
    have hb' := b.signed_mul_finer hb (by decide)
    rw [Decimal.lt_iff_units] at hlt
    rw [show 28 - 4 = 24 from rfl, h24] at ha' hb'
    rw [h24]
    omega
  have hslack : drift ys.length 15 + 60 * tenPow 15 < tenPow 24 := by
    rw [drift, h15, h24]
    omega
  have hk : Fits ys guideline 15 := by
    rw [Fits, mantissaBound, h15]
    omega
  constructor
  · intro hless
    have hdistance := hapart hscale hscale' hless
    exact ht.copay_of_below hk (by omega)
  · intro hmore
    have hdistance := hapart hscale' hscale hmore
    exact ht.copay_of_above hk (by omega)

/-- However close to the guideline, a household with one earner pays the minimum up to it: there is
only one twelfth to settle. -/
theorem monthlyCopay_of_one_earner {before after : List Decimal} {y : Decimal}
    (ht : Totals h t (before ++ y :: after) yearly monthly guideline)
    (hothers : ∀ x ∈ before ++ after, x.isZero = true) (hle : yearly ≤ guideline) :
    monthlyCopay h t = .ok minimumCopay := by
  obtain ⟨hsum, hshares⟩ := ht.sums
  rw [List.map_append, List.map_cons] at hshares
  have hyear : yearly.units = y.units :=
    Decimal.units_sum_of_single (fun x hx => Decimal.units_of_isZero (hothers x hx)) hsum
  have hmonth : monthly.units = (y.divNat 12).units := by
    refine Decimal.units_sum_of_single (fun x hx => ?_) hshares
    rw [← List.map_append] at hx
    obtain ⟨x', hx', rfl⟩ := List.mem_map.mp hx
    rw [Decimal.divNat, if_pos (hothers x' hx'), Decimal.units_zero]
  refine ht.copay_of_twelfths hle ?_
  rw [Decimal.le_iff_units, hmonth, Decimal.units_divNat y (by decide),
    Decimal.units_divNat yearly (by decide), hyear]

end ChildCare

end BenefitScreen
