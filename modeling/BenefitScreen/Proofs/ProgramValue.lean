import BenefitScreen.Configuration.Shipped
import BenefitScreen.Program.Registry
import BenefitScreen.Proofs.AmountSum
import BenefitScreen.Proofs.ProgramResult
import BenefitScreen.Proofs.TaxReturns

/-!
# The value of a program

A program that is not eligible has no value. The value of one that is eligible is not negative, with
one exception: child care assistance takes the family's co-payment off, and is negative exactly when
this exceeds the subsidies for all children together. Every other result leaves the total at least
as high as it is without it.
-/

namespace BenefitScreen

open Fallible Simulation

namespace Calculator

variable {c : Calculator} {ctx : Context}

/-- Adds the value of a member who is eligible. -/
def addValue (c : Calculator) (ctx : Context) (total : Decimal) (x : Member × MemberResult) :
    Except Overflow Decimal :=
  if x.2.eligible then do total.add (← c.memberValue ctx x.1) else .ok total

lemma foldlM_addValue {ms : List Member} {os os' : List MemberResult} {total t : Decimal}
    (h : c.valueMembers ctx ms os total = .ok (os', t)) :
    (ms.zip os).foldlM (c.addValue ctx) total = .ok t := by
  induction ms generalizing os os' total with
  | nil =>
    cases Except.ok.inj h
    rfl
  | cons m ms ih =>
    cases os with
    | nil =>
      cases Except.ok.inj h
      rfl
    | cons o os =>
      rw [valueMembers] at h
      rw [List.zip_cons_cons, foldlM_cons_eq_ok]
      unfold addValue
      split at h
      · rename_i heligible
        obtain ⟨value, hvalue, h⟩ := bind_eq_ok.mp h
        obtain ⟨sum, hsum, h⟩ := bind_eq_ok.mp h
        obtain ⟨⟨rest, t'⟩, hrest, h⟩ := bind_eq_ok.mp h
        cases pure_eq_ok.mp h
        refine ⟨sum, ?_, ih hrest⟩
        rw [if_pos heligible, hvalue]
        exact hsum
      · rename_i hno
        obtain ⟨⟨rest, t'⟩, hrest, h⟩ := bind_eq_ok.mp h
        cases pure_eq_ok.mp h
        exact ⟨total, if_neg hno, ih hrest⟩

/-- The amounts that the rules put on an eligible household and its members are not negative. -/
structure NeverCharges (c : Calculator) : Prop where
  household : ∀ ctx before after amount, c.householdConditions ctx before = .ok after →
    Conditions.passed after = true → c.householdValue ctx = .ok amount → .zero ≤ amount
  member : ∀ ctx m amount, c.memberValue ctx m = .ok amount → .zero ≤ amount

lemma NeverCharges.zero_le_addValue (hc : c.NeverCharges) {x : Member × MemberResult}
    {total sum : Decimal} (h : c.addValue ctx total x = .ok sum) (htotal : .zero ≤ total) :
    .zero ≤ sum := by
  unfold addValue at h
  split at h
  · obtain ⟨value, hvalue, hsum⟩ := bind_eq_ok.mp h
    exact Decimal.zero_le_add htotal (hc.member ctx x.1 value hvalue) hsum
  · exact Except.ok.inj h ▸ htotal

lemma NeverCharges.zero_le_value (hc : c.NeverCharges) {r : ProgramResult}
    (h : c.calculate ctx = .ok r) : .zero ≤ r.value := by
  obtain ⟨outcomes, hr⟩ := exists_calculation h
  cases heligible : r.eligible with
  | false =>
    rw [(hr.refused heligible).2]
    exact Decimal.le_refl _
  | true =>
    obtain ⟨amount, hamount, hvalued⟩ := hr.granted heligible
    have hstart : .zero ≤ amount :=
      hc.household ctx _ _ amount hr.householdConditions (hr.passed heligible) hamount
    exact foldlM_invariant (Decimal.zero ≤ ·) (fun _ _ _ _ => hc.zero_le_addValue)
      (foldlM_addValue hvalued) hstart

lemma neverCharges_of_fixed (hhousehold : c.householdValue = fun _ => .ok c.householdAmount)
    (hmember : c.memberValue = fun _ _ => .ok c.memberAmount) (h : .zero ≤ c.householdAmount)
    (hm : .zero ≤ c.memberAmount) : c.NeverCharges where
  household _ _ _ amount _ _ hamount := by
    rw [hhousehold] at hamount
    exact Except.ok.inj hamount ▸ h
  member _ _ amount hamount := by
    rw [hmember] at hamount
    exact Except.ok.inj hamount ▸ hm

end Calculator

open Calculator
open Decimal (zero_le_whole)

namespace Simulated

lemma zero_le_categoryAmount {categories : List (String × Decimal)}
    (h : ∀ c ∈ categories, .zero ≤ c.2) (category : String) :
    .zero ≤ categoryAmount categories category := by
  unfold categoryAmount
  cases hfind : categories.find? fun c => c.1 == category with
  | none => exact zero_le_whole 0
  | some c => exact h c (List.mem_of_find?_eq_some hfind)

lemma zero_le_amountByCategory {categories : List (String × Decimal)}
    (h : ∀ c ∈ categories, .zero ≤ c.2) (amount category : Output) (r : Response) (m : Member) :
    .zero ≤ amountByCategory categories amount category r m := by
  unfold amountByCategory
  split
  · exact zero_le_whole 0
  · exact zero_le_categoryAmount h _

lemma forMembers_neverCharges {dependencies : List DataField} {vars : Variables}
    {amount : Response → Member → Decimal} (h : ∀ r m, .zero ≤ amount r m) :
    (forMembers dependencies vars amount).NeverCharges where
  household _ _ _ _ _ _ hamount := Except.ok.inj hamount ▸ zero_le_whole 0
  member ctx m value hvalue := by
    obtain rfl := Except.ok.inj hvalue
    cases ctx.response? with
    | none => exact zero_le_whole 0
    | some r => exact h r m

/-- The total may be negative, but then the household is not eligible. -/
lemma forHousehold_neverCharges (dependencies : List DataField) (inputs : List Input)
    (output : Output) : (forHousehold dependencies inputs output).NeverCharges where
  household ctx before after amount hconditions hpassed hamount := by
    obtain ⟨total, htotal, hconditions⟩ := bind_eq_ok.mp hconditions
    obtain rfl := pure_eq_ok.mp hconditions
    obtain rfl : total = amount := Except.ok.inj (htotal.symm.trans hamount)
    have hpositive : Decimal.zero < total := by
      simpa [Conditions.passed, check] using (passed_append.mp hpassed).2
    exact Decimal.le_of_lt hpositive
  member _ _ _ hvalue := Except.ok.inj hvalue ▸ zero_le_whole 0

end Simulated

open Simulated

lemma Medicaid.neverCharges : calculator.NeverCharges := by
  have hcategories : ∀ c ∈ categories, .zero ≤ c.2 := by decide
  apply forMembers_neverCharges
  intro r m
  unfold amount
  split
  · split
    · exact zero_le_categoryAmount hcategories _
    · exact zero_le_whole 0
  · exact zero_le_amountByCategory hcategories _ _ r m

lemma Wic.neverCharges : calculator.NeverCharges := by
  have hcategories : ∀ c ∈ categories, .zero ≤ c.2 := by decide
  exact forMembers_neverCharges (zero_le_amountByCategory hcategories _ _)

lemma MomsAndBabies.neverCharges : calculator.NeverCharges where
  household _ _ _ _ _ _ hamount := Except.ok.inj hamount ▸ zero_le_whole 0
  member ctx m value hvalue := by
    obtain rfl := Except.ok.inj hvalue
    split <;> exact zero_le_whole _

lemma HeatingAssistance.neverCharges : calculator.NeverCharges where
  household ctx _ _ amount _ _ hamount := by
    have hamounts : ∀ size, .zero ≤ (amounts size).1 ∧ .zero ≤ (amounts size).2 := by
      intro size
      unfold amounts
      split <;> exact ⟨zero_le_whole _, zero_le_whole _⟩
    obtain ⟨income, _, hamount⟩ := bind_eq_ok.mp hamount
    obtain ⟨guideline, _, hamount⟩ := bind_eq_ok.mp hamount
    dsimp only at hamount
    split at hamount
    · exact pure_eq_ok.mp hamount ▸ (hamounts _).1
    · split at hamount
      · exact pure_eq_ok.mp hamount ▸ (hamounts _).2
      · exact pure_eq_ok.mp hamount ▸ zero_le_whole 0
  member _ _ _ hvalue := Except.ok.inj hvalue ▸ zero_le_whole 0

/-- No program but child care assistance ever has a negative value. -/
lemma Registry.neverCharges {e : String × Calculator} (he : e ∈ calculators)
    (hcode : e.1 ≠ "il_ccap") : e.2.NeverCharges := by
  cases e, he using calculators_cases with
  | medicaid => exact Medicaid.neverCharges
  | wic => exact Wic.neverCharges
  | snap => exact forHousehold_neverCharges _ _ _
  | aca => exact forHousehold_neverCharges _ _ _
  | medicareSavings => exact neverCharges_of_fixed rfl rfl (zero_le_whole _) (zero_le_whole _)
  | allKids => exact neverCharges_of_fixed rfl rfl (zero_le_whole _) (zero_le_whole _)
  | familyCare => exact neverCharges_of_fixed rfl rfl (zero_le_whole _) (zero_le_whole _)
  | momsAndBabies => exact MomsAndBabies.neverCharges
  | childCare => exact absurd rfl hcode
  | workers => exact neverCharges_of_fixed rfl rfl (zero_le_whole _) (zero_le_whole _)
  | nurse => exact neverCharges_of_fixed rfl rfl (zero_le_whole _) (zero_le_whole _)
  | weatherization => exact neverCharges_of_fixed rfl rfl (zero_le_whole _) (zero_le_whole _)
  | heating => exact HeatingAssistance.neverCharges
  | middleIncome => exact neverCharges_of_fixed rfl rfl (zero_le_whole _) (zero_le_whole _)
  | rental => exact neverCharges_of_fixed rfl rfl (zero_le_whole _) (zero_le_whole _)

namespace ChildCare

/-- The co-payment of a year, which comes off the subsidies. -/
def yearlyCopay (ctx : Context) : Except Overflow Decimal := do
  (← monthlyCopay ctx.household ctx.program.table).mul (.whole 12)

/-- Whether a subsidy is paid for a member of an eligible household. -/
def isSubsidized (m : Member) : Bool :=
  children.contains m.relationship && m.isAtMost (ageLimit m)

/-- The yearly subsidies for all children together, child by child. -/
def subsidies (ctx : Context) : List Decimal :=
  (ctx.household.members.filter isSubsidized).map fun m =>
    (ratesFor ctx.household.county).at ((m.ageInMonths ctx.asOf).getD 0)

lemma exists_whole (county : Option String) (months : UInt32) :
    ∃ n, (ratesFor county).at months = .whole n := by
  have hrates (a b c d : UInt64) :
      ∃ n, (Rates.mk (monthly a) (monthly b) (monthly c) (monthly d)).at months = .whole n := by
    unfold Rates.at
    split
    · exact ⟨_, rfl⟩
    · split
      · exact ⟨_, rfl⟩
      · split <;> exact ⟨_, rfl⟩
  unfold ratesFor
  split
  · exact hrates _ _ _ _
  · split
    · exact hrates _ _ _ _
    · split <;> exact hrates _ _ _ _

lemma subsidies_whole (ctx : Context) : ∀ x ∈ subsidies ctx, .zero ≤ x ∧ x.scale = 0 := by
  intro x hx
  obtain ⟨m, _, rfl⟩ := List.mem_map.mp hx
  obtain ⟨n, hn⟩ := exists_whole ctx.household.county ((m.ageInMonths ctx.asOf).getD 0)
  rw [hn]
  exact ⟨zero_le_whole n, rfl⟩

/-- What is checked for a member. -/
def outcomeOf (m : Member) : MemberResult := ⟨m.id, [
  check (children.contains m.relationship),
  checkFor (m.isAtMost (ageLimit m)) (.child 0 (ageLimit m))], .zero⟩

lemma eligible_outcomeOf (m : Member) : (outcomeOf m).eligible = isSubsidized m := by
  simp [outcomeOf, MemberResult.eligible, check, checkFor, isSubsidized]

lemma memberOutcomes_eq (ctx : Context) :
    calculator.memberOutcomes ctx = .ok (ctx.household.members.map outcomeOf) :=
  List.mapM_pure

/-- The members' values are added up as the subsidies of the children. -/
lemma foldlM_addValue_eq (ctx : Context) (ms : List Member) (total : Decimal) :
    (ms.zip (ms.map outcomeOf)).foldlM (calculator.addValue ctx) total =
      ((ms.filter isSubsidized).map fun m =>
        (ratesFor ctx.household.county).at ((m.ageInMonths ctx.asOf).getD 0)).foldlM
          Decimal.add total := by
  induction ms generalizing total with
  | nil => rfl
  | cons m ms ih =>
    rw [List.map_cons, List.zip_cons_cons, List.foldlM_cons, addValue, eligible_outcomeOf]
    cases hchild : isSubsidized m with
    | false =>
      rw [List.filter_cons_of_neg (by simp [hchild]), if_neg (by decide), ok_bind]
      exact ih total
    | true =>
      rw [List.filter_cons_of_pos hchild, if_pos rfl, List.map_cons, List.foldlM_cons]
      exact bind_congr ih

/-- The value is negative exactly when the co-payment of a year exceeds all subsidies together. -/
lemma value_lt_zero_iff {ctx : Context} {r : ProgramResult} (h : calculator.calculate ctx = .ok r) :
    r.value < .zero ↔ r.eligible = true ∧ ∃ copay, yearlyCopay ctx = .ok copay ∧
      ((subsidies ctx).map Decimal.units).sum < copay.units := by
  obtain ⟨outcomes, hr⟩ := exists_calculation h
  cases heligible : r.eligible with
  | false =>
    rw [(hr.refused heligible).2]
    simp [Decimal.lt_zero_iff]
  | true =>
    obtain ⟨amount, hamount, hvalued⟩ := hr.granted heligible
    obtain ⟨copay, hcopay, hamount⟩ := bind_eq_ok.mp hamount
    obtain ⟨yearly, hyearly, hamount⟩ := bind_eq_ok.mp hamount
    obtain rfl := pure_eq_ok.mp hamount
    have hsum := foldlM_addValue hvalued
    obtain rfl := Except.ok.inj ((memberOutcomes_eq ctx).symm.trans hr.memberOutcomes)
    rw [foldlM_addValue_eq] at hsum
    have hyear : yearlyCopay ctx = .ok yearly := bind_eq_ok.mpr ⟨copay, hcopay, hyearly⟩
    rw [Decimal.foldlM_add_lt_zero_iff (subsidies_whole ctx) hsum, Decimal.units_neg]
    constructor
    · intro hneg
      exact ⟨rfl, yearly, hyear, by omega⟩
    · rintro ⟨_, copay', hcopay', hless⟩
      obtain rfl : yearly = copay' := Except.ok.inj (hyear.symm.trans hcopay')
      omega

end ChildCare

namespace Registry

/-- Only child care assistance has a negative value, for an eligible household whose co-payment of a
year exceeds all its subsidies. In every other case the result never lowers a total. -/
theorem value_negative_iff {code : String} {c : Calculator} (hc : (code, c) ∈ calculators)
    {ctx : Context} {r : ProgramResult} (hr : c.calculate ctx = .ok r) :
    (r.value < .zero ↔ code = "il_ccap" ∧ r.eligible = true ∧
      ∃ copay, ChildCare.yearlyCopay ctx = .ok copay ∧
        ((ChildCare.subsidies ctx).map Decimal.units).sum < copay.units) ∧
    (¬r.value < .zero → ∀ before after t t', totalValue (before ++ after) = .ok t →
      totalValue (before ++ r :: after) = .ok t' → t ≤ t') := by
  constructor
  · by_cases hcode : code = "il_ccap"
    · subst hcode
      obtain rfl : c = ChildCare.calculator := by simpa [calculators] using hc
      simpa using ChildCare.value_lt_zero_iff hr
    · have hvalue := (neverCharges hc hcode).zero_le_value hr
      simp [Decimal.zero_le_iff_not_lt.mp hvalue, hcode]
  · intro hvalue before after t t' h h'
    exact totalValue_le (Decimal.zero_le_iff_not_lt.mpr hvalue) h h'

open TaxUnits (lodger sharedFlat)

/-- A family of five with one child in care. -/
def familyOfFive (wages : UInt64) : Context where
  household := { sharedFlat with
    reportedSize := some 5
    members := [
      lodger 1 .headOfHousehold (some 40) [⟨.wages, .whole wages, .yearly, none⟩],
      lodger 2 .child (some 8) []] }
  program := ⟨"il_ccap", "Child Care Assistance Program", some "IL", "2025", Shipped.table2025⟩
  results := .empty
  simulation := .skipped
  limits := .empty
  asOf := ⟨2025, 6, 1⟩

theorem subsidy_exceeds_copay :
    ∃ r, ChildCare.calculator.calculate (familyOfFive 30000) = .ok r ∧ r.eligible = true ∧
      r.value = .whole 5268 ∧
      (r.value < .zero ↔ "il_ccap" = "il_ccap" ∧ r.eligible = true ∧
        ∃ copay, ChildCare.yearlyCopay (familyOfFive 30000) = .ok copay ∧
          ((ChildCare.subsidies (familyOfFive 30000)).map Decimal.units).sum < copay.units) ∧
      ∀ before after t t', totalValue (before ++ after) = .ok t →
        totalValue (before ++ r :: after) = .ok t' → t ≤ t' := by
  have hresult : ((ChildCare.calculator.calculate (familyOfFive 30000)).toOption.any fun r =>
      r.eligible = true ∧ r.value = .whole 5268) = true := by
    decide +kernel
  obtain ⟨r, hr, hvalue⟩ := exists_ok_of_any hresult
  obtain ⟨heligible, hvalue⟩ := of_decide_eq_true hvalue
  have hc : ("il_ccap", ChildCare.calculator) ∈ calculators := by simp [calculators]
  obtain ⟨hnegative, htotal⟩ := value_negative_iff hc hr
  have hnot : ¬r.value < .zero := by
    rw [hvalue]
    decide
  exact ⟨r, hr, heligible, hvalue, hnegative, htotal hnot⟩

/-- With an income close to the limit, the co-payment for the only child is six hundred a year more
than the subsidy, and takes as much off the total. -/
theorem copay_exceeds_subsidy :
    Shipped.table2025.validate "2025" = .ok () ∧
    ∃ kids care t t', AllKids.calculator.calculate (familyOfFive 84000) = .ok kids ∧
      ChildCare.calculator.calculate (familyOfFive 84000) = .ok care ∧
      care.eligible = true ∧ care.value < .zero ∧
      totalValue [kids] = .ok t ∧ totalValue [kids, care] = .ok t' ∧ t' < t := by
  have hlowered : (do
      let kids ← AllKids.calculator.calculate (familyOfFive 84000)
      let care ← ChildCare.calculator.calculate (familyOfFive 84000)
      let t ← totalValue [kids]
      let t' ← totalValue [kids, care]
      return (care, t, t') : Except Overflow _).toOption.any (fun x =>
        x.1.eligible = true ∧ x.1.value < .zero ∧ x.2.2 < x.2.1) = true := by
    decide +kernel
  obtain ⟨⟨care, t, t'⟩, hrun, hvalues⟩ := exists_ok_of_any hlowered
  obtain ⟨kids, hkids, hrun⟩ := bind_eq_ok.mp hrun
  obtain ⟨care', hcare, hrun⟩ := bind_eq_ok.mp hrun
  obtain ⟨t₁, ht, hrun⟩ := bind_eq_ok.mp hrun
  obtain ⟨t₂, ht', hrun⟩ := bind_eq_ok.mp hrun
  cases pure_eq_ok.mp hrun
  obtain ⟨heligible, hnegative, hless⟩ := of_decide_eq_true hvalues
  exact ⟨rfl, kids, care, t, t', hkids, hcare, heligible, hnegative, ht, ht', hless⟩

end Registry

end BenefitScreen
