import BenefitScreen.Program.Registry
import BenefitScreen.Proofs.AmountValue
import BenefitScreen.Proofs.Lookup
import BenefitScreen.Proofs.ProgramResult

/-!
# Failed lookups of income limits

What three programs make of the limits that they asked for. A lookup that failed shows in the
condition for the income and nowhere else: it cannot make a household eligible, it cannot keep out
a household that needs no limit, and all other conditions are the ones without it.
-/

namespace BenefitScreen

open Decimal Fallible

lemma Household.hasBenefit_iff {h : Household} {code : String} :
    h.hasBenefit code = true ↔ code ∈ h.currentBenefits.keys := by
  rw [Table.mem_keys, ← Option.isSome_iff_exists]
  rfl

lemma Context.eligibleFor_iff {ctx : Context} {code : String} :
    ctx.eligibleFor code = true ↔ ∃ r, ctx.results.get? code = some r ∧ r.eligible = true := by
  rw [eligibleFor, Option.any_eq_true]

namespace Calculator

variable {c : Calculator} {ctx : Context} {amount : Decimal}

/-- What a program that concerns no members and needs no simulation makes of its conditions. -/
def resultOf (ctx : Context) (amount : Decimal) (own : Conditions) : ProgramResult where
  code := ctx.program.code
  name := ctx.program.name
  eligible := own.passed
  value := if own.passed then amount else .zero
  conditions := own
  members := []

lemma calculate_eq_map (hscoped : c.memberScoped = false) (hvars : c.vars = none)
    (hamount : c.householdValue ctx = .ok amount) :
    c.calculate ctx = (c.householdConditions ctx []).map (resultOf ctx amount) := by
  have hmembers : c.memberOutcomes ctx = .ok [] := by rw [memberOutcomes, hscoped]; rfl
  have hsimulation : c.simulationConditions ctx = [] := by rw [simulationConditions, hvars]
  unfold calculate
  rw [hmembers, hsimulation, hscoped, hamount]
  cases c.householdConditions ctx [] with
  | error e => rfl
  | ok own =>
    simp only [ok_bind, Bool.not_false, Bool.true_or, Bool.and_true,
      valueMembers_nil, Except.map, resultOf]
    cases own.passed <;> rfl

end Calculator

namespace Weatherization

variable {ctx : Context} {r : ProgramResult}

/-- The household has a benefit, or was found eligible for one before, that stands in for the
income check. -/
def Presumed (ctx : Context) : Prop :=
  (∃ code ∈ ["andcs", "ssi", "snap", "leap", "tanf"], code ∈ ctx.household.currentBenefits.keys) ∨
    ∃ r, ctx.results.get? "snap" = some r ∧ r.eligible = true

/-- The household reports a rent or a mortgage. -/
def PaysForHousing (h : Household) : Prop :=
  ∃ e ∈ h.expenses, e.type = .rent ∨ e.type = .mortgage

/-- The answer for the limit of a county. -/
def limitIn (ctx : Context) (county : String) : LimitAnswer :=
  ctx.limits.get (.county "CO" county ctx.household.size)

/-- The condition for the income before the one other condition. -/
def recorded (h : Household) (income : Condition) : Conditions :=
  [income, checkFor (h.hasExpense [.rent, .mortgage]) .housingCost]

/-- What is found out about a household with a yearly income. -/
structure Screens (ctx : Context) (income : Decimal) (r : ProgramResult) : Prop where
  eligible_iff : r.eligible = true ↔ PaysForHousing ctx.household ∧
    (Presumed ctx ∨ ∃ county limit, ctx.household.county = some county ∧
      limitIn ctx county = .ok limit ∧ income ≤ limit)
  known : ∀ county limit, ctx.household.county = some county → limitIn ctx county = .ok limit →
    ∃ passed, (passed = true ↔ income ≤ limit ∨ Presumed ctx) ∧
      r.conditions = recorded ctx.household (checkFor passed (.income income limit))
  failed : ∀ county failure, ctx.household.county = some county →
    limitIn ctx county = .error failure → ∃ passed, (passed = true ↔ Presumed ctx) ∧
      r.conditions = recorded ctx.household (checkFor passed (.incomeLimitUnknown (some failure)))
  unasked : ctx.household.county = none → ∃ passed, (passed = true ↔ Presumed ctx) ∧
    r.conditions = recorded ctx.household (checkFor passed (.incomeLimitUnknown none))

lemma isCategorical_iff : isCategorical ctx = true ↔ Presumed ctx := by
  rw [isCategorical, Bool.or_eq_true, List.any_eq_true, Context.eligibleFor_iff]
  simp only [Household.hasBenefit_iff]
  rfl

lemma hasExpense_iff {h : Household} :
    h.hasExpense [.rent, .mortgage] = true ↔ PaysForHousing h := by
  simp [Household.hasExpense, PaysForHousing]

lemma householdConditions_eq (ctx : Context) :
    calculator.householdConditions ctx [] =
      (ctx.household.grossIncome .yearly [.all]).map fun income =>
        recorded ctx.household (incomeCondition ctx income) := by
  cases h : ctx.household.grossIncome .yearly [.all] <;> simp [calculator, h, recorded] <;> rfl

lemma incomeCondition_of_county {county : String} (hcounty : ctx.household.county = some county)
    (income : Decimal) : incomeCondition ctx income = match limitIn ctx county with
      | .ok limit => checkFor (income ≤ limit || isCategorical ctx) (.income income limit)
      | .error failure => checkFor (isCategorical ctx) (.incomeLimitUnknown (some failure)) := by
  have hasked : (query? ctx.household).map ctx.limits.get = some (limitIn ctx county) := by
    rw [query?, hcounty]
    rfl
  rw [incomeCondition, hasked]
  cases limitIn ctx county <;> rfl

lemma incomeCondition_of_none (hcounty : ctx.household.county = none) (income : Decimal) :
    incomeCondition ctx income = checkFor (isCategorical ctx) (.incomeLimitUnknown none) := by
  rw [incomeCondition, query?, hcounty]
  rfl

lemma passed_incomeCondition {income : Decimal} :
    (incomeCondition ctx income).passed = true ↔ Presumed ctx ∨ ∃ county limit,
      ctx.household.county = some county ∧ limitIn ctx county = .ok limit ∧ income ≤ limit := by
  cases hcounty : ctx.household.county with
  | none => simp [incomeCondition_of_none hcounty, checkFor, isCategorical_iff]
  | some county =>
    rw [incomeCondition_of_county hcounty]
    cases hlimit : limitIn ctx county with
    | error failure => simp [checkFor, isCategorical_iff, hlimit]
    | ok limit => simp [checkFor, isCategorical_iff, hlimit, or_comm]

lemma screens (income amount : Decimal) : Screens ctx income
    (Calculator.resultOf ctx amount (recorded ctx.household (incomeCondition ctx income))) where
  eligible_iff := by
    rw [← hasExpense_iff, ← passed_incomeCondition]
    simp [Calculator.resultOf, recorded, checkFor, and_comm]
  known county limit hcounty hlimit := by
    refine ⟨income ≤ limit || isCategorical ctx, by simp [isCategorical_iff], ?_⟩
    rw [incomeCondition_of_county hcounty, hlimit]
    rfl
  failed county failure hcounty hfailed := by
    refine ⟨isCategorical ctx, isCategorical_iff, ?_⟩
    rw [incomeCondition_of_county hcounty, hfailed]
    rfl
  unasked hcounty := by
    refine ⟨isCategorical ctx, isCategorical_iff, ?_⟩
    rw [incomeCondition_of_none hcounty]
    rfl

end Weatherization

namespace CityHousing

/-- The answer for a share of the area median income. -/
def limitAt (ctx : Context) (dataset : Dataset) (percent : UInt8) : LimitAnswer :=
  ctx.limits.get (.ami ⟨dataset, "MA", "Middlesex", 2025, percent, ctx.household.size⟩)

end CityHousing

open CityHousing

namespace MiddleIncomeRental

variable {ctx : Context} {r : ProgramResult}

/-- The other conditions before the one for the income. -/
def recorded (h : Household) (income : Condition) : Conditions :=
  [checkFor (!h.hasBenefit "ma_middle_income_rental")
      (.mustNotHaveBenefit "Middle-Income Rental"),
    checkFor (h.county == some "Cambridge") .location,
    checkFor (h.assets ≤ .whole 100000) (.assets (.whole 100000)), income]

/-- The failure that is shown: the one for the lower limit before the one for the median. -/
inductive Fails (ctx : Context) (failure : LimitError) : Prop
  | floor (h : limitAt ctx .mtsp 80 = .error failure)
  | median {floor : Decimal} (hfloor : limitAt ctx .mtsp 80 = .ok floor)
    (h : limitAt ctx .mtsp 100 = .error failure)

/-- Both limits are known. -/
structure Known (ctx : Context) (floor median : Decimal) : Prop where
  eighty : limitAt ctx .mtsp 80 = .ok floor
  full : limitAt ctx .mtsp 100 = .ok median

/-- Both limits are known, and the income and its ceiling are worked out. -/
structure Bounds (ctx : Context) (floor median income ceiling : Decimal) : Prop
    extends Known ctx floor median where
  yearly : ctx.household.grossIncome .yearly [.all] = .ok income
  multiple : median.mul (.tenths 12) = .ok ceiling

/-- What is found out about a household. -/
structure Screens (ctx : Context) (r : ProgramResult) : Prop where
  eligible_iff : r.eligible = true ↔
    "ma_middle_income_rental" ∉ ctx.household.currentBenefits.keys ∧
    ctx.household.county = some "Cambridge" ∧ ctx.household.assets ≤ .whole 100000 ∧
    ∃ floor median income ceiling, Bounds ctx floor median income ceiling ∧
      floor ≤ income ∧ income ≤ ceiling
  known : ∀ floor median, Known ctx floor median →
    ∃ income ceiling, Bounds ctx floor median income ceiling ∧ r.conditions =
      recorded ctx.household
        (checkFor (floor ≤ income && income ≤ ceiling) (.incomeRange income floor ceiling))
  failed : ∀ failure, Fails ctx failure → r.conditions =
    recorded ctx.household (checkFor false (.incomeLimitUnknown (some failure)))
  /-- No digits of the ceiling are lost where it can be written. -/
  exact : ∀ floor median income ceiling, Bounds ctx floor median income ceiling →
    Representable (median.value * (12 / 10)) → ceiling.value = median.value * (12 / 10)

/-- Where amounts overflow: in the income or the ceiling, and only with both limits at hand. -/
def Overflows (ctx : Context) (e : Overflow) : Prop :=
  ∃ floor median, Known ctx floor median ∧
    (ctx.household.grossIncome .yearly [.all] = .error e ∨ ∃ income,
      ctx.household.grossIncome .yearly [.all] = .ok income ∧ median.mul (.tenths 12) = .error e)

lemma householdConditions_eq (ctx : Context) :
    calculator.householdConditions ctx [] =
      (incomeCondition ctx).map (recorded ctx.household) := by
  cases h : incomeCondition ctx <;> simp [calculator, h] <;> rfl

lemma incomeCondition_of_fails {failure : LimitError} (h : Fails ctx failure) :
    incomeCondition ctx = .ok (checkFor false (.incomeLimitUnknown (some failure))) := by
  cases h with
  | floor h =>
    have hfloor : ctx.limits.get (floorQuery ctx.household) = .error failure := h
    simp only [incomeCondition, hfloor]
  | @median floor hfloor h =>
    have hfloor : ctx.limits.get (floorQuery ctx.household) = .ok floor := hfloor
    have hmedian : ctx.limits.get (medianQuery ctx.household) = .error failure := h
    simp only [incomeCondition, hfloor, hmedian]

lemma incomeCondition_of_known {floor median : Decimal} (h : Known ctx floor median) :
    incomeCondition ctx = do
      let income ← ctx.household.grossIncome .yearly [.all]
      let ceiling ← median.mul (.tenths 12)
      return checkFor (floor ≤ income && income ≤ ceiling) (.incomeRange income floor ceiling) := by
  have hfloor : ctx.limits.get (floorQuery ctx.household) = .ok floor := h.eighty
  have hmedian : ctx.limits.get (medianQuery ctx.household) = .ok median := h.full
  simp only [incomeCondition, hfloor, hmedian]
  rfl

lemma fails_or_known (ctx : Context) :
    (∃ failure, Fails ctx failure) ∨ ∃ floor median, Known ctx floor median := by
  cases hfloor : limitAt ctx .mtsp 80 with
  | error failure => exact .inl ⟨failure, .floor hfloor⟩
  | ok floor =>
    cases hmedian : limitAt ctx .mtsp 100 with
    | error failure => exact .inl ⟨failure, .median hfloor hmedian⟩
    | ok median => exact .inr ⟨floor, median, hfloor, hmedian⟩

lemma Fails.not_known {failure : LimitError} {floor median : Decimal} (h : Fails ctx failure)
    (hknown : Known ctx floor median) : False := by
  cases h with
  | floor h => cases h.symm.trans hknown.eighty
  | median _ h => cases h.symm.trans hknown.full

lemma incomeCondition_eq_ok {x : Condition} (h : incomeCondition ctx = .ok x) :
    (∃ failure, Fails ctx failure ∧ x = checkFor false (.incomeLimitUnknown (some failure))) ∨
      ∃ floor median income ceiling, Bounds ctx floor median income ceiling ∧
        x = checkFor (floor ≤ income && income ≤ ceiling) (.incomeRange income floor ceiling) := by
  rcases fails_or_known ctx with ⟨failure, hfails⟩ | ⟨floor, median, hknown⟩
  · rw [incomeCondition_of_fails hfails] at h
    exact .inl ⟨failure, hfails, (Except.ok.inj h).symm⟩
  · rw [incomeCondition_of_known hknown] at h
    obtain ⟨income, hincome, h⟩ := bind_eq_ok.mp h
    obtain ⟨ceiling, hceiling, h⟩ := bind_eq_ok.mp h
    exact .inr ⟨floor, median, income, ceiling, ⟨hknown, hincome, hceiling⟩, (pure_eq_ok.mp h).symm⟩

lemma incomeCondition_eq_error {e : Overflow} :
    incomeCondition ctx = .error e ↔ Overflows ctx e := by
  constructor
  · intro h
    rcases fails_or_known ctx with ⟨failure, hfails⟩ | ⟨floor, median, hknown⟩
    · rw [incomeCondition_of_fails hfails] at h
      cases h
    · rw [incomeCondition_of_known hknown] at h
      refine ⟨floor, median, hknown, ?_⟩
      rcases bind_eq_error.mp h with hincome | ⟨income, hincome, h⟩
      · exact .inl hincome
      · rcases bind_eq_error.mp h with hceiling | ⟨_, _, h⟩
        · exact .inr ⟨income, hincome, hceiling⟩
        · cases h
  · rintro ⟨floor, median, hknown, hincome | ⟨income, hincome, hceiling⟩⟩
    · rw [incomeCondition_of_known hknown, hincome]
      rfl
    · rw [incomeCondition_of_known hknown, hincome, ok_bind, hceiling]
      rfl

lemma Bounds.incomeCondition {floor median income ceiling : Decimal}
    (h : Bounds ctx floor median income ceiling) : incomeCondition ctx =
      .ok (checkFor (floor ≤ income && income ≤ ceiling) (.incomeRange income floor ceiling)) := by
  rw [incomeCondition_of_known h.toKnown, h.yearly, ok_bind, h.multiple]
  rfl

lemma passed_of_incomeCondition {x : Condition} (h : incomeCondition ctx = .ok x) :
    x.passed = true ↔ ∃ floor median income ceiling, Bounds ctx floor median income ceiling ∧
      floor ≤ income ∧ income ≤ ceiling := by
  constructor
  · intro hpassed
    rcases incomeCondition_eq_ok h with ⟨_, _, rfl⟩ | ⟨floor, median, income, ceiling, hbounds, rfl⟩
    · cases hpassed
    · refine ⟨floor, median, income, ceiling, hbounds, ?_⟩
      simpa [checkFor] using hpassed
  · rintro ⟨floor, median, income, ceiling, hbounds, hbetween⟩
    obtain rfl := Except.ok.inj (hbounds.incomeCondition.symm.trans h)
    simpa [checkFor] using hbetween

lemma screens {x : Condition} (amount : Decimal) (h : incomeCondition ctx = .ok x) :
    Screens ctx (Calculator.resultOf ctx amount (recorded ctx.household x)) where
  eligible_iff := by
    rw [← passed_of_incomeCondition h, ← Household.hasBenefit_iff]
    simp [Calculator.resultOf, recorded, checkFor]
  known floor median hknown := by
    rcases incomeCondition_eq_ok h with
      ⟨_, hfails, _⟩ | ⟨floor', median', income, ceiling, hbounds, rfl⟩
    · exact (hfails.not_known hknown).elim
    · cases hbounds.eighty.symm.trans hknown.eighty
      cases hbounds.full.symm.trans hknown.full
      exact ⟨income, ceiling, hbounds, rfl⟩
  failed failure hfails := by
    obtain rfl := Except.ok.inj ((incomeCondition_of_fails hfails).symm.trans h)
    rfl
  exact floor median income ceiling hbounds hexact := by
    have hmultiple : (Decimal.tenths 12).value = 12 / 10 := value_tenths 12
    rw [← hmultiple] at hexact ⊢
    obtain ⟨product, hproduct, hvalue⟩ := computes_mul hexact
    rw [← hvalue, Except.ok.inj (hbounds.multiple.symm.trans hproduct)]

end MiddleIncomeRental

namespace RentalAssistance

variable {ctx : Context} {r : ProgramResult}

/-- The other condition before the one for the income. -/
def recorded (h : Household) (income : Condition) : Conditions :=
  [checkFor (h.county == some "Cambridge") .location, income]

/-- What is found out about a household. -/
structure Screens (ctx : Context) (r : ProgramResult) : Prop where
  eligible_iff : r.eligible = true ↔ ctx.household.county = some "Cambridge" ∧
    ∃ limit income, limitAt ctx .section8 50 = .ok limit ∧
      ctx.household.grossIncome .yearly [.all] = .ok income ∧ income ≤ limit
  known : ∀ limit income, limitAt ctx .section8 50 = .ok limit →
    ctx.household.grossIncome .yearly [.all] = .ok income →
    r.conditions = recorded ctx.household (checkFor (income ≤ limit) (.income income limit))
  failed : ∀ failure, limitAt ctx .section8 50 = .error failure → r.conditions =
    recorded ctx.household (checkFor false (.incomeLimitUnknown (some failure)))

/-- Where amounts overflow, which only happens with the limit at hand. -/
def Overflows (ctx : Context) (e : Overflow) : Prop :=
  (∃ limit, limitAt ctx .section8 50 = .ok limit) ∧
    ctx.household.grossIncome .yearly [.all] = .error e

lemma householdConditions_eq (ctx : Context) :
    calculator.householdConditions ctx [] = (incomeCondition ctx).map (recorded ctx.household) := by
  cases h : incomeCondition ctx <;> simp [calculator, h] <;> rfl

lemma incomeCondition_of_known {limit : Decimal} (h : limitAt ctx .section8 50 = .ok limit) :
    incomeCondition ctx = (ctx.household.grossIncome .yearly [.all]).map fun income =>
      checkFor (income ≤ limit) (.income income limit) := by
  have hlimit : ctx.limits.get (limitQuery ctx.household) = .ok limit := h
  simp only [incomeCondition, hlimit]
  rfl

lemma incomeCondition_of_failed {failure : LimitError}
    (h : limitAt ctx .section8 50 = .error failure) :
    incomeCondition ctx = .ok (checkFor false (.incomeLimitUnknown (some failure))) := by
  have hlimit : ctx.limits.get (limitQuery ctx.household) = .error failure := h
  simp only [incomeCondition, hlimit]

lemma incomeCondition_eq_error {e : Overflow} :
    incomeCondition ctx = .error e ↔ Overflows ctx e := by
  unfold Overflows
  cases hlimit : limitAt ctx .section8 50 with
  | error failure => simp [incomeCondition_of_failed hlimit]
  | ok limit =>
    rw [incomeCondition_of_known hlimit]
    cases ctx.household.grossIncome .yearly [.all] <;> simp [Except.map]

lemma passed_of_incomeCondition {x : Condition} (h : incomeCondition ctx = .ok x) :
    x.passed = true ↔ ∃ limit income, limitAt ctx .section8 50 = .ok limit ∧
      ctx.household.grossIncome .yearly [.all] = .ok income ∧ income ≤ limit := by
  cases hlimit : limitAt ctx .section8 50 with
  | error failure =>
    rw [incomeCondition_of_failed hlimit] at h
    obtain rfl := Except.ok.inj h
    simp [checkFor]
  | ok limit =>
    rw [incomeCondition_of_known hlimit] at h
    cases hincome : ctx.household.grossIncome .yearly [.all] with
    | error e => rw [hincome] at h; cases h
    | ok income =>
      rw [hincome] at h
      obtain rfl := Except.ok.inj h
      simp [checkFor]

lemma screens {x : Condition} (amount : Decimal) (h : incomeCondition ctx = .ok x) :
    Screens ctx (Calculator.resultOf ctx amount (recorded ctx.household x)) where
  eligible_iff := by
    rw [← passed_of_incomeCondition h]
    simp [Calculator.resultOf, recorded, checkFor]
  known limit income hlimit hincome := by
    rw [incomeCondition_of_known hlimit, hincome] at h
    obtain rfl := Except.ok.inj h
    rfl
  failed failure hfailed := by
    rw [incomeCondition_of_failed hfailed] at h
    obtain rfl := Except.ok.inj h
    rfl

end RentalAssistance

/-- The program under a code gives a result as described, unless amounts overflow as described. -/
def Registry.Gives (code : String) (ctx : Context) (screens : ProgramResult → Prop)
    (overflows : Overflow → Prop) : Prop :=
  ∃ c, calculator? code = some c ∧ (∀ r, c.calculate ctx = .ok r → screens r) ∧
    ∀ e, c.calculate ctx = .error e ↔ overflows e

/-- A condition, once it is worked out, gives a result. -/
lemma Registry.gives_of_map {code : String} {c : Calculator} {ctx : Context} {amount : Decimal}
    {α : Type} {x : Except Overflow α} {recorded : α → Conditions}
    {screens : ProgramResult → Prop} {overflows : Overflow → Prop}
    (hcode : calculator? code = some c) (hscoped : c.memberScoped = false) (hvars : c.vars = none)
    (hamount : c.householdValue ctx = .ok amount)
    (hconditions : c.householdConditions ctx [] = x.map recorded)
    (hscreens : ∀ a, x = .ok a → screens (Calculator.resultOf ctx amount (recorded a)))
    (hoverflows : ∀ e, x = .error e ↔ overflows e) : Registry.Gives code ctx screens overflows := by
  have hcalculate := Calculator.calculate_eq_map hscoped hvars hamount
  rw [hconditions] at hcalculate
  refine ⟨c, hcode, fun r hr => ?_, fun e => ?_⟩
  · rw [hcalculate] at hr
    cases hx : x with
    | error e => rw [hx] at hr; cases hr
    | ok a =>
      rw [hx] at hr
      obtain rfl := Except.ok.inj hr
      exact hscreens a hx
  · rw [hcalculate, ← hoverflows]
    cases x <;> simp [Except.map]

/-- A failed lookup is shown with the income and changes nothing else. -/
theorem failed_lookups_are_contained (ctx : Context) :
    Registry.Gives "co_weatherization_assistance" ctx
      (fun r => ∃ income, ctx.household.grossIncome .yearly [.all] = .ok income ∧
        Weatherization.Screens ctx income r)
      (fun e => ctx.household.grossIncome .yearly [.all] = .error e) ∧
    Registry.Gives "ma_middle_income_rental" ctx (MiddleIncomeRental.Screens ctx)
      (MiddleIncomeRental.Overflows ctx) ∧
    Registry.Gives "ma_cha" ctx (RentalAssistance.Screens ctx)
      (RentalAssistance.Overflows ctx) := by
  refine ⟨?_, ?_, ?_⟩
  · exact Registry.gives_of_map rfl rfl rfl rfl (Weatherization.householdConditions_eq ctx)
      (fun income hincome => ⟨income, hincome, Weatherization.screens income _⟩) fun _ => Iff.rfl
  · exact Registry.gives_of_map rfl rfl rfl rfl (MiddleIncomeRental.householdConditions_eq ctx)
      (fun _ h => MiddleIncomeRental.screens _ h)
      fun _ => MiddleIncomeRental.incomeCondition_eq_error
  · exact Registry.gives_of_map rfl rfl rfl rfl (RentalAssistance.householdConditions_eq ctx)
      (fun _ h => RentalAssistance.screens _ h) fun _ => RentalAssistance.incomeCondition_eq_error

end BenefitScreen
