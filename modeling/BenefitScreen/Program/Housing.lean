import BenefitScreen.Program.Calculator

/-!
Rental programs of one city, with limits by the area median income of the county around it. Where
screening is by city, the household's county names the city.
-/

namespace BenefitScreen

namespace CityHousing

def city : String := "Cambridge"

/-- The limit for the household at a share of the area median income. -/
def query (h : Household) (dataset : Dataset) (percent : UInt8) : LimitQuery :=
  .ami ⟨dataset, "MA", "Middlesex", 2025, percent, h.size⟩

def inCity (h : Household) : Bool := h.county == some city

end CityHousing

open CityHousing

namespace MiddleIncomeRental

def assetLimit : Decimal := .whole 100000

/-- The ceiling as a multiple of the median. -/
def maxMultiple : Decimal := .tenths 12

def floorQuery (h : Household) : LimitQuery := query h .mtsp 80

def medianQuery (h : Household) : LimitQuery := query h .mtsp 100

/-- The check of the income between the floor and the ceiling. -/
def incomeCondition (ctx : Context) : Except Overflow Condition :=
  let h := ctx.household
  match ctx.limits.get (floorQuery h), ctx.limits.get (medianQuery h) with
  | .ok floor, .ok median => do
    let income ← h.grossIncome .yearly [.all]
    let ceiling ← median.mul maxMultiple
    return checkFor (floor ≤ income && income ≤ ceiling) (.incomeRange income floor ceiling)
  | .error failure, _ => .ok (checkFor false (.incomeLimitUnknown (some failure)))
  | .ok _, .error failure => .ok (checkFor false (.incomeLimitUnknown (some failure)))

def calculator : Calculator where
  dependencies := [.county, .incomeAmount, .incomeFrequency, .householdSize, .householdAssets,
    .currentBenefits]
  limitQueries h := [floorQuery h, medianQuery h]
  householdConditions ctx cs := do
    let h := ctx.household
    return cs ++ [
      checkFor (!h.hasBenefit "ma_middle_income_rental")
        (.mustNotHaveBenefit "Middle-Income Rental"),
      checkFor (inCity h) .location,
      checkFor (h.assets ≤ assetLimit) (.assets assetLimit),
      ← incomeCondition ctx]
  householdAmount := .one

end MiddleIncomeRental

namespace RentalAssistance

def limitQuery (h : Household) : LimitQuery := query h .section8 50

def incomeCondition (ctx : Context) : Except Overflow Condition :=
  match ctx.limits.get (limitQuery ctx.household) with
  | .ok maxIncome => do
    let income ← ctx.household.grossIncome .yearly [.all]
    return checkFor (income ≤ maxIncome) (.income income maxIncome)
  | .error failure => .ok (checkFor false (.incomeLimitUnknown (some failure)))

def calculator : Calculator where
  dependencies := [.county, .incomeAmount, .incomeFrequency, .householdSize]
  limitQueries h := [limitQuery h]
  householdConditions ctx cs := do
    return cs ++ [checkFor (inCity ctx.household) .location, ← incomeCondition ctx]
  householdAmount := .one

end RentalAssistance

end BenefitScreen
