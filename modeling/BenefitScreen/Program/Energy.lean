import BenefitScreen.Program.Calculator

/-!
Help with energy costs: heating assistance and weatherization.
-/

namespace BenefitScreen

namespace HeatingAssistance

/-- Expenses of which one has to be paid. -/
def qualifyingExpenses : List ExpenseType := [.rent, .mortgage, .heating]

/-- Expenses that are taken off the income. -/
def deductedExpenses : List ExpenseType := [.childCare, .childSupport]

def earnedShare : Decimal := .tenths 8

/-- What is taken off the income of a household with a senior or disabled member. -/
def medicalDeduction : Decimal := monthly 85

def seniorOrDisabled : AgeRule := ⟨60, 0⟩

/-- The countable income of a year, at least zero. -/
def countableIncome (h : Household) : Except Overflow Decimal := do
  let earned ← h.grossIncome .yearly [.earned]
  let unearned ← h.grossIncome .yearly [.unearned]
  let expenses ← h.totalExpenses .yearly deductedExpenses
  let medical := if seniorOrDisabled.any h then medicalDeduction else .zero
  let income ← (← (← (← earned.mul earnedShare).add unearned).sub expenses).sub medical
  return income.max .zero

def maxPercent (h : Household) : Decimal :=
  if seniorOrDisabled.any h then .tenths 15 else .tenths 13

/-- Yearly amounts at or below half the guideline, and at or below the guideline. -/
def amounts (size : UInt64) : Decimal × Decimal :=
  if size < 4 then (.whole 400, .whole 300) else (.whole 500, .whole 400)

def householdConditions (ctx : Context) (cs : Conditions) : Except Overflow Conditions := do
  let h := ctx.household
  let income ← countableIncome h
  let maxIncome ← PovertyCheck.limit ctx.program.table h.size (maxPercent h)
  return cs ++ [
    checkFor (h.hasExpense qualifyingExpenses) .housingCost,
    checkFor (income ≤ maxIncome) (.income income maxIncome)]

def householdValue (ctx : Context) : Except Overflow Decimal := do
  let income ← countableIncome ctx.household
  let guideline ← ctx.guideline
  let (lowest, low) := amounts ctx.household.size
  if income ≤ guideline.divNat 2 then return lowest
  else if income ≤ guideline then return low
  else return .zero

def calculator : Calculator where
  dependencies := [.incomeFrequency, .incomeAmount, .householdSize, .age, .disabled, .expenseType,
    .expenseAmount]
  householdConditions
  householdValue

end HeatingAssistance

namespace Weatherization

/-- Benefits that stand in for the income check. -/
def categoricalBenefits : List String := ["andcs", "ssi", "snap", "leap", "tanf"]

/-- The limit that the household needs, if its county is known. -/
def query? (h : Household) : Option LimitQuery :=
  h.county.map fun county => .county "CO" county h.size

/-- Whether another benefit stands in for the income check. -/
def isCategorical (ctx : Context) : Bool :=
  categoricalBenefits.any ctx.household.hasBenefit || ctx.eligibleFor "snap"

/-- The check of a yearly income against the county's limit. -/
def incomeCondition (ctx : Context) (income : Decimal) : Condition :=
  let categorical := isCategorical ctx
  match (query? ctx.household).map ctx.limits.get with
  | some (.ok maxIncome) =>
    checkFor (income ≤ maxIncome || categorical) (.income income maxIncome)
  | some (.error failure) => checkFor categorical (.incomeLimitUnknown (some failure))
  | none => checkFor categorical (.incomeLimitUnknown none)

def calculator : Calculator where
  dependencies := [.county, .householdSize, .incomeAmount, .incomeFrequency, .expenseType,
    .currentBenefits]
  references := ["snap"]
  limitQueries h := (query? h).toList
  householdConditions ctx cs := do
    let income ← ctx.household.grossIncome .yearly [.all]
    return cs ++ [
      incomeCondition ctx income,
      checkFor (ctx.household.hasExpense [.rent, .mortgage]) .housingCost]
  householdAmount := .whole 350

end Weatherization

end BenefitScreen
