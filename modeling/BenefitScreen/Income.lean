import BenefitScreen.Decimal.Arithmetic
import BenefitScreen.Enumerated

/-!
Income and expenses, each reported at a frequency of its own and read as yearly amounts.
-/

namespace BenefitScreen

/-- How often a reported amount recurs. -/
inductive Frequency where
  | weekly
  | biweekly
  | semimonthly
  | monthly
  | yearly
  /-- Paid by the hour; the hours are those of a week. -/
  | hourly
  deriving DecidableEq, Repr

namespace Frequency

def name : Frequency → String
  | weekly => "weekly"
  | biweekly => "biweekly"
  | semimonthly => "semimonthly"
  | monthly => "monthly"
  | yearly => "yearly"
  | hourly => "hourly"

instance : Enumerated Frequency where
  all := [weekly, biweekly, semimonthly, monthly, yearly, hourly]
  name := name
  mem_all := by intro a; cases a <;> decide
  names_nodup := by decide

/-- Occurrences in a year; hourly amounts recur by the week. -/
def perYear : Frequency → Decimal
  | weekly => .whole 52
  | biweekly => .whole 26
  | semimonthly => .whole 24
  | monthly => .whole 12
  | yearly => .whole 1
  | hourly => .whole 52

end Frequency

/-- The window that a total is expressed in. -/
inductive Timeframe where
  | monthly
  | yearly
  deriving DecidableEq, Repr

namespace Timeframe

def name : Timeframe → String
  | monthly => "monthly"
  | yearly => "yearly"

instance : Enumerated Timeframe where
  all := [monthly, yearly]
  name := name
  mem_all := by intro a; cases a <;> decide
  names_nodup := by decide

def ofYearly : Timeframe → Decimal → Decimal
  | monthly, amount => amount.divNat 12
  | yearly, amount => amount

end Timeframe

/-- Where money comes from. -/
inductive IncomeType where
  | wages
  | selfEmployment
  | rental
  | pension
  | veteran
  | disabilityInsurance
  | survivorBenefit
  | retirementBenefit
  | dependentBenefit
  | supplementalSecurity
  | investment
  | gifts
  | unemployment
  | workersComp
  | alimony
  | deferredComp
  | childSupport
  | cashAssistance
  | other
  deriving DecidableEq, Repr

namespace IncomeType

def name : IncomeType → String
  | wages => "wages"
  | selfEmployment => "selfEmployment"
  | rental => "rental"
  | pension => "pension"
  | veteran => "veteran"
  | disabilityInsurance => "sSDisability"
  | survivorBenefit => "sSSurvivor"
  | retirementBenefit => "sSRetirement"
  | dependentBenefit => "sSDependent"
  | supplementalSecurity => "sSI"
  | investment => "investment"
  | gifts => "gifts"
  | unemployment => "unemployment"
  | workersComp => "workersComp"
  | alimony => "alimony"
  | deferredComp => "deferredComp"
  | childSupport => "childSupport"
  | cashAssistance => "cashAssistance"
  | other => "other"

instance : Enumerated IncomeType where
  all := [wages, selfEmployment, rental, pension, veteran, disabilityInsurance, survivorBenefit,
    retirementBenefit, dependentBenefit, supplementalSecurity, investment, gifts, unemployment,
    workersComp, alimony, deferredComp, childSupport, cashAssistance, other]
  name := name
  mem_all := by intro a; cases a <;> decide
  names_nodup := by decide

def isEarned : IncomeType → Bool
  | wages => true
  | selfEmployment => true
  | _ => false

/-- Social Security benefits other than Supplemental Security Income. -/
def socialSecurity : List IncomeType :=
  [disabilityInsurance, survivorBenefit, retirementBenefit, dependentBenefit]

end IncomeType

/-- A choice of income streams. -/
inductive IncomeFilter where
  | all
  | earned
  | unearned
  | only (type : IncomeType)
  deriving DecidableEq, Repr

def IncomeFilter.admits : IncomeFilter → IncomeType → Bool
  | all, _ => true
  | earned, t => t.isEarned
  | unearned, t => !t.isEarned
  | only u, t => u == t

/-- One reported income. -/
structure IncomeStream where
  type : IncomeType
  amount : Decimal
  frequency : Frequency
  /-- Hours a week, for hourly amounts. -/
  hoursWorked : Option Decimal
  deriving DecidableEq

/-- The amount over a year; an hourly amount without hours counts as nothing. -/
def IncomeStream.yearly (s : IncomeStream) : Except Overflow Decimal :=
  match s.frequency with
  | .hourly => do (← s.amount.mul (s.hoursWorked.getD .zero)).mul (.whole 52)
  | f => s.amount.mul f.perYear

inductive ExpenseType where
  | rent
  | mortgage
  | heating
  | cooling
  | medical
  | childCare
  | childSupport
  | propertyTax
  | subsidizedRent
  | telephone
  | hoaFees
  | homeownersInsurance
  | other
  deriving DecidableEq, Repr

namespace ExpenseType

def name : ExpenseType → String
  | rent => "rent"
  | mortgage => "mortgage"
  | heating => "heating"
  | cooling => "cooling"
  | medical => "medical"
  | childCare => "childCare"
  | childSupport => "childSupport"
  | propertyTax => "propertyTax"
  | subsidizedRent => "subsidizedRent"
  | telephone => "telephone"
  | hoaFees => "hoaFees"
  | homeownersInsurance => "homeownersInsurance"
  | other => "other"

instance : Enumerated ExpenseType where
  all := [rent, mortgage, heating, cooling, medical, childCare, childSupport, propertyTax,
    subsidizedRent, telephone, hoaFees, homeownersInsurance, other]
  name := name
  mem_all := by intro a; cases a <;> decide
  names_nodup := by decide

end ExpenseType

/-- One reported expense. -/
structure Expense where
  type : ExpenseType
  amount : Decimal
  frequency : Frequency
  deriving DecidableEq

def Expense.yearly (e : Expense) : Except Overflow Decimal :=
  e.amount.mul e.frequency.perYear

end BenefitScreen
