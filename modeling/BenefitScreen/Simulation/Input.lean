import BenefitScreen.DataField
import BenefitScreen.Simulation.Value
import BenefitScreen.TaxUnit
import BenefitScreen.Text.Blank
import BenefitScreen.Text.Upper

/-!
The variables that are computed from a household and sent to a simulation.

`value` computes a variable for a member, or without one for a variable of a whole unit; `reads`
lists the household fields that it looks at.
-/

namespace BenefitScreen

/-- The name of a county in a simulation: capitals, no dots, underscores for blanks and hyphens,
with the word for county and the state at the end. -/
def countyCode (county state : String) : String :=
  let letters := (Text.trimChars county.toList).flatMap Text.upperChar
  let code := (letters.filter (· != '.')).map fun c => if c = ' ' || c = '-' then '_' else c
  let suffix := "_COUNTY".toList
  let code := if suffix.isSuffixOf code then code else code ++ suffix
  String.ofList code ++ "_" ++ Text.upper state

namespace Simulation

/-- A variable to send. -/
inductive Input where
  | age
  | isPregnant
  | currentPregnancies
  | isFullTimeCollegeStudent
  | isTaxUnitHead
  | isTaxUnitSpouse
  | isTaxUnitDependent
  | isDisabled
  | isBlind
  | ssi
  | ssiReported
  | socialSecurityDisability
  | socialSecurity
  | ssiCountableResources
  | ssiEarnedIncome
  | ssiUnearnedIncome
  | employmentIncome
  | selfEmploymentIncome
  | rentalIncome
  | taxablePensionIncome
  | capitalGains
  | miscellaneousIncome
  | unemploymentCompensation
  | workersCompensation
  | alimonyIncome
  | childSupportReceived
  | tanfReported
  | taxableIraDistributions
  | medicalOutOfPocketExpenses
  | rent
  | realEstateTaxes
  | stateCode
  | countyStr
  | zipCode
  | snapEarnedIncome
  | snapUnearnedIncome
  | snapAssets
  | spmUnitCashAssets
  | housingCost
  | hasHeatingCoolingExpense
  | heatingCoolingExpense
  | hasPhoneExpense
  | phoneExpense
  | childcareExpenses
  | mortgagePayments
  deriving DecidableEq, Repr

namespace Input

def field : Input → String
  | age => "age"
  | isPregnant => "is_pregnant"
  | currentPregnancies => "current_pregnancies"
  | isFullTimeCollegeStudent => "is_full_time_college_student"
  | isTaxUnitHead => "is_tax_unit_head"
  | isTaxUnitSpouse => "is_tax_unit_spouse"
  | isTaxUnitDependent => "is_tax_unit_dependent"
  | isDisabled => "is_disabled"
  | isBlind => "is_blind"
  | ssi => "ssi"
  | ssiReported => "ssi_reported"
  | socialSecurityDisability => "social_security_disability"
  | socialSecurity => "social_security"
  | ssiCountableResources => "ssi_countable_resources"
  | ssiEarnedIncome => "ssi_earned_income"
  | ssiUnearnedIncome => "ssi_unearned_income"
  | employmentIncome => "employment_income"
  | selfEmploymentIncome => "self_employment_income"
  | rentalIncome => "rental_income"
  | taxablePensionIncome => "taxable_pension_income"
  | capitalGains => "capital_gains"
  | miscellaneousIncome => "miscellaneous_income"
  | unemploymentCompensation => "unemployment_compensation"
  | workersCompensation => "workers_compensation"
  | alimonyIncome => "alimony_income"
  | childSupportReceived => "child_support_received"
  | tanfReported => "tanf_reported"
  | taxableIraDistributions => "taxable_ira_distributions"
  | medicalOutOfPocketExpenses => "medical_out_of_pocket_expenses"
  | rent => "rent"
  | realEstateTaxes => "real_estate_taxes"
  | stateCode => "state_code"
  | countyStr => "county_str"
  | zipCode => "zip_code"
  | snapEarnedIncome => "snap_earned_income"
  | snapUnearnedIncome => "snap_unearned_income"
  | snapAssets => "snap_assets"
  | spmUnitCashAssets => "spm_unit_cash_assets"
  | housingCost => "housing_cost"
  | hasHeatingCoolingExpense => "has_heating_cooling_expense"
  | heatingCoolingExpense => "heating_cooling_expense"
  | hasPhoneExpense => "has_phone_expense"
  | phoneExpense => "phone_expense"
  | childcareExpenses => "childcare_expenses"
  | mortgagePayments => "mortgage_payments"

instance : Enumerated Input where
  all := [
    age, isPregnant, currentPregnancies, isFullTimeCollegeStudent, isTaxUnitHead,
    isTaxUnitSpouse, isTaxUnitDependent, isDisabled, isBlind, ssi, ssiReported,
    socialSecurityDisability, socialSecurity, ssiCountableResources, ssiEarnedIncome,
    ssiUnearnedIncome, employmentIncome, selfEmploymentIncome, rentalIncome,
    taxablePensionIncome, capitalGains, miscellaneousIncome, unemploymentCompensation,
    workersCompensation, alimonyIncome, childSupportReceived, tanfReported,
    taxableIraDistributions, medicalOutOfPocketExpenses, rent, realEstateTaxes, stateCode,
    countyStr, zipCode, snapEarnedIncome, snapUnearnedIncome, snapAssets, spmUnitCashAssets,
    housingCost, hasHeatingCoolingExpense, heatingCoolingExpense, hasPhoneExpense, phoneExpense,
    childcareExpenses, mortgagePayments]
  name := field
  mem_all := by intro a; cases a <;> decide
  names_nodup := by decide

def scope : Input → Scope
  | stateCode => .household
  | countyStr => .household
  | zipCode => .household
  | snapEarnedIncome => .spmUnit
  | snapUnearnedIncome => .spmUnit
  | snapAssets => .spmUnit
  | spmUnitCashAssets => .spmUnit
  | housingCost => .spmUnit
  | hasHeatingCoolingExpense => .spmUnit
  | heatingCoolingExpense => .spmUnit
  | hasPhoneExpense => .spmUnit
  | phoneExpense => .spmUnit
  | childcareExpenses => .spmUnit
  | mortgagePayments => .spmUnit
  | _ => .person

def incomeFields : List DataField := [.incomeType, .incomeAmount, .incomeFrequency]

def expenseFields : List DataField := [.expenseType, .expenseAmount]

def taxRoleFields : List DataField := [.relationship, .age, .student, .disabled, .incomeAmount]

/-- The household fields that the value of the variable is declared to depend on. -/
def reads : Input → List DataField
  | age => [.age]
  | isPregnant => [.pregnant]
  | currentPregnancies => [.pregnant]
  | isFullTimeCollegeStudent => [.student]
  | isTaxUnitHead => taxRoleFields
  | isTaxUnitSpouse => taxRoleFields
  | isTaxUnitDependent => taxRoleFields
  | isDisabled => [.disabled, .visuallyImpaired]
  | isBlind => [.visuallyImpaired]
  | ssiCountableResources => [.householdAssets, .relationship]
  | snapAssets => [.householdAssets]
  | spmUnitCashAssets => [.householdAssets]
  | medicalOutOfPocketExpenses => expenseFields ++ [.age, .disabled]
  | rent => expenseFields ++ [.relationship]
  | realEstateTaxes => expenseFields ++ [.relationship]
  | stateCode => []
  | countyStr => [.county]
  | zipCode => [.zipcode]
  | housingCost => expenseFields
  | hasHeatingCoolingExpense => expenseFields
  | heatingCoolingExpense => expenseFields
  | hasPhoneExpense => expenseFields
  | phoneExpense => expenseFields
  | childcareExpenses => expenseFields
  | mortgagePayments => expenseFields
  | _ => incomeFields

/-- The member's yearly income of some types, nothing without a member. -/
def incomeOf (member : Option Member) (types : List IncomeType) : Except Overflow Value :=
  match member with
  | some m => do return .number (← m.yearlyIncomeOf types)
  | none => .ok (.number .zero)

/-- The member's yearly gross income under a filter, nothing without a member. -/
def grossIncomeOf (member : Option Member) (filter : IncomeFilter) : Except Overflow Value :=
  match member with
  | some m => do return .number (← m.grossIncome .yearly [filter] [])
  | none => .ok (.number .zero)

def expenseOf (h : Household) (types : List ExpenseType) : Except Overflow Value :=
  return .number (← h.totalExpenses .yearly types)

/-- An amount of the household, placed on the head. -/
def onHead (member : Option Member) (amount : Decimal) : Value :=
  .number (if member.any Member.isHead then amount else .zero)

/-- Old or disabled enough to share the medical expenses. -/
def sharesMedical (m : Member) : Bool := m.isAtLeast 60 || m.hasDisability

/-- The member's equal share of the medical expenses. -/
def medicalShare (h : Household) (member : Option Member) : Except Overflow Value :=
  let sharers := h.members.countP sharesMedical
  if 0 < sharers && member.any sharesMedical then
    return .number ((← h.totalExpenses .yearly [.medical]).divNat sharers)
  else .ok (.number .zero)

def textOrDeferred : Option String → Value
  | some s => .text s
  | none => .deferred

/-- The value of a variable for a member, or without one for a unit of the whole household. -/
def value (h : Household) (taxUnits : TaxUnits) (member : Option Member) :
    Input → Except Overflow Value
  | age => .ok (match member.bind Member.age with
    | some years => .number (.whole years.toUInt64)
    | none => .deferred)
  | isPregnant => .ok (.flag (member.any Member.pregnant))
  | currentPregnancies =>
    .ok (.number (if member.any Member.pregnant then .one else .zero))
  | isFullTimeCollegeStudent => .ok (.flag (member.any Member.student))
  | isTaxUnitHead => .ok (.flag (member.any fun m => taxUnits.hasRole m.id .head))
  | isTaxUnitSpouse => .ok (.flag (member.any fun m => taxUnits.hasRole m.id .spouse))
  | isTaxUnitDependent => .ok (.flag (member.any fun m => taxUnits.hasRole m.id .dependent))
  | isDisabled => .ok (.flag (member.any Member.hasDisability))
  | isBlind => .ok (.flag (member.any Member.visuallyImpaired))
  | ssi => do
    match ← incomeOf member [.supplementalSecurity] with
    | .number n => return if n.isZero then .deferred else .number n
    | v => return v
  | ssiReported => incomeOf member [.supplementalSecurity]
  | socialSecurityDisability => incomeOf member [.disabilityInsurance]
  | socialSecurity => incomeOf member [.retirementBenefit, .survivorBenefit, .dependentBenefit]
  | ssiCountableResources => .ok (onHead member h.assets)
  | ssiEarnedIncome => grossIncomeOf member .earned
  | ssiUnearnedIncome => grossIncomeOf member .unearned
  | employmentIncome => incomeOf member [.wages]
  | selfEmploymentIncome => incomeOf member [.selfEmployment]
  | rentalIncome => incomeOf member [.rental]
  | taxablePensionIncome => incomeOf member [.pension, .veteran]
  | capitalGains => incomeOf member [.investment]
  | miscellaneousIncome => incomeOf member [.gifts]
  | unemploymentCompensation => incomeOf member [.unemployment]
  | workersCompensation => incomeOf member [.workersComp]
  | alimonyIncome => incomeOf member [.alimony]
  | childSupportReceived => incomeOf member [.childSupport]
  | tanfReported => incomeOf member [.cashAssistance]
  | taxableIraDistributions => incomeOf member [.deferredComp]
  | medicalOutOfPocketExpenses => medicalShare h member
  | rent => do return onHead member (← h.totalExpenses .yearly [.rent])
  | realEstateTaxes => do return onHead member (← h.totalExpenses .yearly [.propertyTax])
  | stateCode => .ok (.text (Text.upper h.state))
  | countyStr => .ok (textOrDeferred (h.county.map fun county => countyCode county h.state))
  | zipCode => .ok (textOrDeferred h.zipcode)
  | snapEarnedIncome => do return .number (← h.grossIncome .yearly [.earned])
  | snapUnearnedIncome => do return .number (← h.grossIncome .yearly [.unearned])
  | snapAssets => .ok (.number h.assets)
  | spmUnitCashAssets => .ok (.number h.assets)
  | housingCost => expenseOf h [.rent, .mortgage]
  | hasHeatingCoolingExpense => .ok (.flag (h.hasExpense [.heating, .cooling]))
  | heatingCoolingExpense => expenseOf h [.heating, .cooling]
  | hasPhoneExpense => .ok (.flag (h.hasExpense [.telephone]))
  | phoneExpense => expenseOf h [.telephone]
  | childcareExpenses => expenseOf h [.childCare]
  | mortgagePayments => expenseOf h [.mortgage]

end Input

end Simulation

end BenefitScreen
