import BenefitScreen.Program.Calculator

/-!
Programs whose eligibility comes out of the simulation: Medicaid, WIC, SNAP, the premium tax credit
and health benefits for workers with disabilities.
-/

namespace BenefitScreen

open Simulation

namespace Simulated

def grossIncomeInputs : List Input :=
  [.employmentIncome, .selfEmploymentIncome, .rentalIncome, .taxablePensionIncome,
    .socialSecurity, .capitalGains, .miscellaneousIncome, .unemploymentCompensation,
    .alimonyIncome, .taxableIraDistributions]

def taxRoleInputs : List Input := [.isTaxUnitHead, .isTaxUnitSpouse, .isTaxUnitDependent]

/-- The yearly amount of a category, nothing for one that is not listed. -/
def categoryAmount (categories : List (String × Decimal)) (category : String) : Decimal :=
  ((categories.find? fun c => c.1 == category).map (·.2)).getD .zero

/-- The amount of the category that the simulation puts a member in, if it puts a positive amount
on the member. -/
def amountByCategory (categories : List (String × Decimal)) (amount category : Output)
    (r : Response) (m : Member) : Decimal :=
  if r.memberAmount amount m.id ≤ .zero then .zero
  else categoryAmount categories ((r.memberText? category m.id).getD "NONE")

/-- A program for members: whoever has a positive amount is eligible for it. -/
def forMembers (dependencies : List DataField) (vars : Variables)
    (amount : Response → Member → Decimal) : Calculator where
  dependencies
  vars := some vars
  householdConditions _ cs := .ok cs
  memberScoped := true
  memberConditions ctx m cs :=
    .ok (cs ++ [check ((ctx.response?.elim Decimal.zero fun r => amount r m) > .zero)])
  memberValue ctx m := .ok (ctx.response?.elim .zero fun r => amount r m)

/-- The total of an output, nothing without a response. -/
def totalOf (output : Output) (ctx : Context) : Except Overflow Decimal :=
  match ctx.response? with
  | some r => r.total output
  | none => .ok .zero

/-- A program for the household: it is eligible for a positive total. -/
def forHousehold (dependencies : List DataField) (inputs : List Input) (output : Output) :
    Calculator where
  dependencies
  vars := some ⟨inputs, [output]⟩
  householdConditions ctx cs := do return cs ++ [check ((← totalOf output ctx) > .zero)]
  householdValue := totalOf output

end Simulated

open Simulated

namespace Medicaid

def categories : List (String × Decimal) :=
  [("NONE", .zero), ("ADULT", monthly 474), ("INFANT", .zero), ("YOUNG_CHILD", .zero),
    ("OLDER_CHILD", .zero), ("PREGNANT", monthly 474), ("YOUNG_ADULT", .zero),
    ("PARENT", monthly 474), ("SSI_RECIPIENT", monthly 474), ("AGED", monthly 474),
    ("DISABLED", monthly 474)]

/-- Members of this age or with a disability are eligible as such or not at all. -/
def agedOrDisabled : AgeRule := ⟨65, 0⟩

def amount (r : Response) (m : Member) : Decimal :=
  if agedOrDisabled.passes m then
    if r.memberFlag .optionalSeniorOrDisabledMedicaid m.id then
      categoryAmount categories (if m.hasDisability then "DISABLED" else "AGED")
    else .zero
  else amountByCategory categories .medicaid .medicaidCategory r m

def vars : Variables where
  inputs := [.age, .isPregnant, .currentPregnancies, .isDisabled, .isBlind, .ssi, .ssiReported,
    .ssiCountableResources, .ssiEarnedIncome, .ssiUnearnedIncome, .socialSecurityDisability,
    .medicalOutOfPocketExpenses, .stateCode] ++ grossIncomeInputs ++ taxRoleInputs
  outputs := [.medicaid, .medicaidCategory, .optionalSeniorOrDisabledMedicaid]

def calculator : Calculator := forMembers [.age, .disabled, .pregnant] vars amount

end Medicaid

namespace Wic

def categories : List (String × Decimal) :=
  [("NONE", .zero), ("INFANT", monthly 130), ("CHILD", monthly 79), ("PREGNANT", monthly 104),
    ("POSTPARTUM", monthly 88), ("BREASTFEEDING", monthly 121)]

def vars : Variables where
  inputs := [.age, .isPregnant, .currentPregnancies, .stateCode] ++ grossIncomeInputs ++
    taxRoleInputs
  outputs := [.wic, .wicCategory]

def calculator : Calculator :=
  forMembers [.age, .pregnant, .householdSize] vars
    (amountByCategory categories .wic .wicCategory)

end Wic

def Snap.calculator : Calculator :=
  forHousehold [.householdSize, .incomeAmount, .expenseAmount]
    [.age, .isDisabled, .medicalOutOfPocketExpenses, .realEstateTaxes, .childSupportReceived,
      .snapEarnedIncome, .snapUnearnedIncome, .snapAssets, .housingCost,
      .hasHeatingCoolingExpense, .heatingCoolingExpense, .hasPhoneExpense, .phoneExpense,
      .childcareExpenses, .mortgagePayments, .stateCode, .countyStr] .snap

def PremiumTaxCredit.calculator : Calculator :=
  forHousehold [.age, .insurance, .county]
    ([.age, .isPregnant, .stateCode, .countyStr, .zipCode] ++ grossIncomeInputs ++ taxRoleInputs)
    .acaPtc

def WorkersWithDisabilities.calculator : Calculator where
  dependencies := [.disabled, .insurance]
  vars := some {
    inputs := [.age, .isDisabled, .isBlind, .socialSecurityDisability, .employmentIncome,
      .selfEmploymentIncome, .spmUnitCashAssets, .stateCode]
    outputs := [.ilHbwdEligible] }
  householdConditions _ cs := .ok cs
  memberScoped := true
  memberConditions ctx m cs := .ok (cs ++
    [checkFor (ctx.response?.any fun r => r.memberFlag .ilHbwdEligible m.id) .hasDisability])
  memberAmount := .one

end BenefitScreen
