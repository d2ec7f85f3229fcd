import BenefitScreen.IncomeLimit.County
import BenefitScreen.Program.Calculator

/-!
Child care assistance: a subsidy for each child by county and age, less the family's co-payment.
-/

namespace BenefitScreen.ChildCare

def income : PovertyCheck := .atMost (.hundredths 225)

/-- The oldest age of a child, and that of a child with a disability. -/
def maxAge : UInt32 := 12

def disabledMaxAge : UInt32 := 18

def children : List Relationship :=
  [.child, .stepChild, .fosterChild, .grandChild, .sisterOrBrother, .stepSisterOrBrother]

/-- The monthly co-payment at or below the guideline. -/
def minimumCopay : Decimal := .one

/-- The monthly co-payment above the guideline, as a share of monthly income. -/
def copayRate : Decimal := .hundredths 7

/-- Yearly subsidies for children under two, under three, under six and older. -/
structure Rates where
  underTwo : Decimal
  underThree : Decimal
  underSix : Decimal
  schoolAge : Decimal

def metroCounties : List String :=
  ["Cook", "DeKalb", "DuPage", "Kane", "Kendall", "Lake", "McHenry"]

def metroRates : Rates := ⟨monthly 1474, monthly 1188, monthly 1012, monthly 506⟩

def cityCounties : List String :=
  ["Boone", "Champaign", "Kankakee", "Madison", "McLean", "Monroe", "Ogle", "Peoria",
    "Rock Island", "Sangamon", "St. Clair", "Tazewell", "Whiteside", "Will", "Winnebago",
    "Woodford"]

def cityRates : Rates := ⟨monthly 1408, monthly 1122, monthly 946, monthly 484⟩

def ruralRates : Rates := ⟨monthly 1254, monthly 1012, monthly 880, monthly 440⟩

/-- Whether a county is in a list, whatever the case of its letters and with or without the word
at its end. -/
def isListed (counties : List String) (county : String) : Bool :=
  counties.any fun name => Text.sameLetters (normalizeCounty name) (normalizeCounty county)

def ratesFor (county : Option String) : Rates :=
  match county with
  | none => ruralRates
  | some county =>
    if isListed metroCounties county then metroRates
    else if isListed cityCounties county then cityRates
    else ruralRates

def Rates.at (r : Rates) (months : UInt32) : Decimal :=
  if months < 24 then r.underTwo
  else if months < 36 then r.underThree
  else if months < 72 then r.underSix
  else r.schoolAge

def monthlyCopay (h : Household) (t : PovertyTable) : Except Overflow Decimal := do
  let income ← h.grossIncome .monthly [.all]
  let guideline := (← t.limit h.size).divNat 12
  if income ≤ guideline then return minimumCopay
  else return (← income.mul copayRate).roundTo 2

def worksOrStudies (h : Household) : Except Overflow Bool :=
  match h.head? with
  | none => .ok false
  | some head =>
    if head.student then .ok true
    else do return (← head.grossIncome .yearly [.earned] []) > .zero

/-- The oldest age at which a member counts as a child. -/
def ageLimit (m : Member) : UInt32 := if m.hasDisability then disabledMaxAge else maxAge

def calculator : Calculator where
  dependencies := [.age, .relationship, .disabled, .student, .county, .householdSize, .incomeType,
    .incomeAmount, .incomeFrequency, .currentBenefits]
  householdConditions ctx cs := do
    let h := ctx.household
    let gross ← h.grossIncome .yearly [.all]
    let cs := cs ++ [checkFor (!h.hasBenefit "il_ccap") (.mustNotHaveBenefit "CCAP")]
    let (_, cs) ← income.checkIncome ctx.program.table h.size gross cs
    return cs ++ [check (← worksOrStudies h)]
  memberScoped := true
  memberConditions _ m cs := .ok (cs ++ [
    check (children.contains m.relationship),
    checkFor (m.isAtMost (ageLimit m)) (.child 0 (ageLimit m))])
  householdValue ctx := do
    return -(← (← monthlyCopay ctx.household ctx.program.table).mul (.whole 12))
  memberValue ctx m :=
    .ok ((ratesFor ctx.household.county).at ((m.ageInMonths ctx.asOf).getD 0))

end BenefitScreen.ChildCare
