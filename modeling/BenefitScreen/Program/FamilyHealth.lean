import BenefitScreen.Program.Calculator

/-!
Health programs for families: All Kids, FamilyCare, Moms & Babies and the Nurse-Family Partnership.
-/

namespace BenefitScreen

/-- Relationships of those who may care for the head's children. -/
def caretakers : List Relationship :=
  [.headOfHousehold, .spouse, .domesticPartner, .parent, .fosterParent]

def Member.isCaretaker (m : Member) : Bool := caretakers.contains m.relationship

namespace AllKids

def income : PovertyCheck := .atMost (.hundredths 318)

def maxAge : UInt32 := 18

/-- Coverage that rules the program out. -/
def excludedCoverage : List InsuranceType := [.medicaid, .chp]

def calculator : Calculator where
  dependencies := [.age, .insurance, .pregnant, .householdSize, .incomeAmount, .incomeFrequency]
  householdConditions ctx cs := do
    let (_, cs) ← income.checkHousehold ctx.household ctx.program.table cs
    return cs
  memberScoped := true
  memberConditions _ m cs := .ok (cs ++ [
    checkFor (m.isAtMost maxAge) (.child 0 maxAge),
    check (!m.insurance.containsAny excludedCoverage)])
  memberAmount := monthly 284

end AllKids

namespace FamilyCare

def income : PovertyCheck := .atMost (.hundredths 138)

def hasChild (h : Household) : Bool := 0 < h.childCount 0 18 Relationship.childLike

def calculator : Calculator where
  dependencies :=
    [.age, .relationship, .pregnant, .householdSize, .incomeAmount, .incomeFrequency]
  references := ["medicaid"]
  householdConditions ctx cs := do
    let h := ctx.household
    let gross ← h.grossIncome .yearly [.all]
    let cs := cs ++ [checkFor (ctx.eligibleFor "medicaid") (.mustHaveBenefit "Medicaid")]
    let (_, cs) ← income.checkIncome ctx.program.table h.size gross cs
    return cs
  memberScoped := true
  memberConditions ctx m cs :=
    .ok (cs ++ [check (m.pregnant || (hasChild ctx.household && m.isCaretaker))])
  memberAmount := monthly 474

end FamilyCare

namespace MomsAndBabies

def income : PovertyCheck := .atMost (.hundredths 213)

def minParentAge : UInt32 := 19

/-- Children up to this many months count as newborn. -/
def newbornMonths : UInt32 := 2

def isNewborn (asOf : Date) (m : Member) : Bool := (m.ageInMonths asOf).any (· ≤ newbornMonths)

def hasNewborn (h : Household) (asOf : Date) : Bool := h.members.any (isNewborn asOf)

/-- A grown caretaker who is pregnant or has a newborn. -/
def isEligibleParent (newborn : Bool) (m : Member) : Bool :=
  m.isAtLeast minParentAge && m.isCaretaker && (m.pregnant || newborn)

def hasEligibleParent (h : Household) (asOf : Date) : Bool :=
  h.members.any (isEligibleParent (hasNewborn h asOf))

/-- An eligible parent, or a newborn of one. -/
def isCovered (h : Household) (asOf : Date) (m : Member) : Bool :=
  isEligibleParent (hasNewborn h asOf) m || (isNewborn asOf m && hasEligibleParent h asOf)

def calculator : Calculator where
  dependencies := [.age, .relationship, .pregnant, .insurance, .householdSize, .incomeAmount,
    .incomeFrequency]
  references := ["il_family_care"]
  householdConditions ctx cs := do
    let cs := cs ++ [
      checkFor (!ctx.eligibleFor "il_family_care") (.mustNotHaveBenefit "FamilyCare")]
    let (_, cs) ← income.checkHousehold ctx.household ctx.program.table cs
    return cs ++ [checkFor (hasEligibleParent ctx.household ctx.asOf) .isPregnant]
  memberScoped := true
  memberConditions ctx m cs := .ok (cs ++ [
    check (isCovered ctx.household ctx.asOf m),
    check (!m.insurance.contains .medicaid)])
  memberValue ctx m := .ok (if isNewborn ctx.asOf m then monthly 284 else monthly 474)

end MomsAndBabies

namespace NurseFamilyPartnership

def maxPercent : Decimal := .whole 2

def familySize : UInt64 := 2

/-- Coverage that stands in for the income check. -/
def categoricalCoverage : List InsuranceType := [.medicaid, .emergencyMedicaid]

def calculator : Calculator where
  dependencies := [.relationship, .pregnant, .insurance, .incomeAmount, .incomeFrequency,
    .currentBenefits]
  householdConditions ctx cs :=
    .ok (cs ++ [check (!ctx.household.members.any fun m => m.relationship == .child)])
  memberScoped := true
  memberConditions ctx m cs := do
    let income := (← m.grossIncome .yearly [.all] []).trunc
    let maxIncome ← PovertyCheck.limit ctx.program.table familySize maxPercent
    let qualifies := income ≤ maxIncome || m.insurance.containsAny categoricalCoverage ||
      ctx.household.hasBenefit "wic"
    return cs ++ [
      checkFor m.pregnant .isPregnant,
      checkFor qualifies (.income income maxIncome)]
  householdAmount := .whole 2400

end NurseFamilyPartnership

end BenefitScreen
