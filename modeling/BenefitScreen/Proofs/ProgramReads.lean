import BenefitScreen.Proofs.DeclaredReads
import BenefitScreen.Proofs.FieldAgreement

/-!
# The household fields that a program reads

The rules of every program without a simulation say the same about a household and about what it
shows through the fields that the program declares, together with the fields that it reads without
declaring them: these are the kinds of income for help with Medicare premiums and for heating
assistance, and the reported size for the former.
-/

namespace BenefitScreen

/-- The context with only the shown part of its household. -/
def Context.shown (fields : List DataField) (ctx : Context) : Context :=
  { ctx with household := ctx.household.shown fields }

namespace Context

variable (fields : List DataField) (ctx : Context)

@[simp] lemma household_shown : (ctx.shown fields).household = ctx.household.shown fields := rfl

@[simp] lemma program_shown : (ctx.shown fields).program = ctx.program := rfl

@[simp] lemma limits_shown : (ctx.shown fields).limits = ctx.limits := rfl

@[simp] lemma asOf_shown : (ctx.shown fields).asOf = ctx.asOf := rfl

@[simp] lemma eligibleFor_shown (code : String) :
    (ctx.shown fields).eligibleFor code = ctx.eligibleFor code := rfl

variable {fields}

lemma guideline_shown (hsize : .householdSize ∈ fields) :
    (ctx.shown fields).guideline = ctx.guideline := by
  rw [guideline, guideline, household_shown, program_shown, ctx.household.size_shown hsize]

end Context

namespace Calculator

/-- The rules say the same about what a household shows through the fields. -/
structure SeesOnly (c : Calculator) (fields : List DataField) : Prop where
  householdConditions : ∀ ctx, c.householdConditions (ctx.shown fields) = c.householdConditions ctx
  memberConditions : ∀ ctx m,
    c.memberConditions (ctx.shown fields) (m.shown fields) = c.memberConditions ctx m
  householdValue : ∀ ctx, c.householdValue (ctx.shown fields) = c.householdValue ctx
  memberValue : ∀ ctx m, c.memberValue (ctx.shown fields) (m.shown fields) = c.memberValue ctx m

variable {c : Calculator} {fields : List DataField}

lemma SeesOnly.memberOutcomes (hc : c.SeesOnly fields) (ctx : Context) :
    c.memberOutcomes (ctx.shown fields) = c.memberOutcomes ctx := by
  have hmembers : (ctx.shown fields).household.members =
      ctx.household.members.map (Member.shown fields) := rfl
  unfold Calculator.memberOutcomes
  rw [hmembers, List.mapM_map]
  simp only [Function.comp_def, hc.memberConditions, Member.id_shown]

lemma SeesOnly.valueMembers (hc : c.SeesOnly fields) (ctx : Context) (ms : List Member)
    (os : List MemberResult) (total : Decimal) :
    c.valueMembers (ctx.shown fields) (ms.map (Member.shown fields)) os total =
      c.valueMembers ctx ms os total := by
  induction ms generalizing os total with
  | nil => rfl
  | cons m ms ih =>
    cases os with
    | nil => rfl
    | cons o os =>
      rw [List.map_cons, Calculator.valueMembers, Calculator.valueMembers, hc.memberValue]
      simp only [ih]

theorem calculate_shown (hc : c.SeesOnly fields) (ctx : Context) :
    c.calculate (ctx.shown fields) = c.calculate ctx := by
  have hsimulation : c.simulationConditions (ctx.shown fields) = c.simulationConditions ctx := rfl
  unfold calculate
  rw [hsimulation, hc.householdConditions, hc.memberOutcomes, hc.householdValue]
  simp only [Context.household_shown, Context.program_shown, Household.members_shown,
    hc.valueMembers]

/-- Households that agree on what the rules see have the same result, an overflow included. -/
theorem calculate_of_agreeOn (hc : c.SeesOnly fields) (ctx : Context) {h : Household}
    (ha : Household.AgreeOn fields ctx.household h) :
    c.calculate { ctx with household := h } = c.calculate ctx := by
  have hshown : Context.shown fields { ctx with household := h } = ctx.shown fields := by
    rw [Context.shown, Context.shown, ha]
  rw [← calculate_shown hc, hshown, calculate_shown hc]

end Calculator

namespace Registry

/-- The fields that the rules of a program read without declaring them. -/
def undeclared : String → List DataField
  | "medicare_savings" => [.incomeType, .householdSize]
  | "nc_lieap" => [.incomeType]
  | _ => []

end Registry

open DataField

namespace MedicareSavings

variable {fields : List DataField}

lemma partner?_shown (hrelationship : .relationship ∈ fields) (h : Household) (m : Member) :
    partner? (h.shown fields) (m.shown fields) = (partner? h m).map (Member.shown fields) := by
  unfold partner?
  rw [m.isHead_shown hrelationship, m.isSpouse_shown hrelationship, h.head?_shown hrelationship,
    h.spouse?_shown hrelationship]
  by_cases hhead : m.isHead
  · rw [if_pos hhead, if_pos hhead]
  · rw [if_neg hhead, if_neg hhead]
    by_cases hspouse : m.isSpouse
    · rw [if_pos hspouse, if_pos hspouse]
    · rw [if_neg hspouse, if_neg hspouse, Option.map_none]

lemma addPerson_shown (htype : .incomeType ∈ fields) (hamount : .incomeAmount ∈ fields)
    (hfrequency : .incomeFrequency ∈ fields) (income : Income) (m : Member) :
    income.addPerson (m.shown fields) = income.addPerson m := by
  simp only [Income.addPerson, m.grossIncome_shown hamount hfrequency htype,
    m.yearlyIncomeOf_shown hamount hfrequency htype]

lemma combinedIncome_shown (htype : .incomeType ∈ fields) (hamount : .incomeAmount ∈ fields)
    (hfrequency : .incomeFrequency ∈ fields) (m : Member) (partner : Option Member) :
    combinedIncome (m.shown fields) (partner.map (Member.shown fields)) =
      combinedIncome m partner := by
  have hpersons : m.shown fields :: (partner.map (Member.shown fields)).toList =
      (m :: partner.toList).map (Member.shown fields) := by
    cases partner <;> rfl
  simp only [combinedIncome, hpersons, List.foldlM_map, addPerson_shown htype hamount hfrequency]

lemma seesOnly :
    calculator.SeesOnly (calculator.dependencies ++ Registry.undeclared "medicare_savings") where
  householdConditions _ := rfl
  memberConditions ctx m := by
    funext cs
    simp only [calculator, memberConditions]
    simp (disch := decide) only [Context.household_shown, Context.guideline_shown,
      partner?_shown, combinedIncome_shown, AgeRule.passes_shown, Member.insurance_shown,
      Household.assets_shown, Option.isSome_map]
  householdValue _ := rfl
  memberValue _ _ := rfl

end MedicareSavings

lemma PovertyCheck.checkHousehold_shown {fields : List DataField}
    (hsize : .householdSize ∈ fields) (hpregnant : .pregnant ∈ fields)
    (hamount : .incomeAmount ∈ fields) (hfrequency : .incomeFrequency ∈ fields)
    (maxPercent : Decimal) (h : Household) (t : PovertyTable) (cs : Conditions) :
    (atMost maxPercent).checkHousehold (h.shown fields) t cs =
      (atMost maxPercent).checkHousehold h t cs := by
  simp only [checkHousehold, atMost, h.grossIncome_all_shown hamount hfrequency,
    adjustedSize_shown hsize hpregnant]

lemma AllKids.seesOnly : calculator.SeesOnly calculator.dependencies where
  householdConditions ctx := by
    simp only [calculator, income]
    simp (disch := decide) only [Context.household_shown, Context.program_shown,
      PovertyCheck.checkHousehold_shown]
  memberConditions ctx m := by
    simp only [calculator]
    simp (disch := decide) only [Member.isAtMost_shown, Member.insurance_shown]
  householdValue _ := rfl
  memberValue _ _ := rfl

lemma Member.isCaretaker_shown {fields : List DataField} (h : .relationship ∈ fields)
    (m : Member) : (m.shown fields).isCaretaker = m.isCaretaker := by
  rw [isCaretaker, isCaretaker, m.relationship_shown h]

lemma FamilyCare.seesOnly : calculator.SeesOnly calculator.dependencies where
  householdConditions ctx := by
    simp only [calculator]
    simp (disch := decide) only [Context.household_shown, Context.program_shown,
      Context.eligibleFor_shown, Household.grossIncome_all_shown, Household.size_shown]
  memberConditions ctx m := by
    simp only [calculator, hasChild]
    simp (disch := decide) only [Context.household_shown, Household.childCount_shown,
      Member.pregnant_shown, Member.isCaretaker_shown]
  householdValue _ := rfl
  memberValue _ _ := rfl

namespace MomsAndBabies

variable {fields : List DataField}

lemma isNewborn_shown (hage : .age ∈ fields) (asOf : Date) (m : Member) :
    isNewborn asOf (m.shown fields) = isNewborn asOf m := by
  rw [isNewborn, isNewborn, m.ageInMonths_shown hage]

lemma isEligibleParent_shown (hage : .age ∈ fields) (hrelationship : .relationship ∈ fields)
    (hpregnant : .pregnant ∈ fields) (newborn : Bool) (m : Member) :
    isEligibleParent newborn (m.shown fields) = isEligibleParent newborn m := by
  rw [isEligibleParent, isEligibleParent, m.isAtLeast_shown hage,
    m.isCaretaker_shown hrelationship, m.pregnant_shown hpregnant]

lemma hasNewborn_shown (hage : .age ∈ fields) (h : Household) (asOf : Date) :
    hasNewborn (h.shown fields) asOf = hasNewborn h asOf :=
  h.any_shown (isNewborn_shown hage asOf)

lemma hasEligibleParent_shown (hage : .age ∈ fields) (hrelationship : .relationship ∈ fields)
    (hpregnant : .pregnant ∈ fields) (h : Household) (asOf : Date) :
    hasEligibleParent (h.shown fields) asOf = hasEligibleParent h asOf := by
  rw [hasEligibleParent, hasNewborn_shown hage]
  exact h.any_shown (isEligibleParent_shown hage hrelationship hpregnant _)

lemma seesOnly : calculator.SeesOnly calculator.dependencies where
  householdConditions ctx := by
    simp only [calculator, income]
    simp (disch := decide) only [Context.household_shown, Context.program_shown,
      Context.eligibleFor_shown, Context.asOf_shown, PovertyCheck.checkHousehold_shown,
      hasEligibleParent_shown]
  memberConditions ctx m := by
    simp only [calculator, isCovered]
    simp (disch := decide) only [Context.household_shown, Context.asOf_shown, hasNewborn_shown,
      isEligibleParent_shown, isNewborn_shown, hasEligibleParent_shown, Member.insurance_shown]
  householdValue _ := rfl
  memberValue ctx m := by
    simp only [calculator]
    simp (disch := decide) only [Context.asOf_shown, isNewborn_shown]

end MomsAndBabies

namespace ChildCare

variable {fields : List DataField}

lemma monthlyCopay_shown (hsize : .householdSize ∈ fields) (hamount : .incomeAmount ∈ fields)
    (hfrequency : .incomeFrequency ∈ fields) (h : Household) (t : PovertyTable) :
    monthlyCopay (h.shown fields) t = monthlyCopay h t := by
  simp only [monthlyCopay, h.grossIncome_all_shown hamount hfrequency, h.size_shown hsize]

lemma worksOrStudies_shown (hrelationship : .relationship ∈ fields)
    (hstudent : .student ∈ fields) (htype : .incomeType ∈ fields)
    (hamount : .incomeAmount ∈ fields) (hfrequency : .incomeFrequency ∈ fields) (h : Household) :
    worksOrStudies (h.shown fields) = worksOrStudies h := by
  unfold worksOrStudies
  rw [h.head?_shown hrelationship]
  cases h.head? with
  | none => rfl
  | some head =>
    simp only [Option.map_some, head.student_shown hstudent,
      head.grossIncome_shown hamount hfrequency htype]

lemma ageLimit_shown (hdisabled : .disabled ∈ fields) (m : Member) :
    ageLimit (m.shown fields) = ageLimit m := by
  rw [ageLimit, ageLimit, m.hasDisability_shown hdisabled]

lemma seesOnly : calculator.SeesOnly calculator.dependencies where
  householdConditions ctx := by
    simp only [calculator]
    simp (disch := decide) only [Context.household_shown, Context.program_shown,
      Household.grossIncome_all_shown, Household.hasBenefit_shown, Household.size_shown,
      worksOrStudies_shown]
  memberConditions ctx m := by
    simp only [calculator]
    simp (disch := decide) only [Member.relationship_shown, ageLimit_shown, Member.isAtMost_shown]
  householdValue ctx := by
    simp only [calculator]
    simp (disch := decide) only [Context.household_shown, Context.program_shown,
      monthlyCopay_shown]
  memberValue ctx m := by
    simp only [calculator]
    simp (disch := decide) only [Context.household_shown, Context.asOf_shown,
      Household.county_shown, Member.ageInMonths_shown]

end ChildCare

lemma NurseFamilyPartnership.seesOnly : calculator.SeesOnly calculator.dependencies where
  householdConditions ctx := by
    have hchild : ((ctx.shown calculator.dependencies).household.members.any fun m =>
        m.relationship == .child) = ctx.household.members.any fun m => m.relationship == .child :=
      ctx.household.any_shown fun m => by rw [m.relationship_shown (by decide)]
    rw [calculator] at hchild ⊢
    simp only [hchild]
  memberConditions ctx m := by
    simp only [calculator]
    simp (disch := decide) only [Context.household_shown, Context.program_shown,
      Member.grossIncome_all_shown, Member.insurance_shown, Member.pregnant_shown,
      Household.hasBenefit_shown]
  householdValue _ := rfl
  memberValue _ _ := rfl

namespace Weatherization

variable {fields : List DataField}

lemma incomeCondition_shown (hcounty : .county ∈ fields) (hsize : .householdSize ∈ fields)
    (hbenefits : .currentBenefits ∈ fields) (ctx : Context) (income : Decimal) :
    incomeCondition (ctx.shown fields) income = incomeCondition ctx income := by
  have hbenefit : (ctx.household.shown fields).hasBenefit = ctx.household.hasBenefit :=
    funext (ctx.household.hasBenefit_shown hbenefits)
  have hcategorical : isCategorical (ctx.shown fields) = isCategorical ctx := by
    rw [isCategorical, isCategorical, Context.household_shown, hbenefit, Context.eligibleFor_shown]
  have hquery : query? (ctx.household.shown fields) = query? ctx.household := by
    rw [query?, query?, ctx.household.county_shown hcounty, ctx.household.size_shown hsize]
  simp only [incomeCondition, hcategorical, Context.household_shown, Context.limits_shown, hquery]

lemma seesOnly : calculator.SeesOnly calculator.dependencies where
  householdConditions ctx := by
    simp only [calculator]
    simp (disch := decide) only [Context.household_shown, Household.grossIncome_all_shown,
      Household.hasExpense_shown, incomeCondition_shown]
  memberConditions _ _ := rfl
  householdValue _ := rfl
  memberValue _ _ := rfl

end Weatherization

namespace HeatingAssistance

variable {fields : List DataField}

lemma any_seniorOrDisabled_shown (hage : .age ∈ fields) (hdisabled : .disabled ∈ fields)
    (h : Household) : seniorOrDisabled.any (h.shown fields) = seniorOrDisabled.any h :=
  h.any_shown (seniorOrDisabled.passes_shown hage hdisabled)

lemma countableIncome_shown (hage : .age ∈ fields) (hdisabled : .disabled ∈ fields)
    (htype : .incomeType ∈ fields) (hamount : .incomeAmount ∈ fields)
    (hfrequency : .incomeFrequency ∈ fields) (hexpenseType : .expenseType ∈ fields)
    (hexpenseAmount : .expenseAmount ∈ fields) (h : Household) :
    countableIncome (h.shown fields) = countableIncome h := by
  simp only [countableIncome, h.grossIncome_shown hamount hfrequency htype,
    h.totalExpenses_shown hexpenseType hexpenseAmount, any_seniorOrDisabled_shown hage hdisabled]

lemma seesOnly :
    calculator.SeesOnly (calculator.dependencies ++ Registry.undeclared "nc_lieap") where
  householdConditions ctx := by
    funext cs
    simp only [calculator, householdConditions, maxPercent]
    simp (disch := decide) only [Context.household_shown, Context.program_shown,
      countableIncome_shown, any_seniorOrDisabled_shown, Household.size_shown,
      Household.hasExpense_shown]
  memberConditions _ _ := rfl
  householdValue ctx := by
    simp only [calculator, householdValue]
    simp (disch := decide) only [Context.household_shown, Context.guideline_shown,
      countableIncome_shown, Household.size_shown]
  memberValue _ _ := rfl

end HeatingAssistance

namespace CityHousing

variable {fields : List DataField}

lemma inCity_shown (hcounty : .county ∈ fields) (h : Household) :
    inCity (h.shown fields) = inCity h := by
  rw [inCity, inCity, h.county_shown hcounty]

lemma query_shown (hsize : .householdSize ∈ fields) (h : Household) (dataset : Dataset)
    (percent : UInt8) : query (h.shown fields) dataset percent = query h dataset percent := by
  rw [query, query, h.size_shown hsize]

end CityHousing

open CityHousing

lemma MiddleIncomeRental.seesOnly : calculator.SeesOnly calculator.dependencies where
  householdConditions ctx := by
    simp only [calculator, incomeCondition, floorQuery, medianQuery]
    simp (disch := decide) only [Context.household_shown, Context.limits_shown, query_shown,
      inCity_shown, Household.hasBenefit_shown, Household.assets_shown,
      Household.grossIncome_all_shown]
  memberConditions _ _ := rfl
  householdValue _ := rfl
  memberValue _ _ := rfl

lemma RentalAssistance.seesOnly : calculator.SeesOnly calculator.dependencies where
  householdConditions ctx := by
    simp only [calculator, incomeCondition, limitQuery]
    simp (disch := decide) only [Context.household_shown, Context.limits_shown, query_shown,
      inCity_shown, Household.grossIncome_all_shown]
  memberConditions _ _ := rfl
  householdValue _ := rfl
  memberValue _ _ := rfl

end BenefitScreen
