import BenefitScreen.Program.Registry
import Mathlib.Tactic.Common

/-!
The rules of a program look at other results and at income limits only where they declare it. Of the
program itself they see its code, its name and its poverty guidelines.
-/

namespace BenefitScreen

open Simulation

namespace Calculator

/-- Two contexts that differ at most in what the rules do not declare to look at. -/
structure SameView (c : Calculator) (a b : Context) : Prop where
  household : a.household = b.household
  code : a.program.code = b.program.code
  name : a.program.name = b.program.name
  table : a.program.table = b.program.table
  results : ∀ code ∈ c.references, a.results.get? code = b.results.get? code
  simulation : a.simulation = b.simulation
  limits : ∀ q ∈ c.limitQueries a.household, a.limits.get q = b.limits.get q
  asOf : a.asOf = b.asOf

/-- The rules say the same in two contexts. -/
structure SameRules (c : Calculator) (a b : Context) : Prop where
  householdConditions : c.householdConditions a = c.householdConditions b
  memberConditions : ∀ m, c.memberConditions a m = c.memberConditions b m
  householdValue : c.householdValue a = c.householdValue b
  memberValue : ∀ m, c.memberValue a m = c.memberValue b m

/-- The rules look at nothing that they do not declare. -/
def ReadsDeclared (c : Calculator) : Prop := ∀ a b, c.SameView a b → c.SameRules a b

lemma memberOutcomes_congr {c : Calculator} {a b : Context} (hh : a.household = b.household)
    (hr : c.SameRules a b) : c.memberOutcomes a = c.memberOutcomes b := by
  unfold memberOutcomes
  rw [hh, funext hr.memberConditions]

lemma valueMembers_congr {c : Calculator} {a b : Context} (hr : c.SameRules a b)
    (ms : List Member) (os : List MemberResult) (total : Decimal) :
    c.valueMembers a ms os total = c.valueMembers b ms os total := by
  induction ms generalizing os total with
  | nil => rfl
  | cons m ms ih =>
    cases os with
    | nil => rfl
    | cons o os =>
      unfold valueMembers
      rw [hr.memberValue m]
      simp only [ih]

/-- Rules that say the same about the same household and program give the same result. -/
lemma calculate_of_sameRules {c : Calculator} {a b : Context} (hr : c.SameRules a b)
    (hh : a.household = b.household) (hcode : a.program.code = b.program.code)
    (hname : a.program.name = b.program.name)
    (hsimulation : c.simulationConditions a = c.simulationConditions b) :
    c.calculate a = c.calculate b := by
  unfold calculate
  rw [hh, hcode, hname, hsimulation, hr.householdConditions, hr.householdValue,
    memberOutcomes_congr hh hr]
  simp only [valueMembers_congr hr]

theorem calculate_congr {c : Calculator} (hc : c.ReadsDeclared) {a b : Context}
    (hv : c.SameView a b) : c.calculate a = c.calculate b := by
  refine calculate_of_sameRules (hc a b hv) hv.household hv.code hv.name ?_
  rw [simulationConditions, simulationConditions, hv.simulation]

namespace SameView

variable {c : Calculator} {a b : Context}

lemma response? (h : c.SameView a b) : a.response? = b.response? := by
  rw [Context.response?, Context.response?, h.simulation]

lemma guideline (h : c.SameView a b) : a.guideline = b.guideline := by
  rw [Context.guideline, Context.guideline, h.table, h.household]

lemma eligibleFor (h : c.SameView a b) {code : String} (hc : code ∈ c.references) :
    a.eligibleFor code = b.eligibleFor code := by
  rw [Context.eligibleFor, Context.eligibleFor, h.results code hc]

end SameView

end Calculator

open Calculator

lemma Simulated.forMembers_readsDeclared (dependencies : List DataField) (vars : Variables)
    (amount : Response → Member → Decimal) :
    (forMembers dependencies vars amount).ReadsDeclared := fun _ _ v => {
  householdConditions := rfl
  memberConditions := fun _ => by simp only [forMembers, v.response?]
  householdValue := rfl
  memberValue := fun _ => by simp only [forMembers, v.response?] }

lemma Simulated.forHousehold_readsDeclared (dependencies : List DataField) (inputs : List Input)
    (output : Output) : (forHousehold dependencies inputs output).ReadsDeclared := fun _ _ v => {
  householdConditions := by simp only [forHousehold, totalOf, v.response?]
  memberConditions := fun _ => rfl
  householdValue := by simp only [forHousehold, totalOf, v.response?]
  memberValue := fun _ => rfl }

lemma WorkersWithDisabilities.readsDeclared : calculator.ReadsDeclared := fun _ _ v => {
  householdConditions := rfl
  memberConditions := fun _ => by simp only [calculator, v.response?]
  householdValue := rfl
  memberValue := fun _ => rfl }

lemma MedicareSavings.readsDeclared : calculator.ReadsDeclared := fun _ _ v => {
  householdConditions := rfl
  memberConditions := fun _ => funext fun _ => by
    simp only [calculator, memberConditions, v.household, v.guideline]
  householdValue := rfl
  memberValue := fun _ => rfl }

lemma AllKids.readsDeclared : calculator.ReadsDeclared := fun _ _ v => {
  householdConditions := by simp only [calculator, v.household, v.table]
  memberConditions := fun _ => rfl
  householdValue := rfl
  memberValue := fun _ => rfl }

lemma FamilyCare.readsDeclared : calculator.ReadsDeclared := fun a b v => {
  householdConditions := by
    have hm : a.eligibleFor "medicaid" = b.eligibleFor "medicaid" :=
      v.eligibleFor List.mem_cons_self
    simp only [calculator, v.household, v.table, hm]
  memberConditions := fun _ => by simp only [calculator, v.household]
  householdValue := rfl
  memberValue := fun _ => rfl }

lemma MomsAndBabies.readsDeclared : calculator.ReadsDeclared := fun a b v => {
  householdConditions := by
    have hf : a.eligibleFor "il_family_care" = b.eligibleFor "il_family_care" :=
      v.eligibleFor List.mem_cons_self
    simp only [calculator, v.household, v.table, v.asOf, hf]
  memberConditions := fun _ => by simp only [calculator, v.household, v.asOf]
  householdValue := rfl
  memberValue := fun _ => by simp only [calculator, v.asOf] }

lemma NurseFamilyPartnership.readsDeclared : calculator.ReadsDeclared := fun _ _ v => {
  householdConditions := by simp only [calculator, v.household]
  memberConditions := fun _ => by simp only [calculator, v.household, v.table]
  householdValue := rfl
  memberValue := fun _ => rfl }

lemma ChildCare.readsDeclared : calculator.ReadsDeclared := fun _ _ v => {
  householdConditions := by simp only [calculator, v.household, v.table]
  memberConditions := fun _ => rfl
  householdValue := by simp only [calculator, v.household, v.table]
  memberValue := fun _ => by simp only [calculator, v.household, v.asOf] }

lemma HeatingAssistance.readsDeclared : calculator.ReadsDeclared := fun _ _ v => {
  householdConditions := funext fun _ => by
    simp only [calculator, householdConditions, v.household, v.table]
  memberConditions := fun _ => rfl
  householdValue := by simp only [calculator, householdValue, v.household, v.guideline]
  memberValue := fun _ => rfl }

lemma Weatherization.incomeCondition_congr {a b : Context} (v : calculator.SameView a b)
    (income : Decimal) : incomeCondition a income = incomeCondition b income := by
  have hs : a.eligibleFor "snap" = b.eligibleFor "snap" := v.eligibleFor List.mem_cons_self
  have hc : isCategorical a = isCategorical b := by
    rw [isCategorical, isCategorical, hs, v.household]
  have hl : (query? a.household).map a.limits.get = (query? b.household).map b.limits.get := by
    rw [← v.household]
    cases hq : query? a.household with
    | none => rfl
    | some q => exact congrArg some (v.limits q (by simp [calculator, hq]))
  simp only [incomeCondition, hc, hl]

lemma Weatherization.readsDeclared : calculator.ReadsDeclared := fun _ _ v => {
  householdConditions := by
    simp only [calculator, v.household, incomeCondition_congr v]
  memberConditions := fun _ => rfl
  householdValue := rfl
  memberValue := fun _ => rfl }

lemma MiddleIncomeRental.readsDeclared : calculator.ReadsDeclared := fun a b v => {
  householdConditions := by
    have hf := v.limits (floorQuery a.household) (by simp [calculator])
    have hm := v.limits (medianQuery a.household) (by simp [calculator])
    have hi : incomeCondition a = incomeCondition b := by
      simp only [incomeCondition, ← v.household, hf, hm]
    simp only [calculator, v.household, hi]
  memberConditions := fun _ => rfl
  householdValue := rfl
  memberValue := fun _ => rfl }

lemma RentalAssistance.readsDeclared : calculator.ReadsDeclared := fun a b v => {
  householdConditions := by
    have hl := v.limits (limitQuery a.household) (by simp [calculator])
    have hi : incomeCondition a = incomeCondition b := by
      simp only [incomeCondition, ← v.household, hl]
    simp only [calculator, v.household, hi]
  memberConditions := fun _ => rfl
  householdValue := rfl
  memberValue := fun _ => rfl }

/-- No registered program looks at anything that it does not declare. -/
theorem Registry.readsDeclared {e : String × Calculator} (he : e ∈ calculators) :
    e.2.ReadsDeclared := by
  cases e, he using calculators_cases with
  | medicaid => exact Simulated.forMembers_readsDeclared _ _ _
  | wic => exact Simulated.forMembers_readsDeclared _ _ _
  | snap => exact Simulated.forHousehold_readsDeclared _ _ _
  | aca => exact Simulated.forHousehold_readsDeclared _ _ _
  | medicareSavings => exact MedicareSavings.readsDeclared
  | allKids => exact AllKids.readsDeclared
  | familyCare => exact FamilyCare.readsDeclared
  | momsAndBabies => exact MomsAndBabies.readsDeclared
  | childCare => exact ChildCare.readsDeclared
  | workers => exact WorkersWithDisabilities.readsDeclared
  | nurse => exact NurseFamilyPartnership.readsDeclared
  | weatherization => exact Weatherization.readsDeclared
  | heating => exact HeatingAssistance.readsDeclared
  | middleIncome => exact MiddleIncomeRental.readsDeclared
  | rental => exact RentalAssistance.readsDeclared

end BenefitScreen
