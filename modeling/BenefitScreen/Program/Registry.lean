import BenefitScreen.Program.ChildCare
import BenefitScreen.Program.Energy
import BenefitScreen.Program.FamilyHealth
import BenefitScreen.Program.Housing
import BenefitScreen.Program.MedicareSavings
import BenefitScreen.Program.Simulated

/-!
All programs by their codes.
-/

namespace BenefitScreen.Registry

def calculators : List (String × Calculator) := [
  ("medicaid", Medicaid.calculator),
  ("wic", Wic.calculator),
  ("snap", Snap.calculator),
  ("aca", PremiumTaxCredit.calculator),
  ("medicare_savings", MedicareSavings.calculator),
  ("il_all_kids", AllKids.calculator),
  ("il_family_care", FamilyCare.calculator),
  ("il_moms_and_babies", MomsAndBabies.calculator),
  ("il_ccap", ChildCare.calculator),
  ("il_hbwd", WorkersWithDisabilities.calculator),
  ("co_nurse_family_partnership", NurseFamilyPartnership.calculator),
  ("co_weatherization_assistance", Weatherization.calculator),
  ("nc_lieap", HeatingAssistance.calculator),
  ("ma_middle_income_rental", MiddleIncomeRental.calculator),
  ("ma_cha", RentalAssistance.calculator)]

/-- One case for each program. -/
@[elab_as_elim]
theorem calculators_cases {motive : ∀ e : String × Calculator, e ∈ calculators → Prop}
    (medicaid : ∀ he, motive ("medicaid", Medicaid.calculator) he)
    (wic : ∀ he, motive ("wic", Wic.calculator) he)
    (snap : ∀ he, motive ("snap", Snap.calculator) he)
    (aca : ∀ he, motive ("aca", PremiumTaxCredit.calculator) he)
    (medicareSavings : ∀ he, motive ("medicare_savings", MedicareSavings.calculator) he)
    (allKids : ∀ he, motive ("il_all_kids", AllKids.calculator) he)
    (familyCare : ∀ he, motive ("il_family_care", FamilyCare.calculator) he)
    (momsAndBabies : ∀ he, motive ("il_moms_and_babies", MomsAndBabies.calculator) he)
    (childCare : ∀ he, motive ("il_ccap", ChildCare.calculator) he)
    (workers : ∀ he, motive ("il_hbwd", WorkersWithDisabilities.calculator) he)
    (nurse : ∀ he, motive ("co_nurse_family_partnership", NurseFamilyPartnership.calculator) he)
    (weatherization : ∀ he, motive ("co_weatherization_assistance", Weatherization.calculator) he)
    (heating : ∀ he, motive ("nc_lieap", HeatingAssistance.calculator) he)
    (middleIncome : ∀ he, motive ("ma_middle_income_rental", MiddleIncomeRental.calculator) he)
    (rental : ∀ he, motive ("ma_cha", RentalAssistance.calculator) he)
    (e : String × Calculator) (he : e ∈ calculators) : motive e he := by
  have hcase := he
  simp only [calculators, List.mem_cons, List.not_mem_nil, or_false] at hcase
  rcases hcase with rfl | rfl | rfl | rfl | rfl | rfl | rfl | rfl | rfl | rfl | rfl | rfl | rfl |
    rfl | rfl
  all_goals solve_by_elim

def codes : List String := calculators.map (·.1)

def calculator? (code : String) : Option Calculator :=
  (calculators.find? fun c => c.1 == code).map (·.2)

/-- The rules under a code, or the defect of asking for them. -/
def calculator (code : String) : Except EngineError Calculator :=
  match calculator? code with
  | some c => .ok c
  | none => .error (.unknownProgram code)

end BenefitScreen.Registry
