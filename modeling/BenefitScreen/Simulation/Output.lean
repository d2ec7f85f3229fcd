import BenefitScreen.Enumerated
import BenefitScreen.Simulation.Value

/-!
The variables that a simulation computes.
-/

namespace BenefitScreen.Simulation

/-- A variable to read back. -/
inductive Output where
  | medicaid
  | medicaidCategory
  | optionalSeniorOrDisabledMedicaid
  | wic
  | wicCategory
  | snap
  | acaPtc
  | ilHbwdEligible
  deriving DecidableEq, Repr

namespace Output

def field : Output → String
  | medicaid => "medicaid"
  | medicaidCategory => "medicaid_category"
  | optionalSeniorOrDisabledMedicaid => "is_optional_senior_or_disabled_for_medicaid"
  | wic => "wic"
  | wicCategory => "wic_category"
  | snap => "snap"
  | acaPtc => "aca_ptc"
  | ilHbwdEligible => "il_hbwd_eligible"

instance : Enumerated Output where
  all := [medicaid, medicaidCategory, optionalSeniorOrDisabledMedicaid, wic, wicCategory, snap,
    acaPtc, ilHbwdEligible]
  name := field
  mem_all := by intro a; cases a <;> decide
  names_nodup := by decide

def scope : Output → Scope
  | snap => .spmUnit
  | acaPtc => .taxUnit
  | _ => .person

end Output

end BenefitScreen.Simulation
