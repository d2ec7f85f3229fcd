import BenefitScreen.Configuration.Shipped
import BenefitScreen.Program.Registry
import BenefitScreen.Proofs.PovertyChecks
import BenefitScreen.Proofs.ProgramResult
import BenefitScreen.Proofs.TaxReturns

/-!
# Every condition is recorded

The rules of a program record as many conditions whatever they find: a check that fails, an income
limit that is not known or a county that is missing stands among the others and hides none of them.
Only a simulation that failed adds one condition of its own.
-/

namespace BenefitScreen

open Calculator Fallible Simulation

/-- If conditions come of the computation, they are those recorded before and `n` more. -/
def Adds (n : Nat) (before : Conditions) (x : Except Overflow Conditions) : Prop :=
  ∀ after, x = .ok after → ∃ own : Conditions, after = before ++ own ∧ own.length = n

namespace Adds

variable {α : Type} {n : Nat} {cs : Conditions}

lemma none (cs : Conditions) : Adds 0 cs (.ok cs) := by
  intro after h
  exact ⟨[], by rw [List.append_nil, Except.ok.inj h], rfl⟩

lemma ok (cs own : Conditions) : Adds own.length cs (.ok (cs ++ own)) := by
  intro after h
  exact ⟨own, (Except.ok.inj h).symm, rfl⟩

/-- Nothing that is computed before matters. -/
lemma bind {x : Except Overflow α} {f : α → Except Overflow Conditions}
    (h : ∀ a, Adds n cs (f a)) : Adds n cs (x >>= f) := by
  intro after hafter
  obtain ⟨a, -, hafter⟩ := bind_eq_ok.mp hafter
  exact h a after hafter

/-- One condition more, and then the rest. -/
lemma cons {x : Except Overflow Conditions} {first : Condition} (h : Adds n (cs ++ [first]) x) :
    Adds (n + 1) cs x := by
  intro after hafter
  obtain ⟨own, rfl, rfl⟩ := h after hafter
  exact ⟨first :: own, by rw [List.append_assoc, List.singleton_append], rfl⟩

section Checks

variable {c : PovertyCheck} {t : PovertyTable}
  {f : Bool × Conditions → Except Overflow Conditions}

lemma checkIncome {size : UInt64} {income : Decimal}
    (h : ∀ x : Condition, Adds n (cs ++ [x]) (f (x.passed, cs ++ [x]))) :
    Adds (n + 1) cs (c.checkIncome t size income cs >>= f) := by
  intro after hafter
  obtain ⟨⟨flag, cs'⟩, hchecked, hafter⟩ := bind_eq_ok.mp hafter
  obtain ⟨x, -, rfl, rfl⟩ := PovertyCheck.checkIncome_eq_ok.mp hchecked
  exact (h x).cons after hafter

lemma checkHousehold {household : Household}
    (h : ∀ x : Condition, Adds n (cs ++ [x]) (f (x.passed, cs ++ [x]))) :
    Adds (n + 1) cs (c.checkHousehold household t cs >>= f) := by
  rw [PovertyCheck.checkHousehold, bind_assoc]
  exact bind fun _ => checkIncome h

end Checks

end Adds

namespace Calculator

/-- The rules add `own` conditions for any household and `each` for any member, whatever they look
at. -/
structure Records (c : Calculator) (own each : Nat) : Prop where
  household : ∀ ctx cs, Adds own cs (c.householdConditions ctx cs)
  member : ∀ ctx m cs, Adds each cs (c.memberConditions ctx m cs)

lemma Records.onlyAdds {c : Calculator} {own each : Nat} (hc : c.Records own each)
    (ctx : Context) : c.OnlyAdds ctx := by
  intro before after h
  obtain ⟨added, rfl, -⟩ := hc.household ctx before after h
  exact List.prefix_append _ _

end Calculator

namespace Registry

/-- One case for each program, with the numbers of its conditions. -/
lemma exists_records {e : String × Calculator} (he : e ∈ calculators) :
    ∃ own each, e.2.Records own each := by
  cases e, he using calculators_cases with
  | medicaid => exact ⟨0, 1, fun _ => .none, fun _ _ _ => .ok _ _⟩
  | wic => exact ⟨0, 1, fun _ => .none, fun _ _ _ => .ok _ _⟩
  | snap => exact ⟨1, 0, fun _ _ => .bind fun _ => .ok _ _, fun _ _ => .none⟩
  | aca => exact ⟨1, 0, fun _ _ => .bind fun _ => .ok _ _, fun _ _ => .none⟩
  | medicareSavings =>
    refine ⟨0, 4, fun _ => .none, fun _ _ _ => ?_⟩
    exact .bind fun _ => .bind fun _ => .bind fun _ => .bind fun _ => .ok _ _
  | allKids => exact ⟨1, 2, fun _ _ => .checkHousehold fun _ => .none _, fun _ _ _ => .ok _ _⟩
  | familyCare =>
    refine ⟨2, 1, fun _ _ => ?_, fun _ _ _ => .ok _ _⟩
    exact .bind fun _ => .cons (.checkIncome fun _ => .none _)
  | momsAndBabies =>
    refine ⟨3, 2, fun _ _ => ?_, fun _ _ _ => .ok _ _⟩
    exact .cons (.checkHousehold fun _ => .ok _ [_])
  | childCare =>
    refine ⟨3, 2, fun _ _ => ?_, fun _ _ _ => .ok _ _⟩
    exact .bind fun _ => .cons (.checkIncome fun _ => .bind fun _ => .ok _ [_])
  | workers => exact ⟨0, 1, fun _ => .none, fun _ _ _ => .ok _ _⟩
  | nurse => exact ⟨1, 2, fun _ _ => .ok _ _, fun _ _ _ => .bind fun _ => .bind fun _ => .ok _ _⟩
  | weatherization => exact ⟨2, 0, fun _ _ => .bind fun _ => .ok _ _, fun _ _ => .none⟩
  | heating =>
    exact ⟨2, 0, fun _ _ => .bind fun _ => .bind fun _ => .ok _ _, fun _ _ => .none⟩
  | middleIncome => exact ⟨4, 0, fun _ _ => .bind fun _ => .ok _ _, fun _ _ => .none⟩
  | rental => exact ⟨2, 0, fun _ _ => .bind fun _ => .ok _ _, fun _ _ => .none⟩

end Registry

/-- The simulation was asked and failed. -/
def Context.SimulationFailed (ctx : Context) : Prop := ∃ detail, ctx.simulation = .failed detail

/-- So many conditions stand in the outcome of a member. -/
structure Recorded (n : Nat) (m : Member) (o : MemberResult) : Prop where
  id : o.id = m.id
  length : o.conditions.length = n

namespace Calculator

variable {c : Calculator} {a b : Context} {own each : Nat}

lemma length_simulationConditions (h : a.SimulationFailed ↔ b.SimulationFailed) :
    (c.simulationConditions a).length = (c.simulationConditions b).length := by
  have hlength : ∀ ctx : Context, ctx.SimulationFailed →
      (c.simulationConditions ctx).length = c.vars.toList.length := by
    rintro ctx ⟨detail, hfailed⟩
    rw [simulationConditions, hfailed]
    cases c.vars <;> rfl
  have hnone : ∀ ctx : Context, ¬ctx.SimulationFailed → c.simulationConditions ctx = [] :=
    fun ctx hfailed => simulationConditions_eq_nil (.inr fun detail h => hfailed ⟨detail, h⟩)
  by_cases hfailed : a.SimulationFailed
  · rw [hlength a hfailed, hlength b (h.mp hfailed)]
  · rw [hnone a hfailed, hnone b (mt h.mpr hfailed)]

lemma Records.length_conditions (hc : c.Records own each) {ctx : Context} {r : ProgramResult}
    (h : c.calculate ctx = .ok r) :
    r.conditions.length = (c.simulationConditions ctx).length + own := by
  obtain ⟨_, hcalculation⟩ := exists_calculation h
  obtain ⟨added, hadded, rfl⟩ := hc.household ctx _ _ hcalculation.householdConditions
  rw [hadded, List.length_append]

lemma Records.recorded (hc : c.Records own each) (hscoped : c.memberScoped = true) {ctx : Context}
    {r : ProgramResult} (h : c.calculate ctx = .ok r) :
    List.Forall₂ (Recorded each) ctx.household.members r.members := by
  obtain ⟨_, hcalculation⟩ := exists_calculation h
  have hall := hcalculation.members.1
  rw [AssessesAll, if_pos hscoped] at hall
  refine hall.imp fun m o ho => ⟨ho.id, ?_⟩
  obtain ⟨added, hadded, rfl⟩ := hc.member ctx m _ _ ho.conditions
  rw [hadded, List.nil_append]

/-- Two contexts may differ in everything but whether the simulation failed. The results of a
program have as many conditions for the one household as for the other, and so do their members. -/
theorem conditions_recorded {code : String} (hc : (code, c) ∈ Registry.calculators)
    (hfailed : a.SimulationFailed ↔ b.SimulationFailed) {r s : ProgramResult}
    (hr : c.calculate a = .ok r) (hs : c.calculate b = .ok s) :
    r.conditions.length = s.conditions.length ∧
      (c.memberScoped = true → ∃ n, List.Forall₂ (Recorded n) a.household.members r.members ∧
        List.Forall₂ (Recorded n) b.household.members s.members) := by
  obtain ⟨own, each, hrecords⟩ := Registry.exists_records hc
  constructor
  · rw [hrecords.length_conditions hr, hrecords.length_conditions hs,
      length_simulationConditions hfailed]
  · intro hscoped
    exact ⟨each, hrecords.recorded hscoped hr, hrecords.recorded hscoped hs⟩

end Calculator

namespace MomsAndBabies

open TaxUnits (lodger sharedFlat)

/-- A household in which every check passes. -/
def expecting : Context where
  household := { sharedFlat with
    members := [{ lodger 1 .headOfHousehold (some 30) [] with pregnant := true }] }
  program := ⟨"il_moms_and_babies", "Moms & Babies", some "IL", "2025", Shipped.table2025⟩
  results := .empty
  simulation := .skipped
  limits := .empty
  asOf := ⟨2025, 6, 1⟩

/-- A household in which some fail, for itself and for each of its members. -/
def flatShare : Context := { expecting with household := sharedFlat }

theorem flatShare_recorded : ∃ r s, calculator.calculate expecting = .ok r ∧
    calculator.calculate flatShare = .ok s ∧
    r.eligible = true ∧ s.eligible = false ∧ r.conditions.length = s.conditions.length ∧
    ∃ n, List.Forall₂ (Recorded n) expecting.household.members r.members ∧
      List.Forall₂ (Recorded n) flatShare.household.members s.members := by
  have hgranted : (calculator.calculate expecting).toOption.any (fun r => r.eligible) = true := by
    decide +kernel
  have hrefused : (calculator.calculate flatShare).toOption.any (fun s => !s.eligible) = true := by
    decide +kernel
  obtain ⟨r, hr, hgranted⟩ := exists_ok_of_any hgranted
  obtain ⟨s, hs, hrefused⟩ := exists_ok_of_any hrefused
  have hregistered : ("il_moms_and_babies", calculator) ∈ Registry.calculators := by
    simp [Registry.calculators]
  have hfailed : expecting.SimulationFailed ↔ flatShare.SimulationFailed := Iff.rfl
  obtain ⟨hlength, hmembers⟩ := conditions_recorded hregistered hfailed hr hs
  exact ⟨r, s, hr, hs, hgranted, (Bool.not_eq_true' _).mp hrefused, hlength, hmembers rfl⟩

end MomsAndBabies

end BenefitScreen
