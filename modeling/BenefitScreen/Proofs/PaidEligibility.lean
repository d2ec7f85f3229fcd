import BenefitScreen.Proofs.MedicaidRouting
import BenefitScreen.Proofs.ProgramValue

/-!
# Eligibility and value

A program that rests on the simulation decides on eligibility and puts a value on it in two separate
looks at the same answer. The two never disagree: the program is eligible exactly when its value is
positive, and so is each member within an eligible program.
-/

namespace BenefitScreen

open Calculator Fallible Simulation

namespace Calculator

variable {c : Calculator} {ctx : Context}

/-- Whoever the rules approve has a positive amount: each member where the program concerns members,
and the household itself where it does not. -/
structure PaysApproved (c : Calculator) : Prop where
  household : ∀ ctx before after amount, c.householdConditions ctx before = .ok after →
    Conditions.passed after = true → c.householdValue ctx = .ok amount →
    .zero ≤ amount ∧ (c.memberScoped = false → .zero < amount)
  member : c.memberScoped = true → ∀ ctx m cs amount, c.memberConditions ctx m [] = .ok cs →
    Conditions.passed cs = true → c.memberValue ctx m = .ok amount → .zero < amount

lemma PaysApproved.zero_lt_member (hc : c.PaysApproved) {os : List MemberResult}
    (hos : c.AssessesAll ctx true os) {o : MemberResult} (ho : o ∈ os)
    (heligible : o.eligible = true) : .zero < o.value := by
  have hscoped : c.memberScoped = true := by
    by_contra hno
    rw [AssessesAll, if_neg hno] at hos
    rw [hos] at ho
    cases ho
  obtain ⟨m, _, hm⟩ := hos.exists_assesses ho
  have hvalue := hm.value
  rw [heligible, Bool.true_and, if_pos rfl] at hvalue
  exact hc.member hscoped ctx m o.conditions o.value hm.conditions heligible hvalue

lemma PaysApproved.zero_lt_value (hc : c.PaysApproved) {r : ProgramResult}
    (h : c.calculate ctx = .ok r) (heligible : r.eligible = true) : .zero < r.value := by
  obtain ⟨outcomes, hr⟩ := exists_calculation h
  have hyields := hr.yields
  obtain ⟨amount, _, hamount, hsum, _⟩ := hyields.granted heligible
  have hall : c.AssessesAll ctx true r.members := heligible ▸ hyields.members
  obtain ⟨hstart, hhousehold⟩ :=
    hc.household ctx _ _ amount hr.householdConditions (hr.passed heligible) hamount
  have hpaid : ∀ x ∈ (r.members.filter (·.eligible)).map (·.value), Decimal.zero < x := by
    intro x hx
    obtain ⟨o, ho, rfl⟩ := List.mem_map.mp hx
    obtain ⟨hmem, ho⟩ := List.mem_filter.mp ho
    exact hc.zero_lt_member hall hmem ho
  apply Decimal.zero_lt_foldlM_add (fun x hx => Decimal.le_of_lt (hpaid x hx)) hstart ?_ hsum
  -- Either the household has an amount of its own, or an eligible member does.
  cases hscoped : c.memberScoped with
  | false => exact .inl (hhousehold hscoped)
  | true =>
    obtain ⟨o, ho, hpasses⟩ := (hyields.eligible_iff.mp heligible).2 hscoped
    have hmem : o ∈ r.members.filter (·.eligible) :=
      List.mem_filter.mpr ⟨ho, passed_iff.mpr hpasses⟩
    exact .inr ⟨o.value, List.mem_map_of_mem hmem, hpaid _ (List.mem_map_of_mem hmem)⟩

end Calculator

namespace Simulated

lemma forMembers_paysApproved (dependencies : List DataField) (vars : Variables)
    (amount : Response → Member → Decimal) :
    (forMembers dependencies vars amount).PaysApproved where
  household _ _ _ _ _ _ hamount :=
    ⟨Except.ok.inj hamount ▸ Decimal.zero_le_whole 0, fun hscoped => by cases hscoped⟩
  member _ ctx m cs value hcs hpassed hvalue := by
    obtain rfl := Except.ok.inj hcs
    obtain rfl := Except.ok.inj hvalue
    simpa [Conditions.passed, check] using hpassed

lemma forHousehold_paysApproved (dependencies : List DataField) (inputs : List Input)
    (output : Output) : (forHousehold dependencies inputs output).PaysApproved where
  household ctx before after amount hconditions hpassed hamount := by
    obtain ⟨total, htotal, hconditions⟩ := bind_eq_ok.mp hconditions
    obtain rfl := pure_eq_ok.mp hconditions
    obtain rfl : total = amount := Except.ok.inj (htotal.symm.trans hamount)
    have hpositive : Decimal.zero < total := by
      simpa [Conditions.passed, check] using (passed_append.mp hpassed).2
    exact ⟨Decimal.le_of_lt hpositive, fun _ => hpositive⟩
  member hscoped := by cases hscoped

end Simulated

open Simulated

lemma WorkersWithDisabilities.paysApproved : calculator.PaysApproved where
  household _ _ _ _ _ _ hamount :=
    ⟨Except.ok.inj hamount ▸ Decimal.zero_le_whole 0, fun hscoped => by cases hscoped⟩
  member _ _ _ _ _ _ _ hvalue := by
    obtain rfl := Except.ok.inj hvalue
    decide

namespace Registry

/-- Every program that rests on the simulation pays those whom it approves. -/
lemma paysApproved {e : String × Calculator} (he : e ∈ calculators)
    (hvars : e.2.vars.isSome = true) : e.2.PaysApproved := by
  cases e, he using calculators_cases with
  | medicaid => exact forMembers_paysApproved _ _ _
  | wic => exact forMembers_paysApproved _ _ _
  | snap => exact forHousehold_paysApproved _ _ _
  | aca => exact forHousehold_paysApproved _ _ _
  | workers => exact WorkersWithDisabilities.paysApproved
  | _ => cases hvars

/-- The programs that rest on the simulation. -/
lemma vars_isSome_iff {e : String × Calculator} (he : e ∈ calculators) :
    e.2.vars.isSome = true ↔ e.1 ∈ ["medicaid", "wic", "snap", "aca", "il_hbwd"] := by
  cases e, he using calculators_cases <;> decide

/-- Whatever the simulation answers, if it answers at all, eligibility and value tell the same. -/
theorem eligible_iff_value_positive {code : String} {c : Calculator}
    (hc : (code, c) ∈ calculators) (hcode : code ∈ ["medicaid", "wic", "snap", "aca", "il_hbwd"])
    {ctx : Context} {r : ProgramResult} (hr : c.calculate ctx = .ok r) :
    (r.eligible = true ↔ .zero < r.value) ∧
      ∀ o ∈ r.members, .zero < o.value ↔ r.eligible = true ∧ o.eligible = true := by
  have hpays : c.PaysApproved := paysApproved hc ((vars_isSome_iff hc).mpr hcode)
  obtain ⟨outcomes, hcalculation⟩ := exists_calculation hr
  have hyields := hcalculation.yields
  have hzero : ¬Decimal.zero < .zero := by decide
  cases heligible : r.eligible with
  | false =>
    obtain ⟨hvalue, hmembers⟩ := hyields.refused heligible
    rw [hvalue]
    refine ⟨by simp [hzero], fun o ho => ?_⟩
    rw [hmembers o ho]
    simp [hzero]
  | true =>
    have hall : c.AssessesAll ctx true r.members := heligible ▸ hyields.members
    refine ⟨iff_of_true rfl (hpays.zero_lt_value hr heligible), fun o ho => ?_⟩
    rw [and_iff_right rfl]
    constructor
    · intro hpositive
      by_contra hno
      rw [hall.value_eq_zero ho (by simpa using hno)] at hpositive
      exact hzero hpositive
    · exact hpays.zero_lt_member hall ho

open Medicaid (answer)
open TaxUnits (lodger sharedFlat)

/-- Two members of one id whose amount is a text, one with a negative amount, and one of a category
that nobody knows. -/
def oddAnswers : Context where
  household := { sharedFlat with
    members := [
      lodger 1 .headOfHousehold (some 30) [],
      lodger 1 .child (some 0) [],
      lodger 2 .child (some 2) [],
      lodger 3 .child (some 4) []] }
  program := ⟨"wic", "WIC", none, "2025", Shipped.table2025⟩
  results := .empty
  simulation := .ready (answer [
    ("1", [(.wic, .text "12.5"), (.wicCategory, .text "INFANT")]),
    ("2", [(.wic, .number (.int (-40))), (.wicCategory, .text "CHILD")]),
    ("3", [(.wic, .bool true), (.wicCategory, .text "GUEST")])])
  limits := .empty
  asOf := ⟨2025, 6, 1⟩

theorem oddAnswers_paid : ∃ r, Wic.calculator.calculate oddAnswers = .ok r ∧
    r.members.map (fun o => (o.eligible, o.value)) =
      [(true, .whole 1560), (true, .whole 1560), (false, .zero), (false, .zero)] ∧
    (r.eligible = true ↔ .zero < r.value) ∧
    ∀ o ∈ r.members, .zero < o.value ↔ r.eligible = true ∧ o.eligible = true := by
  have hresult : ((Wic.calculator.calculate oddAnswers).toOption.any fun r =>
      r.members.map (fun o => (o.eligible, o.value)) =
        [(true, .whole 1560), (true, .whole 1560), (false, .zero), (false, .zero)]) = true := by
    decide +kernel
  obtain ⟨r, hr, hmembers⟩ := exists_ok_of_any hresult
  have hc : ("wic", Wic.calculator) ∈ calculators := by simp [calculators]
  exact ⟨r, hr, of_decide_eq_true hmembers, eligible_iff_value_positive hc (by decide) hr⟩

end Registry

end BenefitScreen
