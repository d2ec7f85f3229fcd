import BenefitScreen.Proofs.CompleteReport
import BenefitScreen.Proofs.PovertyChecks
import BenefitScreen.Proofs.ProgramValue

/-!
# Rules between programs

Some programs require that the household is eligible for another program, or that it is not. Such a
rule reads the results of the same evaluation, so it holds in a report because the programs run in
order and the results that they read are final.
-/

namespace BenefitScreen

open Calculator Fallible Simulation

/-- The household is eligible for a program according to a report. -/
def Report.Finds (r : Report) (code : String) : Prop :=
  ∃ p ∈ r.programs, p.code = code ∧ p.eligible = true

instance (r : Report) (code : String) : Decidable (r.Finds code) :=
  inferInstanceAs (Decidable (∃ p ∈ r.programs, p.code = code ∧ p.eligible = true))

lemma Report.finds_iff {r : Report} (hnd : (r.programs.map (·.code)).Nodup) {code : String} :
    r.Finds code ↔ (r.program? code).any ProgramResult.eligible = true := by
  constructor
  · rintro ⟨p, hp, rfl, heligible⟩
    rw [Report.program?, find?_of_nodup_keys hnd hp]
    exact heligible
  · intro hany
    obtain ⟨p, hfind, heligible⟩ := (Option.any_eq_true _ _).mp hany
    exact ⟨p, List.mem_of_find?_eq_some hfind, beq_iff_eq.mp (List.find?_some hfind :), heligible⟩

namespace Calculator

/-- Whoever passes the rules is eligible for another program. -/
def Requires (c : Calculator) (code : String) : Prop :=
  ∀ ctx before after, c.householdConditions ctx before = .ok after →
    Conditions.passed after = true → ctx.eligibleFor code = true

/-- Whoever passes the rules is not eligible for another program. -/
def Excludes (c : Calculator) (code : String) : Prop :=
  ∀ ctx before after, c.householdConditions ctx before = .ok after →
    Conditions.passed after = true → ctx.eligibleFor code = false

end Calculator

lemma FamilyCare.requires_medicaid : FamilyCare.calculator.Requires "medicaid" := by
  intro ctx before after hconditions hpassed
  obtain ⟨gross, _, hconditions⟩ := bind_eq_ok.mp hconditions
  obtain ⟨⟨flag, cs⟩, hcs, hconditions⟩ := bind_eq_ok.mp hconditions
  obtain rfl := pure_eq_ok.mp hconditions
  obtain ⟨x, _, -, rfl⟩ := PovertyCheck.checkIncome_eq_ok.mp hcs
  have hrequired := (passed_append.mp (passed_append.mp hpassed).1).2
  exact passed_iff.mp hrequired _ List.mem_cons_self

lemma MomsAndBabies.excludes_familyCare :
    MomsAndBabies.calculator.Excludes "il_family_care" := by
  intro ctx before after hconditions hpassed
  obtain ⟨⟨flag, cs⟩, hcs, hconditions⟩ := bind_eq_ok.mp hconditions
  obtain rfl := pure_eq_ok.mp hconditions
  obtain ⟨_, _, x, _, -, rfl⟩ := PovertyCheck.checkHousehold_eq_ok.mp hcs
  have hexcluded := (passed_append.mp (passed_append.mp (passed_append.mp hpassed).1).1).2
  exact (Bool.not_eq_true' _).mp (passed_iff.mp hexcluded _ List.mem_cons_self)

namespace Evaluator

section Settled

variable {h : Household} {asOf : Date} {simulation : SimulationOutcome} {limits : ResolvedLimits}
  {programs : List (Program × Calculator)} {results : Table ProgramResult} {code other : String}

/-- The rules of every program see exactly the eligibility that the report shows. -/
lemma Settled.finds_iff (hset : Settled (contextOf h asOf simulation limits) programs results)
    (hnd : (programs.map (·.1.code)).Nodup) (program : Program) :
    (report programs h results).Finds code ↔
      (contextOf h asOf simulation limits program results).eligibleFor code = true := by
  rw [Report.finds_iff (hset.report_codes ▸ hnd), hset.program?_report hnd]
  rfl

/-- A program that a report finds the household eligible for has passed its own rules on the results
of the report. -/
lemma Settled.passed_of_finds (hset : Settled (contextOf h asOf simulation limits) programs results)
    (hfinds : (report programs h results).Finds code) :
    ∃ p ∈ programs, p.1.code = code ∧ ∃ before after,
      p.2.householdConditions (contextOf h asOf simulation limits p.1 results) before = .ok after ∧
      Conditions.passed after = true := by
  obtain ⟨result, hresult, rfl, heligible⟩ := hfinds
  obtain ⟨p, hp, hget⟩ := List.mem_filterMap.mp hresult
  obtain ⟨r, hr, hget', hcode⟩ := hset.result_code hp
  obtain rfl : r = result := Option.some.inj (hget'.symm.trans hget)
  obtain ⟨_, hcalculation⟩ := exists_calculation hr
  exact ⟨p, hp, hcode.symm, _, _, hcalculation.householdConditions, hcalculation.passed heligible⟩

end Settled

namespace Runs

variable {e : Evaluator} {c : Configuration} {h : Household} {asOf : Date}
  {simulation : SimulationOutcome} {limits : ResolvedLimits} {results : Table ProgramResult}
  {code other : String} {k : Calculator}

lemma calculator_of_code (hr : e.Runs c) {p : Program × Calculator} (hp : p ∈ e.active h)
    (hk : Registry.calculator p.1.code = .ok k) : p.2 = k :=
  Except.ok.inj ((hr.calculator p (List.mem_filter.mp hp).1).symm.trans hk)

lemma finds_of_requires (hr : e.Runs c) (hc : c.Accepted)
    (hset : Settled (contextOf h asOf simulation limits) (e.active h) results)
    (hk : Registry.calculator code = .ok k) (hrequires : k.Requires other)
    (hfinds : (report (e.active h) h results).Finds code) :
    (report (e.active h) h results).Finds other := by
  obtain ⟨p, hp, rfl, before, after, hconditions, hpassed⟩ := hset.passed_of_finds hfinds
  rw [hr.calculator_of_code hp hk] at hconditions
  exact (hset.finds_iff (hr.active_nodup hc h) p.1).mpr (hrequires _ _ _ hconditions hpassed)

lemma not_finds_of_excludes (hr : e.Runs c) (hc : c.Accepted)
    (hset : Settled (contextOf h asOf simulation limits) (e.active h) results)
    (hk : Registry.calculator code = .ok k) (hexcludes : k.Excludes other)
    (hfinds : (report (e.active h) h results).Finds code) :
    ¬(report (e.active h) h results).Finds other := by
  obtain ⟨p, hp, rfl, before, after, hconditions, hpassed⟩ := hset.passed_of_finds hfinds
  rw [hr.calculator_of_code hp hk] at hconditions
  rw [hset.finds_iff (hr.active_nodup hc h) p.1, hexcludes _ _ _ hconditions hpassed]
  exact Bool.false_ne_true

end Runs

/-- No report finds a household eligible both for FamilyCare and for Moms & Babies, and none finds
it eligible for FamilyCare without Medicaid. -/
theorem report_keeps_health_rules {settings : Settings} {tables : Table PovertyTable}
    {programs : List ProgramEntry} {c : Configuration}
    (hc : Configuration.ofParts settings tables programs = .ok c) :
    ∃ e, ofConfiguration c = .ok e ∧
      ∀ (σ : Type) (backend : Backend σ) (h : Household) (asOf : Date) (s s' : σ) (r : Report),
        e.evaluate backend h asOf s = (.ok r, s') →
          ¬(r.Finds "il_family_care" ∧ r.Finds "il_moms_and_babies") ∧
          (r.Finds "il_family_care" → r.Finds "medicaid") := by
  obtain ⟨_, hacc⟩ := Configuration.accepted_of_ofParts hc
  obtain ⟨e, he, hruns⟩ := exists_runs hacc
  refine ⟨e, he, ?_⟩
  intro σ backend h asOf s s' r heval
  obtain ⟨simulation, limits, results, _, hset, rfl⟩ := hruns.settled_of_evaluate hacc heval
  constructor
  · rintro ⟨hcare, hmoms⟩
    have hk : Registry.calculator "il_moms_and_babies" = .ok MomsAndBabies.calculator := rfl
    exact hruns.not_finds_of_excludes hacc hset hk MomsAndBabies.excludes_familyCare hmoms hcare
  · intro hcare
    have hk : Registry.calculator "il_family_care" = .ok FamilyCare.calculator := rfl
    exact hruns.finds_of_requires hacc hset hk FamilyCare.requires_medicaid hcare

/-- The three programs, each listed before the one whose results it reads. -/
def illinoisPrograms : List ProgramEntry := [
  ⟨"il_moms_and_babies", "Moms & Babies", some "IL", "2025"⟩,
  ⟨"il_family_care", "FamilyCare", some "IL", "2025"⟩,
  ⟨"medicaid", "Medicaid", none, "2024"⟩]

/-- An expectant mother in Illinois, without income. -/
def expectant : Household where
  id := ⟨0⟩
  state := "il"
  reportedSize := none
  assets := .zero
  county := none
  zipcode := none
  members := [{
    id := ⟨1⟩
    relationship := .headOfHousehold
    age := some 29
    birthMonth := none
    pregnant := true
    disabled := false
    visuallyImpaired := false
    longTermDisability := false
    student := false
    insurance := .empty
    incomeStreams := [] }]
  expenses := []
  currentBenefits := .empty

def medicaidBackend : Backend Unit where
  simulate _ period s :=
    let fields : Fields := .ofList [
      ("medicaid", .ofList [(period, .ofInt 5000)]),
      ("medicaid_category", .ofList [(period, .text "PREGNANT")])]
    (.ok ⟨{ Document.empty with people := .ofList [("1", fields)] }, period⟩, s)
  limit _ s := (.error (.unavailable "offline"), s)

/-- She gets FamilyCare on top of Medicaid, and for that reason not Moms & Babies. -/
theorem family_care_excludes_moms :
    ∃ c e r, Configuration.ofParts Shipped.settings Shipped.tables illinoisPrograms = .ok c ∧
      ofConfiguration c = .ok e ∧
      e.evaluate medicaidBackend expectant ⟨2025, 6, 1⟩ () = (.ok r, ()) ∧
      r.Finds "il_family_care" ∧ r.Finds "medicaid" ∧ ¬r.Finds "il_moms_and_babies" := by
  have hscreen : (do
      let c ← Configuration.ofParts Shipped.settings Shipped.tables illinoisPrograms
      let e ← ofConfiguration c
      (e.evaluate medicaidBackend expectant ⟨2025, 6, 1⟩ ()).1).toOption.any (fun r : Report =>
        decide (r.Finds "il_family_care")) = true := by
    decide +kernel
  obtain ⟨r, hr, hcare⟩ := exists_ok_of_any hscreen
  obtain ⟨c, hc, hr⟩ := bind_eq_ok.mp hr
  obtain ⟨e, he, hr⟩ := bind_eq_ok.mp hr
  have heval : e.evaluate medicaidBackend expectant ⟨2025, 6, 1⟩ () = (.ok r, ()) :=
    Prod.ext hr rfl
  obtain ⟨e', he', hall⟩ := report_keeps_health_rules hc
  obtain rfl : e = e' := Except.ok.inj (he.symm.trans he')
  obtain ⟨hnot, hmedicaid⟩ := hall Unit medicaidBackend expectant _ () () r heval
  have hcare := of_decide_eq_true hcare
  exact ⟨c, e, r, hc, he, heval, hcare, hmedicaid hcare, fun hmoms => hnot ⟨hcare, hmoms⟩⟩

end Evaluator

end BenefitScreen
