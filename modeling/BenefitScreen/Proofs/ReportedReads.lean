import BenefitScreen.Proofs.ListingOrder
import BenefitScreen.Proofs.Outage
import BenefitScreen.Proofs.ProgramReads

/-!
# The dependency report of an evaluation

A report lists every program under the fields that its rules declare. What it leaves out for a
program without a simulation changes nothing about the program's result, but for the fields that
two of the programs read without declaring them.
-/

namespace BenefitScreen

namespace Dependencies

lemma mem_programsReading {d : Dependencies} {field : DataField} {code : String} :
    code ∈ d.programsReading field ↔ ∃ set, d.fieldsFor? code = some set ∧ field ∈ set.members := by
  unfold programsReading fieldsFor?
  constructor
  · intro h
    obtain ⟨e, he, rfl⟩ := List.mem_map.mp h
    obtain ⟨hmem, hfield⟩ := List.mem_filter.mp he
    exact ⟨e.2, Table.get?_eq_some.mpr hmem, of_decide_eq_true hfield⟩
  · rintro ⟨set, hset, hfield⟩
    have hmem : (code, set) ∈ d.programs.entries := Table.get?_eq_some.mp hset
    exact List.mem_map.mpr ⟨_, List.mem_filter.mpr ⟨hmem, decide_eq_true hfield⟩, rfl⟩

lemma mem_programsReading_record {d : Dependencies} {field : DataField} {code code' : String}
    {fields : List DataField} :
    code ∈ (d.record code' fields).programsReading field ↔
      code ∈ d.programsReading field ∨ (code = code' ∧ field ∈ fields) := by
  rw [mem_programsReading, mem_programsReading, fieldsFor?_record]
  by_cases h : code = code'
  · subst h
    cases hset : d.fieldsFor? code with
    | none => simp [EnumSet.addAll, EnumSet.empty, EnumSet.mem_ofList]
    | some set => simp [EnumSet.addAll, EnumSet.mem_ofList]
  · simp [h]

end Dependencies

open Calculator Dependencies Simulation

namespace Evaluator

lemma mem_programsReading_recordFields {d : Dependencies} {p : Program × Calculator}
    {field : DataField} {code : String} :
    code ∈ (recordFields d p).programsReading field ↔
      code ∈ d.programsReading field ∨ (code = p.1.code ∧ field ∈ p.2.recordedFields.members) := by
  unfold recordFields recordedFields
  cases p.2.vars with
  | none => simp [mem_programsReading_record, EnumSet.addAll, EnumSet.empty]
  | some v =>
    simp only [mem_programsReading_record, EnumSet.addAll, EnumSet.mem_ofList, List.mem_append]
    simp only [EnumSet.empty, EnumSet.mem_ofList, List.not_mem_nil, false_or]
    tauto

/-- A report lists a program under a field exactly if the field is recorded for it. -/
lemma mem_programsReading_report {programs : List (Program × Calculator)} {h : Household}
    {results : Table ProgramResult} {field : DataField} {code : String} :
    code ∈ (report programs h results).dependencies.programsReading field ↔
      ∃ p ∈ programs, p.1.code = code ∧ field ∈ p.2.recordedFields.members := by
  have hfold : ∀ d : Dependencies, code ∈ (programs.foldl recordFields d).programsReading field ↔
      code ∈ d.programsReading field ∨
        ∃ p ∈ programs, p.1.code = code ∧ field ∈ p.2.recordedFields.members := by
    induction programs with
    | nil => simp
    | cons p programs ih =>
      intro d
      rw [List.foldl_cons, ih, mem_programsReading_recordFields, or_assoc]
      simp only [List.mem_cons, exists_eq_or_imp, eq_comm (a := code)]
  have hempty : code ∉ Dependencies.empty.programsReading field := List.not_mem_nil
  rw [report, hfold, or_iff_right hempty]

lemma mem_programsReading_of_declared {programs : List (Program × Calculator)} {h : Household}
    {results : Table ProgramResult} {p : Program × Calculator} (hp : p ∈ programs)
    {field : DataField} (hfield : field ∈ p.2.dependencies) :
    p.1.code ∈ (report programs h results).dependencies.programsReading field := by
  have hrecorded : field ∈ p.2.recordedFields.members := by
    unfold recordedFields
    cases p.2.vars with
    | none => simp [EnumSet.addAll, hfield]
    | some v => simp [EnumSet.addAll, hfield]
  exact mem_programsReading_report.mpr ⟨p, hp, rfl, hrecorded⟩

end Evaluator

open Evaluator

/-- Every field but those that are answered differently. -/
def DataField.besides (changed : List DataField) : List DataField :=
  (Enumerated.all : List DataField).filter fun field => field ∉ changed

namespace Registry

lemma seesOnly {e : String × Calculator} (he : e ∈ calculators) (hvars : e.2.vars = none) :
    e.2.SeesOnly (e.2.dependencies ++ undeclared e.1) := by
  cases e, he using calculators_cases with
  | medicaid => cases hvars
  | wic => cases hvars
  | snap => cases hvars
  | aca => cases hvars
  | medicareSavings => exact MedicareSavings.seesOnly
  | allKids => exact AllKids.seesOnly
  | familyCare => exact FamilyCare.seesOnly
  | momsAndBabies => exact MomsAndBabies.seesOnly
  | childCare => exact ChildCare.seesOnly
  | workers => cases hvars
  | nurse => exact NurseFamilyPartnership.seesOnly
  | weatherization => exact Weatherization.seesOnly
  | heating => exact HeatingAssistance.seesOnly
  | middleIncome => exact MiddleIncomeRental.seesOnly
  | rental => exact RentalAssistance.seesOnly

/-- The result of a program without a simulation rests on the fields that it declares and on those
that it reads besides. So it stays as it is when only fields are answered differently under which no
report lists the program, and which it does not read besides. -/
theorem result_rests_on_fields {code : String} {c : Calculator} (hc : (code, c) ∈ calculators)
    (hvars : c.vars = none) :
    (∀ (ctx : Context) (h : Household) (simulation : SimulationOutcome),
      Household.AgreeOn (c.dependencies ++ undeclared code) ctx.household h →
        c.calculate { ctx with household := h, simulation } = c.calculate ctx) ∧
    ∀ (e : Evaluator) (asked : Household) (p : Program), (p, c) ∈ e.active asked → p.code = code →
      ∀ (σ : Type) (backend : Backend σ) (asOf : Date) (s : σ) (r : Report),
        (e.evaluate backend asked asOf s).1 = .ok r →
        ∀ changed : List DataField,
          (∀ field ∈ changed,
            code ∉ r.dependencies.programsReading field ∧ field ∉ undeclared code) →
          ∀ (ctx : Context) (h : Household),
            Household.AgreeOn (DataField.besides changed) ctx.household h →
              c.calculate { ctx with household := h } = c.calculate ctx := by
  have hsees : c.SeesOnly (c.dependencies ++ undeclared code) := seesOnly hc hvars
  have hignores : c.IgnoresSimulation := ignoresSimulation hc hvars
  refine ⟨fun ctx h simulation hagree => ?_, ?_⟩
  · rw [calculate_of_ignoresSimulation hignores hvars ctx simulation]
    exact calculate_of_agreeOn hsees { ctx with simulation } hagree
  · intro e asked p hp hcode σ backend asOf s r heval changed hchanged ctx h hagree
    obtain ⟨_, _, results, _, _, rfl⟩ := evaluate_eq_ok (Prod.ext heval rfl)
    have hsub : c.dependencies ++ undeclared code ⊆ DataField.besides changed := by
      intro field hfield
      have hkept : field ∉ changed := by
        intro hmem
        -- Every declared field is listed, whatever else the evaluation did.
        obtain ⟨hunlisted, hdeclared⟩ := hchanged field hmem
        have hdep : field ∈ c.dependencies := (List.mem_append.mp hfield).resolve_right hdeclared
        apply hunlisted
        rw [← hcode]
        exact mem_programsReading_of_declared hp hdep
      exact List.mem_filter.mpr ⟨Enumerated.mem_all field, decide_eq_true hkept⟩
    exact calculate_of_agreeOn hsees ctx (hagree.mono hsub)

/-- An evaluator for one program with the guidelines of 2025. -/
def evaluatorFor (code : String) (c : Calculator) : Evaluator where
  programs := [(⟨code, code, none, "2025", Shipped.table2025⟩, c)]
  period := "2025"

/-- The renter on an income of another kind, and with a child on the way. -/
def expectingPensioner : Household := { renter with
  members := renter.members.map fun m => { m with
    pregnant := true
    incomeStreams := [⟨.pension, .whole 1000, .monthly, none⟩] } }

theorem weatherization_without_kind_of_income :
    ∃ r, ((evaluatorFor "co_weatherization_assistance" Weatherization.calculator).evaluate
        foodBackend renter ⟨2025, 6, 1⟩ ()).1 = .ok r ∧
      "co_weatherization_assistance" ∉ r.dependencies.programsReading .incomeType ∧
      "co_weatherization_assistance" ∉ r.dependencies.programsReading .pregnant ∧
      ∀ (ctx : Context) (simulation : SimulationOutcome), ctx.household = renter →
        Weatherization.calculator.calculate
            { ctx with household := expectingPensioner, simulation } =
          Weatherization.calculator.calculate ctx ∧
        Weatherization.calculator.calculate { ctx with household := expectingPensioner } =
          Weatherization.calculator.calculate ctx := by
  have hreport : ((evaluatorFor "co_weatherization_assistance" Weatherization.calculator).evaluate
      foodBackend renter ⟨2025, 6, 1⟩ ()).1.toOption.any (fun r : Report =>
        "co_weatherization_assistance" ∉ r.dependencies.programsReading .incomeType ∧
          "co_weatherization_assistance" ∉ r.dependencies.programsReading .pregnant) = true := by
    decide +kernel
  obtain ⟨r, heval, hunlisted⟩ := Fallible.exists_ok_of_any hreport
  obtain ⟨htype, hpregnant⟩ := of_decide_eq_true hunlisted
  refine ⟨r, heval, htype, hpregnant, ?_⟩
  intro ctx simulation hctx
  have hc : ("co_weatherization_assistance", Weatherization.calculator) ∈ calculators := by
    simp [calculators]
  obtain ⟨hdeclared, hreported⟩ := result_rests_on_fields hc rfl
  constructor
  · apply hdeclared
    rw [hctx]
    decide
  · apply hreported _ renter _ List.mem_cons_self rfl _ foodBackend _ _ r heval
      [.incomeType, .pregnant]
    · simp [htype, hpregnant, undeclared]
    · rw [hctx]
      decide

/-- What a program says about a household when no other program has run. -/
def alone (code : String) (c : Calculator) (h : Household) : Option (Bool × Decimal) :=
  (c.calculate ⟨h, ⟨code, code, none, "2025", Shipped.table2025⟩, .empty, .skipped, ⟨[]⟩,
    ⟨2025, 6, 1⟩⟩).toOption.map fun r => (r.eligible, r.value)

def renterOn (type : IncomeType) : Household := { renter with
  members := renter.members.map fun m => { m with
    incomeStreams := [⟨type, .whole 2000, .monthly, none⟩] } }

def pensionerOn (type : IncomeType) : Household := pensioner [⟨type, .whole 2500, .monthly, none⟩]

/-- Heating assistance takes a fifth off wages and nothing off a pension, and help with Medicare
premiums more than half. The latter also measures the income by the reported size. None of these
fields is declared, so no report lists the programs under them. -/
theorem results_change_with_undeclared_fields :
    let heating := HeatingAssistance.calculator
    let medicare := MedicareSavings.calculator
    ("nc_lieap", heating) ∈ calculators ∧ heating.vars.isNone ∧
    ("medicare_savings", medicare) ∈ calculators ∧ medicare.vars.isNone ∧
    (Household.AgreeOn heating.dependencies (renterOn .wages) (renterOn .pension) ∧
      alone "nc_lieap" heating (renterOn .wages) = some (true, .zero) ∧
      alone "nc_lieap" heating (renterOn .pension) = some (false, .zero)) ∧
    (Household.AgreeOn medicare.dependencies (pensionerOn .wages) (pensionerOn .pension) ∧
      alone "medicare_savings" medicare (pensionerOn .wages) = some (true, .whole 2220) ∧
      alone "medicare_savings" medicare (pensionerOn .pension) = some (false, .zero)) ∧
    (Household.AgreeOn medicare.dependencies (pensionerOn .pension)
        { pensionerOn .pension with reportedSize := some 3 } ∧
      alone "medicare_savings" medicare { pensionerOn .pension with reportedSize := some 3 } =
        some (true, .whole 2220)) ∧
    ∀ results, ("nc_lieap" ∉ (report (evaluatorFor "nc_lieap" heating).programs
          (renterOn .wages) results).dependencies.programsReading .incomeType) ∧
      "medicare_savings" ∉ (report (evaluatorFor "medicare_savings" medicare).programs
          (pensionerOn .wages) results).dependencies.programsReading .incomeType ∧
      "medicare_savings" ∉ (report (evaluatorFor "medicare_savings" medicare).programs
          (pensionerOn .wages) results).dependencies.programsReading .householdSize := by
  refine ⟨by simp [calculators], rfl, by simp [calculators], rfl, ?_, ?_, ?_, fun _ => ?_⟩
  · decide +kernel
  · decide +kernel
  · decide +kernel
  · simp only [mem_programsReading_report]
    decide

end Registry

end BenefitScreen
