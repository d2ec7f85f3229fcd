import BenefitScreen.Proofs.IncomeTotals
import BenefitScreen.Proofs.TaxReturns
import BenefitScreen.Simulation.Input

/-!
# Ways to slice income

The income of a household and of a member is sliced by filters, by lists of types and by the
variables of a simulation. Where every type of income falls into exactly one slice, the slices add
up to the whole whatever streams there are: no income is lost, and none counts twice.
-/

namespace BenefitScreen

open Decimal Fallible

section Slices

/-- The types that some filter admits and that are not excluded. -/
def selects (filters : List IncomeFilter) (exclude : List IncomeType) (t : IncomeType) : Bool :=
  !exclude.contains t && filters.any (·.admits t)

/-- The streams of some types. -/
def sliceValue (streams : List IncomeStream) (slice : IncomeType → Bool) : ℚ :=
  streamsValue (streams.filter fun s => slice s.type)

variable {slices : List (IncomeType → Bool)} {whole : IncomeType → Bool}

lemma sliceValue_cons (s : IncomeStream) (streams : List IncomeStream)
    (slice : IncomeType → Bool) :
    sliceValue (s :: streams) slice =
      (if slice s.type then s.yearlyValue else 0) + sliceValue streams slice := by
  unfold sliceValue streamsValue
  rw [List.filter_cons]
  split
  · rw [List.map_cons, List.sum_cons]
  · rw [zero_add]

/-- Each stream counts for itself. -/
lemma sliceValue_eq_sum (streams : List IncomeStream) (slice : IncomeType → Bool) :
    sliceValue streams slice =
      (streams.map fun s => if slice s.type then s.yearlyValue else 0).sum := by
  induction streams with
  | nil => rfl
  | cons s streams ih => rw [sliceValue_cons, ih, List.map_cons, List.sum_cons]

lemma sliceValue_append (streams streams' : List IncomeStream) (slice : IncomeType → Bool) :
    sliceValue (streams ++ streams') slice =
      sliceValue streams slice + sliceValue streams' slice := by
  rw [sliceValue_eq_sum, List.map_append, List.sum_append, ← sliceValue_eq_sum,
    ← sliceValue_eq_sum]

/-- Slices that hold each type of the whole once, and no other type, add up to the whole. -/
theorem sum_sliceValue (hslices : ∀ t, slices.countP (· t) = if whole t then 1 else 0)
    (streams : List IncomeStream) :
    (slices.map (sliceValue streams)).sum = sliceValue streams whole := by
  induction streams with
  | nil =>
    have hnothing : sliceValue [] = fun _ => 0 := rfl
    rw [hnothing]
    simp
  | cons s streams ih =>
    have hcons : slices.map (sliceValue (s :: streams)) = slices.map fun slice =>
        (if slice s.type then s.yearlyValue else 0) + sliceValue streams slice :=
      List.map_congr_left fun slice _ => sliceValue_cons s streams slice
    have hstream : ((slices.countP (· s.type) : Nat) : ℚ) * s.yearlyValue =
        if whole s.type then s.yearlyValue else 0 := by
      rw [hslices]
      split <;> simp
    rw [hcons, List.sum_map_add, ih, sum_holding slices (· s.type), hstream, ← sliceValue_cons]

end Slices

section Filters

variable {filters filters' : List IncomeFilter}

lemma selects_congr (h : ∀ f, f ∈ filters ↔ f ∈ filters') (exclude : List IncomeType) :
    selects filters exclude = selects filters' exclude := by
  have hany : ∀ t, (filters.any fun f => f.admits t) = filters'.any fun f => f.admits t := by
    intro t
    rw [Bool.eq_iff_iff, List.any_eq_true, List.any_eq_true]
    simp only [h]
  funext t
  rw [selects, selects, hany]

lemma earned_unearned (t : IncomeType) :
    [selects [.earned] [], selects [.unearned] []].countP (· t) =
      if selects [.all] [] t then 1 else 0 := by
  cases t <;> decide

lemma earned_unearned_ssi (t : IncomeType) :
    [selects [.earned] [], selects [.unearned] [.supplementalSecurity],
      [IncomeType.supplementalSecurity].contains].countP (· t) =
      if selects [.all] [] t then 1 else 0 := by
  cases t <;> decide

/-- All income is earned or unearned. -/
lemma sliceValue_all (streams : List IncomeStream) : sliceValue streams (selects [.all] []) =
    sliceValue streams (selects [.earned] []) + sliceValue streams (selects [.unearned] []) := by
  rw [← sum_sliceValue earned_unearned streams]
  simp

end Filters

namespace Member

variable {m : Member} {filters filters' : List IncomeFilter} {exclude : List IncomeType}

lemma computes_filtered (h : StreamsExact (m.streamsBy filters exclude)) :
    Computes (m.grossIncome .yearly filters exclude)
      (sliceValue m.incomeStreams (selects filters exclude)) :=
  computes_grossIncome h

lemma computes_yearlyIncomeOf {types : List IncomeType} (h : StreamsExact (m.streamsOf types)) :
    Computes (m.yearlyIncomeOf types) (sliceValue m.incomeStreams types.contains) :=
  computes_yearlyTotal h

lemma grossIncome_congr (h : ∀ f, f ∈ filters ↔ f ∈ filters') (m : Member) (window : Timeframe)
    (exclude : List IncomeType) :
    m.grossIncome window filters exclude = m.grossIncome window filters' exclude := by
  have hstreams : m.streamsBy filters exclude = m.streamsBy filters' exclude := by
    have hselects := selects_congr h exclude
    exact congrArg (fun p => m.incomeStreams.filter fun s => p s.type) hselects
  rw [grossIncome, grossIncome, hstreams]

end Member

namespace Household

variable {h : Household} {filters filters' : List IncomeFilter}

lemma incomeValue_eq_sliceValue (h : Household) (filters : List IncomeFilter) :
    h.incomeValue filters = sliceValue h.allStreams (selects filters []) := by
  unfold incomeValue allStreams
  induction h.members with
  | nil => rfl
  | cons m members ih =>
    rw [List.map_cons, List.sum_cons, ih, List.flatMap_cons, sliceValue_append]
    rfl

lemma computes_filtered (hexact : h.IncomeExact filters) :
    Computes (h.grossIncome .yearly filters) (sliceValue h.allStreams (selects filters [])) :=
  h.incomeValue_eq_sliceValue filters ▸ computes_grossIncome hexact

lemma grossIncome_congr (hsame : ∀ f, f ∈ filters ↔ f ∈ filters') (h : Household)
    (window : Timeframe) : h.grossIncome window filters = h.grossIncome window filters' := by
  unfold grossIncome
  simp only [Member.grossIncome_congr hsame]

end Household

namespace Simulation.Input

/-- The variables that each carry the income of some types. -/
def typedInputs : List Input := [
  employmentIncome, selfEmploymentIncome, rentalIncome, taxablePensionIncome, socialSecurity,
  socialSecurityDisability, ssiReported, capitalGains, miscellaneousIncome,
  unemploymentCompensation, workersCompensation, alimonyIncome, childSupportReceived,
  tanfReported, taxableIraDistributions]

/-- The types whose income a variable carries. -/
def incomeTypes : Input → List IncomeType
  | employmentIncome => [.wages]
  | selfEmploymentIncome => [.selfEmployment]
  | rentalIncome => [.rental]
  | taxablePensionIncome => [.pension, .veteran]
  | socialSecurity => [.retirementBenefit, .survivorBenefit, .dependentBenefit]
  | socialSecurityDisability => [.disabilityInsurance]
  | ssiReported => [.supplementalSecurity]
  | capitalGains => [.investment]
  | miscellaneousIncome => [.gifts]
  | unemploymentCompensation => [.unemployment]
  | workersCompensation => [.workersComp]
  | alimonyIncome => [.alimony]
  | childSupportReceived => [.childSupport]
  | tanfReported => [.cashAssistance]
  | taxableIraDistributions => [.deferredComp]
  | _ => []

lemma value_of_typed {input : Input} (h : input ∈ typedInputs) (household : Household)
    (taxUnits : TaxUnits) (m : Member) :
    value household taxUnits (some m) input = incomeOf (some m) input.incomeTypes := by
  cases input <;> first | rfl | exact absurd h (by decide)

/-- Every type of income but the last one is carried by exactly one variable. -/
lemma typedInputs_partition (t : IncomeType) :
    (typedInputs.map fun input => input.incomeTypes.contains).countP (· t) =
      if selects [.all] [.other] t then 1 else 0 := by
  cases t <;> decide

end Simulation.Input

namespace Member

open Simulation

/-- The ways to slice the income of a member agree, wherever the slices add up exactly. -/
structure SlicesAgree (m : Member) : Prop where
  /-- All income is earned or unearned. -/
  earned : StreamsExact (m.streamsBy [.all] []) → StreamsExact (m.streamsBy [.earned] []) →
    StreamsExact (m.streamsBy [.unearned] []) →
    ∃ all earned unearned, m.grossIncome .yearly [.all] [] = .ok all ∧
      m.grossIncome .yearly [.earned] [] = .ok earned ∧
      m.grossIncome .yearly [.unearned] [] = .ok unearned ∧
      all.value = earned.value + unearned.value
  /-- Unearned income is SSI or other unearned income. -/
  ssi : StreamsExact (m.streamsBy [.all] []) → StreamsExact (m.streamsBy [.earned] []) →
    StreamsExact (m.streamsBy [.unearned] [.supplementalSecurity]) →
    StreamsExact (m.streamsOf [.supplementalSecurity]) →
    ∃ all earned unearned ssi, m.grossIncome .yearly [.all] [] = .ok all ∧
      m.grossIncome .yearly [.earned] [] = .ok earned ∧
      m.grossIncome .yearly [.unearned] [.supplementalSecurity] = .ok unearned ∧
      m.yearlyIncomeOf [.supplementalSecurity] = .ok ssi ∧
      all.value = earned.value + unearned.value + ssi.value
  /-- Neither the order of filters nor a repetition makes a difference. -/
  any_order : ∀ window filters filters' exclude, (∀ f, f ∈ filters ↔ f ∈ filters') →
    m.grossIncome window filters exclude = m.grossIncome window filters' exclude
  /-- A stream counts once, however many filters admit it. -/
  once : ∀ filters exclude, StreamsExact (m.streamsBy filters exclude) →
    Computes (m.grossIncome .yearly filters exclude)
      (m.incomeStreams.map fun s => if selects filters exclude s.type then s.yearlyValue else 0).sum
  /-- The variables of a simulation carry all income of known types. -/
  typed : ∀ h taxUnits, StreamsExact (m.streamsBy [.all] [.other]) →
    (∀ input ∈ Input.typedInputs, StreamsExact (m.streamsOf input.incomeTypes)) →
    ∃ (total : Decimal) (amounts : List Decimal),
      m.grossIncome .yearly [.all] [.other] = .ok total ∧
      Input.typedInputs.mapM (Input.value h taxUnits (some m)) =
        .ok (amounts.map Value.number) ∧
      (amounts.map Decimal.value).sum = total.value

theorem slicesAgree (m : Member) : m.SlicesAgree where
  earned hall hearned hunearned := by
    obtain ⟨all, hall, hvalue⟩ := computes_filtered hall
    obtain ⟨earned, hearned, hearnedValue⟩ := computes_filtered hearned
    obtain ⟨unearned, hunearned, hunearnedValue⟩ := computes_filtered hunearned
    refine ⟨all, earned, unearned, hall, hearned, hunearned, ?_⟩
    rw [hvalue, hearnedValue, hunearnedValue, sliceValue_all]
  ssi hall hearned hunearned hssi := by
    obtain ⟨all, hall, hvalue⟩ := computes_filtered hall
    obtain ⟨earned, hearned, hearnedValue⟩ := computes_filtered hearned
    obtain ⟨unearned, hunearned, hunearnedValue⟩ := computes_filtered hunearned
    obtain ⟨ssi, hssi, hssiValue⟩ := computes_yearlyIncomeOf hssi
    refine ⟨all, earned, unearned, ssi, hall, hearned, hunearned, hssi, ?_⟩
    have hsum := sum_sliceValue earned_unearned_ssi m.incomeStreams
    rw [hvalue, ← hsum, hearnedValue, hunearnedValue, hssiValue, List.map_cons, List.map_cons,
      List.map_cons, List.sum_cons, List.sum_cons, List.sum_cons, List.map_nil, List.sum_nil]
    ring
  any_order window _ _ exclude hsame := m.grossIncome_congr hsame window exclude
  once filters exclude h := by
    rw [← sliceValue_eq_sum]
    exact computes_filtered h
  typed h taxUnits hall htyped := by
    obtain ⟨total, htotal, hvalue⟩ := computes_filtered hall
    have hinputs : ∀ input ∈ Input.typedInputs, ∃ a,
        Input.value h taxUnits (some m) input = .ok (Value.number a) ∧
          a.value = sliceValue m.incomeStreams input.incomeTypes.contains := by
      intro input hinput
      obtain ⟨a, ha, hvalue⟩ := computes_yearlyIncomeOf (htyped input hinput)
      refine ⟨a, ?_, hvalue⟩
      rw [Input.value_of_typed hinput]
      exact bind_eq_ok.mpr ⟨a, ha, rfl⟩
    obtain ⟨amounts, hamounts, hvalues⟩ := exists_mapM_amounts hinputs
    refine ⟨total, amounts, htotal, hamounts, ?_⟩
    have hsum := sum_sliceValue Input.typedInputs_partition m.incomeStreams
    rw [hvalue, ← hsum, hvalues, List.map_map]
    rfl

end Member

namespace Household

/-- The ways to slice the income of a household agree, wherever the slices add up exactly, and so do
those to slice the income of a member. -/
structure SlicesAgree (h : Household) : Prop where
  /-- All income is earned or unearned. -/
  earned : h.IncomeExact [.all] → h.IncomeExact [.earned] → h.IncomeExact [.unearned] →
    ∃ all earned unearned, h.grossIncome .yearly [.all] = .ok all ∧
      h.grossIncome .yearly [.earned] = .ok earned ∧
      h.grossIncome .yearly [.unearned] = .ok unearned ∧
      all.value = earned.value + unearned.value
  /-- Neither the order of filters nor a repetition makes a difference. -/
  any_order : ∀ window filters filters', (∀ f, f ∈ filters ↔ f ∈ filters') →
    h.grossIncome window filters = h.grossIncome window filters'
  /-- A stream counts once, however many filters admit it. -/
  once : ∀ filters, h.IncomeExact filters → Computes (h.grossIncome .yearly filters)
    (h.allStreams.map fun s => if selects filters [] s.type then s.yearlyValue else 0).sum
  members : ∀ m ∈ h.members, m.SlicesAgree

/-- No income is lost, and none counts twice. -/
theorem income_slices_agree (h : Household) : h.SlicesAgree where
  earned hall hearned hunearned := by
    obtain ⟨all, hall, hvalue⟩ := computes_filtered hall
    obtain ⟨earned, hearned, hearnedValue⟩ := computes_filtered hearned
    obtain ⟨unearned, hunearned, hunearnedValue⟩ := computes_filtered hunearned
    refine ⟨all, earned, unearned, hall, hearned, hunearned, ?_⟩
    rw [hvalue, hearnedValue, hunearnedValue, sliceValue_all]
  any_order window _ _ hsame := h.grossIncome_congr hsame window
  once filters hexact := by
    rw [← sliceValue_eq_sum]
    exact computes_filtered hexact
  members m _ := m.slicesAgree

open TaxUnits (lodger sharedFlat)

/-- A pensioner with SSI, and with wages by the hour. -/
def pensioner : Member := lodger 1 .headOfHousehold (some 67) [
  ⟨.pension, .hundredths 91250, .monthly, none⟩,
  ⟨.wages, .hundredths 1575, .hourly, some (.tenths 85)⟩,
  ⟨.supplementalSecurity, .whole 120, .monthly, none⟩,
  ⟨.other, .whole 40, .yearly, none⟩]

/-- The pensioner lives with somebody who works and has a child to support. -/
def pensioners : Household := { sharedFlat with
  members := [pensioner, lodger 2 .roommate (some 30) [
    ⟨.wages, .whole 700, .biweekly, none⟩, ⟨.childSupport, .whole 90, .weekly, none⟩]] }

lemma pensioners_hundredths : ∀ s ∈ pensioners.allStreams, s.InHundredths := by decide

lemma pensioners_moderate :
    ((pensioners.allStreams.map IncomeStream.yearlyValue).map abs).sum ≤ 10 ^ 23 := by
  simp only [allStreams, pensioners, pensioner, lodger, List.flatMap_cons, List.flatMap_nil,
    List.cons_append, List.nil_append, List.map_cons, List.map_nil, IncomeStream.yearlyValue,
    IncomeStream.recurringValue, IncomeStream.hours, reduceCtorEq, if_true, if_false,
    Option.getD_some, Frequency.perYear, value_whole, value_tenths, value_hundredths]
  norm_num [UInt64.toNat_ofNat]

/-- The wages and the rest of the income are all of it, SSI counts apart from the rest, and a
simulation gets all of the pensioner's income but that of an unknown kind. -/
theorem pensioners_slices_agree :
    (∃ all earned unearned, pensioners.grossIncome .yearly [.all] = .ok all ∧
      pensioners.grossIncome .yearly [.earned] = .ok earned ∧
      pensioners.grossIncome .yearly [.unearned] = .ok unearned ∧
      all.value = earned.value + unearned.value) ∧
    pensioners.grossIncome .yearly [.all, .earned, .only .wages] =
      pensioners.grossIncome .yearly [.only .wages, .earned, .all, .earned] ∧
    (∃ all earned unearned ssi, pensioner.grossIncome .yearly [.all] [] = .ok all ∧
      pensioner.grossIncome .yearly [.earned] [] = .ok earned ∧
      pensioner.grossIncome .yearly [.unearned] [.supplementalSecurity] = .ok unearned ∧
      pensioner.yearlyIncomeOf [.supplementalSecurity] = .ok ssi ∧
      all.value = earned.value + unearned.value + ssi.value) ∧
    ∀ taxUnits, ∃ (total : Decimal) (amounts : List Decimal),
      pensioner.grossIncome .yearly [.all] [.other] = .ok total ∧
      Simulation.Input.typedInputs.mapM
        (Simulation.Input.value pensioners taxUnits (some pensioner)) =
        .ok (amounts.map Simulation.Value.number) ∧
      (amounts.map Decimal.value).sum = total.value := by
  have hincome : ∀ filters, pensioners.IncomeExact filters :=
    incomeExact_of_hundredths pensioners_hundredths pensioners_moderate
  have hmember : pensioner ∈ pensioners.members := List.mem_cons_self
  have hpart : ∀ {part : List IncomeStream}, part.Sublist pensioner.incomeStreams →
      StreamsExact part := fun hpart =>
    streamsExact_of_hundredths pensioners_hundredths pensioners_moderate
      (hpart.trans (incomeStreams_sublist hmember))
  have hby : ∀ filters exclude, StreamsExact (pensioner.streamsBy filters exclude) :=
    fun _ _ => hpart List.filter_sublist
  have hof : ∀ types, StreamsExact (pensioner.streamsOf types) :=
    fun _ => hpart List.filter_sublist
  have hagree := income_slices_agree pensioners
  have hpensioner := hagree.members pensioner hmember
  exact ⟨hagree.earned (hincome _) (hincome _) (hincome _),
    hagree.any_order _ _ _ (by grind),
    hpensioner.ssi (hby _ _) (hby _ _) (hby _ _) (hof _),
    fun taxUnits => hpensioner.typed _ taxUnits (hby _ _) fun _ _ => hof _⟩

end Household

end BenefitScreen
