import BenefitScreen.Program.Energy
import BenefitScreen.Proofs.IncomeTotals
import BenefitScreen.Proofs.PovertyChecks
import BenefitScreen.Proofs.ProgramResult
import BenefitScreen.Proofs.TaxReturns

/-!
# Heating assistance follows need

Eligibility and value compare the countable income with different limits, which all move with the
size of the household, and a senior or disabled member changes both the income and one of the
limits. All of them move the same way: a household that is worse off is never refused where the
other one is eligible, and never gets less.
-/

namespace BenefitScreen

open Decimal Fallible

namespace PovertyTable

variable {t : PovertyTable} {n : UInt64}

/-- What the people beyond a table add to the last guideline. -/
def addedValue (t : PovertyTable) (size : UInt64) : ℚ :=
  t.additionalPerson.value * (people size - t.limits.length : Nat)

/-- The guideline on paper. -/
def guidelineValue (t : PovertyTable) (size : UInt64) : ℚ :=
  (t.limits[people size - 1]?.getD t.last).value + t.addedValue size

/-- The values that a guideline is computed from can be written as amounts. -/
structure GuidelineExact (t : PovertyTable) (size : UInt64) : Prop where
  added : Representable (t.addedValue size)
  total : Representable (t.guidelineValue size)

lemma guidelineValue_of_published {a : Decimal} (h : t.limits[people n - 1]? = some a) :
    t.addedValue n = 0 ∧ t.guidelineValue n = a.value := by
  have hnobody : people n - t.limits.length = 0 := by
    have hlength := (List.getElem?_eq_some_iff.mp h).1
    omega
  have hadded : t.addedValue n = 0 := by
    rw [addedValue, hnobody]
    simp
  refine ⟨hadded, ?_⟩
  rw [guidelineValue, hadded, h, Option.getD_some, add_zero]

lemma guidelineExact_of_published {a : Decimal} (h : t.limits[people n - 1]? = some a) :
    t.GuidelineExact n := by
  obtain ⟨hadded, htotal⟩ := guidelineValue_of_published h
  exact ⟨⟨.zero, value_zero.trans hadded.symm⟩, ⟨a, htotal.symm⟩⟩

theorem computes_limit (ht : t.Sound) (h : t.GuidelineExact n) :
    Computes (t.limit n) (t.guidelineValue n) := by
  have hadded := h.added
  have htotal := h.total
  cases hpublished : t.limits[people n - 1]? with
  | some a =>
    rw [(guidelineValue_of_published hpublished).2]
    unfold people at hpublished
    unfold limit
    dsimp only
    rw [hpublished]
    exact ⟨a, rfl, rfl⟩
  | none =>
    unfold guidelineValue at htotal ⊢
    unfold addedValue at hadded htotal ⊢
    rw [hpublished, Option.getD_none] at htotal ⊢
    rw [← t.toNat_beyond n ht.nonempty, ← value_whole] at hadded htotal ⊢
    obtain ⟨added, hadded, hvalue⟩ := computes_mul hadded
    rw [← hvalue] at htotal ⊢
    obtain ⟨a, ha, htotal⟩ := computes_add htotal
    unfold people at hpublished hadded
    unfold limit
    dsimp only
    rw [hpublished]
    exact ⟨a, bind_eq_ok.mpr ⟨added, hadded, ha⟩, htotal⟩

end PovertyTable

namespace HeatingAssistance

variable {h h' : Household} {ctx ctx' : Context} {r r' : ProgramResult}

section Need

/-- No more is received, and it is of the same type. -/
structure Reduced (s s' : IncomeStream) : Prop where
  type : s'.type = s.type
  yearly : ∀ a b, s.yearly = .ok a → s'.yearly = .ok b → b ≤ a

/-- No less is spent on what is deducted, and the type is the same. -/
structure Raised (e e' : Expense) : Prop where
  type : e'.type = e.type
  yearly : e.type ∈ deductedExpenses → ∀ a b, e.yearly = .ok a → e'.yearly = .ok b → a ≤ b

structure WorseOff (m m' : Member) : Prop where
  streams : List.Forall₂ Reduced m.incomeStreams m'.incomeStreams
  oldOrDisabled : m.OldOrDisabled 60 → m'.OldOrDisabled 60

/-- Nothing is different, unless it makes the second household the needier one. -/
structure Needier (h h' : Household) : Prop where
  members : List.Forall₂ WorseOff h.members h'.members
  expenses : List.Forall₂ Raised h.expenses h'.expenses
  size : h.size ≤ h'.size

lemma grossIncome_le_member {m m' : Member} (hm : WorseOff m m') {filters : List IncomeFilter}
    {a a' : Decimal} (ha : m.grossIncome .yearly filters [] = .ok a)
    (ha' : m'.grossIncome .yearly filters [] = .ok a') : a' ≤ a := by
  rw [Member.grossIncome_yearly] at ha ha'
  have hstreams : List.Forall₂ Reduced (m.streamsBy filters []) (m'.streamsBy filters []) := by
    refine List.rel_filter (fun s s' hs => ?_) hm.streams
    dsimp only
    rw [hs.type]
  exact total_le_total hstreams.flip (fun s' s b c hs hb hc => hs.yearly c b hc hb) ha' ha

lemma grossIncome_le (hneed : Needier h h') {filters : List IncomeFilter} {a a' : Decimal}
    (ha : h.grossIncome .yearly filters = .ok a) (ha' : h'.grossIncome .yearly filters = .ok a') :
    a' ≤ a :=
  total_le_total hneed.members.flip (fun _ _ _ _ hm hb hc => grossIncome_le_member hm hc hb) ha' ha

lemma totalExpenses_le (hneed : Needier h h') {a a' : Decimal}
    (ha : h.totalExpenses .yearly deductedExpenses = .ok a)
    (ha' : h'.totalExpenses .yearly deductedExpenses = .ok a') : a ≤ a' := by
  obtain ⟨t, ht, ha⟩ := bind_eq_ok.mp ha
  obtain ⟨t', ht', ha'⟩ := bind_eq_ok.mp ha'
  cases pure_eq_ok.mp ha
  cases pure_eq_ok.mp ha'
  have hexpenses : List.Forall₂ Raised (h.expensesOf deductedExpenses)
      (h'.expensesOf deductedExpenses) := by
    refine List.rel_filter (fun e e' he => ?_) hneed.expenses
    dsimp only
    rw [he.type]
  have hdeducted : ∀ e ∈ h.expensesOf deductedExpenses, e.type ∈ deductedExpenses := fun e he =>
    List.contains_iff_mem.mp (List.mem_filter.mp he).2
  exact total_le_total ((List.forall₂_and_left _ _).mpr ⟨hdeducted, hexpenses⟩)
    (fun e e' b c he hb hc => he.2.yearly he.1 b c hb hc) ht ht'

lemma any_of_needier (hneed : Needier h h') (hany : seniorOrDisabled.any h = true) :
    seniorOrDisabled.any h' = true := by
  obtain ⟨m, hm, hpasses⟩ := List.any_eq_true.mp hany
  obtain ⟨m', hm', hworse⟩ := exists_of_forall₂_mem hneed.members.flip hm
  have hold := hworse.oldOrDisabled ((AgeRule.passes_iff rfl).mp hpasses)
  exact List.any_eq_true.mpr ⟨m', hm', (AgeRule.passes_iff rfl).mpr hold⟩

lemma types_of_raised {es es' : List Expense} (h : List.Forall₂ Raised es es') :
    es'.map (·.type) = es.map (·.type) := by
  induction h with
  | nil => rfl
  | cons he _ ih => rw [List.map_cons, List.map_cons, he.type, ih]

lemma hasExpense_of_needier (hneed : Needier h h') (types : List ExpenseType) :
    h'.hasExpense types = h.hasExpense types := by
  have hmap : ∀ h : Household,
      h.hasExpense types = (h.expenses.map (·.type)).any types.contains := by
    intro h
    rw [List.any_map]
    rfl
  rw [hmap, hmap, types_of_raised hneed.expenses]

end Need

section Income

/-- What is taken off for a senior or disabled member. -/
def deduction (h : Household) : Decimal :=
  if seniorOrDisabled.any h then medicalDeduction else .zero

/-- How the countable income comes about. -/
inductive Counts (h : Household) : Decimal → Prop
  | intro {earned unearned expenses shared gross net rest : Decimal}
    (hearned : h.grossIncome .yearly [.earned] = .ok earned)
    (hunearned : h.grossIncome .yearly [.unearned] = .ok unearned)
    (hexpenses : h.totalExpenses .yearly deductedExpenses = .ok expenses)
    (hshared : earned.mul earnedShare = .ok shared) (hgross : shared.add unearned = .ok gross)
    (hnet : gross.sub expenses = .ok net) (hrest : net.sub (deduction h) = .ok rest) :
    Counts h (rest.max .zero)

lemma countableIncome_eq_ok {income : Decimal} :
    countableIncome h = .ok income ↔ Counts h income := by
  unfold countableIncome
  simp only [bind_eq_ok, pure_eq_ok]
  constructor
  · rintro ⟨_, hearned, _, hunearned, _, hexpenses, _, hshared, _, hgross, _, hnet, _, hrest, rfl⟩
    exact .intro hearned hunearned hexpenses hshared hgross hnet hrest
  · rintro ⟨hearned, hunearned, hexpenses, hshared, hgross, hnet, hrest⟩
    exact ⟨_, hearned, _, hunearned, _, hexpenses, _, hshared, _, hgross, _, hnet, _, hrest, rfl⟩

lemma countableIncome_le (hneed : Needier h h') {income income' : Decimal}
    (hincome : countableIncome h = .ok income) (hincome' : countableIncome h' = .ok income') :
    income' ≤ income := by
  obtain ⟨hearned, hunearned, hexpenses, hshared, hgross, hnet, hrest⟩ :=
    countableIncome_eq_ok.mp hincome
  obtain ⟨hearned', hunearned', hexpenses', hshared', hgross', hnet', hrest'⟩ :=
    countableIncome_eq_ok.mp hincome'
  have hdeduction : deduction h ≤ deduction h' := by
    unfold deduction
    by_cases hany : seniorOrDisabled.any h = true
    · rw [if_pos hany, if_pos (any_of_needier hneed hany)]
      exact le_refl _
    · rw [if_neg hany]
      split <;> exact zero_le_whole _
  have hshared := mul_le_mul_right (by decide) (grossIncome_le hneed hearned hearned') hshared'
    hshared
  have hgross := add_le_add hshared (grossIncome_le hneed hunearned hunearned') hgross' hgross
  have hnet := sub_le_sub hgross (totalExpenses_le hneed hexpenses hexpenses') hnet' hnet
  exact max_le_max (sub_le_sub hnet hdeduction hrest' hrest) _

end Income

section Value

variable {m n : UInt64} {guideline guideline' income income' : Decimal}

/-- The yearly amount for an income, where a guideline holds for the size. -/
def award (size : UInt64) (guideline income : Decimal) : Decimal :=
  if income ≤ guideline.divNat 2 then (amounts size).1
  else if income ≤ guideline then (amounts size).2
  else .zero

lemma amounts_le_amounts (h : m ≤ n) :
    (amounts m).1 ≤ (amounts n).1 ∧ (amounts m).2 ≤ (amounts n).2 := by
  unfold amounts
  split
  · split <;> decide
  · rename_i hlarge
    rw [if_neg fun hsmall => hlarge (UInt64.lt_of_le_of_lt h hsmall)]
    exact ⟨le_refl _, le_refl _⟩

lemma amounts_ordered (n : UInt64) : .zero ≤ (amounts n).2 ∧ (amounts n).2 ≤ (amounts n).1 := by
  unfold amounts
  split <;> decide

lemma zero_le_award (n : UInt64) (guideline income : Decimal) :
    .zero ≤ award n guideline income := by
  obtain ⟨hlow, hlowest⟩ := amounts_ordered n
  unfold award
  split
  · exact le_trans hlow hlowest
  · split
    · exact hlow
    · exact le_refl _

/-- Whoever is at or below a limit still is, when the income goes down and the limit goes up. -/
lemma award_le_award (hsize : m ≤ n) (hguideline : guideline ≤ guideline')
    (hincome : income' ≤ income) : award m guideline income ≤ award n guideline' income' := by
  obtain ⟨hlowest, hlow⟩ := amounts_le_amounts hsize
  have hordered := (amounts_ordered n).2
  have hhalf := divNat_le_divNat (n := 2) (by decide) hguideline
  unfold award
  by_cases hless : income ≤ guideline.divNat 2
  · rw [if_pos hless, if_pos (le_trans (le_trans hincome hless) hhalf)]
    exact hlowest
  rw [if_neg hless]
  by_cases hmore : income ≤ guideline
  · rw [if_pos hmore, if_pos (le_trans (le_trans hincome hmore) hguideline)]
    split
    · exact le_trans hlow hordered
    · exact hlow
  · rw [if_neg hmore]
    exact zero_le_award n guideline' income'

lemma householdValue_eq (ctx : Context) : householdValue ctx = do
    let income ← countableIncome ctx.household
    return award ctx.household.size (← ctx.guideline) income := by
  unfold householdValue award
  cases countableIncome ctx.household with
  | error e => rfl
  | ok income =>
    cases ctx.guideline with
    | error e => rfl
    | ok guideline =>
      simp only [ok_bind]
      split
      · rfl
      · split <;> rfl

lemma householdValue_eq_ok {amount : Decimal} : householdValue ctx = .ok amount ↔
    ∃ income, countableIncome ctx.household = .ok income ∧ ∃ guideline,
      ctx.guideline = .ok guideline ∧ award ctx.household.size guideline income = amount := by
  simp only [householdValue_eq, bind_eq_ok, pure_eq_ok]

end Value

section Result

/-- The rules decide on the countable income and a share of the guideline. -/
structure Decides (ctx : Context) (income ceiling : Decimal) (r : ProgramResult) : Prop where
  counts : countableIncome ctx.household = .ok income
  share : PovertyCheck.limit ctx.program.table ctx.household.size (maxPercent ctx.household) =
    .ok ceiling
  eligible_iff : r.eligible = true ↔
    ctx.household.hasExpense qualifyingExpenses = true ∧ income ≤ ceiling
  refused : r.eligible = false → r.value = .zero
  granted : r.eligible = true → ∃ guideline, ctx.guideline = .ok guideline ∧
    r.value = award ctx.household.size guideline income

lemma decides_of_calculate (h : calculator.calculate ctx = .ok r) :
    ∃ income ceiling, Decides ctx income ceiling r := by
  obtain ⟨outcomes, hcalculation⟩ := Calculator.exists_calculation h
  have hmembers : outcomes = [] := (Except.ok.inj hcalculation.memberOutcomes).symm
  obtain ⟨income, hincome, hconditions⟩ := bind_eq_ok.mp hcalculation.householdConditions
  obtain ⟨ceiling, hceiling, hconditions⟩ := bind_eq_ok.mp hconditions
  refine ⟨income, ceiling, hincome, hceiling, ?_, fun hno => (hcalculation.refused hno).2,
    fun heligible => ?_⟩
  · rw [hcalculation.eligible, ← pure_eq_ok.mp hconditions]
    simp [Calculator.simulationConditions, calculator, Conditions.passed, checkFor]
  · obtain ⟨amount, hamount, hvalued⟩ := hcalculation.granted heligible
    rw [hmembers, Calculator.valueMembers_nil] at hvalued
    obtain ⟨income', hincome', guideline, hguideline, rfl⟩ := householdValue_eq_ok.mp hamount
    obtain rfl : income = income' := Except.ok.inj (hincome.symm.trans hincome')
    exact ⟨guideline, hguideline, (congrArg Prod.snd (Except.ok.inj hvalued)).symm⟩

lemma maxPercent_le (hneed : Needier h h') :
    .zero ≤ maxPercent h ∧ maxPercent h ≤ maxPercent h' := by
  unfold maxPercent
  by_cases hany : seniorOrDisabled.any h = true
  · rw [if_pos hany, if_pos (any_of_needier hneed hany)]
    decide
  · rw [if_neg hany]
    split <;> decide

/-- Whoever is worse off is eligible as well and gets no less, even where digits are lost. -/
theorem calculate_mono (ht : ctx.program.table.Sound)
    (htable : ctx'.program.table = ctx.program.table)
    (hneed : Needier ctx.household ctx'.household) (h : calculator.calculate ctx = .ok r)
    (h' : calculator.calculate ctx' = .ok r') :
    (r.eligible = true → r'.eligible = true) ∧ r.value ≤ r'.value := by
  obtain ⟨income, ceiling, hdecides⟩ := decides_of_calculate h
  obtain ⟨income', ceiling', hdecides'⟩ := decides_of_calculate h'
  have hincome := countableIncome_le hneed hdecides.counts hdecides'.counts
  have hceiling : ceiling ≤ ceiling' := by
    have hshare' := hdecides'.share
    rw [htable] at hshare'
    obtain ⟨hpercent, hpercents⟩ := maxPercent_le hneed
    exact PovertyCheck.limit_le_limit ht hneed.size hpercent hpercents hdecides.share hshare'
  have heligible : r.eligible = true → r'.eligible = true := by
    rw [hdecides.eligible_iff, hdecides'.eligible_iff, hasExpense_of_needier hneed]
    rintro ⟨hexpense, hless⟩
    exact ⟨hexpense, le_trans (le_trans hincome hless) hceiling⟩
  refine ⟨heligible, ?_⟩
  cases hr : r.eligible with
  | true =>
    obtain ⟨guideline, hguideline, hvalue⟩ := hdecides.granted hr
    obtain ⟨guideline', hguideline', hvalue'⟩ := hdecides'.granted (heligible hr)
    rw [Context.guideline, htable] at hguideline'
    rw [hvalue, hvalue']
    exact award_le_award hneed.size (ht.limit_mono hneed.size hguideline hguideline') hincome
  | false =>
    rw [hdecides.refused hr]
    cases hr' : r'.eligible with
    | true =>
      obtain ⟨guideline', _, hvalue'⟩ := hdecides'.granted hr'
      rw [hvalue']
      exact zero_le_award _ _ _
    | false =>
      rw [hdecides'.refused hr']
      exact le_refl _

end Result

section Exact

/-- Income on paper before anything is deducted. -/
def grossValue (h : Household) : ℚ :=
  h.incomeValue [.earned] * earnedShare.value + h.incomeValue [.unearned]

/-- Income on paper after the deducted expenses. -/
def netValue (h : Household) : ℚ :=
  grossValue h - expensesValue (h.expensesOf deductedExpenses)

/-- The values that the decision is computed from can be written as amounts. -/
structure DecidesExactly (ctx : Context) : Prop where
  earned : ctx.household.IncomeExact [.earned]
  unearned : ctx.household.IncomeExact [.unearned]
  expenses : ExpensesExact (ctx.household.expensesOf deductedExpenses)
  shared : Representable (ctx.household.incomeValue [.earned] * earnedShare.value)
  gross : Representable (grossValue ctx.household)
  net : Representable (netValue ctx.household)
  counted : Representable (netValue ctx.household - (deduction ctx.household).value)
  guideline : ctx.program.table.GuidelineExact ctx.household.size
  ceiling : Representable (ctx.program.table.guidelineValue ctx.household.size *
    (maxPercent ctx.household).value)

lemma computes_countableIncome (h : DecidesExactly ctx) : Computes (countableIncome ctx.household)
    (max (netValue ctx.household - (deduction ctx.household).value) 0) := by
  have hshared := h.shared
  have hgross := h.gross
  have hnet := h.net
  have hcounted := h.counted
  obtain ⟨earned, hearned, hearnedValue⟩ := Household.computes_grossIncome h.earned
  obtain ⟨unearned, hunearned, hunearnedValue⟩ := Household.computes_grossIncome h.unearned
  obtain ⟨expenses, hexpenses, hexpensesValue⟩ := Household.computes_totalExpenses h.expenses
  unfold netValue at hnet hcounted ⊢
  unfold grossValue at hgross hnet hcounted ⊢
  rw [← hearnedValue] at hshared hgross hnet hcounted ⊢
  rw [← hunearnedValue] at hgross hnet hcounted ⊢
  rw [← hexpensesValue] at hnet hcounted ⊢
  obtain ⟨shared, hshared, hsharedValue⟩ := computes_mul hshared
  rw [← hsharedValue] at hgross hnet hcounted ⊢
  obtain ⟨gross, hgross, hgrossValue⟩ := computes_add hgross
  rw [← hgrossValue] at hnet hcounted ⊢
  obtain ⟨net, hnet, hnetValue⟩ := computes_sub hnet
  rw [← hnetValue] at hcounted ⊢
  obtain ⟨rest, hrest, hrestValue⟩ := computes_sub hcounted
  refine ⟨rest.max .zero, countableIncome_eq_ok.mpr ?_, ?_⟩
  · exact .intro hearned hunearned hexpenses hshared hgross hnet hrest
  · rw [value_max, hrestValue, value_zero]

/-- Where the values can be written as amounts, there is a decision. -/
lemma exists_decision (ht : ctx.program.table.Sound) (h : DecidesExactly ctx) :
    ∃ r, calculator.calculate ctx = .ok r := by
  obtain ⟨income, hincome, _⟩ := computes_countableIncome h
  obtain ⟨guideline, hguideline, hvalue⟩ := PovertyTable.computes_limit ht h.guideline
  have hshare := h.ceiling
  rw [← hvalue] at hshare
  obtain ⟨share, hshare, _⟩ := computes_mul hshare
  have hceiling : PovertyCheck.limit ctx.program.table ctx.household.size
      (maxPercent ctx.household) = .ok share.trunc :=
    bind_eq_ok.mpr ⟨guideline, hguideline, bind_eq_ok.mpr ⟨share, hshare, rfl⟩⟩
  have hrecorded : ∃ cs, calculator.householdConditions ctx [] = .ok cs :=
    ⟨_, bind_eq_ok.mpr ⟨income, hincome, bind_eq_ok.mpr ⟨share.trunc, hceiling, rfl⟩⟩⟩
  obtain ⟨cs, hcs⟩ := hrecorded
  have hamount : calculator.householdValue ctx =
      .ok (award ctx.household.size guideline income) :=
    householdValue_eq_ok.mpr ⟨income, hincome, guideline, hguideline, rfl⟩
  exact Calculator.exists_calculate rfl hcs hamount

end Exact

/-- Heating assistance follows need, wherever the decisions can be computed exactly. -/
theorem assistance_follows_need {table : String}
    (hvalid : ctx.program.table.validate table = .ok ())
    (htable : ctx'.program.table = ctx.program.table)
    (hneed : Needier ctx.household ctx'.household) (hexact : DecidesExactly ctx)
    (hexact' : DecidesExactly ctx') :
    ∃ r r', calculator.calculate ctx = .ok r ∧ calculator.calculate ctx' = .ok r' ∧
      (r.eligible = true → r'.eligible = true) ∧ r.value ≤ r'.value := by
  have ht : ctx.program.table.Sound := PovertyTable.sound_of_validate hvalid
  have ht' : ctx'.program.table.Sound := htable ▸ ht
  obtain ⟨r, hr⟩ := exists_decision ht hexact
  obtain ⟨r', hr'⟩ := exists_decision ht' hexact'
  exact ⟨r, r', hr, hr', calculate_mono ht htable hneed hr hr'⟩

section Hundredths

lemma hasDigits_deduction (h : Household) : HasDigits 0 (deduction h).value := by
  unfold deduction
  split <;> exact hasDigits_value (Nat.le_refl 0)

lemma hasDigits_maxPercent (h : Household) : HasDigits 1 (maxPercent h).value := by
  unfold maxPercent
  split <;> exact hasDigits_value (Nat.le_refl 1)

lemma deduction_le (h : Household) : 0 ≤ (deduction h).value ∧ (deduction h).value ≤ 1020 := by
  unfold deduction
  split
  · have hvalue : medicalDeduction.value = 1020 := value_whole 1020
    norm_num [hvalue]
  · norm_num

lemma maxPercent_le_two (h : Household) :
    0 ≤ (maxPercent h).value ∧ (maxPercent h).value ≤ 2 := by
  unfold maxPercent
  split <;> norm_num [value_tenths, UInt64.toNat_ofNat]

lemma value_earnedShare : earnedShare.value = 8 / 10 := value_tenths 8

/-- Where incomes, expenses and guidelines are in hundredths and not very large, every decision is
exact. -/
theorem decidesExactly_of_hundredths
    (hstreams : ∀ s ∈ ctx.household.allStreams, s.InHundredths)
    (hincome : ((ctx.household.allStreams.map IncomeStream.yearlyValue).map abs).sum ≤ 10 ^ 22)
    (hexpenses : ∀ e ∈ ctx.household.expenses, e.amount.scale ≤ 2)
    (hspent : ((ctx.household.expenses.map Expense.yearlyValue).map abs).sum ≤ 10 ^ 22)
    (hguideline : ctx.program.table.GuidelineExact ctx.household.size)
    (hdigits : HasDigits 4 (ctx.program.table.guidelineValue ctx.household.size))
    (hsmall : |ctx.program.table.guidelineValue ctx.household.size| ≤ 10 ^ 22) :
    DecidesExactly ctx := by
  have hpart : (ctx.household.expensesOf deductedExpenses).Sublist ctx.household.expenses :=
    List.filter_sublist
  have hearned := (Household.hasDigits_incomeValue hstreams [.earned]).mul
    (hasDigits_value (a := earnedShare) (Nat.le_refl 1))
  have hgross := hearned.add
    ((Household.hasDigits_incomeValue hstreams [.unearned]).mono (by decide))
  have hnet := hgross.sub
    ((hasDigits_expensesValue fun e he => hexpenses e (hpart.subset he)).mono (by decide))
  have hcounted := hnet.sub ((hasDigits_deduction ctx.household).mono (by decide))
  have hceiling := hdigits.mul (hasDigits_maxPercent ctx.household)
  have hearnedSize := abs_le.mp ((ctx.household.abs_incomeValue_le [.earned]).trans hincome)
  have hunearnedSize := abs_le.mp ((ctx.household.abs_incomeValue_le [.unearned]).trans hincome)
  have hexpensesSize := abs_le.mp ((abs_expensesValue_le hpart).trans hspent)
  have hguidelineSize := abs_le.mp hsmall
  have hdeduction := deduction_le ctx.household
  have hpercent := maxPercent_le_two ctx.household
  have hroom : (10 : ℚ) ^ 22 ≤ 10 ^ 23 := by norm_num
  refine ⟨Household.incomeExact_of_hundredths hstreams (hincome.trans hroom) _,
    Household.incomeExact_of_hundredths hstreams (hincome.trans hroom) _,
    expensesExact_of_hundredths hexpenses (hspent.trans hroom) hpart,
    hearned.representable (by decide) (abs_le.mpr ?_),
    hgross.representable (by decide) (abs_le.mpr ?_),
    hnet.representable (by decide) (abs_le.mpr ?_),
    hcounted.representable (by decide) (abs_le.mpr ?_), hguideline,
    hceiling.representable (by decide) (abs_le.mpr ?_)⟩
  · rw [value_earnedShare]
    constructor <;> linarith
  · rw [grossValue, value_earnedShare]
    constructor <;> linarith
  · rw [netValue, grossValue, value_earnedShare]
    constructor <;> linarith
  · rw [netValue, grossValue, value_earnedShare]
    constructor <;> linarith
  · constructor <;> nlinarith

end Hundredths

open TaxUnits (lodger sharedFlat)

/-- A tenant with wages who pays for child care. -/
def tenant (age : UInt32) (wages care size : UInt64) : Context where
  household := { sharedFlat with
    state := "NC"
    reportedSize := some size
    members := [lodger 1 .headOfHousehold (some age) [⟨.wages, .whole wages, .monthly, none⟩]]
    expenses := [⟨.rent, .whole 700, .monthly⟩, ⟨.childCare, .whole care, .monthly⟩] }
  program := ⟨"nc_lieap", "Low Income Energy Assistance Program", some "NC", "2025",
    Shipped.table2025⟩
  results := .empty
  simulation := .skipped
  limits := .empty
  asOf := ⟨2025, 6, 1⟩

section Tenant

variable {age age' : UInt32} {wages wages' care care' size size' : UInt64}

/-- Whatever the tenant earns and spends, and however old the tenant is, the decision is exact. -/
lemma tenant_decidesExactly (guideline : UInt64) (hpublished :
    Shipped.table2025.limits[PovertyTable.people size - 1]? = some (.whole guideline)) :
    DecidesExactly (tenant age wages care size) := by
  have hstreams : (tenant age wages care size).household.allStreams =
      [⟨.wages, .whole wages, .monthly, none⟩] := rfl
  have hexpenses : (tenant age wages care size).household.expenses =
      [⟨.rent, .whole 700, .monthly⟩, ⟨.childCare, .whole care, .monthly⟩] := rfl
  have hwages : (wages.toNat : ℚ) < 2 ^ 64 := by exact_mod_cast wages.toNat_lt
  have hcare : (care.toNat : ℚ) < 2 ^ 64 := by exact_mod_cast care.toNat_lt
  have hguideline : (guideline.toNat : ℚ) < 2 ^ 64 := by exact_mod_cast guideline.toNat_lt
  have hvalue := (PovertyTable.guidelineValue_of_published hpublished).2
  apply decidesExactly_of_hundredths
  · rw [hstreams]
    intro s hs
    obtain rfl := List.mem_singleton.mp hs
    exact ⟨Nat.zero_le 2, fun _ hnone => by cases hnone⟩
  · rw [hstreams]
    simp [IncomeStream.yearlyValue, IncomeStream.recurringValue, Frequency.perYear, value_whole,
      UInt64.toNat_ofNat, abs_mul]
    linarith
  · rw [hexpenses]
    intro e he
    rcases List.mem_pair.mp he with rfl | rfl <;> exact Nat.zero_le 2
  · rw [hexpenses]
    simp [Expense.yearlyValue, Frequency.perYear, value_whole, UInt64.toNat_ofNat, abs_mul]
    linarith
  · exact PovertyTable.guidelineExact_of_published hpublished
  · exact hvalue ▸ hasDigits_value (Nat.zero_le 4)
  · refine hvalue ▸ ?_
    rw [value_whole, abs_of_nonneg (Nat.cast_nonneg _)]
    linarith

lemma tenant_needier (hage : age ≤ age') (hwages : wages' ≤ wages) (hcare : care ≤ care')
    (hsize : size ≤ size') :
    Needier (tenant age wages care size).household (tenant age' wages' care' size').household where
  members := by
    refine .cons ⟨.cons ⟨rfl, fun a b ha hb => ?_⟩ .nil, ?_⟩ .nil
    · exact mul_le_mul_right (zero_le_whole 12) (whole_le_whole.mpr hwages) hb ha
    · rintro (⟨years, hyears, hold⟩ | hdisabled)
      · obtain rfl := Option.mem_some_iff.mp hyears
        exact .inl ⟨age', rfl, UInt32.le_trans hold hage⟩
      · cases hdisabled
  expenses := by
    refine .cons ⟨rfl, fun _ a b ha hb => ?_⟩ (.cons ⟨rfl, fun _ a b ha hb => ?_⟩ .nil)
    · rw [ha] at hb
      obtain rfl := Except.ok.inj hb
      exact le_refl _
    · exact mul_le_mul_right (zero_le_whole 12) (whole_le_whole.mpr hcare) ha hb
  size := hsize

end Tenant

/-- A tenant who turns sixty earns less, pays more for child care, and has one more person to keep
warm. -/
theorem tenant_follows_need :
    ∃ r r', calculator.calculate (tenant 59 1800 200 3) = .ok r ∧
      calculator.calculate (tenant 60 1700 250 4) = .ok r' ∧
      (r.eligible = true → r'.eligible = true) ∧ r.value ≤ r'.value := by
  have hvalid : (tenant 59 1800 200 3).program.table.validate "2025" = .ok () := rfl
  have hneed := tenant_needier (show (59 : UInt32) ≤ 60 by decide)
    (show (1700 : UInt64) ≤ 1800 by decide) (show (200 : UInt64) ≤ 250 by decide)
    (show (3 : UInt64) ≤ 4 by decide)
  exact assistance_follows_need hvalid rfl hneed (tenant_decidesExactly 26650 rfl)
    (tenant_decidesExactly 32150 rfl)

end HeatingAssistance

end BenefitScreen
