import BenefitScreen.Proofs.IncomePartition

/-!
# Realistic money

Money is realistic if it is stated in hundredths, hours as well as amounts, and if gains and losses
of a year together stay below `10 ^ 22`. Every yearly amount of realistic money and every total of
some of it is exact: nothing overflows, and no digit is lost.
-/

namespace BenefitScreen

open Decimal

section Annual

/-- How often something recurs in a year; what is paid by the hour recurs by the week. -/
def Frequency.timesAYear : Frequency → ℚ
  | weekly => 52
  | biweekly => 26
  | semimonthly => 24
  | monthly => 12
  | yearly => 1
  | hourly => 52

lemma Frequency.value_perYear (f : Frequency) : f.perYear.value = f.timesAYear := by
  cases f <;> norm_num [perYear, timesAYear, value_whole, UInt64.toNat_ofNat]

/-- What an income comes to in a year. An hourly income without hours comes to nothing. -/
def IncomeStream.annual (s : IncomeStream) : ℚ :=
  match s.frequency, s.hoursWorked with
  | .hourly, some hours => s.amount.value * hours.value * 52
  | .hourly, none => 0
  | frequency, _ => s.amount.value * frequency.timesAYear

def Expense.annual (e : Expense) : ℚ := e.amount.value * e.frequency.timesAYear

lemma IncomeStream.yearlyValue_eq_annual : yearlyValue = annual := by
  funext s
  unfold yearlyValue annual
  rw [Frequency.value_perYear]
  by_cases hourly : s.frequency = .hourly
  · have hvalue : s.recurringValue = s.amount.value * s.hours.value := if_pos hourly
    rw [hvalue, hourly, hours]
    cases s.hoursWorked with
    | none => simp
    | some hours => rfl
  · have hvalue : s.recurringValue = s.amount.value := if_neg hourly
    rw [hvalue]
    split
    · contradiction
    · contradiction
    · rfl

lemma Expense.yearlyValue_eq_annual : yearlyValue = annual := by
  funext e
  rw [yearlyValue, annual, Frequency.value_perYear]

/-- What the incomes of some types come to in a year. -/
def annualIncome (streams : List IncomeStream) (selected : IncomeType → Prop)
    [DecidablePred selected] : ℚ :=
  ((streams.filter fun s => selected s.type).map IncomeStream.annual).sum

/-- What the expenses of some types come to in a year. -/
def annualExpenses (expenses : List Expense) (selected : ExpenseType → Prop)
    [DecidablePred selected] : ℚ :=
  ((expenses.filter fun e => selected e.type).map Expense.annual).sum

lemma sliceValue_eq_annualIncome {slice : IncomeType → Bool} {selected : IncomeType → Prop}
    [DecidablePred selected] (h : ∀ t, slice t = true ↔ selected t) (streams : List IncomeStream) :
    sliceValue streams slice = annualIncome streams selected := by
  have hslice : slice = fun t => decide (selected t) := by
    funext t
    rw [Bool.eq_iff_iff, h t, decide_eq_true_iff]
  rw [sliceValue, streamsValue, annualIncome, hslice, IncomeStream.yearlyValue_eq_annual]

lemma selects_iff {filters : List IncomeFilter} {exclude : List IncomeType} {t : IncomeType} :
    selects filters exclude t = true ↔ (∃ f ∈ filters, f.admits t) ∧ t ∉ exclude := by
  rw [selects, Bool.and_eq_true, List.any_eq_true, and_comm]
  simp

lemma expensesValue_expensesOf (h : Household) (types : List ExpenseType) :
    expensesValue (h.expensesOf types) = annualExpenses h.expenses (· ∈ types) := by
  have hlisted : types.contains = fun t => decide (t ∈ types) := by
    funext t
    rw [Bool.eq_iff_iff, List.contains_iff_mem, decide_eq_true_iff]
  rw [expensesValue, Household.expensesOf, annualExpenses, hlisted, Expense.yearlyValue_eq_annual]

end Annual

section Realistic

/-- Incomes and their hours in hundredths, of less than `10 ^ 22` in a year. -/
structure RealisticIncome (streams : List IncomeStream) : Prop where
  hundredths : ∀ s ∈ streams, s.InHundredths
  moderate : (streams.map fun s => |s.annual|).sum < 10 ^ 22

/-- Expenses in hundredths, of less than `10 ^ 22` in a year. -/
structure RealisticExpenses (expenses : List Expense) : Prop where
  hundredths : ∀ e ∈ expenses, e.amount.scale ≤ 2
  moderate : (expenses.map fun e => |e.annual|).sum < 10 ^ 22

variable {streams part : List IncomeStream} {expenses spent : List Expense}

/-- Up to this size there is room for five digits after the point, one more than the products of
amounts and hours have. -/
lemma RealisticIncome.size_le (h : RealisticIncome streams) :
    ((streams.map IncomeStream.yearlyValue).map abs).sum ≤ 10 ^ 23 := by
  rw [IncomeStream.yearlyValue_eq_annual, List.map_map]
  exact h.moderate.le.trans (by norm_num)

lemma RealisticExpenses.size_le (h : RealisticExpenses expenses) :
    ((expenses.map Expense.yearlyValue).map abs).sum ≤ 10 ^ 23 := by
  rw [Expense.yearlyValue_eq_annual, List.map_map]
  exact h.moderate.le.trans (by norm_num)

lemma RealisticIncome.streamsExact (h : RealisticIncome streams) (hpart : part.Sublist streams) :
    StreamsExact part :=
  streamsExact_of_hundredths h.hundredths h.size_le hpart

lemma RealisticExpenses.expensesExact (h : RealisticExpenses expenses)
    (hpart : spent.Sublist expenses) : ExpensesExact spent :=
  expensesExact_of_hundredths h.hundredths h.size_le hpart

end Realistic

namespace Household

variable {h : Household}

/-- Every yearly amount of a household and every total of some of them is exact. -/
structure AddsUpExactly (h : Household) : Prop where
  stream : ∀ s ∈ h.allStreams, Computes s.yearly s.annual
  expense : ∀ e ∈ h.expenses, Computes e.yearly e.annual
  /-- The incomes of a member that some filter admits and that are not excluded. -/
  memberIncome : ∀ m ∈ h.members, ∀ filters exclude,
    Computes (m.grossIncome .yearly filters exclude)
      (annualIncome m.incomeStreams fun t => (∃ f ∈ filters, f.admits t) ∧ t ∉ exclude)
  memberIncomeOf : ∀ m ∈ h.members, ∀ types,
    Computes (m.yearlyIncomeOf types) (annualIncome m.incomeStreams (· ∈ types))
  /-- The incomes of all members that some filter admits. -/
  income : ∀ filters, Computes (h.grossIncome .yearly filters)
    (annualIncome h.allStreams fun t => ∃ f ∈ filters, f.admits t)
  spending : ∀ types, Computes (h.totalExpenses .yearly types)
    (annualExpenses h.expenses (· ∈ types))

/-- Realistic money is computed to the last digit, whichever of it is selected. -/
theorem addsUpExactly_of_realistic (hincome : RealisticIncome h.allStreams)
    (hexpenses : RealisticExpenses h.expenses) : h.AddsUpExactly where
  stream s hs := by
    have hexact := hincome.streamsExact (List.Sublist.refl _)
    rw [← IncomeStream.yearlyValue_eq_annual]
    exact IncomeStream.computes_yearly (hexact.each s hs)
  expense e he := by
    have hexact := hexpenses.expensesExact (List.Sublist.refl _)
    rw [← Expense.yearlyValue_eq_annual]
    exact Expense.computes_yearly (hexact.each e he)
  memberIncome m hm filters exclude := by
    have hpart : (m.streamsBy filters exclude).Sublist h.allStreams :=
      List.filter_sublist.trans (incomeStreams_sublist hm)
    rw [← sliceValue_eq_annualIncome fun _ => selects_iff]
    exact Member.computes_filtered (hincome.streamsExact hpart)
  memberIncomeOf m hm types := by
    have hpart : (m.streamsOf types).Sublist h.allStreams :=
      List.filter_sublist.trans (incomeStreams_sublist hm)
    rw [← sliceValue_eq_annualIncome fun _ => List.contains_iff_mem]
    exact Member.computes_yearlyIncomeOf (hincome.streamsExact hpart)
  income filters := by
    have hselects : ∀ t, selects filters [] t = true ↔ ∃ f ∈ filters, f.admits t := by
      intro t
      rw [selects_iff, and_iff_left List.not_mem_nil]
    rw [← sliceValue_eq_annualIncome hselects]
    exact computes_filtered (incomeExact_of_hundredths hincome.hundredths hincome.size_le filters)
  spending types := by
    rw [← expensesValue_expensesOf]
    exact computes_totalExpenses (hexpenses.expensesExact List.filter_sublist)

open TaxUnits (lodger sharedFlat)

section Couriers

/-- Four digits after the point are left of a product of hundredths. -/
def deliveries : IncomeStream := ⟨.wages, .hundredths 1723, .hourly, some (.hundredths 3727)⟩

/-- A business that loses money. -/
def repairShop : IncomeStream := ⟨.selfEmployment, -hundredths 41033, .monthly, none⟩

/-- Nobody counted the hours. -/
def tips : IncomeStream := ⟨.gifts, .whole 30, .hourly, none⟩

def supportPayments : IncomeStream := ⟨.childSupport, .tenths 805, .weekly, none⟩

def flatRent : Expense := ⟨.rent, .hundredths 115050, .monthly⟩

def medicines : Expense := ⟨.medical, .tenths 125, .weekly⟩

def courier : Member := lodger 1 .headOfHousehold (some 34) [deliveries, repairShop, tips]

/-- A courier and a partner who gets support for a child. -/
def couriers : Household := { sharedFlat with
  members := [courier, lodger 2 .spouse (some 33) [supportPayments]]
  expenses := [flatRent, medicines] }

lemma annual_deliveries : deliveries.annual = 33392.4292 := by
  norm_num [deliveries, IncomeStream.annual, value_hundredths, UInt64.toNat_ofNat]

lemma annual_repairShop : repairShop.annual = -4923.96 := by
  norm_num [repairShop, IncomeStream.annual, Frequency.timesAYear, value_hundredths,
    UInt64.toNat_ofNat]

lemma annual_tips : tips.annual = 0 := rfl

lemma annual_supportPayments : supportPayments.annual = 4186 := by
  norm_num [supportPayments, IncomeStream.annual, Frequency.timesAYear, value_tenths,
    UInt64.toNat_ofNat]

lemma annual_flatRent : flatRent.annual = 13806 := by
  norm_num [flatRent, Expense.annual, Frequency.timesAYear, value_hundredths, UInt64.toNat_ofNat]

lemma annual_medicines : medicines.annual = 650 := by
  norm_num [medicines, Expense.annual, Frequency.timesAYear, value_tenths, UInt64.toNat_ofNat]

lemma couriers_realistic_income : RealisticIncome couriers.allStreams where
  hundredths := by decide
  moderate := by
    have hstreams : couriers.allStreams = [deliveries, repairShop, tips, supportPayments] := rfl
    rw [hstreams]
    norm_num [annual_deliveries, annual_repairShop, annual_tips, annual_supportPayments]

lemma couriers_realistic_expenses : RealisticExpenses couriers.expenses where
  hundredths := by decide
  moderate := by norm_num [couriers, annual_flatRent, annual_medicines]

/-- Amounts of all scales and signs, by the hour, the week and the month. -/
theorem couriers_add_up_exactly :
    RealisticIncome couriers.allStreams ∧ RealisticExpenses couriers.expenses ∧
    Computes (couriers.grossIncome .yearly [.earned, .only .childSupport]) 32654.4692 ∧
    Computes (courier.grossIncome .yearly [.all] [.wages]) (-4923.96) ∧
    Computes (courier.yearlyIncomeOf [.gifts, .wages]) 33392.4292 ∧
    Computes (couriers.totalExpenses .yearly [.medical, .rent]) 14456 := by
  have hadds := addsUpExactly_of_realistic couriers_realistic_income couriers_realistic_expenses
  have hcourier : courier ∈ couriers.members := List.mem_cons_self
  have hchosen : annualIncome couriers.allStreams
      (fun t => ∃ f ∈ [IncomeFilter.earned, .only .childSupport], f.admits t) = 32654.4692 := by
    change ([deliveries, repairShop, supportPayments].map IncomeStream.annual).sum = _
    norm_num [annual_deliveries, annual_repairShop, annual_supportPayments]
  have hothers : annualIncome courier.incomeStreams
      (fun t => (∃ f ∈ [IncomeFilter.all], f.admits t) ∧ t ∉ [IncomeType.wages]) = -4923.96 := by
    change ([repairShop, tips].map IncomeStream.annual).sum = _
    norm_num [annual_repairShop, annual_tips]
  have hwages :
      annualIncome courier.incomeStreams (· ∈ [IncomeType.gifts, .wages]) = 33392.4292 := by
    change ([deliveries, tips].map IncomeStream.annual).sum = _
    norm_num [annual_deliveries, annual_tips]
  have hspending : annualExpenses couriers.expenses (· ∈ [ExpenseType.medical, .rent]) = 14456 := by
    change ([flatRent, medicines].map Expense.annual).sum = _
    norm_num [annual_flatRent, annual_medicines]
  exact ⟨couriers_realistic_income, couriers_realistic_expenses, hchosen ▸ hadds.income _,
    hothers ▸ hadds.memberIncome courier hcourier _ _,
    hwages ▸ hadds.memberIncomeOf courier hcourier _, hspending ▸ hadds.spending _⟩

end Couriers

end Household

end BenefitScreen
