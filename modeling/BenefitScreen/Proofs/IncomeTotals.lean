import BenefitScreen.Household
import BenefitScreen.Proofs.AmountValue

/-!
# Exact totals of incomes and expenses

The yearly value of an income or an expense on paper, and the totals of some of them. Where each of
these values can be written as an amount, so that nothing overflows and no digit is lost, the totals
are computed exactly. Amounts and hours in hundredths are always such, unless they are very large.
-/

namespace BenefitScreen

open Decimal Fallible

namespace IncomeStream

variable {s : IncomeStream}

def hours (s : IncomeStream) : Decimal := s.hoursWorked.getD .zero

/-- What recurs at the frequency, over a week for what is paid by the hour. -/
def recurringValue (s : IncomeStream) : ℚ :=
  if s.frequency = .hourly then s.amount.value * s.hours.value else s.amount.value

def yearlyValue (s : IncomeStream) : ℚ := s.recurringValue * s.frequency.perYear.value

/-- The values that the yearly amount is computed from can be written as amounts. -/
structure YearlyExact (s : IncomeStream) : Prop where
  recurring : Representable s.recurringValue
  yearly : Representable s.yearlyValue

theorem computes_yearly (h : s.YearlyExact) : Computes s.yearly s.yearlyValue := by
  have hrecurring := h.recurring
  have hyearly := h.yearly
  unfold yearlyValue at hyearly ⊢
  by_cases hourly : s.frequency = .hourly
  · have hvalue : s.recurringValue = s.amount.value * s.hours.value := if_pos hourly
    rw [hvalue] at hrecurring hyearly ⊢
    obtain ⟨a, ha, hweekly⟩ := computes_mul hrecurring
    rw [← hweekly] at hyearly ⊢
    obtain ⟨b, hb, htotal⟩ := computes_mul hyearly
    refine ⟨b, ?_, htotal⟩
    unfold yearly
    rw [hourly] at hb ⊢
    exact bind_eq_ok.mpr ⟨a, ha, hb⟩
  · have hvalue : s.recurringValue = s.amount.value := if_neg hourly
    have hyearlyOf : s.yearly = s.amount.mul s.frequency.perYear := by
      unfold yearly
      split
      · contradiction
      · rfl
    rw [hvalue] at hyearly ⊢
    rw [hyearlyOf]
    exact computes_mul hyearly

end IncomeStream

namespace Expense

def yearlyValue (e : Expense) : ℚ := e.amount.value * e.frequency.perYear.value

theorem computes_yearly {e : Expense} (h : Representable e.yearlyValue) :
    Computes e.yearly e.yearlyValue :=
  computes_mul h

end Expense

/-- Each yearly amount can be written as an amount, and so can the sum that each of them leads
to. -/
structure StreamsExact (streams : List IncomeStream) : Prop where
  each : ∀ s ∈ streams, s.YearlyExact
  sums : AddUp (streams.map IncomeStream.yearlyValue)

/-- Each yearly amount can be written as an amount, and so can the sum that each of them leads
to. -/
structure ExpensesExact (expenses : List Expense) : Prop where
  each : ∀ e ∈ expenses, Representable e.yearlyValue
  sums : AddUp (expenses.map Expense.yearlyValue)

section Hundredths

/-- Amounts and hours with at most two digits after the point. -/
def IncomeStream.InHundredths (s : IncomeStream) : Prop :=
  s.amount.scale ≤ 2 ∧ ∀ hours ∈ s.hoursWorked, hours.scale ≤ 2

instance (s : IncomeStream) : Decidable s.InHundredths := inferInstanceAs (Decidable (_ ∧ _))

lemma Frequency.scale_perYear (f : Frequency) : f.perYear.scale = 0 := by cases f <;> rfl

lemma Frequency.one_le_perYear (f : Frequency) : 1 ≤ f.perYear.value := by
  cases f <;> norm_num [perYear, value_whole, UInt64.toNat_ofNat]

lemma Frequency.hasDigits_perYear (f : Frequency) : HasDigits 0 f.perYear.value :=
  hasDigits_value f.scale_perYear.le

lemma IncomeStream.hasDigits_recurringValue {s : IncomeStream} (h : s.InHundredths) :
    HasDigits 4 s.recurringValue := by
  unfold recurringValue
  split
  · apply (hasDigits_value h.1).mul (j := 2) (k := 2)
    apply hasDigits_value
    unfold hours
    cases hhours : s.hoursWorked with
    | none => decide
    | some hours => exact h.2 hours hhours
  · exact (hasDigits_value h.1).mono (by decide)

lemma IncomeStream.hasDigits_yearlyValue {s : IncomeStream} (h : s.InHundredths) :
    HasDigits 4 s.yearlyValue :=
  (hasDigits_recurringValue h).mul s.frequency.hasDigits_perYear

lemma IncomeStream.abs_recurringValue_le (s : IncomeStream) :
    |s.recurringValue| ≤ |s.yearlyValue| := by
  unfold yearlyValue
  rw [abs_mul]
  apply le_mul_of_one_le_right (abs_nonneg _)
  exact s.frequency.one_le_perYear.trans (le_abs_self _)

lemma abs_le_sum {vs : List ℚ} {v : ℚ} (h : v ∈ vs) : |v| ≤ (vs.map abs).sum := by
  apply List.single_le_sum _ _ (List.mem_map_of_mem h)
  intro w hw
  obtain ⟨u, _, rfl⟩ := List.mem_map.mp hw
  exact abs_nonneg u

/-- Some of the incomes in hundredths add up exactly, unless all together are very large. -/
theorem streamsExact_of_hundredths {streams part : List IncomeStream}
    (h : ∀ s ∈ streams, s.InHundredths)
    (hsize : ((streams.map IncomeStream.yearlyValue).map abs).sum ≤ 10 ^ 23)
    (hpart : part.Sublist streams) : StreamsExact part where
  each s hs := by
    have hyearly := (abs_le_sum (List.mem_map_of_mem (hpart.subset hs))).trans hsize
    have hs := h s (hpart.subset hs)
    refine ⟨?_, (IncomeStream.hasDigits_yearlyValue hs).representable (by decide) hyearly⟩
    apply (IncomeStream.hasDigits_recurringValue hs).representable (by decide)
    exact s.abs_recurringValue_le.trans hyearly
  sums := by
    have hless := sum_abs_le_of_sublist (hpart.map IncomeStream.yearlyValue)
    refine (addUpFreely_of_digits (k := 4) (by decide) (fun v hv => ?_) (hless.trans hsize)).addUp
    obtain ⟨s, hs, rfl⟩ := List.mem_map.mp hv
    exact IncomeStream.hasDigits_yearlyValue (h s (hpart.subset hs))

lemma Expense.hasDigits_yearlyValue {e : Expense} (h : e.amount.scale ≤ 2) :
    HasDigits 4 e.yearlyValue :=
  ((hasDigits_value h).mul e.frequency.hasDigits_perYear).mono (by decide)

/-- Some of the expenses in hundredths add up exactly, unless all together are very large. -/
theorem expensesExact_of_hundredths {expenses part : List Expense}
    (h : ∀ e ∈ expenses, e.amount.scale ≤ 2)
    (hsize : ((expenses.map Expense.yearlyValue).map abs).sum ≤ 10 ^ 23)
    (hpart : part.Sublist expenses) : ExpensesExact part := by
  have hless := sum_abs_le_of_sublist (hpart.map Expense.yearlyValue)
  refine ⟨fun e he => ?_,
    (addUpFreely_of_digits (k := 4) (by decide) (fun v hv => ?_) (hless.trans hsize)).addUp⟩
  · apply (Expense.hasDigits_yearlyValue (h e (hpart.subset he))).representable (by decide)
    exact (abs_le_sum (List.mem_map_of_mem (hpart.subset he))).trans hsize
  · obtain ⟨e, he, rfl⟩ := List.mem_map.mp hv
    exact Expense.hasDigits_yearlyValue (h e (hpart.subset he))

end Hundredths

section Totals

variable {m : Member} {h : Household} {filters : List IncomeFilter} {exclude : List IncomeType}

def streamsValue (streams : List IncomeStream) : ℚ := (streams.map IncomeStream.yearlyValue).sum

def expensesValue (expenses : List Expense) : ℚ := (expenses.map Expense.yearlyValue).sum

lemma hasDigits_expensesValue {expenses : List Expense} (h : ∀ e ∈ expenses, e.amount.scale ≤ 2) :
    HasDigits 4 (expensesValue expenses) := by
  apply HasDigits.sum
  intro v hv
  obtain ⟨e, he, rfl⟩ := List.mem_map.mp hv
  exact Expense.hasDigits_yearlyValue (h e he)

lemma abs_expensesValue_le {expenses part : List Expense} (hpart : part.Sublist expenses) :
    |expensesValue part| ≤ ((expenses.map Expense.yearlyValue).map abs).sum :=
  (abs_sum_le _).trans (sum_abs_le_of_sublist (hpart.map _))

theorem Member.computes_yearlyTotal {streams : List IncomeStream} (h : StreamsExact streams) :
    Computes (yearlyTotal streams) (streamsValue streams) :=
  computes_total (fun s hs => IncomeStream.computes_yearly (h.each s hs)) h.sums

lemma Member.grossIncome_yearly (m : Member) (filters : List IncomeFilter)
    (exclude : List IncomeType) :
    m.grossIncome .yearly filters exclude = yearlyTotal (m.streamsBy filters exclude) := by
  unfold grossIncome
  cases yearlyTotal (m.streamsBy filters exclude) <;> rfl

theorem Member.computes_grossIncome (h : StreamsExact (m.streamsBy filters exclude)) :
    Computes (m.grossIncome .yearly filters exclude)
      (streamsValue (m.streamsBy filters exclude)) := by
  rw [grossIncome_yearly]
  exact computes_yearlyTotal h

namespace Household

/-- The incomes of each member add up exactly, and so do those of the members. -/
structure IncomeExact (h : Household) (filters : List IncomeFilter) : Prop where
  each : ∀ m ∈ h.members, StreamsExact (m.streamsBy filters [])
  sums : AddUp (h.members.map fun m => streamsValue (m.streamsBy filters []))

def incomeValue (h : Household) (filters : List IncomeFilter) : ℚ :=
  (h.members.map fun m => streamsValue (m.streamsBy filters [])).sum

theorem computes_grossIncome (hexact : h.IncomeExact filters) :
    Computes (h.grossIncome .yearly filters) (h.incomeValue filters) :=
  computes_total (fun m hm => Member.computes_grossIncome (hexact.each m hm)) hexact.sums

theorem computes_totalExpenses {types : List ExpenseType}
    (hexact : ExpensesExact (h.expensesOf types)) :
    Computes (h.totalExpenses .yearly types) (expensesValue (h.expensesOf types)) := by
  obtain ⟨total, htotal, hvalue⟩ :=
    computes_total (fun e he => Expense.computes_yearly (hexact.each e he)) hexact.sums
  exact ⟨total, bind_eq_ok.mpr ⟨total, htotal, rfl⟩, hvalue⟩

/-- Everything that somebody in the household receives. -/
def allStreams (h : Household) : List IncomeStream := h.members.flatMap (·.incomeStreams)

lemma incomeStreams_sublist {m : Member} (hm : m ∈ h.members) :
    m.incomeStreams.Sublist h.allStreams := by
  rw [allStreams, List.flatMap_def]
  exact List.sublist_flatten_of_mem (List.mem_map_of_mem hm)

lemma streamsBy_sublist {m : Member} (hm : m ∈ h.members) (filters : List IncomeFilter) :
    (m.streamsBy filters []).Sublist h.allStreams :=
  List.filter_sublist.trans (incomeStreams_sublist hm)

lemma sum_abs_streamsBy_le (h : Household) (filters : List IncomeFilter) :
    ((h.members.map fun m => streamsValue (m.streamsBy filters [])).map abs).sum ≤
      ((h.allStreams.map IncomeStream.yearlyValue).map abs).sum := by
  unfold allStreams
  induction h.members with
  | nil => simp
  | cons m members ih =>
    have hpart : (m.streamsBy filters []).Sublist m.incomeStreams := List.filter_sublist
    have hmember : |streamsValue (m.streamsBy filters [])| ≤
        ((m.incomeStreams.map IncomeStream.yearlyValue).map abs).sum :=
      (abs_sum_le _).trans (sum_abs_le_of_sublist (hpart.map _))
    rw [List.flatMap_cons, List.map_append, List.map_append, List.sum_append, List.map_cons,
      List.map_cons, List.sum_cons]
    exact add_le_add hmember ih

section Hundredths

variable (hhundredths : ∀ s ∈ h.allStreams, s.InHundredths)
include hhundredths

lemma hasDigits_streamsBy {m : Member} (hm : m ∈ h.members) (filters : List IncomeFilter) :
    HasDigits 4 (streamsValue (m.streamsBy filters [])) := by
  apply HasDigits.sum
  intro v hv
  obtain ⟨s, hs, rfl⟩ := List.mem_map.mp hv
  exact IncomeStream.hasDigits_yearlyValue
    (hhundredths s ((streamsBy_sublist hm filters).subset hs))

lemma hasDigits_incomeValue (filters : List IncomeFilter) :
    HasDigits 4 (h.incomeValue filters) := by
  apply HasDigits.sum
  intro v hv
  obtain ⟨m, hm, rfl⟩ := List.mem_map.mp hv
  exact hasDigits_streamsBy hhundredths hm filters

variable (hsize : ((h.allStreams.map IncomeStream.yearlyValue).map abs).sum ≤ 10 ^ 23)
include hsize

/-- Incomes in hundredths add up exactly, unless those of all members are very large. -/
theorem incomeExact_of_hundredths (filters : List IncomeFilter) : h.IncomeExact filters where
  each m hm := streamsExact_of_hundredths hhundredths hsize (streamsBy_sublist hm filters)
  sums := by
    refine (addUpFreely_of_digits (k := 4) (by decide) (fun v hv => ?_)
      ((h.sum_abs_streamsBy_le filters).trans hsize)).addUp
    obtain ⟨m, hm, rfl⟩ := List.mem_map.mp hv
    exact hasDigits_streamsBy hhundredths hm filters

end Hundredths

lemma abs_incomeValue_le (h : Household) (filters : List IncomeFilter) : |h.incomeValue filters| ≤
    ((h.allStreams.map IncomeStream.yearlyValue).map abs).sum :=
  (abs_sum_le _).trans (h.sum_abs_streamsBy_le filters)

end Household

end Totals

end BenefitScreen
