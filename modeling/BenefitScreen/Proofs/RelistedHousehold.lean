import BenefitScreen.Poverty
import BenefitScreen.Proofs.AmountAgreement
import BenefitScreen.Proofs.IncomeTotals
import BenefitScreen.Proofs.TaxPlaces

/-!
# A household in another order

The same household may come with its members, their income streams and its expenses listed in any
order. Counts and tests of members come out alike, and so does the search for the head and for the
partner where there is one of each. Totals come out alike where no digit is lost on the way.
-/

namespace BenefitScreen

open Decimal Fallible

/-- The same member with the income streams in some order. -/
inductive Member.Relists (m : Member) : Member → Prop
  | intro {incomeStreams : List IncomeStream} (h : m.incomeStreams.Perm incomeStreams) :
    Relists m { m with incomeStreams }

/-- The same household with the members, each with its streams, and the expenses in some order. -/
inductive Household.Relists (h : Household) : Household → Prop
  | intro {members : List Member} {expenses : List Expense}
    (hmembers : Relisted Member.Relists h.members members)
    (hexpenses : h.expenses.Perm expenses) : Relists h { h with members, expenses }

namespace Member.Relists

variable {m m' : Member}

lemma refl (m : Member) : m.Relists m := ⟨.refl m.incomeStreams⟩

lemma symm (h : m.Relists m') : m'.Relists m := by
  obtain ⟨hstreams⟩ := h
  exact ⟨hstreams.symm⟩

/-- Whatever does not look at the streams is the same. -/
lemma congr {α : Type} {f : Member → α} (h : m.Relists m')
    (hf : ∀ m incomeStreams, f m = f { m with incomeStreams }) : f m = f m' := by
  obtain ⟨_⟩ := h
  exact hf m _

lemma id_eq (h : m.Relists m') : m.id = m'.id := h.congr fun _ _ => rfl

section Income

variable (h : m.Relists m')
  (hsums : AddUpFreely (resultValues IncomeStream.yearly m.incomeStreams))
include h hsums

lemma yearlyTotal (p : IncomeStream → Bool) : Alike SameValue
    (Member.yearlyTotal (m.incomeStreams.filter p))
    (Member.yearlyTotal (m'.incomeStreams.filter p)) := by
  obtain ⟨hstreams⟩ := h
  refine alike_runningTotal (.of_perm (fun s => .refl SameValue.refl _) (hstreams.filter p)) ?_
  exact hsums.sublist (resultValues_sublist List.filter_sublist)

lemma grossIncome (window : Timeframe) (filters : List IncomeFilter) (exclude : List IncomeType) :
    Alike SameValue (m.grossIncome window filters exclude)
      (m'.grossIncome window filters exclude) := by
  refine (h.yearlyTotal hsums _).bind fun a a' ha => .pure ?_
  cases window with
  | monthly => exact ha.divNat (by decide)
  | yearly => exact ha

lemma yearlyIncomeOf (types : List IncomeType) :
    Alike SameValue (m.yearlyIncomeOf types) (m'.yearlyIncomeOf types) :=
  h.yearlyTotal hsums _

end Income

end Member.Relists

namespace Household

variable {h h' : Household} {m : Member}

/-- The members have identifiers of their own, and at most one of them is the head and at most one
the partner. -/
structure Unambiguous (h : Household) : Prop where
  ids : h.DistinctIds
  head : h.members.countP Member.isHead ≤ 1
  partner : h.members.countP Member.isSpouse ≤ 1

/-- Whichever of the yearly incomes are added up, and whichever of the yearly expenses, no digit is
lost. -/
structure AddsUp (h : Household) : Prop where
  incomes : AddUpFreely (resultValues IncomeStream.yearly h.allStreams)
  expenses : AddUpFreely (resultValues Expense.yearly h.expenses)

lemma AddsUp.incomeStreams (hexact : h.AddsUp) (hm : m ∈ h.members) :
    AddUpFreely (resultValues IncomeStream.yearly m.incomeStreams) :=
  hexact.incomes.sublist (resultValues_sublist (incomeStreams_sublist hm))

/-- The incomes of members add up freely where the streams of all members do. -/
lemma AddsUp.grossIncome (hexact : h.AddsUp) (filters : List IncomeFilter) :
    AddUpFreely (resultValues (·.grossIncome .yearly filters []) h.members) := by
  have hparts : (h.members.flatMap fun m => m.streamsBy filters []).Sublist h.allStreams :=
    List.Sublist.flatMap_right _ fun m _ => List.filter_sublist
  simp only [Member.grossIncome_yearly]
  exact (hexact.incomes.sublist (resultValues_sublist hparts)).totals

/-- Amounts in hundredths add up without loss, unless all together are very large. -/
theorem addsUp_of_hundredths (hstreams : ∀ s ∈ h.allStreams, s.InHundredths)
    (hincome : ((h.allStreams.map IncomeStream.yearlyValue).map abs).sum ≤ 10 ^ 23)
    (hexpenses : ∀ e ∈ h.expenses, e.amount.scale ≤ 2)
    (hspent : ((h.expenses.map Expense.yearlyValue).map abs).sum ≤ 10 ^ 23) : h.AddsUp where
  incomes := by
    have hexact := streamsExact_of_hundredths hstreams hincome (.refl _)
    rw [resultValues_of_computes fun s hs => IncomeStream.computes_yearly (hexact.each s hs)]
    refine addUpFreely_of_digits (k := 4) (by decide) (fun v hv => ?_) hincome
    obtain ⟨s, hs, rfl⟩ := List.mem_map.mp hv
    exact IncomeStream.hasDigits_yearlyValue (hstreams s hs)
  expenses := by
    have hexact := expensesExact_of_hundredths hexpenses hspent (.refl _)
    rw [resultValues_of_computes fun e he => Expense.computes_yearly (hexact.each e he)]
    refine addUpFreely_of_digits (k := 4) (by decide) (fun v hv => ?_) hspent
    obtain ⟨e, he, rfl⟩ := List.mem_map.mp hv
    exact Expense.hasDigits_yearlyValue (hexpenses e he)

namespace Relists

variable (hlisted : h.Relists h')
include hlisted

lemma members : Relisted Member.Relists h.members h'.members := by
  obtain ⟨hmembers, _⟩ := hlisted
  exact hmembers

lemma expenses : h.expenses.Perm h'.expenses := by
  obtain ⟨_, hexpenses⟩ := hlisted
  exact hexpenses

lemma symm : h'.Relists h := by
  obtain ⟨hmembers, hexpenses⟩ := hlisted
  exact ⟨hmembers.symm.imp fun _ _ _ _ hm => hm.symm, hexpenses.symm⟩

/-- Whatever looks at neither the members nor the expenses is the same. -/
lemma congr {α : Type} {f : Household → α}
    (hf : ∀ h members expenses, f h = f { h with members, expenses }) : f h = f h' := by
  obtain ⟨_, _⟩ := hlisted
  exact hf h _ _

lemma size_eq : h.size = h'.size := by
  have hreported : h.reportedSize = h'.reportedSize := hlisted.congr fun _ _ _ => rfl
  rw [size, size, hreported, hlisted.members.length_eq]

lemma any_eq {p : Member → Bool}
    (hp : ∀ m incomeStreams, p m = p { m with incomeStreams }) :
    h.members.any p = h'.members.any p :=
  hlisted.members.any_eq fun _ _ hm => hm.congr hp

lemma countP_eq {p : Member → Bool}
    (hp : ∀ m incomeStreams, p m = p { m with incomeStreams }) :
    h.members.countP p = h'.members.countP p :=
  hlisted.members.countP_eq fun _ _ hm => hm.congr hp

lemma adjustedSize_eq : PovertyCheck.adjustedSize h = PovertyCheck.adjustedSize h' := by
  rw [PovertyCheck.adjustedSize, PovertyCheck.adjustedSize, hlisted.size_eq, pregnantCount,
    pregnantCount, hlisted.countP_eq fun _ _ => rfl]

lemma hasExpense_eq (types : List ExpenseType) : h.hasExpense types = h'.hasExpense types :=
  hlisted.expenses.any_eq

/-- The one member that a test picks is the same. -/
lemma find? {p : Member → Bool} (hp : ∀ m incomeStreams, p m = p { m with incomeStreams })
    (hone : h.members.countP p ≤ 1) :
    Option.Rel (fun m m' => m ∈ h.members ∧ m.Relists m') (h.members.find? p)
      (h'.members.find? p) :=
  (hlisted.members.imp fun _ hm _ _ hm' => ⟨hm, hm'⟩).find? (fun _ _ hm => hm.2.congr hp) hone

lemma head? (hclear : h.Unambiguous) :
    Option.Rel (fun m m' => m ∈ h.members ∧ m.Relists m') h.head? h'.head? :=
  hlisted.find? (fun _ _ => rfl) hclear.head

lemma spouse? (hclear : h.Unambiguous) :
    Option.Rel (fun m m' => m ∈ h.members ∧ m.Relists m') h.spouse? h'.spouse? :=
  hlisted.find? (fun _ _ => rfl) hclear.partner

lemma unambiguous (hclear : h.Unambiguous) : h'.Unambiguous where
  ids := (hlisted.members.perm_map fun _ _ hm => hm.id_eq).nodup_iff.mp hclear.ids
  head := hlisted.countP_eq (p := Member.isHead) (fun _ _ => rfl) ▸ hclear.head
  partner := hlisted.countP_eq (p := Member.isSpouse) (fun _ _ => rfl) ▸ hclear.partner

/-- Related members are those of one identifier. -/
lemma member_of_id (hclear : h.Unambiguous) {m' : Member} (hm : m ∈ h.members)
    (hm' : m' ∈ h'.members) (hid : m.id = m'.id) : m.Relists m' := by
  obtain ⟨x, hx, hxm'⟩ := hlisted.members.exists_left hm'
  obtain rfl := List.inj_on_of_nodup_map hclear.ids hx hm (hxm'.id_eq.trans hid.symm)
  exact hxm'

lemma grossIncome_of_sums (hexact : h.AddsUp) {window : Timeframe} {filters : List IncomeFilter}
    (hsums : AddUpFreely (resultValues (·.grossIncome window filters []) h.members)) :
    Alike SameValue (h.grossIncome window filters) (h'.grossIncome window filters) := by
  refine alike_runningTotal (hlisted.members.imp fun m hm m' _ hlisted' => ?_) hsums
  exact hlisted'.grossIncome (hexact.incomeStreams hm) window filters []

lemma grossIncome (hexact : h.AddsUp) (filters : List IncomeFilter) :
    Alike SameValue (h.grossIncome .yearly filters) (h'.grossIncome .yearly filters) :=
  hlisted.grossIncome_of_sums hexact (hexact.grossIncome filters)

lemma totalExpenses (hexact : h.AddsUp) (types : List ExpenseType) :
    Alike SameValue (h.totalExpenses .yearly types) (h'.totalExpenses .yearly types) := by
  refine Alike.bind ?_ fun a a' ha => .pure ha
  refine alike_runningTotal
    (.of_perm (fun e => .refl SameValue.refl _) (hlisted.expenses.filter _)) ?_
  exact hexact.expenses.sublist (resultValues_sublist List.filter_sublist)

end Relists

end Household

end BenefitScreen
