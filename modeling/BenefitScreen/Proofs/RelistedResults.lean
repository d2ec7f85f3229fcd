import BenefitScreen.Configuration.Shipped
import BenefitScreen.Proofs.ProgramResult
import BenefitScreen.Proofs.RelistedRules
import BenefitScreen.Proofs.TaxReturns

/-!
# Results that do not depend on the order

A household may list its members, their income streams and its expenses in any order: every program
gives the same result, with the outcomes of the members in the order of the members. Only digits
that a sum loses on the way would tell orders apart.
-/

namespace BenefitScreen

open Decimal Fallible

/-- The same outcome for a member, amounts compared by value. -/
structure MemberResult.Same (o o' : MemberResult) : Prop where
  id : o.id = o'.id
  conditions : o.conditions.Agree o'.conditions
  value : o.value.SameValue o'.value

/-- The same result for two households, amounts compared by value. What is recorded in the place of
a member is the same as what is recorded in that member's place in the other household. -/
structure ProgramResult.SameFor (h h' : Household) (r r' : ProgramResult) : Prop where
  code : r.code = r'.code
  name : r.name = r'.name
  eligible : r.eligible = r'.eligible
  value : r.value.SameValue r'.value
  conditions : r.conditions.Agree r'.conditions
  length : r.members.length = r'.members.length
  members : ∀ (i j : Nat) (m m' : Member), h.members[i]? = some m → h'.members[j]? = some m' →
    m.id = m'.id → Option.Rel MemberResult.Same r.members[i]? r'.members[j]?

namespace Calculator

variable {c : Calculator} {ctx ctx' : Context} {r r' : ProgramResult}

/-- Whichever of the values for the household and for members who pass are added up, no digit is
lost. -/
def ValuesAddUp (c : Calculator) (ctx : Context) : Prop :=
  ∀ amount, c.householdValue ctx = .ok amount → AddUpFreely (amount.value ::
    resultValues (c.memberValue ctx) (ctx.household.members.filter (c.admits ctx)))

/-- The values of the members who pass. -/
lemma values_eq {ms : List Member} {os : List MemberResult}
    (h : List.Forall₂ (c.Assesses ctx true) ms os) :
    ((os.filter (·.eligible)).map (·.value)).map Decimal.value =
      resultValues (c.memberValue ctx) (ms.filter (c.admits ctx)) := by
  induction h with
  | nil => rfl
  | @cons m o ms os ho _ ih =>
    cases heligible : o.eligible with
    | false =>
      rw [List.filter_cons_of_neg (by rw [heligible]; decide),
        List.filter_cons_of_neg (by rw [ho.admits_eq, heligible]; decide), ih]
    | true =>
      have hvalue := ho.value
      rw [heligible, if_pos (by decide)] at hvalue
      rw [List.filter_cons_of_pos heligible,
        List.filter_cons_of_pos (by rw [ho.admits_eq, heligible]), List.map_cons, List.map_cons, ih,
        resultValues_cons hvalue]

/-- Two contexts that differ in the order in which the household is listed, where the rules find
the same and the values add up without loss. -/
structure Indifferent (c : Calculator) (ctx ctx' : Context) : Prop where
  program : ctx.program = ctx'.program
  simulation : ctx.simulation = ctx'.simulation
  household : ctx.household.Relists ctx'.household
  unambiguous : ctx.household.Unambiguous
  finds : c.FindsAlike ctx ctx'
  values : c.ValuesAddUp ctx

namespace Indifferent

variable (h : c.Indifferent ctx ctx')
include h

lemma admits_eq {m m' : Member} (hm : m ∈ ctx.household.members)
    (hm' : m' ∈ ctx'.household.members) (hsame : m.Relists m') :
    c.admits ctx m = c.admits ctx' m' := by
  have hconditions := h.finds.memberConditions m hm m' hm' hsame
  unfold admits
  generalize c.memberConditions ctx m [] = x, c.memberConditions ctx' m' [] = x' at hconditions ⊢
  cases hconditions with
  | ok h => exact h.passed_eq
  | error => rfl

/-- The members one by one, those who are the same on either side. -/
lemma members : Relisted (fun m m' => m ∈ ctx.household.members ∧ m' ∈ ctx'.household.members ∧
    m.Relists m') ctx.household.members ctx'.household.members :=
  h.household.members.imp fun _ hm _ hm' hsame => ⟨hm, hm', hsame⟩

lemma values' : c.ValuesAddUp ctx' := by
  intro amount' hamount'
  obtain ⟨amount, hamount, hsame⟩ := h.finds.householdValue.symm.exists_ok hamount'
  have hvalues := (h.members.filter fun m m' hm => h.admits_eq hm.1 hm.2.1 hm.2.2).perm_filterMap
    (f := fun m => (c.memberValue ctx m).toOption.map value)
    (g := fun m' => (c.memberValue ctx' m').toOption.map value)
    fun m m' hm => by
      obtain ⟨amount, hm, hm'⟩ := h.finds.memberValue m m' hm.2.2
      rw [hm, hm']
  rw [← sameValue_iff_value.mp hsame]
  exact (h.values amount hamount).perm (hvalues.cons _)

lemma symm : c.Indifferent ctx' ctx where
  program := h.program.symm
  simulation := h.simulation.symm
  household := h.household.symm
  unambiguous := h.household.unambiguous h.unambiguous
  finds := h.finds.symm
  values := h.values'

lemma householdConditions_alike : Alike Conditions.Agree
    (c.householdConditions ctx (c.simulationConditions ctx))
    (c.householdConditions ctx' (c.simulationConditions ctx')) := by
  have hsimulation : c.simulationConditions ctx = c.simulationConditions ctx' := by
    rw [simulationConditions, simulationConditions, h.simulation]
  rw [hsimulation]
  exact h.finds.householdConditions _ _ (.refl _)

lemma approves (happroved : c.Approves ctx) : c.Approves ctx' := by
  obtain ⟨⟨cs, hcs, hpassed⟩, hmember⟩ := happroved
  obtain ⟨cs', hcs', hagree⟩ := h.householdConditions_alike.exists_ok hcs
  refine ⟨⟨cs', hcs', hagree.passed_eq ▸ hpassed⟩, fun hscoped => ?_⟩
  obtain ⟨m, hm, hpasses⟩ := hmember hscoped
  obtain ⟨m', hm', _, _, hsame⟩ := h.members.exists_right hm
  exact ⟨m', hm', h.admits_eq hm hm' hsame ▸ hpasses⟩

/-- Where no digit is lost, adding up the values of members does not overflow. -/
lemma exists_sum {amount : Decimal} {values : List Decimal}
    (hamount : c.householdValue ctx = .ok amount)
    (hvalues : (c.payees ctx).mapM (c.memberValue ctx) = .ok values) :
    ∃ sum, values.foldlM Decimal.add amount = .ok sum := by
  have hpaid : (c.payees ctx).Sublist (ctx.household.members.filter (c.admits ctx)) := by
    unfold payees
    split
    · exact .refl _
    · exact List.nil_sublist _
  have hsums := (h.values amount hamount).sublist ((resultValues_sublist hpaid).cons_cons _)
  rw [resultValues_of_mapM hvalues] at hsums
  exact (computes_sum hsums).imp fun _ hsum => hsum.1

/-- What fits in one order fits in the other. -/
lemma fits (hfits : c.Fits ctx') : c.Fits ctx where
  household := by
    obtain ⟨cs', hcs'⟩ := hfits.household
    obtain ⟨cs, hcs, _⟩ := h.householdConditions_alike.symm.exists_ok hcs'
    exact ⟨cs, hcs⟩
  members hscoped m hm := by
    obtain ⟨m', hm', _, _, hsame⟩ := h.members.exists_right hm
    obtain ⟨cs', hcs'⟩ := hfits.members hscoped m' hm'
    obtain ⟨cs, hcs, _⟩ := (h.finds.memberConditions m hm m' hm' hsame).symm.exists_ok hcs'
    exact ⟨cs, hcs⟩
  values happroved := by
    obtain ⟨amount', _, _, hamount', _⟩ := hfits.values (h.approves happroved)
    obtain ⟨amount, hamount, _⟩ := h.finds.householdValue.symm.exists_ok hamount'
    obtain ⟨values, hvalues, _⟩ := exists_mapM_of_forall (l := c.payees ctx)
      (f := c.memberValue ctx) (R := fun _ _ => True) fun m hm => by
        obtain ⟨m', _, _, _, hsame⟩ := h.members.exists_right (payees_sublist.subset hm)
        obtain ⟨value, hvalue, _⟩ := h.finds.memberValue m m' hsame
        exact ⟨value, hvalue, trivial⟩
    obtain ⟨sum, hsum⟩ := h.exists_sum hamount hvalues
    exact ⟨amount, values, sum, hamount, hvalues, hsum⟩

lemma same_of_assesses {eligible : Bool} {m m' : Member} {o o' : MemberResult}
    (hm : m ∈ ctx.household.members) (hm' : m' ∈ ctx'.household.members) (hsame : m.Relists m')
    (ho : c.Assesses ctx eligible m o) (ho' : c.Assesses ctx' eligible m' o') : o.Same o' := by
  have hagree : o.conditions.Agree o'.conditions :=
    (h.finds.memberConditions m hm m' hm' hsame).related ho.conditions ho'.conditions
  have heligible : o.eligible = o'.eligible := hagree.passed_eq
  have hvalue := ho.value
  have hvalue' := ho'.value
  rw [← heligible] at hvalue'
  refine ⟨ho.id.trans (hsame.id_eq.trans ho'.id.symm), hagree, ?_⟩
  split at hvalue
  · rename_i hpaid
    rw [if_pos hpaid] at hvalue'
    obtain ⟨amount, hamount, hamount'⟩ := h.finds.memberValue m m' hsame
    rw [← Except.ok.inj (hamount.symm.trans hvalue), ← Except.ok.inj (hamount'.symm.trans hvalue')]
  · rename_i hunpaid
    rw [if_neg hunpaid] at hvalue'
    rw [hvalue, hvalue']

lemma relisted_outcomes {eligible : Bool} {os os' : List MemberResult}
    (hos : c.AssessesAll ctx eligible os) (hos' : c.AssessesAll ctx' eligible os') :
    Relisted MemberResult.Same os os' := by
  by_cases hscoped : c.memberScoped = true
  · rw [AssessesAll, if_pos hscoped] at hos hos'
    have hleft : Relisted (fun o m => c.Assesses ctx eligible m o) os ctx.household.members :=
      ⟨os, .refl os, hos.flip⟩
    have hright : Relisted (c.Assesses ctx' eligible) ctx'.household.members os' :=
      ⟨_, .refl _, hos'⟩
    refine (hleft.trans (h.members.trans hright)).imp ?_
    rintro o _ o' _ ⟨m, ho, m', ⟨hm, hm', hsame⟩, ho'⟩
    exact h.same_of_assesses hm hm' hsame ho ho'
  · rw [AssessesAll, if_neg hscoped] at hos hos'
    rw [hos, hos']
    exact ⟨[], .nil, .nil⟩

lemma rel_outcome {eligible : Bool} {os os' : List MemberResult}
    (hos : c.AssessesAll ctx eligible os) (hos' : c.AssessesAll ctx' eligible os') {i j : Nat}
    {m m' : Member} (hi : ctx.household.members[i]? = some m)
    (hj : ctx'.household.members[j]? = some m') (hid : m.id = m'.id) :
    Option.Rel MemberResult.Same os[i]? os'[j]? := by
  have hm := List.mem_of_getElem? hi
  have hm' := List.mem_of_getElem? hj
  by_cases hscoped : c.memberScoped = true
  · rw [AssessesAll, if_pos hscoped] at hos hos'
    obtain ⟨o, hoi, ho⟩ := exists_of_forall₂_getElem? hos hi
    obtain ⟨o', hoj, ho'⟩ := exists_of_forall₂_getElem? hos' hj
    have hsame := h.household.member_of_id h.unambiguous hm hm' hid
    rw [hoi, hoj]
    exact .some (h.same_of_assesses hm hm' hsame ho ho')
  · rw [AssessesAll, if_neg hscoped] at hos hos'
    rw [hos, hos']
    exact .none

/-- The values that are added up to the value of a result lose no digit. -/
lemma addUpFreely_values {amount : Decimal} {os : List MemberResult}
    (hamount : c.householdValue ctx = .ok amount) (hos : c.AssessesAll ctx true os) :
    AddUpFreely (amount.value :: ((os.filter (·.eligible)).map (·.value)).map Decimal.value) := by
  have hsums := h.values amount hamount
  by_cases hscoped : c.memberScoped = true
  · rw [AssessesAll, if_pos hscoped] at hos
    rwa [values_eq hos]
  · rw [AssessesAll, if_neg hscoped] at hos
    rw [hos]
    exact hsums.sublist ((List.nil_sublist _).cons_cons _)

lemma alike_sums {amount amount' : Decimal} {os os' : List MemberResult}
    (hamount : c.householdValue ctx = .ok amount) (hamount' : c.householdValue ctx' = .ok amount')
    (hos : c.AssessesAll ctx true os) (hos' : c.AssessesAll ctx' true os') : Alike SameValue
      (((os.filter (·.eligible)).map (·.value)).foldlM Decimal.add amount)
      (((os'.filter (·.eligible)).map (·.value)).foldlM Decimal.add amount') := by
  have hvalues : Relisted SameValue ((os.filter (·.eligible)).map (·.value))
      ((os'.filter (·.eligible)).map (·.value)) :=
    ((h.relisted_outcomes hos hos').filter fun _ _ ho => ho.conditions.passed_eq).map
      fun _ _ ho => ho.value
  have hsame := h.finds.householdValue.related hamount hamount'
  exact hsame.foldlM_add hvalues (h.addUpFreely_values hamount hos)

lemma sameFor (hr : c.calculate ctx = .ok r) (hr' : c.calculate ctx' = .ok r') :
    r.SameFor ctx.household ctx'.household r' := by
  obtain ⟨outcomes, hc⟩ := exists_calculation hr
  obtain ⟨outcomes', hc'⟩ := exists_calculation hr'
  have hconditions : r.conditions.Agree r'.conditions :=
    h.householdConditions_alike.related hc.householdConditions hc'.householdConditions
  have heligible : r.eligible = r'.eligible := by
    rw [Bool.eq_iff_iff, ← hc.approves_iff, ← hc'.approves_iff]
    exact ⟨h.approves, h.symm.approves⟩
  obtain ⟨hall, _⟩ := hc.members
  obtain ⟨hall', _⟩ := hc'.members
  rw [← heligible] at hall'
  refine ⟨?_, ?_, heligible, ?value, hconditions, (h.relisted_outcomes hall hall').length_eq, ?_⟩
  · rw [hc.code, hc'.code, h.program]
  · rw [hc.name, hc'.name, h.program]
  case value =>
    cases hvalued : r.eligible with
    | false => rw [(hc.refused hvalued).2, (hc'.refused (heligible ▸ hvalued)).2]
    | true =>
      rw [hvalued] at hall hall'
      obtain ⟨amount, _, hamount, hsum, _⟩ := hc.yields.granted hvalued
      obtain ⟨amount', _, hamount', hsum', _⟩ := hc'.yields.granted (heligible ▸ hvalued)
      exact (h.alike_sums hamount hamount' hall hall').related hsum hsum'
  · intro i j m m'
    exact h.rel_outcome hall hall'

/-- In either order there is a result or there is none, and the results are the same. -/
theorem calculate_alike :
    Alike (ProgramResult.SameFor ctx.household ctx'.household) (c.calculate ctx)
      (c.calculate ctx') := by
  refine .of_results ?_ fun r r' hr hr' => h.sameFor hr hr'
  rw [exists_calculate_iff, exists_calculate_iff]
  exact ⟨h.symm.fits, h.fits⟩

end Indifferent

end Calculator

/-- The sums that a program may take for a household lose no digit, whatever order they are taken
in: those of yearly incomes, of expenses and of the values of members, and of monthly incomes where
the program adds these up. -/
structure Registry.AddsUpFor (code : String) (c : Calculator) (ctx : Context) : Prop where
  amounts : ctx.household.AddsUp
  monthlyIncomes : code = "il_ccap" → AddUpFreely
    (resultValues (·.grossIncome .monthly [.all] []) ctx.household.members)
  values : c.ValuesAddUp ctx

/-- Whatever the order of the members, of their incomes and of the expenses, every program gives the
same result, and records for each member the same in that member's place. -/
theorem Registry.calculate_ignores_order {code : String} {c : Calculator}
    (hc : (code, c) ∈ calculators) {ctx : Context} {h' : Household}
    (hlisted : ctx.household.Relists h') (hclear : ctx.household.Unambiguous)
    (hexact : AddsUpFor code c ctx) :
    Alike (ProgramResult.SameFor ctx.household h') (c.calculate ctx)
      (c.calculate { ctx with household := h' }) := by
  have hindifferent : c.Indifferent ctx { ctx with household := h' } := {
    program := rfl
    simulation := rfl
    household := hlisted
    unambiguous := hclear
    finds := findsAlike hlisted hexact.amounts hclear hc hexact.monthlyIncomes
    values := hexact.values }
  exact hindifferent.calculate_alike

open TaxUnits (lodger sharedFlat)

/-- A wife with a pension and a job, listed in one order or the other. -/
def wife (incomeStreams : List IncomeStream) : Member :=
  { lodger 1 .headOfHousehold (some 70) incomeStreams with insurance := .ofList [.medicare] }

def wifesPension : IncomeStream := ⟨.pension, .whole 900, .monthly, none⟩

def wifesWages : IncomeStream := ⟨.wages, .hundredths 1250, .hourly, some (.whole 10)⟩

def husband : Member :=
  { lodger 2 .spouse (some 64) [⟨.supplementalSecurity, .whole 120, .monthly, none⟩] with
    insurance := .ofList [.employer] }

def rent : Expense := ⟨.rent, .whole 700, .monthly⟩

def medicines : Expense := ⟨.medical, .hundredths 4550, .monthly⟩

def grandchild : Member := lodger 3 .grandChild (some 8) []

/-- A couple with a grandchild. -/
def grandparents : Context where
  household := { sharedFlat with
    members := [wife [wifesPension, wifesWages], husband, grandchild]
    expenses := [rent, medicines] }
  program := ⟨"medicare_savings", "Medicare Savings Program", none, "2025", Shipped.table2025⟩
  results := .empty
  simulation := .skipped
  limits := .empty
  asOf := ⟨2025, 6, 1⟩

/-- The same household from the last to the first of everything. -/
def grandparentsBackwards : Household := { grandparents.household with
  members := [grandchild, husband, wife [wifesWages, wifesPension]]
  expenses := [medicines, rent] }

lemma grandparents_relists : grandparents.household.Relists grandparentsBackwards := by
  have hwife : (wife [wifesPension, wifesWages]).Relists (wife [wifesWages, wifesPension]) :=
    ⟨(List.reverse_perm _).symm⟩
  refine ⟨⟨[grandchild, husband, wife [wifesPension, wifesWages]], ?_, ?_⟩, ?_⟩
  · exact (List.reverse_perm _).symm
  · exact .cons (.refl _) (.cons (.refl _) (.cons hwife .nil))
  · exact (List.reverse_perm _).symm

lemma grandparents_addsUp : grandparents.household.AddsUp := by
  apply Household.addsUp_of_hundredths (by decide)
  · simp only [Household.allStreams, grandparents, wife, wifesPension, wifesWages, husband,
      grandchild, lodger, List.flatMap_cons, List.flatMap_nil, List.cons_append, List.nil_append,
      List.map_cons, List.map_nil, IncomeStream.yearlyValue, IncomeStream.recurringValue,
      IncomeStream.hours, reduceCtorEq, if_true, if_false, Option.getD_some, Frequency.perYear,
      value_whole, value_hundredths]
    norm_num [UInt64.toNat_ofNat]
  · decide
  · simp only [grandparents, rent, medicines, List.map_cons, List.map_nil, Expense.yearlyValue,
      Frequency.perYear, value_whole, value_hundredths]
    norm_num [UInt64.toNat_ofNat]

lemma grandparents_valuesAddUp : MedicareSavings.calculator.ValuesAddUp grandparents := by
  intro amount hamount
  obtain rfl : Decimal.zero = amount := Except.ok.inj hamount
  have hall : AddUpFreely (Decimal.zero.value :: resultValues
      (MedicareSavings.calculator.memberValue grandparents) grandparents.household.members) := by
    have hpaid : ∀ m ∈ grandparents.household.members,
        Computes (MedicareSavings.calculator.memberValue grandparents m) (monthly 185).value :=
      fun _ _ => ⟨_, rfl, rfl⟩
    rw [resultValues_of_computes hpaid]
    apply addUpFreely_of_digits (k := 0) (by decide)
    · intro v hv
      simp only [grandparents, List.map_cons, List.map_nil, List.mem_cons, List.not_mem_nil,
        or_false, or_self] at hv
      rcases hv with rfl | rfl <;> exact hasDigits_value (by decide)
    · simp only [grandparents, List.map_cons, List.map_nil, monthly, value_whole, value_zero]
      norm_num [UInt64.toNat_ofNat]
  exact hall.sublist ((resultValues_sublist List.filter_sublist).cons_cons _)

/-- The wife is eligible and the husband too young, also where they are listed backwards. -/
theorem grandparents_alike_backwards :
    grandparents.household.Relists grandparentsBackwards ∧ grandparents.household.Unambiguous ∧
    Registry.AddsUpFor "medicare_savings" MedicareSavings.calculator grandparents ∧
    ∃ r r', MedicareSavings.calculator.calculate grandparents = .ok r ∧
      MedicareSavings.calculator.calculate
        { grandparents with household := grandparentsBackwards } = .ok r' ∧
      r.members.map (·.eligible) = [true, false, false] ∧ r.value = monthly 185 ∧
      r.SameFor grandparents.household grandparentsBackwards r' := by
  have hclear : grandparents.household.Unambiguous := ⟨by decide, by decide, by decide⟩
  have hexact : Registry.AddsUpFor "medicare_savings" MedicareSavings.calculator grandparents :=
    ⟨grandparents_addsUp, fun h => absurd h (by decide), grandparents_valuesAddUp⟩
  have hc : ("medicare_savings", MedicareSavings.calculator) ∈ Registry.calculators := by
    simp [Registry.calculators]
  have hresult : ((MedicareSavings.calculator.calculate grandparents).toOption.any fun r =>
      r.members.map (·.eligible) = [true, false, false] ∧ r.value = monthly 185) = true := by
    decide +kernel
  obtain ⟨r, hr, hvalue⟩ := exists_ok_of_any hresult
  obtain ⟨r', hr', hsame⟩ :=
    (Registry.calculate_ignores_order hc grandparents_relists hclear hexact).exists_ok hr
  obtain ⟨heligible, hvalue⟩ := of_decide_eq_true hvalue
  exact ⟨grandparents_relists, hclear, hexact, r, r', hr, hr', heligible, hvalue, hsame⟩

end BenefitScreen
