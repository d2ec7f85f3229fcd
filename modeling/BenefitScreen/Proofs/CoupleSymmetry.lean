import BenefitScreen.Configuration.Shipped
import BenefitScreen.Proofs.ProgramResult
import BenefitScreen.Proofs.RelistedRules
import BenefitScreen.Proofs.TaxReturns

/-!
# Couples under Medicare Savings

Each of a couple is the partner of the other, so that their assets are held to the limit for
couples and their incomes are taken together. The sums start with the income of the member in
question, but amounts may be added in either order.
-/

namespace BenefitScreen

open Calculator Decimal Fallible

namespace Decimal

lemma zero_add_eq (a : Decimal) : zero.add a = .ok a :=
  add_eq_ok.mpr (if_pos rfl)

lemma add_comm_alike (a b : Decimal) : Alike SameValue (a.add b) (b.add a) := by
  refine .of_results (by rw [exists_add_iff, exists_add_iff, Int.add_comm]) fun c c' hc hc' => ?_
  rw [sameValue_iff, units_add hc, units_add hc', Int.add_comm]

end Decimal

namespace MedicareSavings

variable {m p : Member} {i j k : Income}

/-- The incomes of one member. -/
structure Earns (m : Member) (i : Income) : Prop where
  earned : m.grossIncome .yearly [.earned] [] = .ok i.earned
  unearned : m.grossIncome .yearly [.unearned] [.supplementalSecurity] = .ok i.unearned
  ssi : m.yearlyIncomeOf [.supplementalSecurity] = .ok i.ssi

/-- The second incomes added to the first ones. -/
structure Income.Joins (i j k : Income) : Prop where
  earned : i.earned.add j.earned = .ok k.earned
  unearned : i.unearned.add j.unearned = .ok k.unearned
  ssi : i.ssi.add j.ssi = .ok k.ssi

lemma Income.addPerson_eq_ok : i.addPerson m = .ok k ↔ ∃ j, Earns m j ∧ i.Joins j k := by
  unfold Income.addPerson
  simp only [bind_eq_ok, pure_eq_ok]
  constructor
  · rintro ⟨e, he, e', he', u, hu, u', hu', s, hs, s', hs', rfl⟩
    exact ⟨⟨e, u, s⟩, ⟨he, hu, hs⟩, ⟨he', hu', hs'⟩⟩
  · rintro ⟨j, hj, hjoins⟩
    exact ⟨_, hj.earned, _, hjoins.earned, _, hj.unearned, _, hjoins.unearned, _, hj.ssi, _,
      hjoins.ssi, rfl⟩

lemma Income.joins_of_zero : Income.Joins ⟨.zero, .zero, .zero⟩ j k ↔ j = k := by
  constructor
  · rintro ⟨hearned, hunearned, hssi⟩
    rw [zero_add_eq, Except.ok.injEq] at hearned hunearned hssi
    cases j
    cases k
    congr
  · rintro rfl
    exact ⟨zero_add_eq _, zero_add_eq _, zero_add_eq _⟩

lemma combinedIncome_eq_ok : combinedIncome m (some p) = .ok k ↔
    ∃ i j, Earns m i ∧ Earns p j ∧ i.Joins j k := by
  unfold combinedIncome
  simp only [Option.toList_some, foldlM_cons_eq_ok, List.foldlM_nil, pure_eq_ok,
    Income.addPerson_eq_ok, Income.joins_of_zero]
  constructor
  · rintro ⟨_, ⟨i, hi, rfl⟩, _, ⟨j, hj, hjoins⟩, rfl⟩
    exact ⟨i, j, hi, hj, hjoins⟩
  · rintro ⟨i, j, hi, hj, hjoins⟩
    exact ⟨i, ⟨i, hi, rfl⟩, k, ⟨j, hj, hjoins⟩, rfl⟩

lemma Income.Joins.exists_comm (h : i.Joins j k) : ∃ k', j.Joins i k' ∧ k.Same k' := by
  obtain ⟨e, he, hearned⟩ := (add_comm_alike _ _).exists_ok h.earned
  obtain ⟨u, hu, hunearned⟩ := (add_comm_alike _ _).exists_ok h.unearned
  obtain ⟨s, hs, hssi⟩ := (add_comm_alike _ _).exists_ok h.ssi
  exact ⟨⟨e, u, s⟩, ⟨he, hu, hs⟩, ⟨hearned, hunearned, hssi⟩⟩

lemma exists_combinedIncome_comm (h : combinedIncome m (some p) = .ok k) :
    ∃ k', combinedIncome p (some m) = .ok k' ∧ k.Same k' := by
  obtain ⟨i, j, hi, hj, hjoins⟩ := combinedIncome_eq_ok.mp h
  obtain ⟨k', hjoins', hsame⟩ := hjoins.exists_comm
  exact ⟨k', combinedIncome_eq_ok.mpr ⟨j, i, hj, hi, hjoins'⟩, hsame⟩

/-- It makes no difference which of a couple comes first. -/
lemma combinedIncome_comm (m p : Member) :
    Alike Income.Same (combinedIncome m (some p)) (combinedIncome p (some m)) := by
  refine .of_results ⟨?_, ?_⟩ fun k k' hk hk' => ?_
  · rintro ⟨k, hk⟩
    exact (exists_combinedIncome_comm hk).imp fun _ h => h.1
  · rintro ⟨k, hk⟩
    exact (exists_combinedIncome_comm hk).imp fun _ h => h.1
  · obtain ⟨k'', hk'', hsame⟩ := exists_combinedIncome_comm hk
    rwa [Except.ok.inj (hk'.symm.trans hk'')]

section Partners

variable {h : Household} {head partner : Member}

lemma partner?_of_head (hhead : h.head? = some head) : partner? h head = h.spouse? :=
  if_pos (List.find?_some hhead)

lemma partner?_of_spouse (hpartner : h.spouse? = some partner) : partner? h partner = h.head? := by
  have hspouse : partner.isSpouse = true := List.find?_some hpartner
  rw [partner?, Member.isHead_eq_false hspouse, if_neg (by decide), if_pos hspouse]

end Partners

/-- The check of assets against the limit for couples. -/
def jointAssets (h : Household) : Condition :=
  checkFor (h.assets ≤ marriedAssetLimit) (.assets marriedAssetLimit)

/-- The checks of assets and of income for two members are the same: one limit of assets, which is
that for couples, one limit of income, and incomes of one value. -/
structure SameMeans (h : Household) (xs ys : Conditions) : Prop where
  assets : xs[2]? = some (jointAssets h) ∧ ys[2]? = some (jointAssets h)
  income : ∃ income income' maxIncome,
    income.SameValue income' ∧ (income ≤ maxIncome ↔ income' ≤ maxIncome) ∧
    xs[3]? = some (checkFor (income ≤ maxIncome) (.income income maxIncome)) ∧
    ys[3]? = some (checkFor (income' ≤ maxIncome) (.income income' maxIncome))

variable {ctx : Context} {head partner : Member}

/-- The checks of a member who has a partner. -/
lemma memberConditions_of_partner (hpartner : partner? ctx.household m = some p) :
    memberConditions ctx m [] = (do
      let i ← combinedIncome m (some p)
      let income ← countableIncome i.earned i.unearned i.ssi
      let maxIncome ← (← ctx.guideline).mul maxPercent
      return [
        checkFor (ageRule.passes m) (.olderThan 65),
        check (m.insurance.containsAny coverage),
        jointAssets ctx.household,
        checkFor (income ≤ maxIncome) (.income income maxIncome)]) := by
  unfold memberConditions
  rw [hpartner]
  rfl

lemma memberConditions_alike (hm : partner? ctx.household m = some p)
    (hp : partner? ctx.household p = some m) :
    Alike (SameMeans ctx.household) (memberConditions ctx m []) (memberConditions ctx p []) := by
  rw [memberConditions_of_partner hm, memberConditions_of_partner hp]
  refine (combinedIncome_comm m p).bind fun i i' hi => ?_
  refine (countableIncome_alike hi).bind fun income income' hincome => ?_
  refine .bind_self _ fun guideline => .bind_self _ fun maxIncome => .pure ⟨⟨rfl, rfl⟩, ?_⟩
  exact ⟨income, income', maxIncome, hincome, hincome.le_iff_le (.refl _), rfl, rfl⟩

/-- A head and the partner are held to the same assets and to the same income, whoever else there is
and whatever the order of the members: the checks for the one overflow with those for the other, and
what a result records for the two is the same. -/
theorem couple_sameMeans (hhead : ctx.household.head? = some head)
    (hpartner : ctx.household.spouse? = some partner) :
    Alike (SameMeans ctx.household) (memberConditions ctx head [])
      (memberConditions ctx partner []) ∧
    ∀ r, calculator.calculate ctx = .ok r → ∀ x y : Nat, ctx.household.members[x]? = some head →
      ctx.household.members[y]? = some partner → ∃ o o' : MemberResult,
        r.members[x]? = some o ∧ r.members[y]? = some o' ∧ o.id = head.id ∧ o'.id = partner.id ∧
        SameMeans ctx.household o.conditions o'.conditions := by
  have halike := memberConditions_alike ((partner?_of_head hhead).trans hpartner)
    ((partner?_of_spouse hpartner).trans hhead)
  refine ⟨halike, fun r hr x y hx hy => ?_⟩
  obtain ⟨_, hcalculation⟩ := exists_calculation hr
  have hall : List.Forall₂ (calculator.Assesses ctx r.eligible) ctx.household.members r.members :=
    hcalculation.members.1
  obtain ⟨o, ho, hassesses⟩ := exists_of_forall₂_getElem? hall hx
  obtain ⟨o', ho', hassesses'⟩ := exists_of_forall₂_getElem? hall hy
  exact ⟨o, o', ho, ho', hassesses.id, hassesses'.id,
    halike.related hassesses.conditions hassesses'.conditions⟩

open TaxUnits (lodger sharedFlat)

/-- A husband and another partner, both listed before the head. -/
def threeRetired : Context where
  household := { sharedFlat with
    members := [
      lodger 2 .spouse (some 70) [⟨.supplementalSecurity, .whole 120, .monthly, none⟩],
      lodger 3 .domesticPartner (some 66) [⟨.pension, .whole 2500, .monthly, none⟩],
      lodger 1 .headOfHousehold (some 68) [⟨.pension, .hundredths 90050, .monthly, none⟩,
        ⟨.wages, .hundredths 1250, .hourly, some (.whole 10)⟩]] }
  program := ⟨"medicare_savings", "Medicare Savings Program", none, "2025", Shipped.table2025⟩
  results := .empty
  simulation := .skipped
  limits := .empty
  asOf := ⟨2025, 6, 1⟩

theorem threeRetired_sameMeans : ∃ r o o', calculator.calculate threeRetired = .ok r ∧
    r.members[2]? = some o ∧ r.members[0]? = some o' ∧ o.id = ⟨1⟩ ∧ o'.id = ⟨2⟩ ∧
    SameMeans threeRetired.household o.conditions o'.conditions := by
  have hresult : (calculator.calculate threeRetired).toOption.any (fun _ => true) = true := by
    decide +kernel
  obtain ⟨r, hr, -⟩ := exists_ok_of_any hresult
  obtain ⟨-, hrecorded⟩ := @couple_sameMeans threeRetired _ _ rfl rfl
  obtain ⟨o, o', ho, ho', hid, hid', hmeans⟩ := hrecorded r hr 2 0 rfl rfl
  exact ⟨r, o, o', hr, ho, ho', hid, hid', hmeans⟩

end MedicareSavings

end BenefitScreen
