import BenefitScreen.Program.Registry
import BenefitScreen.Proofs.ConditionAgreement
import BenefitScreen.Proofs.RelistedHousehold

/-!
# Rules that do not see the order

What each program finds for a household is the same in any order of its members, of their income
streams and of its expenses: the checks for the household and for each member with their outcomes,
and amounts of the same values.
-/

namespace BenefitScreen

open Conditions Decimal Fallible

/-- What the rules find in two contexts is alike, for the household and for a member in both. -/
structure Calculator.FindsAlike (c : Calculator) (ctx ctx' : Context) : Prop where
  /-- Also after conditions that agree. -/
  householdConditions : ∀ cs cs', cs.Agree cs' →
    Alike Conditions.Agree (c.householdConditions ctx cs) (c.householdConditions ctx' cs')
  householdValue : Alike SameValue (c.householdValue ctx) (c.householdValue ctx')
  memberConditions : ∀ m ∈ ctx.household.members, ∀ m' ∈ ctx'.household.members, m.Relists m' →
    Alike Conditions.Agree (c.memberConditions ctx m []) (c.memberConditions ctx' m' [])
  memberValue : ∀ m m', m.Relists m' →
    ∃ amount, c.memberValue ctx m = .ok amount ∧ c.memberValue ctx' m' = .ok amount

lemma Calculator.FindsAlike.symm {c : Calculator} {ctx ctx' : Context}
    (h : c.FindsAlike ctx ctx') : c.FindsAlike ctx' ctx where
  householdConditions cs cs' hcs :=
    (h.householdConditions cs' cs hcs.symm).symm.imp fun _ _ => .symm
  householdValue := h.householdValue.symm.imp fun _ _ => .symm
  memberConditions m' hm' m hm hsame :=
    (h.memberConditions m hm m' hm' hsame.symm).symm.imp fun _ _ => .symm
  memberValue m' m hsame := (h.memberValue m m' hsame.symm).imp fun _ h => ⟨h.2, h.1⟩

section Simulated

variable {ctx : Context} {h' : Household}

lemma Simulated.forMembers_findsAlike {dependencies : List DataField} {vars : Simulation.Variables}
    {amount : Simulation.Response → Member → Decimal}
    (hamount : ∀ r m incomeStreams, amount r m = amount r { m with incomeStreams }) :
    (forMembers dependencies vars amount).FindsAlike ctx { ctx with household := h' } := by
  have hsame : ∀ m m' : Member, m.Relists m' →
      (fun r => amount r m) = fun r => amount r m' := fun m m' hm =>
    funext fun r => hm.congr (hamount r)
  exact {
    householdConditions := fun _ _ hcs => .ok hcs
    householdValue := .ok (.refl _)
    memberConditions := fun m _ m' _ hm => by
      simp only [forMembers, hsame m m' hm]
      exact .ok (.refl _)
    memberValue := fun m m' hm => by
      simp only [forMembers, hsame m m' hm]
      exact ⟨_, rfl, rfl⟩ }

lemma Simulated.forHousehold_findsAlike (dependencies : List DataField)
    (inputs : List Simulation.Input) (output : Simulation.Output) :
    (forHousehold dependencies inputs output).FindsAlike ctx { ctx with household := h' } where
  householdConditions _ _ hcs := .bind_self _ fun _ => .pure (hcs.append (.refl _))
  householdValue := .refl SameValue.refl _
  memberConditions _ _ _ _ _ := .ok (.refl _)
  memberValue _ _ _ := ⟨_, rfl, rfl⟩

lemma WorkersWithDisabilities.findsAlike :
    calculator.FindsAlike ctx { ctx with household := h' } where
  householdConditions _ _ hcs := .ok hcs
  householdValue := .ok (.refl _)
  memberConditions m _ m' _ hm := by
    simp only [calculator, hm.id_eq]
    exact .ok (.refl _)
  memberValue _ _ _ := ⟨_, rfl, rfl⟩

end Simulated

namespace PovertyCheck

lemma verdict_alike (c : PovertyCheck) (t : PovertyTable) (size : UInt64)
    {income income' : Decimal} (hincome : income.SameValue income') :
    Alike (fun v v' => (checkFor v.1 v.2).Agrees (checkFor v'.1 v'.2)) (c.verdict t size income)
      (c.verdict t size income') := by
  have htrunc := hincome.trunc
  refine .bind_self _ fun ceiling => ?_
  cases c.minPercent with
  | none =>
    refine .pure (Condition.agrees_income htrunc (.refl _) ?_)
    simp only [htrunc.le_iff_le (.refl ceiling)]
  | some percent =>
    refine .bind_self _ fun floor => ?_
    refine .pure (Condition.agrees_incomeRange htrunc (.refl _) (.refl _) ?_)
    simp only [htrunc.le_iff_le (.refl ceiling), (SameValue.refl floor).le_iff_le htrunc]

lemma checkIncome_alike (c : PovertyCheck) (t : PovertyTable) (size : UInt64)
    {income income' : Decimal} (hincome : income.SameValue income') {cs cs' : Conditions}
    (hcs : cs.Agree cs') : Alike (fun x x' => x.2.Agree x'.2) (c.checkIncome t size income cs)
      (c.checkIncome t size income' cs') := by
  refine (c.verdict_alike t size hincome).bind fun _ _ hx => .pure ?_
  exact hcs.append (agree_cons hx agree_nil)

end PovertyCheck

variable {ctx : Context} {h' : Household} (hlisted : ctx.household.Relists h')
  (hexact : ctx.household.AddsUp)
include hlisted hexact

lemma PovertyCheck.checkHousehold_alike (c : PovertyCheck) (t : PovertyTable)
    {cs cs' : Conditions} (hcs : cs.Agree cs') : Alike (fun x x' => x.2.Agree x'.2)
      (c.checkHousehold ctx.household t cs) (c.checkHousehold h' t cs') := by
  refine (hlisted.grossIncome hexact c.filters).bind fun income income' hincome => ?_
  rw [← hlisted.adjustedSize_eq]
  exact c.checkIncome_alike t _ hincome hcs

lemma AllKids.findsAlike : calculator.FindsAlike ctx { ctx with household := h' } where
  householdConditions _ _ hcs :=
    (income.checkHousehold_alike hlisted hexact _ hcs).bind fun _ _ hcs => .pure hcs
  householdValue := .ok (.refl _)
  memberConditions _ _ _ _ hm := by
    obtain ⟨_⟩ := hm
    exact .ok (.refl _)
  memberValue _ _ _ := ⟨_, rfl, rfl⟩

lemma FamilyCare.findsAlike : calculator.FindsAlike ctx { ctx with household := h' } where
  householdConditions _ _ hcs := by
    refine (hlisted.grossIncome hexact [.all]).bind fun gross gross' hgross => ?_
    simp only [hlisted.size_eq]
    refine (income.checkIncome_alike _ _ hgross (hcs.append (.refl _))).bind fun _ _ hcs => ?_
    exact .pure hcs
  householdValue := .ok (.refl _)
  memberConditions _ _ _ _ hm := by
    have hchild : hasChild ctx.household = hasChild h' := by
      rw [hasChild, hasChild, Household.childCount, Household.childCount,
        hlisted.countP_eq fun _ _ => rfl]
    obtain ⟨_⟩ := hm
    simp only [calculator, hchild]
    exact .ok (.refl _)
  memberValue _ _ _ := ⟨_, rfl, rfl⟩

namespace MomsAndBabies

omit hexact in
lemma hasNewborn_eq (asOf : Date) : hasNewborn ctx.household asOf = hasNewborn h' asOf :=
  hlisted.any_eq fun _ _ => rfl

omit hexact in
lemma hasEligibleParent_eq (asOf : Date) :
    hasEligibleParent ctx.household asOf = hasEligibleParent h' asOf := by
  rw [hasEligibleParent, hasEligibleParent, hasNewborn_eq hlisted]
  exact hlisted.any_eq fun _ _ => rfl

lemma findsAlike : calculator.FindsAlike ctx { ctx with household := h' } where
  householdConditions _ _ hcs := by
    refine (income.checkHousehold_alike hlisted hexact _ (hcs.append (.refl _))).bind
      fun _ _ hcs => .pure ?_
    rw [hasEligibleParent_eq hlisted]
    exact hcs.append (.refl _)
  householdValue := .ok (.refl _)
  memberConditions _ _ _ _ hm := by
    obtain ⟨_⟩ := hm
    simp only [calculator, isCovered, hasNewborn_eq hlisted, hasEligibleParent_eq hlisted]
    exact .ok (.refl _)
  memberValue _ _ hm := by
    obtain ⟨_⟩ := hm
    exact ⟨_, rfl, rfl⟩

end MomsAndBabies

lemma NurseFamilyPartnership.findsAlike :
    calculator.FindsAlike ctx { ctx with household := h' } where
  householdConditions _ _ hcs := by
    simp only [calculator, hlisted.any_eq (p := fun m => m.relationship == .child) fun _ _ => rfl]
    exact .ok (hcs.append (.refl _))
  householdValue := .ok (.refl _)
  memberConditions m hmem m' _ hm := by
    refine (hm.grossIncome (hexact.incomeStreams hmem) _ _ _).bind fun gross gross' hgross => ?_
    refine .bind_self _ fun maxIncome => .pure ?_
    have hincome := hgross.trunc
    refine agree_cons ?_ (agree_cons (Condition.agrees_income hincome (.refl _) ?_) agree_nil)
    · rw [hm.congr (f := Member.pregnant) fun _ _ => rfl]
      exact .refl _
    · rw [hm.congr (f := Member.insurance) fun _ _ => rfl]
      simp only [hincome.le_iff_le (.refl maxIncome),
        hlisted.congr (f := (·.hasBenefit "wic")) fun _ _ _ => rfl]
  memberValue _ _ _ := ⟨_, rfl, rfl⟩

lemma Weatherization.findsAlike : calculator.FindsAlike ctx { ctx with household := h' } where
  householdConditions _ _ hcs := by
    have hquery : query? ctx.household = query? h' := by
      rw [query?, query?, hlisted.size_eq, hlisted.congr (f := (·.county)) fun _ _ _ => rfl]
    have hcategorical : isCategorical ctx = isCategorical { ctx with household := h' } := by
      simp only [isCategorical, hlisted.congr (f := (·.hasBenefit)) fun _ _ _ => rfl]
      rfl
    refine (hlisted.grossIncome hexact [.all]).bind fun income income' hincome => .pure ?_
    rw [hlisted.hasExpense_eq]
    refine hcs.append (agree_cons ?_ (.refl _))
    simp only [incomeCondition, ← hquery, ← hcategorical]
    cases (query? ctx.household).map ctx.limits.get with
    | none => exact .refl _
    | some answer =>
      cases answer with
      | error failure => exact .refl _
      | ok maxIncome =>
        refine Condition.agrees_income hincome (.refl _) ?_
        simp only [hincome.le_iff_le (.refl maxIncome)]
  householdValue := .ok (.refl _)
  memberConditions _ _ _ _ _ := .ok (.refl _)
  memberValue _ _ _ := ⟨_, rfl, rfl⟩

omit hexact in
lemma CityHousing.query_eq (dataset : Dataset) (percent : UInt8) :
    query ctx.household dataset percent = query h' dataset percent := by
  rw [query, query, hlisted.size_eq]

lemma MiddleIncomeRental.incomeCondition_alike : Alike Condition.Agrees (incomeCondition ctx)
    (incomeCondition { ctx with household := h' }) := by
  simp only [incomeCondition, floorQuery, medianQuery, ← CityHousing.query_eq hlisted]
  cases ctx.limits.get (CityHousing.query ctx.household .mtsp 80) with
  | error failure => exact .ok (.refl _)
  | ok floor =>
    cases ctx.limits.get (CityHousing.query ctx.household .mtsp 100) with
    | error failure => exact .ok (.refl _)
    | ok median =>
      refine (hlisted.grossIncome hexact [.all]).bind fun income income' hincome => ?_
      refine .bind_self _ fun ceiling => .pure ?_
      refine Condition.agrees_incomeRange hincome (.refl _) (.refl _) ?_
      simp only [hincome.le_iff_le (.refl ceiling), (SameValue.refl floor).le_iff_le hincome]

lemma MiddleIncomeRental.findsAlike : calculator.FindsAlike ctx { ctx with household := h' } where
  householdConditions _ _ hcs := by
    refine (incomeCondition_alike hlisted hexact).bind fun _ _ hx => .pure ?_
    dsimp only
    rw [hlisted.congr (f := (·.hasBenefit "ma_middle_income_rental")) fun _ _ _ => rfl,
      hlisted.congr (f := CityHousing.inCity) fun _ _ _ => rfl,
      hlisted.congr (f := (·.assets)) fun _ _ _ => rfl]
    exact hcs.append (agree_cons (.refl _) (agree_cons (.refl _) (agree_cons (.refl _)
      (agree_cons hx agree_nil))))
  householdValue := .ok (.refl _)
  memberConditions _ _ _ _ _ := .ok (.refl _)
  memberValue _ _ _ := ⟨_, rfl, rfl⟩

lemma RentalAssistance.incomeCondition_alike : Alike Condition.Agrees (incomeCondition ctx)
    (incomeCondition { ctx with household := h' }) := by
  simp only [incomeCondition, limitQuery, ← CityHousing.query_eq hlisted]
  cases ctx.limits.get (CityHousing.query ctx.household .section8 50) with
  | error failure => exact .ok (.refl _)
  | ok maxIncome =>
    refine (hlisted.grossIncome hexact [.all]).bind fun income income' hincome => .pure ?_
    refine Condition.agrees_income hincome (.refl _) ?_
    simp only [hincome.le_iff_le (.refl maxIncome)]

lemma RentalAssistance.findsAlike : calculator.FindsAlike ctx { ctx with household := h' } where
  householdConditions _ _ hcs := by
    refine (incomeCondition_alike hlisted hexact).bind fun _ _ hx => .pure ?_
    dsimp only
    rw [hlisted.congr (f := CityHousing.inCity) fun _ _ _ => rfl]
    exact hcs.append (agree_cons (.refl _) (agree_cons hx agree_nil))
  householdValue := .ok (.refl _)
  memberConditions _ _ _ _ _ := .ok (.refl _)
  memberValue _ _ _ := ⟨_, rfl, rfl⟩

namespace HeatingAssistance

omit hexact in
lemma any_seniorOrDisabled_eq : seniorOrDisabled.any ctx.household = seniorOrDisabled.any h' :=
  hlisted.any_eq fun _ _ => rfl

lemma countableIncome_alike :
    Alike SameValue (countableIncome ctx.household) (countableIncome h') := by
  refine (hlisted.grossIncome hexact [.earned]).bind fun earned earned' hearned => ?_
  refine (hlisted.grossIncome hexact [.unearned]).bind fun unearned unearned' hunearned => ?_
  refine (hlisted.totalExpenses hexact deductedExpenses).bind fun expenses expenses' hexpenses => ?_
  rw [← any_seniorOrDisabled_eq hlisted]
  refine (hearned.mul (.refl _)).bind fun _ _ hcounted => ?_
  refine (hcounted.add hunearned).bind fun _ _ hgross => ?_
  refine (hgross.sub hexpenses).bind fun _ _ hless => ?_
  refine (hless.sub (.refl _)).bind fun _ _ hincome => .pure ?_
  exact hincome.max (.refl _)

lemma findsAlike : calculator.FindsAlike ctx { ctx with household := h' } where
  householdConditions _ _ hcs := by
    refine (countableIncome_alike hlisted hexact).bind fun income income' hincome => ?_
    simp only [maxPercent, ← any_seniorOrDisabled_eq hlisted, ← hlisted.size_eq,
      ← hlisted.hasExpense_eq]
    refine .bind_self _ fun maxIncome => .pure (hcs.append ?_)
    refine agree_cons (.refl _)
      (agree_cons (Condition.agrees_income hincome (.refl _) ?_) agree_nil)
    simp only [hincome.le_iff_le (.refl maxIncome)]
  householdValue := by
    refine (countableIncome_alike hlisted hexact).bind fun income income' hincome => ?_
    simp only [Context.guideline, ← hlisted.size_eq]
    refine .bind_self _ fun guideline => ?_
    simp only [hincome.le_iff_le (.refl _)]
    exact .refl SameValue.refl _
  memberConditions _ _ _ _ _ := .ok (.refl _)
  memberValue _ _ _ := ⟨_, rfl, rfl⟩

end HeatingAssistance

section Couples

variable (hclear : ctx.household.Unambiguous)
include hclear

namespace ChildCare

lemma worksOrStudies_alike :
    Alike (· = ·) (worksOrStudies ctx.household) (worksOrStudies h') := by
  have hhead := hlisted.head? hclear
  unfold worksOrStudies
  generalize ctx.household.head? = head, h'.head? = head' at hhead ⊢
  cases hhead with
  | none => exact .ok rfl
  | some hm =>
    obtain ⟨hmem, hm⟩ := hm
    simp only [← hm.congr (f := Member.student) fun _ _ => rfl]
    split
    · exact .ok rfl
    · refine (hm.grossIncome (hexact.incomeStreams hmem) _ _ _).bind fun earned _ hearned => ?_
      refine .pure (decide_eq_decide.mpr ?_)
      exact (SameValue.refl _).lt_iff_lt hearned

omit hclear in
lemma monthlyCopay_alike (t : PovertyTable)
    (hmonthly : AddUpFreely
      (resultValues (·.grossIncome .monthly [.all] []) ctx.household.members)) :
    Alike SameValue (monthlyCopay ctx.household t) (monthlyCopay h' t) := by
  refine (hlisted.grossIncome_of_sums hexact hmonthly).bind fun income income' hincome => ?_
  rw [← hlisted.size_eq]
  refine .bind_self _ fun guideline => ?_
  simp only [hincome.le_iff_le (.refl _)]
  split
  · exact .ok (.refl _)
  · exact (hincome.mul (.refl _)).bind fun _ _ hshare => .pure (hshare.roundTo (by decide))

lemma findsAlike (hmonthly : AddUpFreely
      (resultValues (·.grossIncome .monthly [.all] []) ctx.household.members)) :
    calculator.FindsAlike ctx { ctx with household := h' } where
  householdConditions _ _ hcs := by
    refine (hlisted.grossIncome hexact [.all]).bind fun gross gross' hgross => ?_
    simp only [← hlisted.size_eq, ← hlisted.congr (f := (·.hasBenefit "il_ccap")) fun _ _ _ => rfl]
    refine (income.checkIncome_alike _ _ hgross (hcs.append (.refl _))).bind fun _ _ hcs => ?_
    refine (worksOrStudies_alike hlisted hexact hclear).bind fun _ _ hworks => .pure ?_
    rw [hworks]
    exact hcs.append (.refl _)
  householdValue := by
    refine (monthlyCopay_alike hlisted hexact _ hmonthly).bind fun _ _ hcopay => ?_
    exact (hcopay.mul (.refl _)).bind fun _ _ hyearly => .pure hyearly.neg
  memberConditions _ _ _ _ hm := by
    obtain ⟨_⟩ := hm
    exact .ok (.refl _)
  memberValue _ _ hm := by
    obtain ⟨_⟩ := hm
    simp only [calculator, hlisted.congr (f := (·.county)) fun _ _ _ => rfl]
    exact ⟨_, rfl, rfl⟩

end ChildCare

namespace MedicareSavings

/-- Incomes of the same values. -/
structure Income.Same (i i' : Income) : Prop where
  earned : i.earned.SameValue i'.earned
  unearned : i.unearned.SameValue i'.unearned
  ssi : i.ssi.SameValue i'.ssi

omit hlisted hexact hclear in
lemma Income.Same.addPerson {i i' : Income} (hi : i.Same i') {m m' : Member} (hm : m.Relists m')
    (hsums : AddUpFreely (resultValues IncomeStream.yearly m.incomeStreams)) :
    Alike Income.Same (i.addPerson m) (i'.addPerson m') := by
  refine (hm.grossIncome hsums _ _ _).bind fun _ _ hgross => ?_
  refine (hi.earned.add hgross).bind fun _ _ hearned => ?_
  refine (hm.grossIncome hsums _ _ _).bind fun _ _ hgross => ?_
  refine (hi.unearned.add hgross).bind fun _ _ hunearned => ?_
  refine (hm.yearlyIncomeOf hsums _).bind fun _ _ hpaid => ?_
  exact (hi.ssi.add hpaid).bind fun _ _ hssi => .pure ⟨hearned, hunearned, hssi⟩

omit hlisted hexact hclear in
lemma countableIncome_alike {i i' : Income} (hi : i.Same i') : Alike SameValue
    (countableIncome i.earned i.unearned i.ssi)
    (countableIncome i'.earned i'.unearned i'.ssi) := by
  have hcounted : ∀ {x x' y y' : Decimal}, x.SameValue x' → y.SameValue y' →
      Alike SameValue
        (do (← (((← x.sub earnedDisregard).max .zero).divNat 2).add y).add i.ssi)
        (do (← (((← x'.sub earnedDisregard).max .zero).divNat 2).add y').add i'.ssi) := by
    intro x x' y y' hx hy
    refine (hx.sub (.refl _)).bind fun _ _ hearned => ?_
    exact (((hearned.max (.refl _)).divNat (by decide)).add hy).bind fun _ _ h => h.add hi.ssi
  unfold countableIncome
  simp only [(SameValue.refl generalDisregard).le_iff_le hi.unearned]
  split
  · exact (hi.unearned.sub (.refl _)).bind fun _ _ hrest => hcounted hi.earned hrest
  · refine ((SameValue.refl generalDisregard).sub hi.unearned).bind fun _ _ hleft => ?_
    refine (hi.earned.sub hleft).bind fun _ _ hrest => ?_
    exact hcounted (hrest.max (.refl _)) (.refl _)

omit hexact in
lemma partner?_rel {m m' : Member} (hm : m.Relists m') :
    Option.Rel (fun x x' => x ∈ ctx.household.members ∧ x.Relists x') (partner? ctx.household m)
      (partner? h' m') := by
  unfold partner?
  rw [← hm.congr (f := Member.isHead) fun _ _ => rfl,
    ← hm.congr (f := Member.isSpouse) fun _ _ => rfl]
  by_cases hhead : m.isHead = true
  · rw [if_pos hhead, if_pos hhead]
    exact hlisted.spouse? hclear
  by_cases hspouse : m.isSpouse = true
  · rw [if_neg hhead, if_neg hhead, if_pos hspouse, if_pos hspouse]
    exact hlisted.head? hclear
  · rw [if_neg hhead, if_neg hhead, if_neg hspouse, if_neg hspouse]
    exact .none

omit hlisted hclear in
lemma combinedIncome_alike {m m' : Member} (hmem : m ∈ ctx.household.members)
    (hm : m.Relists m') {partner partner' : Option Member} (hpartner : Option.Rel
      (fun x x' => x ∈ ctx.household.members ∧ x.Relists x') partner partner') :
    Alike Income.Same (combinedIncome m partner) (combinedIncome m' partner') := by
  have hpeople : List.Forall₂ (fun x x' => x ∈ ctx.household.members ∧ x.Relists x')
      (m :: partner.toList) (m' :: partner'.toList) := by
    refine .cons ⟨hmem, hm⟩ ?_
    cases hpartner with
    | none => exact .nil
    | some hx => exact .cons hx .nil
  refine Alike.foldlM hpeople (fun i i' x x' hi hx => ?_) ⟨.refl _, .refl _, .refl _⟩
  exact hi.addPerson hx.2 (hexact.incomeStreams hx.1)

lemma findsAlike : calculator.FindsAlike ctx { ctx with household := h' } where
  householdConditions _ _ hcs := .ok hcs
  householdValue := .ok (.refl _)
  memberConditions m hmem m' _ hm := by
    have hpartner := partner?_rel hlisted hclear hm
    have hsome : (partner? ctx.household m).isSome = (partner? h' m').isSome := by
      generalize partner? ctx.household m = x, partner? h' m' = x' at hpartner ⊢
      cases hpartner <;> rfl
    refine (combinedIncome_alike hexact hmem hm hpartner).bind fun i i' hi => ?_
    refine (countableIncome_alike hi).bind fun income income' hincome => ?_
    simp only [Context.guideline, ← hlisted.size_eq]
    refine .bind_self _ fun guideline => ?_
    refine .bind_self _ fun maxIncome => .pure ?_
    rw [← hsome, ← hm.congr (f := ageRule.passes) fun _ _ => rfl,
      ← hm.congr (f := Member.insurance) fun _ _ => rfl,
      ← hlisted.congr (f := (·.assets)) fun _ _ _ => rfl]
    refine agree_cons (.refl _) (agree_cons (.refl _) (agree_cons (.refl _)
      (agree_cons (Condition.agrees_income hincome (.refl _) ?_) agree_nil)))
    simp only [hincome.le_iff_le (.refl maxIncome)]
  memberValue _ _ _ := ⟨_, rfl, rfl⟩

end MedicareSavings

/-- No registered program tells the orders apart. Child care assistance alone adds up monthly
incomes. -/
theorem Registry.findsAlike {e : String × Calculator} (he : e ∈ calculators)
    (hmonthly : e.1 = "il_ccap" → AddUpFreely
      (resultValues (·.grossIncome .monthly [.all] []) ctx.household.members)) :
    e.2.FindsAlike ctx { ctx with household := h' } := by
  cases e, he using calculators_cases with
  | medicaid => exact Simulated.forMembers_findsAlike fun _ _ _ => rfl
  | wic => exact Simulated.forMembers_findsAlike fun _ _ _ => rfl
  | snap => exact Simulated.forHousehold_findsAlike _ _ _
  | aca => exact Simulated.forHousehold_findsAlike _ _ _
  | medicareSavings => exact MedicareSavings.findsAlike hlisted hexact hclear
  | allKids => exact AllKids.findsAlike hlisted hexact
  | familyCare => exact FamilyCare.findsAlike hlisted hexact
  | momsAndBabies => exact MomsAndBabies.findsAlike hlisted hexact
  | childCare => exact ChildCare.findsAlike hlisted hexact hclear (hmonthly rfl)
  | workers => exact WorkersWithDisabilities.findsAlike
  | nurse => exact NurseFamilyPartnership.findsAlike hlisted hexact
  | weatherization => exact Weatherization.findsAlike hlisted hexact
  | heating => exact HeatingAssistance.findsAlike hlisted hexact
  | middleIncome => exact MiddleIncomeRental.findsAlike hlisted hexact
  | rental => exact RentalAssistance.findsAlike hlisted hexact

end Couples

end BenefitScreen
