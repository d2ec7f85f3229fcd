import BenefitScreen.Configuration.Shipped
import BenefitScreen.Program.Energy
import BenefitScreen.Proofs.Fallible
import BenefitScreen.Proofs.TaxReturns

/-!
# The result of a program

What a result says, for any rules whatever: which conditions it shows, when it finds the household
eligible, whom it values and what the values add up to. A calculation has no result only where one
of the rules overflows, or the sum of the values does.
-/

namespace BenefitScreen

open Fallible

namespace Decimal

/-- The largest amount that there is. -/
def largest : Decimal := ⟨false, mantissaBound - 1, 0, by decide, zero_le_scale⟩

/-- Amounts to which anything is added alike: the same, or nothing. -/
def AddsAlike (a b : Decimal) : Prop := a = b ∨ a.isZero = true ∧ b.isZero = true

lemma AddsAlike.add {a b : Decimal} (h : AddsAlike a b) (x : Decimal) : a.add x = b.add x := by
  rcases h with rfl | ⟨ha, hb⟩
  · rfl
  · rw [Decimal.add, Decimal.add, add?, add?, if_pos ha, if_pos hb]

lemma AddsAlike.trans {a b x : Decimal} (h : AddsAlike a b) (h' : AddsAlike b x) :
    AddsAlike a x := by
  rcases h, h' with ⟨rfl | ⟨ha, hb⟩, rfl | ⟨hb', hx⟩⟩
  · exact .inl rfl
  · exact .inr ⟨hb', hx⟩
  · exact .inr ⟨ha, hb⟩
  · exact .inr ⟨ha, hx⟩

lemma AddsAlike.sameValue {a b : Decimal} (h : AddsAlike a b) : a.SameValue b := by
  have hsigned : ∀ {x : Decimal}, x.isZero = true → x.signed = 0 := by
    intro x hx
    have hm : x.mantissa = 0 := by simpa [isZero] using hx
    simp [signed, hm]
  rcases h with rfl | ⟨ha, hb⟩
  · exact Eq.refl _
  · change a.signed * _ = b.signed * _
    rw [hsigned ha, hsigned hb, Int.zero_mul, Int.zero_mul]

/-- Adding nothing leaves an amount as it is, but for the digits of a zero. -/
lemma exists_add_zero (a : Decimal) : ∃ t, a.add zero = .ok t ∧ AddsAlike t a := by
  unfold Decimal.add add?
  by_cases ha : a.isZero = true
  · rw [if_pos ha]
    exact ⟨zero, rfl, .inr ⟨rfl, ha⟩⟩
  · rw [if_neg ha, if_pos (show zero.isZero = true from rfl)]
    exact ⟨a, rfl, .inl rfl⟩

end Decimal

namespace Calculator

variable {c : Calculator} {ctx : Context}

/-- Whether the member passes every check of the rules. -/
def admits (c : Calculator) (ctx : Context) (m : Member) : Bool :=
  (c.memberConditions ctx m []).toOption.any Conditions.passed

/-- The members whom the rules admit; none where the program does not concern members. -/
def payees (c : Calculator) (ctx : Context) : List Member :=
  if c.memberScoped then ctx.household.members.filter (c.admits ctx) else []

/-- The rules for the household keep what was recorded before and add their conditions after it. -/
def OnlyAdds (c : Calculator) (ctx : Context) : Prop :=
  ∀ before after, c.householdConditions ctx before = .ok after → before <+: after

/-- What is recorded for a member: the conditions that the rules check, and a value where the
program and the member are eligible. -/
structure Assesses (c : Calculator) (ctx : Context) (eligible : Bool) (m : Member)
    (o : MemberResult) : Prop where
  id : o.id = m.id
  conditions : c.memberConditions ctx m [] = .ok o.conditions
  value : if eligible && o.eligible then c.memberValue ctx m = .ok o.value else o.value = .zero

/-- What is recorded for the members of the household, in their order: nothing for programs that do
not concern members. -/
def AssessesAll (c : Calculator) (ctx : Context) (eligible : Bool)
    (os : List MemberResult) : Prop :=
  if c.memberScoped then List.Forall₂ (c.Assesses ctx eligible) ctx.household.members os
  else os = []

/-- The result that the rules of a program give. -/
structure Yields (c : Calculator) (ctx : Context) (r : ProgramResult) : Prop where
  code : r.code = ctx.program.code
  name : r.name = ctx.program.name
  /-- A simulation that the program rests on and that failed is recorded before the rules are
  asked. -/
  conditions_of_failed : ∀ detail, c.vars.isSome = true → ctx.simulation = .failed detail →
    c.householdConditions ctx [checkFor false (.unableToDetermine detail)] = .ok r.conditions
  /-- Rules that only add leave it there, before all conditions of their own. -/
  refusal_of_failed : c.OnlyAdds ctx → ∀ detail, c.vars.isSome = true →
    ctx.simulation = .failed detail →
    r.eligible = false ∧ ∃ own, r.conditions = checkFor false (.unableToDetermine detail) :: own
  conditions : (c.vars = none ∨ ∀ detail, ctx.simulation ≠ .failed detail) →
    c.householdConditions ctx [] = .ok r.conditions
  members : c.AssessesAll ctx r.eligible r.members
  eligible_iff : r.eligible = true ↔ (∀ x ∈ r.conditions, x.passed = true) ∧
    (c.memberScoped = true → ∃ o ∈ r.members, ∀ x ∈ o.conditions, x.passed = true)
  refused : r.eligible = false → r.value = .zero ∧ ∀ o ∈ r.members, o.value = .zero
  /-- Members who are not eligible have no value, so that it makes no difference to add it. -/
  granted : r.eligible = true → ∃ amount total, c.householdValue ctx = .ok amount ∧
    ((r.members.filter (·.eligible)).map (·.value)).foldlM Decimal.add amount = .ok r.value ∧
    (r.members.map (·.value)).foldlM Decimal.add amount = .ok total ∧ total.SameValue r.value

/-- The household passes every check, and so does a member where the program concerns members. -/
def Approves (c : Calculator) (ctx : Context) : Prop :=
  (∃ cs, c.householdConditions ctx (c.simulationConditions ctx) = .ok cs ∧
    Conditions.passed cs = true) ∧
  (c.memberScoped = true → ∃ m ∈ ctx.household.members, c.admits ctx m = true)

/-- Nothing overflows: neither a rule that is applied, nor the sum of the values. -/
structure Fits (c : Calculator) (ctx : Context) : Prop where
  household : ∃ cs, c.householdConditions ctx (c.simulationConditions ctx) = .ok cs
  members : c.memberScoped = true → ∀ m ∈ ctx.household.members,
    ∃ cs, c.memberConditions ctx m [] = .ok cs
  /-- Values count only where the household is approved. -/
  values : c.Approves ctx → ∃ amount values total, c.householdValue ctx = .ok amount ∧
    (c.payees ctx).mapM (c.memberValue ctx) = .ok values ∧
    values.foldlM Decimal.add amount = .ok total

/-- How a result comes about from what the rules record. -/
structure Calculation (c : Calculator) (ctx : Context) (outcomes : List MemberResult)
    (r : ProgramResult) : Prop where
  householdConditions :
    c.householdConditions ctx (c.simulationConditions ctx) = .ok r.conditions
  memberOutcomes : c.memberOutcomes ctx = .ok outcomes
  code : r.code = ctx.program.code
  name : r.name = ctx.program.name
  eligible : r.eligible = (Conditions.passed r.conditions &&
    (!c.memberScoped || outcomes.any MemberResult.eligible))
  refused : r.eligible = false → r.members = outcomes ∧ r.value = .zero
  granted : r.eligible = true → ∃ amount, c.householdValue ctx = .ok amount ∧
    c.valueMembers ctx ctx.household.members outcomes amount = .ok (r.members, r.value)

lemma payees_sublist : (c.payees ctx).Sublist ctx.household.members := by
  unfold payees
  split
  · exact List.filter_sublist
  · exact List.nil_sublist _

lemma exists_calculation {r : ProgramResult} (h : c.calculate ctx = .ok r) :
    ∃ outcomes, c.Calculation ctx outcomes r := by
  obtain ⟨conditions, hconditions, h⟩ := bind_eq_ok.mp h
  obtain ⟨outcomes, houtcomes, h⟩ := bind_eq_ok.mp h
  refine ⟨outcomes, ?_⟩
  dsimp only at h
  split at h
  · rename_i heligible
    obtain ⟨amount, hamount, h⟩ := bind_eq_ok.mp h
    obtain ⟨valued, hvalued, h⟩ := bind_eq_ok.mp h
    obtain rfl := pure_eq_ok.mp h
    refine ⟨hconditions, houtcomes, rfl, rfl, rfl, fun hno => ?_,
      fun _ => ⟨amount, hamount, hvalued⟩⟩
    exact absurd (heligible.symm.trans hno) (by decide)
  · rename_i hno
    obtain ⟨_, hpair, h⟩ := bind_eq_ok.mp h
    cases pure_eq_ok.mp hpair
    obtain rfl := pure_eq_ok.mp h
    exact ⟨hconditions, houtcomes, rfl, rfl, rfl, fun _ => ⟨rfl, rfl⟩,
      fun heligible => absurd heligible hno⟩

section Members

variable {ms : List Member} {os os' : List MemberResult} {m : Member} {o : MemberResult}

lemma memberOutcomes_eq_ok (h : c.memberOutcomes ctx = .ok os) : c.AssessesAll ctx false os := by
  unfold memberOutcomes at h
  unfold AssessesAll
  split at h
  · rename_i hscoped
    rw [if_pos hscoped]
    refine (forall₂_of_mapM h).imp fun m o ho => ?_
    obtain ⟨own, hown, ho⟩ := bind_eq_ok.mp ho
    obtain rfl := pure_eq_ok.mp ho
    exact ⟨rfl, hown, rfl⟩
  · rename_i hscoped
    rw [if_neg hscoped]
    exact (Except.ok.inj h).symm

lemma exists_memberOutcomes (h : c.memberScoped = true → ∀ m ∈ ctx.household.members,
    ∃ cs, c.memberConditions ctx m [] = .ok cs) : ∃ os, c.memberOutcomes ctx = .ok os := by
  unfold memberOutcomes
  split
  · rename_i hscoped
    obtain ⟨os, hos, -⟩ := exists_mapM_of_forall
      (f := fun m => do return (⟨m.id, ← c.memberConditions ctx m [], .zero⟩ : MemberResult))
      (R := fun _ _ => True) fun m hm => by
        obtain ⟨cs, hcs⟩ := h hscoped m hm
        exact ⟨_, bind_eq_ok.mpr ⟨cs, hcs, rfl⟩, trivial⟩
    exact ⟨os, hos⟩
  · exact ⟨[], rfl⟩

lemma Assesses.admits_eq {eligible : Bool} (h : c.Assesses ctx eligible m o) :
    c.admits ctx m = o.eligible := by
  rw [admits, h.conditions]
  rfl

lemma AssessesAll.exists_assesses {eligible : Bool} (h : c.AssessesAll ctx eligible os)
    (ho : o ∈ os) : ∃ m ∈ ctx.household.members, c.Assesses ctx eligible m o := by
  unfold AssessesAll at h
  split at h
  · exact exists_of_forall₂_mem h ho
  · rw [h] at ho
    cases ho

/-- Only eligible members of an eligible household have a value. -/
lemma AssessesAll.value_eq_zero {eligible : Bool} (h : c.AssessesAll ctx eligible os)
    (ho : o ∈ os) (hno : (eligible && o.eligible) = false) : o.value = .zero := by
  obtain ⟨m, _, hm⟩ := h.exists_assesses ho
  have hvalue := hm.value
  rwa [hno, if_neg (by decide)] at hvalue

/-- Some member's outcome is eligible exactly when the rules admit a member. -/
lemma AssessesAll.any_eligible_iff {eligible : Bool} (h : c.AssessesAll ctx eligible os)
    (hscoped : c.memberScoped = true) :
    os.any MemberResult.eligible = true ↔ ∃ m ∈ ctx.household.members, c.admits ctx m = true := by
  rw [AssessesAll, if_pos hscoped] at h
  rw [List.any_eq_true]
  constructor
  · rintro ⟨o, ho, heligible⟩
    obtain ⟨m, hm, hassesses⟩ := exists_of_forall₂_mem h ho
    exact ⟨m, hm, hassesses.admits_eq.trans heligible⟩
  · rintro ⟨m, hm, hadmits⟩
    obtain ⟨i, hi⟩ := List.getElem?_of_mem hm
    obtain ⟨o, ho, hassesses⟩ := exists_of_forall₂_getElem? h hi
    exact ⟨o, List.mem_of_getElem? ho, hassesses.admits_eq.symm.trans hadmits⟩

/-- Where nothing is recorded for members, none has a value. -/
lemma valueMembers_nil (total : Decimal) : c.valueMembers ctx ms [] total = .ok ([], total) := by
  cases ms <;> rfl

/-- Values go to the eligible members and are added up in their order, and nothing else changes. -/
lemma valueMembers_eq_ok {total sum : Decimal}
    (hos : List.Forall₂ (c.Assesses ctx false) ms os)
    (h : c.valueMembers ctx ms os total = .ok (os', sum)) :
    List.Forall₂ (c.Assesses ctx true) ms os' ∧
      os'.map (·.conditions) = os.map (·.conditions) ∧
      ((os'.filter (·.eligible)).map (·.value)).foldlM Decimal.add total = .ok sum := by
  induction hos generalizing os' total with
  | nil =>
    cases h
    exact ⟨.nil, rfl, rfl⟩
  | @cons m o ms os ho _ ih =>
    unfold valueMembers at h
    split at h
    · rename_i heligible
      obtain ⟨value, hvalue, h⟩ := bind_eq_ok.mp h
      obtain ⟨next, hnext, h⟩ := bind_eq_ok.mp h
      obtain ⟨⟨rest, sum'⟩, hrest, h⟩ := bind_eq_ok.mp h
      cases pure_eq_ok.mp h
      obtain ⟨hall, hconditions, hsum⟩ := ih hrest
      have heligible' : ({ o with value } : MemberResult).eligible = true := heligible
      refine ⟨.cons ⟨ho.id, ho.conditions, ?_⟩ hall, ?_, ?_⟩
      · rw [if_pos (by rw [heligible', Bool.true_and])]
        exact hvalue
      · rw [List.map_cons, List.map_cons, hconditions]
      · rw [List.filter_cons_of_pos heligible', List.map_cons]
        exact foldlM_cons_eq_ok.mpr ⟨next, hnext, hsum⟩
    · rename_i heligible
      obtain ⟨⟨rest, sum'⟩, hrest, h⟩ := bind_eq_ok.mp h
      cases pure_eq_ok.mp h
      obtain ⟨hall, hconditions, hsum⟩ := ih hrest
      have hvalue : o.value = .zero := ho.value
      refine ⟨.cons ⟨ho.id, ho.conditions, ?_⟩ hall, ?_, ?_⟩
      · rwa [if_neg (by rw [Bool.true_and]; exact heligible)]
      · rw [List.map_cons, List.map_cons, hconditions]
      · rwa [List.filter_cons_of_neg heligible]

lemma AssessesAll.valueMembers {total sum : Decimal} (hos : c.AssessesAll ctx false os)
    (h : c.valueMembers ctx ctx.household.members os total = .ok (os', sum)) :
    c.AssessesAll ctx true os' ∧ os'.map (·.conditions) = os.map (·.conditions) ∧
      ((os'.filter (·.eligible)).map (·.value)).foldlM Decimal.add total = .ok sum := by
  by_cases hscoped : c.memberScoped = true
  · rw [AssessesAll, if_pos hscoped] at hos ⊢
    exact valueMembers_eq_ok hos h
  · rw [AssessesAll, if_neg hscoped] at hos ⊢
    subst hos
    cases (valueMembers_nil total).symm.trans h
    exact ⟨rfl, rfl, rfl⟩

/-- Members can be valued where the rules value those whom they admit, and the values add up. -/
lemma exists_valueMembers_iff {total : Decimal} (hos : List.Forall₂ (c.Assesses ctx false) ms os) :
    (∃ x, c.valueMembers ctx ms os total = .ok x) ↔ ∃ values sum,
      (ms.filter (c.admits ctx)).mapM (c.memberValue ctx) = .ok values ∧
      values.foldlM Decimal.add total = .ok sum := by
  induction hos generalizing total with
  | nil => exact ⟨fun _ => ⟨[], total, rfl, rfl⟩, fun _ => ⟨_, rfl⟩⟩
  | @cons m o ms os ho _ ih =>
    unfold valueMembers
    cases heligible : o.eligible with
    | true =>
      rw [if_pos rfl, List.filter_cons_of_pos (ho.admits_eq.trans heligible), List.mapM_cons]
      constructor
      · rintro ⟨x, h⟩
        obtain ⟨value, hvalue, h⟩ := bind_eq_ok.mp h
        obtain ⟨next, hnext, h⟩ := bind_eq_ok.mp h
        obtain ⟨rest, hrest, -⟩ := bind_eq_ok.mp h
        obtain ⟨values, sum, hvalues, hsum⟩ := ih.mp ⟨rest, hrest⟩
        refine ⟨value :: values, sum, ?_, foldlM_cons_eq_ok.mpr ⟨next, hnext, hsum⟩⟩
        rw [hvalue, ok_bind, hvalues]
        rfl
      · rintro ⟨values, sum, h, hsum⟩
        obtain ⟨value, hvalue, h⟩ := bind_eq_ok.mp h
        obtain ⟨rest, hrest, h⟩ := bind_eq_ok.mp h
        obtain rfl := pure_eq_ok.mp h
        obtain ⟨next, hnext, hsum⟩ := foldlM_cons_eq_ok.mp hsum
        obtain ⟨x, hx⟩ := ih.mpr ⟨rest, sum, hrest, hsum⟩
        rw [hvalue, ok_bind, hnext, ok_bind, hx, ok_bind]
        exact ⟨_, rfl⟩
    | false =>
      rw [if_neg Bool.false_ne_true,
        List.filter_cons_of_neg (by rw [ho.admits_eq, heligible]; exact Bool.false_ne_true), ← ih]
      constructor
      · rintro ⟨x, h⟩
        obtain ⟨rest, hrest, -⟩ := bind_eq_ok.mp h
        exact ⟨rest, hrest⟩
      · rintro ⟨x, hx⟩
        rw [hx, ok_bind]
        exact ⟨_, rfl⟩

lemma AssessesAll.exists_valueMembers_iff {total : Decimal} (hos : c.AssessesAll ctx false os) :
    (∃ x, c.valueMembers ctx ctx.household.members os total = .ok x) ↔ ∃ values sum,
      (c.payees ctx).mapM (c.memberValue ctx) = .ok values ∧
      values.foldlM Decimal.add total = .ok sum := by
  unfold AssessesAll at hos
  unfold payees
  split at hos
  · rename_i hscoped
    rw [if_pos hscoped]
    exact Calculator.exists_valueMembers_iff hos
  · rename_i hscoped
    rw [if_neg hscoped, hos, valueMembers_nil]
    exact ⟨fun _ => ⟨[], total, rfl, rfl⟩, fun _ => ⟨_, rfl⟩⟩

/-- The values of all members add up to the same as those of the eligible ones. -/
lemma exists_total (hrefused : ∀ o ∈ os, o.eligible = false → o.value = .zero)
    {amount amount' sum : Decimal} (halike : amount'.AddsAlike amount)
    (hsum : ((os.filter (·.eligible)).map (·.value)).foldlM Decimal.add amount = .ok sum) :
    ∃ total, (os.map (·.value)).foldlM Decimal.add amount' = .ok total ∧ total.AddsAlike sum := by
  induction os generalizing amount amount' with
  | nil => exact ⟨amount', rfl, pure_eq_ok.mp hsum ▸ halike⟩
  | cons o os ih =>
    have ih := fun {amount amount'} =>
      @ih (fun o' ho' => hrefused o' (List.mem_cons_of_mem _ ho')) amount amount'
    rw [List.map_cons]
    cases heligible : o.eligible with
    | true =>
      rw [List.filter_cons_of_pos heligible, List.map_cons] at hsum
      obtain ⟨next, hnext, hsum⟩ := foldlM_cons_eq_ok.mp hsum
      obtain ⟨total, htotal, hsame⟩ := ih (.inl rfl) hsum
      exact ⟨total, foldlM_cons_eq_ok.mpr ⟨next, (halike.add _).trans hnext, htotal⟩, hsame⟩
    | false =>
      rw [List.filter_cons_of_neg (by rw [heligible]; decide)] at hsum
      obtain ⟨next, hnext, hnext'⟩ := amount'.exists_add_zero
      obtain ⟨total, htotal, hsame⟩ := ih (hnext'.trans halike) hsum
      refine ⟨total, foldlM_cons_eq_ok.mpr ⟨next, ?_, htotal⟩, hsame⟩
      rwa [hrefused o List.mem_cons_self heligible]

end Members

variable {outcomes : List MemberResult} {r : ProgramResult}

/-- Valuing the members leaves their conditions as they were. -/
lemma Calculation.members (h : c.Calculation ctx outcomes r) :
    c.AssessesAll ctx r.eligible r.members ∧
      r.members.map (·.conditions) = outcomes.map (·.conditions) := by
  have houtcomes := memberOutcomes_eq_ok h.memberOutcomes
  cases heligible : r.eligible with
  | false =>
    rw [(h.refused heligible).1]
    exact ⟨houtcomes, rfl⟩
  | true =>
    obtain ⟨amount, _, hvalued⟩ := h.granted heligible
    obtain ⟨hall, hconditions, _⟩ := houtcomes.valueMembers hvalued
    exact ⟨hall, hconditions⟩

lemma Calculation.passed (h : c.Calculation ctx outcomes r) (heligible : r.eligible = true) :
    Conditions.passed r.conditions = true := by
  rw [h.eligible, Bool.and_eq_true] at heligible
  exact heligible.1

lemma passed_iff {cs : Conditions} : cs.passed = true ↔ ∀ x ∈ cs, x.passed = true :=
  List.all_eq_true

lemma passed_append {cs ds : Conditions} :
    Conditions.passed (cs ++ ds) = true ↔ cs.passed = true ∧ ds.passed = true := by
  rw [Conditions.passed, List.all_append, Bool.and_eq_true]
  rfl

lemma any_eligible {os : List MemberResult} :
    os.any MemberResult.eligible = (os.map (·.conditions)).any Conditions.passed := by
  rw [List.any_map]
  rfl

lemma Calculation.eligible_iff (h : c.Calculation ctx outcomes r) :
    r.eligible = true ↔ (∀ x ∈ r.conditions, x.passed = true) ∧
      (c.memberScoped = true → ∃ o ∈ r.members, ∀ x ∈ o.conditions, x.passed = true) := by
  obtain ⟨_, hconditions⟩ := h.members
  rw [h.eligible, any_eligible, ← hconditions, ← any_eligible, Bool.and_eq_true, passed_iff,
    Bool.or_eq_true, Bool.not_eq_true', List.any_eq_true, ← Bool.not_eq_true, imp_iff_not_or]
  simp only [MemberResult.eligible, passed_iff]

lemma simulationConditions_of_failed {detail : String} (hvars : c.vars.isSome = true)
    (hfailed : ctx.simulation = .failed detail) :
    c.simulationConditions ctx = [checkFor false (.unableToDetermine detail)] := by
  obtain ⟨vars, hvars⟩ := Option.isSome_iff_exists.mp hvars
  rw [simulationConditions, hvars, hfailed]

lemma simulationConditions_eq_nil
    (h : c.vars = none ∨ ∀ detail, ctx.simulation ≠ .failed detail) :
    c.simulationConditions ctx = [] := by
  unfold simulationConditions
  split
  · rename_i hvars hfailed
    rcases h with hnone | hspared
    · cases hnone.symm.trans hvars
    · exact absurd hfailed (hspared _)
  · rfl

/-- Rules that only add cannot undo the failure of the simulation. -/
lemma Calculation.refusal (h : c.Calculation ctx outcomes r) (hadds : c.OnlyAdds ctx)
    {detail : String} (hvars : c.vars.isSome = true) (hfailed : ctx.simulation = .failed detail) :
    r.eligible = false ∧
      ∃ own, r.conditions = checkFor false (.unableToDetermine detail) :: own := by
  have hkept := hadds _ _ h.householdConditions
  rw [simulationConditions_of_failed hvars hfailed] at hkept
  obtain ⟨own, hown⟩ := hkept
  refine ⟨?_, own, hown.symm⟩
  by_contra heligible
  have hpassed := h.passed ((Bool.not_eq_false _).mp heligible)
  rw [← hown] at hpassed
  exact absurd hpassed Bool.false_ne_true

lemma Calculation.yields (h : c.Calculation ctx outcomes r) : c.Yields ctx r := by
  obtain ⟨hall, _⟩ := h.members
  refine ⟨h.code, h.name, ?failed, fun hadds _ => h.refusal hadds, ?conditions, hall,
    h.eligible_iff, ?refused, ?granted⟩
  case failed =>
    intro detail hvars hfailed
    rw [← simulationConditions_of_failed hvars hfailed]
    exact h.householdConditions
  case conditions =>
    intro hspared
    rw [← simulationConditions_eq_nil hspared]
    exact h.householdConditions
  case refused =>
    intro hno
    exact ⟨(h.refused hno).2, fun o ho => hall.value_eq_zero ho (by rw [hno, Bool.false_and])⟩
  case granted =>
    intro heligible
    obtain ⟨amount, hamount, hvalued⟩ := h.granted heligible
    obtain ⟨_, _, hsum⟩ := (memberOutcomes_eq_ok h.memberOutcomes).valueMembers hvalued
    have hrefused : ∀ o ∈ r.members, o.eligible = false → o.value = .zero := fun o ho hno =>
      hall.value_eq_zero ho (by rw [hno, Bool.and_false])
    obtain ⟨total, htotal, hsame⟩ := exists_total hrefused (.inl rfl) hsum
    exact ⟨amount, total, hamount, hsum, htotal, hsame.sameValue⟩

/-- The calculation goes on to value a household exactly where the rules approve it. -/
lemma approves_iff {cs : Conditions}
    (hcs : c.householdConditions ctx (c.simulationConditions ctx) = .ok cs)
    (houtcomes : c.memberOutcomes ctx = .ok outcomes) : c.Approves ctx ↔
      (Conditions.passed cs && (!c.memberScoped || outcomes.any MemberResult.eligible)) = true := by
  have hhousehold : (∃ cs', c.householdConditions ctx (c.simulationConditions ctx) = .ok cs' ∧
      Conditions.passed cs' = true) ↔ Conditions.passed cs = true := by
    rw [hcs]
    exact ⟨fun ⟨_, h, hpassed⟩ => Except.ok.inj h ▸ hpassed, fun hpassed => ⟨cs, rfl, hpassed⟩⟩
  rw [Approves, hhousehold, Bool.and_eq_true]
  refine and_congr_right fun _ => ?_
  cases hscoped : c.memberScoped with
  | false => simp
  | true =>
    rw [Bool.not_true, Bool.false_or,
      (memberOutcomes_eq_ok houtcomes).any_eligible_iff hscoped]
    exact ⟨fun h => h rfl, fun h _ => h⟩

lemma Calculation.approves_iff (h : c.Calculation ctx outcomes r) :
    c.Approves ctx ↔ r.eligible = true := by
  rw [Calculator.approves_iff h.householdConditions h.memberOutcomes, h.eligible]

lemma Calculation.fits (h : c.Calculation ctx outcomes r) : c.Fits ctx where
  household := ⟨_, h.householdConditions⟩
  members hscoped m hm := by
    have hall := memberOutcomes_eq_ok h.memberOutcomes
    rw [AssessesAll, if_pos hscoped] at hall
    obtain ⟨i, hi⟩ := List.getElem?_of_mem hm
    obtain ⟨o, -, ho⟩ := exists_of_forall₂_getElem? hall hi
    exact ⟨_, ho.conditions⟩
  values happroved := by
    obtain ⟨amount, hamount, hvalued⟩ := h.granted (h.approves_iff.mp happroved)
    obtain ⟨values, sum, hvalues, hsum⟩ :=
      (memberOutcomes_eq_ok h.memberOutcomes).exists_valueMembers_iff.mp ⟨_, hvalued⟩
    exact ⟨amount, values, sum, hamount, hvalues, hsum⟩

lemma Fits.exists_calculate (h : c.Fits ctx) : ∃ r, c.calculate ctx = .ok r := by
  obtain ⟨cs, hcs⟩ := h.household
  obtain ⟨outcomes, houtcomes⟩ := exists_memberOutcomes h.members
  unfold calculate
  rw [hcs, houtcomes, ok_bind, ok_bind]
  dsimp only
  split
  · rename_i heligible
    obtain ⟨amount, values, sum, hamount, hvalues, hsum⟩ :=
      h.values ((approves_iff hcs houtcomes).mpr heligible)
    obtain ⟨x, hx⟩ :=
      (memberOutcomes_eq_ok houtcomes).exists_valueMembers_iff.mpr ⟨values, sum, hvalues, hsum⟩
    rw [hamount, ok_bind, hx]
    exact ⟨_, rfl⟩
  · exact ⟨_, rfl⟩

lemma exists_calculate_iff : (∃ r, c.calculate ctx = .ok r) ↔ c.Fits ctx := by
  refine ⟨?_, Fits.exists_calculate⟩
  rintro ⟨r, hr⟩
  obtain ⟨outcomes, hcalculation⟩ := exists_calculation hr
  exact hcalculation.fits

/-- A program that does not concern members gives a result once its rules for the household do. -/
lemma exists_calculate {cs : Conditions} {amount : Decimal} (hscoped : c.memberScoped = false)
    (hcs : c.householdConditions ctx (c.simulationConditions ctx) = .ok cs)
    (hamount : c.householdValue ctx = .ok amount) : ∃ r, c.calculate ctx = .ok r := by
  refine exists_calculate_iff.mpr
    ⟨⟨cs, hcs⟩, fun h => ?_, fun _ => ⟨amount, [], amount, hamount, ?_⟩⟩
  · cases hscoped.symm.trans h
  · rw [payees, if_neg (by rw [hscoped]; exact Bool.false_ne_true)]
    exact ⟨rfl, rfl⟩

/-- A calculation gives a result exactly where nothing overflows, neither a rule nor the sum of the
values, and the result is the one that the rules call for. -/
theorem calculate_returns_where_fits (c : Calculator) (ctx : Context) :
    ((∃ r, c.calculate ctx = .ok r) ↔ c.Fits ctx) ∧
      ∀ r, c.calculate ctx = .ok r → c.Yields ctx r := by
  refine ⟨exists_calculate_iff, fun r hr => ?_⟩
  obtain ⟨outcomes, hcalculation⟩ := exists_calculation hr
  exact hcalculation.yields

open TaxUnits (lodger sharedFlat)

/-- Somebody with as much in wages as in a pension, who spends as much again on child care. -/
def boundless : Context where
  household := { sharedFlat with
    state := "NC"
    members := [lodger 1 .headOfHousehold (some 40)
      [⟨.wages, .largest, .yearly, none⟩, ⟨.pension, .largest, .yearly, none⟩]]
    expenses := [⟨.rent, .whole 800, .monthly⟩, ⟨.childCare, .largest, .yearly⟩] }
  program := ⟨"nc_lieap", "nc_lieap", none, "2025", Shipped.table2025⟩
  results := .empty
  simulation := .skipped
  limits := .empty
  asOf := ⟨2025, 6, 1⟩

/-- Rules that turn nobody down and pay the largest amount to the household and to each member. -/
def generous : Calculator where
  dependencies := []
  householdConditions _ cs := .ok cs
  memberScoped := true
  householdAmount := .largest
  memberAmount := .largest

/-- Rules that rest on the simulation and take back what was recorded before them. -/
def forgetful : Calculator where
  dependencies := []
  vars := some ⟨[], []⟩
  householdConditions _ _ := .ok []

/-- Not every calculation has a result: an income may overflow before the expenses come off it, and
so may the sum of the values. Nor does a simulation that failed always leave a trace. -/
theorem boundless_overflows :
    HeatingAssistance.calculator.calculate boundless = .error .addition ∧
    generous.calculate boundless = .error .addition ∧
    ∃ r, forgetful.calculate { boundless with simulation := .failed "offline" } = .ok r ∧
      r.eligible = true ∧ r.conditions = [] := by
  refine ⟨eq_error_of_map ?_, eq_error_of_map ?_, _, rfl, rfl, rfl⟩
  · decide +kernel
  · decide +kernel

end Calculator

end BenefitScreen
