import BenefitScreen.Configuration.Shipped
import BenefitScreen.Program.Simulated
import BenefitScreen.Proofs.AmountSum
import BenefitScreen.Proofs.Lookup
import BenefitScreen.Proofs.PovertyChecks
import BenefitScreen.Proofs.ProgramResult
import BenefitScreen.Proofs.TaxReturns

/-!
# Two ways into Medicaid

Members who are 65 or disabled get Medicaid by the flag that a simulation computes for the aged and
the disabled, and all others by an amount and a category. Neither way looks at the answers that the
other goes by.
-/

namespace BenefitScreen

open Calculator Fallible Simulation

namespace Simulated

/-- What a program for members records for one of them on whom the simulation puts an amount. -/
structure Pays (amount : Decimal) (m : Member) (o : MemberResult) : Prop where
  id : o.id = m.id
  eligible : o.eligible = true ↔ .zero < amount
  value : o.value = if o.eligible then amount else .zero

lemma Pays.outcome_eq {amount : Decimal} {m : Member} {o o' : MemberResult} (h : Pays amount m o)
    (h' : Pays amount m o') : o.eligible = o'.eligible ∧ o.value = o'.value := by
  have heligible : o.eligible = o'.eligible := by
    rw [Bool.eq_iff_iff, h.eligible, h'.eligible]
  exact ⟨heligible, by rw [h.value, h'.value, heligible]⟩

section Members

variable {dependencies : List DataField} {vars : Variables} {amount : Response → Member → Decimal}
  {ctx : Context} {r : Response}

lemma response?_of_ready (hready : ctx.simulation = .ready r) : ctx.response? = some r := by
  rw [Context.response?, hready]
  rfl

lemma forMembers_pays (hready : ctx.simulation = .ready r) {result : ProgramResult}
    (h : (forMembers dependencies vars amount).calculate ctx = .ok result) :
    List.Forall₂ (fun m o => Pays (amount r m) m o) ctx.household.members result.members := by
  have hr := response?_of_ready hready
  obtain ⟨outcomes, hcalculation⟩ := exists_calculation h
  have hpassed : ∀ x ∈ result.conditions, x.passed = true := by
    rw [← Except.ok.inj hcalculation.householdConditions, simulationConditions, hready]
    simp [forMembers]
  obtain ⟨hlength, hall⟩ := List.forall₂_iff_zip.mp hcalculation.members.1
  refine List.forall₂_iff_zip.mpr ⟨hlength, fun {m o} hmem => ?_⟩
  have ho := hall hmem
  have hconditions : [check (amount r m > .zero)] = o.conditions := by
    have hcheck := Except.ok.inj ho.conditions
    rwa [hr] at hcheck
  have heligible : o.eligible = true ↔ .zero < amount r m := by
    rw [MemberResult.eligible, ← hconditions]
    simp [check]
  refine ⟨ho.id, heligible, ?_⟩
  -- A member who is eligible makes the household so, and then counts with the amount.
  cases hmember : o.eligible with
  | false => simpa [hmember] using ho.value
  | true =>
    have hresult : result.eligible = true := hcalculation.eligible_iff.mpr
      ⟨hpassed, fun _ => ⟨o, (List.of_mem_zip hmem).2, passed_iff.mp hmember⟩⟩
    have hvalue := ho.value
    rw [hresult, hmember, Bool.true_and, if_pos rfl] at hvalue
    rw [if_pos rfl]
    have hvalue := Except.ok.inj hvalue
    rw [hr] at hvalue
    exact hvalue.symm

/-- Whole amounts up to a bound add up for some of the members if they do for all of them. -/
lemma exists_total_of_whole {f : Member → Decimal} {members paid : List Member}
    {values : List Decimal} {bound : Nat} (hf : ∀ m ∈ members, ∃ n ≤ bound, (f m).IsWhole n)
    (hbound : members.length * bound < mantissaBound) (hpaid : paid.Sublist members)
    (hvalues : List.Forall₂ (fun m value => f m = value) paid values) :
    ∃ t, values.foldlM Decimal.add .zero = .ok t := by
  have hwhole : ∀ x ∈ values, ∃ n ≤ bound, x.IsWhole n := by
    intro x hx
    obtain ⟨m, hm, rfl⟩ := exists_of_forall₂_mem hvalues hx
    exact hf m (hpaid.subset hm)
  have hlength : values.length * bound ≤ members.length * bound := by
    apply Nat.mul_le_mul_right
    rw [← hvalues.length_eq]
    exact hpaid.length_le
  apply Decimal.exists_foldlM_add_of_whole (Decimal.isWhole_whole 0) hwhole
  rw [UInt64.toNat_zero]
  omega

/-- The rules themselves never overflow, so that only the sum of the amounts could. -/
lemma exists_forMembers_calculate (hready : ctx.simulation = .ready r) {bound : Nat}
    (hamount : ∀ m ∈ ctx.household.members, ∃ n ≤ bound, (amount r m).IsWhole n)
    (hbound : ctx.household.members.length * bound < mantissaBound) :
    ∃ result, (forMembers dependencies vars amount).calculate ctx = .ok result := by
  refine exists_calculate_iff.mpr ⟨⟨_, rfl⟩, fun _ _ _ => ⟨_, rfl⟩, fun _ => ?_⟩
  have hvalue : ∀ m, (forMembers dependencies vars amount).memberValue ctx m =
      .ok (amount r m) := by
    intro m
    simp only [forMembers, response?_of_ready hready, Option.elim_some]
  obtain ⟨values, hvalues, hall⟩ := exists_mapM_of_forall (R := fun m value => amount r m = value)
    fun m _ => ⟨amount r m, hvalue m, rfl⟩
  obtain ⟨total, htotal⟩ := exists_total_of_whole hamount hbound payees_sublist hall
  exact ⟨.zero, values, total, rfl, hvalues, htotal⟩

end Members

end Simulated

open Simulated

namespace Medicaid

/-- Sixty-five or older, or disabled at any age and also of unknown age. -/
def AgedOrDisabled (m : Member) : Prop := (∃ age ∈ m.age, 65 ≤ age) ∨ m.hasDisability = true

def specialCategory (m : Member) : String := if m.hasDisability then "DISABLED" else "AGED"

/-- The category is listed with so many dollars a month. Twelve times as many fit the word. -/
def Lists (category : String) (dollars : UInt32) : Prop :=
  (category, monthly dollars.toUInt64) ∈ categories ∧ 0 < dollars

/-- What the result says of a member, by the answer of the simulation. -/
structure Routed (r : Response) (m : Member) (o : MemberResult) : Prop where
  id : o.id = m.id
  special_granted : AgedOrDisabled m →
    r.memberFlag .optionalSeniorOrDisabledMedicaid m.id = true → o.eligible = true ∧
      ∃ dollars, Lists (specialCategory m) dollars ∧ o.value = monthly dollars.toUInt64
  special_refused : AgedOrDisabled m →
    r.memberFlag .optionalSeniorOrDisabledMedicaid m.id = false → o.eligible = false
  general_iff : ¬AgedOrDisabled m → (o.eligible = true ↔ .zero < r.memberAmount .medicaid m.id ∧
    ∃ category dollars, r.memberText? .medicaidCategory m.id = some category ∧
      Lists category dollars)
  general_value : ¬AgedOrDisabled m → o.eligible = true →
    ∃ category dollars, r.memberText? .medicaidCategory m.id = some category ∧
      Lists category dollars ∧ o.value = monthly dollars.toUInt64
  refused : o.eligible = false → o.value = .zero

/-- Two answers that say the same where it matters for a member: in the flag alone for the aged and
disabled, and in the amount and the category for all others. -/
structure Agree (r r' : Response) (m : Member) : Prop where
  special : AgedOrDisabled m → r.memberFlag .optionalSeniorOrDisabledMedicaid m.id =
    r'.memberFlag .optionalSeniorOrDisabledMedicaid m.id
  general : ¬AgedOrDisabled m →
    r.memberAmount .medicaid m.id = r'.memberAmount .medicaid m.id ∧
      r.memberText? .medicaidCategory m.id = r'.memberText? .medicaidCategory m.id

section Categories

variable {category : String} {dollars : UInt32}

lemma categoryAmount_of_lists (h : Lists category dollars) :
    categoryAmount categories category = monthly dollars.toUInt64 := by
  have hnodup : (categories.map (·.1)).Nodup := by decide
  rw [categoryAmount, find?_of_nodup_keys hnodup h.1]
  rfl

lemma zero_lt_monthly (h : 0 < dollars) : Decimal.zero < monthly dollars.toUInt64 := by
  have hpos : 0 < dollars.toNat := UInt32.lt_iff_toNat_lt.mp h
  have hlt := dollars.toNat_lt
  have hproduct : (dollars.toUInt64 * 12).toNat = dollars.toNat * 12 := by
    have htwelve : UInt64.toNat 12 = 12 := rfl
    rw [UInt64.toNat_mul, UInt32.toNat_toUInt64, htwelve]
    apply Nat.mod_eq_of_lt
    omega
  rw [Decimal.lt_iff, monthly]
  simp [Decimal.signed, Decimal.zero, Decimal.whole, hproduct]
  omega

/-- A category is listed with the one amount that there is, or stands for nothing. -/
lemma categoryAmount_cases (category : String) :
    categoryAmount categories category = .zero ∨ Lists category 474 := by
  have hlisted : ∀ c ∈ categories, c.2 = .zero ∨ c.2 = monthly 474 := by decide
  unfold categoryAmount
  cases hfind : categories.find? fun c => c.1 == category with
  | none => exact .inl rfl
  | some c =>
    have hmem := List.mem_of_find?_eq_some hfind
    obtain rfl : c.1 = category := beq_iff_eq.mp (List.find?_some hfind :)
    refine (hlisted c hmem).imp id fun hc => ⟨?_, by decide⟩
    change (c.1, monthly 474) ∈ categories
    rwa [← hc]

lemma zero_lt_categoryAmount :
    Decimal.zero < categoryAmount categories category ↔ ∃ dollars, Lists category dollars := by
  constructor
  · intro hpos
    rcases categoryAmount_cases category with hzero | hlists
    · rw [hzero] at hpos
      exact absurd hpos (by decide)
    · exact ⟨474, hlists⟩
  · rintro ⟨dollars, hlists⟩
    rw [categoryAmount_of_lists hlists]
    exact zero_lt_monthly hlists.2

lemma categoryAmount_whole (category : String) :
    ∃ n ≤ 5688, (categoryAmount categories category).IsWhole n := by
  rcases categoryAmount_cases category with hzero | hlists
  · rw [hzero]
    exact ⟨0, by decide, Decimal.isWhole_whole 0⟩
  · rw [categoryAmount_of_lists hlists]
    exact ⟨5688, Nat.le_refl _, Decimal.isWhole_whole 5688⟩

end Categories

variable {r r' : Response} {m : Member} {o o' : MemberResult}

lemma passes_agedOrDisabled : agedOrDisabled.passes m = true ↔ AgedOrDisabled m :=
  AgeRule.passes_iff rfl

lemma amount_of_special (h : AgedOrDisabled m) : amount r m =
    if r.memberFlag .optionalSeniorOrDisabledMedicaid m.id then
      categoryAmount categories (specialCategory m)
    else .zero := by
  rw [amount, if_pos (passes_agedOrDisabled.mpr h)]
  rfl

lemma amount_of_general (h : ¬AgedOrDisabled m) :
    amount r m = amountByCategory categories .medicaid .medicaidCategory r m := by
  rw [amount, if_neg (mt passes_agedOrDisabled.mp h)]

lemma zero_lt_amountByCategory :
    Decimal.zero < amountByCategory categories .medicaid .medicaidCategory r m ↔
      .zero < r.memberAmount .medicaid m.id ∧ ∃ category dollars,
        r.memberText? .medicaidCategory m.id = some category ∧ Lists category dollars := by
  unfold amountByCategory
  by_cases hle : r.memberAmount .medicaid m.id ≤ .zero
  · have hnot : ¬.zero < r.memberAmount .medicaid m.id := by
      rwa [← Decimal.not_le_iff_lt, not_not]
    rw [if_pos hle]
    exact iff_of_false (by decide) fun h => hnot h.1
  · rw [if_neg hle, and_iff_right (Decimal.not_le_iff_lt.mp hle), zero_lt_categoryAmount]
    cases r.memberText? .medicaidCategory m.id with
    | none =>
      -- A member without a category counts as one of a category that stands for nothing.
      have hnone : ¬∃ dollars, Lists "NONE" dollars := by
        rw [← zero_lt_categoryAmount]
        decide
      exact iff_of_false hnone fun ⟨_, _, h, _⟩ => by cases h
    | some category => simp

lemma lists_specialCategory (m : Member) : Lists (specialCategory m) 474 := by
  unfold specialCategory
  cases m.hasDisability with
  | true => exact ⟨by decide, by decide⟩
  | false => exact ⟨by decide, by decide⟩

lemma routed_of_pays (h : Pays (amount r m) m o) : Routed r m o where
  id := h.id
  special_granted hspecial hflag := by
    have hlists := lists_specialCategory m
    have hamount : amount r m = monthly (474 : UInt32).toUInt64 := by
      rw [amount_of_special hspecial, if_pos hflag, categoryAmount_of_lists hlists]
    have heligible : o.eligible = true := by
      rw [h.eligible, hamount]
      exact zero_lt_monthly hlists.2
    refine ⟨heligible, 474, hlists, ?_⟩
    rw [h.value, if_pos heligible, hamount]
  special_refused hspecial hflag := by
    have hamount : amount r m = .zero := by
      rw [amount_of_special hspecial, hflag]
      rfl
    rw [← Bool.not_eq_true, h.eligible, hamount]
    decide
  general_iff hgeneral := by
    rw [h.eligible, amount_of_general hgeneral, zero_lt_amountByCategory]
  general_value hgeneral heligible := by
    have hpos := h.eligible.mp heligible
    rw [amount_of_general hgeneral] at hpos
    obtain ⟨hamount, category, dollars, htext, hlists⟩ := zero_lt_amountByCategory.mp hpos
    refine ⟨category, dollars, htext, hlists, ?_⟩
    rw [h.value, if_pos heligible, amount_of_general hgeneral, amountByCategory,
      if_neg (Decimal.not_le_iff_lt.mpr hamount), htext, Option.getD_some,
      categoryAmount_of_lists hlists]
  refused hno := by
    rw [h.value, hno]
    rfl

lemma Agree.amount_eq (h : Agree r r' m) : amount r m = amount r' m := by
  by_cases hspecial : AgedOrDisabled m
  · rw [amount_of_special hspecial, amount_of_special hspecial, h.special hspecial]
  · obtain ⟨hamount, htext⟩ := h.general hspecial
    rw [amount_of_general hspecial, amount_of_general hspecial]
    unfold amountByCategory
    rw [hamount, htext]

lemma amount_whole (r : Response) (m : Member) : ∃ n ≤ 5688, (amount r m).IsWhole n := by
  have hzero : ∃ n ≤ 5688, Decimal.zero.IsWhole n := ⟨0, by decide, Decimal.isWhole_whole 0⟩
  by_cases hspecial : AgedOrDisabled m
  · rw [amount_of_special hspecial]
    split
    · exact categoryAmount_whole _
    · exact hzero
  · rw [amount_of_general hspecial]
    unfold amountByCategory
    split
    · exact hzero
    · exact categoryAmount_whole _

/-- Every member goes one way or the other. The aged and disabled have the amount that is listed
for them if the simulation sets their flag and nothing otherwise, and all others have the amount of
their category if the simulation puts an amount on them. In any two runs whose answers agree on what
the member goes by, the outcome is the same. -/
theorem members_routed {ctx : Context} {r : Response} (hready : ctx.simulation = .ready r) :
    (ctx.household.members.length < UInt64.size →
      ∃ result, calculator.calculate ctx = .ok result) ∧
    ∀ result, calculator.calculate ctx = .ok result →
      List.Forall₂ (Routed r) ctx.household.members result.members ∧
      ∀ ctx' r' result', ctx'.simulation = .ready r' → calculator.calculate ctx' = .ok result' →
        ∀ m o o', (m, o) ∈ ctx.household.members.zip result.members →
          (m, o') ∈ ctx'.household.members.zip result'.members → Agree r r' m →
          o.eligible = o'.eligible ∧ o.value = o'.value := by
  refine ⟨fun hsize => ?_, fun result hresult => ⟨?_, ?_⟩⟩
  · apply exists_forMembers_calculate hready fun m _ => amount_whole r m
    unfold UInt64.size at hsize
    unfold mantissaBound
    omega
  · exact (forMembers_pays hready hresult).imp fun m o => routed_of_pays
  · intro ctx' r' result' hready' hresult' m o o' hmem hmem' hagree
    obtain ⟨_, hpays⟩ := List.forall₂_iff_zip.mp (forMembers_pays hready hresult)
    obtain ⟨_, hpays'⟩ := List.forall₂_iff_zip.mp (forMembers_pays hready' hresult')
    have ho := hpays hmem
    rw [hagree.amount_eq] at ho
    exact ho.outcome_eq (hpays' hmem')

open TaxUnits (lodger sharedFlat)

def answer (people : List (String × List (Output × Json))) : Response where
  document := { Document.empty with
    people := .ofList (people.map fun p =>
      (p.1, .ofList (p.2.map fun v => (v.1.field, .ofList [("2025", v.2)])))) }
  period := "2025"

/-- Somebody aged, somebody disabled of unknown age, and two others. -/
def fourPatients : Context where
  household := { sharedFlat with
    members := [
      lodger 1 .headOfHousehold (some 70) [],
      { lodger 2 .spouse none [] with disabled := true },
      lodger 3 .roommate (some 30) [],
      lodger 4 .roommate (some 30) []] }
  program := ⟨"medicaid", "Medicaid", some "IL", "2025", Shipped.table2025⟩
  results := .empty
  simulation := .ready (answer [
    ("1", [(.optionalSeniorOrDisabledMedicaid, .bool true), (.medicaid, .text "none")]),
    ("2", [(.optionalSeniorOrDisabledMedicaid, .bool false), (.medicaid, .number (.int 9000)),
      (.medicaidCategory, .text "ADULT")]),
    ("3", [(.medicaid, .number (.int 9000)), (.medicaidCategory, .text "ADULT")]),
    ("4", [(.optionalSeniorOrDisabledMedicaid, .bool true), (.medicaid, .number (.int 9000)),
      (.medicaidCategory, .text "INFANT")])])
  limits := .empty
  asOf := ⟨2025, 6, 1⟩

theorem fourPatients_routed : ∃ r, fourPatients.simulation = .ready r ∧
    ∃ result, calculator.calculate fourPatients = .ok result ∧
      List.Forall₂ (Routed r) fourPatients.household.members result.members ∧
      result.members.map (fun o => (o.eligible, o.value)) =
        [(true, .whole 5688), (false, .zero), (true, .whole 5688), (false, .zero)] := by
  have hresult : ((calculator.calculate fourPatients).toOption.any fun result =>
      result.members.map (fun o => (o.eligible, o.value)) =
        [(true, .whole 5688), (false, .zero), (true, .whole 5688), (false, .zero)]) = true := by
    decide +kernel
  obtain ⟨result, hresult, houtcomes⟩ := exists_ok_of_any hresult
  refine ⟨_, rfl, result, hresult, ?_, of_decide_eq_true houtcomes⟩
  exact ((members_routed rfl).2 result hresult).1

end Medicaid

end BenefitScreen
