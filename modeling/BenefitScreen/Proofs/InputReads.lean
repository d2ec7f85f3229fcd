import BenefitScreen.Proofs.FieldAgreement
import BenefitScreen.Proofs.TaxReturns

/-!
# The household fields that a variable rests on

The value of every variable of the simulation is the same for a household and for what it shows
through the fields that the variable declares. Two variables about tax returns need one field more:
whether a relative's income is low enough for a claim depends on how often it is paid.
-/

namespace BenefitScreen

open Fallible Simulation

variable {fields : List DataField}

namespace Member

variable (m : Member)

lemma isQualifyingChild_shown (hrelationship : .relationship ∈ fields) (hage : .age ∈ fields)
    (hstudent : .student ∈ fields) (hdisabled : .disabled ∈ fields) :
    (m.shown fields).isQualifyingChild = m.isQualifyingChild := by
  simp only [isQualifyingChild, m.relationship_shown hrelationship, m.age_shown hage,
    m.student_shown hstudent, m.hasDisability_shown hdisabled]

lemma isClaimable_shown (hrelationship : .relationship ∈ fields) (hage : .age ∈ fields)
    (hstudent : .student ∈ fields) (hdisabled : .disabled ∈ fields)
    (hamount : .incomeAmount ∈ fields) (hfrequency : .incomeFrequency ∈ fields) :
    (m.shown fields).isClaimable = m.isClaimable := by
  simp only [isClaimable, isQualifyingRelative, m.relationship_shown hrelationship,
    m.isQualifyingChild_shown hrelationship hage hstudent hdisabled,
    m.grossIncome_all_shown hamount hfrequency]

lemma canFileAlone_shown (hrelationship : .relationship ∈ fields) (hage : .age ∈ fields) :
    (m.shown fields).canFileAlone = m.canFileAlone := by
  simp only [canFileAlone, m.relationship_shown hrelationship, m.age_shown hage]

lemma ageRank_shown (hage : .age ∈ fields) : (m.shown fields).ageRank = m.ageRank := by
  rw [ageRank, ageRank, m.age_shown hage]

end Member

lemma oldest?_shown (hage : .age ∈ fields) (members : List Member) :
    oldest? (members.map (Member.shown fields)) = (oldest? members).map (Member.shown fields) := by
  -- From the end, since the fold keeps the oldest of those it has passed.
  induction members using List.reverseRecOn with
  | nil => rfl
  | append_singleton members m ih =>
    rw [List.map_append, List.map_singleton, oldest?_append_singleton, oldest?_append_singleton, ih]
    cases oldest? members with
    | none => rfl
    | some o =>
      simp only [Option.map_some, Member.ageRank_shown _ hage]
      by_cases hle : m.ageRank ≤ o.ageRank
      · rw [if_pos hle, if_pos hle, Option.map_some]
      · rw [if_neg hle, if_neg hle, Option.map_some]

namespace TaxUnits

lemma unassigned_shown (h : Household) : unassigned (h.shown fields) = unassigned h := by
  simp only [unassigned, Household.members_shown, List.map_map, Function.comp_def, Member.id_shown]

lemma withFilers_shown (hrelationship : .relationship ∈ fields) (h : Household) (head : Member)
    (t : TaxUnits) : withFilers (h.shown fields) (head.shown fields) t = withFilers h head t := by
  unfold withFilers
  rw [h.spouse?_shown hrelationship]
  cases h.spouse? <;> rfl

lemma claim_shown (hrelationship : .relationship ∈ fields) (hage : .age ∈ fields)
    (hstudent : .student ∈ fields) (hdisabled : .disabled ∈ fields)
    (hamount : .incomeAmount ∈ fields) (hfrequency : .incomeFrequency ∈ fields) (t : TaxUnits)
    (m : Member) : t.claim (m.shown fields) = t.claim m := by
  rw [claim, claim, Member.id_shown,
    m.isClaimable_shown hrelationship hage hstudent hdisabled hamount hfrequency]

lemma leftOver_shown (h : Household) (t : TaxUnits) :
    leftOver (h.shown fields) t = (leftOver h t).map (Member.shown fields) := by
  simp only [leftOver, Household.members_shown, List.filter_map, Function.comp_def,
    Member.id_shown]

lemma withSecondReturn_shown (hrelationship : .relationship ∈ fields) (hage : .age ∈ fields)
    (h : Household) (t : TaxUnits) :
    withSecondReturn (h.shown fields) t = withSecondReturn h t := by
  have hadults : ((leftOver h t).map (Member.shown fields)).filter Member.canFileAlone =
      ((leftOver h t).filter Member.canFileAlone).map (Member.shown fields) := by
    simp only [List.filter_map, Function.comp_def, Member.canFileAlone_shown _ hrelationship hage]
  unfold withSecondReturn
  rw [leftOver_shown]
  dsimp only
  rw [hadults, oldest?_shown hage]
  cases oldest? ((leftOver h t).filter Member.canFileAlone) with
  | none => rfl
  | some head =>
    simp only [Option.map_some, Member.id_shown, List.filter_map, List.foldl_map,
      Function.comp_def]

theorem classify_shown (hrelationship : .relationship ∈ fields) (hage : .age ∈ fields)
    (hstudent : .student ∈ fields) (hdisabled : .disabled ∈ fields)
    (hamount : .incomeAmount ∈ fields) (hfrequency : .incomeFrequency ∈ fields) (h : Household) :
    classify (h.shown fields) = classify h := by
  have hmain : mainReturn (h.shown fields) = mainReturn h := by
    unfold mainReturn
    rw [h.head?_shown hrelationship]
    cases h.head? with
    | none => rw [Option.map_none, unassigned_shown]
    | some head =>
      simp only [Option.map_some, withFilers_shown hrelationship, unassigned_shown,
        Household.members_shown, List.foldlM_map,
        claim_shown hrelationship hage hstudent hdisabled hamount hfrequency]
  unfold classify
  rw [hmain]
  simp only [withSecondReturn_shown hrelationship hage]

lemma classify_of_agreeOn {h h' : Household}
    (ha : Household.AgreeOn (Input.taxRoleFields ++ [.incomeFrequency]) h h') :
    classify h = classify h' := by
  have hshown (h : Household) :
      classify (h.shown (Input.taxRoleFields ++ [.incomeFrequency])) = classify h := by
    simp (disch := decide) only [classify_shown]
  rw [← hshown h, ha, hshown]

lemma eq_of_agreeOn {h h' : Household}
    (ha : Household.AgreeOn (Input.taxRoleFields ++ [.incomeFrequency]) h h') {t t' : TaxUnits}
    (ht : classify h = .ok t) (ht' : classify h' = .ok t') : t = t' := by
  rw [classify_of_agreeOn ha, ht'] at ht
  exact (Except.ok.inj ht).symm

lemma hasRole_spouse_mainReturn {h : Household} {t : TaxUnits} (ht : mainReturn h = .ok t)
    (id : MemberId) : t.hasRole id .spouse = (h.head?.isSome && h.spouse?.any (·.id = id)) := by
  unfold mainReturn at ht
  cases hhead : h.head? with
  | none =>
    rw [hhead] at ht
    obtain rfl := Except.ok.inj ht
    rfl
  | some head =>
    rw [hhead] at ht
    have hassigned := (foldlM_claim ht).2 id
    rw [assignment?_withFilers] at hassigned
    rw [hasRole, hassigned]
    by_cases hspouse : h.spouse?.any (·.id = id) = true
    · simp [hspouse]
    · by_cases hid : head.id = id
      · simp [hspouse, hid]
      · rw [if_neg hspouse, if_neg hid, assignment?_unassigned, Option.none_or]
        split <;> simp [hspouse]

/-- Nobody files a second return as a spouse. -/
lemma hasRole_spouse_withSecondReturn (h : Household) (t : TaxUnits) (id : MemberId) :
    (withSecondReturn h t).hasRole id .spouse = t.hasRole id .spouse := by
  have hfree : ∀ m ∈ leftOver h t, t.hasRole m.id .spouse = false := by
    intro m hm
    have hnone : t.assignment? m.id = none := by
      simpa [isAssigned] using (List.mem_filter.mp hm).2
    rw [hasRole, hnone, Option.any_none]
  unfold withSecondReturn
  dsimp only
  split
  · rfl
  · rename_i head hhead
    have hhead' : head ∈ leftOver h t := (List.mem_filter.mp (mem_of_oldest? hhead)).1
    rw [hasRole, foldl_assign_dependents, assignment?_assign]
    split
    · rename_i hothers
      obtain ⟨m, hm, rfl⟩ := hothers
      rw [hfree m (List.mem_filter.mp hm).1]
      rfl
    · by_cases hid : id = head.id
      · rw [if_pos hid, hid, hfree head hhead']
        rfl
      · rw [if_neg hid, hasRole]

/-- Nobody but the first partner of a first head files as a spouse, whatever the incomes are. -/
lemma hasRole_spouse {h : Household} {t : TaxUnits} (ht : classify h = .ok t) (id : MemberId) :
    t.hasRole id .spouse = (h.head?.isSome && h.spouse?.any (·.id = id)) := by
  obtain ⟨t₀, hmain, hsecond⟩ := bind_eq_ok.mp ht
  obtain rfl := pure_eq_ok.mp hsecond
  rw [hasRole_spouse_withSecondReturn, hasRole_spouse_mainReturn hmain]

lemma hasRole_spouse_of_agreeOn (hrelationship : .relationship ∈ fields) {h h' : Household}
    (ha : h.AgreeOn fields h') {t t' : TaxUnits} (ht : classify h = .ok t)
    (ht' : classify h' = .ok t') (id : MemberId) :
    t.hasRole id .spouse = t'.hasRole id .spouse := by
  have hshown (h : Household) :
      ((h.shown fields).head?.isSome && (h.shown fields).spouse?.any (·.id = id)) =
        (h.head?.isSome && h.spouse?.any (·.id = id)) := by
    rw [h.head?_shown hrelationship, h.spouse?_shown hrelationship, Option.isSome_map,
      Option.any_map]
    rfl
  rw [hasRole_spouse ht, hasRole_spouse ht', ← hshown h, ha, hshown]

end TaxUnits

namespace Simulation.Input

/-- The fields that a variable rests on without declaring them. -/
def undeclared : Input → List DataField
  | isTaxUnitHead => [.incomeFrequency]
  | isTaxUnitDependent => [.incomeFrequency]
  | _ => []

section Parts

variable (member : Option Member)

lemma incomeOf_shown (htype : .incomeType ∈ fields) (hamount : .incomeAmount ∈ fields)
    (hfrequency : .incomeFrequency ∈ fields) (types : List IncomeType) :
    incomeOf (member.map (Member.shown fields)) types = incomeOf member types := by
  cases member with
  | none => rfl
  | some m => simp only [incomeOf, Option.map_some, m.yearlyIncomeOf_shown hamount hfrequency htype]

lemma grossIncomeOf_shown (htype : .incomeType ∈ fields) (hamount : .incomeAmount ∈ fields)
    (hfrequency : .incomeFrequency ∈ fields) (filter : IncomeFilter) :
    grossIncomeOf (member.map (Member.shown fields)) filter = grossIncomeOf member filter := by
  cases member with
  | none => rfl
  | some m =>
    simp only [grossIncomeOf, Option.map_some, m.grossIncome_shown hamount hfrequency htype]

lemma onHead_shown (hrelationship : .relationship ∈ fields) (amount : Decimal) :
    onHead (member.map (Member.shown fields)) amount = onHead member amount := by
  simp only [onHead, Option.any_map, Member.isHead_shown _ hrelationship]

lemma expenseOf_shown (htype : .expenseType ∈ fields) (hamount : .expenseAmount ∈ fields)
    (h : Household) (types : List ExpenseType) :
    expenseOf (h.shown fields) types = expenseOf h types := by
  rw [expenseOf, expenseOf, h.totalExpenses_shown htype hamount]

lemma medicalShare_shown (htype : .expenseType ∈ fields) (hamount : .expenseAmount ∈ fields)
    (hage : .age ∈ fields) (hdisabled : .disabled ∈ fields) (h : Household) :
    medicalShare (h.shown fields) (member.map (Member.shown fields)) = medicalShare h member := by
  have hshares (m : Member) : sharesMedical (m.shown fields) = sharesMedical m := by
    rw [sharesMedical, sharesMedical, m.isAtLeast_shown hage, m.hasDisability_shown hdisabled]
  simp only [medicalShare, h.countP_shown hshares, Option.any_map, hshares,
    h.totalExpenses_shown htype hamount]

end Parts

/-- With the returns given, the declared fields tell the value. -/
lemma value_shown (i : Input) (h : Household) (t : TaxUnits) (member : Option Member) :
    i.value (h.shown i.reads) t (member.map (Member.shown i.reads)) = i.value h t member := by
  cases i
  case age =>
    cases member with
    | none => rfl
    | some m =>
      have hage : (m.shown age.reads).age = m.age := m.age_shown (by decide)
      simp only [value, Option.map_some, Option.bind_some, hage]
  case ssiCountableResources =>
    simp (disch := decide) only [value, onHead_shown, Household.assets_shown]
  case rent => simp (disch := decide) only [value, onHead_shown, Household.totalExpenses_shown]
  case realEstateTaxes =>
    simp (disch := decide) only [value, onHead_shown, Household.totalExpenses_shown]
  case countyStr =>
    simp (disch := decide) only [value, Household.county_shown, Household.state_shown]
  -- The others are flags of the member, or amounts of one kind of the member or the household.
  all_goals first
    | rfl
    | simp (disch := decide) only [value, Option.any_map, Member.id_shown,
        Member.pregnant_shown, Member.student_shown, Member.hasDisability_shown,
        Member.visuallyImpaired_shown, incomeOf_shown, grossIncomeOf_shown, expenseOf_shown,
        medicalShare_shown, Household.grossIncome_shown, Household.hasExpense_shown]

/-- Only the variables about tax returns look at the returns. -/
lemma value_returns (i : Input) (hi : ∀ role, i ≠ TaxUnits.roleInput role) (h : Household)
    (t t' : TaxUnits) (member : Option Member) : i.value h t member = i.value h t' member := by
  cases i
  case isTaxUnitHead => exact absurd rfl (hi .head)
  case isTaxUnitSpouse => exact absurd rfl (hi .spouse)
  case isTaxUnitDependent => exact absurd rfl (hi .dependent)
  all_goals rfl

/-- Households that agree on the declared fields of a variable, and on how often income is paid for
those that tell whose return is whose, have the same values of it, place by place. Beyond the last
member these are the values for units of the household. -/
theorem value_rests_on_fields (i : Input) {h h' : Household}
    (ha : h.AgreeOn (i.reads ++ i.undeclared) h') {t t' : TaxUnits}
    (ht : TaxUnits.classify h = .ok t) (ht' : TaxUnits.classify h' = .ok t') (n : Nat) :
    i.value h t h.members[n]? = i.value h' t' h'.members[n]? := by
  have hreads : h.AgreeOn i.reads h' := ha.mono (List.subset_append_left _ _)
  have hmembers : h.members[n]?.map (Member.shown i.reads) =
      h'.members[n]?.map (Member.shown i.reads) := by
    rw [← List.getElem?_map, ← List.getElem?_map, ← Household.members_shown, hreads,
      Household.members_shown]
  have hgiven (t : TaxUnits) : i.value h t h.members[n]? = i.value h' t h'.members[n]? := by
    rw [← value_shown, hreads, hmembers, value_shown]
  rw [hgiven]
  -- What is left to compare is the same value under the two classifications.
  by_cases hrole : ∃ role, i = TaxUnits.roleInput role
  · obtain ⟨role, rfl⟩ := hrole
    cases role with
    | head => rw [TaxUnits.eq_of_agreeOn ha ht ht']
    | spouse =>
      have hspouse := TaxUnits.hasRole_spouse_of_agreeOn (by decide) hreads ht ht'
      simp only [TaxUnits.roleInput, value, hspouse]
    | dependent => rw [TaxUnits.eq_of_agreeOn ha ht ht']
  · apply value_returns
    intro role hi
    exact hrole ⟨role, hi⟩

open TaxUnits

/-- A head of household and a parent with an income of five hundred. -/
def parentAtHome (type : IncomeType) (frequency : Frequency) : Household := { sharedFlat with
  members := [
    lodger 1 .headOfHousehold (some 40) [],
    lodger 2 .parent (some 70) [⟨type, .whole 500, frequency, none⟩]] }

theorem parent_claimed_for_any_kind_of_income :
    let home := parentAtHome .gifts .yearly
    let home' := parentAtHome .pension .yearly
    home.AgreeOn (isTaxUnitDependent.reads ++ isTaxUnitDependent.undeclared) home' ∧
    ∃ t t', classify home = .ok t ∧ classify home' = .ok t' ∧
      isTaxUnitDependent.value home t home.members[1]? = .ok (.flag true) ∧
      ∀ n : Nat, isTaxUnitDependent.value home t home.members[n]? =
        isTaxUnitDependent.value home' t' home'.members[n]? := by
  intro home home'
  have hagree : home.AgreeOn (isTaxUnitDependent.reads ++ isTaxUnitDependent.undeclared) home' := by
    decide
  have hclaimed : ((classify home).toOption.any fun t =>
      isTaxUnitDependent.value home t home.members[1]? = .ok (.flag true)) = true := by
    decide +kernel
  obtain ⟨t, ht, hflag⟩ := exists_ok_of_any hclaimed
  have ht' : classify home' = .ok t := by rw [← classify_of_agreeOn hagree, ht]
  exact ⟨hagree, t, t, ht, ht', of_decide_eq_true hflag,
    fun n => value_rests_on_fields isTaxUnitDependent hagree ht ht' n⟩

/-- The parent is claimed on five hundred a year, and on five hundred a month heads another return,
while the households agree on every field that the variables declare. -/
theorem frequency_decides_on_returns :
    let home := parentAtHome .gifts .yearly
    let home' := parentAtHome .gifts .monthly
    ∃ t t', classify home = .ok t ∧ classify home' = .ok t' ∧
      ∀ i ∈ [isTaxUnitHead, isTaxUnitDependent], home.AgreeOn i.reads home' ∧
        i.value home t home.members[1]? ≠ i.value home' t' home'.members[1]? := by
  intro home home'
  have hdiffer : (do
      let t ← classify home
      let t' ← classify home'
      return (t, t') : Except Overflow _).toOption.any (fun ts =>
        ∀ i ∈ [isTaxUnitHead, isTaxUnitDependent],
          i.value home ts.1 home.members[1]? ≠ i.value home' ts.2 home'.members[1]?) = true := by
    decide +kernel
  obtain ⟨⟨t, t'⟩, hts, hvalues⟩ := exists_ok_of_any hdiffer
  obtain ⟨t₁, ht, hts⟩ := bind_eq_ok.mp hts
  obtain ⟨t₂, ht', hts⟩ := bind_eq_ok.mp hts
  cases pure_eq_ok.mp hts
  have hagree : ∀ i ∈ [isTaxUnitHead, isTaxUnitDependent], home.AgreeOn i.reads home' := by decide
  exact ⟨t, t', ht, ht', fun i hi => ⟨hagree i hi, of_decide_eq_true hvalues i hi⟩⟩

end Simulation.Input

end BenefitScreen
