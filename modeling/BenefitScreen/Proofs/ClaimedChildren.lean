import BenefitScreen.Proofs.SecondReturn

/-!
Which children of the head are claimed on the main return.

The test for a child asks for a known age before it asks for a disability. A disabled child of
unknown age has to pass the test for relatives, which looks at the income.
-/

namespace BenefitScreen

open Fallible

namespace Member

/-- A child of the head who is under 19, a student under 24 or disabled. -/
def MayBeClaimed (m : Member) : Prop :=
  m.relationship ∈ Relationship.childLike ∧
    ((∃ age ∈ m.age, age < 19) ∨ (m.student = true ∧ ∃ age ∈ m.age, age < 24) ∨
      m.hasDisability = true)

instance (m : Member) : Decidable m.MayBeClaimed := by
  unfold MayBeClaimed
  infer_instance

/-- The income adds up to less than the ceiling for relatives. -/
def HasLittleIncome (m : Member) : Prop :=
  ∃ income, m.grossIncome .yearly [.all] [] = .ok income ∧ income < relativeIncomeCeiling

variable {m : Member}

/-- The test for a child is the rule for children, for those whose age is known. -/
lemma isQualifyingChild_iff : m.isQualifyingChild = true ↔ m.MayBeClaimed ∧ m.age ≠ none := by
  unfold isQualifyingChild MayBeClaimed Relationship.isChildLike
  cases m.age with
  | none => simp
  | some age => simp [or_assoc]

lemma isQualifyingRelative_iff (hchild : m.relationship ∈ Relationship.childLike) :
    m.isQualifyingRelative = .ok true ↔ m.HasLittleIncome := by
  have hchild : m.relationship.isChildLike = true := List.contains_iff_mem.mpr hchild
  unfold isQualifyingRelative HasLittleIncome
  rw [bind_eq_ok]
  refine exists_congr fun income => and_congr_right fun _ => ?_
  rw [pure_eq_ok, hchild, Bool.or_true, Bool.true_and, decide_eq_true_eq]

lemma MayBeClaimed.isClaimable_iff (hm : m.MayBeClaimed) :
    m.isClaimable = .ok true ↔ m.age ≠ none ∨ m.HasLittleIncome := by
  rw [isClaimable_eq_true, isQualifyingChild_iff, isQualifyingRelative_iff hm.1, and_iff_right hm]

/-- Whoever passes the test for a child is claimed without a look at the income. -/
lemma exists_isClaimable_iff : (∃ claimable, m.isClaimable = .ok claimable) ↔
    (m.MayBeClaimed ∧ m.age ≠ none) ∨ ∃ income, m.grossIncome .yearly [.all] [] = .ok income := by
  rw [← isQualifyingChild_iff]
  constructor
  · rintro ⟨claimable, hm⟩
    unfold isClaimable at hm
    split at hm
    · exact .inl ‹_›
    · obtain ⟨income, hincome, _⟩ := bind_eq_ok.mp hm
      exact .inr ⟨income, hincome⟩
  · rintro (hchild | hincome)
    · exact ⟨true, if_pos hchild⟩
    · exact exists_isClaimable hincome

end Member

namespace Household

variable {h : Household} {m : Member}

lemma mainRole?_of_childLike (hhead : h.head? ≠ none)
    (hchild : m.relationship ∈ Relationship.childLike) :
    h.mainRole? m = if m.isClaimable = .ok true then some .dependent else none := by
  rcases mainRole?_cases h m with ⟨hnone, _⟩ | ⟨hm, _⟩ | ⟨_, _, hm, _⟩ | ⟨_, _, _, hclaim, hrole⟩ |
    ⟨_, _, _, hclaim, hrole⟩
  · exact absurd hnone hhead
  · have hm : m.isHead = true := List.find?_some hm
    rw [beq_iff_eq.mp hm] at hchild
    exact absurd hchild (by decide)
  · have hm : m.isSpouse = true := List.find?_some hm
    have hno : ∀ r ∈ Relationship.childLike, r.isPartner = false := by decide
    rw [Member.isSpouse, hno _ hchild] at hm
    cases hm
  · rw [hrole, if_pos hclaim]
  · rw [hrole, if_neg hclaim]

end Household

namespace TaxUnits

lemma isAssigned_claim {t t' : TaxUnits} {m : Member} (hclaim : t.claim m = .ok t') {id : MemberId}
    (hne : m.id ≠ id) : t'.isAssigned id = t.isAssigned id := by
  unfold isAssigned
  rw [(claim_eq_ok hclaim).2, if_neg fun hid => hne hid.1, Option.or_none]

lemma exists_foldlM_claim {members : List Member} (hnd : (members.map (·.id)).Nodup)
    (t : TaxUnits) : (∃ t', members.foldlM claim t = .ok t') ↔
      ∀ m ∈ members, t.isAssigned m.id = true ∨ ∃ claimable, m.isClaimable = .ok claimable := by
  induction members generalizing t with
  | nil => simpa using ⟨t, rfl⟩
  | cons m members ih =>
    obtain ⟨hm, hnd⟩ := List.nodup_cons.mp hnd
    -- The claim of one member leaves the others assigned or not as they were.
    have hrest : ∀ {t₁}, t.claim m = .ok t₁ → ((∃ t', members.foldlM claim t₁ = .ok t') ↔
        ∀ n ∈ members, t.isAssigned n.id = true ∨ ∃ claimable, n.isClaimable = .ok claimable) := by
      intro t₁ hclaim
      rw [ih hnd]
      refine forall₂_congr fun n hn => ?_
      rw [isAssigned_claim hclaim]
      intro hid
      apply hm
      dsimp only
      rw [hid]
      exact List.mem_map_of_mem hn
    rw [List.forall_mem_cons, ← exists_claim_iff]
    constructor
    · rintro ⟨t', hrun⟩
      obtain ⟨t₁, hclaim, hrun⟩ := foldlM_cons_eq_ok.mp hrun
      exact ⟨⟨t₁, hclaim⟩, (hrest hclaim).mp ⟨t', hrun⟩⟩
    · rintro ⟨⟨t₁, hclaim⟩, hall⟩
      obtain ⟨t', hrun⟩ := (hrest hclaim).mpr hall
      exact ⟨t', foldlM_cons_eq_ok.mpr ⟨t₁, hclaim, hrun⟩⟩

variable {h : Household}

/-- With a head the returns are worked out unless the income of somebody who is tested for it is
too high to add up. -/
lemma exists_classify_iff (hd : h.DistinctIds) (hhead : h.head? ≠ none) :
    (∃ t, classify h = .ok t) ↔ ∀ m ∈ h.members, h.head? ≠ some m → h.spouse? ≠ some m →
      (m.MayBeClaimed ∧ m.age ≠ none) ∨ ∃ income, m.grossIncome .yearly [.all] [] = .ok income := by
  obtain ⟨head, hhead⟩ := Option.ne_none_iff_exists'.mp hhead
  have hmain : (∃ t, classify h = .ok t) ↔
      ∃ t, h.members.foldlM claim (withFilers h head (unassigned h)) = .ok t := by
    unfold classify mainReturn
    rw [hhead]
    constructor
    · rintro ⟨t, hclassify⟩
      obtain ⟨t₀, hmain, _⟩ := bind_eq_ok.mp hclassify
      exact ⟨t₀, hmain⟩
    · rintro ⟨t₀, hmain⟩
      exact ⟨_, bind_eq_ok.mpr ⟨t₀, hmain, rfl⟩⟩
  rw [hmain, exists_foldlM_claim hd]
  refine forall₂_congr fun m hm => ?_
  have hassigned : (withFilers h head (unassigned h)).isAssigned m.id = true ↔
      h.head? = some m ∨ h.spouse? = some m := by
    unfold isAssigned
    rw [assignment?_filers hd hhead hm, hhead, Option.some.injEq]
    by_cases hspouse : h.spouse? = some m
    · simp [hspouse]
    · by_cases heq : head = m
      · simp [hspouse, heq]
      · simp [hspouse, heq]
  rw [hassigned, Member.exists_isClaimable_iff, or_iff_not_imp_left, not_or, and_imp]

/-- Those left over who cannot file are dependents on the second return, if there is one. -/
lemma Placed.assignment?_of_left {t : TaxUnits} (ht : Placed h t) {m : Member} (hm : m ∈ h.members)
    (hleft : h.mainRole? m = none) (hfile : m.canFileAlone = false) : t.assignment? m.id =
      if t.membersOf .secondary = [] then none else some ⟨.secondary, .dependent⟩ := by
  rw [ht.assignment? m hm]
  unfold Household.place?
  rw [hleft]
  cases hfiler : h.secondFiler? with
  | none =>
    have hempty : t.membersOf .secondary = [] := by
      by_contra hne
      obtain ⟨filer, hsome⟩ := ht.secondary_ne_nil_iff.mp hne
      rw [hfiler] at hsome
      cases hsome
    rw [if_pos hempty]
    rfl
  | some filer =>
    have hne : m ≠ filer := by
      rintro rfl
      rw [(Household.secondFiler?_spec hfiler).2.2] at hfile
      cases hfile
    rw [if_neg (ht.secondary_ne_nil_iff.mpr ⟨filer, hfiler⟩), Option.map_some, if_neg hne]

/-- A child by the rules is claimed if the age is known or the income is small. Any other is on
the second return, if there is one. -/
theorem child_place (hd : h.DistinctIds) (hhead : h.head? ≠ none) :
    ((∃ t, classify h = .ok t) ↔ ∀ m ∈ h.members, h.head? ≠ some m → h.spouse? ≠ some m →
      (m.MayBeClaimed ∧ m.age ≠ none) ∨ ∃ income, m.grossIncome .yearly [.all] [] = .ok income) ∧
    ∀ t, classify h = .ok t → ∀ m ∈ h.members, m.MayBeClaimed →
      (m.age ≠ none ∨ m.HasLittleIncome → t.assignment? m.id = some ⟨.main, .dependent⟩) ∧
      (m.age = none → ¬m.HasLittleIncome → t.assignment? m.id =
        if t.membersOf .secondary = [] then none else some ⟨.secondary, .dependent⟩) := by
  refine ⟨exists_classify_iff hd hhead, fun t hclassify m hm hchild => ?_⟩
  have ht : Placed h t := placed_of_classify hd hclassify
  have hrole := Household.mainRole?_of_childLike hhead hchild.1
  constructor
  · intro hclaim
    rw [if_pos (hchild.isClaimable_iff.mpr hclaim)] at hrole
    rw [ht.assignment? m hm]
    exact Household.place?_eq_main.mpr hrole
  · intro hage hincome
    have hclaim : m.isClaimable ≠ .ok true := by
      intro hclaim
      rcases hchild.isClaimable_iff.mp hclaim with hknown | hlittle
      · exact hknown hage
      · exact hincome hlittle
    rw [if_neg hclaim] at hrole
    apply ht.assignment?_of_left hm hrole
    rw [← Bool.not_eq_true, Member.canFileAlone_iff]
    rintro (⟨age, hknown, _⟩ | ⟨_, hother⟩)
    · rw [hage] at hknown
      cases hknown
    · exact hother hchild.1

/-- A parent with a disabled child who earns 500 a month. -/
def workingChild (age : Option UInt32) : Household := { sharedFlat with
  members := [
    lodger 1 .headOfHousehold (some 45) [],
    { lodger 2 .child age [⟨.wages, .whole 500, .monthly, none⟩] with disabled := true }] }

/-- Of known age the child is claimed, whatever it earns. -/
theorem workingChild_claimed : ∃ t, classify (workingChild (some 30)) = .ok t ∧
    t.assignment? ⟨2⟩ = some ⟨.main, .dependent⟩ := by
  have hd : (workingChild (some 30)).DistinctIds := by decide
  have hhead : (workingChild (some 30)).head? ≠ none := by decide
  have htested : ∀ m ∈ (workingChild (some 30)).members, (workingChild (some 30)).head? ≠ some m →
      m.MayBeClaimed ∧ m.age ≠ none := by
    decide +kernel
  obtain ⟨hreturns, hplaces⟩ := child_place hd hhead
  obtain ⟨t, ht⟩ := hreturns.mpr fun m hm hne _ => .inl (htested m hm hne)
  obtain ⟨hclaimed, _⟩ := hplaces t ht _ (List.mem_cons_of_mem _ List.mem_cons_self) (by decide)
  exact ⟨t, ht, hclaimed (.inl (by decide))⟩

/-- Of unknown age the child is on no return, although the rule does not ask for the age. -/
theorem workingChild_unclaimed :
    (workingChild none).DistinctIds ∧ (workingChild none).head? ≠ none ∧
      ∃ m ∈ (workingChild none).members, m.MayBeClaimed ∧ (workingChild none).head? ≠ some m ∧
        (workingChild none).spouse? ≠ some m ∧
        ∃ t, classify (workingChild none) = .ok t ∧ t.assignment? m.id = none := by
  have hreturns : (classify (workingChild none)).toOption.any
      (fun t => t.assignment? ⟨2⟩ = none) = true := by
    decide +kernel
  obtain ⟨t, ht, hplace⟩ := exists_ok_of_any hreturns
  refine ⟨by decide, by decide, _, List.mem_cons_of_mem _ List.mem_cons_self, by decide, ?_, ?_, t,
    ht, of_decide_eq_true hplace⟩
  · decide +kernel
  · decide +kernel

end TaxUnits

end BenefitScreen
