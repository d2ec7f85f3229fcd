import BenefitScreen.Proofs.TaxPlaces
import BenefitScreen.Simulation.Input

/-!
Every member of a household is on the main return, on the secondary return or on none, and the
variables about people say so.
-/

namespace BenefitScreen

open Fallible Simulation

namespace TaxUnits

def roleInput : TaxRole → Input
  | .head => .isTaxUnitHead
  | .spouse => .isTaxUnitSpouse
  | .dependent => .isTaxUnitDependent

/-- Returns of a household as they should be: who is on them, and in which role. -/
structure Partition (h : Household) (t : TaxUnits) : Prop where
  ordered : ∀ unit, (t.membersOf unit).Sublist (h.members.map (·.id))
  disjoint : (t.membersOf .main).Disjoint (t.membersOf .secondary)
  /-- The first head files the main return. -/
  main_head : (t.membersOf .main).filter (t.hasRole · .head) = h.head?.toList.map (·.id)
  main_spouse : h.head? ≠ none →
    (t.membersOf .main).filter (t.hasRole · .spouse) = h.spouse?.toList.map (·.id)
  /-- Whoever else is on it passes one of the tests. -/
  main_dependent : ∀ m ∈ h.members, m.id ∈ t.membersOf .main → h.head? ≠ some m →
    h.spouse? ≠ some m → t.hasRole m.id .dependent = true ∧
      (m.isQualifyingChild = true ∨ m.isQualifyingRelative = .ok true)
  /-- Whoever passes one of the tests is on it. -/
  main_claims : h.head? ≠ none → ∀ m ∈ h.members,
    m.isQualifyingChild = true ∨ m.isQualifyingRelative = .ok true → m.id ∈ t.membersOf .main
  main_eq_nil : h.head? = none → t.membersOf .main = []
  secondary_spouse : (t.membersOf .secondary).filter (t.hasRole · .spouse) = []
  secondary_ne_nil : t.membersOf .secondary ≠ [] ↔
    ∃ m ∈ h.members, m.id ∉ t.membersOf .main ∧ m.canFileAlone = true
  secondary_head : t.membersOf .secondary ≠ [] →
    ∃ id, (t.membersOf .secondary).filter (t.hasRole · .head) = [id]
  /-- A secondary return takes everybody who is not on the main one. -/
  secondary_all : t.membersOf .secondary ≠ [] →
    ∀ m ∈ h.members, m.id ∉ t.membersOf .main → m.id ∈ t.membersOf .secondary
  secondary_dependent : ∀ id ∈ t.membersOf .secondary,
    t.hasRole id .head = false → t.hasRole id .dependent = true
  /-- A person on a return is told to have the role there and no other. -/
  flags : ∀ m ∈ h.members, ∀ unit, m.id ∈ t.membersOf unit →
    ∃ role, t.assignment? m.id = some ⟨unit, role⟩ ∧
      ∀ r, (roleInput r).value h t (some m) = .ok (.flag (decide (r = role)))
  /-- A person on no return is told to have no role. -/
  no_flags : ∀ m ∈ h.members, (∀ unit, m.id ∉ t.membersOf unit) →
    ∀ r, (roleInput r).value h t (some m) = .ok (.flag false)

lemma value_roleInput (h : Household) (t : TaxUnits) (m : Member) (role : TaxRole) :
    (roleInput role).value h t (some m) = .ok (.flag (t.hasRole m.id role)) := by
  cases role <;> rfl

namespace Placed

variable {h : Household} {t : TaxUnits}

lemma main_head (hd : h.DistinctIds) (ht : Placed h t) :
    (t.membersOf .main).filter (t.hasRole · .head) = h.head?.toList.map (·.id) := by
  rw [ht.filter_hasRole]
  refine congrArg _ (filter_eq_toList hd.nodup (fun _ => Household.mem_of_head?) fun m _ => ?_)
  rw [decide_eq_true_eq, Household.place?_eq_main, Household.mainRole?_eq_head]

lemma main_spouse (hd : h.DistinctIds) (ht : Placed h t) (hhead : h.head? ≠ none) :
    (t.membersOf .main).filter (t.hasRole · .spouse) = h.spouse?.toList.map (·.id) := by
  rw [ht.filter_hasRole]
  refine congrArg _ (filter_eq_toList hd.nodup (fun _ => Household.mem_of_spouse?) fun m _ => ?_)
  rw [decide_eq_true_eq, Household.place?_eq_main, Household.mainRole?_eq_spouse]
  exact and_iff_right hhead

lemma main_dependent (ht : Placed h t) {m : Member} (hm : m ∈ h.members)
    (hmain : m.id ∈ t.membersOf .main) (hhead : h.head? ≠ some m) (hspouse : h.spouse? ≠ some m) :
    t.hasRole m.id .dependent = true ∧
      (m.isQualifyingChild = true ∨ m.isQualifyingRelative = .ok true) := by
  obtain ⟨role, hplace⟩ := (ht.mem_membersOf hm).mp hmain
  have hrole := Household.place?_eq_main.mp hplace
  cases role with
  | head => exact absurd (Household.mainRole?_eq_head.mp hrole) hhead
  | spouse => exact absurd (Household.mainRole?_eq_spouse.mp hrole).2 hspouse
  | dependent =>
    obtain ⟨_, _, _, hclaim⟩ := Household.mainRole?_eq_dependent.mp hrole
    exact ⟨(ht.hasRole_iff hm).mpr ⟨.main, hplace⟩, Member.isClaimable_eq_true.mp hclaim⟩

lemma main_eq_nil (ht : Placed h t) (hhead : h.head? = none) : t.membersOf .main = [] := by
  apply List.eq_nil_iff_forall_not_mem.mpr
  intro id hid
  obtain ⟨m, hm, rfl⟩ := ht.exists_member hid
  refine (ht.mem_main hm).mp hid ?_
  rw [Household.mainRole?, hhead]
  rfl

lemma secondary_ne_nil_iff (ht : Placed h t) :
    t.membersOf .secondary ≠ [] ↔ ∃ filer, h.secondFiler? = some filer := by
  constructor
  · intro hne
    obtain ⟨id, hid⟩ := List.exists_mem_of_ne_nil _ hne
    obtain ⟨m, hm, rfl⟩ := ht.exists_member hid
    exact ((ht.mem_secondary hm).mp hid).2
  · rintro ⟨filer, hfiler⟩
    obtain ⟨hmem, hleft, _⟩ := Household.secondFiler?_spec hfiler
    exact List.ne_nil_of_mem ((ht.mem_secondary hmem).mpr ⟨hleft, filer, hfiler⟩)

lemma secondary_head (hd : h.DistinctIds) (ht : Placed h t) :
    (t.membersOf .secondary).filter (t.hasRole · .head) =
      h.secondFiler?.toList.map (·.id) := by
  rw [ht.filter_hasRole]
  refine congrArg _ (filter_eq_toList hd.nodup
    (fun _ hfiler => (Household.secondFiler?_spec hfiler).1) fun m _ => ?_)
  rw [decide_eq_true_eq, Household.place?_eq_secondary]
  constructor
  · rintro ⟨_, filer, hfiler, hrole⟩
    by_cases heq : m = filer
    · exact heq ▸ hfiler
    · rw [if_neg heq] at hrole
      cases hrole
  · intro hfiler
    exact ⟨(Household.secondFiler?_spec hfiler).2.1, m, hfiler, (if_pos rfl).symm⟩

lemma secondary_role (ht : Placed h t) {id : MemberId} (hid : id ∈ t.membersOf .secondary) :
    t.hasRole id .spouse = false ∧
      (t.hasRole id .head = false → t.hasRole id .dependent = true) := by
  obtain ⟨m, hm, rfl⟩ := ht.exists_member hid
  obtain ⟨role, hplace⟩ := (ht.mem_membersOf hm).mp hid
  obtain ⟨_, filer, _, hrole⟩ := Household.place?_eq_secondary.mp hplace
  have hassigned := ht.assignment? m hm
  rw [hplace] at hassigned
  unfold hasRole
  rw [hassigned, hrole]
  by_cases heq : m = filer
  · rw [if_pos heq]
    exact ⟨rfl, fun hhead => by cases hhead⟩
  · rw [if_neg heq]
    exact ⟨rfl, fun _ => rfl⟩

lemma flags (ht : Placed h t) {m : Member} (hm : m ∈ h.members) {unit : TaxUnit}
    (hunit : m.id ∈ t.membersOf unit) : ∃ role, t.assignment? m.id = some ⟨unit, role⟩ ∧
      ∀ r, (roleInput r).value h t (some m) = .ok (.flag (decide (r = role))) := by
  obtain ⟨role, hplace⟩ := (ht.mem_membersOf hm).mp hunit
  have hassigned := (ht.assignment? m hm).trans hplace
  refine ⟨role, hassigned, fun r => ?_⟩
  rw [value_roleInput, hasRole, hassigned, Option.any_some, beq_eq_decide]
  simp only [eq_comm]

lemma no_flags (ht : Placed h t) {m : Member} (hm : m ∈ h.members)
    (hunits : ∀ unit, m.id ∉ t.membersOf unit) (r : TaxRole) :
    (roleInput r).value h t (some m) = .ok (.flag false) := by
  rw [value_roleInput]
  cases hrole : t.hasRole m.id r with
  | false => rfl
  | true =>
    obtain ⟨unit, hplace⟩ := (ht.hasRole_iff hm).mp hrole
    exact absurd ((ht.mem_membersOf hm).mpr ⟨r, hplace⟩) (hunits unit)

/-- With everybody in place the returns are as they should be. -/
lemma partition (hd : h.DistinctIds) (ht : Placed h t) : Partition h t where
  ordered unit := ht.order ▸ List.filter_sublist
  disjoint := by
    intro id hmain hsecondary
    cases unit_unique hmain hsecondary
  main_head := ht.main_head hd
  main_spouse := ht.main_spouse hd
  main_dependent m hm := ht.main_dependent hm
  main_claims hhead m hm htest :=
    (ht.mem_main hm).mpr (Household.mainRole?_ne_none hhead (Member.isClaimable_eq_true.mpr htest))
  main_eq_nil := ht.main_eq_nil
  secondary_spouse := by
    apply List.filter_eq_nil_iff.mpr
    intro id hid
    rw [(ht.secondary_role hid).1]
    exact Bool.false_ne_true
  secondary_ne_nil := by
    rw [ht.secondary_ne_nil_iff, Household.exists_secondFiler?]
    refine exists_congr fun m => and_congr_right fun hm => and_congr_left fun _ => ?_
    rw [ht.mem_main hm, not_not]
  secondary_head := by
    intro hne
    obtain ⟨filer, hfiler⟩ := ht.secondary_ne_nil_iff.mp hne
    refine ⟨filer.id, ?_⟩
    rw [ht.secondary_head hd, hfiler]
    rfl
  secondary_all := by
    intro hne m hm hmain
    rw [ht.mem_main hm, not_not] at hmain
    exact (ht.mem_secondary hm).mpr ⟨hmain, ht.secondary_ne_nil_iff.mp hne⟩
  secondary_dependent id hid := (ht.secondary_role hid).2
  flags m hm unit := ht.flags hm
  no_flags m hm := ht.no_flags hm

end Placed

/-- Wherever the incomes add up, every member is put on the main return, the secondary return or
none, as the rules for filers and dependents have it. -/
theorem classify_partition (h : Household) (hd : h.DistinctIds)
    (hincome : ∀ m ∈ h.members, ∃ x, m.grossIncome .yearly [.all] [] = .ok x) :
    ∃ t, classify h = .ok t ∧ Partition h t := by
  obtain ⟨t, hclassify⟩ := exists_classify hincome
  exact ⟨t, hclassify, (placed_of_classify hd hclassify).partition hd⟩

/-- A member of whom the age and some income are known. -/
def lodger (id : UInt32) (relationship : Relationship) (age : Option UInt32)
    (incomeStreams : List IncomeStream) : Member where
  id := ⟨id⟩
  relationship
  age
  birthMonth := none
  pregnant := false
  disabled := false
  visuallyImpaired := false
  longTermDisability := false
  student := false
  insurance := .empty
  incomeStreams

/-- A family that shares its flat with two friends and a second head of household. -/
def sharedFlat : Household where
  id := ⟨0⟩
  state := "IL"
  reportedSize := none
  assets := .zero
  county := none
  zipcode := none
  members := [
    lodger 4 .roommate (some 29) [⟨.wages, .whole 3000, .monthly, none⟩],
    lodger 1 .headOfHousehold (some 40) [⟨.wages, .whole 900, .weekly, none⟩],
    lodger 3 .child (some 10) [],
    lodger 2 .domesticPartner none [],
    lodger 5 .other (some 16) [⟨.wages, .whole 800, .monthly, none⟩],
    lodger 6 .headOfHousehold (some 41) [⟨.pension, .whole 500, .monthly, none⟩]]
  expenses := []
  currentBenefits := .empty

/-- The family is on the main return, and the second head signs for everybody else. -/
theorem sharedFlat_partition :
    ∃ t, classify sharedFlat = .ok t ∧ Partition sharedFlat t ∧
      t.membersOf .main = [⟨1⟩, ⟨3⟩, ⟨2⟩] ∧ t.membersOf .secondary = [⟨4⟩, ⟨5⟩, ⟨6⟩] ∧
      t.hasRole ⟨6⟩ .head = true := by
  have hincome : ∀ m ∈ sharedFlat.members, ∃ x, m.grossIncome .yearly [.all] [] = .ok x := by
    have hall : ∀ m ∈ sharedFlat.members,
        (m.grossIncome .yearly [.all] []).toOption.any (fun _ => true) = true := by
      decide +kernel
    intro m hm
    obtain ⟨x, hx, _⟩ := exists_ok_of_any (hall m hm)
    exact ⟨x, hx⟩
  have hreturns : (classify sharedFlat).toOption.any (fun t =>
      t.membersOf .main = [⟨1⟩, ⟨3⟩, ⟨2⟩] ∧ t.membersOf .secondary = [⟨4⟩, ⟨5⟩, ⟨6⟩] ∧
        t.hasRole ⟨6⟩ .head = true) = true := by
    decide +kernel
  obtain ⟨t, hclassify, ht⟩ := exists_ok_of_any hreturns
  obtain ⟨t', hclassify', hpartition⟩ := classify_partition sharedFlat (by decide) hincome
  obtain rfl : t = t' := Except.ok.inj (hclassify.symm.trans hclassify')
  exact ⟨t, hclassify, hpartition, of_decide_eq_true ht⟩

end TaxUnits

end BenefitScreen
