import BenefitScreen.Proofs.TaxReturns

/-!
Who signs the second return.

Ages compare as optional numbers, so that an unknown age is below every known one.
-/

namespace BenefitScreen

open Fallible

namespace Member

/-- Grown up, or of unknown age and no child of the head. -/
def MayFile (m : Member) : Prop :=
  (∃ age ∈ m.age, 18 ≤ age) ∨ m.age = none ∧ m.relationship ∉ Relationship.childLike

variable {m n : Member}

lemma canFileAlone_iff : m.canFileAlone = true ↔ m.MayFile := by
  unfold canFileAlone MayFile Relationship.isChildLike
  cases m.age with
  | none => simp
  | some age => simp

lemma ageRank_le_iff : m.ageRank ≤ n.ageRank ↔ m.age ≤ n.age := by
  unfold ageRank
  cases m.age with
  | none => simp
  | some a =>
    cases n.age with
    | none => simp
    | some b => simp [UInt32.le_iff_toNat_le]

lemma ageRank_lt_iff : m.ageRank < n.ageRank ↔ m.age < n.age := by
  unfold ageRank
  cases n.age with
  | none => simp
  | some b =>
    cases m.age with
    | none => simp
    | some a => simp [UInt32.lt_iff_toNat_lt]

end Member

/-- Somebody of a kind, older than those of the kind listed before, and as old as those listed
after or older. -/
def FirstOldest (p : Member → Prop) (members : List Member) (w : Member) : Prop :=
  ∃ before after, members = before ++ w :: after ∧ p w ∧
    (∀ m ∈ before, p m → m.age < w.age) ∧ ∀ m ∈ after, p m → m.age ≤ w.age

namespace FirstOldest

variable {p q : Member → Prop} {members : List Member} {w w' : Member}

lemma congr (hpq : ∀ m ∈ members, p m ↔ q m) :
    FirstOldest p members w ↔ FirstOldest q members w := by
  refine exists_congr fun before => exists_congr fun after => and_congr_right ?_
  rintro rfl
  have hw := hpq w (by simp)
  have hbefore : ∀ m ∈ before, (p m ↔ q m) := fun m hm => hpq m (by simp [hm])
  have hafter : ∀ m ∈ after, (p m ↔ q m) := fun m hm => hpq m (by simp [hm])
  rw [hw]
  refine and_congr_right fun _ => and_congr ?_ ?_
  · exact forall₂_congr fun m hm => by rw [hbefore m hm]
  · exact forall₂_congr fun m hm => by rw [hafter m hm]

/-- Two members in different places cannot both be the first of the oldest. -/
lemma eq (hw : FirstOldest p members w) (hw' : FirstOldest p members w') : w = w' := by
  have apart : ∀ {a b : Member}, a.age < b.age → ¬b.age ≤ a.age := by
    intro a b hlt hle
    have hlt := Member.ageRank_lt_iff.mpr hlt
    have hle := Member.ageRank_le_iff.mpr hle
    omega
  obtain ⟨before, after, rfl, hp, hbefore, hafter⟩ := hw
  obtain ⟨before', after', heq, hp', hbefore', hafter'⟩ := hw'
  rcases List.append_eq_append_iff.mp heq with ⟨between, rfl, hrest⟩ | ⟨between, rfl, hrest⟩
  · rcases List.cons_eq_append_iff.mp hrest with ⟨rfl, hrest⟩ | ⟨_, rfl, rfl⟩
    · exact (List.cons.inj hrest).1
    · have hlt := hbefore' w (by simp) hp
      exact absurd (hafter w' (by simp) hp') (apart hlt)
  · rcases List.cons_eq_append_iff.mp hrest with ⟨rfl, hrest⟩ | ⟨_, rfl, rfl⟩
    · exact (List.cons.inj hrest).1.symm
    · have hlt := hbefore w' (by simp) hp'
      exact absurd (hafter' w (by simp) hp) (apart hlt)

end FirstOldest

lemma firstOldest_of_oldest? {p : Member → Bool} {members : List Member} {w : Member}
    (hw : oldest? (members.filter p) = some w) : FirstOldest (p · = true) members w := by
  have hp := (List.mem_filter.mp (mem_of_oldest? hw)).2
  have hne : members.filter p ≠ [] := List.ne_nil_of_mem (mem_of_oldest? hw)
  obtain ⟨w', hw', before, after, hsplit, hbefore, hafter⟩ := exists_oldest hne
  obtain rfl := Option.some.inj (hw.symm.trans hw')
  obtain ⟨early, rest, rfl, rfl, hrest⟩ := List.filter_eq_append_iff.mp hsplit
  -- Those between the filtered parts are not of the kind, so nothing is asked of them.
  obtain ⟨skipped, late, rfl, hskipped, _, rfl⟩ := List.filter_eq_cons_iff.mp hrest
  refine ⟨early ++ skipped, late, by simp, hp, ?_, ?_⟩
  · intro m hm hpm
    rcases List.mem_append.mp hm with hm | hm
    · exact Member.ageRank_lt_iff.mp (hbefore m (List.mem_filter.mpr ⟨hm, hpm⟩))
    · exact absurd hpm (hskipped m hm)
  · intro m hm hpm
    exact Member.ageRank_le_iff.mp (hafter m (List.mem_filter.mpr ⟨hm, hpm⟩))

/-- The choice among those of a kind is the first of the oldest. -/
lemma oldest?_filter_eq_some {p : Member → Bool} {members : List Member} {w : Member} :
    oldest? (members.filter p) = some w ↔ FirstOldest (p · = true) members w := by
  constructor
  · exact firstOldest_of_oldest?
  · intro hw
    obtain ⟨before, after, hsplit, hp, _⟩ := id hw
    have hmem : w ∈ members.filter p := by
      apply List.mem_filter.mpr
      exact ⟨by simp [hsplit], hp⟩
    obtain ⟨w', hw', _⟩ := exists_oldest (List.ne_nil_of_mem hmem)
    rw [hw', (firstOldest_of_oldest? hw').eq hw]

lemma Household.secondFiler?_eq_some {h : Household} {w : Member} : h.secondFiler? = some w ↔
    FirstOldest (fun m => h.mainRole? m = none ∧ m.MayFile) h.members w := by
  unfold secondFiler?
  rw [List.filter_filter, oldest?_filter_eq_some]
  apply FirstOldest.congr
  intro m _
  rw [Bool.and_eq_true, Member.canFileAlone_iff, Option.isNone_iff_eq_none, and_comm]

namespace TaxUnits

/-- The second return is signed by the oldest of those who are not on the main return and may file,
and by the first of several. -/
theorem secondary_head_iff {h : Household} (hd : h.DistinctIds) {t : TaxUnits}
    (hclassify : classify h = .ok t) (id : MemberId) :
    id ∈ t.membersOf .secondary ∧ t.hasRole id .head = true ↔
      ∃ m, m.id = id ∧
        FirstOldest (fun n => n.id ∉ t.membersOf .main ∧ n.MayFile) h.members m := by
  have ht : Placed h t := placed_of_classify hd hclassify
  have houtside : ∀ m ∈ h.members,
      (h.mainRole? m = none ∧ m.MayFile ↔ m.id ∉ t.membersOf .main ∧ m.MayFile) := by
    intro m hm
    rw [ht.mem_main hm, not_not]
  rw [← List.mem_filter (p := fun id => t.hasRole id .head), ht.secondary_head hd, List.mem_map]
  refine exists_congr fun m => ?_
  rw [and_comm, Option.mem_toList, Household.secondFiler?_eq_some,
    FirstOldest.congr houtside]

/-- A flat of friends, two of them of the same age and one of an unknown age, with a child who has
an income of his own. -/
def friendsFlat : Household := { sharedFlat with
  members := [
    lodger 2 .other none [],
    lodger 3 .child none [⟨.wages, .whole 3000, .monthly, none⟩],
    lodger 5 .roommate (some 17) [],
    lodger 6 .roommate (some 33) [],
    lodger 1 .headOfHousehold (some 40) [],
    lodger 4 .roommate (some 33) []] }

/-- Of the two who are 33 the first one signs. -/
theorem friendsFlat_secondary_head :
    ∃ t, classify friendsFlat = .ok t ∧ friendsFlat.DistinctIds ∧
      t.membersOf .secondary = [⟨2⟩, ⟨3⟩, ⟨5⟩, ⟨6⟩, ⟨4⟩] ∧
      ∃ m, m.id = ⟨6⟩ ∧ FirstOldest (fun n => n.id ∉ t.membersOf .main ∧ n.MayFile)
        friendsFlat.members m := by
  have hd : friendsFlat.DistinctIds := by decide
  have hreturns : (classify friendsFlat).toOption.any (fun t =>
      t.membersOf .secondary = [⟨2⟩, ⟨3⟩, ⟨5⟩, ⟨6⟩, ⟨4⟩] ∧ t.hasRole ⟨6⟩ .head = true) = true := by
    decide +kernel
  obtain ⟨t, hclassify, ht⟩ := exists_ok_of_any hreturns
  obtain ⟨hsecond, hrole⟩ := of_decide_eq_true ht
  refine ⟨t, hclassify, hd, hsecond, (secondary_head_iff hd hclassify ⟨6⟩).mp ⟨?_, hrole⟩⟩
  rw [hsecond]
  decide

end TaxUnits

end BenefitScreen
