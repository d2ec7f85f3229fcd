import BenefitScreen.Proofs.Fallible
import BenefitScreen.Proofs.Lookup
import BenefitScreen.TaxUnit
import Mathlib.Data.List.Induction

/-!
Where the passes over a household leave each member.

Each pass assigns those whom the passes before it left over. `place?` is the closed form of the
outcome, and `Placed` says that some returns agree with it.
-/

namespace BenefitScreen

open Fallible

/-- No two members share an identifier. -/
def Household.DistinctIds (h : Household) : Prop := (h.members.map (·.id)).Nodup

instance (h : Household) : Decidable h.DistinctIds :=
  inferInstanceAs (Decidable (h.members.map (·.id)).Nodup)

section Oldest

lemma oldest?_append_singleton (members : List Member) (m : Member) :
    oldest? (members ++ [m]) = match oldest? members with
      | some o => if m.ageRank ≤ o.ageRank then some o else some m
      | none => some m := by
  unfold oldest?
  rw [List.foldl_append]
  rfl

/-- The oldest of some members comes after younger ones and before those who are not older. -/
lemma exists_oldest {members : List Member} (hne : members ≠ []) :
    ∃ w, oldest? members = some w ∧ ∃ before after, members = before ++ w :: after ∧
      (∀ m ∈ before, m.ageRank < w.ageRank) ∧ ∀ m ∈ after, m.ageRank ≤ w.ageRank := by
  -- From the end, since the fold keeps the oldest of those it has passed.
  induction members using List.reverseRecOn with
  | nil => exact absurd rfl hne
  | append_singleton members m ih =>
    rw [oldest?_append_singleton]
    by_cases hnil : members = []
    · subst hnil
      exact ⟨m, rfl, [], [], rfl, by simp, by simp⟩
    · obtain ⟨w, hw, before, after, rfl, hbefore, hafter⟩ := ih hnil
      rw [hw]
      dsimp only
      by_cases hle : m.ageRank ≤ w.ageRank
      · rw [if_pos hle]
        refine ⟨w, rfl, before, after ++ [m], by simp, hbefore, ?_⟩
        intro n hn
        rcases List.mem_append.mp hn with hn | hn
        · exact hafter n hn
        · exact List.mem_singleton.mp hn ▸ hle
      · rw [if_neg hle]
        refine ⟨m, rfl, before ++ w :: after, [], rfl, ?_, by simp⟩
        intro n hn
        rcases List.mem_append.mp hn with hn | hn
        · have := hbefore n hn
          omega
        · rcases List.mem_cons.mp hn with rfl | hn
          · omega
          · have := hafter n hn
            omega

lemma oldest?_eq_none {members : List Member} : oldest? members = none ↔ members = [] := by
  constructor
  · intro h
    by_contra hne
    obtain ⟨w, hw, _⟩ := exists_oldest hne
    rw [h] at hw
    cases hw
  · rintro rfl
    rfl

lemma mem_of_oldest? {members : List Member} {w : Member} (h : oldest? members = some w) :
    w ∈ members := by
  have hne : members ≠ [] := by
    rintro rfl
    cases h
  obtain ⟨w', hw', before, after, rfl, _⟩ := exists_oldest hne
  obtain rfl : w = w' := Option.some.inj (h.symm.trans hw')
  simp

end Oldest

lemma Member.isHead_eq_false {m : Member} (h : m.isSpouse = true) : m.isHead = false := by
  rw [← Bool.not_eq_true, isHead, beq_iff_eq]
  intro hhead
  rw [isSpouse, hhead] at h
  cases h

namespace Household

variable {h : Household}

lemma DistinctIds.eq (hd : h.DistinctIds) {m n : Member} (hm : m ∈ h.members)
    (hn : n ∈ h.members) (heq : m.id = n.id) : m = n :=
  List.inj_on_of_nodup_map hd hm hn heq

lemma DistinctIds.nodup (hd : h.DistinctIds) : h.members.Nodup := List.Nodup.of_map _ hd

lemma mem_of_head? {m : Member} (hm : h.head? = some m) : m ∈ h.members :=
  List.mem_of_find?_eq_some hm

lemma mem_of_spouse? {m : Member} (hm : h.spouse? = some m) : m ∈ h.members :=
  List.mem_of_find?_eq_some hm

/-- Nobody is both the head and the partner of the head. -/
lemma head?_ne_spouse? {m : Member} (hhead : h.head? = some m) : h.spouse? ≠ some m := by
  intro hspouse
  have hm : m.isHead = true := List.find?_some hhead
  rw [Member.isHead_eq_false (List.find?_some hspouse)] at hm
  cases hm

def mainRole? (h : Household) (m : Member) : Option TaxRole :=
  if h.head?.isNone then none
  else if h.head? = some m then some .head
  else if h.spouse? = some m then some .spouse
  else if m.isClaimable = .ok true then some .dependent
  else none

/-- The oldest of those who are not on the main return and can file. -/
def secondFiler? (h : Household) : Option Member :=
  oldest? ((h.members.filter fun m => (h.mainRole? m).isNone).filter Member.canFileAlone)

/-- The return that a member ends up on, with the role there. -/
def place? (h : Household) (m : Member) : Option TaxAssignment :=
  match h.mainRole? m with
  | some role => some ⟨.main, role⟩
  | none => h.secondFiler?.map fun filer => ⟨.secondary, if m = filer then .head else .dependent⟩

/-- The five ways in which the main return can treat a member. -/
lemma mainRole?_cases (h : Household) (m : Member) :
    (h.head? = none ∧ h.mainRole? m = none) ∨
    (h.head? = some m ∧ h.mainRole? m = some .head) ∨
    (h.head? ≠ none ∧ h.head? ≠ some m ∧ h.spouse? = some m ∧ h.mainRole? m = some .spouse) ∨
    (h.head? ≠ none ∧ h.head? ≠ some m ∧ h.spouse? ≠ some m ∧ m.isClaimable = .ok true ∧
      h.mainRole? m = some .dependent) ∨
    (h.head? ≠ none ∧ h.head? ≠ some m ∧ h.spouse? ≠ some m ∧ m.isClaimable ≠ .ok true ∧
      h.mainRole? m = none) := by
  unfold mainRole?
  cases h.head? with
  | none => simp
  | some head =>
    by_cases heq : head = m
    · simp [heq]
    · by_cases hspouse : h.spouse? = some m
      · simp [heq, hspouse]
      · by_cases hclaim : m.isClaimable = .ok true
        · simp [heq, hspouse, hclaim]
        · simp [heq, hspouse, hclaim]

lemma mainRole?_eq_head {m : Member} : h.mainRole? m = some .head ↔ h.head? = some m := by
  rcases mainRole?_cases h m with ⟨hhead, hrole⟩ | ⟨hhead, hrole⟩ | ⟨_, hhead, _, hrole⟩ |
    ⟨_, hhead, _, _, hrole⟩ | ⟨_, hhead, _, _, hrole⟩ <;> simp [hhead, hrole]

lemma mainRole?_eq_spouse {m : Member} :
    h.mainRole? m = some .spouse ↔ h.head? ≠ none ∧ h.spouse? = some m := by
  rcases mainRole?_cases h m with ⟨hhead, hrole⟩ | ⟨hhead, hrole⟩ | ⟨hhead, _, hspouse, hrole⟩ |
    ⟨_, _, hspouse, _, hrole⟩ | ⟨_, _, hspouse, _, hrole⟩
  · simp [hhead, hrole]
  · simp [hrole, head?_ne_spouse? hhead]
  · simp [hhead, hspouse, hrole]
  · simp [hspouse, hrole]
  · simp [hspouse, hrole]

lemma mainRole?_eq_dependent {m : Member} : h.mainRole? m = some .dependent ↔
    h.head? ≠ none ∧ h.head? ≠ some m ∧ h.spouse? ≠ some m ∧ m.isClaimable = .ok true := by
  rcases mainRole?_cases h m with ⟨hhead, hrole⟩ | ⟨hhead, hrole⟩ | ⟨_, _, hspouse, hrole⟩ |
    ⟨hhead, hne, hspouse, hclaim, hrole⟩ | ⟨_, _, _, hclaim, hrole⟩
  · simp [hhead, hrole]
  · simp [hhead, hrole]
  · simp [hspouse, hrole]
  · simp [hhead, hne, hspouse, hclaim, hrole]
  · simp [hclaim, hrole]

/-- Whom the filers may claim, they do claim. -/
lemma mainRole?_ne_none {m : Member} (hhead : h.head? ≠ none) (hclaim : m.isClaimable = .ok true) :
    h.mainRole? m ≠ none := by
  rcases mainRole?_cases h m with ⟨hnone, _⟩ | ⟨_, hrole⟩ | ⟨_, _, _, hrole⟩ |
    ⟨_, _, _, _, hrole⟩ | ⟨_, _, _, hno, _⟩
  · exact absurd hnone hhead
  · simp [hrole]
  · simp [hrole]
  · simp [hrole]
  · exact absurd hclaim hno

lemma place?_eq_main {m : Member} {role : TaxRole} :
    h.place? m = some ⟨.main, role⟩ ↔ h.mainRole? m = some role := by
  unfold place?
  cases h.mainRole? m with
  | none => simp
  | some r => simp

lemma place?_eq_secondary {m : Member} {role : TaxRole} :
    h.place? m = some ⟨.secondary, role⟩ ↔ h.mainRole? m = none ∧
      ∃ filer, h.secondFiler? = some filer ∧ role = if m = filer then .head else .dependent := by
  unfold place?
  cases h.mainRole? m with
  | none =>
    simp only [Option.map_eq_some_iff, TaxAssignment.mk.injEq, true_and]
    exact exists_congr fun filer => and_congr_right fun _ => eq_comm
  | some r => simp

lemma secondFiler?_spec {filer : Member} (hfiler : h.secondFiler? = some filer) :
    filer ∈ h.members ∧ h.mainRole? filer = none ∧ filer.canFileAlone = true := by
  obtain ⟨hother, hfile⟩ := List.mem_filter.mp (mem_of_oldest? hfiler)
  obtain ⟨hmem, hleft⟩ := List.mem_filter.mp hother
  exact ⟨hmem, Option.isNone_iff_eq_none.mp hleft, hfile⟩

lemma exists_secondFiler? :
    (∃ filer, h.secondFiler? = some filer) ↔
      ∃ m ∈ h.members, h.mainRole? m = none ∧ m.canFileAlone = true := by
  constructor
  · rintro ⟨filer, hfiler⟩
    exact ⟨filer, secondFiler?_spec hfiler⟩
  · rintro ⟨m, hm, hleft, hfile⟩
    refine Option.isSome_iff_exists.mp (Option.isSome_iff_ne_none.mpr fun hnone => ?_)
    have hnil := oldest?_eq_none.mp hnone
    have hmem : m ∈ (h.members.filter fun m => (h.mainRole? m).isNone).filter
        Member.canFileAlone := by simp [hm, hleft, hfile]
    rw [hnil] at hmem
    cases hmem

end Household

namespace Member

lemma isClaimable_eq_true {m : Member} :
    m.isClaimable = .ok true ↔ m.isQualifyingChild = true ∨ m.isQualifyingRelative = .ok true := by
  unfold isClaimable
  by_cases hchild : m.isQualifyingChild = true
  · simp [hchild]
  · simp [hchild]

lemma exists_isClaimable {m : Member} (hincome : ∃ x, m.grossIncome .yearly [.all] [] = .ok x) :
    ∃ claimable, m.isClaimable = .ok claimable := by
  obtain ⟨x, hx⟩ := hincome
  unfold isClaimable isQualifyingRelative
  rw [hx, ok_bind]
  by_cases hchild : m.isQualifyingChild = true
  · exact ⟨true, if_pos hchild⟩
  · exact ⟨_, if_neg hchild⟩

end Member

namespace TaxUnits

@[simp]
lemma assignment?_unassigned (h : Household) (id : MemberId) :
    (unassigned h).assignment? id = none := rfl

@[simp]
lemma assignment?_assign (t : TaxUnits) (id : MemberId) (unit : TaxUnit) (role : TaxRole)
    (id' : MemberId) : (t.assign id unit role).assignment? id' =
      if id' = id then some ⟨unit, role⟩ else t.assignment? id' := by
  unfold assign assignment?
  by_cases h : id' = id
  · simp [h]
  · have h' : ¬id = id' := fun e => h e.symm
    simp [h, h']

@[simp]
lemma order_assign (t : TaxUnits) (id : MemberId) (unit : TaxUnit) (role : TaxRole) :
    (t.assign id unit role).order = t.order := rfl

lemma assignment?_withFilers (h : Household) (head : Member) (t : TaxUnits) (id : MemberId) :
    (withFilers h head t).assignment? id =
      if h.spouse?.any (·.id = id) then some ⟨.main, .spouse⟩
      else if head.id = id then some ⟨.main, .head⟩
      else t.assignment? id := by
  unfold withFilers
  cases h.spouse? with
  | none => simp [eq_comm]
  | some spouse => simp [eq_comm]

lemma order_withFilers (h : Household) (head : Member) (t : TaxUnits) :
    (withFilers h head t).order = t.order := by
  unfold withFilers
  cases h.spouse? <;> rfl

/-- What one claim does: a member who is on no return is put on the main one where allowed. -/
lemma claim_eq_ok {t t' : TaxUnits} {m : Member} (hclaim : t.claim m = .ok t') :
    t'.order = t.order ∧ ∀ id, t'.assignment? id = (t.assignment? id).or
      (if m.id = id ∧ m.isClaimable = .ok true then some ⟨.main, .dependent⟩ else none) := by
  unfold claim isAssigned at hclaim
  split at hclaim
  · rename_i hassigned
    obtain rfl := pure_eq_ok.mp hclaim
    refine ⟨rfl, fun id => ?_⟩
    obtain ⟨a, ha⟩ := Option.isSome_iff_exists.mp hassigned
    by_cases hid : m.id = id
    · rw [← hid, ha]
      rfl
    · simp [hid]
  · rename_i hfree
    have hfree : t.assignment? m.id = none := by simpa using hfree
    obtain ⟨claimable, hm, hclaim⟩ := bind_eq_ok.mp hclaim
    rw [hm]
    cases claimable with
    | true =>
      obtain rfl := pure_eq_ok.mp hclaim
      refine ⟨rfl, fun id => ?_⟩
      by_cases hid : id = m.id
      · simp [hid, hfree]
      · have hid' : ¬m.id = id := fun e => hid e.symm
        simp [hid, hid']
    | false =>
      obtain rfl := pure_eq_ok.mp hclaim
      exact ⟨rfl, fun id => by simp⟩

lemma foldlM_claim {members : List Member} {t t' : TaxUnits}
    (hrun : members.foldlM claim t = .ok t') :
    t'.order = t.order ∧ ∀ id, t'.assignment? id = (t.assignment? id).or
      (if ∃ m ∈ members, m.id = id ∧ m.isClaimable = .ok true then some ⟨.main, .dependent⟩
        else none) := by
  induction members generalizing t with
  | nil =>
    obtain rfl := pure_eq_ok.mp hrun
    exact ⟨rfl, fun id => by simp⟩
  | cons m members ih =>
    obtain ⟨t₁, hclaim, hrun⟩ := foldlM_cons_eq_ok.mp hrun
    obtain ⟨horder, hstep⟩ := claim_eq_ok hclaim
    obtain ⟨horder', hrest⟩ := ih hrun
    refine ⟨horder'.trans horder, fun id => ?_⟩
    -- An earlier claim stays, and a later one would assign the same place.
    rw [hrest, hstep, Option.or_assoc]
    congr 1
    by_cases hm : m.id = id ∧ m.isClaimable = .ok true
    · simp [hm]
    · simp [hm]

lemma order_mainReturn {h : Household} {t : TaxUnits} (hmain : mainReturn h = .ok t) :
    t.order = h.members.map (·.id) := by
  unfold mainReturn at hmain
  cases hhead : h.head? with
  | none =>
    rw [hhead] at hmain
    obtain rfl := Except.ok.inj hmain
    rfl
  | some head =>
    rw [hhead] at hmain
    rw [(foldlM_claim hmain).1, order_withFilers]
    rfl

/-- The first pass assigns the head and the partner, and nobody else. -/
lemma assignment?_filers {h : Household} (hd : h.DistinctIds) {head : Member}
    (hhead : h.head? = some head) {m : Member} (hm : m ∈ h.members) :
    (withFilers h head (unassigned h)).assignment? m.id =
      if h.spouse? = some m then some ⟨.main, .spouse⟩
      else if head = m then some ⟨.main, .head⟩ else none := by
  have hheadId : head.id = m.id ↔ head = m :=
    ⟨hd.eq (Household.mem_of_head? hhead) hm, congrArg Member.id⟩
  have hspouseId : h.spouse?.any (·.id = m.id) = true ↔ h.spouse? = some m := by
    rw [Option.any_eq_true]
    constructor
    · rintro ⟨spouse, hspouse, hid⟩
      rw [← hd.eq (Household.mem_of_spouse? hspouse) hm (of_decide_eq_true hid)]
      exact hspouse
    · intro hspouse
      exact ⟨m, hspouse, decide_eq_true rfl⟩
  rw [assignment?_withFilers, assignment?_unassigned]
  simp only [hheadId, hspouseId]

/-- After the first two passes everybody on the main return has the role there, and nobody else is
on a return. -/
lemma assignment?_mainReturn {h : Household} (hd : h.DistinctIds) {t : TaxUnits}
    (hmain : mainReturn h = .ok t) {m : Member} (hm : m ∈ h.members) :
    t.assignment? m.id = (h.mainRole? m).map fun role => ⟨.main, role⟩ := by
  unfold mainReturn at hmain
  unfold Household.mainRole?
  cases hhead : h.head? with
  | none =>
    rw [hhead] at hmain
    obtain rfl := Except.ok.inj hmain
    rfl
  | some head =>
    rw [hhead] at hmain
    have hclaimed : (∃ n ∈ h.members, n.id = m.id ∧ n.isClaimable = .ok true) ↔
        m.isClaimable = .ok true := by
      constructor
      · rintro ⟨n, hn, hid, hclaim⟩
        exact hd.eq hn hm hid ▸ hclaim
      · intro hclaim
        exact ⟨m, hm, rfl, hclaim⟩
    rw [(foldlM_claim hmain).2, assignment?_filers hd hhead hm]
    simp only [hclaimed, Option.isNone_some, Option.some.injEq, Bool.false_eq_true, if_false]
    by_cases hspouse : h.spouse? = some m
    · have hne : ¬head = m := by
        rintro rfl
        exact Household.head?_ne_spouse? hhead hspouse
      simp [hspouse, hne]
    · by_cases heq : head = m
      · simp [hspouse, heq]
      · by_cases hclaim : m.isClaimable = .ok true
        · simp [hspouse, heq, hclaim]
        · simp [hspouse, heq, hclaim]

lemma exists_claim_iff {t : TaxUnits} {m : Member} : (∃ t', t.claim m = .ok t') ↔
    t.isAssigned m.id = true ∨ ∃ claimable, m.isClaimable = .ok claimable := by
  unfold claim
  by_cases hassigned : t.isAssigned m.id = true
  · rw [if_pos hassigned]
    exact ⟨fun _ => .inl hassigned, fun _ => ⟨t, rfl⟩⟩
  · rw [if_neg hassigned, or_iff_right hassigned]
    constructor
    · rintro ⟨t', hclaim⟩
      obtain ⟨claimable, hm, _⟩ := bind_eq_ok.mp hclaim
      exact ⟨claimable, hm⟩
    · rintro ⟨claimable, hm⟩
      rw [hm, ok_bind]
      cases claimable with
      | true => exact ⟨_, rfl⟩
      | false => exact ⟨_, rfl⟩

lemma exists_mainReturn {h : Household}
    (hincome : ∀ m ∈ h.members, ∃ x, m.grossIncome .yearly [.all] [] = .ok x) :
    ∃ t, mainReturn h = .ok t := by
  unfold mainReturn
  cases h.head? with
  | none => exact ⟨_, rfl⟩
  | some head =>
    apply exists_foldlM_of_forall
    intro m hm t
    exact exists_claim_iff.mpr (.inr (m.exists_isClaimable (hincome m hm)))

lemma foldl_assign_dependents (members : List Member) (t : TaxUnits) (id : MemberId) :
    (members.foldl (fun t m => t.assign m.id .secondary .dependent) t).assignment? id =
      if ∃ m ∈ members, m.id = id then some ⟨.secondary, .dependent⟩ else t.assignment? id := by
  induction members generalizing t with
  | nil => simp
  | cons m members ih =>
    rw [List.foldl_cons, ih, assignment?_assign]
    by_cases hlater : ∃ n ∈ members, n.id = id
    · have hany : ∃ n ∈ m :: members, n.id = id :=
        hlater.imp fun n hn => ⟨List.mem_cons_of_mem _ hn.1, hn.2⟩
      rw [if_pos hlater, if_pos hany]
    · rw [if_neg hlater]
      by_cases hid : id = m.id
      · rw [if_pos hid, if_pos ⟨m, List.mem_cons_self, hid.symm⟩]
      · rw [if_neg hid, if_neg]
        rintro ⟨n, hn, hn'⟩
        rcases List.mem_cons.mp hn with rfl | hn
        · exact hid hn'.symm
        · exact hlater ⟨n, hn, hn'⟩

lemma order_foldl_assign (members : List Member) (t : TaxUnits) :
    (members.foldl (fun t m => t.assign m.id .secondary .dependent) t).order = t.order := by
  induction members generalizing t with
  | nil => rfl
  | cons m members ih => rw [List.foldl_cons, ih, order_assign]

lemma order_withSecondReturn (h : Household) (t : TaxUnits) :
    (withSecondReturn h t).order = t.order := by
  unfold withSecondReturn
  dsimp only
  split
  · rfl
  · rw [order_foldl_assign, order_assign]

/-- Returns on which the members stand in household order, each in the right place. -/
structure Placed (h : Household) (t : TaxUnits) : Prop where
  order : t.order = h.members.map (·.id)
  assignment? : ∀ m ∈ h.members, t.assignment? m.id = h.place? m

lemma leftOver_eq {h : Household} {t : TaxUnits}
    (hmain : ∀ m ∈ h.members,
      t.assignment? m.id = (h.mainRole? m).map fun role => ⟨.main, role⟩) :
    leftOver h t = h.members.filter fun m => (h.mainRole? m).isNone := by
  apply List.filter_congr
  intro m hm
  rw [isAssigned, hmain m hm]
  cases h.mainRole? m <;> rfl

/-- The last pass leaves every member in place. -/
lemma placed_withSecondReturn {h : Household} (hd : h.DistinctIds) {t : TaxUnits}
    (horder : t.order = h.members.map (·.id))
    (hmain : ∀ m ∈ h.members,
      t.assignment? m.id = (h.mainRole? m).map fun role => ⟨.main, role⟩) :
    Placed h (withSecondReturn h t) where
  order := (order_withSecondReturn h t).trans horder
  assignment? m hm := by
    unfold withSecondReturn Household.place?
    dsimp only
    rw [leftOver_eq hmain]
    cases hfiler : h.secondFiler? with
    | none =>
      unfold Household.secondFiler? at hfiler
      rw [hfiler]
      dsimp only
      rw [hmain m hm]
      cases h.mainRole? m <;> rfl
    | some filer =>
      unfold Household.secondFiler? at hfiler
      rw [hfiler]
      dsimp only
      obtain ⟨hfilerOn, hfilerLeft⟩ :=
        List.mem_filter.mp (List.mem_filter.mp (mem_of_oldest? hfiler)).1
      have hid : m.id = filer.id ↔ m = filer := ⟨hd.eq hm hfilerOn, congrArg Member.id⟩
      have hother : (∃ n ∈ (h.members.filter fun n => (h.mainRole? n).isNone).filter
          (fun n => n.id != filer.id), n.id = m.id) ↔ h.mainRole? m = none ∧ m ≠ filer := by
        constructor
        · rintro ⟨n, hn, hnm⟩
          obtain ⟨hn, hne⟩ := List.mem_filter.mp hn
          obtain ⟨hn, hleft⟩ := List.mem_filter.mp hn
          obtain rfl := hd.eq hn hm hnm
          refine ⟨Option.isNone_iff_eq_none.mp hleft, ?_⟩
          rintro rfl
          simp at hne
        · rintro ⟨hleft, hne⟩
          refine ⟨m, ?_, rfl⟩
          simp [hm, hleft, hid, hne]
      -- The filer is one of those left over, so nobody on the main return is assigned again.
      rw [foldl_assign_dependents, assignment?_assign, hmain m hm]
      simp only [hother, hid]
      cases hrole : h.mainRole? m with
      | none =>
        by_cases heq : m = filer
        · simp [heq]
        · simp [heq]
      | some role =>
        have hne : m ≠ filer := by
          rintro rfl
          rw [hrole] at hfilerLeft
          cases hfilerLeft
        simp [hne]

lemma placed_of_classify {h : Household} (hd : h.DistinctIds) {t : TaxUnits}
    (hclassify : classify h = .ok t) : Placed h t := by
  obtain ⟨t₀, hmain, ht⟩ := bind_eq_ok.mp hclassify
  obtain rfl := pure_eq_ok.mp ht
  exact placed_withSecondReturn hd (order_mainReturn hmain) fun m hm =>
    assignment?_mainReturn hd hmain hm

lemma exists_classify {h : Household}
    (hincome : ∀ m ∈ h.members, ∃ x, m.grossIncome .yearly [.all] [] = .ok x) :
    ∃ t, classify h = .ok t := by
  obtain ⟨t, hmain⟩ := exists_mainReturn hincome
  exact ⟨withSecondReturn h t, bind_eq_ok.mpr ⟨t, hmain, rfl⟩⟩

/-- Nobody is on two returns. -/
lemma unit_unique {t : TaxUnits} {id : MemberId} {unit unit' : TaxUnit}
    (h : id ∈ t.membersOf unit) (h' : id ∈ t.membersOf unit') : unit = unit' := by
  obtain ⟨a, ha, hunit⟩ := (Option.any_eq_true _ _).mp (List.mem_filter.mp h).2
  obtain ⟨a', ha', hunit'⟩ := (Option.any_eq_true _ _).mp (List.mem_filter.mp h').2
  rw [ha] at ha'
  cases ha'
  rw [← beq_iff_eq.mp hunit, ← beq_iff_eq.mp hunit']

namespace Placed

variable {h : Household} {t : TaxUnits}

lemma mem_membersOf (ht : Placed h t) {m : Member} (hm : m ∈ h.members) {unit : TaxUnit} :
    m.id ∈ t.membersOf unit ↔ ∃ role, h.place? m = some ⟨unit, role⟩ := by
  have hid : m.id ∈ h.members.map (·.id) := List.mem_map_of_mem hm
  unfold membersOf
  rw [List.mem_filter, ht.order, ht.assignment? m hm, Option.any_eq_true]
  constructor
  · rintro ⟨_, a, ha, hunit⟩
    obtain rfl := beq_iff_eq.mp hunit
    exact ⟨a.role, ha⟩
  · rintro ⟨role, ha⟩
    exact ⟨hid, _, ha, beq_self_eq_true unit⟩

lemma hasRole_iff (ht : Placed h t) {m : Member} (hm : m ∈ h.members) {role : TaxRole} :
    t.hasRole m.id role = true ↔ ∃ unit, h.place? m = some ⟨unit, role⟩ := by
  unfold hasRole
  rw [ht.assignment? m hm, Option.any_eq_true]
  constructor
  · rintro ⟨a, ha, hrole⟩
    obtain rfl := beq_iff_eq.mp hrole
    exact ⟨a.unit, ha⟩
  · rintro ⟨unit, ha⟩
    exact ⟨_, ha, beq_self_eq_true role⟩

lemma exists_member (ht : Placed h t) {unit : TaxUnit} {id : MemberId}
    (hid : id ∈ t.membersOf unit) : ∃ m ∈ h.members, m.id = id := by
  have hid := (List.mem_filter.mp hid).1
  rw [ht.order] at hid
  exact List.mem_map.mp hid

lemma filter_hasRole (ht : Placed h t) (unit : TaxUnit) (role : TaxRole) :
    (t.membersOf unit).filter (t.hasRole · role) =
      (h.members.filter fun m => h.place? m = some ⟨unit, role⟩).map (·.id) := by
  unfold membersOf
  rw [List.filter_filter, ht.order, List.filter_map]
  refine congrArg _ (List.filter_congr fun m hm => ?_)
  dsimp only [Function.comp]
  rw [hasRole, ht.assignment? m hm]
  cases h.place? m with
  | none => simp
  | some a =>
    obtain ⟨unit', role'⟩ := a
    rw [Bool.eq_iff_iff]
    simp [and_comm]

lemma mem_main (ht : Placed h t) {m : Member} (hm : m ∈ h.members) :
    m.id ∈ t.membersOf .main ↔ h.mainRole? m ≠ none := by
  rw [ht.mem_membersOf hm, Option.ne_none_iff_exists']
  exact exists_congr fun role => Household.place?_eq_main

lemma mem_secondary (ht : Placed h t) {m : Member} (hm : m ∈ h.members) :
    m.id ∈ t.membersOf .secondary ↔
      h.mainRole? m = none ∧ ∃ filer, h.secondFiler? = some filer := by
  rw [ht.mem_membersOf hm]
  simp only [Household.place?_eq_secondary]
  constructor
  · rintro ⟨_, hleft, filer, hfiler, _⟩
    exact ⟨hleft, filer, hfiler⟩
  · rintro ⟨hleft, filer, hfiler⟩
    exact ⟨_, hleft, filer, hfiler, rfl⟩

end Placed

end TaxUnits

end BenefitScreen
