import BenefitScreen.Proofs.DocumentBuild
import BenefitScreen.Proofs.TaxReturns

/-!
A document places every member of a household once: as a person, in the groups of all members, in
one marital unit and in at most one tax unit.
-/

namespace BenefitScreen

/-- Two identifiers, the smaller one first. -/
def MemberId.inOrder (a b : MemberId) : MemberId × MemberId :=
  if a.number ≤ b.number then (a, b) else (b, a)

lemma MemberId.eq_or_eq_inOrder {a b id : MemberId} :
    id = (inOrder a b).1 ∨ id = (inOrder a b).2 ↔ id = a ∨ id = b := by
  unfold inOrder
  split
  · exact Iff.rfl
  · exact or_comm

namespace Simulation.Document

open Fallible

def membersAt? (d : Document) (kind : GroupKind) (key : String) : Option (List String) :=
  ((d.groups kind).get? key).map fun group => group.members

section Shape

variable {d d' : Document}

lemma membersAt?_eq_shape (d : Document) (kind : GroupKind) (key : String) :
    d.membersAt? kind key = (d.shape.members kind).get? key := by
  unfold membersAt? shape
  rw [Table.get?_map]

lemma membersAt?_of_shape (hshape : d.shape = d'.shape) (kind : GroupKind) (key : String) :
    d.membersAt? kind key = d'.membersAt? kind key := by
  rw [membersAt?_eq_shape, membersAt?_eq_shape, hshape]

lemma eq_empty_of_keys (hpeople : d.people.keys = [])
    (hgroups : ∀ kind, (d.groups kind).keys = []) : d = .empty := by
  obtain ⟨people, taxUnits, families, households, spmUnits, maritalUnits⟩ := d
  have h₁ := Table.eq_empty_of_keys hpeople
  have h₂ := Table.eq_empty_of_keys (hgroups .taxUnits)
  have h₃ := Table.eq_empty_of_keys (hgroups .families)
  have h₄ := Table.eq_empty_of_keys (hgroups .households)
  have h₅ := Table.eq_empty_of_keys (hgroups .spmUnits)
  have h₆ := Table.eq_empty_of_keys (hgroups .maritalUnits)
  dsimp only [groups] at h₁ h₂ h₃ h₄ h₅ h₆
  rw [h₁, h₂, h₃, h₄, h₅, h₆]
  rfl

end Shape

section MaritalUnits

variable {h : Household}

lemma couple?_eq_some {c : MemberId × MemberId} :
    couple? h = some c ↔ ∃ head spouse, h.head? = some head ∧ h.spouse? = some spouse ∧
      c = MemberId.inOrder head.id spouse.id := by
  unfold couple? MemberId.inOrder
  cases h.head? with
  | none => simp
  | some head =>
    cases h.spouse? with
    | none => simp
    | some spouse =>
      by_cases hle : head.id.number ≤ spouse.id.number
      · simp [hle, eq_comm]
      · simp [hle, eq_comm]

def coupleKey (c : MemberId × MemberId) : String := c.1.text ++ "-" ++ c.2.text

lemma coupleKey_ne_text (c : MemberId × MemberId) (id : MemberId) : coupleKey c ≠ id.text := by
  intro heq
  refine id.dash_not_mem_text (heq ▸ ?_)
  simp [coupleKey]

lemma mem_singles {m : Member} : m ∈ singles h ↔
    m ∈ h.members ∧ ∀ c, couple? h = some c → m.id ≠ c.1 ∧ m.id ≠ c.2 := by
  unfold singles
  rw [List.mem_filter]
  refine and_congr_right fun _ => ?_
  cases couple? h with
  | none => simp
  | some c => simp

lemma nodup_keys_maritalEntries (hd : h.DistinctIds) : ((maritalEntries h).map (·.1)).Nodup := by
  have hsingles : ((singles h).map fun m => m.id.text).Nodup := by
    have hids : ((singles h).map (·.id)).Nodup := hd.sublist (List.filter_sublist.map _)
    have htexts := hids.map MemberId.text_injective
    rwa [List.map_map] at htexts
  unfold maritalEntries
  rw [List.map_append, List.map_map, List.map_map]
  -- Only the couple's key has a dash in it.
  refine List.Nodup.append ?_ hsingles ?_
  · cases couple? h <;> simp
  · intro key hcouple hsingle
    obtain ⟨c, _, rfl⟩ := List.mem_map.mp hcouple
    obtain ⟨m, _, heq⟩ := List.mem_map.mp hsingle
    exact coupleKey_ne_text c m.id heq.symm

/-- The marital units are that of the couple and those of everybody else. -/
lemma membersAt?_maritalUnits (hd : h.DistinctIds) (t : TaxUnits) {key : String}
    {members : List String} : (skeleton h t).membersAt? .maritalUnits key = some members ↔
      (∃ c, couple? h = some c ∧ key = coupleKey c ∧ members = [c.1.text, c.2.text]) ∨
      ∃ m ∈ singles h, key = m.id.text ∧ members = [m.id.text] := by
  change ((maritalUnitsOf h).get? key).map (fun group => group.members) = some members ↔ _
  rw [maritalUnitsOf_eq, Option.map_eq_some_iff]
  simp only [Table.get?_ofList_eq_some (nodup_keys_maritalEntries hd)]
  unfold maritalEntries
  constructor
  · rintro ⟨group, hmem, rfl⟩
    rcases List.mem_append.mp hmem with hmem | hmem
    · obtain ⟨c, hc, heq⟩ := List.mem_map.mp hmem
      cases heq
      exact .inl ⟨c, Option.mem_toList.mp hc, rfl, rfl⟩
    · obtain ⟨m, hm, heq⟩ := List.mem_map.mp hmem
      cases heq
      exact .inr ⟨m, hm, rfl, rfl⟩
  · rintro (⟨c, hc, rfl, rfl⟩ | ⟨m, hm, rfl, rfl⟩)
    · refine ⟨.of [c.1.text, c.2.text], List.mem_append_left _ ?_, rfl⟩
      exact List.mem_map.mpr ⟨c, Option.mem_toList.mpr hc, rfl⟩
    · refine ⟨.of [m.id.text], List.mem_append_right _ ?_, rfl⟩
      exact List.mem_map_of_mem hm

end MaritalUnits

section TaxUnits

lemma nodup_keys_taxUnits (t : TaxUnits) (group : TaxUnit → Group) :
    ((t.units.map fun u => (u.key, group u)).map (·.1)).Nodup := by
  have hall : ([TaxUnit.main, .secondary].map TaxUnit.key).Nodup := by decide
  have hunits : (t.units.map TaxUnit.key).Nodup := hall.sublist (List.filter_sublist.map _)
  rw [List.map_map]
  exact hunits

lemma taxUnits_skeleton (h : Household) (t : TaxUnits) :
    (skeleton h t).taxUnits.keys.Perm (t.units.map TaxUnit.key) := by
  refine (Table.keys_ofList_perm (nodup_keys_taxUnits t _)).trans (List.Perm.of_eq ?_)
  rw [List.map_map]
  rfl

lemma membersAt?_taxUnits (h : Household) (t : TaxUnits) {key : String} {members : List String} :
    (skeleton h t).membersAt? .taxUnits key = some members ↔
      ∃ unit ∈ t.units, key = unit.key ∧ members = (t.membersOf unit).map MemberId.text := by
  have hkeys := nodup_keys_taxUnits t fun u => .of ((t.membersOf u).map MemberId.text)
  change (Table.get? (.ofList _) key).map (fun group : Group => group.members) = some members ↔ _
  rw [Option.map_eq_some_iff]
  simp only [Table.get?_ofList_eq_some hkeys]
  constructor
  · rintro ⟨group, hmem, rfl⟩
    obtain ⟨unit, hunit, heq⟩ := List.mem_map.mp hmem
    cases heq
    exact ⟨unit, hunit, rfl, rfl⟩
  · rintro ⟨unit, hunit, rfl, rfl⟩
    exact ⟨_, List.mem_map_of_mem hunit, rfl⟩

lemma text_mem_membersOf {t : TaxUnits} {id : MemberId} {unit : TaxUnit} :
    id.text ∈ (t.membersOf unit).map MemberId.text ↔ id ∈ t.membersOf unit :=
  List.mem_map_of_injective MemberId.text_injective

end TaxUnits

/-- The groups that every member is in, with their keys. -/
def sharedGroups : List (GroupKind × String) :=
  [(.families, familyKey), (.households, householdKey), (.spmUnits, spmUnitKey)]

/-- A document with every member of a household in place. -/
structure Places (h : Household) (t : TaxUnits) (d : Document) : Prop where
  people : d.people.keys.Perm (h.members.map fun m => m.id.text)
  /-- The groups of all members are there once, in household order. -/
  shared : h.members ≠ [] → ∀ g ∈ sharedGroups, (d.groups g.1).keys = [g.2] ∧
    d.membersAt? g.1 g.2 = some (h.members.map fun m => m.id.text)
  nobody : h.members = [] → d = .empty
  marital_once : ∀ m ∈ h.members, ∃! key, ∃ members,
    d.membersAt? .maritalUnits key = some members ∧ m.id.text ∈ members
  tax_once : ∀ m ∈ h.members, ∀ key key' members members',
    d.membersAt? .taxUnits key = some members → d.membersAt? .taxUnits key' = some members' →
    m.id.text ∈ members → m.id.text ∈ members' → key = key'
  /-- The only unit of two is that of the first head and the first partner. -/
  couple : ∀ key members,
    d.membersAt? .maritalUnits key = some members ∧ members.length = 2 ↔
      ∃ head spouse, h.head? = some head ∧ h.spouse? = some spouse ∧
        let (a, b) := MemberId.inOrder head.id spouse.id
        key = a.text ++ "-" ++ b.text ∧ members = [a.text, b.text]
  /-- The couple files the main return. -/
  filers : ∀ head spouse, h.head? = some head → h.spouse? = some spouse →
    (t.membersOf .main).filter (t.hasRole · .head) = [head.id] ∧
      (t.membersOf .main).filter (t.hasRole · .spouse) = [spouse.id]
  /-- Everybody else has a unit alone. -/
  single : ∀ m ∈ h.members,
    (∀ head spouse, h.head? = some head → h.spouse? = some spouse → m ≠ head ∧ m ≠ spouse) →
    d.membersAt? .maritalUnits m.id.text = some [m.id.text]
  head : ∀ head, h.head? = some head → ∃ members,
    d.membersAt? .taxUnits TaxUnit.main.key = some members ∧ head.id.text ∈ members

section Skeleton

variable {h : Household} {t : TaxUnits}

lemma people_skeleton (hd : h.DistinctIds) :
    (skeleton h t).people.keys.Perm (h.members.map fun m => m.id.text) := by
  have hentries : (h.members.map fun m => (m.id.text, (.empty : Fields))).map (·.1) =
      (h.members.map (·.id)).map MemberId.text := by
    rw [List.map_map, List.map_map]
    rfl
  have hnodup : ((h.members.map fun m => (m.id.text, (.empty : Fields))).map (·.1)).Nodup := by
    rw [hentries]
    exact List.Nodup.map MemberId.text_injective hd
  refine (Table.keys_ofList_perm hnodup).trans (List.Perm.of_eq ?_)
  rw [List.map_map]
  rfl

lemma shared_skeleton (hne : h.members ≠ []) {g : GroupKind × String} (hg : g ∈ sharedGroups) :
    ((skeleton h t).groups g.1).keys = [g.2] ∧
      (skeleton h t).membersAt? g.1 g.2 = some (h.members.map fun m => m.id.text) := by
  have hone : ∀ key, (everyone h key).keys = [key] ∧
      ((everyone h key).get? key).map (fun group => group.members) =
        some (h.members.map fun m => m.id.text) := by
    intro key
    rw [everyone_eq, if_neg hne]
    refine ⟨rfl, ?_⟩
    rw [Table.get?_ofList_of_mem (by simp) (List.mem_singleton_self _)]
    rfl
  simp only [sharedGroups, List.mem_cons, List.not_mem_nil, or_false] at hg
  rcases hg with rfl | rfl | rfl
  · exact hone familyKey
  · exact hone householdKey
  · exact hone spmUnitKey

/-- Without members there is nothing to place. -/
lemma skeleton_eq_empty (ht : t.order = h.members.map (·.id)) (hnil : h.members = []) :
    skeleton h t = .empty := by
  have hunits : ∀ unit, t.membersOf unit = [] := by
    intro unit
    unfold TaxUnits.membersOf
    rw [ht, hnil]
    rfl
  unfold skeleton
  simp only [TaxUnits.units, hunits, maritalUnitsOf_eq, everyone_eq, maritalEntries, singles,
    couple?, Household.head?, hnil]
  rfl

/-- The member of a couple is in its unit, and everybody else alone. -/
lemma marital_once (hd : h.DistinctIds) {m : Member} (hm : m ∈ h.members) :
    ∃! key, ∃ members, (skeleton h t).membersAt? .maritalUnits key = some members ∧
      m.id.text ∈ members := by
  by_cases hsingle : m ∈ singles h
  · refine ⟨m.id.text, ⟨[m.id.text], ?_, List.mem_singleton_self _⟩, ?_⟩
    · exact (membersAt?_maritalUnits hd t).mpr (.inr ⟨m, hsingle, rfl, rfl⟩)
    · rintro key ⟨members, hkey, hmem⟩
      rcases (membersAt?_maritalUnits hd t).mp hkey with ⟨c, hc, rfl, rfl⟩ | ⟨n, _, rfl, rfl⟩
      · obtain ⟨hne₁, hne₂⟩ := (mem_singles.mp hsingle).2 c hc
        simp [MemberId.text_injective.eq_iff, hne₁, hne₂] at hmem
      · exact (List.mem_singleton.mp hmem).symm
  · obtain ⟨c, hc, hpaired⟩ : ∃ c, couple? h = some c ∧ (m.id = c.1 ∨ m.id = c.2) := by
      by_contra hno
      refine hsingle (mem_singles.mpr ⟨hm, fun c hc => ?_⟩)
      exact not_or.mp fun hpaired => hno ⟨c, hc, hpaired⟩
    refine ⟨coupleKey c, ⟨[c.1.text, c.2.text], ?_, ?_⟩, ?_⟩
    · exact (membersAt?_maritalUnits hd t).mpr (.inl ⟨c, hc, rfl, rfl⟩)
    · simpa [MemberId.text_injective.eq_iff] using hpaired
    · rintro key ⟨members, hkey, hmem⟩
      rcases (membersAt?_maritalUnits hd t).mp hkey with ⟨c', hc', rfl, rfl⟩ | ⟨n, hn, rfl, rfl⟩
      · rw [hc] at hc'
        rw [Option.some.inj hc']
      · have hid : m.id = n.id := MemberId.text_injective (List.mem_singleton.mp hmem)
        obtain ⟨hne₁, hne₂⟩ := (mem_singles.mp hn).2 c hc
        rcases hpaired with hpaired | hpaired
        · exact absurd (hid ▸ hpaired) hne₁
        · exact absurd (hid ▸ hpaired) hne₂

lemma tax_once {m : Member} {key key' : String} {members members' : List String}
    (hkey : (skeleton h t).membersAt? .taxUnits key = some members)
    (hkey' : (skeleton h t).membersAt? .taxUnits key' = some members')
    (hm : m.id.text ∈ members) (hm' : m.id.text ∈ members') : key = key' := by
  obtain ⟨unit, _, rfl, rfl⟩ := (membersAt?_taxUnits h t).mp hkey
  obtain ⟨unit', _, rfl, rfl⟩ := (membersAt?_taxUnits h t).mp hkey'
  rw [TaxUnits.unit_unique (text_mem_membersOf.mp hm) (text_mem_membersOf.mp hm')]

lemma couple_skeleton (hd : h.DistinctIds) {key : String} {members : List String} :
    (skeleton h t).membersAt? .maritalUnits key = some members ∧ members.length = 2 ↔
      ∃ head spouse, h.head? = some head ∧ h.spouse? = some spouse ∧
        let (a, b) := MemberId.inOrder head.id spouse.id
        key = a.text ++ "-" ++ b.text ∧ members = [a.text, b.text] := by
  rw [membersAt?_maritalUnits hd]
  constructor
  · rintro ⟨⟨c, hc, rfl, rfl⟩ | ⟨m, _, _, rfl⟩, hlength⟩
    · obtain ⟨head, spouse, hhead, hspouse, rfl⟩ := couple?_eq_some.mp hc
      exact ⟨head, spouse, hhead, hspouse, rfl, rfl⟩
    · cases hlength
  · rintro ⟨head, spouse, hhead, hspouse, rfl, rfl⟩
    refine ⟨.inl ⟨_, couple?_eq_some.mpr ⟨head, spouse, hhead, hspouse, rfl⟩, rfl, rfl⟩, rfl⟩

lemma single_skeleton (hd : h.DistinctIds) {m : Member} (hm : m ∈ h.members)
    (halone : ∀ head spouse, h.head? = some head → h.spouse? = some spouse →
      m ≠ head ∧ m ≠ spouse) :
    (skeleton h t).membersAt? .maritalUnits m.id.text = some [m.id.text] := by
  refine (membersAt?_maritalUnits hd t).mpr (.inr ⟨m, mem_singles.mpr ⟨hm, ?_⟩, rfl, rfl⟩)
  intro c hc
  obtain ⟨head, spouse, hhead, hspouse, rfl⟩ := couple?_eq_some.mp hc
  obtain ⟨hne, hne'⟩ := halone head spouse hhead hspouse
  apply not_or.mp
  intro hpaired
  rcases MemberId.eq_or_eq_inOrder.mp hpaired with hid | hid
  · exact hne (hd.eq hm (Household.mem_of_head? hhead) hid)
  · exact hne' (hd.eq hm (Household.mem_of_spouse? hspouse) hid)

lemma head_skeleton (ht : TaxUnits.Placed h t) {head : Member} (hhead : h.head? = some head) :
    ∃ members, (skeleton h t).membersAt? .taxUnits TaxUnit.main.key = some members ∧
      head.id.text ∈ members := by
  have hmain : head.id ∈ t.membersOf .main := by
    rw [ht.mem_main (Household.mem_of_head? hhead), Household.mainRole?_eq_head.mpr hhead]
    exact Option.some_ne_none _
  have hunit : TaxUnit.main ∈ t.units := by
    refine List.mem_filter.mpr ⟨List.mem_cons_self, ?_⟩
    simpa using List.ne_nil_of_mem hmain
  refine ⟨_, ?_, text_mem_membersOf.mpr hmain⟩
  exact (membersAt?_taxUnits h t).mpr ⟨.main, hunit, rfl, rfl⟩

end Skeleton

/-- Whatever has the shape of the skeleton has everybody in place. -/
lemma places_of_shape {h : Household} (hd : h.DistinctIds) {t : TaxUnits}
    (ht : TaxUnits.Placed h t) {d : Document} (hshape : d.shape = (skeleton h t).shape) :
    Places h t d where
  people := people_keys_of_shape hshape ▸ people_skeleton hd
  shared := by
    intro hne g hg
    rw [groups_keys_of_shape hshape, membersAt?_of_shape hshape]
    exact shared_skeleton hne hg
  nobody := by
    intro hnil
    have hempty := skeleton_eq_empty ht.order hnil
    refine eq_empty_of_keys ?_ fun kind => ?_
    · rw [people_keys_of_shape hshape, hempty]
      rfl
    · rw [groups_keys_of_shape hshape, hempty]
      cases kind <;> rfl
  marital_once := by
    intro m hm
    simp only [membersAt?_of_shape hshape]
    exact marital_once hd hm
  tax_once := by
    intro m _ key key' members members' hkey hkey'
    rw [membersAt?_of_shape hshape] at hkey hkey'
    exact tax_once hkey hkey'
  couple := by
    intro key members
    rw [membersAt?_of_shape hshape]
    exact couple_skeleton hd
  filers := by
    intro head spouse hhead hspouse
    have hne : h.head? ≠ none := by simp [hhead]
    rw [ht.main_head hd, ht.main_spouse hd hne, hhead, hspouse]
    exact ⟨rfl, rfl⟩
  single := by
    intro m hm halone
    rw [membersAt?_of_shape hshape]
    exact single_skeleton hd hm halone
  head := by
    intro head hhead
    rw [membersAt?_of_shape hshape]
    exact head_skeleton ht hhead

/-- The document for a household with distinct members has everybody in place, whatever is asked
about them and unless an amount outgrows its type on the way. -/
theorem build_places (h : Household) (hd : h.DistinctIds) (specs : List Variables)
    (period : String) (hfit : ∀ o, build h specs period ≠ .error (.arithmetic o)) :
    ∃ d t, build h specs period = .ok d ∧ TaxUnits.classify h = .ok t ∧ Places h t d := by
  cases hbuild : build h specs period with
  | error e =>
    obtain ⟨o, rfl⟩ := error_of_build hd hbuild
    exact absurd hbuild (hfit o)
  | ok d =>
    obtain ⟨t, hclassify, hshape⟩ := shape_build hbuild
    have ht := TaxUnits.placed_of_classify hd hclassify
    exact ⟨d, t, rfl, hclassify, places_of_shape hd ht hshape⟩

def foodAndHealth : Variables where
  inputs := [.age, .isTaxUnitHead, .employmentIncome, .stateCode, .snapAssets, .housingCost]
  outputs := [.medicaid, .snap, .acaPtc]

/-- The shared flat in a document about food and health. -/
theorem sharedFlat_places :
    ∃ d t, build TaxUnits.sharedFlat [foodAndHealth] "2025" = .ok d ∧
      TaxUnits.classify TaxUnits.sharedFlat = .ok t ∧ Places TaxUnits.sharedFlat t d ∧
      d.membersAt? .maritalUnits "1-2" = some ["1", "2"] ∧
      d.membersAt? .taxUnits "secondary_tax_unit" = some ["4", "5", "6"] := by
  have hscreen : (build TaxUnits.sharedFlat [foodAndHealth] "2025").toOption.any
      (fun d => d.membersAt? .maritalUnits "1-2" = some ["1", "2"] ∧
        d.membersAt? .taxUnits "secondary_tax_unit" = some ["4", "5", "6"]) = true := by
    decide +kernel
  obtain ⟨d, hbuild, hd⟩ := exists_ok_of_any hscreen
  have hfit : ∀ o, build TaxUnits.sharedFlat [foodAndHealth] "2025" ≠
      .error (.arithmetic o) := by
    intro o
    rw [hbuild]
    exact fun h => by cases h
  obtain ⟨d', t, hbuild', hclassify, hplaces⟩ :=
    build_places TaxUnits.sharedFlat (by decide) [foodAndHealth] "2025" hfit
  obtain rfl : d = d' := Except.ok.inj (hbuild.symm.trans hbuild')
  exact ⟨d, t, hbuild, hclassify, hplaces, of_decide_eq_true hd⟩

end Simulation.Document

end BenefitScreen
