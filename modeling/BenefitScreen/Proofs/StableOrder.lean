import BenefitScreen.Proofs.FirstCome

/-!
# A stable order

Programs that wait for nothing keep their places among each other and come first. An order that was
found is found again when the programs are listed in it.
-/

namespace BenefitScreen.RunOrder

/-- The programs in the order of some codes. -/
def arranged (programs : List Entry) (codes : List String) : List Entry :=
  codes.filterMap fun code => programs.find? fun e => e.1 == code

/-- The programs that refer to no listed one. -/
def independent (programs : List Entry) : List Entry :=
  programs.filter fun e => e.2.all (· ∉ programs.map (·.1))

section Stable

variable {α : Type} {programs : List Entry} {codes : List String}

lemma pairwise_idxOf [BEq α] [LawfulBEq α] {l : List α} (h : l.Nodup) :
    l.Pairwise fun a b => l.idxOf a < l.idxOf b := by
  apply List.pairwise_iff_getElem.mpr
  intro i j hi hj hij
  rwa [h.idxOf_getElem i hi, h.idxOf_getElem j hj]

/-- What a test picks comes first where nothing else comes before it. -/
lemma filter_isPrefix {p : α → Bool} {l : List α}
    (h : l.Pairwise fun a b => p b = true → p a = true) : l.filter p <+: l := by
  induction l with
  | nil => exact List.prefix_rfl
  | cons a l ih =>
    obtain ⟨ha, hl⟩ := List.pairwise_cons.mp h
    by_cases hpa : p a = true
    · rw [List.filter_cons_of_pos hpa]
      exact List.cons_prefix_cons.mpr ⟨rfl, ih hl⟩
    · rw [List.filter_cons_of_neg hpa,
        List.filter_eq_nil_iff.mpr fun b hb hpb => hpa (ha b hb hpb)]
      exact List.nil_prefix

variable (hnd : (programs.map (·.1)).Nodup)
include hnd

lemma arranged_perm (h : codes.Perm (programs.map (·.1))) :
    (arranged programs codes).Perm programs ∧ (arranged programs codes).map (·.1) = codes := by
  have hcodes : (arranged programs codes).map (·.1) = codes :=
    map_filterMap_find? (·.1) programs fun code hcode => h.mem_iff.mp hcode
  have hnodup : ((arranged programs codes).map (·.1)).Nodup := by
    rw [hcodes]
    exact h.nodup_iff.mpr hnd
  refine ⟨?_, hcodes⟩
  apply (List.perm_ext_iff_of_nodup hnodup.of_map hnd.of_map).mpr
  intro e
  constructor
  · intro he
    obtain ⟨_, _, hfind⟩ := List.mem_filterMap.mp he
    exact List.mem_of_find?_eq_some hfind
  · intro he
    have hcode : e.1 ∈ codes := h.mem_iff.mpr (List.mem_map_of_mem he)
    exact List.mem_filterMap.mpr ⟨e.1, hcode, find?_of_nodup_keys hnd he⟩

lemma references_of_perm {others : List Entry} (h : others.Perm programs) (code : String) :
    references others code = references programs code := by
  have hfind : (others.find? fun e => e.1 == code) = programs.find? fun e => e.1 == code := by
    cases hfound : programs.find? fun e => e.1 == code with
    | none =>
      rw [List.find?_eq_none] at hfound ⊢
      exact fun e he => hfound e (h.subset he)
    | some e =>
      have hcode : e.1 = code := by simpa using List.find?_some hfound
      have he : e ∈ others := h.mem_iff.mpr (List.mem_of_find?_eq_some hfound)
      rw [← hcode]
      exact find?_of_nodup_keys ((h.map _).nodup_iff.mpr hnd) he
  simp only [references, hfind, (h.map (·.1)).mem_iff]

/-- Programs that are listed in the order in which they run are ready as before, and those that are
ready together are listed as they run. -/
lemma FirstComeFirstServed.rearranged (h : FirstComeFirstServed programs codes) :
    FirstComeFirstServed (arranged programs codes) codes := by
  obtain ⟨hperm, hcodes⟩ := arranged_perm hnd h.perm
  refine ⟨by rw [hcodes], ?after, ?queued⟩
  case after =>
    intro before code after hsplit e he hcode r hr hlisted
    exact h.after before code after hsplit e (hperm.subset he) hcode r hr
      ((hperm.map (·.1)).subset hlisted)
  case queued =>
    have hready : ∀ code, readyAfter (arranged programs codes) codes code =
        readyAfter programs codes code := by
      intro code
      rw [readyAfter, readyAfter, references_of_perm hnd hperm]
    apply (h.queued.and (pairwise_idxOf (h.perm.nodup_iff.mpr hnd))).imp
    intro a b hab
    obtain ⟨hab, hlisted⟩ := hab
    unfold ComesBefore at hab ⊢
    rw [hready, hready, hcodes]
    omega

lemma map_independent : (independent programs).map (·.1) =
    (programs.map (·.1)).filter fun code => (references programs code).isEmpty := by
  rw [List.filter_map, independent]
  congr 1
  apply List.filter_congr
  intro e he
  rw [Function.comp, references_of_mem hnd he, Bool.eq_iff_iff, List.isEmpty_iff,
    List.filter_eq_nil_iff, List.all_eq_true]
  simp

lemma FirstComeFirstServed.independent_isPrefix (h : FirstComeFirstServed programs codes) :
    (independent programs).map (·.1) <+: codes := by
  have hzero : ∀ code, (references programs code).isEmpty = true ↔
      readyAfter programs codes code = 0 := by
    intro code
    rw [readyAfter_eq_zero, List.isEmpty_iff]
  have hsame : (independent programs).map (·.1) =
      codes.filter fun code => (references programs code).isEmpty := by
    rw [map_independent hnd]
    -- Both lists hold the same programs in the order of the list: of those that are ready at once,
    -- none comes before another that is listed before it.
    apply List.Perm.eq_of_pairwise ?_ ((pairwise_idxOf hnd).filter _) ?_ (h.perm.symm.filter _)
    · intro a b _ _ hab hba
      omega
    · apply (h.queued.filter _).imp_of_mem
      intro a b ha hb hab
      have ha := (hzero a).mp (List.mem_filter.mp ha).2
      have hb := (hzero b).mp (List.mem_filter.mp hb).2
      unfold ComesBefore at hab
      omega
  rw [hsame]
  apply filter_isPrefix
  apply h.queued.imp
  intro a b hab hb
  rw [hzero] at hb ⊢
  unfold ComesBefore at hab
  omega

end Stable

/-- Programs that refer to no listed one come first, in the order of the list, and running the
programs in the order that was found finds the same order again. -/
theorem order_stable {programs : List Entry} (hnd : (programs.map (·.1)).Nodup)
    {codes : List String} (h : order programs = .ok codes) :
    (independent programs).map (·.1) <+: codes ∧
      (arranged programs codes).Perm programs ∧ (arranged programs codes).map (·.1) = codes ∧
      order (arranged programs codes) = .ok codes := by
  have hserved := (order_eq_ok_iff hnd).mp h
  obtain ⟨hperm, hcodes⟩ := arranged_perm hnd hserved.perm
  have hnodup : ((arranged programs codes).map (·.1)).Nodup := (hperm.map _).nodup_iff.mpr hnd
  exact ⟨hserved.independent_isPrefix hnd, hperm, hcodes,
    (order_eq_ok_iff hnodup).mpr (hserved.rearranged hnd)⟩

/-- Programs that are ready together though listed far apart, and one that refers to none listed. -/
def crossedReferences : List Entry := [
  ("il_family_care", ["medicaid", "snap", "medicaid"]),
  ("il_moms_and_babies", ["il_family_care"]),
  ("wic", ["aca"]),
  ("co_weatherization_assistance", ["snap"]),
  ("snap", []),
  ("medicaid", [])]

theorem crossedReferences_stable :
    (crossedReferences.map (·.1)).Nodup ∧
      order crossedReferences = .ok ["wic", "snap", "medicaid", "co_weatherization_assistance",
        "il_family_care", "il_moms_and_babies"] ∧
      (independent crossedReferences).map (·.1) = ["wic", "snap", "medicaid"] ∧
      order (arranged crossedReferences ["wic", "snap", "medicaid", "co_weatherization_assistance",
        "il_family_care", "il_moms_and_babies"]) = .ok ["wic", "snap", "medicaid",
          "co_weatherization_assistance", "il_family_care", "il_moms_and_babies"] := by
  have hnd : (crossedReferences.map (·.1)).Nodup := by decide
  have horder : order crossedReferences = .ok ["wic", "snap", "medicaid",
      "co_weatherization_assistance", "il_family_care", "il_moms_and_babies"] := by rfl
  exact ⟨hnd, horder, by decide, (order_stable hnd horder).2.2.2⟩

end BenefitScreen.RunOrder
