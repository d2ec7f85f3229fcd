import BenefitScreen.Proofs.Fallible
import Mathlib.Data.List.Perm.Basic

/-!
# Lists that agree but for the order

The items of one list may come in another order, each replaced by a related item. Counts, tests and
selections of such lists agree where they agree on related items, and so does the search for an item
of which there is no second one.
-/

namespace BenefitScreen

/-- The items of `ys` are related one by one to those of `xs` in some order. -/
def Relisted {α β : Type} (R : α → β → Prop) (xs : List α) (ys : List β) : Prop :=
  ∃ zs, xs.Perm zs ∧ List.Forall₂ R zs ys

namespace Relisted

variable {α β γ δ : Type} {R S : α → β → Prop} {xs : List α} {ys : List β} {p : α → Bool}
  {q : β → Bool}

lemma of_perm {R : α → α → Prop} (hrefl : ∀ a, R a a) {ys : List α} (h : xs.Perm ys) :
    Relisted R xs ys :=
  ⟨ys, h, List.forall₂_same.mpr fun a _ => hrefl a⟩

lemma symm (h : Relisted R xs ys) : Relisted (fun y x => R x y) ys xs := by
  obtain ⟨zs, hperm, hall⟩ := h
  obtain ⟨ws, hws, hperm'⟩ := List.perm_comp_forall₂ hperm hall
  exact ⟨ws, hperm'.symm, hws.flip⟩

lemma exists_left (h : Relisted R xs ys) {y : β} (hy : y ∈ ys) : ∃ x ∈ xs, R x y := by
  obtain ⟨zs, hperm, hall⟩ := h
  obtain ⟨x, hx, hR⟩ := Fallible.exists_of_forall₂_mem hall hy
  exact ⟨x, hperm.mem_iff.mpr hx, hR⟩

lemma exists_right (h : Relisted R xs ys) {x : α} (hx : x ∈ xs) : ∃ y ∈ ys, R x y :=
  h.symm.exists_left hx

lemma imp (h : Relisted R xs ys) (himp : ∀ x ∈ xs, ∀ y ∈ ys, R x y → S x y) :
    Relisted S xs ys := by
  obtain ⟨zs, hperm, hall⟩ := h
  have hleft : List.Forall₂ (fun x y => x ∈ xs ∧ R x y) zs ys :=
    (List.forall₂_and_left zs ys).mpr ⟨fun _ => hperm.mem_iff.mpr, hall⟩
  have hboth : List.Forall₂ (fun y x => y ∈ ys ∧ x ∈ xs ∧ R x y) ys zs :=
    (List.forall₂_and_left ys zs).mpr ⟨fun _ => id, hleft.flip⟩
  exact ⟨zs, hperm, hboth.flip.imp fun x y hxy => himp x hxy.2.1 y hxy.1 hxy.2.2⟩

lemma trans {T : β → γ → Prop} {zs : List γ} (h : Relisted R xs ys) (h' : Relisted T ys zs) :
    Relisted (fun x z => ∃ y, R x y ∧ T y z) xs zs := by
  obtain ⟨us, hus, hR⟩ := h.symm
  obtain ⟨vs, hvs, hT⟩ := h'
  obtain ⟨ws, hws, hperm⟩ := List.perm_comp_forall₂ (hvs.symm.trans hus) hR
  refine ⟨ws, hperm.symm, ?_⟩
  clear hperm hus hvs hR
  induction hws generalizing zs with
  | nil =>
    cases hT
    exact .nil
  | cons hxy _ ih =>
    cases hT with
    | cons hyz hT => exact .cons ⟨_, hxy, hyz⟩ (ih hT)

lemma map {T : γ → δ → Prop} (h : Relisted R xs ys) {f : α → γ} {g : β → δ}
    (hfg : ∀ x y, R x y → T (f x) (g y)) : Relisted T (xs.map f) (ys.map g) := by
  obtain ⟨zs, hperm, hall⟩ := h
  exact ⟨zs.map f, hperm.map f, List.rel_map (fun x y hxy => hfg x y hxy) hall⟩

lemma length_eq (h : Relisted R xs ys) : xs.length = ys.length := by
  obtain ⟨zs, hperm, hall⟩ := h
  exact hperm.length_eq.trans hall.length_eq

lemma perm_filterMap (h : Relisted R xs ys) {f : α → Option γ} {g : β → Option γ}
    (hfg : ∀ x y, R x y → f x = g y) : (xs.filterMap f).Perm (ys.filterMap g) := by
  obtain ⟨zs, hperm, hall⟩ := h
  refine (hperm.filterMap f).trans (.of_eq ?_)
  clear hperm
  induction hall with
  | nil => rfl
  | cons hxy _ ih => rw [List.filterMap_cons, List.filterMap_cons, hfg _ _ hxy, ih]

lemma perm_map (h : Relisted R xs ys) {f : α → γ} {g : β → γ} (hfg : ∀ x y, R x y → f x = g y) :
    (xs.map f).Perm (ys.map g) := by
  rw [← List.filterMap_eq_map, ← List.filterMap_eq_map]
  exact h.perm_filterMap fun x y hxy => congrArg some (hfg x y hxy)

section Tests

variable (h : Relisted R xs ys) (hpq : ∀ x y, R x y → p x = q y)
include h hpq

lemma filter : Relisted R (xs.filter p) (ys.filter q) := by
  obtain ⟨zs, hperm, hall⟩ := h
  refine ⟨zs.filter p, hperm.filter p, List.rel_filter (fun x y hxy => ?_) hall⟩
  exact iff_of_eq (congrArg (· = true) (hpq x y hxy))

lemma countP_eq : xs.countP p = ys.countP q := by
  rw [List.countP_eq_length_filter, List.countP_eq_length_filter, (h.filter hpq).length_eq]

lemma any_eq : xs.any p = ys.any q := by
  rw [Bool.eq_iff_iff, List.any_eq_true, List.any_eq_true, ← List.countP_pos_iff,
    ← List.countP_pos_iff, h.countP_eq hpq]

/-- Where a test picks one item at most, the first that it picks is that item in any order. -/
lemma find? (hone : xs.countP p ≤ 1) : Option.Rel R (xs.find? p) (ys.find? q) := by
  obtain ⟨zs, hperm, hall⟩ := h.filter hpq
  rw [List.countP_eq_length_filter] at hone
  rw [← List.head?_filter, ← List.head?_filter]
  generalize xs.filter p = picked at hone hperm ⊢
  generalize ys.filter q = picked' at hall ⊢
  obtain rfl : zs = picked := by
    match picked, hone with
    | [], _ => exact List.nil_perm.mp hperm
    | [x], _ => exact List.singleton_perm.mp hperm ▸ rfl
  cases hall with
  | nil => exact .none
  | cons hxy _ => exact .some hxy

end Tests

end Relisted

end BenefitScreen
