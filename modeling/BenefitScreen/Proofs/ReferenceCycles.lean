import BenefitScreen.Proofs.RunOrder
import Mathlib.Data.Fintype.EquivFin
import Mathlib.Logic.Relation

/-!
When an order is found: exactly where no listed program refers to itself, directly or through
others. The run and the search for a cycle are bounded in their length; here both are shown to end
by themselves.
-/

namespace BenefitScreen.RunOrder

open Relation

/-- A program refers to another listed one, or to itself. -/
def Refers (programs : List Entry) (code other : String) : Prop :=
  other ∈ programs.map (·.1) ∧ ∃ e ∈ programs, e.1 = code ∧ other ∈ e.2

def Acyclic (programs : List Entry) : Prop := ∀ code, ¬TransGen (Refers programs) code code

/-- States that a run passes through. -/
def Reached (programs : List Entry) (s : State) : Prop :=
  ReflTransGen (fun s t => step? programs s = some t) (start programs) s

/-- Each reference that the next step serves is one that its program still waits for. -/
def ServesWaiting (programs : List Entry) (s : State) : Prop :=
  ∀ i rest, s.ready = i :: rest → ∀ before d after, dependents programs i = before ++ d :: after →
    0 < (before.foldl release { s with ready := rest, finished := i :: s.finished }).waiting d

/-- What the search for a cycle finds along a path, without a bound on its length. -/
inductive SearchEnds (programs : List Entry) (waiting : Nat → Nat) :
    (path found : List Nat) → Prop where
  | stuck {path : List Nat}
    (hnext : (path.head?.bind fun i => (targets programs i).find? fun j => 0 < waiting j) = none) :
    SearchEnds programs waiting path path.reverse
  | closed {path : List Nat} {j : Nat}
    (hnext : (path.head?.bind fun i => (targets programs i).find? fun j => 0 < waiting j) = some j)
    (hj : j ∈ path) :
    SearchEnds programs waiting path ((path.takeWhile (· != j) ++ [j]).reverse ++ [j])
  | further {path found : List Nat} {j : Nat}
    (hnext : (path.head?.bind fun i => (targets programs i).find? fun j => 0 < waiting j) = some j)
    (hj : j ∉ path) (hrest : SearchEnds programs waiting (j :: path) found) :
    SearchEnds programs waiting path found

/-- Both loops end by themselves and not at their bounds. -/
structure Terminates (programs : List Entry) : Prop where
  run : Reached programs (final programs)
  stops : step? programs (final programs) = none
  search : ∀ i < programs.length,
    SearchEnds programs (final programs).waiting [i]
      (walk programs (final programs).waiting programs.length [i])

lemma step?_eq_none {programs : List Entry} {s : State} :
    step? programs s = none ↔ s.ready = [] := by
  unfold step?
  split <;> simp_all

lemma reached_run {programs : List Entry} (fuel : Nat) (s : State) :
    ReflTransGen (fun s t => step? programs s = some t) s (run programs fuel s) := by
  induction fuel generalizing s with
  | zero => exact .refl
  | succ fuel ih =>
    rw [run]
    cases h : step? programs s with
    | none => exact .refl
    | some t => exact .head h (ih t)

lemma Reached.consistent {programs : List Entry} {s : State} (h : Reached programs s) :
    Consistent programs s := by
  induction h with
  | refl => exact start_consistent programs
  | tail _ hstep ih => exact (step_consistent ih hstep).1

lemma foldl_release_waiting (ds : List Nat) (s : State) (i : Nat) :
    (ds.foldl release s).waiting i = s.waiting i - ds.count i := by
  induction ds generalizing s with
  | nil => simp
  | cons d ds ih =>
    rw [List.foldl_cons, ih, release_waiting]
    by_cases h : i = d
    · subst h
      rw [if_pos rfl, List.count_cons_self]
      omega
    · rw [if_neg h, List.count_cons_of_ne (fun e => h e.symm)]

lemma Reached.servesWaiting {programs : List Entry} {s : State} (h : Reached programs s) :
    ServesWaiting programs s := by
  intro i rest hready before d after hsplit
  have hi := h.consistent.not_finished hready
  have hwait := h.consistent.waiting d
  have hcount := count_dependents programs d i
  rw [length_unserved programs hi, ← hcount, hsplit, List.count_append, List.count_cons_self]
    at hwait
  rw [foldl_release_waiting]
  dsimp only
  omega

lemma searchEnds_walk (programs : List Entry) (waiting : Nat → Nat) (fuel : Nat) (path : List Nat)
    (hnodup : path.Nodup) (hpath : ∀ i ∈ path, i < programs.length)
    (hlength : path.length + fuel = programs.length + 1) :
    SearchEnds programs waiting path (walk programs waiting fuel path) := by
  induction fuel generalizing path with
  | zero =>
    -- A path without repetitions cannot get as long as the bound.
    have hsub := List.subperm_of_subset hnodup fun i hi => List.mem_range.mpr (hpath i hi)
    have hle := hsub.length_le
    rw [List.length_range] at hle
    omega
  | succ fuel ih =>
    rw [walk]
    split
    · rename_i hnext
      exact .stuck hnext
    · rename_i j hnext
      split
      · rename_i hj
        exact .closed hnext (List.contains_iff_mem.mp hj)
      · rename_i hj
        have hout : j ∉ path := fun hmem => hj (List.contains_iff_mem.mpr hmem)
        obtain ⟨i, _, hfind⟩ := Option.bind_eq_some_iff.mp hnext
        have hlt : j < programs.length := lt_of_mem_targets (List.mem_of_find?_eq_some hfind)
        refine .further hnext hout (ih (j :: path) (List.nodup_cons.mpr ⟨hout, hnodup⟩) ?_ ?_)
        · intro k hk
          rcases List.mem_cons.mp hk with rfl | hk
          · exact hlt
          · exact hpath k hk
        · rw [List.length_cons]
          omega

theorem terminates (programs : List Entry) : Terminates programs where
  run := reached_run programs.length (start programs)
  stops := step?_eq_none.mpr (final_ready programs)
  search i hi := searchEnds_walk programs _ programs.length [i] (List.nodup_singleton i)
    (fun j hj => by rwa [List.mem_singleton.mp hj]) (by rw [List.length_singleton]; omega)

lemma refers_of_mem_targets {programs : List Entry} {i j : Nat} (h : j ∈ targets programs i) :
    Refers programs (codeAt programs i) (codeAt programs j) := by
  have hj := lt_of_mem_targets h
  unfold targets at h
  split at h
  · rename_i e he
    obtain ⟨r, hr, hplace⟩ := List.mem_filterMap.mp h
    have hcode : codeAt programs i = e.1 := by simp [codeAt, he]
    refine ⟨?_, e, List.mem_of_getElem? he, hcode.symm, ?_⟩
    · rw [← map_codeAt_range]
      exact List.mem_map_of_mem (List.mem_range.mpr hj)
    · rwa [codeAt_of_place? hplace]
  · cases h

/-- The program at place `i` refers to the one at `j`, directly or through others. -/
def LiesBelow (programs : List Entry) (j i : Fin programs.length) : Prop :=
  TransGen (Refers programs) (codeAt programs i) (codeAt programs j)

lemma wellFounded_of_acyclic {programs : List Entry} (h : Acyclic programs) :
    WellFounded fun j i => j ∈ targets programs i := by
  have : IsTrans _ (LiesBelow programs) := ⟨fun _ _ _ hkj hji => hji.trans hkj⟩
  have : Std.Irrefl (LiesBelow programs) := ⟨fun i => h (codeAt programs i)⟩
  -- The places are finite in number, so without circles no path goes on for ever.
  have hwf := Finite.wellFounded_of_trans_of_irrefl (LiesBelow programs)
  have hacc : ∀ i : Fin programs.length, Acc (fun j i => j ∈ targets programs i) i.val := by
    intro i
    induction i using hwf.induction with
    | _ i ih =>
      refine ⟨_, fun j hj => ih ⟨j, lt_of_mem_targets hj⟩ ?_⟩
      exact .single (refers_of_mem_targets hj)
  exact ⟨fun i => ⟨_, fun j hj => hacc ⟨j, lt_of_mem_targets hj⟩⟩⟩

lemma idxOf_lt_of_refers {programs : List Entry} {codes : List String} (hnodup : codes.Nodup)
    (hall : ∀ code ∈ programs.map (·.1), code ∈ codes)
    (hafter : RunsAfterReferences programs codes) {code other : String}
    (h : Refers programs code other) : codes.idxOf other < codes.idxOf code := by
  obtain ⟨hlisted, e, he, rfl, hr⟩ := h
  obtain ⟨before, after, hsplit⟩ := List.append_of_mem (hall e.1 (List.mem_map_of_mem he))
  have hbefore := hafter before e.1 after hsplit e he rfl other hr hlisted
  have hout : e.1 ∉ before := by
    intro hmem
    rw [hsplit] at hnodup
    exact List.disjoint_of_nodup_append hnodup hmem List.mem_cons_self
  rw [hsplit, List.idxOf_append_of_mem hbefore, List.idxOf_append_of_notMem hout,
    List.idxOf_cons_self, Nat.add_zero]
  exact List.idxOf_lt_length_of_mem hbefore

/-- Where every program comes after all that it refers to, references do not go in a circle. -/
lemma acyclic_of_runsAfterReferences {programs : List Entry} {codes : List String}
    (hnodup : codes.Nodup) (hall : ∀ code ∈ programs.map (·.1), code ∈ codes)
    (hafter : RunsAfterReferences programs codes) : Acyclic programs := by
  have hlower : ∀ code other, TransGen (Refers programs) code other →
      codes.idxOf other < codes.idxOf code := by
    intro code other hpath
    have hstep : ∀ {a b}, Refers programs a b → codes.idxOf b < codes.idxOf a :=
      idxOf_lt_of_refers hnodup hall hafter
    induction hpath with
    | single hr => exact hstep hr
    | tail _ hr ih => exact (hstep hr).trans ih
  exact fun code hcircle => Nat.lt_irrefl _ (hlower code code hcircle)

lemma acyclic_of_order {programs : List Entry} {codes : List String}
    (hnd : (programs.map (·.1)).Nodup) (h : order programs = .ok codes) : Acyclic programs := by
  obtain ⟨hperm, hafter⟩ := order_spec hnd h
  exact acyclic_of_runsAfterReferences (hperm.nodup_iff.mpr hnd)
    (fun _ hcode => hperm.mem_iff.mpr hcode) hafter

/-- A run ends and serves only references that are waited for. It finds an order exactly where
references do not go in a circle, and then each program comes once, after all that it refers
to. -/
theorem order_ok_iff_acyclic (programs : List Entry) (hnd : (programs.map (·.1)).Nodup) :
    Terminates programs ∧ (∀ s, Reached programs s → ServesWaiting programs s) ∧
      ((∃ codes, order programs = .ok codes) ↔ Acyclic programs) ∧
      ∀ codes, order programs = .ok codes →
        codes.Perm (programs.map (·.1)) ∧ RunsAfterReferences programs codes := by
  refine ⟨terminates programs, fun s hs => hs.servesWaiting, ⟨?_, ?_⟩,
    fun codes h => order_spec hnd h⟩
  · rintro ⟨codes, h⟩
    exact acyclic_of_order hnd h
  · intro h
    exact order_isOk_of_wellFounded (wellFounded_of_acyclic h)

/-- Programs that refer twice to one program, to an unlisted one and, if `closed`, back. -/
def sharedReferences (closed : Bool) : List Entry := [
  ("il_moms_and_babies", ["il_family_care", "medicaid", "il_family_care"]),
  ("il_family_care", ["medicaid", "aca"]),
  ("medicaid", if closed then ["snap", "il_moms_and_babies"] else ["snap"])]

theorem order_sharedReferences :
    ((sharedReferences false).map (·.1)).Nodup ∧ ((sharedReferences true).map (·.1)).Nodup ∧
      order (sharedReferences false) = .ok ["medicaid", "il_family_care", "il_moms_and_babies"] ∧
      Acyclic (sharedReferences false) ∧ ¬Acyclic (sharedReferences true) := by
  have hopen : ((sharedReferences false).map (·.1)).Nodup := by decide
  have hclosed : ((sharedReferences true).map (·.1)).Nodup := by decide
  have horder : order (sharedReferences false) =
      .ok ["medicaid", "il_family_care", "il_moms_and_babies"] := by rfl
  have hcycle : order (sharedReferences true) =
      .error ["il_moms_and_babies", "il_family_care", "medicaid", "il_moms_and_babies"] := by rfl
  obtain ⟨_, _, hfound, _⟩ := order_ok_iff_acyclic (sharedReferences false) hopen
  obtain ⟨_, _, hlost, _⟩ := order_ok_iff_acyclic (sharedReferences true) hclosed
  refine ⟨hopen, hclosed, horder, hfound.mp ⟨_, horder⟩, fun hacyclic => ?_⟩
  obtain ⟨codes, hcodes⟩ := hlost.mpr hacyclic
  rw [hcycle] at hcodes
  cases hcodes

end BenefitScreen.RunOrder
