import BenefitScreen.RunOrder
import Mathlib.Data.List.Nodup
import Mathlib.Data.List.Perm.Subperm
import Mathlib.Tactic.Common

/-!
What a run of programs preserves: each program waits for exactly its references that were not
served yet, so it runs after all of them. A run covers every program unless references go in a
circle.
-/

namespace BenefitScreen.RunOrder

/-- The references of a program that no finished program has served. -/
def unserved (programs : List Entry) (finished : List Nat) (i : Nat) : List Nat :=
  (targets programs i).filter (· ∉ finished)

/-- Every program of a list, the latest first, comes after those that it refers to. -/
def Follows (programs : List Entry) : List Nat → Prop
  | [] => True
  | i :: rest => (∀ j ∈ targets programs i, j ∈ rest) ∧ Follows programs rest

/-- What holds between two steps of a run. -/
structure Consistent (programs : List Entry) (s : State) : Prop where
  waiting : ∀ i, s.waiting i = (unserved programs s.finished i).length
  settled : ∀ i, i ∈ s.ready ∨ i ∈ s.finished ↔ i < programs.length ∧ s.waiting i = 0
  nodup : (s.finished ++ s.ready).Nodup
  follows : Follows programs s.finished

lemma targets_eq_nil {programs : List Entry} {i : Nat} (h : programs.length ≤ i) :
    targets programs i = [] := by
  simp [targets, List.getElem?_eq_none h]

lemma count_flatMap_range (n : Nat) (f : Nat → List Nat) (i : Nat) :
    ((List.range n).flatMap fun k => (f k).map fun _ => k).count i =
      if i < n then (f i).length else 0 := by
  induction n with
  | zero => simp
  | succ n ih =>
    rw [List.range_succ, List.flatMap_append, List.count_append, ih]
    by_cases h : i = n
    · subst h
      simp
    · have hn : ¬n = i := fun e => h e.symm
      have hlt : i < n + 1 ↔ i < n := by omega
      simp [List.count_eq_zero.mpr, h, hlt]

lemma count_dependents (programs : List Entry) (i j : Nat) :
    (dependents programs j).count i = (targets programs i).count j := by
  unfold dependents
  rw [count_flatMap_range]
  split
  · rw [List.count_eq_length_filter]
  · rw [targets_eq_nil (by omega)]
    simp

lemma lt_of_mem_dependents {programs : List Entry} {i j : Nat} (h : i ∈ dependents programs j) :
    i < programs.length := by
  obtain ⟨k, hk, hi⟩ := List.mem_flatMap.mp h
  obtain ⟨_, _, rfl⟩ := List.mem_map.mp hi
  exact List.mem_range.mp hk

/-- A program that finishes serves all references to it at once. -/
lemma length_unserved (programs : List Entry) {finished : List Nat} {j : Nat} (hj : j ∉ finished)
    (i : Nat) :
    (unserved programs finished i).length =
      (unserved programs (j :: finished) i).length + (targets programs i).count j := by
  unfold unserved
  induction targets programs i with
  | nil => rfl
  | cons k ks ih =>
    by_cases hk : k = j
    · subst hk
      simp [hj] at ih ⊢
      omega
    · by_cases hf : k ∈ finished <;> simp [hk, hf] at ih ⊢ <;> omega

lemma release_waiting (s : State) (d i : Nat) :
    (release s d).waiting i = if i = d then s.waiting d - 1 else s.waiting i := rfl

lemma release_finished (s : State) (d : Nat) : (release s d).finished = s.finished := rfl

lemma mem_release_ready (s : State) (d i : Nat) :
    i ∈ (release s d).ready ↔ i ∈ s.ready ∨ i = d ∧ s.waiting d - 1 = 0 := by
  simp only [release]
  split
  · rename_i h
    simp [h]
  · rename_i h
    simp [h]

lemma nodup_release {s : State} {d : Nat} (hd : ¬(d ∈ s.ready ∨ d ∈ s.finished))
    (hn : (s.finished ++ s.ready).Nodup) :
    ((release s d).finished ++ (release s d).ready).Nodup := by
  simp only [release]
  split
  · have hp : (s.finished ++ (s.ready ++ [d])).Perm (d :: (s.finished ++ s.ready)) := by
      rw [← List.append_assoc]
      exact List.perm_append_singleton d _
    refine hp.nodup_iff.mpr (List.nodup_cons.mpr ⟨fun hm => hd ?_, hn⟩)
    exact (List.mem_append.mp hm).symm
  · exact hn

/-- Serving references one by one: while `ds` are still to be served, a program waits for its
references in `ds` and for those counted by `left`. -/
lemma foldl_release (n : Nat) (left : Nat → Nat) (ds : List Nat) (s : State)
    (hd : ∀ d ∈ ds, d < n)
    (hw : ∀ i, s.waiting i = left i + ds.count i)
    (hr : ∀ i, i ∈ s.ready ∨ i ∈ s.finished ↔ i < n ∧ s.waiting i = 0)
    (hn : (s.finished ++ s.ready).Nodup) :
    let t := ds.foldl release s
    (∀ i, t.waiting i = left i) ∧ t.finished = s.finished ∧
      (∀ i, i ∈ t.ready ∨ i ∈ t.finished ↔ i < n ∧ t.waiting i = 0) ∧
      (t.finished ++ t.ready).Nodup := by
  induction ds generalizing s with
  | nil => exact ⟨fun i => by simpa using hw i, rfl, hr, hn⟩
  | cons d ds ih =>
    have hwd : s.waiting d = left d + ds.count d + 1 := by
      rw [hw d, List.count_cons_self, Nat.add_assoc]
    have hout : ¬(d ∈ s.ready ∨ d ∈ s.finished) := by
      rw [hr d]
      omega
    refine ih (release s d) (fun i hi => hd i (List.mem_cons_of_mem _ hi)) ?_ ?_
      (nodup_release hout hn)
    · intro i
      rw [release_waiting]
      split
      · rename_i h
        rw [h, hwd, Nat.add_sub_cancel]
      · rename_i h
        rw [hw i, List.count_cons_of_ne (fun e => h e.symm)]
    · intro i
      rw [mem_release_ready, release_finished, release_waiting]
      by_cases h : i = d
      · subst h
        have hlt := hd i List.mem_cons_self
        simp only [if_true, true_and, hlt]
        tauto
      · simpa [h] using hr i

lemma start_consistent (programs : List Entry) : Consistent programs (start programs) where
  waiting i := by simp [start, unserved]
  settled i := by simp [start]
  nodup := List.nodup_range.filter _
  follows := trivial

/-- A program that is ready has not run yet. -/
lemma Consistent.not_finished {programs : List Entry} {s : State} (hs : Consistent programs s)
    {i : Nat} {rest : List Nat} (hready : s.ready = i :: rest) : i ∉ s.finished := by
  intro hmem
  have hnd := hs.nodup
  rw [hready] at hnd
  exact List.disjoint_of_nodup_append hnd hmem List.mem_cons_self

/-- A program that waits for nothing has all of its references behind it. -/
lemma Consistent.served {programs : List Entry} {s : State} (hs : Consistent programs s) {i : Nat}
    (hi : i ∈ s.ready ∨ i ∈ s.finished) : ∀ j ∈ targets programs i, j ∈ s.finished := by
  intro j hj
  have hwait := ((hs.settled i).mp hi).2
  rw [hs.waiting i, List.length_eq_zero_iff, unserved, List.filter_eq_nil_iff] at hwait
  simpa using hwait j hj

/-- One more program finishes, after all that it refers to. -/
lemma step_consistent {programs : List Entry} {s t : State} (hs : Consistent programs s)
    (h : step? programs s = some t) :
    Consistent programs t ∧ t.finished.length = s.finished.length + 1 := by
  unfold step? at h
  split at h
  · cases h
  · rename_i i rest hready
    simp only [Option.some.injEq] at h
    have hperm : (i :: s.finished ++ rest).Perm (s.finished ++ s.ready) := by
      rw [hready]
      exact List.perm_middle.symm
    have hnd := hperm.nodup_iff.mpr hs.nodup
    have hi := hs.not_finished hready
    have hserved := hs.served (i := i) (.inl (by simp [hready]))
    have hfold := foldl_release programs.length
      (fun k => (unserved programs (i :: s.finished) k).length) (dependents programs i)
      { s with ready := rest, finished := i :: s.finished }
      (fun d hd => lt_of_mem_dependents hd)
      (fun k => by
        show s.waiting k = _
        rw [hs.waiting k, count_dependents, length_unserved programs hi k])
      (fun k => by
        show k ∈ rest ∨ k ∈ i :: s.finished ↔ k < programs.length ∧ s.waiting k = 0
        rw [← hs.settled k, hready, List.mem_cons, List.mem_cons]
        tauto)
      hnd
    rw [h] at hfold
    obtain ⟨hw, hfin, hr, hn⟩ := hfold
    dsimp only at hfin
    refine ⟨⟨fun k => ?_, hr, hn, ?_⟩, ?_⟩
    · rw [hw k, hfin]
    · rw [hfin]
      exact ⟨hserved, hs.follows⟩
    · rw [hfin, List.length_cons]

lemma run_consistent {programs : List Entry} (fuel : Nat) {s : State}
    (hs : Consistent programs s) :
    Consistent programs (run programs fuel s) ∧
      ((run programs fuel s).ready = [] ∨
        (run programs fuel s).finished.length = s.finished.length + fuel) := by
  induction fuel generalizing s with
  | zero => exact ⟨hs, .inr rfl⟩
  | succ fuel ih =>
    rw [run]
    cases h : step? programs s with
    | none =>
      refine ⟨hs, .inl ?_⟩
      unfold step? at h
      split at h
      · assumption
      · cases h
    | some t =>
      obtain ⟨ht, hlen⟩ := step_consistent hs h
      obtain ⟨hc, hstop⟩ := ih ht
      refine ⟨hc, hstop.imp_right fun hl => ?_⟩
      rw [hl, hlen, Nat.add_assoc, Nat.add_comm 1]

lemma Consistent.subperm {programs : List Entry} {s : State} (hs : Consistent programs s) :
    (s.finished ++ s.ready).Subperm (List.range programs.length) := by
  refine List.subperm_of_subset hs.nodup fun i hi => ?_
  exact List.mem_range.mpr ((hs.settled i).mp (List.mem_append.mp hi).symm).1

lemma final_consistent (programs : List Entry) : Consistent programs (final programs) :=
  (run_consistent programs.length (start_consistent programs)).1

/-- A run goes on until no program is ready. -/
lemma final_ready (programs : List Entry) : (final programs).ready = [] := by
  obtain ⟨hc, hstop⟩ := run_consistent programs.length (start_consistent programs)
  refine hstop.elim id fun hlen => ?_
  have hle := hc.subperm.length_le
  rw [List.length_append, hlen, List.length_range] at hle
  exact List.length_eq_zero_iff.mp (show (run programs _ _).ready.length = 0 by omega)

/-- What has not finished at the end waits for something that has not finished. -/
lemma exists_unfinished_target {programs : List Entry} {i : Nat} (hi : i < programs.length)
    (hf : i ∉ (final programs).finished) :
    ∃ j ∈ targets programs i, j ∉ (final programs).finished := by
  have hc := final_consistent programs
  have hw : (final programs).waiting i ≠ 0 := by
    intro h0
    have := (hc.settled i).mpr ⟨hi, h0⟩
    rw [final_ready] at this
    simp [hf] at this
  rw [hc.waiting i] at hw
  obtain ⟨j, hj⟩ := List.exists_mem_of_ne_nil _ fun h => hw (List.length_eq_zero_iff.mpr h)
  have := List.mem_filter.mp hj
  exact ⟨j, this.1, by simpa using this.2⟩

lemma lt_of_mem_targets {programs : List Entry} {i j : Nat} (h : j ∈ targets programs i) :
    j < programs.length := by
  unfold targets at h
  split at h
  · obtain ⟨code, _, hj⟩ := List.mem_filterMap.mp h
    have := List.mem_of_find?_eq_some hj
    simpa using this
  · cases h

lemma codeAt_of_place? {programs : List Entry} {code : String} {j : Nat}
    (h : place? programs code = some j) : codeAt programs j = code := by
  have := List.find?_some h
  simp only [beq_iff_eq] at this
  rw [codeAt, this, Option.getD_some]

lemma exists_place? {programs : List Entry} {code : String}
    (h : code ∈ programs.map (·.1)) : ∃ j, place? programs code = some j := by
  obtain ⟨e, he, rfl⟩ := List.mem_map.mp h
  obtain ⟨i, hi, hget⟩ := List.getElem_of_mem he
  refine Option.isSome_iff_exists.mp (List.find?_isSome.mpr ⟨i, by simpa using hi, ?_⟩)
  simp [List.getElem?_eq_getElem hi, hget]

lemma map_codeAt_range (programs : List Entry) :
    (List.range programs.length).map (codeAt programs) = programs.map (·.1) := by
  refine List.ext_getElem (by simp) fun i hi _ => ?_
  rw [List.length_map, List.length_range] at hi
  simp [codeAt, List.getElem?_eq_getElem hi]

lemma codeAt_inj {programs : List Entry} (hnd : (programs.map (·.1)).Nodup) {i j : Nat}
    (hi : i < programs.length) (hj : j < programs.length)
    (h : codeAt programs i = codeAt programs j) : i = j := by
  rw [← map_codeAt_range] at hnd
  exact List.inj_on_of_nodup_map hnd (List.mem_range.mpr hi) (List.mem_range.mpr hj) h

lemma getElem?_of_codeAt {programs : List Entry} (hnd : (programs.map (·.1)).Nodup) {e : Entry}
    (he : e ∈ programs) {i : Nat} (hi : i < programs.length) (hc : codeAt programs i = e.1) :
    programs[i]? = some e := by
  rw [List.getElem?_eq_getElem hi]
  simp only [codeAt, List.getElem?_eq_getElem hi, Option.map_some, Option.getD_some] at hc
  exact congrArg some (List.inj_on_of_nodup_map hnd (List.getElem_mem hi) he hc)

lemma Follows.mem_of_split {programs : List Entry} {before after : List Nat} {i : Nat}
    (h : Follows programs (after ++ i :: before)) :
    ∀ j ∈ targets programs i, j ∈ before := by
  induction after with
  | nil => exact h.1
  | cons k after ih => exact ih h.2

/-- Every program of an order comes after the listed programs that it refers to. -/
def RunsAfterReferences (programs : List Entry) (order : List String) : Prop :=
  ∀ before code after, order = before ++ code :: after → ∀ e ∈ programs, e.1 = code →
    ∀ r ∈ e.2, r ∈ programs.map (·.1) → r ∈ before

/-- An order that is found lists every program once, after all that it refers to. -/
theorem order_spec {programs : List Entry} {codes : List String}
    (hnd : (programs.map (·.1)).Nodup) (h : order programs = .ok codes) :
    codes.Perm (programs.map (·.1)) ∧ RunsAfterReferences programs codes := by
  unfold order at h
  dsimp only at h
  split at h
  · cases h
  rename_i hlen
  cases h
  have hc := final_consistent programs
  have hsub : (final programs).finished.Subperm (List.range programs.length) := by
    have := hc.subperm
    rwa [final_ready, List.append_nil] at this
  have hperm : (final programs).finished.Perm (List.range programs.length) :=
    hsub.perm_of_length_le (by rw [List.length_range]; omega)
  constructor
  · rw [← map_codeAt_range]
    exact ((List.reverse_perm _).trans hperm).map _
  · intro before code after hsplit e he hcode r hr hlisted
    obtain ⟨xs, ys, hxs, rfl, hys⟩ := List.map_eq_append_iff.mp hsplit
    obtain ⟨i, zs, rfl, hi, rfl⟩ := List.map_eq_cons_iff.mp hys
    have hfin : (final programs).finished = zs.reverse ++ i :: xs.reverse := by
      rw [← List.reverse_reverse (final programs).finished, hxs]
      simp
    have hlt : i < programs.length := by
      refine List.mem_range.mp (hperm.subset ?_)
      rw [hfin]
      exact List.mem_append_right _ List.mem_cons_self
    have hget := getElem?_of_codeAt hnd he hlt (hi.trans hcode.symm)
    obtain ⟨j, hj⟩ := exists_place? hlisted
    have htarget : j ∈ targets programs i := by
      rw [targets, hget]
      exact List.mem_filterMap.mpr ⟨r, hr, hj⟩
    have hbefore := (hfin ▸ hc.follows).mem_of_split j htarget
    exact List.mem_map.mpr ⟨j, List.mem_reverse.mp hbefore, codeAt_of_place? hj⟩

/-- Where references do not go in a circle, every program finishes. -/
theorem order_isOk_of_wellFounded {programs : List Entry}
    (hwf : WellFounded fun j i => j ∈ targets programs i) :
    ∃ codes, order programs = .ok codes := by
  have hall : ∀ i, i < programs.length → i ∈ (final programs).finished := by
    intro i
    -- What is left over at the end would wait for something lower that is left over too.
    induction i using hwf.induction with
    | _ i ih =>
      intro hi
      by_contra hf
      obtain ⟨j, hj, hjf⟩ := exists_unfinished_target hi hf
      exact hjf (ih j hj (lt_of_mem_targets hj))
  have hle : programs.length ≤ (final programs).finished.length := by
    have hsub := List.subperm_of_subset List.nodup_range
      fun i hi => hall i (List.mem_range.mp hi)
    simpa using hsub.length_le
  exact ⟨_, by rw [order, if_neg (by omega)]⟩

/-- References that always lead to a lower rank do not go in a circle. -/
lemma wellFounded_of_rank {programs : List Entry} (rank : String → Nat)
    (h : ∀ e ∈ programs, ∀ r ∈ e.2, rank r < rank e.1) :
    WellFounded fun j i => j ∈ targets programs i := by
  refine Subrelation.wf (r := InvImage (· < ·) fun i => rank (codeAt programs i)) ?_
    (InvImage.wf _ Nat.lt_wfRel.wf)
  intro j i hj
  unfold targets at hj
  split at hj
  · rename_i e he
    obtain ⟨r, hr, hplace⟩ := List.mem_filterMap.mp hj
    have hcode : codeAt programs i = e.1 := by simp [codeAt, he]
    show rank (codeAt programs j) < rank (codeAt programs i)
    rw [codeAt_of_place? hplace, hcode]
    exact h e (List.mem_of_getElem? he) r hr
  · cases hj

end BenefitScreen.RunOrder
