import BenefitScreen.Proofs.Lookup
import BenefitScreen.Proofs.ReferenceCycles

/-!
# First come, first served

A program is ready once all its references have run. Programs run in the order in which they become
ready, and in the order of the list where they become ready together. There is only one such order,
so an order is found exactly where there is one, and this is the order that is found.
-/

namespace BenefitScreen.RunOrder

/-- The listed programs that a program refers to. -/
def references (programs : List Entry) (code : String) : List String :=
  (((programs.find? fun e => e.1 == code).map (·.2)).getD []).filter (· ∈ programs.map (·.1))

/-- How many programs of an order have run when a program is ready. -/
def readyAfter (programs : List Entry) (order : List String) (code : String) : Nat :=
  ((references programs code).map fun r => order.idxOf r + 1).foldr max 0

/-- One program is ready before another, or together with it and listed before it. -/
def ComesBefore (programs : List Entry) (order : List String) (a b : String) : Prop :=
  readyAfter programs order a < readyAfter programs order b ∨
    readyAfter programs order a = readyAfter programs order b ∧
      (programs.map (·.1)).idxOf a < (programs.map (·.1)).idxOf b

/-- Every program once, after its references, and in the order in which programs are ready. -/
structure FirstComeFirstServed (programs : List Entry) (order : List String) : Prop where
  perm : order.Perm (programs.map (·.1))
  after : RunsAfterReferences programs order
  queued : order.Pairwise (ComesBefore programs order)

section Readiness

variable {programs : List Entry} {order : List String} {code r : String}

lemma refers_of_mem_references (h : r ∈ references programs code) : Refers programs code r := by
  obtain ⟨hr, hlisted⟩ := List.mem_filter.mp h
  refine ⟨of_decide_eq_true hlisted, ?_⟩
  cases hfind : programs.find? fun e => e.1 == code with
  | none =>
    rw [hfind] at hr
    cases hr
  | some e =>
    rw [hfind] at hr
    exact ⟨e, List.mem_of_find?_eq_some hfind, by simpa using List.find?_some hfind, hr⟩

lemma references_of_mem (hnd : (programs.map (·.1)).Nodup) {e : Entry} (he : e ∈ programs) :
    references programs e.1 = e.2.filter (· ∈ programs.map (·.1)) := by
  rw [references, find?_of_nodup_keys hnd he]
  rfl

lemma readyAfter_le {n : Nat} : readyAfter programs order code ≤ n ↔
    ∀ r ∈ references programs code, order.idxOf r < n := by
  unfold readyAfter
  induction references programs code with
  | nil => simp
  | cons r rs ih =>
    rw [List.map_cons, List.foldr_cons, Nat.max_le, ih, List.forall_mem_cons, Nat.succ_le_iff]

lemma idxOf_lt_readyAfter (h : r ∈ references programs code) :
    order.idxOf r < readyAfter programs order code :=
  readyAfter_le.mp (Nat.le_refl _) r h

/-- What runs later does not count for a program that is ready already. -/
lemma readyAfter_append (h : ∀ r ∈ references programs code, r ∈ order) (later : List String) :
    readyAfter programs (order ++ later) code = readyAfter programs order code := by
  unfold readyAfter
  congr 1
  apply List.map_congr_left
  intro r hr
  rw [List.idxOf_append_of_mem (h r hr)]

lemma readyAfter_le_length (h : ∀ r ∈ references programs code, r ∈ order) :
    readyAfter programs order code ≤ order.length :=
  readyAfter_le.mpr fun r hr => List.idxOf_lt_length_of_mem (h r hr)

lemma readyAfter_eq_zero : readyAfter programs order code = 0 ↔ references programs code = [] := by
  rw [← Nat.le_zero, readyAfter_le, List.eq_nil_iff_forall_not_mem]
  simp

end Readiness

section Queue

variable {programs : List Entry} {s t : State}

lemma foldl_release_finished (ds : List Nat) (s : State) :
    (ds.foldl release s).finished = s.finished := by
  induction ds generalizing s with
  | nil => rfl
  | cons d ds ih => rw [List.foldl_cons, ih, release_finished]

/-- Programs become ready in the order in which their references are served. -/
lemma foldl_release_ready (ds : List Nat) (s : State) :
    ∃ freed, freed.Sublist ds ∧ (ds.foldl release s).ready = s.ready ++ freed := by
  induction ds generalizing s with
  | nil => exact ⟨[], List.Sublist.refl [], (List.append_nil _).symm⟩
  | cons d ds ih =>
    obtain ⟨freed, hsub, hready⟩ := ih (release s d)
    rw [List.foldl_cons, hready]
    simp only [release]
    split
    · exact ⟨d :: freed, hsub.cons_cons d, by rw [List.append_assoc, List.singleton_append]⟩
    · exact ⟨freed, hsub.cons d, rfl⟩

lemma dependents_ordered (programs : List Entry) (j : Nat) :
    (dependents programs j).Pairwise (· ≤ ·) := by
  unfold dependents
  apply List.pairwise_flatMap.mpr
  constructor
  · intro i _
    apply List.pairwise_map.mpr
    exact List.pairwise_of_forall fun _ _ => Nat.le_refl i
  · apply List.pairwise_lt_range.imp
    intro i k hik a ha b hb
    obtain ⟨_, _, rfl⟩ := List.mem_map.mp ha
    obtain ⟨_, _, rfl⟩ := List.mem_map.mp hb
    exact Nat.le_of_lt hik

/-- The first program runs, and those that it makes ready queue up behind all others, as they are
listed. -/
lemma step_queue (hs : Consistent programs s) (h : step? programs s = some t) :
    ∃ i rest freed, s.ready = i :: rest ∧ t.finished = i :: s.finished ∧
      t.ready = rest ++ freed ∧ freed.Pairwise (· < ·) ∧ ∀ d ∈ freed, i ∈ targets programs d := by
  have ht := (step_consistent hs h).1
  unfold step? at h
  split at h
  · cases h
  · rename_i i rest hready
    obtain ⟨freed, hsub, hqueue⟩ := foldl_release_ready (dependents programs i)
      { s with ready := rest, finished := i :: s.finished }
    have hfinished := foldl_release_finished (dependents programs i)
      { s with ready := rest, finished := i :: s.finished }
    rw [Option.some.inj h] at hqueue hfinished
    refine ⟨i, rest, freed, hready, hfinished, hqueue, ?_, ?_⟩
    · have hnodup := ht.nodup
      rw [hqueue] at hnodup
      have hne : freed.Nodup := (List.nodup_append.mp (List.nodup_append.mp hnodup).2.1).2.1
      apply (((dependents_ordered programs i).sublist hsub).and hne).imp
      exact fun hpair => Nat.lt_of_le_of_ne hpair.1 hpair.2
    · intro d hd
      have hpos := List.count_pos_iff.mpr (hsub.subset hd)
      rw [count_dependents] at hpos
      exact List.count_pos_iff.mp hpos

/-- The programs that have run, in their order. -/
def ran (programs : List Entry) (s : State) : List String :=
  s.finished.reverse.map (codeAt programs)

/-- The programs that have run and those that are ready, in the order in which they became so. -/
def line (programs : List Entry) (s : State) : List String :=
  ran programs s ++ s.ready.map (codeAt programs)

lemma length_ran (programs : List Entry) (s : State) :
    (ran programs s).length = s.finished.length := by
  rw [ran, List.length_map, List.length_reverse]

lemma ran_of_finished {i : Nat} (h : t.finished = i :: s.finished) :
    ran programs t = ran programs s ++ [codeAt programs i] := by
  rw [ran, h, List.reverse_cons, List.map_append, List.map_singleton]
  rfl

variable (hnd : (programs.map (·.1)).Nodup)
include hnd

lemma idxOf_codeAt {i : Nat} (hi : i < programs.length) :
    (programs.map (·.1)).idxOf (codeAt programs i) = i := by
  have hlt : i < (programs.map (·.1)).length := by rwa [List.length_map]
  have hcode : codeAt programs i = (programs.map (·.1))[i] := by simp [codeAt, hi]
  rw [hcode, hnd.idxOf_getElem]

lemma map_codeAt_targets {i : Nat} (hi : i < programs.length) :
    (targets programs i).map (codeAt programs) = references programs (codeAt programs i) := by
  have hcode : codeAt programs i = programs[i].1 := by simp [codeAt, hi]
  have hplace : ∀ r, (place? programs r).map (codeAt programs) =
      Option.guard (· ∈ programs.map (·.1)) r := by
    intro r
    by_cases hr : r ∈ programs.map (·.1)
    · obtain ⟨j, hj⟩ := exists_place? hr
      rw [hj, Option.map_some, codeAt_of_place? hj, Option.guard, if_pos (decide_eq_true hr)]
    · cases hj : place? programs r with
      | none => rw [Option.map_none, Option.guard, if_neg (by simpa using hr)]
      | some j =>
        have hlt : j < programs.length := by simpa using List.mem_of_find?_eq_some hj
        rw [← codeAt_of_place? hj, ← map_codeAt_range] at hr
        exact absurd (List.mem_map_of_mem (List.mem_range.mpr hlt)) hr
  rw [hcode, references_of_mem hnd (List.getElem_mem hi), targets, List.getElem?_eq_getElem hi,
    List.map_filterMap, ← List.filterMap_eq_filter]
  exact List.filterMap_congr fun r _ => hplace r

/-- What has run, and what is ready, refers only to what has run. -/
lemma Consistent.references_ran (hs : Consistent programs s) {i : Nat}
    (hi : i ∈ s.ready ∨ i ∈ s.finished) :
    ∀ r ∈ references programs (codeAt programs i), r ∈ ran programs s := by
  rw [← map_codeAt_targets hnd ((hs.settled i).mp hi).1]
  intro r hr
  obtain ⟨j, hj, rfl⟩ := List.mem_map.mp hr
  exact List.mem_map_of_mem (List.mem_reverse.mpr (hs.served hi j hj))

lemma Consistent.references_line (hs : Consistent programs s) {code : String}
    (h : code ∈ line programs s) : ∀ r ∈ references programs code, r ∈ ran programs s := by
  rcases List.mem_append.mp h with h | h
  · obtain ⟨i, hi, rfl⟩ := List.mem_map.mp h
    exact hs.references_ran hnd (.inr (List.mem_reverse.mp hi))
  · obtain ⟨i, hi, rfl⟩ := List.mem_map.mp h
    exact hs.references_ran hnd (.inl hi)

lemma comesBefore_of_ordered {order : List String} {freed : List Nat} {k : Nat}
    (hlt : ∀ d ∈ freed, d < programs.length) (hordered : freed.Pairwise (· < ·))
    (hready : ∀ d ∈ freed, readyAfter programs order (codeAt programs d) = k) :
    (freed.map (codeAt programs)).Pairwise (ComesBefore programs order) := by
  apply List.pairwise_map.mpr
  apply hordered.imp_of_mem
  intro a b ha hb hab
  refine .inr ⟨(hready a ha).trans (hready b hb).symm, ?_⟩
  rwa [idxOf_codeAt hnd (hlt a ha), idxOf_codeAt hnd (hlt b hb)]

lemma codeAt_notMem_ran {i : Nat} (ht : Consistent programs t)
    (hfinished : t.finished = i :: s.finished) : codeAt programs i ∉ ran programs s := by
  have hlt : ∀ k ∈ t.finished, k < programs.length := fun k hk => ((ht.settled k).mp (.inr hk)).1
  have hnodup := (List.nodup_append.mp ht.nodup).1
  rw [hfinished] at hlt hnodup
  intro hmem
  obtain ⟨j, hj, hcode⟩ := List.mem_map.mp hmem
  have hj := List.mem_reverse.mp hj
  obtain rfl := codeAt_inj hnd (hlt j (List.mem_cons_of_mem i hj)) (hlt i List.mem_cons_self) hcode
  exact (List.nodup_cons.mp hnodup).1 hj

/-- What a step makes ready is ready after this step and not before. -/
lemma readyAfter_freed {i d : Nat} (ht : Consistent programs t)
    (hfinished : t.finished = i :: s.finished) (hd : d ∈ t.ready) (hi : i ∈ targets programs d) :
    readyAfter programs (ran programs t) (codeAt programs d) = s.finished.length + 1 := by
  have hle := readyAfter_le_length (ht.references_ran hnd (.inl hd))
  rw [length_ran, hfinished, List.length_cons] at hle
  have hcode : codeAt programs i ∈ references programs (codeAt programs d) := by
    rw [← map_codeAt_targets hnd ((ht.settled d).mp (.inl hd)).1]
    exact List.mem_map_of_mem hi
  have hlast : (ran programs t).idxOf (codeAt programs i) <
      readyAfter programs (ran programs t) (codeAt programs d) := idxOf_lt_readyAfter hcode
  have hplace : (ran programs t).idxOf (codeAt programs i) = s.finished.length := by
    rw [ran_of_finished hfinished, List.idxOf_append_of_notMem (codeAt_notMem_ran hnd ht hfinished),
      List.idxOf_cons_self, length_ran, Nat.add_zero]
  omega

lemma start_queued : (line programs (start programs)).Pairwise
    (ComesBefore programs (ran programs (start programs))) := by
  have hready : ∀ d ∈ (start programs).ready, d < programs.length ∧ targets programs d = [] := by
    intro d hd
    obtain ⟨hlt, hnone⟩ := List.mem_filter.mp hd
    exact ⟨List.mem_range.mp hlt, by simpa using hnone⟩
  apply comesBefore_of_ordered hnd (fun d hd => (hready d hd).1)
  · exact List.pairwise_lt_range.filter _
  · intro d hd
    rw [readyAfter_eq_zero, ← map_codeAt_targets hnd (hready d hd).1, (hready d hd).2]
    rfl

/-- Those whom a step makes ready come after all who were ready. -/
lemma step_queued (hs : Consistent programs s) (h : step? programs s = some t)
    (hline : (line programs s).Pairwise (ComesBefore programs (ran programs s))) :
    (line programs t).Pairwise (ComesBefore programs (ran programs t)) := by
  have ht := (step_consistent hs h).1
  obtain ⟨i, rest, freed, hready, hfinished, hqueue, hordered, htargets⟩ := step_queue hs h
  have hran : ran programs t = ran programs s ++ [codeAt programs i] := ran_of_finished hfinished
  have hfreed : ∀ d ∈ freed, d ∈ t.ready := fun d hd => hqueue ▸ List.mem_append_right rest hd
  have hnew : ∀ d ∈ freed, readyAfter programs (ran programs t) (codeAt programs d) =
      s.finished.length + 1 := fun d hd =>
    readyAfter_freed hnd ht hfinished (hfreed d hd) (htargets d hd)
  have hold : ∀ code ∈ line programs s,
      readyAfter programs (ran programs t) code = readyAfter programs (ran programs s) code := by
    intro code hcode
    rw [hran, readyAfter_append (hs.references_line hnd hcode)]
  have hsplit : line programs t = line programs s ++ freed.map (codeAt programs) := by
    rw [line, line, hran, hqueue, hready, List.map_append, List.map_cons]
    simp
  rw [hsplit]
  apply List.pairwise_append.mpr
  refine ⟨?_, ?_, ?_⟩
  · apply hline.imp_of_mem
    intro a b ha hb hab
    rwa [ComesBefore, hold a ha, hold b hb]
  · exact comesBefore_of_ordered hnd (fun d hd => ((ht.settled d).mp (.inl (hfreed d hd))).1)
      hordered hnew
  · intro a ha b hb
    obtain ⟨d, hd, rfl⟩ := List.mem_map.mp hb
    have hle := readyAfter_le_length (hs.references_line hnd ha)
    rw [length_ran] at hle
    refine .inl ?_
    rw [hold a ha, hnew d hd]
    omega

/-- In every state of a run, programs stand in the order in which they became ready. -/
lemma Reached.queued (h : Reached programs s) :
    (line programs s).Pairwise (ComesBefore programs (ran programs s)) := by
  induction h with
  | refl => exact start_queued hnd
  | tail hs hstep ih => exact step_queued hnd (Reached.consistent hs) hstep ih

end Queue

section Unique

variable {programs : List Entry} {xs ys before as bs codes : List String} {a b : String}

lemma ComesBefore.asymm (h : ComesBefore programs xs a b) : ¬ComesBefore programs xs b a := by
  unfold ComesBefore at *
  omega

lemma RunsAfterReferences.references_before (h : RunsAfterReferences programs xs)
    (hxs : xs = before ++ a :: as) : ∀ r ∈ references programs a, r ∈ before := by
  intro r hr
  obtain ⟨hlisted, e, he, hcode, hr⟩ := refers_of_mem_references hr
  exact h before a as hxs e he hcode r hr hlisted

/-- Where two orders part, each puts its own program before that of the other. -/
lemma FirstComeFirstServed.comesBefore (hnd : (programs.map (·.1)).Nodup)
    (hx : FirstComeFirstServed programs xs) (hy : FirstComeFirstServed programs ys)
    (hxs : xs = before ++ a :: as) (hys : ys = before ++ b :: bs) (hne : a ≠ b) :
    ComesBefore programs before a b := by
  have hb : b ∈ as := by
    have hmem : b ∈ xs := hx.perm.mem_iff.mpr (hy.perm.mem_iff.mp (by simp [hys]))
    have hout : b ∉ before := notMem_of_split (hy.perm.nodup_iff.mpr hnd) hys
    rw [hxs, List.mem_append, List.mem_cons] at hmem
    tauto
  have hqueued := hx.queued
  rw [hxs] at hqueued
  have hab := (List.pairwise_cons.mp (List.pairwise_append.mp hqueued).2.1).1 b hb
  -- Both are ready after what the orders share, so the rest does not count.
  rwa [ComesBefore, readyAfter_append (hx.after.references_before hxs),
    readyAfter_append (hy.after.references_before hys)] at hab

lemma FirstComeFirstServed.eq (hnd : (programs.map (·.1)).Nodup)
    (hx : FirstComeFirstServed programs xs) (hy : FirstComeFirstServed programs ys) : xs = ys := by
  have hlength : xs.length = ys.length := (hx.perm.trans hy.perm.symm).length_eq
  suffices hrest : ∀ before as bs, xs = before ++ as → ys = before ++ bs → as = bs from
    hrest [] xs ys rfl rfl
  intro before as
  induction as generalizing before with
  | nil =>
    intro bs hxs hys
    rw [hxs, hys, List.length_append, List.length_append] at hlength
    exact (List.length_eq_zero_iff.mp (by simpa using hlength.symm)).symm
  | cons a as ih =>
    intro bs hxs hys
    cases bs with
    | nil =>
      rw [hxs, hys, List.length_append, List.length_append] at hlength
      simp at hlength
    | cons b bs =>
      by_cases hab : a = b
      · subst hab
        congr 1
        exact ih (before ++ [a]) bs (by simpa using hxs) (by simpa using hys)
      · have hfirst := hx.comesBefore hnd hy hxs hys hab
        exact absurd (hy.comesBefore hnd hx hys hxs (Ne.symm hab)) hfirst.asymm

/-- The order that is found is the only one in which programs are served as they come. -/
theorem order_eq_ok_iff (hnd : (programs.map (·.1)).Nodup) :
    order programs = .ok codes ↔ FirstComeFirstServed programs codes := by
  have hserved : ∀ codes, order programs = .ok codes → FirstComeFirstServed programs codes := by
    intro codes h
    obtain ⟨hperm, hafter⟩ := order_spec hnd h
    refine ⟨hperm, hafter, ?_⟩
    have hqueued := (terminates programs).run.queued hnd
    unfold order at h
    dsimp only at h
    split at h
    · cases h
    · rw [line, final_ready, List.map_nil, List.append_nil] at hqueued
      exact Except.ok.inj h ▸ hqueued
  refine ⟨hserved codes, fun h => ?_⟩
  have hacyclic : Acyclic programs := acyclic_of_runsAfterReferences (h.perm.nodup_iff.mpr hnd)
    (fun _ hcode => h.perm.mem_iff.mpr hcode) h.after
  obtain ⟨found, hfound⟩ := order_isOk_of_wellFounded (wellFounded_of_acyclic hacyclic)
  rwa [h.eq hnd (hserved found hfound)]

end Unique

end BenefitScreen.RunOrder
