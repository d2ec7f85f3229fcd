import BenefitScreen.Proofs.ReferenceCycles
import Mathlib.Data.List.Chain

/-!
# The cycle that is reported

What is left over when no program is ready any more waits for something that is left over too, so
that a search along references among these programs never gets stuck. It comes back to a program
that it has passed, since there are only so many, and what it passed since then is the cycle.
-/

namespace BenefitScreen.RunOrder

section ClosedWalk

variable {α β : Type} {R : α → α → Prop} {S : β → β → Prop}

/-- A walk that ends where it starts and passes nothing else twice. -/
structure ClosedWalk (R : α → α → Prop) (walk : List α) : Prop where
  two_le_length : 2 ≤ walk.length
  closed : walk.head? = walk.getLast?
  nodup : walk.dropLast.Nodup
  linked : walk.IsChain R

/-- A path, latest first, that goes on to a place which it has passed is closed from there on. -/
lemma ClosedWalk.of_path [BEq α] [LawfulBEq α] {path : List α} {j : α} (hnodup : path.Nodup)
    (hchain : (j :: path).IsChain fun next i => R i next) (hj : j ∈ path) :
    ClosedWalk R ((path.takeWhile (· != j) ++ [j]).reverse ++ [j]) := by
  obtain ⟨later, earlier, rfl, hnew⟩ := List.eq_append_cons_of_mem hj
  have htake : (later ++ j :: earlier).takeWhile (· != j) = later := by
    rw [List.takeWhile_append_of_pos, List.takeWhile_cons_of_neg (by simp), List.append_nil]
    intro k hk
    exact bne_iff_ne.mpr fun heq => hnew (heq ▸ hk)
  have hback : (j :: (later ++ [j])).reverse = (later ++ [j]).reverse ++ [j] := List.reverse_cons
  rw [htake]
  refine ⟨by simp, ?_, ?_, ?_⟩
  · rw [List.getLast?_concat, List.reverse_concat]
    rfl
  · rw [List.dropLast_concat, List.nodup_reverse]
    exact hnodup.sublist (List.Sublist.append_left (List.singleton_sublist.mpr (by simp)) later)
  · rw [← hback, List.isChain_reverse]
    exact hchain.prefix ⟨earlier, by simp⟩

lemma ClosedWalk.map {walk : List α} (h : ClosedWalk R walk) (f : α → β)
    (hinj : ∀ a ∈ walk, ∀ b ∈ walk, f a = f b → a = b) (hf : ∀ a b, R a b → S (f a) (f b)) :
    ClosedWalk S (walk.map f) where
  two_le_length := by simpa using h.two_le_length
  closed := by rw [List.head?_map, List.getLast?_map, h.closed]
  nodup := by
    rw [← List.map_dropLast]
    exact h.nodup.map_on fun a ha b hb =>
      hinj a (List.mem_of_mem_dropLast ha) b (List.mem_of_mem_dropLast hb)
  linked := List.isChain_map_of_isChain f hf h.linked

end ClosedWalk

variable {programs : List Entry}

/-- The way of a search so far, latest first: references among programs that are left over. -/
structure Path (programs : List Entry) (path : List Nat) : Prop where
  nonempty : path ≠ []
  nodup : path.Nodup
  linked : path.IsChain fun next i => next ∈ targets programs i
  leftOver : ∀ i ∈ path, i < programs.length ∧ i ∉ (final programs).finished

lemma waiting_pos_iff {i : Nat} (hi : i < programs.length) :
    0 < (final programs).waiting i ↔ i ∉ (final programs).finished := by
  have hsettled := (final_consistent programs).settled i
  rw [final_ready] at hsettled
  simp only [List.not_mem_nil, false_or, hi, true_and] at hsettled
  rw [hsettled]
  omega

lemma Path.singleton {i : Nat} (hi : i < programs.length)
    (hwait : 0 < (final programs).waiting i) : Path programs [i] where
  nonempty := List.cons_ne_nil i []
  nodup := List.nodup_singleton i
  linked := List.isChain_singleton i
  leftOver := by
    intro j hj
    obtain rfl := List.mem_singleton.mp hj
    exact ⟨hi, (waiting_pos_iff hi).mp hwait⟩

section Step

variable {path : List Nat} {j : Nat} (hpath : Path programs path)
include hpath

/-- There is always a reference to follow. -/
lemma Path.exists_next : ∃ j, (path.head?.bind fun i =>
    (targets programs i).find? fun j => 0 < (final programs).waiting j) = some j := by
  obtain ⟨i, rest, rfl⟩ := List.exists_cons_of_ne_nil hpath.nonempty
  obtain ⟨hi, hf⟩ := hpath.leftOver i List.mem_cons_self
  obtain ⟨j, hj, hjf⟩ := exists_unfinished_target hi hf
  have hwait : 0 < (final programs).waiting j :=
    (waiting_pos_iff (lt_of_mem_targets hj)).mpr hjf
  exact Option.isSome_iff_exists.mp
    (List.find?_isSome.mpr ⟨j, hj, decide_eq_true hwait⟩)

section Next

variable (hnext : (path.head?.bind fun i =>
  (targets programs i).find? fun j => 0 < (final programs).waiting j) = some j)
include hnext

lemma Path.linked_cons : (j :: path).IsChain fun next i => next ∈ targets programs i := by
  obtain ⟨i, hhead, hfind⟩ := Option.bind_eq_some_iff.mp hnext
  refine hpath.linked.cons fun k hk => ?_
  obtain rfl := Option.some.inj (hhead.symm.trans hk)
  exact List.mem_of_find?_eq_some hfind

lemma Path.cons (hj : j ∉ path) : Path programs (j :: path) where
  nonempty := List.cons_ne_nil j path
  nodup := List.nodup_cons.mpr ⟨hj, hpath.nodup⟩
  linked := hpath.linked_cons hnext
  leftOver := by
    obtain ⟨i, _, hfind⟩ := Option.bind_eq_some_iff.mp hnext
    have hlt : j < programs.length := lt_of_mem_targets (List.mem_of_find?_eq_some hfind)
    have hwait : 0 < (final programs).waiting j := by simpa using List.find?_some hfind
    exact List.forall_mem_cons.mpr ⟨⟨hlt, (waiting_pos_iff hlt).mp hwait⟩, hpath.leftOver⟩

end Next

/-- The search ends on a closed walk, wherever it stands. -/
lemma Path.closedWalk {found : List Nat}
    (h : SearchEnds programs (final programs).waiting path found) :
    ClosedWalk (fun i next => next ∈ targets programs i) found ∧
      ∀ i ∈ found, i < programs.length := by
  induction h with
  | stuck hnext =>
    obtain ⟨j, hj⟩ := hpath.exists_next
    rw [hnext] at hj
    cases hj
  | @closed path j hnext hj =>
    refine ⟨.of_path hpath.nodup (hpath.linked_cons hnext) hj, fun i hi => (hpath.leftOver i ?_).1⟩
    simp only [List.reverse_append, List.reverse_singleton, List.mem_append, List.mem_singleton,
      List.mem_reverse] at hi
    rcases hi with (rfl | hi) | rfl
    · exact hj
    · exact (List.takeWhile_prefix _).subset hi
    · exact hj
  | further hnext hj _ ih => exact ih (hpath.cons hnext hj)

end Step

lemma order_eq_error {codes : List String} (h : order programs = .error codes) :
    (final programs).finished.length < programs.length ∧
      codes = cycle programs (final programs).waiting := by
  unfold order at h
  dsimp only at h
  split at h
  · rename_i hlen
    exact ⟨hlen, (Except.error.inj h).symm⟩
  · cases h

lemma exists_leftOver (h : (final programs).finished.length < programs.length) :
    ∃ i, (List.range programs.length).find? (fun i => 0 < (final programs).waiting i) = some i := by
  refine Option.isSome_iff_exists.mp (List.find?_isSome.mpr ?_)
  by_contra hnone
  have hall : ∀ i ∈ List.range programs.length, i ∈ (final programs).finished := by
    intro i hi
    by_contra hf
    exact hnone ⟨i, hi, decide_eq_true ((waiting_pos_iff (List.mem_range.mp hi)).mpr hf)⟩
  have hle := (List.subperm_of_subset List.nodup_range hall).length_le
  rw [List.length_range] at hle
  omega

/-- Where no order is found, the search for a cycle ends by itself. What it reports is a closed walk
along references between listed programs. -/
theorem order_error_closedWalk (hnd : (programs.map (·.1)).Nodup) {codes : List String}
    (h : order programs = .error codes) :
    (∃ i found,
      (List.range programs.length).find? (fun i => 0 < (final programs).waiting i) = some i ∧
      SearchEnds programs (final programs).waiting [i] found ∧
      codes = found.map (codeAt programs)) ∧
    ClosedWalk (fun code next => ∃ e ∈ programs, e.1 = code ∧ next ∈ e.2) codes ∧
    ∀ code ∈ codes, code ∈ programs.map (·.1) := by
  obtain ⟨hlen, rfl⟩ := order_eq_error h
  obtain ⟨i, hfirst⟩ := exists_leftOver hlen
  have hi : i < programs.length := List.mem_range.mp (List.mem_of_find?_eq_some hfirst)
  have hwait : 0 < (final programs).waiting i := by simpa using List.find?_some hfirst
  have hends := (terminates programs).search i hi
  obtain ⟨hwalk, hlisted⟩ := (Path.singleton hi hwait).closedWalk hends
  have hcycle : cycle programs (final programs).waiting =
      (walk programs (final programs).waiting programs.length [i]).map (codeAt programs) := by
    rw [cycle, hfirst]
  rw [hcycle]
  refine ⟨⟨i, _, hfirst, hends, rfl⟩, hwalk.map (codeAt programs) ?_ ?_, ?_⟩
  · exact fun j hj k hk => codeAt_inj hnd (hlisted j hj) (hlisted k hk)
  · exact fun j k hk => (refers_of_mem_targets hk).2
  · intro code hcode
    obtain ⟨j, hj, rfl⟩ := List.mem_map.mp hcode
    rw [← map_codeAt_range]
    exact List.mem_map_of_mem (List.mem_range.mpr (hlisted j hj))

/-- Programs of which the first that is left over is not itself part of the cycle. -/
def referencesIntoCycle : List Entry := [
  ("snap", []),
  ("co_weatherization_assistance", ["snap", "il_family_care"]),
  ("il_family_care", ["aca", "medicaid", "medicaid"]),
  ("medicaid", ["snap", "il_family_care"])]

theorem closedWalk_referencesIntoCycle :
    (referencesIntoCycle.map (·.1)).Nodup ∧
      order referencesIntoCycle = .error ["il_family_care", "medicaid", "il_family_care"] ∧
      ClosedWalk (fun code next => ∃ e ∈ referencesIntoCycle, e.1 = code ∧ next ∈ e.2)
        ["il_family_care", "medicaid", "il_family_care"] := by
  have hnd : (referencesIntoCycle.map (·.1)).Nodup := by decide
  have horder : order referencesIntoCycle =
      .error ["il_family_care", "medicaid", "il_family_care"] := by rfl
  exact ⟨hnd, horder, (order_error_closedWalk hnd horder).2.1⟩

end BenefitScreen.RunOrder
