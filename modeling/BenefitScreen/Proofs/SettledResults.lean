import BenefitScreen.Proofs.Configuration
import BenefitScreen.Proofs.DeclaredReads

/-!
Programs that run in order see as much of the results as if all of them were there from the start:
the table that a run ends with is the one table that the rules of all programs agree on.
-/

namespace BenefitScreen.Evaluator

open Calculator Fallible

variable {h : Household} {asOf : Date} {simulation : SimulationOutcome} {limits : ResolvedLimits}

/-- What a program looks at when the others have given `results`. -/
def contextOf (h : Household) (asOf : Date) (simulation : SimulationOutcome)
    (limits : ResolvedLimits) (program : Program) (results : Table ProgramResult) : Context :=
  ⟨h, program, results, simulation, limits, asOf⟩

/-- A table with the result of each program on this very table, and with no other results. -/
structure Settled (context : Program → Table ProgramResult → Context)
    (programs : List (Program × Calculator)) (results : Table ProgramResult) : Prop where
  result : ∀ p ∈ programs, ∃ r, p.2.calculate (context p.1 results) = .ok r ∧
    results.get? p.1.code = some r
  absent : ∀ code, code ∉ programs.map (·.1.code) → results.get? code = none

/-- Tables that agree on what a program declares to read give it the same result. -/
lemma calculate_contextOf_congr {p : Program × Calculator} (hp : p.2.ReadsDeclared)
    {s t : Table ProgramResult} (hst : ∀ code ∈ p.2.references, s.get? code = t.get? code) :
    p.2.calculate (contextOf h asOf simulation limits p.1 s) =
      p.2.calculate (contextOf h asOf simulation limits p.1 t) :=
  calculate_congr hp ⟨rfl, rfl, rfl, rfl, hst, rfl, fun _ _ => rfl, rfl⟩

lemma runProgram_eq_ok {context : Program → Table ProgramResult → Context}
    {s t : Table ProgramResult} {p : Program × Calculator} :
    runProgram context s p = .ok t ↔
      ∃ r, p.2.calculate (context p.1 s) = .ok r ∧ t = s.insert p.1.code r := by
  unfold runProgram
  rw [bind_eq_ok]
  exact exists_congr fun r => and_congr_right fun _ => ⟨fun he => (pure_eq_ok.mp he).symm,
    fun he => pure_eq_ok.mpr he.symm⟩

/-- Running programs leaves the results of all others alone. -/
lemma get?_foldlM_runProgram {context : Program → Table ProgramResult → Context}
    {programs : List (Program × Calculator)} {s t : Table ProgramResult}
    (hrun : programs.foldlM (runProgram context) s = .ok t) {code : String}
    (hcode : code ∉ programs.map (·.1.code)) : t.get? code = s.get? code := by
  induction programs generalizing s with
  | nil =>
    rw [pure_eq_ok.mp hrun]
  | cons p programs ih =>
    obtain ⟨m, hm, hrest⟩ := foldlM_cons_eq_ok.mp hrun
    obtain ⟨r, _, rfl⟩ := runProgram_eq_ok.mp hm
    rw [List.map_cons, List.mem_cons, not_or] at hcode
    rw [ih hrest hcode.2, Table.get?_insert, if_neg hcode.1]

lemma not_mem_of_nodup_split {programs before after : List (Program × Calculator)}
    {p : Program × Calculator} (hnd : (programs.map (·.1.code)).Nodup)
    (hsplit : programs = before ++ p :: after) {code : String}
    (hcode : code ∈ before.map (·.1.code)) : code ∉ (p :: after).map (·.1.code) := by
  rw [hsplit, List.map_append] at hnd
  exact fun hmem => (List.nodup_append.mp hnd).2.2 code hcode code hmem rfl

/-- A run ends with a settled table. -/
theorem settled_of_runAll {programs : List (Program × Calculator)} {results : Table ProgramResult}
    (hnd : (programs.map (·.1.code)).Nodup) (hord : Ordered programs)
    (hreads : ∀ p ∈ programs, p.2.ReadsDeclared)
    (hrun : runAll programs h asOf simulation limits = .ok results) :
    Settled (contextOf h asOf simulation limits) programs results where
  absent code hcode := by
    rw [get?_foldlM_runProgram hrun hcode, Table.get?_empty]
  result p hp := by
    obtain ⟨before, after, hsplit⟩ := List.append_of_mem hp
    have hall := hrun
    unfold runAll at hall
    rw [hsplit, foldlM_append_eq_ok] at hall
    obtain ⟨s, hbefore, hrest⟩ := hall
    obtain ⟨t, ht, hafter⟩ := foldlM_cons_eq_ok.mp hrest
    obtain ⟨r, hr, rfl⟩ := runProgram_eq_ok.mp ht
    -- What `p` reads has run before it, or never runs, and both are final when `p` runs.
    have hview : ∀ code ∈ p.2.references, s.get? code = results.get? code := by
      intro code hcode
      by_cases hlisted : code ∈ programs.map (·.1.code)
      · have hbef := hord before p after hsplit code hcode hlisted
        exact (get?_foldlM_runProgram hrest (not_mem_of_nodup_split hnd hsplit hbef)).symm
      · have hout : code ∉ before.map (·.1.code) := by
          intro hmem
          refine hlisted ?_
          rw [hsplit, List.map_append]
          exact List.mem_append_left _ hmem
        rw [get?_foldlM_runProgram hbefore hout, get?_foldlM_runProgram hrun hlisted]
    have hself : p.1.code ∉ after.map (·.1.code) := by
      rw [hsplit, List.map_append, List.map_cons] at hnd
      exact (List.nodup_cons.mp (List.nodup_append.mp hnd).2.1).1
    refine ⟨r, ?_, ?_⟩
    · rw [← calculate_contextOf_congr (hreads p hp) hview]
      exact hr
    · rw [get?_foldlM_runProgram hafter hself, Table.get?_insert, if_pos rfl]

/-- The rest of a run reaches a settled table from the part of it that was filled in before. -/
lemma foldlM_runProgram_of_settled {programs : List (Program × Calculator)}
    {results : Table ProgramResult} (hord : Ordered programs)
    (hreads : ∀ p ∈ programs, p.2.ReadsDeclared)
    (hset : Settled (contextOf h asOf simulation limits) programs results)
    (rest before : List (Program × Calculator)) (hsplit : programs = before ++ rest)
    (s : Table ProgramResult)
    (hs : ∀ code, s.get? code =
      if code ∈ before.map (·.1.code) then results.get? code else none) :
    rest.foldlM (runProgram (contextOf h asOf simulation limits)) s = .ok results := by
  -- On the programs left to run; `s` holds the settled results of those before them alone.
  induction rest generalizing before s with
  | nil =>
    rw [List.append_nil] at hsplit
    refine congrArg Except.ok (Table.ext_get? fun code => ?_)
    rw [hs code, ← hsplit]
    split
    · rfl
    · rename_i hcode
      exact (hset.absent code hcode).symm
  | cons p rest ih =>
    have hp : p ∈ programs := hsplit ▸ List.mem_append_right _ List.mem_cons_self
    obtain ⟨r, hr, hget⟩ := hset.result p hp
    have hview : ∀ code ∈ p.2.references, s.get? code = results.get? code := by
      intro code hcode
      rw [hs code]
      split
      · rfl
      · rename_i hout
        refine (hset.absent code fun hmem => hout ?_).symm
        exact hord before p rest hsplit code hcode hmem
    refine foldlM_cons_eq_ok.mpr ⟨s.insert p.1.code r, runProgram_eq_ok.mpr ⟨r, ?_, rfl⟩, ?_⟩
    · rw [calculate_contextOf_congr (hreads p hp) hview]
      exact hr
    · refine ih (before ++ [p]) (by rw [hsplit, List.append_assoc]; rfl) _ fun code => ?_
      rw [Table.get?_insert, hs code]
      by_cases hcode : code = p.1.code
      · simp [hcode, hget]
      · have hmem : code ∈ (before ++ [p]).map (·.1.code) ↔ code ∈ before.map (·.1.code) := by
          simp [hcode]
        simp only [hcode, if_false, hmem]

/-- A settled table is what a run ends with, whatever the order of the programs. -/
theorem runAll_of_settled {programs : List (Program × Calculator)} {results : Table ProgramResult}
    (hord : Ordered programs) (hreads : ∀ p ∈ programs, p.2.ReadsDeclared)
    (hset : Settled (contextOf h asOf simulation limits) programs results) :
    runAll programs h asOf simulation limits = .ok results :=
  foldlM_runProgram_of_settled hord hreads hset programs [] rfl .empty fun code => by simp

end BenefitScreen.Evaluator
