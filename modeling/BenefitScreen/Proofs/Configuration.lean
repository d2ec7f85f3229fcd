import BenefitScreen.Evaluation
import BenefitScreen.Proofs.Fallible
import BenefitScreen.Proofs.Lookup
import BenefitScreen.Proofs.RunOrder

/-!
What an accepted configuration promises, and the evaluator that is made of it: its programs are the
configured ones, each once and after those whose results it reads.
-/

namespace BenefitScreen

open Fallible

namespace Registry

/-- A program ranks above those whose results it reads. -/
def rank (code : String) : Nat :=
  if code = "il_moms_and_babies" then 2
  else if code = "il_family_care" ∨ code = "co_weatherization_assistance" then 1
  else 0

lemma rank_references :
    ∀ e ∈ calculators, ∀ r ∈ e.2.references, rank r < rank e.1 := by
  decide

lemma exists_calculator {code : String} (h : code ∈ codes) :
    ∃ k, calculator code = .ok k ∧ (code, k) ∈ calculators := by
  obtain ⟨e, he, rfl⟩ := List.mem_map.mp h
  have hnd : (calculators.map (·.1)).Nodup := by decide
  refine ⟨e.2, ?_, he⟩
  rw [calculator, calculator?, find?_of_nodup_keys hnd he]
  rfl

lemma mem_calculators {code : String} {k : Calculator} (h : calculator code = .ok k) :
    (code, k) ∈ calculators := by
  unfold calculator calculator? at h
  split at h
  · rename_i k' hfind
    cases h
    obtain ⟨e, he, rfl⟩ := Option.map_eq_some_iff.mp hfind
    have hcode : e.1 = code := beq_iff_eq.mp (List.find?_some he :)
    exact hcode ▸ List.mem_of_find?_eq_some he
  · cases h

end Registry

namespace Configuration

lemma checkProgram_eq_ok {tables : Table PovertyTable} {before : List ProgramEntry}
    {p : ProgramEntry} :
    checkProgram tables before p = .ok () ↔ p.code ∈ Registry.codes ∧
      (∀ q ∈ before, q.code ≠ p.code) ∧ (tables.get? p.year).isSome := by
  unfold checkProgram
  split
  · rename_i h
    simp only [Bool.not_eq_true', List.contains_eq_mem, decide_eq_false_iff_not] at h
    simp [h]
  rename_i hknown
  split
  · rename_i h
    simp only [List.any_eq_true, beq_iff_eq] at h
    obtain ⟨q, hq, hcode⟩ := h
    simp only [reduceCtorEq, false_iff, not_and]
    intro _ hne
    exact absurd hcode (hne q hq)
  rename_i hnew
  split
  · rename_i h
    simp only [Table.contains, Bool.not_eq_true'] at h
    simp [h]
  · rename_i h
    simp only [Table.contains, Bool.not_eq_true', Bool.not_eq_false] at h
    simp_all

/-- What the checks of a list of programs come to. -/
lemma checkPrograms_eq_ok {tables : Table PovertyTable} {before ps : List ProgramEntry} :
    checkPrograms tables before ps = .ok () ↔
      (∀ p ∈ ps, p.code ∈ Registry.codes ∧ (tables.get? p.year).isSome) ∧
        (ps.map (·.code)).Nodup ∧ ∀ p ∈ ps, ∀ q ∈ before, q.code ≠ p.code := by
  induction ps generalizing before with
  | nil => simp [checkPrograms]
  | cons p ps ih =>
    rw [checkPrograms, bind_eq_ok]
    simp only [ih, List.mem_cons, forall_eq_or_imp, List.map_cons, List.nodup_cons, List.mem_map,
      not_exists, not_and]
    constructor
    · rintro ⟨⟨⟩, hp, hall, hnd, hne⟩
      obtain ⟨hk, hb, hy⟩ := checkProgram_eq_ok.mp hp
      exact ⟨⟨⟨hk, hy⟩, hall⟩, ⟨fun q hq he => (hne q hq).1 he.symm, hnd⟩, hb,
        fun q hq => (hne q hq).2⟩
    · rintro ⟨⟨⟨hk, hy⟩, hall⟩, ⟨hp, hnd⟩, hb, hne⟩
      exact ⟨(), checkProgram_eq_ok.mpr ⟨hk, hb, hy⟩, hall, hnd,
        fun q hq => ⟨fun he => hp q hq he.symm, hne q hq⟩⟩

/-- The programs of a configuration are known and distinct, and their tables are published. -/
structure Accepted (c : Configuration) : Prop where
  known : ∀ p ∈ c.programs, p.code ∈ Registry.codes
  distinct : (c.programs.map (·.code)).Nodup
  published : ∀ p ∈ c.programs, ∃ t, c.tables.get? p.year = some t

lemma accepted_of_ofParts {settings : Settings} {tables : Table PovertyTable}
    {programs : List ProgramEntry} {c : Configuration}
    (h : ofParts settings tables programs = .ok c) :
    c = ⟨settings, tables, programs⟩ ∧ c.Accepted := by
  unfold ofParts at h
  rw [bind_eq_ok] at h
  obtain ⟨_, _, h⟩ := h
  rw [bind_eq_ok] at h
  obtain ⟨_, hps, h⟩ := h
  cases h
  obtain ⟨hall, hnd, _⟩ := checkPrograms_eq_ok.mp hps
  exact ⟨rfl, fun p hp => (hall p hp).1, hnd,
    fun p hp => Option.isSome_iff_exists.mp (hall p hp).2⟩

lemma Accepted.program {c : Configuration} (hc : c.Accepted) {p : ProgramEntry}
    (hp : p ∈ c.programs) :
    ∃ t, c.tables.get? p.year = some t ∧
      c.program p.code = .ok ⟨p.code, p.name, p.state, p.year, t⟩ := by
  obtain ⟨t, ht⟩ := hc.published p hp
  refine ⟨t, ht, ?_⟩
  simp only [Configuration.program, find?_of_nodup_keys hc.distinct hp, table, ht]
  rfl

end Configuration

namespace Evaluator

/-- Programs in an order in which each comes after those of them whose results it reads. -/
def Ordered (programs : List (Program × Calculator)) : Prop :=
  ∀ before p after, programs = before ++ p :: after →
    ∀ r ∈ p.2.references, r ∈ programs.map (·.1.code) → r ∈ before.map (·.1.code)

/-- An evaluator that runs exactly the programs of a configuration, in order. -/
structure Runs (e : Evaluator) (c : Configuration) : Prop where
  codes : e.codes.Perm (c.programs.map (·.code))
  program : ∀ p ∈ e.programs, c.program p.1.code = .ok p.1
  calculator : ∀ p ∈ e.programs, Registry.calculator p.1.code = .ok p.2
  ordered : Ordered e.programs
  period : e.period = c.settings.simulation.period

/-- A program as it is configured, with the rules that are registered for it. -/
def Configured (c : Configuration) (p : ProgramEntry) (x : Program × Calculator) : Prop :=
  x.1.code = p.code ∧ c.program x.1.code = .ok x.1 ∧ Registry.calculator x.1.code = .ok x.2 ∧
    (x.1.code, x.2) ∈ Registry.calculators

lemma exists_configured {c : Configuration} (hc : c.Accepted) {p : ProgramEntry}
    (hp : p ∈ c.programs) :
    ∃ x : Program × Calculator,
      (do return (← c.program p.code, ← Registry.calculator p.code) :
        Except EngineError (Program × Calculator)) = .ok x ∧ Configured c p x := by
  obtain ⟨t, _, hprogram⟩ := hc.program hp
  obtain ⟨k, hk, hmem⟩ := Registry.exists_calculator (hc.known p hp)
  refine ⟨(⟨p.code, p.name, p.state, p.year, t⟩, k), ?_, rfl, hprogram, hk, hmem⟩
  rw [hprogram, hk]
  rfl

lemma codes_of_configured {c : Configuration} {ps : List ProgramEntry}
    {xs : List (Program × Calculator)} (h : List.Forall₂ (Configured c) ps xs) :
    xs.map (·.1.code) = ps.map (·.code) := by
  induction h with
  | nil => rfl
  | cons hx _ ih => rw [List.map_cons, List.map_cons, hx.1, ih]

lemma configured_of_mem {c : Configuration} {ps : List ProgramEntry}
    {xs : List (Program × Calculator)} (h : List.Forall₂ (Configured c) ps xs)
    {x : Program × Calculator} (hx : x ∈ xs) : ∃ p, Configured c p x := by
  obtain ⟨p, _, hp⟩ := exists_of_forall₂_mem h hx
  exact ⟨p, hp⟩

/-- Every accepted configuration has an evaluator. -/
theorem exists_runs {c : Configuration} (hc : c.Accepted) :
    ∃ e, ofConfiguration c = .ok e ∧ e.Runs c := by
  obtain ⟨entries, hmap, hall⟩ := exists_mapM_of_forall fun p hp => exists_configured hc hp
  have hentries := fun x hx => configured_of_mem hall (x := x) hx
  let graph : List RunOrder.Entry := entries.map fun x => (x.1.code, x.2.references)
  have hgraph : graph.map (·.1) = c.programs.map (·.code) := by
    rw [← codes_of_configured hall, List.map_map]
    rfl
  have hnd : (graph.map (·.1)).Nodup := hgraph ▸ hc.distinct
  have hrank : ∀ e ∈ graph, ∀ r ∈ e.2, Registry.rank r < Registry.rank e.1 := by
    intro e he
    obtain ⟨x, hx, rfl⟩ := List.mem_map.mp he
    obtain ⟨_, _, _, _, hmem⟩ := hentries x hx
    exact Registry.rank_references _ hmem
  obtain ⟨codes, hcodes⟩ :=
    RunOrder.order_isOk_of_wellFounded (RunOrder.wellFounded_of_rank Registry.rank hrank)
  obtain ⟨hperm, hafter⟩ := RunOrder.order_spec hnd hcodes
  let e : Evaluator := {
    programs := codes.filterMap fun code => entries.find? fun p => p.1.code == code
    period := c.settings.simulation.period }
  have he : ∀ x ∈ e.programs, x ∈ entries := by
    intro x hx
    obtain ⟨_, _, hfind⟩ := List.mem_filterMap.mp hx
    exact List.mem_of_find?_eq_some hfind
  have hecodes : e.programs.map (·.1.code) = codes := by
    refine map_filterMap_find? (fun x : Program × Calculator => x.1.code) entries ?_
    intro code hcode
    rw [codes_of_configured hall, ← hgraph]
    exact hperm.subset hcode
  refine ⟨e, ?_, ?_⟩
  · unfold ofConfiguration
    have horder : RunOrder.order (entries.map fun p => (p.1.code, p.2.references)) = .ok codes :=
      hcodes
    simp only [hmap, ok_bind, horder]
    rfl
  · refine ⟨?_, fun x hx => ?_, fun x hx => ?_, ?_, rfl⟩
    · rw [Evaluator.codes, hecodes, ← hgraph]
      exact hperm
    · obtain ⟨_, _, hprogram, _, _⟩ := hentries x (he x hx)
      exact hprogram
    · obtain ⟨_, _, _, hcalculator, _⟩ := hentries x (he x hx)
      exact hcalculator
    · intro before x after hsplit r hr hmem
      have hx : x ∈ entries := he x (hsplit ▸ List.mem_append_right _ List.mem_cons_self)
      have hcode : codes = before.map (·.1.code) ++ x.1.code :: after.map (·.1.code) := by
        rw [← hecodes, hsplit, List.map_append, List.map_cons]
      rw [hecodes] at hmem
      exact hafter _ _ _ hcode (x.1.code, x.2.references) (List.mem_map.mpr ⟨x, hx, rfl⟩) rfl r hr
        (hperm.subset hmem)

end Evaluator

end BenefitScreen
