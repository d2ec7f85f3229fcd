import BenefitScreen.Configuration.Shipped
import BenefitScreen.Proofs.Configuration

/-!
# When a configuration is accepted

The checks of a configuration stop at the first defect. A configuration gets through them exactly
when it has none, in the tables that no program uses as well. Nothing is left that could go wrong
afterwards: there is an order to run the programs in, and each program has its rules and its table.
-/

namespace BenefitScreen

open Fallible

namespace Configuration

variable {settings : Settings} {tables : Table PovertyTable} {programs : List ProgramEntry}
  {c : Configuration}

/-- Every table is checked, under the name of its year. -/
lemma checkTables_eq_ok :
    checkTables tables = .ok () ↔
      ∀ year t, tables.get? year = some t → t.validate (tableName year) = .ok () := by
  rw [checkTables, forM_eq_ok]
  constructor
  · intro hall year t hget
    exact hall (year, t) (Table.get?_eq_some.mp hget)
  · rintro hall ⟨year, t⟩ hmem
    exact hall year t (Table.get?_eq_some.mpr hmem)

lemma ofParts_eq_ok :
    ofParts settings tables programs = .ok c ↔
      checkTables tables = .ok () ∧ checkPrograms tables [] programs = .ok () ∧
        c = ⟨settings, tables, programs⟩ := by
  rw [ofParts, bind_eq_ok]
  simp only [bind_eq_ok, pure_eq_ok]
  constructor
  · rintro ⟨_, htables, _, hprograms, rfl⟩
    exact ⟨htables, hprograms, rfl⟩
  · rintro ⟨htables, hprograms, rfl⟩
    exact ⟨(), htables, (), hprograms, rfl⟩

/-- What the checks come to: no defect in any table and in any program. -/
lemma exists_ofParts_iff :
    (∃ c, ofParts settings tables programs = .ok c) ↔
      (∀ year t, tables.get? year = some t → t.validate (tableName year) = .ok ()) ∧
      (∀ p ∈ programs, p.code ∈ Registry.codes) ∧
      (programs.map (·.code)).Nodup ∧
      ∀ p ∈ programs, ∃ t, tables.get? p.year = some t := by
  simp only [ofParts_eq_ok, checkTables_eq_ok, checkPrograms_eq_ok, Option.isSome_iff_exists]
  constructor
  · rintro ⟨c, htables, ⟨hprograms, hdistinct, _⟩, _⟩
    exact ⟨htables, fun p hp => (hprograms p hp).1, hdistinct, fun p hp => (hprograms p hp).2⟩
  · rintro ⟨htables, hknown, hdistinct, hpublished⟩
    refine ⟨⟨settings, tables, programs⟩, htables, ⟨?_, hdistinct, ?_⟩, rfl⟩
    · exact fun p hp => ⟨hknown p hp, hpublished p hp⟩
    · rintro p hp q ⟨⟩

end Configuration

namespace Evaluator

/-- The codes of an evaluator come after those of their references that it runs. -/
lemma Runs.references_before {e : Evaluator} {c : Configuration} (hr : e.Runs c)
    {before after : List String} {code : String} (hsplit : e.codes = before ++ code :: after) :
    ∃ k, Registry.calculator code = .ok k ∧ ∀ r ∈ k.references, r ∈ e.codes → r ∈ before := by
  obtain ⟨xs, rest, hprograms, rfl, hrest⟩ := List.map_eq_append_iff.mp hsplit
  obtain ⟨p, ys, rfl, rfl, rfl⟩ := List.map_eq_cons_iff.mp hrest
  have hp : p ∈ e.programs := hprograms ▸ List.mem_append_right _ List.mem_cons_self
  exact ⟨p.2, hr.calculator p hp, hr.ordered xs p ys hprograms⟩

end Evaluator

namespace Configuration

/-- A configuration is accepted exactly when every table is in order and its programs are
registered, distinct and of published years. Whatever is accepted can be run: the programs have an
order in which each comes after those whose results it reads, and each is found with its own name,
state and table. -/
theorem ofParts_accepts_what_runs (settings : Settings) (tables : Table PovertyTable)
    (programs : List ProgramEntry) :
    ((∃ c, ofParts settings tables programs = .ok c) ↔
      (∀ year t, tables.get? year = some t → t.validate (tableName year) = .ok ()) ∧
      (∀ p ∈ programs, p.code ∈ Registry.codes) ∧
      (programs.map (·.code)).Nodup ∧
      ∀ p ∈ programs, ∃ t, tables.get? p.year = some t) ∧
    ∀ c, ofParts settings tables programs = .ok c →
      (∃ e, Evaluator.ofConfiguration c = .ok e ∧
        e.codes.Perm (programs.map (·.code)) ∧
        ∀ before code after, e.codes = before ++ code :: after →
          ∃ k, Registry.calculator code = .ok k ∧
            ∀ r ∈ k.references, r ∈ programs.map (·.code) → r ∈ before) ∧
      ∀ p ∈ programs, ∃ t, tables.get? p.year = some t ∧
        c.program p.code = .ok ⟨p.code, p.name, p.state, p.year, t⟩ := by
  refine ⟨exists_ofParts_iff, fun c hc => ?_⟩
  obtain ⟨rfl, hacc⟩ := accepted_of_ofParts hc
  refine ⟨?_, fun p hp => hacc.program hp⟩
  obtain ⟨e, he, hruns⟩ := Evaluator.exists_runs hacc
  refine ⟨e, he, hruns.codes, fun before code after hsplit => ?_⟩
  obtain ⟨k, hk, hbefore⟩ := hruns.references_before hsplit
  exact ⟨k, hk, fun r hr hlisted => hbefore r hr (hruns.codes.symm.subset hlisted)⟩

/-- Programs that stand before those whose results they read, of both published years. -/
def backwards : List ProgramEntry := [
  ⟨"co_weatherization_assistance", "Weatherization", some "CO", "2025"⟩,
  ⟨"il_moms_and_babies", "Moms & Babies", some "IL", "2024"⟩,
  ⟨"il_family_care", "FamilyCare", some "IL", "2025"⟩,
  ⟨"snap", "SNAP", none, "2024"⟩]

theorem backwards_accepted :
    ∃ c e, ofParts Shipped.settings Shipped.tables backwards = .ok c ∧
      Evaluator.ofConfiguration c = .ok e ∧ e.codes.Perm (backwards.map (·.code)) ∧
      c.program "il_moms_and_babies" =
        .ok ⟨"il_moms_and_babies", "Moms & Babies", some "IL", "2024", Shipped.table2024⟩ := by
  obtain ⟨hiff, hruns⟩ := ofParts_accepts_what_runs Shipped.settings Shipped.tables backwards
  have htables : checkTables Shipped.tables = .ok () := by decide +kernel
  have hpublished : ∀ p ∈ backwards, (Shipped.tables.get? p.year).isSome := by decide
  obtain ⟨c, hc⟩ := hiff.mpr ⟨checkTables_eq_ok.mp htables, by decide, by decide,
    fun p hp => Option.isSome_iff_exists.mp (hpublished p hp)⟩
  obtain ⟨⟨e, he, hperm, _⟩, hprogram⟩ := hruns c hc
  obtain ⟨t, ht, hmoms⟩ := hprogram ⟨"il_moms_and_babies", "Moms & Babies", some "IL", "2024"⟩
    (by decide)
  obtain rfl : Shipped.table2024 = t := Option.some.inj ht
  exact ⟨c, e, hc, he, hperm, hmoms⟩

end Configuration

end BenefitScreen
