import BenefitScreen.Configuration.Shipped
import BenefitScreen.Proofs.ProgramResult
import BenefitScreen.Proofs.SettledResults

/-!
A report covers the programs that are offered to the household, and each of its results is the one
that the rules give when they see the whole report.
-/

namespace BenefitScreen

open Calculator Fallible Simulation

/-- Whether a configured program is offered in the household's state. -/
def ProgramEntry.OfferedTo (p : ProgramEntry) (h : Household) : Prop :=
  p.state = none ∨ ∃ state, p.state = some state ∧ Text.sameLetters state h.state = true

def Report.results (r : Report) : Table ProgramResult :=
  .ofList (r.programs.map fun p => (p.code, p))

namespace Evaluator

/-- What an evaluation learns from outside before any program runs. -/
def Gathers {σ : Type} (e : Evaluator) (backend : Backend σ) (h : Household) (s : σ)
    (simulation : SimulationOutcome) (limits : ResolvedLimits) (s' : σ) : Prop :=
  ∃ t, simulate backend h ((e.active h).filterMap fun p => p.2.vars) e.period s =
      (.ok simulation, t) ∧
    ResolvedLimits.resolve backend.limit
        ((e.active h).flatMap fun p => p.2.limitQueries h) .empty t =
      (limits, s')

lemma evaluate_eq_ok {σ : Type} {e : Evaluator} {backend : Backend σ} {h : Household} {asOf : Date}
    {s s' : σ} {r : Report} (heval : e.evaluate backend h asOf s = (.ok r, s')) :
    ∃ simulation limits results, e.Gathers backend h s simulation limits s' ∧
      runAll (e.active h) h asOf simulation limits = .ok results ∧
      r = report (e.active h) h results := by
  unfold evaluate at heval
  dsimp only at heval
  rw [Prod.mk.injEq] at heval
  obtain ⟨hok, hs'⟩ := heval
  obtain ⟨simulation, hsim, hok⟩ := bind_eq_ok.mp hok
  obtain ⟨results, hrun, hok⟩ := bind_eq_ok.mp hok
  exact ⟨simulation, _, results, ⟨_, Prod.ext hsim rfl, Prod.ext rfl hs'⟩,
    EngineError.ofOverflow_eq_ok.mp hrun, (pure_eq_ok.mp hok).symm⟩

lemma Ordered.filter {programs : List (Program × Calculator)} (hord : Ordered programs)
    (hnd : (programs.map (·.1.code)).Nodup) (f : Program × Calculator → Bool) :
    Ordered (programs.filter f) := by
  intro before p after hsplit r hr hmem
  obtain ⟨before', rest, hprograms, rfl, hrest⟩ := List.filter_eq_append_iff.mp hsplit
  obtain ⟨skipped, after', rfl, hskipped, _, _⟩ := List.filter_eq_cons_iff.mp hrest
  obtain ⟨x, hx, rfl⟩ := List.mem_map.mp hmem
  obtain ⟨hx, hfx⟩ := List.mem_filter.mp hx
  have hprograms' : programs = (before' ++ skipped) ++ p :: after' := by
    rw [hprograms, List.append_assoc]
  obtain ⟨y, hy, hcode⟩ := List.mem_map.mp
    (hord _ p after' hprograms' x.1.code hr (List.mem_map_of_mem hx))
  have hyx : y = x := List.inj_on_of_nodup_map hnd (hprograms' ▸ List.mem_append_left _ hy) hx hcode
  subst hyx
  have hy' : y ∈ before' := (List.mem_append.mp hy).resolve_right fun h => hskipped y h hfx
  exact List.mem_map_of_mem (List.mem_filter.mpr ⟨hy', hfx⟩)

namespace Runs

variable {e : Evaluator} {c : Configuration}

lemma nodup (hr : e.Runs c) (hc : c.Accepted) : (e.programs.map (·.1.code)).Nodup :=
  hr.codes.nodup_iff.mpr hc.distinct

lemma active_nodup (hr : e.Runs c) (hc : c.Accepted) (h : Household) :
    ((e.active h).map (·.1.code)).Nodup :=
  (hr.nodup hc).sublist (List.filter_sublist.map _)

lemma active_ordered (hr : e.Runs c) (hc : c.Accepted) (h : Household) : Ordered (e.active h) :=
  hr.ordered.filter (hr.nodup hc) _

lemma mem_calculators (hr : e.Runs c) {h : Household} {p : Program × Calculator}
    (hp : p ∈ e.active h) : (p.1.code, p.2) ∈ Registry.calculators :=
  Registry.mem_calculators (hr.calculator p (List.mem_filter.mp hp).1)

lemma active_readsDeclared (hr : e.Runs c) (h : Household) :
    ∀ p ∈ e.active h, p.2.ReadsDeclared :=
  fun _ hp => Registry.readsDeclared (hr.mem_calculators hp)

lemma program_eq (hr : e.Runs c) (hc : c.Accepted) {x : Program × Calculator} (hx : x ∈ e.programs)
    {p : ProgramEntry} (hp : p ∈ c.programs) (hcode : p.code = x.1.code) :
    ∃ t, c.tables.get? p.year = some t ∧ x.1 = ⟨p.code, p.name, p.state, p.year, t⟩ := by
  obtain ⟨t, ht, hprogram⟩ := hc.program hp
  have hx' := hr.program x hx
  rw [← hcode, hprogram] at hx'
  exact ⟨t, ht, (Except.ok.inj hx').symm⟩

lemma appliesTo_iff (hr : e.Runs c) (hc : c.Accepted) {x : Program × Calculator}
    (hx : x ∈ e.programs) {p : ProgramEntry} (hp : p ∈ c.programs) (hcode : p.code = x.1.code)
    (h : Household) : x.1.appliesTo h = true ↔ p.OfferedTo h := by
  obtain ⟨t, _, heq⟩ := hr.program_eq hc hx hp hcode
  rw [heq, Program.appliesTo, ProgramEntry.OfferedTo]
  cases p.state <;> simp

lemma exists_entry (hr : e.Runs c) (hc : c.Accepted) {h : Household} {x : Program × Calculator}
    (hx : x ∈ e.active h) : ∃ p ∈ c.programs, p.code = x.1.code ∧ p.OfferedTo h := by
  obtain ⟨hx, happlies⟩ := List.mem_filter.mp hx
  obtain ⟨p, hp, hcode⟩ := List.mem_map.mp (hr.codes.subset (List.mem_map_of_mem hx))
  exact ⟨p, hp, hcode, (hr.appliesTo_iff hc hx hp hcode h).mp happlies⟩

lemma exists_active (hr : e.Runs c) (hc : c.Accepted) {h : Household} {p : ProgramEntry}
    (hp : p ∈ c.programs) (hoffered : p.OfferedTo h) : ∃ x ∈ e.active h, p.code = x.1.code := by
  obtain ⟨x, hx, hcode⟩ := List.mem_map.mp (hr.codes.symm.subset (List.mem_map_of_mem hp))
  have happlies := (hr.appliesTo_iff hc hx hp hcode.symm h).mpr hoffered
  exact ⟨x, List.mem_filter.mpr ⟨hx, happlies⟩, hcode.symm⟩

/-- The programs that an evaluation runs are those that are offered to the household. -/
lemma mem_active_codes (hr : e.Runs c) (hc : c.Accepted) (h : Household) (code : String) :
    code ∈ (e.active h).map (·.1.code) ↔ ∃ p ∈ c.programs, p.code = code ∧ p.OfferedTo h := by
  constructor
  · intro hmem
    obtain ⟨x, hx, rfl⟩ := List.mem_map.mp hmem
    exact hr.exists_entry hc hx
  · rintro ⟨p, hp, rfl, hoffered⟩
    obtain ⟨x, hx, hcode⟩ := hr.exists_active hc hp hoffered
    exact List.mem_map.mpr ⟨x, hx, hcode.symm⟩

end Runs

namespace Settled

variable {h : Household} {asOf : Date} {simulation : SimulationOutcome} {limits : ResolvedLimits}
  {programs : List (Program × Calculator)} {results : Table ProgramResult}

lemma result_code (hset : Settled (contextOf h asOf simulation limits) programs results)
    {p : Program × Calculator} (hp : p ∈ programs) :
    ∃ r, p.2.calculate (contextOf h asOf simulation limits p.1 results) = .ok r ∧
      results.get? p.1.code = some r ∧ r.code = p.1.code := by
  obtain ⟨r, hr, hget⟩ := hset.result p hp
  obtain ⟨_, hcalculation⟩ := exists_calculation hr
  exact ⟨r, hr, hget, hcalculation.code⟩

lemma report_codes (hset : Settled (contextOf h asOf simulation limits) programs results) :
    (report programs h results).programs.map (·.code) = programs.map (·.1.code) := by
  have hcode := fun p hp => hset.result_code (p := p) hp
  unfold report
  dsimp only
  clear hset
  induction programs with
  | nil => rfl
  | cons p programs ih =>
    obtain ⟨r, _, hget, hr⟩ := hcode p List.mem_cons_self
    simp only [List.filterMap_cons, hget, List.map_cons, hr]
    rw [ih fun q hq => hcode q (List.mem_cons_of_mem _ hq)]

/-- A report on a settled table has exactly the results of that table. -/
lemma report_results (hset : Settled (contextOf h asOf simulation limits) programs results)
    (hnd : (programs.map (·.1.code)).Nodup) : (report programs h results).results = results := by
  have hkeys : ((report programs h results).programs.map fun p => (p.code, p)).map (·.1) =
      programs.map (·.1.code) := by
    rw [List.map_map, ← hset.report_codes]
    rfl
  apply Table.ext_get?
  intro code
  by_cases hcode : code ∈ programs.map (·.1.code)
  · obtain ⟨p, hp, rfl⟩ := List.mem_map.mp hcode
    obtain ⟨r, _, hget, hr⟩ := hset.result_code hp
    have hmem : (p.1.code, r) ∈ (report programs h results).programs.map fun p => (p.code, p) :=
      List.mem_map.mpr ⟨r, List.mem_filterMap.mpr ⟨p, hp, hget⟩, by rw [hr]⟩
    rw [Report.results, Table.get?_ofList_of_mem (hkeys ▸ hnd) hmem, hget]
  · rw [hset.absent code hcode]
    exact Table.get?_ofList_of_not_mem (hkeys ▸ hcode)

lemma program?_report (hset : Settled (contextOf h asOf simulation limits) programs results)
    (hnd : (programs.map (·.1.code)).Nodup) (code : String) :
    (report programs h results).program? code = results.get? code := by
  have hcodes := hset.report_codes
  by_cases hcode : code ∈ programs.map (·.1.code)
  · obtain ⟨p, hp, rfl⟩ := List.mem_map.mp hcode
    obtain ⟨r, _, hget, hr⟩ := hset.result_code hp
    have hmem : r ∈ (report programs h results).programs := List.mem_filterMap.mpr ⟨p, hp, hget⟩
    rw [hget, ← hr]
    exact find?_of_nodup_keys (hcodes ▸ hnd) hmem
  · rw [hset.absent code hcode]
    refine List.find?_eq_none.mpr fun r hr he => hcode ?_
    rw [← hcodes, ← beq_iff_eq.mp he]
    exact List.mem_map_of_mem hr

end Settled

/-- A report is made of a settled table of what the evaluation gathered. -/
lemma Runs.settled_of_evaluate {e : Evaluator} {c : Configuration} (hr : e.Runs c)
    (hc : c.Accepted) {σ : Type} {backend : Backend σ} {h : Household} {asOf : Date} {s s' : σ}
    {r : Report} (heval : e.evaluate backend h asOf s = (.ok r, s')) :
    ∃ simulation limits results, e.Gathers backend h s simulation limits s' ∧
      Settled (contextOf h asOf simulation limits) (e.active h) results ∧
      r = report (e.active h) h results := by
  obtain ⟨simulation, limits, results, hgather, hrun, hreport⟩ := evaluate_eq_ok heval
  refine ⟨simulation, limits, results, hgather, ?_, hreport⟩
  exact settled_of_runAll (hr.active_nodup hc h) (hr.active_ordered hc h)
    (hr.active_readsDeclared h) hrun

/-- A report covers each program that is offered to the household once, in run order, and each of
its results is what the rules give for the complete results of the report. So no program acts on a
result that is missing or not final. -/
theorem evaluate_agrees_with_complete_results {settings : Settings} {tables : Table PovertyTable}
    {programs : List ProgramEntry} {c : Configuration}
    (hc : Configuration.ofParts settings tables programs = .ok c) :
    ∃ e, ofConfiguration c = .ok e ∧
      ∀ (σ : Type) (backend : Backend σ) (h : Household) (asOf : Date) (s s' : σ) (r : Report),
        e.evaluate backend h asOf s = (.ok r, s') →
          (r.programs.map (·.code)).Nodup ∧
          (r.programs.map (·.code)).Sublist e.codes ∧
          (∀ code, code ∈ r.programs.map (·.code) ↔
            ∃ p ∈ programs, p.code = code ∧ p.OfferedTo h) ∧
          ∃ simulation limits, e.Gathers backend h s simulation limits s' ∧
            ∀ result ∈ r.programs, ∃ program calculator,
              c.program result.code = .ok program ∧
              Registry.calculator result.code = .ok calculator ∧
              calculator.calculate ⟨h, program, r.results, simulation, limits, asOf⟩ =
                .ok result := by
  obtain ⟨rfl, hacc⟩ := Configuration.accepted_of_ofParts hc
  obtain ⟨e, he, hruns⟩ := exists_runs hacc
  refine ⟨e, he, ?_⟩
  intro σ backend h asOf s s' r heval
  obtain ⟨simulation, limits, results, hgather, hrun, rfl⟩ := evaluate_eq_ok heval
  have hnd := hruns.active_nodup hacc h
  have hset := settled_of_runAll hnd (hruns.active_ordered hacc h) (hruns.active_readsDeclared h)
    hrun
  rw [hset.report_codes]
  refine ⟨hnd, List.filter_sublist.map _, hruns.mem_active_codes hacc h, simulation, limits,
    hgather, ?_⟩
  intro result hresult
  obtain ⟨p, hp, hget⟩ := List.mem_filterMap.mp hresult
  obtain ⟨r, hr, hget', hcode⟩ := hset.result_code hp
  obtain rfl : r = result := Option.some.inj (hget'.symm.trans hget)
  have hp' := (List.mem_filter.mp hp).1
  rw [hcode, hset.report_results hnd]
  exact ⟨p.1, p.2, hruns.program p hp', hruns.calculator p hp', hr⟩

/-- Weatherization, listed before the food assistance that can stand in for its income check. -/
def energyPrograms : List ProgramEntry := [
  ⟨"co_weatherization_assistance", "Weatherization", some "CO", "2025"⟩,
  ⟨"snap", "SNAP", none, "2025"⟩,
  ⟨"nc_lieap", "Energy Assistance", some "NC", "2024"⟩]

/-- A renter in Colorado who earns a thousand a month. -/
def renter : Household where
  id := ⟨0⟩
  state := "co"
  reportedSize := none
  assets := .zero
  county := none
  zipcode := none
  members := [{
    id := ⟨1⟩
    relationship := .headOfHousehold
    age := some 31
    birthMonth := none
    pregnant := false
    disabled := false
    visuallyImpaired := false
    longTermDisability := false
    student := false
    insurance := .empty
    incomeStreams := [⟨.wages, .whole 1000, .monthly, none⟩] }]
  expenses := [⟨.rent, .whole 800, .monthly⟩]
  currentBenefits := .empty

def foodBackend : Backend Unit where
  simulate _ period s :=
    let unit : Group := ⟨["1"], .ofList [("snap", .ofList [(period, .ofInt 1200)])]⟩
    (.ok ⟨{ Document.empty with spmUnits := .ofList [(spmUnitKey, unit)] }, period⟩, s)
  limit _ s := (.error (.unavailable "offline"), s)

/-- The renter's county is not known, so weatherization rests on the food assistance that is
configured after it. -/
theorem weatherization_agrees_with_snap :
    ∃ c e r simulation limits,
      Configuration.ofParts Shipped.settings Shipped.tables energyPrograms = .ok c ∧
      ofConfiguration c = .ok e ∧
      e.evaluate foodBackend renter ⟨2025, 6, 1⟩ () = (.ok r, ()) ∧
      (r.program? "co_weatherization_assistance").any ProgramResult.eligible = true ∧
      ∀ result ∈ r.programs, ∃ program calculator,
        c.program result.code = .ok program ∧
        Registry.calculator result.code = .ok calculator ∧
        calculator.calculate ⟨renter, program, r.results, simulation, limits, ⟨2025, 6, 1⟩⟩ =
          .ok result := by
  have hscreen : (do
      let c ← Configuration.ofParts Shipped.settings Shipped.tables energyPrograms
      let e ← ofConfiguration c
      (e.evaluate foodBackend renter ⟨2025, 6, 1⟩ ()).1).toOption.any (fun r : Report =>
        (r.program? "co_weatherization_assistance").any ProgramResult.eligible) = true := by
    decide +kernel
  obtain ⟨r, hr, heligible⟩ := exists_ok_of_any hscreen
  obtain ⟨c, hc, hr⟩ := bind_eq_ok.mp hr
  obtain ⟨e, he, hr⟩ := bind_eq_ok.mp hr
  have heval : e.evaluate foodBackend renter ⟨2025, 6, 1⟩ () = (.ok r, ()) := Prod.ext hr rfl
  obtain ⟨e', he', hall⟩ := evaluate_agrees_with_complete_results hc
  obtain rfl : e = e' := Except.ok.inj (he.symm.trans he')
  obtain ⟨_, _, _, simulation, limits, _, hresults⟩ := hall Unit foodBackend renter _ () () r heval
  exact ⟨c, e, r, simulation, limits, hc, he, heval, heligible, hresults⟩

end Evaluator

end BenefitScreen
