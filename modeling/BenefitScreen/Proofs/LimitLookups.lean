import BenefitScreen.Proofs.CompleteReport

/-!
Income limits are looked up before any program runs. A program that could ask for them while it runs
would get the same result, since it looks at no limit that it does not declare.
-/

namespace BenefitScreen

open Calculator Fallible Simulation

namespace ResolvedLimits

lemma find?_insert (l : ResolvedLimits) (q q' : LimitQuery) (a : LimitAnswer) :
    (l.insert q a).find? q' = if q' = q then some a else l.find? q' := by
  unfold insert find?
  by_cases h : q' = q
  · simp [h]
  · have h' : ¬q = q' := fun e => h e.symm
    simp [h, h']

/-- Every query is answered once, and an answer that is there already is kept. -/
lemma find?_resolve {σ : Type} {ask : LimitQuery → σ → LimitAnswer × σ}
    {answer : LimitQuery → LimitAnswer} (hask : ∀ q s, (ask q s).1 = answer q)
    (qs : List LimitQuery) (l : ResolvedLimits) (s : σ) (q : LimitQuery) :
    (resolve ask qs l s).1.find? q =
      (l.find? q).or (if q ∈ qs then some (answer q) else none) := by
  induction qs generalizing l s with
  | nil => simp [resolve]
  | cons p qs ih =>
    unfold resolve
    split
    · rename_i hsome
      rw [ih]
      by_cases hq : q = p
      · obtain ⟨a, ha⟩ := Option.isSome_iff_exists.mp hsome
        simp [hq, ha]
      · simp [hq]
    · rename_i hnone
      dsimp only
      rw [ih, find?_insert, hask]
      by_cases hq : q = p
      · simp only [Bool.not_eq_true, Option.isSome_eq_false_iff, Option.isNone_iff_eq_none] at hnone
        simp [hq, hnone]
      · simp [hq]

/-- The table of an evaluation has the answer for every query that it was made for. -/
lemma get_resolve {σ : Type} {ask : LimitQuery → σ → LimitAnswer × σ}
    {answer : LimitQuery → LimitAnswer} (hask : ∀ q s, (ask q s).1 = answer q)
    {qs : List LimitQuery} {q : LimitQuery} (hq : q ∈ qs) (s : σ) :
    (resolve ask qs .empty s).1.get q = answer q := by
  rw [get, find?_resolve hask, if_pos hq]
  rfl

end ResolvedLimits

namespace Calculator

/-- The rules look at the answer for a query: they can tell tables apart that differ in it alone. -/
def LooksAt (c : Calculator) (ctx : Context) (q : LimitQuery) : Prop :=
  ∃ limits limits' : ResolvedLimits, (∀ q', q' ≠ q → limits.get q' = limits'.get q') ∧
    c.calculate { ctx with limits } ≠ c.calculate { ctx with limits := limits' }

variable {c : Calculator}

lemma calculate_limits_congr (hc : c.ReadsDeclared) (ctx : Context)
    {limits limits' : ResolvedLimits}
    (hl : ∀ q ∈ c.limitQueries ctx.household, limits.get q = limits'.get q) :
    c.calculate { ctx with limits } = c.calculate { ctx with limits := limits' } :=
  calculate_congr hc ⟨rfl, rfl, rfl, rfl, fun _ _ => rfl, rfl, hl, rfl⟩

lemma mem_limitQueries_of_looksAt (hc : c.ReadsDeclared) {ctx : Context} {q : LimitQuery}
    (hq : c.LooksAt ctx q) : q ∈ c.limitQueries ctx.household := by
  obtain ⟨limits, limits', hsame, hdiffer⟩ := hq
  by_contra hundeclared
  refine hdiffer (calculate_limits_congr hc ctx fun q' hq' => hsame q' ?_)
  rintro rfl
  exact hundeclared hq'

end Calculator

namespace Evaluator

/-- The report that the programs give with a simulation and a table of income limits. -/
def reportWith (e : Evaluator) (h : Household) (asOf : Date)
    (simulation : Except EngineError SimulationOutcome) (limits : ResolvedLimits) :
    Except EngineError Report := do
  let results ← EngineError.ofOverflow (runAll (e.active h) h asOf (← simulation) limits)
  return report (e.active h) h results

lemma runAll_limits_congr {programs : List (Program × Calculator)}
    (hreads : ∀ p ∈ programs, p.2.ReadsDeclared) {h : Household} (asOf : Date)
    (simulation : SimulationOutcome) {limits limits' : ResolvedLimits}
    (hl : ∀ p ∈ programs, ∀ q ∈ p.2.limitQueries h, limits.get q = limits'.get q) :
    runAll programs h asOf simulation limits = runAll programs h asOf simulation limits' := by
  refine foldlM_congr fun p hp results => ?_
  unfold runProgram
  rw [calculate_limits_congr (hreads p hp) ⟨h, p.1, results, simulation, limits, asOf⟩ (hl p hp)]

/-- Every result of an evaluation is the one that the rules give with any table that has the
provider's answers to what they declare, so also with one that answers every query. They look at no
other query, whatever the household is like. -/
theorem evaluate_looks_up_what_is_declared {settings : Settings} {tables : Table PovertyTable}
    {programs : List ProgramEntry} {c : Configuration}
    (hc : Configuration.ofParts settings tables programs = .ok c) :
    ∃ e, ofConfiguration c = .ok e ∧
      ∀ (σ : Type) (backend : Backend σ) (answer : LimitQuery → LimitAnswer),
        (∀ q s, (backend.limit q s).1 = answer q) →
        ∀ (h : Household) (asOf : Date) (s : σ),
          let simulation :=
            (simulate backend h ((e.active h).filterMap fun p => p.2.vars) e.period s).1
          (∀ limits : ResolvedLimits,
            (∀ p ∈ e.active h, ∀ q ∈ p.2.limitQueries h, limits.get q = answer q) →
            (e.evaluate backend h asOf s).1 = e.reportWith h asOf simulation limits) ∧
          (∀ r, (e.evaluate backend h asOf s).1 = .ok r → ∃ outcome, simulation = .ok outcome ∧
            ∀ result ∈ r.programs, ∃ program calculator,
              c.program result.code = .ok program ∧
              Registry.calculator result.code = .ok calculator ∧
              ∀ limits : ResolvedLimits,
                (∀ q ∈ calculator.limitQueries h, limits.get q = answer q) →
                calculator.calculate ⟨h, program, r.results, outcome, limits, asOf⟩ =
                  .ok result) ∧
          ∀ p ∈ e.active h, ∀ ctx : Context, ctx.household = h → ∀ q,
            p.2.LooksAt ctx q → q ∈ p.2.limitQueries h := by
  obtain ⟨rfl, hacc⟩ := Configuration.accepted_of_ofParts hc
  obtain ⟨e, he, hruns⟩ := exists_runs hacc
  refine ⟨e, he, ?_⟩
  intro σ backend answer hanswer h asOf s
  have hreads := hruns.active_readsDeclared h
  have hresolved : ∀ p ∈ e.active h, ∀ q ∈ p.2.limitQueries h, ∀ t,
      (ResolvedLimits.resolve backend.limit
        ((e.active h).flatMap fun p => p.2.limitQueries h) .empty t).1.get q = answer q := by
    intro p hp q hq t
    exact ResolvedLimits.get_resolve hanswer (List.mem_flatMap.mpr ⟨p, hp, hq⟩) t
  refine ⟨fun limits hl => ?_, fun r heval => ?_, fun p hp ctx hctx q hq => ?_⟩
  · unfold evaluate reportWith
    refine bind_congr fun outcome => ?_
    rw [runAll_limits_congr hreads asOf outcome fun p hp q hq =>
      (hresolved p hp q hq _).trans (hl p hp q hq).symm]
  · obtain ⟨outcome, limits₀, results, ⟨t, hsim, hlimits⟩, hset, rfl⟩ :=
      hruns.settled_of_evaluate hacc (Prod.ext heval rfl)
    refine ⟨outcome, congrArg Prod.fst hsim, ?_⟩
    intro result hresult
    obtain ⟨p, hp, hget⟩ := List.mem_filterMap.mp hresult
    obtain ⟨r, hr, hget', hcode⟩ := hset.result_code hp
    obtain rfl : r = result := Option.some.inj (hget'.symm.trans hget)
    have hp' := (List.mem_filter.mp hp).1
    rw [hcode, hset.report_results (hruns.active_nodup hacc h)]
    refine ⟨p.1, p.2, hruns.program p hp', hruns.calculator p hp', fun limits hl => ?_⟩
    rw [← hr]
    refine calculate_limits_congr (hreads p hp) (contextOf h asOf outcome limits p.1 results) ?_
    intro q hq
    rw [hl q hq, ← hresolved p hp q hq t, hlimits]
  · exact hctx ▸ mem_limitQueries_of_looksAt (hreads p hp) hq

def boulderRenter : Household := { renter with county := some "Boulder" }

def coloradoLimits : ResolvedLimits := ⟨[
  (.county "CO" "Denver" 1, .ok (.whole 41000)),
  (.county "CO" "Boulder" 1, .ok (.whole 43000))]⟩

def boulderBackend : Backend Unit where
  simulate _ _ s := (.error (.unreachable "offline"), s)
  limit q s :=
    (if q = .county "CO" "Boulder" 1 then .ok (.whole 43000)
      else .error (.unavailable "offline"), s)

/-- The renter's income is checked against the limit of Boulder, whatever else a table holds. -/
theorem weatherization_looks_up_county :
    ∃ c e r outcome result program,
      Configuration.ofParts Shipped.settings Shipped.tables energyPrograms = .ok c ∧
      ofConfiguration c = .ok e ∧
      (e.evaluate boulderBackend boulderRenter ⟨2025, 6, 1⟩ ()).1 = .ok r ∧
      r.program? "co_weatherization_assistance" = some result ∧ result.eligible = true ∧
      Weatherization.calculator.calculate
        ⟨boulderRenter, program, r.results, outcome, coloradoLimits, ⟨2025, 6, 1⟩⟩ =
          .ok result := by
  have hscreen : (do
      let c ← Configuration.ofParts Shipped.settings Shipped.tables energyPrograms
      let e ← ofConfiguration c
      (e.evaluate boulderBackend boulderRenter ⟨2025, 6, 1⟩ ()).1).toOption.any
        (fun r : Report => (r.program? "co_weatherization_assistance").any
          ProgramResult.eligible) = true := by
    decide +kernel
  obtain ⟨r, hr, heligible⟩ := exists_ok_of_any hscreen
  obtain ⟨c, hc, hr⟩ := bind_eq_ok.mp hr
  obtain ⟨e, he, hr⟩ := bind_eq_ok.mp hr
  obtain ⟨result, hresult, heligible⟩ := (Option.any_eq_true _ _).mp heligible
  obtain ⟨e', he', hall⟩ := evaluate_looks_up_what_is_declared hc
  obtain rfl : e = e' := Except.ok.inj (he.symm.trans he')
  obtain ⟨_, hresults, _⟩ := hall Unit boulderBackend _ (fun _ _ => rfl) boulderRenter _ ()
  obtain ⟨outcome, _, hresults⟩ := hresults r hr
  obtain ⟨program, calculator, _, hcalculator, hlimits⟩ :=
    hresults result (List.mem_of_find?_eq_some hresult)
  have hcode : result.code = "co_weatherization_assistance" :=
    beq_iff_eq.mp (List.find?_some hresult :)
  rw [hcode] at hcalculator
  obtain rfl : Weatherization.calculator = calculator := Except.ok.inj hcalculator
  refine ⟨c, e, r, outcome, result, program, hc, he, hr, hresult, heligible, hlimits _ ?_⟩
  intro q hq
  obtain rfl := List.mem_singleton.mp hq
  decide

end Evaluator

end BenefitScreen
