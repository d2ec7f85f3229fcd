import BenefitScreen.Proofs.LimitLookups
import BenefitScreen.Proofs.RecordedConditions
import Mathlib.Logic.Relation

/-!
An outage of the simulation. There is a report all the same: programs that need the simulation say
why nothing can be determined, and programs that rest on it neither themselves nor by the results
that they read give what they always give.
-/

namespace BenefitScreen

open Calculator Fallible Simulation

/-- A simulation and a provider of income limits that have nothing to do with each other. -/
def Backend.pair {ρ τ : Type} (simulator : Document → String → ρ → Except Failure Response × ρ)
    (provider : LimitQuery → τ → LimitAnswer × τ) : Backend (ρ × τ) where
  simulate d period s :=
    let (response, s₁) := simulator d period s.1
    (response, s₁, s.2)
  limit q s :=
    let (answer, s₂) := provider q s.2
    (answer, s.1, s₂)

section Pair

variable {ρ τ : Type} {simulator : Document → String → ρ → Except Failure Response × ρ}
  {provider : LimitQuery → τ → LimitAnswer × τ}

lemma ResolvedLimits.resolve_pair
    (simulator : Document → String → ρ → Except Failure Response × ρ)
    (provider : LimitQuery → τ → LimitAnswer × τ) (qs : List LimitQuery) (l : ResolvedLimits)
    (s : ρ × τ) :
    (resolve (Backend.pair simulator provider).limit qs l s).1 = (resolve provider qs l s.2).1 := by
  induction qs generalizing l s with
  | nil => rfl
  | cons q qs ih =>
    unfold resolve
    split
    · exact ih l s
    · exact ih _ _

lemma Evaluator.simulate_pair (h : Household) (specs : List Variables) (period : String)
    (s : ρ × τ) : (simulate (Backend.pair simulator provider) h specs period s).2.2 = s.2 := by
  unfold simulate
  split
  · rfl
  · split
    · rfl
    · split
      · rename_i hresponse
        exact congrArg (fun x => x.2.2) hresponse.symm
      · rename_i hresponse
        exact congrArg (fun x => x.2.2) hresponse.symm

lemma Evaluator.Gathers.limits_pair {e : Evaluator} {h : Household} {s s' : ρ × τ}
    {simulation : SimulationOutcome} {limits : ResolvedLimits}
    (hg : e.Gathers (Backend.pair simulator provider) h s simulation limits s') :
    limits = (ResolvedLimits.resolve provider
      ((e.active h).flatMap fun p => p.2.limitQueries h) .empty s.2).1 := by
  obtain ⟨t, hsim, hlimits⟩ := hg
  have ht : t.2 = s.2 := by
    rw [← simulate_pair h ((e.active h).filterMap fun p => p.2.vars) e.period s, hsim]
  rw [← ht, ← ResolvedLimits.resolve_pair simulator provider, hlimits]

end Pair

namespace Calculator

variable {c : Calculator}

/-- The rules say the same whatever came of the simulation. -/
def IgnoresSimulation (c : Calculator) : Prop :=
  ∀ (ctx : Context) (simulation : SimulationOutcome), c.SameRules ctx { ctx with simulation }

lemma calculate_of_ignoresSimulation (hc : c.IgnoresSimulation) (hvars : c.vars = none)
    (ctx : Context) (simulation : SimulationOutcome) :
    c.calculate ctx = c.calculate { ctx with simulation } := by
  refine calculate_of_sameRules (hc ctx simulation) rfl rfl rfl ?_
  rw [simulationConditions, simulationConditions, hvars]

/-- A program that needs a simulation that failed is refused for that reason first. -/
lemma calculate_of_failed {ctx : Context} {r : ProgramResult} {detail : String}
    (hadds : c.OnlyAdds ctx) (hvars : c.vars.isSome = true)
    (hsimulation : ctx.simulation = .failed detail) (hr : c.calculate ctx = .ok r) :
    r.eligible = false ∧ r.value = .zero ∧
      r.conditions.head? = some (checkFor false (.unableToDetermine detail)) := by
  obtain ⟨_, hcalculation⟩ := exists_calculation hr
  obtain ⟨hno, own, hconditions⟩ := hcalculation.refusal hadds hvars hsimulation
  exact ⟨hno, (hcalculation.refused hno).2, by rw [hconditions]; rfl⟩

end Calculator

/-- No registered program looks at the simulation without asking it for something. -/
lemma Registry.ignoresSimulation {e : String × Calculator} (he : e ∈ calculators)
    (hvars : e.2.vars = none) : e.2.IgnoresSimulation := by
  cases e, he using calculators_cases
  all_goals first
    | exact fun _ _ => ⟨rfl, fun _ => rfl, rfl, fun _ => rfl⟩
    | cases hvars

/-- A program reads the result of one that is offered to the household. -/
def ReadsResult (programs : List ProgramEntry) (h : Household) (code ref : String) : Prop :=
  (∃ k, Registry.calculator code = .ok k ∧ ref ∈ k.references) ∧
    ∃ p ∈ programs, p.code = ref ∧ p.OfferedTo h

/-- A program needs the simulation, or reads the result of one that rests on it. -/
def RestsOnSimulation (programs : List ProgramEntry) (h : Household) (code : String) : Prop :=
  ∃ source, Relation.ReflTransGen (ReadsResult programs h) code source ∧
    ∃ k, Registry.calculator source = .ok k ∧ k.vars.isSome = true

lemma RestsOnSimulation.head {programs : List ProgramEntry} {h : Household} {code ref : String}
    (hreads : ReadsResult programs h code ref) (hrests : RestsOnSimulation programs h ref) :
    RestsOnSimulation programs h code := by
  obtain ⟨source, hpath, hsource⟩ := hrests
  exact ⟨source, hpath.head hreads, hsource⟩

namespace Evaluator

/-- Programs that do not rest on the simulation have the same results whatever came of it. -/
lemma Runs.get?_eq_of_not_rests {e : Evaluator} {c : Configuration} (hr : e.Runs c)
    (hc : c.Accepted) {h : Household} {asOf : Date} {simulation simulation' : SimulationOutcome}
    {limits : ResolvedLimits} {results results' : Table ProgramResult}
    (hset : Settled (contextOf h asOf simulation limits) (e.active h) results)
    (hset' : Settled (contextOf h asOf simulation' limits) (e.active h) results') {code : String}
    (hcode : ¬RestsOnSimulation c.programs h code) : results.get? code = results'.get? code := by
  -- On the rank of the program: what it reads ranks below it and does not rest on the simulation.
  induction hrank : Registry.rank code using Nat.strongRecOn generalizing code with
  | ind n ih =>
    by_cases hactive : code ∈ (e.active h).map (·.1.code)
    · obtain ⟨p, hp, rfl⟩ := List.mem_map.mp hactive
      have hmem := hr.mem_calculators hp
      have hk := hr.calculator p (List.mem_filter.mp hp).1
      have hvars : p.2.vars = none := by
        by_contra hsome
        exact hcode ⟨p.1.code, .refl, p.2, hk, Option.isSome_iff_ne_none.mpr hsome⟩
      have hrefs : ∀ ref ∈ p.2.references, results.get? ref = results'.get? ref := by
        intro ref href
        by_cases hoffered : ref ∈ (e.active h).map (·.1.code)
        · have hreads : ReadsResult c.programs h p.1.code ref :=
            ⟨⟨p.2, hk, href⟩, (hr.mem_active_codes hc h ref).mp hoffered⟩
          have hlt : Registry.rank ref < n := hrank ▸ Registry.rank_references _ hmem ref href
          exact ih _ hlt (fun hrests => hcode (hrests.head hreads)) rfl
        · rw [hset.absent ref hoffered, hset'.absent ref hoffered]
      obtain ⟨r, hresult, hget⟩ := hset.result p hp
      obtain ⟨r', hresult', hget'⟩ := hset'.result p hp
      have hsame : (.ok r : Except Overflow ProgramResult) = .ok r' := calc
        .ok r = p.2.calculate (contextOf h asOf simulation limits p.1 results) := hresult.symm
        _ = p.2.calculate (contextOf h asOf simulation limits p.1 results') :=
          calculate_contextOf_congr (hr.active_readsDeclared h p hp) hrefs
        _ = p.2.calculate (contextOf h asOf simulation' limits p.1 results') :=
          calculate_of_ignoresSimulation (Registry.ignoresSimulation hmem hvars) hvars _ _
        _ = .ok r' := hresult'
      rw [hget, hget', Except.ok.inj hsame]
    · rw [hset.absent code hactive, hset'.absent code hactive]

lemma simulate_of_failure {σ : Type} {backend : Backend σ} {h : Household} {specs : List Variables}
    {period : String} {s : σ} {d : Document} {failure : Failure}
    (hbuild : Document.build h specs period = .ok d)
    (hfails : (backend.simulate d period s).1 = .error failure) :
    (simulate backend h specs period s).1 =
      .ok (if specs.isEmpty then .skipped else .failed failure.text) := by
  unfold simulate
  split
  · rfl
  · rw [hbuild]
    dsimp only
    split
    · rename_i hresponse
      rw [hresponse] at hfails
      cases hfails
    · rename_i hresponse
      rw [hresponse] at hfails
      rw [Except.error.inj hfails]

lemma isOverflow_of_evaluate {σ : Type} {e : Evaluator} {backend : Backend σ} {h : Household}
    {asOf : Date} {s : σ} {outcome : SimulationOutcome} {err : EngineError}
    (hsim : (simulate backend h ((e.active h).filterMap fun p => p.2.vars) e.period s).1 =
      .ok outcome)
    (heval : (e.evaluate backend h asOf s).1 = .error err) : err.IsOverflow := by
  unfold evaluate at heval
  dsimp only at heval
  rw [hsim, ok_bind] at heval
  rcases bind_eq_error.mp heval with hrun | ⟨_, _, hreport⟩
  · exact EngineError.isOverflow_of_ofOverflow hrun
  · cases hreport

/-- When the simulation fails there is still a report. Every program that needs the simulation is
refused for that reason first, and every program that does not rest on it has the result that it has
with any other simulation. -/
theorem outage_is_contained {settings : Settings} {tables : Table PovertyTable}
    {programs : List ProgramEntry} {c : Configuration}
    (hc : Configuration.ofParts settings tables programs = .ok c) :
    ∃ e, ofConfiguration c = .ok e ∧
      ∀ (ρ τ : Type) (simulator : Document → String → ρ → Except Failure Response × ρ)
        (provider : LimitQuery → τ → LimitAnswer × τ) (h : Household) (asOf : Date) (s : ρ × τ)
        (d : Document) (failure : Failure),
        Document.build h ((e.active h).filterMap fun p => p.2.vars) e.period = .ok d →
        (simulator d e.period s.1).1 = .error failure →
        (∀ o, (e.evaluate (.pair simulator provider) h asOf s).1 ≠ .error (.arithmetic o)) →
        ∃ r, (e.evaluate (.pair simulator provider) h asOf s).1 = .ok r ∧
          ∀ p ∈ programs, p.OfferedTo h → ∃ k result,
            Registry.calculator p.code = .ok k ∧ r.program? p.code = some result ∧
            (k.vars.isSome = true → result.eligible = false ∧ result.value = .zero ∧
              result.conditions.head? = some (checkFor false (.unableToDetermine failure.text))) ∧
            (¬RestsOnSimulation programs h p.code →
              ∀ (ρ' : Type) (simulator' : Document → String → ρ' → Except Failure Response × ρ')
                (s' : ρ') (r' : Report),
                (e.evaluate (.pair simulator' provider) h asOf (s', s.2)).1 = .ok r' →
                r'.program? p.code = some result) := by
  obtain ⟨rfl, hacc⟩ := Configuration.accepted_of_ofParts hc
  obtain ⟨e, he, hruns⟩ := exists_runs hacc
  refine ⟨e, he, ?_⟩
  intro ρ τ simulator provider h asOf s d failure hbuild hfails hfit
  have hsim : (simulate (.pair simulator provider) h _ e.period s).1 = _ :=
    simulate_of_failure hbuild hfails
  cases heval : (e.evaluate (.pair simulator provider) h asOf s).1 with
  | error err =>
    obtain ⟨o, rfl⟩ := isOverflow_of_evaluate hsim heval
    exact absurd heval (hfit o)
  | ok r =>
    have hnd := hruns.active_nodup hacc h
    obtain ⟨outcome, limits, results, hgather, hset, rfl⟩ :=
      hruns.settled_of_evaluate hacc (Prod.ext heval rfl)
    refine ⟨_, rfl, fun p hp hoffered => ?_⟩
    obtain ⟨x, hx, hcode⟩ := hruns.exists_active hacc hp hoffered
    obtain ⟨result, hresult, hget, _⟩ := hset.result_code hx
    rw [hcode]
    refine ⟨x.2, result, hruns.calculator x (List.mem_filter.mp hx).1, ?_, fun hvars => ?_,
      fun hrests ρ' simulator' s' r' heval' => ?_⟩
    · rw [hset.program?_report hnd, hget]
    · obtain ⟨vars, hsome⟩ := Option.isSome_iff_exists.mp hvars
      have hspecs : vars ∈ (e.active h).filterMap fun p => p.2.vars :=
        List.mem_filterMap.mpr ⟨x, hx, hsome⟩
      have hne : ((e.active h).filterMap fun p => p.2.vars).isEmpty = false := by
        rw [List.isEmpty_eq_false_iff]
        exact List.ne_nil_of_mem hspecs
      obtain ⟨t, hout, _⟩ := hgather
      rw [hout, hne] at hsim
      obtain ⟨_, _, hrecords⟩ := Registry.exists_records (hruns.mem_calculators hx)
      exact calculate_of_failed (hrecords.onlyAdds _) hvars (Except.ok.inj hsim) hresult
    · obtain ⟨outcome', limits', results', hgather', hset', rfl⟩ :=
        hruns.settled_of_evaluate hacc (Prod.ext heval' rfl)
      obtain rfl : limits = limits' := hgather.limits_pair.trans hgather'.limits_pair.symm
      rw [hset'.program?_report hnd, ← hruns.get?_eq_of_not_rests hacc hset hset' hrests, hget]

def familyPrograms : List ProgramEntry := [
  ⟨"medicaid", "Medicaid", none, "2025"⟩,
  ⟨"il_family_care", "FamilyCare", some "IL", "2025"⟩,
  ⟨"il_all_kids", "All Kids", some "IL", "2025"⟩]

def smallFamily : Household := { renter with
  state := "IL"
  members := renter.members ++ renter.members.map fun m =>
    { m with id := ⟨2⟩, relationship := .child, age := some 5, incomeStreams := [] } }

def closedSimulation : Document → String → Unit → Except Failure Response × Unit :=
  fun _ _ s => (.error (.ofStatus 503 "maintenance"), s)

def medicaidForParent : Document → String → Unit → Except Failure Response × Unit :=
  fun _ period s =>
    let parent : Fields := .ofList [
      ("medicaid", .ofList [(period, .ofInt 4000)]),
      ("medicaid_category", .ofList [(period, .text "ADULT")])]
    (.ok ⟨{ Document.empty with people := .ofList [("1", parent)] }, period⟩, s)

def noLimits : LimitQuery → Unit → LimitAnswer × Unit :=
  fun _ s => (.error (.unavailable "offline"), s)

lemma allKids_not_rests (programs : List ProgramEntry) (h : Household) :
    ¬RestsOnSimulation programs h "il_all_kids" := by
  rintro ⟨source, hpath, k, hk, hvars⟩
  have hself : Registry.calculator "il_all_kids" = .ok AllKids.calculator := rfl
  rcases hpath.cases_head with rfl | ⟨ref, ⟨⟨k', hk', href⟩, _⟩, _⟩
  · obtain rfl := Except.ok.inj (hself.symm.trans hk)
    cases hvars
  · obtain rfl := Except.ok.inj (hself.symm.trans hk')
    cases href

/-- During an outage the parent has neither Medicaid nor FamilyCare, and the child has All Kids. -/
theorem outage_spares_all_kids :
    ∃ c e r r' medicaid allKids,
      Configuration.ofParts Shipped.settings Shipped.tables familyPrograms = .ok c ∧
      ofConfiguration c = .ok e ∧
      (e.evaluate (.pair closedSimulation noLimits) smallFamily ⟨2025, 6, 1⟩ ((), ())).1 = .ok r ∧
      (e.evaluate (.pair medicaidForParent noLimits) smallFamily ⟨2025, 6, 1⟩ ((), ())).1 =
        .ok r' ∧
      r.program? "medicaid" = some medicaid ∧ medicaid.value = .zero ∧
      medicaid.conditions.head? = some (checkFor false
        (.unableToDetermine "PolicyEngine returned status 503: maintenance")) ∧
      (r.program? "il_family_care").any ProgramResult.eligible = false ∧
      (r'.program? "il_family_care").any ProgramResult.eligible = true ∧
      r.program? "il_all_kids" = some allKids ∧ r'.program? "il_all_kids" = some allKids ∧
      allKids.eligible = true := by
  have hscreen : ((do
      let c ← Configuration.ofParts Shipped.settings Shipped.tables familyPrograms
      let e ← ofConfiguration c
      let d ← Document.build smallFamily ((e.active smallFamily).filterMap fun p => p.2.vars)
        e.period
      let r ← (e.evaluate (.pair closedSimulation noLimits) smallFamily ⟨2025, 6, 1⟩ ((), ())).1
      let r' ← (e.evaluate (.pair medicaidForParent noLimits) smallFamily ⟨2025, 6, 1⟩ ((), ())).1
      return (r, r')) : Except EngineError (Report × Report)).toOption.any (fun rs =>
        (rs.1.program? "il_family_care").any ProgramResult.eligible = false ∧
        (rs.2.program? "il_family_care").any ProgramResult.eligible = true ∧
        (rs.1.program? "il_all_kids").any ProgramResult.eligible = true) = true := by
    decide +kernel
  obtain ⟨⟨r, r'⟩, hrun, hcare⟩ := exists_ok_of_any hscreen
  obtain ⟨c, hc, hrun⟩ := bind_eq_ok.mp hrun
  obtain ⟨e, he, hrun⟩ := bind_eq_ok.mp hrun
  obtain ⟨d, hd, hrun⟩ := bind_eq_ok.mp hrun
  obtain ⟨r₁, hr, hrun⟩ := bind_eq_ok.mp hrun
  obtain ⟨r₂, hr', hrun⟩ := bind_eq_ok.mp hrun
  cases pure_eq_ok.mp hrun
  obtain ⟨hcare, hcare', hkids⟩ := of_decide_eq_true hcare
  obtain ⟨e', he', hall⟩ := outage_is_contained hc
  obtain rfl : e = e' := Except.ok.inj (he.symm.trans he')
  have hfit : ∀ o, (e.evaluate (.pair closedSimulation noLimits) smallFamily ⟨2025, 6, 1⟩
      ((), ())).1 ≠ .error (.arithmetic o) := by
    intro o
    rw [hr]
    exact fun h => by cases h
  obtain ⟨r₁, hr₁, hresults⟩ := hall Unit Unit closedSimulation noLimits smallFamily ⟨2025, 6, 1⟩
    ((), ()) d _ hd rfl hfit
  obtain rfl : r = r₁ := Except.ok.inj (hr.symm.trans hr₁)
  obtain ⟨k, medicaid, hk, hmedicaid, hrefused, _⟩ :=
    hresults ⟨"medicaid", "Medicaid", none, "2025"⟩ (by simp [familyPrograms]) (.inl rfl)
  obtain ⟨_, allKids, _, hallKids, _, hsame⟩ :=
    hresults ⟨"il_all_kids", "All Kids", some "IL", "2025"⟩ (by simp [familyPrograms])
      (.inr ⟨"IL", rfl, by decide⟩)
  obtain rfl : Medicaid.calculator = k := Except.ok.inj hk
  obtain ⟨_, hvalue, hfirst⟩ := hrefused rfl
  have heligible : allKids.eligible = true := by
    rw [hallKids] at hkids
    exact hkids
  exact ⟨c, e, r, r', medicaid, allKids, hc, he, hr, hr', hmedicaid, hvalue, hfirst, hcare, hcare',
    hallKids, hsame (allKids_not_rests _ _) Unit medicaidForParent () r' hr', heligible⟩

end Evaluator

end BenefitScreen
