import BenefitScreen.Proofs.DocumentShape
import BenefitScreen.Proofs.LimitLookups

/-!
An evaluation depends on the configuration only through the programs that are offered to the
household: neither their order nor programs of other states show in its document or its report.
-/

namespace BenefitScreen

open Calculator Fallible Simulation

namespace Backend

variable {simulate : Document → String → Except Failure Response} {limit : LimitQuery → LimitAnswer}

lemma documents_resolve (qs : List LimitQuery) (l : ResolvedLimits) (s : Asked) :
    (ResolvedLimits.resolve (ofFunctions simulate limit).limit qs l s).2.documents =
      s.documents := by
  induction qs generalizing l s with
  | nil => rfl
  | cons q qs ih =>
    unfold ResolvedLimits.resolve
    split
    · exact ih l s
    · exact ih _ _

/-- The answers that an evaluation gathers do not show the order of its questions. -/
lemma get_resolve_congr {qs qs' : List LimitQuery} (h : ∀ q, q ∈ qs ↔ q ∈ qs') (s s' : Asked)
    (q : LimitQuery) :
    (ResolvedLimits.resolve (ofFunctions simulate limit).limit qs .empty s).1.get q =
      (ResolvedLimits.resolve (ofFunctions simulate limit).limit qs' .empty s').1.get q := by
  have hask : ∀ q s, ((ofFunctions simulate limit).limit q s).1 = limit q := fun _ _ => rfl
  rw [ResolvedLimits.get, ResolvedLimits.get, ResolvedLimits.find?_resolve hask,
    ResolvedLimits.find?_resolve hask]
  simp only [h q]

end Backend

/-- The fields that are recorded for a program, also by way of the simulation. -/
def Calculator.recordedFields (k : Calculator) : EnumSet DataField :=
  match k.vars with
  | some v => (EnumSet.empty.addAll k.dependencies).addAll v.reads.members
  | none => EnumSet.empty.addAll k.dependencies

lemma Dependencies.ext_fieldsFor? {d d' : Dependencies}
    (h : ∀ code, d.fieldsFor? code = d'.fieldsFor? code) : d = d' := by
  cases d
  cases d'
  exact congrArg Dependencies.mk (Table.ext_get? h)

lemma Dependencies.fieldsFor?_record (d : Dependencies) (code : String) (fields : List DataField)
    (code' : String) :
    (d.record code fields).fieldsFor? code' =
      if code' = code then some (((d.fieldsFor? code).getD .empty).addAll fields)
      else d.fieldsFor? code' :=
  Table.get?_insert _ _ _ _

namespace Evaluator

lemma fieldsFor?_recordFields {d : Dependencies} {p : Program × Calculator}
    (hnew : d.fieldsFor? p.1.code = none) (code : String) :
    (recordFields d p).fieldsFor? code =
      if code = p.1.code then some p.2.recordedFields else d.fieldsFor? code := by
  unfold recordFields recordedFields
  cases p.2.vars with
  | none => simp [Dependencies.fieldsFor?_record, hnew]
  | some v =>
    simp only [Dependencies.fieldsFor?_record, hnew, if_true, Option.getD_some, Option.getD_none]
    split <;> rfl

lemma fieldsFor?_foldl_recordFields {programs : List (Program × Calculator)}
    (hnd : (programs.map (·.1.code)).Nodup) {d : Dependencies}
    (hnew : ∀ p ∈ programs, d.fieldsFor? p.1.code = none) (code : String) :
    (programs.foldl recordFields d).fieldsFor? code =
      ((programs.find? fun p => p.1.code == code).map fun p => p.2.recordedFields).or
        (d.fieldsFor? code) := by
  induction programs generalizing d with
  | nil => simp
  | cons p programs ih =>
    obtain ⟨hp, hnd⟩ : p.1.code ∉ programs.map (·.1.code) ∧ (programs.map (·.1.code)).Nodup :=
      List.nodup_cons.mp hnd
    have hfields := fieldsFor?_recordFields (hnew p List.mem_cons_self)
    rw [List.foldl_cons, ih hnd fun q hq => ?_, hfields code]
    · by_cases h : code = p.1.code
      · have hnone : (programs.find? fun q => q.1.code == code) = none := by
          refine List.find?_eq_none.mpr fun q hq hcode => hp ?_
          rw [← h, ← beq_iff_eq.mp hcode]
          exact List.mem_map_of_mem hq
        simp [hnone, h.symm]
      · have h' : ¬p.1.code = code := fun e => h e.symm
        simp [h, h']
    · have hne : ¬q.1.code = p.1.code := fun e => hp (e ▸ List.mem_map_of_mem hq)
      rw [hfields, if_neg hne]
      exact hnew q (List.mem_cons_of_mem _ hq)

/-- Two lists of programs that differ in order, states and years at most. -/
def SameOffer (ps qs : List (Program × Calculator)) : Prop :=
  ∀ x, x ∈ ps.map (fun p => (p.1.code, p.1.name, p.1.table, p.2)) ↔
    x ∈ qs.map (fun p => (p.1.code, p.1.name, p.1.table, p.2))

namespace SameOffer

variable {ps qs : List (Program × Calculator)}

lemma symm (h : SameOffer ps qs) : SameOffer qs ps := fun x => (h x).symm

lemma exists_mem (h : SameOffer ps qs) {p : Program × Calculator} (hp : p ∈ ps) :
    ∃ q ∈ qs, q.1.code = p.1.code ∧ q.1.name = p.1.name ∧ q.1.table = p.1.table ∧ q.2 = p.2 := by
  obtain ⟨q, hq, he⟩ := List.mem_map.mp ((h _).mp (List.mem_map_of_mem hp))
  simp only [Prod.mk.injEq] at he
  exact ⟨q, hq, he⟩

lemma mem_codes (h : SameOffer ps qs) {code : String} (hcode : code ∈ ps.map (·.1.code)) :
    code ∈ qs.map (·.1.code) := by
  obtain ⟨p, hp, rfl⟩ := List.mem_map.mp hcode
  obtain ⟨q, hq, hcode, _⟩ := h.exists_mem hp
  exact List.mem_map.mpr ⟨q, hq, hcode⟩

lemma mem_vars (h : SameOffer ps qs) {v : Variables} (hv : v ∈ ps.filterMap fun p => p.2.vars) :
    v ∈ qs.filterMap fun p => p.2.vars := by
  obtain ⟨p, hp, hv⟩ := List.mem_filterMap.mp hv
  obtain ⟨q, hq, _, _, _, hrules⟩ := h.exists_mem hp
  exact List.mem_filterMap.mpr ⟨q, hq, hrules ▸ hv⟩

lemma mem_queries (h : SameOffer ps qs) {household : Household} {query : LimitQuery}
    (hquery : query ∈ ps.flatMap fun p => p.2.limitQueries household) :
    query ∈ qs.flatMap fun p => p.2.limitQueries household := by
  obtain ⟨p, hp, hquery⟩ := List.mem_flatMap.mp hquery
  obtain ⟨q, hq, _, _, _, hrules⟩ := h.exists_mem hp
  exact List.mem_flatMap.mpr ⟨q, hq, hrules ▸ hquery⟩

/-- A table that is settled for one list is settled for the other. -/
lemma settled (h : SameOffer ps qs) {household : Household} {asOf : Date}
    {simulation : SimulationOutcome} {limits limits' : ResolvedLimits}
    (hlimits : ∀ q, limits.get q = limits'.get q) (hreads : ∀ p ∈ ps, p.2.ReadsDeclared)
    {results : Table ProgramResult}
    (hset : Settled (contextOf household asOf simulation limits) ps results) :
    Settled (contextOf household asOf simulation limits') qs results where
  result q hq := by
    obtain ⟨p, hp, hcode, hname, htable, hrules⟩ := h.symm.exists_mem hq
    obtain ⟨r, hr, hget⟩ := hset.result p hp
    have hview : p.2.SameView (contextOf household asOf simulation limits p.1 results)
        (contextOf household asOf simulation limits' q.1 results) :=
      ⟨rfl, hcode, hname, htable, fun _ _ => rfl, rfl, fun q _ => hlimits q, rfl⟩
    refine ⟨r, ?_, hcode ▸ hget⟩
    rw [← hrules, ← calculate_congr (hreads p hp) hview]
    exact hr
  absent code hcode := hset.absent code fun hmem => hcode (h.mem_codes hmem)

/-- The fields that are recorded for a list of programs do not show its order. -/
lemma recordFields_eq (h : SameOffer ps qs) (hps : (ps.map (·.1.code)).Nodup)
    (hqs : (qs.map (·.1.code)).Nodup) :
    ps.foldl recordFields .empty = qs.foldl recordFields .empty := by
  have hnone : ∀ code, Dependencies.empty.fieldsFor? code = none := fun _ => rfl
  apply Dependencies.ext_fieldsFor?
  intro code
  rw [fieldsFor?_foldl_recordFields hps fun p _ => hnone _,
    fieldsFor?_foldl_recordFields hqs fun p _ => hnone _]
  by_cases hcode : code ∈ ps.map (·.1.code)
  · obtain ⟨p, hp, rfl⟩ := List.mem_map.mp hcode
    obtain ⟨q, hq, hcode, _, _, hrules⟩ := h.exists_mem hp
    rw [find?_of_nodup_keys hps hp, ← hcode, find?_of_nodup_keys hqs hq, Option.map_some,
      Option.map_some, hrules]
  · have hps' : (ps.find? fun p => p.1.code == code) = none :=
      List.find?_eq_none.mpr fun p hp he =>
        hcode (beq_iff_eq.mp he ▸ List.mem_map_of_mem hp)
    have hqs' : (qs.find? fun q => q.1.code == code) = none :=
      List.find?_eq_none.mpr fun q hq he =>
        hcode (h.symm.mem_codes (beq_iff_eq.mp he ▸ List.mem_map_of_mem hq))
    rw [hps', hqs']

end SameOffer

/-- The simulation is asked about the set of all variables, in one document. -/
lemma simulate_congr {σ : Type} (backend : Backend σ) (h : Household)
    {specs specs' : List Variables}
    (hspecs : ∀ v, v ∈ specs ↔ v ∈ specs') (period : String) (s : σ) :
    simulate backend h specs period s = simulate backend h specs' period s := by
  have hempty : specs.isEmpty = specs'.isEmpty := by
    rw [Bool.eq_iff_iff, List.isEmpty_iff, List.isEmpty_iff, List.eq_nil_iff_forall_not_mem,
      List.eq_nil_iff_forall_not_mem]
    exact forall_congr' fun v => not_congr (hspecs v)
  unfold simulate
  have hbuild : Document.build h specs period = Document.build h specs' period :=
    Document.build_congr (fun i => by simp only [List.mem_flatMap, hspecs])
      fun o => by simp only [List.mem_flatMap, hspecs]
  rw [hempty, hbuild]

/-- What two listings of the same programs may come to. A run that an overflow stops may be stopped
by another overflow, since the first program to meet one may be another. -/
inductive SameOutcome : Except EngineError Report → Except EngineError Report → Prop
  | reports {r r' : Report} (programs : ∀ code, r.program? code = r'.program? code)
      (dependencies : r.dependencies = r'.dependencies) : SameOutcome (.ok r) (.ok r')
  | failures (e : EngineError) : SameOutcome (.error e) (.error e)
  | overflows (o o' : Overflow) : SameOutcome (.error (.arithmetic o)) (.error (.arithmetic o'))

/-- Running the same programs in two orders comes to the same. -/
lemma SameOffer.outcome {ps qs : List (Program × Calculator)} (hoffer : SameOffer ps qs)
    (hps : (ps.map (·.1.code)).Nodup) (hqs : (qs.map (·.1.code)).Nodup) (hpo : Ordered ps)
    (hqo : Ordered qs) (hpr : ∀ p ∈ ps, p.2.ReadsDeclared) (hqr : ∀ q ∈ qs, q.2.ReadsDeclared)
    {h : Household} {asOf : Date} {simulation : SimulationOutcome} {limits limits' : ResolvedLimits}
    (hlimits : ∀ q, limits.get q = limits'.get q) :
    SameOutcome
      ((EngineError.ofOverflow (runAll ps h asOf simulation limits)).map (report ps h))
      ((EngineError.ofOverflow (runAll qs h asOf simulation limits')).map (report qs h)) := by
  cases hrun : runAll ps h asOf simulation limits with
  | ok results =>
    have hset := settled_of_runAll hps hpo hpr hrun
    have hset' := hoffer.settled hlimits hpr hset
    rw [runAll_of_settled hqo hqr hset']
    refine .reports (fun code => ?_) (hoffer.recordFields_eq hps hqs)
    rw [hset.program?_report hps, hset'.program?_report hqs]
  | error o =>
    cases hrun' : runAll qs h asOf simulation limits' with
    | ok results =>
      -- A table settled for one order is settled for the other, whose run would then succeed.
      have hset' := settled_of_runAll hqs hqo hqr hrun'
      have hset := hoffer.symm.settled (fun q => (hlimits q).symm) hqr hset'
      rw [runAll_of_settled hpo hpr hset] at hrun
      cases hrun
    | error o' => exact .overflows o o'

end Evaluator

/-- A program that a configuration offers to a household, by what its rules see of it. -/
def Configuration.Offers (c : Configuration) (h : Household) (code name : String)
    (table : PovertyTable) : Prop :=
  ∃ p ∈ c.programs, p.OfferedTo h ∧ p.code = code ∧ p.name = name ∧
    c.tables.get? p.year = some table

/-- The order of the programs and those that are not offered do not matter. -/
lemma Configuration.offers_congr {settings settings' : Settings} {tables : Table PovertyTable}
    {programs programs' : List ProgramEntry} (h : Household)
    (hprograms : ∀ p : ProgramEntry, p.OfferedTo h → (p ∈ programs ↔ p ∈ programs'))
    (code name : String) (table : PovertyTable) :
    Offers ⟨settings, tables, programs⟩ h code name table ↔
      Offers ⟨settings', tables, programs'⟩ h code name table := by
  unfold Offers
  constructor
  · rintro ⟨p, hp, hoffered, hrest⟩
    exact ⟨p, (hprograms p hoffered).mp hp, hoffered, hrest⟩
  · rintro ⟨p, hp, hoffered, hrest⟩
    exact ⟨p, (hprograms p hoffered).mpr hp, hoffered, hrest⟩

namespace Evaluator

lemma Runs.offers_of_mem_active {e : Evaluator} {c : Configuration} (hr : e.Runs c)
    (hc : c.Accepted) {h : Household} {x : Program × Calculator} (hx : x ∈ e.active h) :
    c.Offers h x.1.code x.1.name x.1.table := by
  obtain ⟨p, hp, hcode, hoffered⟩ := hr.exists_entry hc hx
  obtain ⟨t, ht, heq⟩ := hr.program_eq hc (List.mem_filter.mp hx).1 hp hcode
  rw [heq]
  exact ⟨p, hp, hoffered, rfl, rfl, ht⟩

lemma Runs.exists_active_of_offers {e : Evaluator} {c : Configuration} (hr : e.Runs c)
    (hc : c.Accepted) {h : Household} {code name : String} {table : PovertyTable}
    (hoffers : c.Offers h code name table) :
    ∃ x ∈ e.active h, x.1.code = code ∧ x.1.name = name ∧ x.1.table = table := by
  obtain ⟨p, hp, hoffered, rfl, rfl, htable⟩ := hoffers
  obtain ⟨x, hx, hcode⟩ := hr.exists_active hc hp hoffered
  obtain ⟨t, ht, heq⟩ := hr.program_eq hc (List.mem_filter.mp hx).1 hp hcode
  rw [htable] at ht
  cases ht
  exact ⟨x, hx, hcode.symm, by rw [heq], by rw [heq]⟩

/-- What one evaluator runs for a household, another runs too if its configuration offers it. -/
lemma Runs.exists_counterpart {e e' : Evaluator} {c c' : Configuration} (hr : e.Runs c)
    (hr' : e'.Runs c') (hc : c.Accepted) (hc' : c'.Accepted) {h : Household}
    (hoffers : ∀ code name table, c.Offers h code name table → c'.Offers h code name table)
    {x : Program × Calculator} (hx : x ∈ e.active h) :
    ∃ y ∈ e'.active h,
      (y.1.code, y.1.name, y.1.table, y.2) = (x.1.code, x.1.name, x.1.table, x.2) := by
  obtain ⟨y, hy, hcode, hname, htable⟩ := hr'.exists_active_of_offers hc'
    (hoffers _ _ _ (hr.offers_of_mem_active hc hx))
  have hxr := hr.calculator x (List.mem_filter.mp hx).1
  have hyr := hr'.calculator y (List.mem_filter.mp hy).1
  rw [hcode, hxr] at hyr
  exact ⟨y, hy, by rw [hcode, hname, htable, Except.ok.inj hyr]⟩

lemma sameOffer_active {e e' : Evaluator} {c c' : Configuration} (hr : e.Runs c) (hr' : e'.Runs c')
    (hc : c.Accepted) (hc' : c'.Accepted) {h : Household}
    (hoffers : ∀ code name table, c.Offers h code name table ↔ c'.Offers h code name table) :
    SameOffer (e.active h) (e'.active h) := by
  intro v
  constructor
  · intro hv
    obtain ⟨x, hx, rfl⟩ := List.mem_map.mp hv
    obtain ⟨y, hy, heq⟩ := hr.exists_counterpart hr' hc hc' (fun _ _ _ => (hoffers _ _ _).mp) hx
    exact List.mem_map.mpr ⟨y, hy, heq⟩
  · intro hv
    obtain ⟨y, hy, rfl⟩ := List.mem_map.mp hv
    obtain ⟨x, hx, heq⟩ := hr'.exists_counterpart hr hc' hc (fun _ _ _ => (hoffers _ _ _).mpr) hy
    exact List.mem_map.mpr ⟨x, hx, heq⟩

/-- Two configurations that offer a household the same programs screen it alike, in whatever order
they list them and whatever they hold for other states. -/
theorem evaluate_depends_on_offers {settings settings' : Settings}
    {tables tables' : Table PovertyTable} {programs programs' : List ProgramEntry}
    {c c' : Configuration} (hc : Configuration.ofParts settings tables programs = .ok c)
    (hc' : Configuration.ofParts settings' tables' programs' = .ok c')
    (hperiod : settings.simulation.period = settings'.simulation.period) (h : Household)
    (hoffers : ∀ code name table, c.Offers h code name table ↔ c'.Offers h code name table) :
    ∃ e e', ofConfiguration c = .ok e ∧ ofConfiguration c' = .ok e' ∧
      ∀ (simulate : Document → String → Except Failure Response)
        (limit : LimitQuery → LimitAnswer) (asOf : Date) (s : Asked),
        let first := e.evaluate (.ofFunctions simulate limit) h asOf s
        let second := e'.evaluate (.ofFunctions simulate limit) h asOf s
        first.2.documents = second.2.documents ∧ SameOutcome first.1 second.1 := by
  obtain ⟨rfl, hacc⟩ := Configuration.accepted_of_ofParts hc
  obtain ⟨rfl, hacc'⟩ := Configuration.accepted_of_ofParts hc'
  obtain ⟨e, he, hruns⟩ := exists_runs hacc
  obtain ⟨e', he', hruns'⟩ := exists_runs hacc'
  refine ⟨e, e', he, he', ?_⟩
  intro simulate limit asOf s
  have hoffer := sameOffer_active hruns hruns' hacc hacc' hoffers
  have hsim : Evaluator.simulate (.ofFunctions simulate limit) h
      ((e.active h).filterMap fun p => p.2.vars) e.period s =
      Evaluator.simulate (.ofFunctions simulate limit) h
        ((e'.active h).filterMap fun p => p.2.vars) e'.period s := by
    rw [hruns.period, hruns'.period]
    dsimp only
    rw [hperiod]
    exact simulate_congr _ h (fun v => ⟨hoffer.mem_vars, hoffer.symm.mem_vars⟩) _ s
  have hqueries : ∀ q, q ∈ (e.active h).flatMap (fun p => p.2.limitQueries h) ↔
      q ∈ (e'.active h).flatMap (fun p => p.2.limitQueries h) :=
    fun q => ⟨hoffer.mem_queries, hoffer.symm.mem_queries⟩
  dsimp only [evaluate]
  rw [hsim]
  refine ⟨by rw [Backend.documents_resolve, Backend.documents_resolve], ?_⟩
  generalize Evaluator.simulate _ h _ e'.period s = gathered
  obtain ⟨_ | simulation, t⟩ := gathered
  · exact .failures _
  · exact hoffer.outcome (hruns.active_nodup hacc h) (hruns'.active_nodup hacc' h)
      (hruns.active_ordered hacc h) (hruns'.active_ordered hacc' h) (hruns.active_readsDeclared h)
      (hruns'.active_readsDeclared h) (Backend.get_resolve_congr hqueries t t)

/-- Two programs that add up the income in different orders. -/
def healthPrograms : List ProgramEntry := [
  ⟨"il_all_kids", "All Kids", some "IL", "2025"⟩,
  ⟨"medicare_savings", "Medicare Savings", none, "2025"⟩]

def pensioner (streams : List IncomeStream) : Household where
  id := ⟨0⟩
  state := "IL"
  reportedSize := none
  assets := .zero
  county := none
  zipcode := none
  members := [{
    id := ⟨1⟩
    relationship := .headOfHousehold
    age := some 70
    birthMonth := none
    pregnant := false
    disabled := false
    visuallyImpaired := false
    longTermDisability := false
    student := false
    insurance := .ofList [.medicare]
    incomeStreams := streams }]
  expenses := []
  currentBenefits := .empty

def offline : Backend Asked :=
  .ofFunctions (fun _ _ => .error (.unreachable "offline")) fun _ => .error (.unavailable "offline")

/-- The other way round and behind a program of Colorado, the programs give the same results. -/
theorem health_results_without_order :
    ∃ c c' e e' r r',
      Configuration.ofParts Shipped.settings Shipped.tables healthPrograms = .ok c ∧
      Configuration.ofParts Shipped.settings Shipped.tables
        (⟨"co_weatherization_assistance", "Weatherization", some "CO", "2024"⟩ ::
          healthPrograms.reverse) = .ok c' ∧
      ofConfiguration c = .ok e ∧ ofConfiguration c' = .ok e' ∧
      let h := pensioner [⟨.pension, .whole 900, .monthly, none⟩]
      (e.evaluate offline h ⟨2025, 6, 1⟩ ⟨[], []⟩).1 = .ok r ∧
      (e'.evaluate offline h ⟨2025, 6, 1⟩ ⟨[], []⟩).1 = .ok r' ∧
      (r.program? "medicare_savings").any ProgramResult.eligible = true ∧
      (∀ code, r.program? code = r'.program? code) ∧ r.dependencies = r'.dependencies := by
  have hscreen : (do
      let c ← Configuration.ofParts Shipped.settings Shipped.tables healthPrograms
      let c' ← Configuration.ofParts Shipped.settings Shipped.tables
        (⟨"co_weatherization_assistance", "Weatherization", some "CO", "2024"⟩ ::
          healthPrograms.reverse)
      let e ← ofConfiguration c
      (e.evaluate offline (pensioner [⟨.pension, .whole 900, .monthly, none⟩]) ⟨2025, 6, 1⟩
        ⟨[], []⟩).1).toOption.any (fun r : Report =>
          (r.program? "medicare_savings").any ProgramResult.eligible) = true := by
    decide +kernel
  obtain ⟨r, hr, heligible⟩ := exists_ok_of_any hscreen
  obtain ⟨c, hc, hr⟩ := bind_eq_ok.mp hr
  obtain ⟨c', hc', hr⟩ := bind_eq_ok.mp hr
  obtain ⟨e, he, hr⟩ := bind_eq_ok.mp hr
  have hoffers : ∀ code name table,
      c.Offers (pensioner [⟨.pension, .whole 900, .monthly, none⟩]) code name table ↔
        c'.Offers (pensioner [⟨.pension, .whole 900, .monthly, none⟩]) code name table := by
    obtain ⟨rfl, _⟩ := Configuration.accepted_of_ofParts hc
    obtain ⟨rfl, _⟩ := Configuration.accepted_of_ofParts hc'
    refine Configuration.offers_congr _ fun p hp => ?_
    rw [List.mem_cons, List.mem_reverse, or_iff_right]
    rintro rfl
    exact absurd hp (by unfold ProgramEntry.OfferedTo; decide)
  obtain ⟨e₁, e', he₁, he', hall⟩ := evaluate_depends_on_offers hc hc' rfl _ hoffers
  obtain rfl : e = e₁ := Except.ok.inj (he.symm.trans he₁)
  obtain ⟨_, hsame⟩ := hall (fun _ _ => .error (.unreachable "offline"))
    (fun _ => .error (.unavailable "offline")) ⟨2025, 6, 1⟩ ⟨[], []⟩
  change SameOutcome (e.evaluate offline _ _ _).1 (e'.evaluate offline _ _ _).1 at hsame
  rw [hr] at hsame
  generalize hr' : (e'.evaluate offline _ _ _).1 = second at hsame
  cases hsame with
  | reports programs dependencies =>
    exact ⟨c, c', e, e', _, _, hc, hc', he, he', hr, hr', heligible, programs, dependencies⟩

/-- Income that outgrows its type when it is added up, and already when a wage is made yearly. -/
def boundlessIncome : List IncomeStream := [
  ⟨.wages, .largest, .yearly, none⟩,
  ⟨.pension, .largest, .yearly, none⟩,
  ⟨.wages, .largest, .weekly, none⟩]

/-- Which overflow stops a run does show the order of the programs, since each of these meets
another one first. -/
theorem first_overflow_shows_order :
    ∃ c c' e e',
      Configuration.ofParts Shipped.settings Shipped.tables healthPrograms = .ok c ∧
      Configuration.ofParts Shipped.settings Shipped.tables healthPrograms.reverse = .ok c' ∧
      ofConfiguration c = .ok e ∧ ofConfiguration c' = .ok e' ∧
      let h := pensioner boundlessIncome
      (∀ code name table, c.Offers h code name table ↔ c'.Offers h code name table) ∧
      (e.evaluate offline h ⟨2025, 6, 1⟩ ⟨[], []⟩).1 = .error (.arithmetic .addition) ∧
      (e'.evaluate offline h ⟨2025, 6, 1⟩ ⟨[], []⟩).1 = .error (.arithmetic .multiplication) := by
  have hstopped : ((do
      let c ← Configuration.ofParts Shipped.settings Shipped.tables healthPrograms
      let c' ← Configuration.ofParts Shipped.settings Shipped.tables healthPrograms.reverse
      let e ← ofConfiguration c
      let e' ← ofConfiguration c'
      return (e, e')) : Except EngineError _).toOption.any (fun es =>
        (es.1.evaluate offline (pensioner boundlessIncome) ⟨2025, 6, 1⟩ ⟨[], []⟩).1.map
            (fun _ => ()) = .error (.arithmetic .addition) ∧
          (es.2.evaluate offline (pensioner boundlessIncome) ⟨2025, 6, 1⟩ ⟨[], []⟩).1.map
            (fun _ => ()) = .error (.arithmetic .multiplication)) = true := by
    decide +kernel
  obtain ⟨⟨e, e'⟩, hes, hrun⟩ := exists_ok_of_any hstopped
  obtain ⟨c, hc, hes⟩ := bind_eq_ok.mp hes
  obtain ⟨c', hc', hes⟩ := bind_eq_ok.mp hes
  obtain ⟨e₁, he, hes⟩ := bind_eq_ok.mp hes
  obtain ⟨e₂, he', hes⟩ := bind_eq_ok.mp hes
  cases pure_eq_ok.mp hes
  obtain ⟨hfirst, hsecond⟩ := of_decide_eq_true hrun
  refine ⟨c, c', e, e', hc, hc', he, he', ?_, eq_error_of_map hfirst, eq_error_of_map hsecond⟩
  obtain ⟨rfl, _⟩ := Configuration.accepted_of_ofParts hc
  obtain ⟨rfl, _⟩ := Configuration.accepted_of_ofParts hc'
  exact Configuration.offers_congr _ fun p _ => List.mem_reverse.symm

end Evaluator

end BenefitScreen
