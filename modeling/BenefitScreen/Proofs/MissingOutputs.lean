import BenefitScreen.Configuration.Shipped
import BenefitScreen.Proofs.DeclaredReads
import BenefitScreen.Proofs.DocumentBuild
import BenefitScreen.Proofs.PaidEligibility
import BenefitScreen.Proofs.TaxReturns

/-!
# Outputs without a value

The programs that rest on the simulation read its document through the values that outputs have. A
null counts as no value, so that an output, a period, a person or a unit may as well be missing.
The request itself comes back without a value for any output.
-/

namespace BenefitScreen

open Calculator Fallible Simulation

namespace Table

variable {α β : Type}

/-- What `f` makes of the entries, without those of which it makes nothing. -/
def filterMap (t : Table α) (f : α → Option β) : Table β :=
  ⟨t.entries.filterMap fun e => (f e.2).map (e.1, ·), by
    refine t.sorted.filterMap _ fun a a' hlt b hb b' hb' => ?_
    obtain ⟨_, _, rfl⟩ := Option.map_eq_some_iff.mp hb
    obtain ⟨_, _, rfl⟩ := Option.map_eq_some_iff.mp hb'
    exact hlt⟩

lemma values_filterMap (t : Table α) (f : α → Option β) :
    (t.filterMap f).values = t.values.filterMap f := by
  rw [values, values, filterMap, List.map_filterMap, List.filterMap_map]
  refine List.filterMap_congr fun e _ => ?_
  rw [Option.map_map]
  exact Option.map_id'

lemma get?_filterMap (t : Table α) (f : α → Option β) (k : String) :
    (t.filterMap f).get? k = (t.get? k).bind f := by
  ext b
  rw [get?_eq_some, filterMap, List.mem_filterMap, Option.bind_eq_some_iff]
  constructor
  · rintro ⟨⟨k', a⟩, hentry, hb⟩
    obtain ⟨_, hfa, heq⟩ := Option.map_eq_some_iff.mp hb
    cases heq
    exact ⟨a, get?_eq_some.mpr hentry, hfa⟩
  · rintro ⟨a, hget, hfa⟩
    exact ⟨(k, a), get?_eq_some.mp hget, by rw [hfa]; rfl⟩

/-- Tables in which the same is made of what stands under each key. -/
lemma filterMap_values_congr {s t : Table α} {f : α → Option β}
    (h : ∀ k, (s.get? k).bind f = (t.get? k).bind f) :
    s.values.filterMap f = t.values.filterMap f := by
  have hsame : s.filterMap f = t.filterMap f :=
    ext_get? fun k => by rw [get?_filterMap, get?_filterMap, h]
  rw [← values_filterMap, ← values_filterMap, hsame]

end Table

namespace Simulation

/-- In the period every output has the same value in two documents or no value in either, for every
person and for every unit. Other periods and variables, the members of the units, and families,
households and marital units may differ. -/
structure Document.SaysSame (period : String) (d d' : Document) : Prop where
  person : ∀ (key : String) (o : Output),
    ((d.people.get? key).bind fun fields => fields.value? o.field period) =
      (d'.people.get? key).bind fun fields => fields.value? o.field period
  taxUnit : ∀ (key : String) (o : Output),
    ((d.taxUnits.get? key).bind fun unit => unit.fields.value? o.field period) =
      (d'.taxUnits.get? key).bind fun unit => unit.fields.value? o.field period
  spmUnit : ∀ (key : String) (o : Output),
    ((d.spmUnits.get? key).bind fun unit => unit.fields.value? o.field period) =
      (d'.spmUnits.get? key).bind fun unit => unit.fields.value? o.field period

/-- Every output reads alike in two answers, of every member and added up. -/
structure Response.ReadsAlike (r r' : Response) : Prop where
  member : ∀ o id, r.memberValue? o id = r'.memberValue? o id
  total : ∀ o, r.total o = r'.total o

lemma Output.scope_ne_household (o : Output) : o.scope ≠ .household := by
  cases o <;> decide

lemma Document.SaysSame.readsAlike {period : String} {d d' : Document} (h : d.SaysSame period d') :
    Response.ReadsAlike ⟨d, period⟩ ⟨d', period⟩ where
  member o id := h.person id.text o
  total o := by
    have hunits : ∀ {s t : Table Group},
        (∀ key, ((s.get? key).bind fun unit => unit.fields.value? o.field period) =
          (t.get? key).bind fun unit => unit.fields.value? o.field period) →
        (s.values.map Group.fields).filterMap (fun fields => fields.value? o.field period) =
          (t.values.map Group.fields).filterMap fun fields => fields.value? o.field period := by
      intro s t hsame
      rw [List.filterMap_map, List.filterMap_map]
      exact Table.filterMap_values_congr hsame
    unfold Response.total Response.fieldsOf
    cases hscope : o.scope with
    | person => rw [Table.filterMap_values_congr fun key => h.person key o]
    | taxUnit => rw [hunits fun key => h.taxUnit key o]
    | spmUnit => rw [hunits fun key => h.spmUnit key o]
    | household => exact absurd hscope o.scope_ne_household

end Simulation

/-- The context once the simulation has given an answer. -/
def Context.answered (ctx : Context) (r : Response) : Context := { ctx with simulation := .ready r }

section Alike

variable {ctx : Context} {r r' : Response}

namespace Simulated

variable {dependencies : List DataField}

lemma calculate_forMembers_congr {vars : Variables} {amount : Response → Member → Decimal}
    (h : ∀ m, amount r m = amount r' m) :
    (forMembers dependencies vars amount).calculate (ctx.answered r) =
      (forMembers dependencies vars amount).calculate (ctx.answered r') := by
  refine calculate_of_sameRules ⟨rfl, fun m => ?_, rfl, fun m => ?_⟩ rfl rfl rfl rfl
  · funext cs
    change Except.ok (cs ++ [check (amount r m > .zero)]) =
      Except.ok (cs ++ [check (amount r' m > .zero)])
    rw [h m]
  · exact congrArg Except.ok (h m)

lemma calculate_forHousehold_congr {inputs : List Input} {output : Output}
    (h : r.total output = r'.total output) :
    (forHousehold dependencies inputs output).calculate (ctx.answered r) =
      (forHousehold dependencies inputs output).calculate (ctx.answered r') := by
  have htotal : totalOf output (ctx.answered r) = totalOf output (ctx.answered r') := h
  refine calculate_of_sameRules ⟨?_, fun _ => rfl, htotal, fun _ => rfl⟩ rfl rfl rfl rfl
  simp only [forHousehold, htotal]

end Simulated

open Simulated

namespace Registry

/-- A program that rests on the simulation sees of its answer only how the outputs read. -/
lemma calculate_of_readsAlike {e : String × Calculator} (he : e ∈ calculators)
    (hvars : e.2.vars.isSome = true) (h : r.ReadsAlike r') :
    e.2.calculate (ctx.answered r) = e.2.calculate (ctx.answered r') := by
  have hcategory : ∀ categories amount category (m : Member),
      amountByCategory categories amount category r m =
        amountByCategory categories amount category r' m := by
    intro categories amount category m
    unfold amountByCategory Response.memberAmount Response.memberText?
    rw [h.member, h.member]
  cases e, he using calculators_cases with
  | medicaid =>
    refine calculate_forMembers_congr fun m => ?_
    unfold Medicaid.amount
    rw [hcategory, Response.memberFlag, Response.memberFlag, h.member]
  | wic => exact calculate_forMembers_congr fun m => hcategory _ _ _ m
  | snap => exact calculate_forHousehold_congr (h.total _)
  | aca => exact calculate_forHousehold_congr (h.total _)
  | workers =>
    refine calculate_of_sameRules ⟨rfl, fun m => ?_, rfl, fun _ => rfl⟩ rfl rfl rfl rfl
    funext cs
    change Except.ok (cs ++ [checkFor (r.memberFlag .ilHbwdEligible m.id) .hasDisability]) =
      Except.ok (cs ++ [checkFor (r'.memberFlag .ilHbwdEligible m.id) .hasDisability])
    rw [Response.memberFlag, Response.memberFlag, h.member]
  | _ => cases hvars

end Registry

end Alike

section Nothing

variable {c : Calculator} {ctx : Context}

/-- Rules that give their conditions and turn the household down do not get as far as a value. -/
lemma Calculator.exists_refusal
    (hhousehold : ∃ cs, c.householdConditions ctx (c.simulationConditions ctx) = .ok cs)
    (hmember : ∀ m, ∃ cs, c.memberConditions ctx m [] = .ok cs) (hno : ¬c.Approves ctx) :
    ∃ result, c.calculate ctx = .ok result ∧ result.eligible = false ∧ result.value = .zero := by
  have hfits : c.Fits ctx := ⟨hhousehold, fun _ m _ => hmember m, fun h => (hno h).elim⟩
  obtain ⟨result, hresult⟩ := exists_calculate_iff.mpr hfits
  obtain ⟨outcomes, hcalculation⟩ := exists_calculation hresult
  have heligible : result.eligible = false := by
    rwa [← Bool.not_eq_true, ← hcalculation.approves_iff]
  exact ⟨result, hresult, heligible, (hcalculation.refused heligible).2⟩

namespace Simulated

variable {dependencies : List DataField} {r : Response}

lemma exists_forMembers_refusal {vars : Variables} {amount : Response → Member → Decimal}
    (h : ∀ m, amount r m = .zero) :
    ∃ result, (forMembers dependencies vars amount).calculate (ctx.answered r) = .ok result ∧
      result.eligible = false ∧ result.value = .zero := by
  refine exists_refusal ⟨[], rfl⟩ (fun _ => ⟨_, rfl⟩) ?_
  rintro ⟨-, hmember⟩
  obtain ⟨m, -, hadmits⟩ := hmember rfl
  change Conditions.passed [check (amount r m > .zero)] = true at hadmits
  rw [h m] at hadmits
  exact absurd hadmits (by decide)

lemma exists_forHousehold_refusal {inputs : List Input} {output : Output}
    (h : r.total output = .ok .zero) :
    ∃ result, (forHousehold dependencies inputs output).calculate (ctx.answered r) = .ok result ∧
      result.eligible = false ∧ result.value = .zero := by
  have hconditions : (forHousehold dependencies inputs output).householdConditions
      (ctx.answered r) [] = .ok [check (Decimal.zero > .zero)] := by
    have htotal : totalOf output (ctx.answered r) = .ok .zero := h
    change (totalOf output (ctx.answered r)).bind _ = _
    rw [htotal]
    rfl
  refine exists_refusal ⟨_, hconditions⟩ (fun _ => ⟨[], rfl⟩) ?_
  rintro ⟨⟨cs, hcs, hpassed⟩, -⟩
  obtain rfl := Except.ok.inj (hconditions.symm.trans hcs)
  exact absurd hpassed (by decide)

end Simulated

open Simulated

/-- Where the outputs of nobody and nothing have a value, every program that rests on the simulation
turns the household down. -/
lemma Registry.exists_refusal_of_empty {e : String × Calculator} (he : e ∈ calculators)
    (hvars : e.2.vars.isSome = true) (ctx : Context) (period : String) :
    ∃ result, e.2.calculate (ctx.answered ⟨.empty, period⟩) = .ok result ∧
      result.eligible = false ∧ result.value = .zero := by
  cases e, he using calculators_cases with
  | medicaid =>
    refine exists_forMembers_refusal fun m => ?_
    unfold Medicaid.amount
    split <;> rfl
  | wic => exact exists_forMembers_refusal fun m => rfl
  | snap => exact exists_forHousehold_refusal rfl
  | aca => exact exists_forHousehold_refusal rfl
  | workers =>
    refine exists_refusal ⟨[], rfl⟩ (fun _ => ⟨_, rfl⟩) ?_
    rintro ⟨-, hmember⟩
    obtain ⟨m, -, hadmits⟩ := hmember rfl
    have hfailed : Conditions.passed [checkFor false .hasDisability] = true := hadmits
    exact absurd hfailed (by decide)
  | _ => cases hvars

/-- A request gives no output a value: outputs are empty slots, and inputs have other names. -/
lemma Simulation.Document.saysSame_empty_of_build {h : Household} {specs : List Variables}
    {period : String} {d : Document} (hbuild : build h specs period = .ok d) :
    d.SaysSame period .empty := by
  have hnothing : d.Every fun fields => ∀ o : Output, fields.value? o.field period = none := by
    refine every_build (fun _ => rfl) (fun i v fields hfields o => ?_)
      (fun _ fields hfields o => ?_) hbuild
    · unfold Fields.value?
      rw [Fields.slot?_put, if_neg fun heq => field_input_ne_output i o heq.1.symm]
      exact hfields o
    · unfold Fields.value?
      rw [Fields.slot?_put]
      split
      · rfl
      · exact hfields o
  refine ⟨fun key o => ?_, fun key o => ?_, fun key o => ?_⟩
  · exact Option.bind_eq_none_iff.mpr fun fields hget => hnothing.person key fields hget o
  · exact Option.bind_eq_none_iff.mpr fun unit hget => hnothing.group .taxUnits key unit hget o
  · exact Option.bind_eq_none_iff.mpr fun unit hget => hnothing.group .spmUnits key unit hget o

end Nothing

/-- A null and a missing output are the same to every program that rests on the simulation: two
documents that say the same give the same result, of any household. The request itself, in the place
of an answer, makes nobody eligible. -/
theorem calculate_of_saysSame {code : String} {c : Calculator}
    (hc : (code, c) ∈ Registry.calculators)
    (hcode : code ∈ ["medicaid", "wic", "snap", "aca", "il_hbwd"]) (period : String) :
    (∀ d d', Document.SaysSame period d d' → ∀ ctx : Context,
      c.calculate (ctx.answered ⟨d, period⟩) = c.calculate (ctx.answered ⟨d', period⟩)) ∧
    ∀ h specs d, Document.build h specs period = .ok d → ∀ ctx : Context,
      ∃ result, c.calculate (ctx.answered ⟨d, period⟩) = .ok result ∧
        result.eligible = false ∧ result.value = .zero := by
  have hvars := (Registry.vars_isSome_iff hc).mpr hcode
  refine ⟨fun d d' hsame ctx => Registry.calculate_of_readsAlike hc hvars hsame.readsAlike, ?_⟩
  intro h specs d hbuild ctx
  have hempty := (Document.saysSame_empty_of_build hbuild).readsAlike
  rw [Registry.calculate_of_readsAlike hc hvars hempty]
  exact Registry.exists_refusal_of_empty hc hvars ctx period

open TaxUnits (sharedFlat)

/-- Nothing but an amount and a category for the head of the shared flat. -/
def headAnswer : Document := { Document.empty with
  people := .ofList [("1", .ofList [("medicaid", .ofList [("2025", .ofInt 4000)]),
    ("medicaid_category", .ofList [("2025", .text "ADULT")])])] }

/-- The same, with a null for somebody else, who has an amount in another year, and one for the SPM
unit. -/
def headAnswerWithNulls : Document := { headAnswer with
  people := headAnswer.people.insert "4"
    (.ofList [("medicaid", .ofList [("2024", .ofInt 4000), ("2025", .null)])])
  spmUnits := Table.empty.insert "spm_unit" ⟨["4"], .ofList [("snap", .ofList [("2025", .null)])]⟩ }

def flatScreened : Context where
  household := sharedFlat
  program := ⟨"medicaid", "Medicaid", none, "2025", Shipped.table2025⟩
  results := .empty
  simulation := .skipped
  limits := .empty
  asOf := ⟨2025, 6, 1⟩

theorem headAnswer_saysSame :
    Document.SaysSame "2025" headAnswer headAnswerWithNulls ∧
    (∃ result, Medicaid.calculator.calculate (flatScreened.answered ⟨headAnswer, "2025"⟩) =
        .ok result ∧
      Medicaid.calculator.calculate (flatScreened.answered ⟨headAnswerWithNulls, "2025"⟩) =
        .ok result ∧ result.eligible = true) ∧
    ∃ d result, Document.build sharedFlat [⟨[.age], [.medicaid]⟩] "2025" = .ok d ∧
      Medicaid.calculator.calculate (flatScreened.answered ⟨d, "2025"⟩) = .ok result ∧
      result.eligible = false := by
  have hsame : Document.SaysSame "2025" headAnswer headAnswerWithNulls := by
    refine ⟨fun key o => ?_, fun _ _ => rfl, fun key o => ?_⟩
    · unfold headAnswerWithNulls
      rw [Table.get?_insert]
      split
      · rename_i hkey
        rw [hkey]
        cases o <;> rfl
      · rfl
    · unfold headAnswerWithNulls
      rw [Table.get?_insert]
      split
      · cases o <;> rfl
      · rfl
  have hmedicaid : ("medicaid", Medicaid.calculator) ∈ Registry.calculators := List.mem_cons_self
  obtain ⟨halike, hecho⟩ := calculate_of_saysSame hmedicaid (by decide) "2025"
  have hresult : ((Medicaid.calculator.calculate
      (flatScreened.answered ⟨headAnswer, "2025"⟩)).toOption.any (·.eligible)) = true := by
    decide +kernel
  have hbuild : ((Document.build sharedFlat [⟨[.age], [.medicaid]⟩] "2025").toOption.any
      fun _ => true) = true := by
    decide +kernel
  obtain ⟨result, hresult, heligible⟩ := exists_ok_of_any hresult
  obtain ⟨d, hd, -⟩ := exists_ok_of_any hbuild
  obtain ⟨refusal, hrefusal, hno, -⟩ := hecho sharedFlat [⟨[.age], [.medicaid]⟩] d hd flatScreened
  exact ⟨hsame, ⟨result, hresult, (halike _ _ hsame flatScreened).symm.trans hresult, heligible⟩,
    d, refusal, hd, hrefusal, hno⟩

end BenefitScreen
