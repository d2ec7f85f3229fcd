import BenefitScreen.Proofs.DocumentUnits

/-!
What a document says: every person and every group has the variables of its scope that some program
needs, each for the one period, and no others.
-/

namespace BenefitScreen.Simulation

open Fallible

namespace Variables

/-- Some programs need the same variables between them as some others do. -/
structure SameUnion (specs specs' : List Variables) : Prop where
  inputs : ∀ i, (∃ s ∈ specs, i ∈ s.inputs) ↔ ∃ s ∈ specs', i ∈ s.inputs
  outputs : ∀ o, (∃ s ∈ specs, o ∈ s.outputs) ↔ ∃ s ∈ specs', o ∈ s.outputs

variable {specs : List Variables}

lemma inputsAt_taxUnit : InputsAt specs .taxUnit = fun _ => False := by
  funext i
  refine eq_false fun hi => ?_
  cases i <;> cases hi.1

lemma outputsAt_household : OutputsAt specs .household = fun _ => False := by
  funext o
  refine eq_false fun ho => ?_
  cases o <;> cases ho.1

end Variables

open Variables

namespace Fields

variable {f : Fields} {field period : String}

/-- Every variable has a value for the one period and for no other. -/
def OnePeriod (period : String) (f : Fields) : Prop :=
  ∀ field periods, f.get? field = some periods → ∃ x, periods = .ofList [(period, x)]

lemma onePeriod_empty (period : String) : OnePeriod period .empty := by
  intro field periods hget
  cases hget

lemma OnePeriod.put (hf : f.OnePeriod period) (field : String) (x : Json) :
    (f.put field period x).OnePeriod period := by
  intro field' periods hget
  unfold Fields.put at hget
  rw [Table.get?_insert] at hget
  split at hget
  · refine ⟨x, ?_⟩
    rw [← Option.some.inj hget]
    cases hold : f.get? field with
    | none => rfl
    | some old =>
      obtain ⟨y, rfl⟩ := hf field old hold
      apply Table.ext_get?
      intro period'
      simp [Table.ofList]
      split <;> rfl
  · exact hf field' periods hget

lemma OnePeriod.get?_eq_some (hf : f.OnePeriod period) {x : Json} :
    f.get? field = some (.ofList [(period, x)]) ↔ f.slot? field period = some x := by
  unfold slot?
  constructor
  · intro hget
    rw [hget, Option.bind_some, Table.get?_ofList_singleton]
  · intro hslot
    obtain ⟨periods, hget, hx⟩ := Option.bind_eq_some_iff.mp hslot
    obtain ⟨y, rfl⟩ := hf field periods hget
    rw [Table.get?_ofList_singleton] at hx
    rw [hget, Option.some.inj hx]

lemma OnePeriod.notMem_keys (hf : f.OnePeriod period) (hslot : f.slot? field period = none) :
    field ∉ f.keys := by
  intro hmem
  obtain ⟨periods, hget⟩ := Table.mem_keys.mp hmem
  obtain ⟨x, rfl⟩ := hf field periods hget
  rw [hf.get?_eq_some.mp hget] at hslot
  cases hslot

/-- What a person or a group has of some inputs and outputs: the values of the inputs, empty slots
for the outputs, all for one period, and nothing else. -/
structure Consists (h : Household) (t : TaxUnits) (period : String) (m : Option Member)
    (inputs : Input → Prop) (outputs : Output → Prop) (f : Fields) : Prop where
  names : ∀ name, name ∈ f.keys ↔
    (∃ i, inputs i ∧ i.field = name) ∨ ∃ o, outputs o ∧ o.field = name
  input : ∀ i, inputs i → ∃ v, i.value h t m = .ok v ∧
    f.get? i.field = some (.ofList [(period, v.toJson)])
  output : ∀ o, outputs o → f.get? o.field = some (.ofList [(period, .null)])

variable {h : Household} {t : TaxUnits} {m : Option Member} {inputs : Input → Prop}
  {outputs : Output → Prop}

lemma consists_of_slots (hf : f.OnePeriod period)
    (hin : ∀ i, inputs i → ∃ x, Document.Holds h t i m x ∧ f.slot? i.field period = some x)
    (hout : ∀ o, outputs o → ∃ x, x = .null ∧ f.slot? o.field period = some x)
    (hnone : ∀ name, (∀ i, inputs i → i.field ≠ name) → (∀ o, outputs o → o.field ≠ name) →
      f.slot? name period = none) : f.Consists h t period m inputs outputs := by
  have hinput : ∀ i, inputs i → ∃ v, i.value h t m = .ok v ∧
      f.get? i.field = some (.ofList [(period, v.toJson)]) := by
    intro i hi
    obtain ⟨_, ⟨v, hv, rfl⟩, hslot⟩ := hin i hi
    exact ⟨v, hv, hf.get?_eq_some.mpr hslot⟩
  have houtput : ∀ o, outputs o → f.get? o.field = some (.ofList [(period, .null)]) := by
    intro o ho
    obtain ⟨_, rfl, hslot⟩ := hout o ho
    exact hf.get?_eq_some.mpr hslot
  refine ⟨fun name => ⟨fun hname => ?_, ?_⟩, hinput, houtput⟩
  · by_contra hundeclared
    rw [not_or] at hundeclared
    refine hf.notMem_keys (hnone name (fun i hi heq => ?_) fun o ho heq => ?_) hname
    · exact hundeclared.1 ⟨i, hi, heq⟩
    · exact hundeclared.2 ⟨o, ho, heq⟩
  · rintro (⟨i, hi, rfl⟩ | ⟨o, ho, rfl⟩)
    · obtain ⟨v, _, hget⟩ := hinput i hi
      exact Table.mem_keys.mpr ⟨_, hget⟩
    · exact Table.mem_keys.mpr ⟨_, houtput o ho⟩

end Fields

namespace Document

section OnePeriod

variable {d : Document} {period : String}

/-- The whole document is about one period. -/
structure OnePeriod (period : String) (d : Document) : Prop where
  person : ∀ key fields, d.people.get? key = some fields → fields.OnePeriod period
  group : ∀ kind key group, (d.groups kind).get? key = some group → group.fields.OnePeriod period

lemma onePeriod_build {h : Household} {specs : List Variables}
    (hbuild : build h specs period = .ok d) : d.OnePeriod period := by
  have hevery : d.Every (Fields.OnePeriod period) :=
    every_build (Fields.onePeriod_empty period) (fun i v _ hf => hf.put i.field v.toJson)
      (fun o _ hf => hf.put o.field .null) hbuild
  exact ⟨hevery.person, hevery.group⟩

end OnePeriod

section Content

variable {h : Household} {t : TaxUnits} {specs : List Variables} {period : String} {d : Document}

lemma Completed.personSlot?_eq_none (hd : Completed h t specs period d) {name : String}
    (hin : ∀ i, InputsAt specs .person i → i.field ≠ name)
    (hout : ∀ o, OutputsAt specs .person o → o.field ≠ name) (key : String) :
    d.personSlot? key name period = none := by
  -- The name is that of an input or of an output of another scope, or of no variable at all.
  by_cases hinput : ∃ i ∈ (allInputs specs).members, i.field = name
  · obtain ⟨i, hi, rfl⟩ := hinput
    refine (hd.input i hi).person_none (fun hscope => ?_) key
    exact hin i ⟨hscope, mem_allInputs.mp hi⟩ rfl
  · by_cases houtput : ∃ o ∈ (allOutputs specs).members, o.field = name
    · obtain ⟨o, ho, rfl⟩ := houtput
      refine (hd.output o ho).person_none (fun hscope => ?_) key
      exact hout o ⟨hscope, mem_allOutputs.mp ho⟩ rfl
    · refine (hd.free name (fun i hi heq => ?_) fun o ho heq => ?_).person key
      · exact hinput ⟨i, hi, heq⟩
      · exact houtput ⟨o, ho, heq⟩

lemma Completed.groupSlot?_eq_none (hd : Completed h t specs period d) {kind : GroupKind}
    {name : String} (hin : ∀ scope, kind.scope? = some scope → ∀ i, InputsAt specs scope i →
      i.field ≠ name)
    (hout : ∀ scope, kind.scope? = some scope → ∀ o, OutputsAt specs scope o → o.field ≠ name)
    (key : String) : d.groupSlot? kind key name period = none := by
  by_cases hinput : ∃ i ∈ (allInputs specs).members, i.field = name
  · obtain ⟨i, hi, rfl⟩ := hinput
    refine (hd.input i hi).group_none kind (fun hkind => ?_) key
    exact hin i.scope hkind i ⟨rfl, mem_allInputs.mp hi⟩ rfl
  · by_cases houtput : ∃ o ∈ (allOutputs specs).members, o.field = name
    · obtain ⟨o, ho, rfl⟩ := houtput
      refine (hd.output o ho).group_none kind (fun hkind => ?_) key
      exact hout o.scope hkind o ⟨rfl, mem_allOutputs.mp ho⟩ rfl
    · refine (hd.free name (fun i hi heq => ?_) fun o ho heq => ?_).group kind key
      · exact hinput ⟨i, hi, heq⟩
      · exact houtput ⟨o, ho, heq⟩

lemma Completed.consists_person (hd : Completed h t specs period d) (hone : d.OnePeriod period)
    {id : MemberId} {m : Member} (hm : h.member? id = some m) {f : Fields}
    (hf : d.people.get? id.text = some f) :
    f.Consists h t period (some m) (InputsAt specs .person) (OutputsAt specs .person) := by
  have hslot : ∀ name, f.slot? name period = d.personSlot? id.text name period := by
    intro name
    rw [personSlot?, hf, Option.bind_some]
  refine Fields.consists_of_slots (hone.person _ _ hf) (fun i hi => ?_) (fun o ho => ?_)
    fun name hin hout => ?_
  · rw [hslot]
    exact (hd.input i (mem_allInputs.mpr hi.2)).person hi.1 id m hm
  · rw [hslot]
    exact (hd.output o (mem_allOutputs.mpr ho.2)).person ho.1 id m hm
  · rw [hslot]
    exact hd.personSlot?_eq_none hin hout id.text

lemma Completed.consists_group (hd : Completed h t specs period d) (hone : d.OnePeriod period)
    (kind : GroupKind) {key : String} {group : Group} (hget : (d.groups kind).get? key = some group)
    {scope : Scope} (hkind : kind.scope? = some scope) :
    group.fields.Consists h t period none (InputsAt specs scope) (OutputsAt specs scope) := by
  have hkey : key ∈ (d.groups kind).keys := Table.mem_keys.mpr ⟨group, hget⟩
  have hslot : ∀ name, group.fields.slot? name period = d.groupSlot? kind key name period := by
    intro name
    rw [groupSlot?, hget, Option.bind_some]
  refine Fields.consists_of_slots (hone.group _ _ _ hget) (fun i hi => ?_) (fun o ho => ?_)
    fun name hin hout => ?_
  · rw [hslot]
    exact (hd.input i (mem_allInputs.mpr hi.2)).group kind (hi.1 ▸ hkind) key hkey
  · rw [hslot]
    exact (hd.output o (mem_allOutputs.mpr ho.2)).group kind (ho.1 ▸ hkind) key hkey
  · rw [hslot]
    refine hd.groupSlot?_eq_none (fun scope' hscope' => ?_) (fun scope' hscope' => ?_) key
    · obtain rfl : scope = scope' := Option.some.inj (hkind.symm.trans hscope')
      exact hin
    · obtain rfl : scope = scope' := Option.some.inj (hkind.symm.trans hscope')
      exact hout

lemma Completed.fields_eq_empty (hd : Completed h t specs period d) (hone : d.OnePeriod period)
    (kind : GroupKind) (hkind : kind.scope? = none) {key : String} {group : Group}
    (hget : (d.groups kind).get? key = some group) : group.fields = .empty := by
  refine Table.eq_empty_of_keys (List.eq_nil_iff_forall_not_mem.mpr fun name => ?_)
  refine (hone.group _ _ _ hget).notMem_keys ?_
  have hnone : d.groupSlot? kind key name period = none :=
    hd.groupSlot?_eq_none (fun scope hscope => by simp [hkind] at hscope)
      (fun scope hscope => by simp [hkind] at hscope) key
  rwa [groupSlot?, hget, Option.bind_some] at hnone

end Content

/-- What a document about some programs says of a household. -/
structure Content (h : Household) (t : TaxUnits) (specs : List Variables) (period : String)
    (d : Document) : Prop where
  people : d.people.keys.Perm (h.members.map fun m => m.id.text)
  person : ∀ m ∈ h.members, ∃ f, d.people.get? m.id.text = some f ∧
    f.Consists h t period (some m) (InputsAt specs .person) (OutputsAt specs .person)
  household : d.households.keys = [householdKey] ∧
    ∃ g, d.households.get? householdKey = some g ∧
      g.fields.Consists h t period none (InputsAt specs .household) fun _ => False
  spmUnit : d.spmUnits.keys = [spmUnitKey] ∧
    ∃ g, d.spmUnits.get? spmUnitKey = some g ∧
      g.fields.Consists h t period none (InputsAt specs .spmUnit) (OutputsAt specs .spmUnit)
  taxUnit : d.taxUnits.keys.Perm (t.units.map TaxUnit.key) ∧
    ∀ key g, d.taxUnits.get? key = some g →
      g.fields.Consists h t period none (fun _ => False) (OutputsAt specs .taxUnit)
  family : ∀ key g, d.families.get? key = some g → g.fields = .empty
  maritalUnit : ∀ key g, d.maritalUnits.get? key = some g → g.fields = .empty

lemma Completed.content {h : Household} {t : TaxUnits} {specs : List Variables} {period : String}
    {d : Document} (hcompleted : Completed h t specs period d) (hone : d.OnePeriod period)
    (hd : h.DistinctIds) (hne : h.members ≠ []) (hplaces : Places h t d) :
    Content h t specs period d := by
  have hshared : ∀ kind key, (kind, key) ∈ sharedGroups → (d.groups kind).keys = [key] ∧
      ∃ g, (d.groups kind).get? key = some g := by
    intro kind key hmem
    obtain ⟨hkeys, _⟩ := hplaces.shared hne (kind, key) hmem
    exact ⟨hkeys, Table.mem_keys.mp (hkeys ▸ List.mem_singleton_self key)⟩
  refine ⟨hplaces.people, fun m hm => ?_, ?_, ?_, ⟨?_, fun key g hget => ?_⟩,
    fun key g hget => ?_, fun key g hget => ?_⟩
  · obtain ⟨f, hget⟩ := Table.mem_keys.mp (hasPeople_of_shape hcompleted.shape m hm)
    have hself : h.member? m.id = some m := find?_of_nodup_keys hd hm
    exact ⟨f, hget, hcompleted.consists_person hone hself hget⟩
  · obtain ⟨hkeys, g, hget⟩ := hshared .households householdKey (by simp [sharedGroups])
    have hg := hcompleted.consists_group hone .households hget rfl
    exact ⟨hkeys, g, hget, outputsAt_household ▸ hg⟩
  · obtain ⟨hkeys, g, hget⟩ := hshared .spmUnits spmUnitKey (by simp [sharedGroups])
    exact ⟨hkeys, g, hget, hcompleted.consists_group hone .spmUnits hget rfl⟩
  · exact groups_keys_of_shape hcompleted.shape .taxUnits ▸ taxUnits_skeleton h t
  · have hg := hcompleted.consists_group hone .taxUnits hget rfl
    exact inputsAt_taxUnit ▸ hg
  · exact hcompleted.fields_eq_empty hone .families rfl hget
  · exact hcompleted.fields_eq_empty hone .maritalUnits rfl hget

/-- A document has exactly the variables that some program needs, where they belong, and does not
show which program needs them. -/
theorem build_content (h : Household) (hd : h.DistinctIds) (hne : h.members ≠ [])
    (specs : List Variables) (period : String)
    (hfit : ∀ o, build h specs period ≠ .error (.arithmetic o)) :
    ∃ d t, build h specs period = .ok d ∧ TaxUnits.classify h = .ok t ∧
      Content h t specs period d ∧
      ∀ specs', SameUnion specs specs' → build h specs' period = .ok d := by
  cases hbuild : build h specs period with
  | error e =>
    obtain ⟨o, rfl⟩ := error_of_build hd hbuild
    exact absurd hbuild (hfit o)
  | ok d =>
    obtain ⟨t, hclassify, hcompleted⟩ := completed_of_build hbuild
    have ht := TaxUnits.placed_of_classify hd hclassify
    have hplaces := places_of_shape hd ht hcompleted.shape
    refine ⟨d, t, rfl, hclassify, ?_, fun specs' hsame => ?_⟩
    · exact hcompleted.content (onePeriod_build hbuild) hd hne hplaces
    · rw [← hbuild]
      refine build_congr (fun i => ?_) fun o => ?_
      · simpa only [List.mem_flatMap] using (hsame.inputs i).symm
      · simpa only [List.mem_flatMap] using (hsame.outputs o).symm

def shelterCosts : Variables where
  inputs := [.stateCode, .rent, .housingCost]
  outputs := [.snap]

/-- The shared flat in a document about food, health and shelter, asked for in two ways. -/
theorem sharedFlat_content :
    ∃ d t, build TaxUnits.sharedFlat [foodAndHealth, shelterCosts] "2025" = .ok d ∧
      TaxUnits.classify TaxUnits.sharedFlat = .ok t ∧
      Content TaxUnits.sharedFlat t [foodAndHealth, shelterCosts] "2025" d ∧
      build TaxUnits.sharedFlat [shelterCosts, foodAndHealth, shelterCosts] "2025" = .ok d ∧
      (d.spmUnits.get? spmUnitKey).any (fun g =>
        g.fields.keys = ["housing_cost", "snap", "snap_assets"]) = true := by
  have hscreen : (build TaxUnits.sharedFlat [foodAndHealth, shelterCosts] "2025").toOption.any
      (fun d => (d.spmUnits.get? spmUnitKey).any fun g =>
        g.fields.keys = ["housing_cost", "snap", "snap_assets"]) = true := by
    decide +kernel
  obtain ⟨d, hbuild, hkeys⟩ := exists_ok_of_any hscreen
  have hfit : ∀ o, build TaxUnits.sharedFlat [foodAndHealth, shelterCosts] "2025" ≠
      .error (.arithmetic o) := by
    intro o
    rw [hbuild]
    exact fun h => by cases h
  have hsame : SameUnion [foodAndHealth, shelterCosts]
      [shelterCosts, foodAndHealth, shelterCosts] := by
    constructor <;> simp <;> tauto
  obtain ⟨d', t, hbuild', hclassify, hcontent, hunion⟩ :=
    build_content TaxUnits.sharedFlat (by decide) (by decide) [foodAndHealth, shelterCosts] "2025"
      hfit
  obtain rfl : d = d' := Except.ok.inj (hbuild.symm.trans hbuild')
  exact ⟨d, t, hbuild, hclassify, hcontent, hunion _ hsame, hkeys⟩

end Document

end BenefitScreen.Simulation
