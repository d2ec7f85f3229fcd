import BenefitScreen.Proofs.DocumentWrites

/-!
A document as it is built: first all inputs, each where none of its slots is taken, then all
outputs.
-/

namespace BenefitScreen.Simulation

open Fallible

lemma Output.field_injective : Function.Injective Output.field :=
  fun _ _ heq => Enumerated.name_inj heq

namespace Variables

/-- An input of a scope that some program needs. -/
def InputsAt (specs : List Variables) (scope : Scope) (i : Input) : Prop :=
  i.scope = scope ∧ ∃ s ∈ specs, i ∈ s.inputs

/-- An output of a scope that some program needs. -/
def OutputsAt (specs : List Variables) (scope : Scope) (o : Output) : Prop :=
  o.scope = scope ∧ ∃ s ∈ specs, o ∈ s.outputs

variable {specs : List Variables}

lemma mem_allInputs {i : Input} : i ∈ (allInputs specs).members ↔ ∃ s ∈ specs, i ∈ s.inputs := by
  unfold allInputs
  rw [EnumSet.mem_ofList, List.mem_flatMap]

lemma mem_allOutputs {o : Output} :
    o ∈ (allOutputs specs).members ↔ ∃ s ∈ specs, o ∈ s.outputs := by
  unfold allOutputs
  rw [EnumSet.mem_ofList, List.mem_flatMap]

end Variables

namespace Fields

lemma slot?_reserve (f : Fields) (field period field' period' : String) :
    (f.reserve field period).slot? field' period' =
      if field' = field ∧ period' = period then some ((f.slot? field period).getD .null)
      else f.slot? field' period' := by
  unfold reserve
  cases hslot : f.slot? field period with
  | none =>
    dsimp only
    rw [slot?_put]
    rfl
  | some v =>
    dsimp only
    split
    · rename_i h
      rw [h.1, h.2, hslot]
      rfl
    · rfl

lemma slot?_reserve_of_ne (f : Fields) {field field' : String} (hne : field' ≠ field)
    (period period' : String) :
    (f.reserve field period).slot? field' period' = f.slot? field' period' := by
  rw [slot?_reserve, if_neg fun h => hne h.1]

end Fields

namespace Document

section WriteInputs

variable (h : Household) (t : TaxUnits) (period : String)

/-- A document in which some inputs are written and nothing else. -/
structure Written (seen : List Input) (d : Document) : Prop where
  shape : d.shape = (skeleton h t).shape
  slots : ∀ input ∈ seen, Slots h input.scope input.field period (Holds h t input) d
  agree : ∀ input ∈ seen, input.scope = .person → ¬Contradicts h t input
  free : ∀ field, (∀ input ∈ seen, input.field ≠ field) → d.Free field period

variable {h t period} {seen : List Input} {input : Input} {d d' : Document}

lemma hasPeople_of_shape (hshape : d.shape = (skeleton h t).shape) : HasPeople h d := by
  intro m hm
  rw [people_keys_of_shape hshape]
  refine Table.mem_keys_ofList.mpr ?_
  rw [List.map_map]
  exact List.mem_map_of_mem hm

lemma Written.start (h : Household) (t : TaxUnits) (period : String) :
    Written h t period [] (skeleton h t) where
  shape := rfl
  slots _ hmem := by cases hmem
  agree _ hmem := by cases hmem
  free field _ := free_skeleton h t field period

lemma Written.free_of_notMem (hd : Written h t period seen d) (hnew : input ∉ seen) :
    d.Free input.field period :=
  hd.free input.field fun _ hother heq => hnew (Input.field_injective heq ▸ hother)

/-- A new input is added to those that are written. -/
lemma Written.step (hd : Written h t period seen d) (hnew : input ∉ seen)
    (hwrite : writeInput h t period d input = .ok d') :
    Written h t period (seen ++ [input]) d' := by
  have hpeople := hasPeople_of_shape hd.shape
  have hfree := hd.free_of_notMem hnew
  have hwrites := Writes.of_writeInput hwrite
  refine ⟨hwrites.shape.trans hd.shape, fun other hother => ?_, fun other hother hscope => ?_,
    fun field hfield => ?_⟩
  · rcases List.mem_append.mp hother with hother | hother
    · have hne : other.field ≠ input.field := fun heq =>
        hnew (Input.field_injective heq ▸ hother)
      exact (hd.slots other hother).of_writes hwrites hne
    · obtain rfl := List.mem_singleton.mp hother
      exact slots_of_writeInput hpeople hfree hwrite
  · rcases List.mem_append.mp hother with hother | hother
    · exact hd.agree other hother hscope
    · obtain rfl := List.mem_singleton.mp hother
      exact (filled_of_writeInput hpeople hfree hscope hwrite).not_contradicts
  · have hne : field ≠ input.field :=
      (hfield input (List.mem_append_right _ (List.mem_singleton_self _))).symm
    exact hwrites.free hne (hd.free field fun other hother =>
      hfield other (List.mem_append_left _ hother))

lemma written_of_foldlM {inputs : List Input} (hnodup : inputs.Nodup)
    (hrun : inputs.foldlM (writeInput h t period) (skeleton h t) = .ok d) :
    Written h t period inputs d := by
  refine foldlM_induction _ (.start h t period) (fun _ _ _ hsplit _ _ hd hstep => ?_) hrun
  exact hd.step (notMem_of_split hnodup hsplit) hstep

end WriteInputs

section ReserveOutput

variable {h : Household} {period field : String} {output : Output} {outputs : List Output}
  {scope : Scope} {holds : Option Member → Json → Prop} {d : Document}

lemma people_reserveOutput (period : String) (d : Document) (output : Output) :
    (reserveOutput period d output).people =
      if output.scope = .person then d.people.map fun _ fields => fields.reserve output.field period
      else d.people := by
  unfold reserveOutput
  split
  · rename_i hscope
    rw [if_pos hscope]
  · rename_i hscope
    rw [if_neg hscope, people_withGroups]

lemma groups_reserveOutput (period : String) (d : Document) (output : Output) (kind : GroupKind) :
    (reserveOutput period d output).groups kind =
      if kind.scope? = some output.scope then (d.groups kind).map fun _ group =>
        { group with fields := group.fields.reserve output.field period }
      else d.groups kind := by
  unfold reserveOutput
  split
  · rename_i hscope
    rw [hscope, if_neg kind.scope?_ne_person]
    cases kind <;> rfl
  · rename_i hscope
    rw [groups_withGroups]
    by_cases hkind : kind.scope? = some output.scope
    · obtain rfl := (GroupKind.scope?_eq_some hscope).mp hkind
      rw [if_pos rfl, if_pos hkind]
    · rw [if_neg hkind, if_neg fun heq => hkind ((GroupKind.scope?_eq_some hscope).mpr heq)]

lemma personSlot?_reserveOutput (period : String) (d : Document) (output : Output)
    (key field' period' : String) :
    (reserveOutput period d output).personSlot? key field' period' =
      (d.people.get? key).bind fun fields =>
        if output.scope = .person then (fields.reserve output.field period).slot? field' period'
        else fields.slot? field' period' := by
  unfold personSlot?
  rw [people_reserveOutput]
  split
  · rw [Table.get?_map, Option.bind_map]
    rfl
  · rfl

lemma groupSlot?_reserveOutput (period : String) (d : Document) (output : Output)
    (kind : GroupKind) (key field' period' : String) :
    (reserveOutput period d output).groupSlot? kind key field' period' =
      ((d.groups kind).get? key).bind fun group =>
        if kind.scope? = some output.scope then
          (group.fields.reserve output.field period).slot? field' period'
        else group.fields.slot? field' period' := by
  unfold groupSlot?
  rw [groups_reserveOutput]
  split
  · rw [Table.get?_map, Option.bind_map]
    rfl
  · rfl

lemma Writes.of_reserveOutput (period : String) (d : Document) (output : Output) :
    Writes output.field d (reserveOutput period d output) where
  shape := shape_reserveOutput period d output
  person key field' period' hne := by
    rw [personSlot?_reserveOutput]
    refine congrArg _ (funext fun fields => ?_)
    rw [Fields.slot?_reserve_of_ne _ hne, ite_self]
  group kind key field' period' hne := by
    rw [groupSlot?_reserveOutput]
    refine congrArg _ (funext fun group => ?_)
    rw [Fields.slot?_reserve_of_ne _ hne, ite_self]

/-- A new output is an empty slot everywhere in its scope. -/
lemma slots_reserveOutput (hpeople : HasPeople h d) (hfree : d.Free output.field period) :
    Slots h output.scope output.field period (fun _ x => x = .null)
      (reserveOutput period d output) where
  person hscope id m hm := by
    have hid : m.id = id := beq_iff_eq.mp (List.find?_some hm :)
    obtain ⟨fields, hget⟩ := Table.mem_keys.mp (hpeople m (List.mem_of_find?_eq_some hm))
    have hslot := hfree.person m.id.text
    rw [personSlot?, hget, Option.bind_some] at hslot
    refine ⟨.null, rfl, ?_⟩
    rw [← hid, personSlot?_reserveOutput, hget, Option.bind_some, if_pos hscope,
      Fields.slot?_reserve, if_pos ⟨rfl, rfl⟩, hslot]
    rfl
  group kind hkind key hkey := by
    rw [groups_keys_of_shape (shape_reserveOutput period d output)] at hkey
    obtain ⟨group, hget⟩ := Table.mem_keys.mp hkey
    have hslot := hfree.group kind key
    rw [groupSlot?, hget, Option.bind_some] at hslot
    refine ⟨.null, rfl, ?_⟩
    rw [groupSlot?_reserveOutput, hget, Option.bind_some, if_pos hkind, Fields.slot?_reserve,
      if_pos ⟨rfl, rfl⟩, hslot]
    rfl
  person_none hscope key := by
    rw [personSlot?, people_reserveOutput, if_neg hscope]
    exact hfree.person key
  group_none kind hkind key := by
    rw [groupSlot?, groups_reserveOutput, if_neg hkind]
    exact hfree.group kind key

lemma Slots.foldl_reserveOutput (hd : Slots h scope field period holds d)
    (hne : ∀ output ∈ outputs, field ≠ output.field) :
    Slots h scope field period holds (outputs.foldl (reserveOutput period) d) :=
  List.foldlRecOn outputs _ hd fun _ hd output houtput =>
    hd.of_writes (.of_reserveOutput period _ output) (hne output houtput)

lemma Free.foldl_reserveOutput (hd : d.Free field period)
    (hne : ∀ output ∈ outputs, field ≠ output.field) :
    (outputs.foldl (reserveOutput period) d).Free field period :=
  List.foldlRecOn outputs (motive := fun d => d.Free field period) _ hd fun d hd output houtput =>
    (Writes.of_reserveOutput period d output).free (hne output houtput) hd

lemma slots_foldl_reserveOutput (hnodup : outputs.Nodup) (hpeople : HasPeople h d)
    (hfree : ∀ output ∈ outputs, d.Free output.field period) : ∀ output ∈ outputs,
    Slots h output.scope output.field period (fun _ x => x = .null)
      (outputs.foldl (reserveOutput period) d) := by
  induction outputs generalizing d with
  | nil =>
    intro output houtput
    cases houtput
  | cons output outputs ih =>
    obtain ⟨hnew, hnodup⟩ := List.nodup_cons.mp hnodup
    have hne : ∀ other ∈ outputs, other.field ≠ output.field := fun other hother heq =>
      hnew (Output.field_injective heq ▸ hother)
    have hwrites := Writes.of_reserveOutput period d output
    intro other hother
    rcases List.mem_cons.mp hother with rfl | hother
    · have hslots := slots_reserveOutput hpeople (hfree other List.mem_cons_self)
      exact hslots.foldl_reserveOutput fun next hnext => (hne next hnext).symm
    · refine ih hnodup (fun m hm => ?_) (fun next hnext => ?_) other hother
      · exact people_keys_of_shape hwrites.shape ▸ hpeople m hm
      · exact hwrites.free (hne next hnext) (hfree next (List.mem_cons_of_mem _ hnext))

end ReserveOutput

section Build

variable {h : Household} {specs : List Variables} {period : String}

lemma field_input_ne_output (input : Input) (output : Output) : input.field ≠ output.field := by
  have hdisjoint : ∀ i ∈ (Enumerated.all : List Input), ∀ o ∈ (Enumerated.all : List Output),
      i.field ≠ o.field := by
    decide
  exact hdisjoint input (Enumerated.mem_all input) output (Enumerated.mem_all output)

/-- A document in which the variables of some programs are written and nothing else. -/
structure Completed (h : Household) (t : TaxUnits) (specs : List Variables) (period : String)
    (d : Document) : Prop where
  shape : d.shape = (skeleton h t).shape
  input : ∀ i ∈ (Variables.allInputs specs).members,
    Slots h i.scope i.field period (Holds h t i) d
  agree : ∀ i ∈ (Variables.allInputs specs).members, i.scope = .person → ¬Contradicts h t i
  output : ∀ o ∈ (Variables.allOutputs specs).members,
    Slots h o.scope o.field period (fun _ x => x = .null) d
  free : ∀ field, (∀ i ∈ (Variables.allInputs specs).members, i.field ≠ field) →
    (∀ o ∈ (Variables.allOutputs specs).members, o.field ≠ field) → d.Free field period

theorem completed_of_build {d : Document} (hbuild : build h specs period = .ok d) :
    ∃ t, TaxUnits.classify h = .ok t ∧ Completed h t specs period d := by
  obtain ⟨t, hclassify, hbuild⟩ := bind_eq_ok.mp hbuild
  obtain ⟨d₁, hinputs, hbuild⟩ := bind_eq_ok.mp hbuild
  obtain rfl := pure_eq_ok.mp hbuild
  have hd := written_of_foldlM (EnumSet.nodup _) hinputs
  refine ⟨t, EngineError.ofOverflow_eq_ok.mp hclassify, ?_, fun i hi => ?_, hd.agree, ?_,
    fun field hin hout => ?_⟩
  · rw [shape_foldl_reserveOutput, hd.shape]
  · exact (hd.slots i hi).foldl_reserveOutput fun o _ => field_input_ne_output i o
  · refine slots_foldl_reserveOutput (EnumSet.nodup _) (hasPeople_of_shape hd.shape) ?_
    exact fun o _ => hd.free o.field fun i _ => field_input_ne_output i o
  · exact (hd.free field hin).foldl_reserveOutput fun o ho => (hout o ho).symm

/-- What stops a document is an amount that outgrows its type, or the first input that members with
one identifier differ in. -/
theorem conflict_of_build {e : EngineError} (hbuild : build h specs period = .error e) :
    e.IsOverflow ∨ ∃ t, TaxUnits.classify h = .ok t ∧ ∃ before i after,
      (Variables.allInputs specs).members = before ++ i :: after ∧
      (∀ j ∈ before, j.scope = .person → ¬Contradicts h t j) ∧ i.scope = .person ∧
      ∃ m, FirstToDiffer h t i m ∧ e = .conflictingValues "people" m.id.text i.field := by
  rcases bind_eq_error.mp hbuild with hclassify | ⟨t, hclassify, hbuild⟩
  · exact .inl (EngineError.isOverflow_of_ofOverflow hclassify)
  rcases bind_eq_error.mp hbuild with hinputs | ⟨_, _, hdone⟩
  · have hnodup := (Variables.allInputs specs).nodup
    obtain ⟨before, i, after, d, hsplit, hd, herror⟩ :=
      exists_of_foldlM_error (Written h t period) (.start h t period)
        (fun _ _ _ hsplit _ _ hd hstep => hd.step (notMem_of_split hnodup hsplit) hstep) hinputs
    have hfree := hd.free_of_notMem (notMem_of_split hnodup hsplit)
    refine (error_of_writeInput (hasPeople_of_shape hd.shape) hfree herror).imp_right ?_
    rintro ⟨hscope, m, hfirst, rfl⟩
    exact ⟨t, EngineError.ofOverflow_eq_ok.mp hclassify, before, i, after, hsplit, hd.agree, hscope,
      m, hfirst, rfl⟩
  · cases hdone

lemma error_of_build (hd : h.DistinctIds) {e : EngineError}
    (hbuild : build h specs period = .error e) : e.IsOverflow := by
  refine (conflict_of_build hbuild).resolve_right ?_
  rintro ⟨t, _, _, i, _, _, _, _, m, ⟨before, after, hsplit, _, hdiffers⟩, _⟩
  have hm : m ∈ h.members := hsplit ▸ List.mem_append_right _ List.mem_cons_self
  exact not_differsFromFirst_of_distinctIds hd hm hdiffers

end Build

section Every

/-- What holds of the values of every person and of every group. -/
structure Every (P : Fields → Prop) (d : Document) : Prop where
  person : ∀ key fields, d.people.get? key = some fields → P fields
  group : ∀ kind key group, (d.groups kind).get? key = some group → P group.fields

variable {P : Fields → Prop} {d d' : Document} {field period : String}

lemma every_skeleton (h : Household) (t : TaxUnits) (hempty : P .empty) :
    (skeleton h t).Every P where
  person _ _ hget := people_skeleton_eq_empty hget ▸ hempty
  group _ _ _ hget := fields_skeleton hget ▸ hempty

section Write

variable {x : Json} (hput : ∀ f, P f → P (f.put field period x))
include hput

lemma Every.writePerson (hd : d.Every P) {id : MemberId}
    (hwrite : d.writePerson id field period x = .ok d') : d'.Every P := by
  refine ⟨fun key fields hget => ?_, fun kind key group hget => ?_⟩
  · rcases writePerson_eq_ok hwrite with rfl | ⟨old, new, hold, hnew, rfl⟩
    · exact hd.person key fields hget
    · rw [Table.get?_insert] at hget
      split at hget
      · have hf := hd.person _ old hold
        exact Option.some.inj hget ▸ Fields.of_write? hf (hput old hf) hnew
      · exact hd.person key fields hget
  · exact hd.group kind key group (groups_writePerson hwrite kind ▸ hget)

lemma Every.writeGroup (hd : d.Every P) {kind : GroupKind} {key : String}
    (hwrite : Document.writeGroup kind field period x d key = .ok d') : d'.Every P := by
  refine ⟨fun key' fields hget => ?_, fun kind' key' group hget => ?_⟩
  · exact hd.person key' fields (people_writeGroup hwrite ▸ hget)
  · rcases writeGroup_eq_ok hwrite with rfl | ⟨old, new, hold, hnew, rfl⟩
    · exact hd.group kind' key' group hget
    · rw [groups_withGroups] at hget
      split at hget
      · rw [Table.get?_insert] at hget
        split at hget
        · have hf := hd.group _ _ old hold
          exact Option.some.inj hget ▸ Fields.of_write? hf (hput old.fields hf) hnew
        · exact hd.group kind key' group hget
      · exact hd.group kind' key' group hget

end Write

lemma Every.reserveOutput (hd : d.Every P) (output : Output)
    (hput : ∀ f, P f → P (f.put output.field period .null)) :
    (Document.reserveOutput period d output).Every P := by
  refine ⟨fun key fields hget => ?_, fun kind key group hget => ?_⟩
  · rw [people_reserveOutput] at hget
    split at hget
    · rw [Table.get?_map] at hget
      obtain ⟨old, hold, rfl⟩ := Option.map_eq_some_iff.mp hget
      have hf := hd.person key old hold
      exact Fields.of_reserve hf (hput old hf)
    · exact hd.person key fields hget
  · rw [groups_reserveOutput] at hget
    split at hget
    · rw [Table.get?_map] at hget
      obtain ⟨old, hold, rfl⟩ := Option.map_eq_some_iff.mp hget
      have hf := hd.group kind key old hold
      exact Fields.of_reserve hf (hput old.fields hf)
    · exact hd.group kind key group hget

/-- What holds without values and stays when an input or an output gets one, holds of everyone and
of every group in the end. -/
lemma every_build {h : Household} {specs : List Variables} (hempty : P .empty)
    (hinput : ∀ (i : Input) (v : Value) f, P f → P (f.put i.field period v.toJson))
    (houtput : ∀ (o : Output) f, P f → P (f.put o.field period .null))
    (hbuild : build h specs period = .ok d) : d.Every P := by
  obtain ⟨t, _, hbuild⟩ := bind_eq_ok.mp hbuild
  obtain ⟨d₁, hinputs, hbuild⟩ := bind_eq_ok.mp hbuild
  obtain rfl := pure_eq_ok.mp hbuild
  have hd₁ : d₁.Every P := by
    refine foldlM_invariant (Every P) (fun i _ d₂ d₃ hwrite hd => ?_) hinputs
      (every_skeleton h t hempty)
    exact writeInput_invariant (Every P) (fun _ _ _ v hd hstep => hd.writePerson (hinput i v) hstep)
      (fun _ _ _ _ v hd hstep => hd.writeGroup (hinput i v) hstep) hwrite hd
  exact List.foldlRecOn _ _ hd₁ fun _ hd o _ => hd.reserveOutput o (houtput o)

end Every

end Document

end BenefitScreen.Simulation
