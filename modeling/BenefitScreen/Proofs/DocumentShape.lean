import BenefitScreen.Proofs.Fallible
import BenefitScreen.Proofs.TaxPlaces
import BenefitScreen.Simulation.Request

/-!
Values are written into a document without moving anybody: the people and the members of the
groups stay those of the skeleton, and a write of one variable leaves the slots of all others alone.
-/

namespace BenefitScreen

/-- No two identifiers are written alike. -/
lemma MemberId.text_injective : Function.Injective MemberId.text := by
  intro a b h
  have hdigits : Nat.toDigits 10 a.number.toNat = Nat.toDigits 10 b.number.toNat := by
    unfold text at h
    rw [← Nat.toList_repr, ← Nat.toList_repr]
    exact congrArg String.toList h
  have hnumber : a.number.toNat = b.number.toNat := by
    rw [← Nat.ofDigitChars_ten_toDigits (n := a.number.toNat), hdigits,
      Nat.ofDigitChars_ten_toDigits]
  cases a
  cases b
  exact congrArg MemberId.mk (UInt32.toNat_inj.mp hnumber)

/-- An identifier is written in digits alone. -/
lemma MemberId.dash_not_mem_text (id : MemberId) : '-' ∉ id.text.toList := by
  intro h
  have hmem : '-' ∈ Nat.toDigits 10 id.number.toNat := by
    rw [← Nat.toList_repr]
    exact h
  have hdigit : '-'.isDigit = true := Nat.isDigit_of_mem_toDigits (by decide) (by decide) hmem
  revert hdigit
  decide

lemma EnumSet.nodup {α : Type} [DecidableEq α] [Enumerated α] (s : EnumSet α) :
    s.members.Nodup := by
  rw [s.ordered]
  exact (List.Nodup.of_map _ Enumerated.names_nodup).filter _

lemma EnumSet.ofList_congr {α : Type} [DecidableEq α] [Enumerated α] {xs ys : List α}
    (h : ∀ a, a ∈ xs ↔ a ∈ ys) : ofList xs = ofList ys := by
  unfold ofList
  congr 1
  exact List.filter_congr fun a _ => decide_eq_decide.mpr (h a)

namespace Simulation

open Fallible

namespace Fields

lemma slot?_put (f : Fields) (field period : String) (v : Json) (field' period' : String) :
    (f.put field period v).slot? field' period' =
      if field' = field ∧ period' = period then some v else f.slot? field' period' := by
  unfold put slot?
  rw [Table.get?_insert]
  by_cases hfield : field' = field
  · subst hfield
    rw [if_pos rfl, Option.bind_some, Table.get?_insert]
    by_cases hperiod : period' = period
    · simp [hperiod]
    · simp only [hperiod, and_false, if_false]
      cases f.get? field' <;> rfl
  · simp [hfield]

lemma write?_of_free {f : Fields} {field period : String} (v : Json)
    (hfree : f.slot? field period = none) :
    f.write? field period v = some (f.put field period v) := by
  rw [write?, hfree]

/-- A write leaves every other slot alone. -/
lemma slot?_write?_of_ne {f f' : Fields} {field period : String} {v : Json}
    (hwrite : f.write? field period v = some f') {field' : String} (hne : field' ≠ field)
    (period' : String) : f'.slot? field' period' = f.slot? field' period' := by
  unfold write? at hwrite
  split at hwrite
  · split at hwrite
    · rw [← Option.some.inj hwrite]
    · cases hwrite
  · rw [← Option.some.inj hwrite, slot?_put, if_neg fun h => hne h.1]

section Kept

variable {P : Fields → Prop} {f f' : Fields} {field period : String}

lemma of_write? {v : Json} (hf : P f) (hput : P (f.put field period v))
    (hwrite : f.write? field period v = some f') : P f' := by
  unfold write? at hwrite
  split at hwrite
  · split at hwrite
    · exact Option.some.inj hwrite ▸ hf
    · cases hwrite
  · exact Option.some.inj hwrite ▸ hput

lemma of_reserve (hf : P f) (hput : P (f.put field period .null)) :
    P (f.reserve field period) := by
  unfold reserve
  split
  · exact hf
  · exact hput

end Kept

end Fields

namespace Document

@[simp]
lemma groups_withGroups (d : Document) (kind kind' : GroupKind) (groups : Table Group) :
    (d.withGroups kind groups).groups kind' = if kind' = kind then groups else d.groups kind' := by
  cases kind <;> cases kind' <;> rfl

@[simp]
lemma people_withGroups (d : Document) (kind : GroupKind) (groups : Table Group) :
    (d.withGroups kind groups).people = d.people := by
  cases kind <;> rfl

/-- Who is in a document, and who is in which of its groups. -/
structure Shape where
  people : NameSet
  members : GroupKind → Table (List String)

def shape (d : Document) : Shape where
  people := d.people.map fun _ _ => ()
  members kind := (d.groups kind).map fun _ group => group.members

section Keys

variable {d d' : Document}

lemma people_keys_of_shape (hshape : d.shape = d'.shape) : d.people.keys = d'.people.keys := by
  have hkeys := congrArg (fun s : Shape => s.people.keys) hshape
  simpa only [shape, Table.keys_map] using hkeys

lemma groups_keys_of_shape (hshape : d.shape = d'.shape) (kind : GroupKind) :
    (d.groups kind).keys = (d'.groups kind).keys := by
  have hkeys := congrArg (fun s : Shape => (s.members kind).keys) hshape
  simpa only [shape, Table.keys_map] using hkeys

end Keys

def personSlot? (d : Document) (key field period : String) : Option Json :=
  (d.people.get? key).bind fun fields => fields.slot? field period

def groupSlot? (d : Document) (kind : GroupKind) (key field period : String) : Option Json :=
  ((d.groups kind).get? key).bind fun group => group.fields.slot? field period

/-- Nobody and nothing has a value of the variable yet. -/
structure Free (d : Document) (field period : String) : Prop where
  person : ∀ key, d.personSlot? key field period = none
  group : ∀ kind key, d.groupSlot? kind key field period = none

section WritePerson

variable {d d' : Document} {id : MemberId} {field period : String} {v : Json}

lemma writePerson_eq_ok (hwrite : d.writePerson id field period v = .ok d') :
    d' = d ∨ ∃ fields fields', d.people.get? id.text = some fields ∧
      fields.write? field period v = some fields' ∧
      d' = { d with people := d.people.insert id.text fields' } := by
  unfold writePerson at hwrite
  split at hwrite
  · exact .inl (Except.ok.inj hwrite).symm
  · rename_i fields hget
    split at hwrite
    · rename_i fields' hfields
      exact .inr ⟨fields, fields', hget, hfields, (Except.ok.inj hwrite).symm⟩
    · cases hwrite

lemma shape_writePerson (hwrite : d.writePerson id field period v = .ok d') :
    d'.shape = d.shape := by
  rcases writePerson_eq_ok hwrite with rfl | ⟨fields, fields', hget, _, rfl⟩
  · rfl
  · unfold shape
    dsimp only
    rw [Table.map_insert, Table.insert_of_get?]
    · rfl
    · rw [Table.get?_map, hget]
      rfl

lemma groups_writePerson (hwrite : d.writePerson id field period v = .ok d') (kind : GroupKind) :
    d'.groups kind = d.groups kind := by
  rcases writePerson_eq_ok hwrite with rfl | ⟨_, _, _, _, rfl⟩
  · rfl
  · cases kind <;> rfl

lemma personSlot?_writePerson (hwrite : d.writePerson id field period v = .ok d')
    {key field' : String} (hne : key ≠ id.text ∨ field' ≠ field) (period' : String) :
    d'.personSlot? key field' period' = d.personSlot? key field' period' := by
  rcases writePerson_eq_ok hwrite with rfl | ⟨fields, fields', hget, hfields, rfl⟩
  · rfl
  · unfold personSlot?
    rw [Table.get?_insert]
    by_cases hkey : key = id.text
    · have hfield : field' ≠ field := hne.resolve_left fun h => h hkey
      rw [if_pos hkey, hkey, hget]
      exact Fields.slot?_write?_of_ne hfields hfield period'
    · rw [if_neg hkey]

end WritePerson

section WriteGroup

variable {d d' : Document} {kind : GroupKind} {key field period : String} {v : Json}

lemma writeGroup_eq_ok (hwrite : writeGroup kind field period v d key = .ok d') :
    d' = d ∨ ∃ group fields, (d.groups kind).get? key = some group ∧
      group.fields.write? field period v = some fields ∧
      d' = d.withGroups kind ((d.groups kind).insert key { group with fields }) := by
  unfold writeGroup at hwrite
  split at hwrite
  · exact .inl (Except.ok.inj hwrite).symm
  · rename_i group hget
    split at hwrite
    · rename_i fields hfields
      exact .inr ⟨group, fields, hget, hfields, (Except.ok.inj hwrite).symm⟩
    · cases hwrite

lemma shape_writeGroup (hwrite : writeGroup kind field period v d key = .ok d') :
    d'.shape = d.shape := by
  rcases writeGroup_eq_ok hwrite with rfl | ⟨group, fields, hget, _, rfl⟩
  · rfl
  · unfold shape
    rw [people_withGroups]
    congr 1
    funext kind'
    rw [groups_withGroups]
    by_cases hkind : kind' = kind
    · rw [if_pos hkind, hkind, Table.map_insert, Table.insert_of_get?]
      rw [Table.get?_map, hget]
      rfl
    · rw [if_neg hkind]

lemma people_writeGroup (hwrite : writeGroup kind field period v d key = .ok d') :
    d'.people = d.people := by
  rcases writeGroup_eq_ok hwrite with rfl | ⟨_, _, _, _, rfl⟩
  · rfl
  · exact people_withGroups _ _ _

lemma groupSlot?_writeGroup (hwrite : writeGroup kind field period v d key = .ok d')
    {kind' : GroupKind} {key' field' : String} (hne : kind' ≠ kind ∨ key' ≠ key ∨ field' ≠ field)
    (period' : String) :
    d'.groupSlot? kind' key' field' period' = d.groupSlot? kind' key' field' period' := by
  rcases writeGroup_eq_ok hwrite with rfl | ⟨group, fields, hget, hfields, rfl⟩
  · rfl
  · unfold groupSlot?
    rw [groups_withGroups]
    by_cases hkind : kind' = kind
    · subst hkind
      rw [if_pos rfl, Table.get?_insert]
      by_cases hkey : key' = key
      · have hfield : field' ≠ field :=
          (hne.resolve_left fun h => h rfl).resolve_left fun h => h hkey
        rw [if_pos hkey, hkey, hget]
        exact Fields.slot?_write?_of_ne hfields hfield period'
      · rw [if_neg hkey]
    · rw [if_neg hkind]

end WriteGroup

/-- What every single write of an input keeps, the input keeps. -/
lemma writeInput_invariant {h : Household} {t : TaxUnits} {period : String} {input : Input}
    (P : Document → Prop)
    (hperson : ∀ d d' id (v : Value), P d →
      d.writePerson id input.field period v.toJson = .ok d' → P d')
    (hgroup : ∀ d d' kind key (v : Value), P d →
      writeGroup kind input.field period v.toJson d key = .ok d' → P d')
    {d d' : Document} (hwrite : writeInput h t period d input = .ok d') (hd : P d) : P d' := by
  unfold writeInput at hwrite
  split at hwrite
  · refine foldlM_invariant P (fun m _ d₁ d₂ hstep hd => ?_) hwrite hd
    obtain ⟨_, _, hstep⟩ := bind_eq_ok.mp hstep
    exact hperson _ _ _ _ hd hstep
  · obtain ⟨_, _, hwrite⟩ := bind_eq_ok.mp hwrite
    exact foldlM_invariant P (fun _ _ _ _ hstep hd => hgroup _ _ _ _ _ hd hstep) hwrite hd

/-- A document in which no slots but those of one variable have changed. -/
structure Writes (field : String) (d d' : Document) : Prop where
  shape : d'.shape = d.shape
  person : ∀ key field' period, field' ≠ field →
    d'.personSlot? key field' period = d.personSlot? key field' period
  group : ∀ kind key field' period, field' ≠ field →
    d'.groupSlot? kind key field' period = d.groupSlot? kind key field' period

namespace Writes

variable {field period : String} {d d' d'' : Document}

lemma refl (field : String) (d : Document) : Writes field d d :=
  ⟨rfl, fun _ _ _ _ => rfl, fun _ _ _ _ _ => rfl⟩

lemma trans (h : Writes field d d') (h' : Writes field d' d'') : Writes field d d'' where
  shape := h'.shape.trans h.shape
  person key field' period hne := (h'.person key field' period hne).trans (h.person _ _ _ hne)
  group kind key field' period hne :=
    (h'.group kind key field' period hne).trans (h.group _ _ _ _ hne)

lemma free (h : Writes field d d') {field' : String} (hne : field' ≠ field)
    (hfree : d.Free field' period) : d'.Free field' period where
  person key := (h.person key field' period hne).trans (hfree.person key)
  group kind key := (h.group kind key field' period hne).trans (hfree.group kind key)

lemma of_writePerson {id : MemberId} {v : Json}
    (hwrite : d.writePerson id field period v = .ok d') :
    Writes field d d' where
  shape := shape_writePerson hwrite
  person _ _ period' hne := personSlot?_writePerson hwrite (.inr hne) period'
  group kind key field' period' _ := by
    unfold groupSlot?
    rw [groups_writePerson hwrite]

lemma of_writeGroup {kind : GroupKind} {key : String} {v : Json}
    (hwrite : writeGroup kind field period v d key = .ok d') : Writes field d d' where
  shape := shape_writeGroup hwrite
  person key field' period' _ := by
    unfold personSlot?
    rw [people_writeGroup hwrite]
  group _ _ _ period' hne := groupSlot?_writeGroup hwrite (.inr (.inr hne)) period'

/-- An input writes its own variable and moves nobody. -/
lemma of_writeInput {h : Household} {t : TaxUnits} {input : Input}
    (hwrite : writeInput h t period d input = .ok d') : Writes input.field d d' :=
  writeInput_invariant (Writes input.field d)
    (fun _ _ _ _ hd hstep => hd.trans (of_writePerson hstep))
    (fun _ _ _ _ _ hd hstep => hd.trans (of_writeGroup hstep)) hwrite (refl _ _)

end Writes

lemma shape_reserveOutput (period : String) (d : Document) (output : Output) :
    (reserveOutput period d output).shape = d.shape := by
  unfold reserveOutput shape
  split
  · dsimp only
    congr 1
    apply Table.ext_get?
    intro key
    rw [Table.get?_map, Table.get?_map, Table.get?_map]
    cases d.people.get? key <;> rfl
  · dsimp only
    rw [people_withGroups]
    congr 1
    funext kind
    rw [groups_withGroups]
    by_cases hkind : kind = groupKind output.scope
    · rw [if_pos hkind, hkind]
      apply Table.ext_get?
      intro key
      rw [Table.get?_map, Table.get?_map, Table.get?_map]
      cases (d.groups (groupKind output.scope)).get? key <;> rfl
    · rw [if_neg hkind]

lemma shape_foldl_reserveOutput (period : String) (outputs : List Output) (d : Document) :
    (outputs.foldl (reserveOutput period) d).shape = d.shape := by
  induction outputs generalizing d with
  | nil => rfl
  | cons output outputs ih => rw [List.foldl_cons, ih, shape_reserveOutput]

section Skeleton

def singles (h : Household) : List Member :=
  h.members.filter fun m => !(couple? h).any fun c => m.id == c.1 || m.id == c.2

/-- The key and the members of the couple's unit, and of the units of all others. -/
def maritalEntries (h : Household) : List (String × Group) :=
  ((couple? h).toList.map fun c => (c.1.text ++ "-" ++ c.2.text, .of [c.1.text, c.2.text])) ++
    (singles h).map fun m => (m.id.text, .of [m.id.text])

lemma maritalUnitsOf_eq (h : Household) : maritalUnitsOf h = .ofList (maritalEntries h) := by
  unfold maritalUnitsOf maritalEntries Table.ofList singles
  rw [List.foldl_append, List.foldl_map]
  cases couple? h <;> rfl

lemma everyone_eq (h : Household) (key : String) :
    everyone h key = .ofList
      (if h.members = [] then [] else [(key, .of (h.members.map fun m => m.id.text))]) := by
  unfold everyone
  cases h.members <;> rfl

lemma eq_of_get?_everyone {h : Household} {key key' : String} {group : Group}
    (hget : (everyone h key).get? key' = some group) :
    group = .of (h.members.map fun m => m.id.text) := by
  rw [everyone_eq] at hget
  have he := Table.mem_of_get?_ofList hget
  split at he
  · cases he
  · exact congrArg Prod.snd (List.mem_singleton.mp he)

/-- Every group of a skeleton is without values. -/
lemma fields_skeleton {h : Household} {t : TaxUnits} {kind : GroupKind} {key : String}
    {group : Group} (hget : ((skeleton h t).groups kind).get? key = some group) :
    group.fields = .empty := by
  have hof : ∃ members, group = .of members := by
    cases kind with
    | taxUnits =>
      obtain ⟨unit, _, he⟩ := List.mem_map.mp (Table.mem_of_get?_ofList hget)
      exact ⟨_, (congrArg Prod.snd he).symm⟩
    | maritalUnits =>
      change (maritalUnitsOf h).get? key = some group at hget
      rw [maritalUnitsOf_eq] at hget
      rcases List.mem_append.mp (Table.mem_of_get?_ofList hget) with he | he
      · obtain ⟨c, _, he⟩ := List.mem_map.mp he
        exact ⟨_, (congrArg Prod.snd he).symm⟩
      · obtain ⟨m, _, he⟩ := List.mem_map.mp he
        exact ⟨_, (congrArg Prod.snd he).symm⟩
    | families => exact ⟨_, eq_of_get?_everyone hget⟩
    | households => exact ⟨_, eq_of_get?_everyone hget⟩
    | spmUnits => exact ⟨_, eq_of_get?_everyone hget⟩
  obtain ⟨members, rfl⟩ := hof
  rfl

lemma people_skeleton_eq_empty {h : Household} {t : TaxUnits} {key : String} {fields : Fields}
    (hget : (skeleton h t).people.get? key = some fields) : fields = .empty := by
  obtain ⟨_, _, he⟩ := List.mem_map.mp (Table.mem_of_get?_ofList hget)
  exact (congrArg Prod.snd he).symm

lemma free_skeleton (h : Household) (t : TaxUnits) (field period : String) :
    (skeleton h t).Free field period where
  person key := by
    unfold personSlot?
    cases hget : (skeleton h t).people.get? key with
    | none => rfl
    | some fields =>
      rw [Option.bind_some, people_skeleton_eq_empty hget]
      rfl
  group kind key := by
    unfold groupSlot?
    cases hget : ((skeleton h t).groups kind).get? key with
    | none => rfl
    | some group =>
      rw [Option.bind_some, fields_skeleton hget]
      rfl

end Skeleton

/-- A document has the people and the groups of its skeleton, whatever is asked. -/
theorem shape_build {h : Household} {specs : List Variables} {period : String} {d : Document}
    (hbuild : build h specs period = .ok d) :
    ∃ t, TaxUnits.classify h = .ok t ∧ d.shape = (skeleton h t).shape := by
  obtain ⟨t, hclassify, hbuild⟩ := bind_eq_ok.mp hbuild
  obtain ⟨d₁, hinputs, hbuild⟩ := bind_eq_ok.mp hbuild
  obtain rfl := pure_eq_ok.mp hbuild
  refine ⟨t, EngineError.ofOverflow_eq_ok.mp hclassify, ?_⟩
  rw [shape_foldl_reserveOutput]
  refine foldlM_invariant (fun d => d.shape = (skeleton h t).shape)
    (fun input _ d₂ d₃ hwrite hshape => ?_) hinputs rfl
  exact (Writes.of_writeInput hwrite).shape.trans hshape

/-- A document depends on the variables that any program needs, not on which program needs them. -/
lemma build_congr {h : Household} {specs specs' : List Variables} {period : String}
    (hinputs : ∀ i, i ∈ specs.flatMap (·.inputs) ↔ i ∈ specs'.flatMap (·.inputs))
    (houtputs : ∀ o, o ∈ specs.flatMap (·.outputs) ↔ o ∈ specs'.flatMap (·.outputs)) :
    build h specs period = build h specs' period := by
  have hin : Variables.allInputs specs = Variables.allInputs specs' := EnumSet.ofList_congr hinputs
  have hout : Variables.allOutputs specs = Variables.allOutputs specs' :=
    EnumSet.ofList_congr houtputs
  rw [build, build, hin, hout]

end Document

end Simulation

end BenefitScreen
