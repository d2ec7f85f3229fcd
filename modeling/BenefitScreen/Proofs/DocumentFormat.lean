import BenefitScreen.Proofs.DocumentUnits
import BenefitScreen.Proofs.RecordFormat
import BenefitScreen.Wire.Response

/-!
# A document is read back from its written form

The two halves meet at the values that a document holds: an answer is read into values whose objects
are in the order of their keys, and values in that order come back unchanged. The variables of a
group are written beside its list of members, so that none may go by the name of that list.
-/

namespace BenefitScreen

open Simulation Fallible

namespace Json

/-- The members of every object stand in the order of their keys, each key once. -/
inductive Ordered : Json → Prop where
  | null : Ordered .null
  | bool (b : Bool) : Ordered (.bool b)
  | number (n : Number) : Ordered (.number n)
  | text (s : String) : Ordered (.text s)
  | array {xs : List Json} (hitems : ∀ x ∈ xs, Ordered x) : Ordered (.array xs)
  | object {t : Table Json} (hvalues : ∀ k v, t.get? k = some v → Ordered v) :
    Ordered (.object t.entries)

lemma insertMember_eq (k : String) (v : Json) (ms : List (String × Json)) :
    insertMember k v ms = Table.insertEntry k v ms := by
  induction ms with
  | nil => rfl
  | cons m ms ih => rw [insertMember, Table.insertEntry, ih]

lemma canonicalItems_eq (xs : List Json) : canonicalItems xs = xs.map canonical := by
  induction xs with
  | nil => rfl
  | cons x xs ih => rw [canonicalItems, ih, List.map_cons]

lemma canonicalMembers_eq (ms : List (String × Json)) (t : Table Json) :
    canonicalMembers ms t.entries =
      (ms.foldl (fun t m => t.insert m.1 m.2.canonical) t).entries := by
  induction ms generalizing t with
  | nil => rfl
  | cons m ms ih =>
    rw [canonicalMembers, insertMember_eq, List.foldl_cons]
    exact ih (t.insert m.1 m.2.canonical)

lemma canonical_array (xs : List Json) : canonical (.array xs) = .array (xs.map canonical) := by
  rw [canonical, canonicalItems_eq]

lemma canonical_object (ms : List (String × Json)) :
    canonical (.object ms) =
      .object (Table.ofList (ms.map fun m => (m.1, m.2.canonical))).entries := by
  rw [canonical, Table.ofList, List.foldl_map]
  exact congrArg Json.object (canonicalMembers_eq ms .empty)

lemma canonical_of_ordered {v : Json} (hv : v.Ordered) : v.canonical = v := by
  induction hv with
  | null | bool | number | text => rfl
  | array _ ih => rw [canonical_array, List.map_congr_left ih, List.map_id']
  | @object t _ ih =>
    have hentries : t.entries.map (fun m => (m.1, m.2.canonical)) = t.entries := by
      refine (List.map_congr_left fun m hm => ?_).trans (List.map_id _)
      rw [ih m.1 m.2 (Table.get?_eq_some.mpr hm), id_eq]
    rw [canonical_object, hentries, Table.ofList_entries]

lemma ordered_canonical : (v : Json) → v.canonical.Ordered
  | .null => .null
  | .bool b => .bool b
  | .number n => .number n
  | .text s => .text s
  | .array xs => by
    rw [canonical_array]
    refine .array fun x hx => ?_
    obtain ⟨y, hy, rfl⟩ := List.mem_map.mp hx
    exact ordered_canonical y
  | .object ms => by
    rw [canonical_object]
    refine .object fun k v hget => ?_
    obtain ⟨⟨name, w⟩, hm, he⟩ := List.mem_map.mp (Table.mem_of_get?_ofList hget)
    obtain rfl : w.canonical = v := congrArg Prod.snd he
    have hsize : sizeOf w < 1 + sizeOf ms := by
      have hlt := List.sizeOf_lt_of_mem hm
      rw [Prod.mk.sizeOf_spec] at hlt
      omega
    exact ordered_canonical w

end Json

namespace Simulation

lemma Value.ordered_toJson (v : Value) : v.toJson.Ordered := by
  cases v with
  | flag b => exact .bool b
  | number a =>
    rw [toJson, amountJson]
    split
    · exact .number _
    · split
      · exact .number _
      · exact .null
  | text s => exact .text s
  | deferred => exact .null

namespace Fields

/-- The values of all variables in all periods are in order. -/
def Ordered (f : Fields) : Prop := ∀ field period v, f.slot? field period = some v → v.Ordered

lemma ordered_empty : Ordered .empty := by
  intro field period v hslot
  cases hslot

lemma Ordered.put {f : Fields} (hf : f.Ordered) (field period : String) {v : Json}
    (hv : v.Ordered) : (f.put field period v).Ordered := by
  intro field' period' w hslot
  rw [slot?_put] at hslot
  split at hslot
  · exact Option.some.inj hslot ▸ hv
  · exact hf field' period' w hslot

/-- A variable under another name leaves a name unused. -/
lemma notMem_keys_put {f : Fields} {name field : String} (hf : name ∉ f.keys) (hne : field ≠ name)
    (period : String) (v : Json) : name ∉ (f.put field period v).keys := by
  intro hmem
  obtain ⟨periods, hget⟩ := Table.mem_keys.mp hmem
  rw [Fields.put, Table.get?_insert, if_neg hne.symm] at hget
  exact hf (Table.mem_keys.mpr ⟨periods, hget⟩)

end Fields

end Simulation

namespace Decode

open Slot

section Encode

variable {f : Fields} {g : Group} {d : Document}

lemma any_of_ordered {v : Json} (hv : v.Ordered) : any v = some v :=
  congrArg some (Json.canonical_of_ordered hv)

lemma fields_encode (hf : f.Ordered) : fields (Encode.fields f) = some f := by
  refine table_encode fun field periods hget => table_encode fun period v hv => ?_
  refine any_of_ordered (hf field period v ?_)
  rw [Fields.slot?, hget, Option.bind_some, hv]

/-- The list of members is told from the variables by its name. -/
lemma group_encode (hf : g.fields.Ordered) (hname : "members" ∉ g.fields.keys) :
    group (Encode.group g) = some g := by
  have hvariables : ∀ e ∈ g.fields.entries.map fun e => (e.1, Encode.table id e.2),
      e.1 ≠ "members" := by
    intro e he heq
    obtain ⟨x, hx, rfl⟩ := List.mem_map.mp he
    exact hname (List.mem_map.mpr ⟨x, hx, heq⟩)
  rw [Encode.group, group, filter_tag hvariables, filter_not_tag hvariables]
  dsimp only
  rw [list_encode_self text_encode]
  change (fields (Encode.fields g.fields)).bind _ = _
  rw [fields_encode hf]
  rfl

lemma documentFields_nodup : documentFields.Nodup := by decide

lemma document_encode (hvalues : d.Every Fields.Ordered)
    (hname : ∀ kind key g, (d.groups kind).get? key = some g → "members" ∉ g.fields.keys) :
    document (Encode.document d) = some d := by
  have hpeople : table fields (Encode.table Encode.fields d.people) = some d.people :=
    table_encode fun key f hget => fields_encode (hvalues.person key f hget)
  have hgroups : (groupKinds.map fun kind => given (Encode.table Encode.group (d.groups kind))).mapM
      (fun slot => slot.orElse (table group) .empty) = some (groupKinds.map d.groups) := by
    rw [List.mapM_map]
    refine mapM_eq_some_map fun kind _ => table_encode fun key g hget => ?_
    exact group_encode (hvalues.group kind key g hget) (hname kind key g hget)
  simp only [groupKinds, List.map_cons, List.map_nil, Document.groups] at hgroups
  have hslots : slots documentFields (Encode.document d) = some _ :=
    slots_object rfl documentFields_nodup
  rw [document, hslots]
  simp only [List.map_cons, List.map_nil]
  rw [Option.bind_eq_bind, Option.bind_some]
  dsimp only
  rw [hgroups, orElse_given, hpeople]
  rfl

lemma resultDocument_of_document {j : Json} (hnull : j ≠ .null) (hread : document j = some d) :
    resultDocument (.object [("result", j)]) = .ok d := by
  have hslots : slots ["result"] (.object [("result", j)]) = some _ :=
    slots_object rfl (by decide)
  have hresult : Decode.optional document j = some (some d) := by
    rw [Decode.optional, hread, Option.map_some]
    exact hnull
  rw [resultDocument, result, hslots]
  simp only [List.map_cons, List.map_nil]
  rw [Option.bind_eq_bind, Option.bind_some]
  dsimp only
  rw [orNone_given, hresult]

end Encode

section Read

variable {j : Json} {f : Fields} {g : Group} {d : Document}

lemma ordered_of_fields (h : fields j = some f) : f.Ordered := by
  intro field period v hslot
  obtain ⟨periods, hperiods, hv⟩ := Option.bind_eq_some_iff.mp hslot
  obtain ⟨_, _, hfields⟩ := exists_object_of_table h
  obtain ⟨x, _, hx⟩ := hfields field periods hperiods
  obtain ⟨_, _, hvalues⟩ := exists_object_of_table hx
  obtain ⟨y, _, hy⟩ := hvalues period v hv
  exact Option.some.inj hy ▸ y.ordered_canonical

/-- The list of members is not taken for a variable. -/
lemma ordered_of_group (h : group j = some g) :
    g.fields.Ordered ∧ "members" ∉ g.fields.keys := by
  cases j with
  | object ms =>
    have hread : fields (.object (ms.filter fun m => m.1 != "members")) = some g.fields := by
      rw [group] at h
      split at h
      all_goals
        obtain ⟨_, _, h⟩ := Option.bind_eq_some_iff.mp h
        obtain ⟨f, hf, h⟩ := Option.bind_eq_some_iff.mp h
        cases h
        exact hf
    refine ⟨ordered_of_fields hread, fun hmem => ?_⟩
    obtain ⟨periods, hget⟩ := Table.mem_keys.mp hmem
    obtain ⟨_, hrest, hfields⟩ := exists_object_of_table hread
    obtain ⟨x, hx, _⟩ := hfields _ periods hget
    cases hrest
    exact bne_iff_ne.mp (List.mem_filter.mp hx).2 rfl
  | _ => cases h

lemma ordered_of_document (h : document j = some d) : d.Every Fields.Ordered ∧
    ∀ kind key g, (d.groups kind).get? key = some g → "members" ∉ g.fields.keys := by
  obtain ⟨slots, _, h⟩ := Option.bind_eq_some_iff.mp h
  split at h
  · obtain ⟨tables, htables, h⟩ := Option.bind_eq_some_iff.mp h
    have hgroups : ∀ t ∈ tables, ∀ key g, t.get? key = some g →
        g.fields.Ordered ∧ "members" ∉ g.fields.keys := by
      intro t ht key g hget
      obtain ⟨_, _, hslot⟩ := exists_of_mem_mapM htables ht
      rcases orElse_eq_some hslot with rfl | ⟨x, hx⟩
      · cases hget
      · obtain ⟨_, _, hread⟩ := exists_object_of_table hx
        obtain ⟨y, _, hy⟩ := hread key g hget
        exact ordered_of_group hy
    split at h
    · obtain ⟨persons, hpersons, h⟩ := Option.bind_eq_some_iff.mp h
      cases h
      refine ⟨⟨fun key f hget => ?_, fun kind key g hget => (hgroups _ ?_ key g hget).1⟩,
        fun kind key g hget => (hgroups _ ?_ key g hget).2⟩
      · rcases orElse_eq_some hpersons with rfl | ⟨x, hx⟩
        · cases hget
        · obtain ⟨_, _, hread⟩ := exists_object_of_table hx
          obtain ⟨y, _, hy⟩ := hread key f hget
          exact ordered_of_fields hy
      · cases kind <;> simp [Document.groups]
      · cases kind <;> simp [Document.groups]
    · cases h
  · cases h

end Read

end Decode

namespace Simulation.Document

variable {h : Household} {specs : List Variables} {period : String} {d : Document}

lemma field_input_ne_members (i : Input) : i.field ≠ "members" := by
  have hne : ∀ i ∈ (Enumerated.all : List Input), i.field ≠ "members" := by decide
  exact hne i (Enumerated.mem_all i)

lemma field_output_ne_members (o : Output) : o.field ≠ "members" := by
  have hne : ∀ o ∈ (Enumerated.all : List Output), o.field ≠ "members" := by decide
  exact hne o (Enumerated.mem_all o)

lemma ordered_build (hbuild : build h specs period = .ok d) : d.Every Fields.Ordered :=
  every_build Fields.ordered_empty (fun i v _ hf => hf.put i.field period v.ordered_toJson)
    (fun o _ hf => hf.put o.field period .null) hbuild

lemma members_notMem_build (hbuild : build h specs period = .ok d) :
    d.Every fun f => "members" ∉ f.keys :=
  every_build List.not_mem_nil
    (fun i v _ hf => Fields.notMem_keys_put hf (field_input_ne_members i) period v.toJson)
    (fun o _ hf => Fields.notMem_keys_put hf (field_output_ne_members o) period .null) hbuild

/-- A document whose groups have no variable by the name of their list of members is understood as
it was written. Every document that is built is such a document, and so is every one that is read,
whatever it was read from. -/
theorem read_back :
    (∀ d : Document, d.Every Fields.Ordered →
      (∀ kind key g, (d.groups kind).get? key = some g → "members" ∉ g.fields.keys) →
      Decode.resultDocument (.object [("result", Encode.document d)]) = .ok d) ∧
    (∀ h specs period d, build h specs period = .ok d →
      Decode.resultDocument (.object [("result", Encode.document d)]) = .ok d) ∧
    ∀ j d, Decode.document j = some d →
      Decode.resultDocument (.object [("result", Encode.document d)]) = .ok d := by
  have hall : ∀ d : Document, d.Every Fields.Ordered →
      (∀ kind key g, (d.groups kind).get? key = some g → "members" ∉ g.fields.keys) →
      Decode.resultDocument (.object [("result", Encode.document d)]) = .ok d :=
    fun d hvalues hname => Decode.resultDocument_of_document Json.noConfusion
      (Decode.document_encode hvalues hname)
  refine ⟨hall, fun h specs period d hbuild => ?_, fun j d hread => ?_⟩
  · exact hall d (ordered_build hbuild) (members_notMem_build hbuild).group
  · obtain ⟨hvalues, hname⟩ := Decode.ordered_of_document hread
    exact hall d hvalues hname

/-- One person with a value for the second of two years, a unit with a value to be computed and a
family of nobody. -/
def twoYears : Document := { Document.empty with
  people := .ofList [("0",
    (Fields.put .empty "medicaid" "2025" .null).put "medicaid" "2026" (.array [.bool true]))]
  families := .ofList [(familyKey, .of [])]
  spmUnits := .ofList [(spmUnitKey, ⟨["0"], Fields.put .empty "snap" "2025" .null⟩)] }

theorem twoYears_read_back :
    twoYears.Every Fields.Ordered ∧
    (∀ kind key g, (twoYears.groups kind).get? key = some g → "members" ∉ g.fields.keys) ∧
    Decode.resultDocument (.object [("result", Encode.document twoYears)]) = .ok twoYears ∧
    Decode.document (Encode.document twoYears) = some twoYears ∧
    Decode.resultDocument (.object [("result", Encode.document twoYears)]) = .ok twoYears ∧
    ∃ d, build TaxUnits.sharedFlat [foodAndHealth] "2025" = .ok d ∧
      Decode.resultDocument (.object [("result", Encode.document d)]) = .ok d := by
  have hpeople : ∀ key f, twoYears.people.get? key = some f → f.Ordered := by
    intro key f hget
    cases List.mem_singleton.mp (Table.mem_of_get?_ofList hget)
    refine (Fields.ordered_empty.put "medicaid" "2025" .null).put "medicaid" "2026" (.array ?_)
    intro x hx
    exact List.mem_singleton.mp hx ▸ .bool true
  have hgroups : ∀ kind key g, (twoYears.groups kind).get? key = some g →
      g.fields.Ordered ∧ "members" ∉ g.fields.keys := by
    intro kind key g hget
    cases kind with
    | families =>
      cases List.mem_singleton.mp (Table.mem_of_get?_ofList hget)
      exact ⟨Fields.ordered_empty, List.not_mem_nil⟩
    | spmUnits =>
      cases List.mem_singleton.mp (Table.mem_of_get?_ofList hget)
      exact ⟨Fields.ordered_empty.put "snap" "2025" .null, by decide⟩
    | _ => cases hget
  have hvalues : twoYears.Every Fields.Ordered :=
    ⟨hpeople, fun kind key g hget => (hgroups kind key g hget).1⟩
  have hname : ∀ kind key g, (twoYears.groups kind).get? key = some g →
      "members" ∉ g.fields.keys := fun kind key g hget => (hgroups kind key g hget).2
  have hread := Decode.document_encode hvalues hname
  have hbuilt : (build TaxUnits.sharedFlat [foodAndHealth] "2025").toOption.any
      (fun _ => true) = true := by
    decide +kernel
  obtain ⟨d, hbuild, _⟩ := exists_ok_of_any hbuilt
  exact ⟨hvalues, hname, read_back.1 twoYears hvalues hname, hread,
    read_back.2.2 _ twoYears hread, d, hbuild, read_back.2.1 _ _ _ d hbuild⟩

end Simulation.Document

end BenefitScreen
