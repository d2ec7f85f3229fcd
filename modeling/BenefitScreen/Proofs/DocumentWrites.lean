import BenefitScreen.Proofs.DocumentShape

/-!
What the slots of a variable hold once it is written. A group has the value of the whole household.
A person has the value of the first member with the identifier, and everybody else with that
identifier has to agree.
-/

namespace BenefitScreen

def Json.isScalar : Json → Bool
  | array _ => false
  | object _ => false
  | _ => true

lemma Json.Number.same_refl (n : Json.Number) : n.same n = true := by
  cases n <;> simp [same, Binary64.sameValue]

lemma Json.Number.same_of_same {l m n : Json.Number} (hm : l.same m = true)
    (hn : l.same n = true) : m.same n = true := by
  cases l with
  | int a =>
    cases m <;> cases n <;> simp_all [same]
  | double x =>
    cases m <;> cases n <;> simp only [same, Bool.false_eq_true] at hm hn ⊢
    simp only [Binary64.sameValue, Bool.or_eq_true, beq_iff_eq, Bool.and_eq_true] at hm hn ⊢
    grind

lemma Json.same_refl {x : Json} (hx : x.isScalar = true) : x.same x = true := by
  cases x <;> simp_all [same, isScalar, Number.same_refl]

lemma Json.same_of_same {x y z : Json} (hx : x.isScalar = true) (hy : x.same y = true)
    (hz : x.same z = true) : y.same z = true := by
  cases x with
  | null => cases y <;> cases z <;> simp_all [same]
  | bool b => cases y <;> cases z <;> simp_all [same]
  | text s => cases y <;> cases z <;> simp_all [same]
  | number n =>
    cases y <;> cases z <;> simp only [same, Bool.false_eq_true] at hy hz ⊢
    exact Number.same_of_same hy hz
  | array _ => cases hx
  | object _ => cases hx

lemma Simulation.Value.isScalar_toJson (v : Value) : v.toJson.isScalar = true := by
  cases v with
  | number a =>
    unfold toJson amountJson
    dsimp only
    split
    · rfl
    · split <;> rfl
  | _ => rfl

namespace Simulation

open Fallible

lemma Input.field_injective : Function.Injective Input.field :=
  fun _ _ heq => Enumerated.name_inj heq

/-- The scope whose variables a kind of groups holds, if any. -/
def GroupKind.scope? : GroupKind → Option Scope
  | taxUnits => some .taxUnit
  | families => none
  | households => some .household
  | spmUnits => some .spmUnit
  | maritalUnits => none

lemma GroupKind.scope?_eq_some {kind : GroupKind} {scope : Scope} (hscope : scope ≠ .person) :
    kind.scope? = some scope ↔ kind = Document.groupKind scope := by
  cases kind <;> cases scope <;> simp_all [scope?, Document.groupKind]

lemma GroupKind.scope?_ne_person (kind : GroupKind) : kind.scope? ≠ some .person := by
  cases kind <;> simp [scope?]

namespace Document

section Members

variable (h : Household) (t : TaxUnits) (input : Input)

/-- Two members have values of an input that JSON tells apart. -/
def Differ (a b : Member) : Prop :=
  ∃ v w, input.value h t (some a) = .ok v ∧ input.value h t (some b) = .ok w ∧
    v.toJson.same w.toJson = false

/-- A member's value is another one than that of the first member with the same identifier. -/
def DiffersFromFirst (m : Member) : Prop :=
  ∃ first, h.member? m.id = some first ∧ Differ h t input first m

/-- Two members share an identifier and have different values of an input. -/
def Contradicts : Prop :=
  ∃ a ∈ h.members, ∃ b ∈ h.members, a.id = b.id ∧ Differ h t input a b

variable {h t input}

lemma not_differ_self (m : Member) : ¬Differ h t input m m := by
  rintro ⟨v, w, hv, hw, hne⟩
  obtain rfl : v = w := Except.ok.inj (hv.symm.trans hw)
  rw [Json.same_refl v.isScalar_toJson] at hne
  cases hne

lemma DiffersFromFirst.contradicts {m : Member} (hm : m ∈ h.members)
    (hne : DiffersFromFirst h t input m) : Contradicts h t input := by
  obtain ⟨first, hfirst, hne⟩ := hne
  exact ⟨first, List.mem_of_find?_eq_some hfirst, m, hm,
    beq_iff_eq.mp (List.find?_some hfirst :), hne⟩

lemma not_differsFromFirst_of_distinctIds (hd : h.DistinctIds) {m : Member} (hm : m ∈ h.members) :
    ¬DiffersFromFirst h t input m := by
  rintro ⟨first, hfirst, hne⟩
  have hid : first.id = m.id := beq_iff_eq.mp (List.find?_some hfirst :)
  obtain rfl := hd.eq (List.mem_of_find?_eq_some hfirst) hm hid
  exact not_differ_self _ hne

end Members

section WritePerson

variable {d : Document} {id : MemberId} {field period : String}

lemma exists_writePerson (v : Json) (hmem : id.text ∈ d.people.keys)
    (hfree : d.personSlot? id.text field period = none) :
    ∃ d', d.writePerson id field period v = .ok d' ∧
      d'.personSlot? id.text field period = some v := by
  obtain ⟨fields, hget⟩ := Table.mem_keys.mp hmem
  unfold personSlot? at hfree
  rw [hget, Option.bind_some] at hfree
  unfold writePerson
  rw [hget]
  dsimp only
  rw [Fields.write?_of_free v hfree]
  refine ⟨_, rfl, ?_⟩
  unfold personSlot?
  rw [Table.get?_insert, if_pos rfl, Option.bind_some, Fields.slot?_put, if_pos ⟨rfl, rfl⟩]

lemma writePerson_of_slot? {old : Json} (v : Json)
    (hold : d.personSlot? id.text field period = some old) :
    d.writePerson id field period v =
      if old.same v then .ok d else .error (.conflictingValues "people" id.text field) := by
  obtain ⟨fields, hget, hslot⟩ := Option.bind_eq_some_iff.mp hold
  unfold writePerson
  rw [hget]
  dsimp only
  rw [Fields.write?, hslot]
  dsimp only
  by_cases hsame : old.same v = true
  · rw [if_pos hsame, if_pos hsame]
    dsimp only
    rw [Table.insert_of_get? hget]
  · rw [if_neg hsame, if_neg hsame]

end WritePerson

section WriteMember

variable (h : Household) (t : TaxUnits) (period : String) (input : Input)

def writeMember (d : Document) (m : Member) : Except EngineError Document := do
  let v ← EngineError.ofOverflow (input.value h t (some m))
  d.writePerson m.id input.field period v.toJson

lemma writeInput_of_person (hscope : input.scope = .person) (d : Document) :
    writeInput h t period d input = h.members.foldlM (writeMember h t period input) d := by
  unfold writeInput
  rw [hscope]
  rfl

/-- The slots of a person-level input when some of the members have been passed: each has the value
of the first of them with its identifier, and nobody differed from that. -/
structure Filled (seen : List Member) (d : Document) : Prop where
  people : ∀ m ∈ h.members, m.id.text ∈ d.people.keys
  first : ∀ id m, (seen.find? fun n => n.id == id) = some m → ∃ v,
    input.value h t (some m) = .ok v ∧ d.personSlot? id.text input.field period = some v.toJson
  free : ∀ id, (seen.find? fun n => n.id == id) = none →
    d.personSlot? id.text input.field period = none
  agree : ∀ m ∈ seen, ¬DiffersFromFirst h t input m

variable {h t period input} {seen after : List Member} {m : Member} {d d' : Document}

lemma member?_of_split (hsplit : h.members = seen ++ m :: after) :
    h.member? m.id = (seen.find? fun n => n.id == m.id).or (some m) := by
  unfold Household.member?
  rw [hsplit, List.find?_append, List.find?_cons_of_pos]
  exact beq_self_eq_true _

lemma Filled.writeMember_new (hd : Filled h t period input seen d) (hm : m ∈ h.members)
    (hfind : (seen.find? fun n => n.id == m.id) = none) {v : Value}
    (hv : input.value h t (some m) = .ok v) :
    ∃ d', writeMember h t period input d m = .ok d' ∧
      d'.personSlot? m.id.text input.field period = some v.toJson := by
  unfold writeMember
  rw [hv]
  exact exists_writePerson v.toJson (hd.people m hm) (hd.free m.id hfind)

lemma Filled.writeMember_again (hd : Filled h t period input seen d) {n : Member}
    (hfind : (seen.find? fun n => n.id == m.id) = some n) {v : Value}
    (hv : input.value h t (some m) = .ok v) :
    ∃ w, input.value h t (some n) = .ok w ∧ writeMember h t period input d m =
      if w.toJson.same v.toJson then .ok d
      else .error (.conflictingValues "people" m.id.text input.field) := by
  obtain ⟨w, hw, hslot⟩ := hd.first m.id n hfind
  refine ⟨w, hw, ?_⟩
  unfold writeMember
  rw [hv]
  exact writePerson_of_slot? v.toJson hslot

lemma Filled.slot_step (hd : Filled h t period input seen d)
    (hsplit : h.members = seen ++ m :: after)
    (hstep : writeMember h t period input d m = .ok d') :
    ¬DiffersFromFirst h t input m ∧ ∃ v, input.value h t (some m) = .ok v ∧
      ∀ id : MemberId, d'.personSlot? id.text input.field period =
        if id = m.id ∧ (seen.find? fun n => n.id == m.id) = none then some v.toJson
        else d.personSlot? id.text input.field period := by
  obtain ⟨v, hv, hwrite⟩ := bind_eq_ok.mp hstep
  rw [EngineError.ofOverflow_eq_ok] at hv
  have hfirst := member?_of_split hsplit
  -- The first member with an identifier meets a free slot, a later one the first one's value.
  cases hfind : seen.find? fun n => n.id == m.id with
  | none =>
    rw [hfind] at hfirst
    have hmem : m ∈ h.members := hsplit ▸ List.mem_append_right _ List.mem_cons_self
    obtain ⟨d₁, hok, hslot⟩ := hd.writeMember_new hmem hfind hv
    obtain rfl : d₁ = d' := Except.ok.inj (hok.symm.trans hstep)
    refine ⟨?_, v, hv, fun id => ?_⟩
    · rintro ⟨first, hfirst', hne⟩
      obtain rfl : m = first := Option.some.inj (hfirst.symm.trans hfirst')
      exact not_differ_self m hne
    · by_cases hid : id = m.id
      · rw [if_pos ⟨hid, rfl⟩, hid, hslot]
      · rw [if_neg fun h => hid h.1]
        exact personSlot?_writePerson hwrite (.inl fun h => hid (MemberId.text_injective h)) period
  | some n =>
    rw [hfind] at hfirst
    obtain ⟨w, hw, hagain⟩ := hd.writeMember_again hfind hv
    rw [hstep] at hagain
    split at hagain
    · rename_i hsame
      obtain rfl : d' = d := Except.ok.inj hagain
      refine ⟨?_, v, hv, fun id => by simp⟩
      rintro ⟨first, hfirst', w', v', hw', hv', hne⟩
      obtain rfl : n = first := Option.some.inj (hfirst.symm.trans hfirst')
      obtain rfl : w = w' := Except.ok.inj (hw.symm.trans hw')
      obtain rfl : v = v' := Except.ok.inj (hv.symm.trans hv')
      rw [hsame] at hne
      cases hne
    · cases hagain

lemma Filled.step (hd : Filled h t period input seen d) (hsplit : h.members = seen ++ m :: after)
    (hstep : writeMember h t period input d m = .ok d') :
    Filled h t period input (seen ++ [m]) d' := by
  obtain ⟨hagree, v, hv, hslot⟩ := hd.slot_step hsplit hstep
  have hshape : d'.shape = d.shape := by
    obtain ⟨_, _, hwrite⟩ := bind_eq_ok.mp hstep
    exact shape_writePerson hwrite
  refine ⟨?_, fun id n hn => ?_, fun id hn => ?_, fun n hn => ?_⟩
  · rw [people_keys_of_shape hshape]
    exact hd.people
  · rw [List.find?_append] at hn
    cases hfind : seen.find? fun n => n.id == id with
    | some first =>
      rw [hfind] at hn
      cases hn
      rw [hslot id, if_neg]
      · exact hd.first id n hfind
      · rintro ⟨rfl, hnone⟩
        rw [hnone] at hfind
        cases hfind
    | none =>
      rw [hfind, Option.none_or] at hn
      obtain rfl : m = n := (List.mem_singleton.mp (List.mem_of_find?_eq_some hn)).symm
      obtain rfl : m.id = id := beq_iff_eq.mp (List.find?_some hn :)
      exact ⟨v, hv, by rw [hslot, if_pos ⟨rfl, hfind⟩]⟩
  · rw [List.find?_append, Option.or_eq_none_iff] at hn
    rw [hslot id, if_neg]
    · exact hd.free id hn.1
    · rintro ⟨rfl, _⟩
      simp at hn
  · rcases List.mem_append.mp hn with hn | hn
    · exact hd.agree n hn
    · exact List.mem_singleton.mp hn ▸ hagree

lemma Filled.error (hd : Filled h t period input seen d) (hsplit : h.members = seen ++ m :: after)
    {e : EngineError} (hstep : writeMember h t period input d m = .error e) :
    e.IsOverflow ∨ DiffersFromFirst h t input m ∧
      e = .conflictingValues "people" m.id.text input.field := by
  rcases bind_eq_error.mp hstep with hv | ⟨v, hv, _⟩
  · exact .inl (EngineError.isOverflow_of_ofOverflow hv)
  rw [EngineError.ofOverflow_eq_ok] at hv
  cases hfind : seen.find? fun n => n.id == m.id with
  | none =>
    have hmem : m ∈ h.members := hsplit ▸ List.mem_append_right _ List.mem_cons_self
    obtain ⟨d', hok, _⟩ := hd.writeMember_new hmem hfind hv
    rw [hok] at hstep
    cases hstep
  | some first =>
    have hfirst : h.member? m.id = some first := by rw [member?_of_split hsplit, hfind]; rfl
    obtain ⟨w, hw, hagain⟩ := hd.writeMember_again hfind hv
    rw [hstep] at hagain
    split at hagain
    · cases hagain
    · rename_i hne
      refine .inr ⟨⟨first, hfirst, w, v, hw, hv, by simpa using hne⟩, ?_⟩
      exact Except.error.inj hagain

lemma Filled.start (hpeople : ∀ m ∈ h.members, m.id.text ∈ d.people.keys)
    (hfree : d.Free input.field period) : Filled h t period input [] d where
  people := hpeople
  first _ _ hm := by cases hm
  free id _ := hfree.person id.text
  agree _ hm := by cases hm

lemma Filled.not_contradicts (hd : Filled h t period input h.members d) :
    ¬Contradicts h t input := by
  rintro ⟨a, ha, b, hb, hid, v, w, hv, hw, hne⟩
  obtain ⟨first, hfirst⟩ : ∃ first, h.member? a.id = some first := by
    rw [← Option.isSome_iff_exists]
    exact List.find?_isSome.mpr ⟨a, ha, beq_self_eq_true _⟩
  obtain ⟨u, hu, _⟩ := hd.first a.id first hfirst
  -- Neither of the two need be the first one, so each is compared with that.
  have hsame : ∀ m ∈ h.members, m.id = a.id → ∀ x, input.value h t (some m) = .ok x →
      u.toJson.same x.toJson = true := by
    intro m hm hma x hx
    by_contra hdiffer
    refine hd.agree m hm ⟨first, hma ▸ hfirst, u, x, hu, hx, ?_⟩
    simpa using hdiffer
  have hboth := Json.same_of_same u.isScalar_toJson (hsame a ha rfl v hv) (hsame b hb hid.symm w hw)
  rw [hboth] at hne
  cases hne

end WriteMember

section WriteGroup

variable {d : Document} {kind : GroupKind} {key field period : String}

lemma exists_writeGroup (v : Json) (hmem : key ∈ (d.groups kind).keys)
    (hfree : d.groupSlot? kind key field period = none) :
    ∃ d', writeGroup kind field period v d key = .ok d' ∧
      d'.groupSlot? kind key field period = some v := by
  obtain ⟨group, hget⟩ := Table.mem_keys.mp hmem
  unfold groupSlot? at hfree
  rw [hget, Option.bind_some] at hfree
  unfold writeGroup
  rw [hget]
  dsimp only
  rw [Fields.write?_of_free v hfree]
  refine ⟨_, rfl, ?_⟩
  unfold groupSlot?
  rw [groups_withGroups, if_pos rfl, Table.get?_insert, if_pos rfl, Option.bind_some,
    Fields.slot?_put, if_pos ⟨rfl, rfl⟩]

/-- The slots of a variable when some of the groups of a kind have been passed. -/
structure GroupsFilled (kind : GroupKind) (field period : String) (v : Json) (d₀ : Document)
    (seen : List String) (d : Document) : Prop where
  writes : Writes field d₀ d
  people : d.people = d₀.people
  passed : ∀ key ∈ seen, d.groupSlot? kind key field period = some v
  free : ∀ kind' key, kind' ≠ kind ∨ key ∉ seen → d.groupSlot? kind' key field period = none

variable {v : Json} {d₀ d' : Document} {seen : List String}

lemma GroupsFilled.start (hfree : d₀.Free field period) :
    GroupsFilled kind field period v d₀ [] d₀ where
  writes := .refl field d₀
  people := rfl
  passed _ hkey := by cases hkey
  free kind' key _ := hfree.group kind' key

lemma GroupsFilled.step (hd : GroupsFilled kind field period v d₀ seen d)
    (hmem : key ∈ (d₀.groups kind).keys) (hnew : key ∉ seen) :
    ∃ d', writeGroup kind field period v d key = .ok d' ∧
      GroupsFilled kind field period v d₀ (seen ++ [key]) d' := by
  have hmem' : key ∈ (d.groups kind).keys := groups_keys_of_shape hd.writes.shape kind ▸ hmem
  obtain ⟨d', hok, hslot⟩ := exists_writeGroup v hmem' (hd.free kind key (.inr hnew))
  refine ⟨d', hok, hd.writes.trans (.of_writeGroup hok), (people_writeGroup hok).trans hd.people,
    fun key' hkey' => ?_, fun kind' key' hout => ?_⟩
  · rcases List.mem_append.mp hkey' with hkey' | hkey'
    · have hne : key' ≠ key := fun heq => hnew (heq ▸ hkey')
      rw [groupSlot?_writeGroup hok (.inr (.inl hne))]
      exact hd.passed key' hkey'
    · rw [List.mem_singleton.mp hkey', hslot]
  · rw [List.mem_append, List.mem_singleton, not_or] at hout
    rw [groupSlot?_writeGroup hok (hout.imp_right fun h => .inl h.2)]
    exact hd.free kind' key' (hout.imp_right And.left)

lemma exists_foldlM_writeGroup (kind : GroupKind) (v : Json) (hfree : d₀.Free field period) :
    ∃ d, (d₀.groups kind).keys.foldlM (writeGroup kind field period v) d₀ = .ok d ∧
      GroupsFilled kind field period v d₀ (d₀.groups kind).keys d := by
  refine exists_foldlM_of_step _ (.start hfree) fun before key after hsplit d hd => ?_
  have hnew := notMem_of_split (d₀.groups kind).keys_nodup hsplit
  exact hd.step (hsplit ▸ List.mem_append_right _ List.mem_cons_self) hnew

end WriteGroup

/-- The slots of a variable when it is written: those of its scope hold a value each, and there are
no others. -/
structure Slots (h : Household) (scope : Scope) (field period : String)
    (holds : Option Member → Json → Prop) (d : Document) : Prop where
  person : scope = .person → ∀ id m, h.member? id = some m →
    ∃ x, holds (some m) x ∧ d.personSlot? id.text field period = some x
  group : ∀ kind : GroupKind, kind.scope? = some scope → ∀ key ∈ (d.groups kind).keys,
    ∃ x, holds none x ∧ d.groupSlot? kind key field period = some x
  person_none : scope ≠ .person → ∀ key, d.personSlot? key field period = none
  group_none : ∀ kind : GroupKind, kind.scope? ≠ some scope → ∀ key,
    d.groupSlot? kind key field period = none

lemma Slots.of_writes {h : Household} {scope : Scope} {field field' period : String}
    {holds : Option Member → Json → Prop} {d d' : Document}
    (hd : Slots h scope field period holds d) (hwrites : Writes field' d d')
    (hne : field ≠ field') : Slots h scope field period holds d' where
  person hscope id m hm := by
    rw [hwrites.person _ _ _ hne]
    exact hd.person hscope id m hm
  group kind hkind key hkey := by
    rw [hwrites.group _ _ _ _ hne]
    exact hd.group kind hkind key (groups_keys_of_shape hwrites.shape kind ▸ hkey)
  person_none hscope key := (hwrites.person _ _ _ hne).trans (hd.person_none hscope key)
  group_none kind hkind key := (hwrites.group _ _ _ _ hne).trans (hd.group_none kind hkind key)

section WriteInput

variable (h : Household) (t : TaxUnits) (period : String) (input : Input)

/-- The JSON form of an input for a member, or for a unit of the whole household. -/
def Holds (m : Option Member) (x : Json) : Prop := ∃ v, input.value h t m = .ok v ∧ x = v.toJson

def HasPeople (d : Document) : Prop := ∀ m ∈ h.members, m.id.text ∈ d.people.keys

/-- The first member who has another value than the first one with the same identifier. -/
def FirstToDiffer (m : Member) : Prop := ∃ before after, h.members = before ++ m :: after ∧
  (∀ n ∈ before, ¬DiffersFromFirst h t input n) ∧ DiffersFromFirst h t input m

variable {h t period input} {d d' : Document}

lemma writeInput_of_group (hscope : input.scope ≠ .person) (d : Document) :
    writeInput h t period d input = (EngineError.ofOverflow (input.value h t none) >>= fun v =>
      (d.groups (groupKind input.scope)).keys.foldlM
        (writeGroup (groupKind input.scope) input.field period v.toJson) d) := by
  unfold writeInput
  split
  · contradiction
  · rfl

lemma groups_of_writeInput_of_person (hscope : input.scope = .person)
    (hwrite : writeInput h t period d input = .ok d') (kind : GroupKind) :
    d'.groups kind = d.groups kind := by
  rw [writeInput_of_person h t period input hscope] at hwrite
  refine foldlM_invariant (fun d' => d'.groups kind = d.groups kind)
    (fun m _ d₁ d₂ hstep hd => ?_) hwrite rfl
  obtain ⟨_, _, hstep⟩ := bind_eq_ok.mp hstep
  exact (groups_writePerson hstep kind).trans hd

lemma filled_of_writeInput (hpeople : HasPeople h d) (hfree : d.Free input.field period)
    (hscope : input.scope = .person) (hwrite : writeInput h t period d input = .ok d') :
    Filled h t period input h.members d' := by
  rw [writeInput_of_person h t period input hscope] at hwrite
  exact foldlM_induction _ (.start hpeople hfree)
    (fun _ _ _ hsplit _ _ hd hstep => hd.step hsplit hstep) hwrite

lemma slots_of_writeInput (hpeople : HasPeople h d) (hfree : d.Free input.field period)
    (hwrite : writeInput h t period d input = .ok d') :
    Slots h input.scope input.field period (Holds h t input) d' := by
  by_cases hscope : input.scope = .person
  · have hfilled := filled_of_writeInput hpeople hfree hscope hwrite
    refine ⟨fun _ id m hm => ?_, fun kind hkind => ?_, fun hne => absurd hscope hne,
      fun kind _ key => ?_⟩
    · obtain ⟨v, hv, hslot⟩ := hfilled.first id m hm
      exact ⟨v.toJson, ⟨v, hv, rfl⟩, hslot⟩
    · exact absurd (hscope ▸ hkind) kind.scope?_ne_person
    · rw [groupSlot?, groups_of_writeInput_of_person hscope hwrite]
      exact hfree.group kind key
  · rw [writeInput_of_group hscope] at hwrite
    obtain ⟨v, hv, hwrite⟩ := bind_eq_ok.mp hwrite
    obtain ⟨d₁, hok, hfilled⟩ := exists_foldlM_writeGroup (groupKind input.scope) v.toJson hfree
    obtain rfl : d₁ = d' := Except.ok.inj (hok.symm.trans hwrite)
    refine ⟨fun hperson => absurd hperson hscope, fun kind hkind key hkey => ?_, fun _ key => ?_,
      fun kind hkind key => ?_⟩
    · obtain rfl := (GroupKind.scope?_eq_some hscope).mp hkind
      rw [groups_keys_of_shape hfilled.writes.shape] at hkey
      exact ⟨v.toJson, ⟨v, EngineError.ofOverflow_eq_ok.mp hv, rfl⟩, hfilled.passed key hkey⟩
    · rw [personSlot?, hfilled.people]
      exact hfree.person key
    · exact hfilled.free kind key
        (.inl fun heq => hkind ((GroupKind.scope?_eq_some hscope).mpr heq))

/-- An input can only fail for the first member with another value than the first one with the same
identifier, unless an amount outgrows its type. -/
lemma error_of_writeInput (hpeople : HasPeople h d) (hfree : d.Free input.field period)
    {e : EngineError} (hwrite : writeInput h t period d input = .error e) :
    e.IsOverflow ∨ input.scope = .person ∧ ∃ m, FirstToDiffer h t input m ∧
      e = .conflictingValues "people" m.id.text input.field := by
  by_cases hscope : input.scope = .person
  · rw [writeInput_of_person h t period input hscope] at hwrite
    obtain ⟨before, m, after, c, hsplit, hc, herror⟩ :=
      exists_of_foldlM_error (Filled h t period input) (.start hpeople hfree)
        (fun _ _ _ hsplit _ _ hd hstep => hd.step hsplit hstep) hwrite
    refine (hc.error hsplit herror).imp_right fun ⟨hdiffers, he⟩ => ⟨hscope, m, ?_, he⟩
    exact ⟨before, after, hsplit, hc.agree, hdiffers⟩
  · rw [writeInput_of_group hscope] at hwrite
    rcases bind_eq_error.mp hwrite with hv | ⟨v, _, hwrite⟩
    · exact .inl (EngineError.isOverflow_of_ofOverflow hv)
    · obtain ⟨d', hok, _⟩ := exists_foldlM_writeGroup (groupKind input.scope) v.toJson hfree
      rw [hok] at hwrite
      cases hwrite

end WriteInput

end Document

end Simulation

end BenefitScreen
