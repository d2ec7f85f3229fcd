import BenefitScreen.Json.Decode
import BenefitScreen.Proofs.Lookup

/-!
# Reading back what was written

A reader makes of a written value what it makes of its parts: one lemma for each way in which values
are put together. A record is written as an object with all of its fields, each once.
-/

namespace BenefitScreen

variable {α β V : Type}

lemma mapM_eq_some_map {f : α → Option β} {g : α → β} {xs : List α}
    (h : ∀ x ∈ xs, f x = some (g x)) : xs.mapM f = some (xs.map g) := by
  induction xs with
  | nil => rfl
  | cons x xs ih =>
    have htail := ih fun y hy => h y (List.mem_cons_of_mem _ hy)
    rw [List.mapM_cons, h x List.mem_cons_self, htail]
    rfl

/-- What is among the results of a traversal is the result of one of its items. -/
lemma exists_of_mem_mapM {f : α → Option β} {xs : List α} {ys : List β} (h : xs.mapM f = some ys)
    {y : β} (hy : y ∈ ys) : ∃ x ∈ xs, f x = some y := by
  induction xs generalizing ys with
  | nil =>
    cases h
    cases hy
  | cons x xs ih =>
    rw [List.mapM_cons] at h
    obtain ⟨z, hz, h⟩ := Option.bind_eq_some_iff.mp h
    obtain ⟨zs, hzs, h⟩ := Option.bind_eq_some_iff.mp h
    cases h
    rcases List.mem_cons.mp hy with rfl | hy
    · exact ⟨x, List.mem_cons_self, hz⟩
    · obtain ⟨w, hw, hf⟩ := ih hzs hy
      exact ⟨w, List.mem_cons_of_mem _ hw, hf⟩

namespace Table

lemma ofList_entries (t : Table α) : ofList t.entries = t := by
  apply ext_get?
  intro k
  cases hget : t.get? k with
  | some v => exact get?_ofList_of_mem t.keys_nodup (get?_eq_some.mp hget)
  | none =>
    refine get?_ofList_of_not_mem fun hmem => ?_
    obtain ⟨v, hv⟩ := mem_keys.mp hmem
    rw [hget] at hv
    cases hv

end Table

namespace Decode

section Items

variable {read : Decoder β} {write : α → Json} {f : α → β}

lemma list_encode (xs : List α) (h : ∀ a ∈ xs, read (write a) = some (f a)) :
    list read (Encode.list write xs) = some (xs.map f) := by
  rw [Encode.list, list, List.mapM_map]
  exact mapM_eq_some_map h

/-- Nothing is written as null, so that a value must not be. -/
lemma optional_encode {o : Option α} (hnull : ∀ a, write a ≠ .null)
    (h : ∀ a ∈ o, read (write a) = some (f a)) :
    optional read (Encode.optional write o) = some (o.map f) := by
  cases o with
  | none => rfl
  | some a =>
    rw [Encode.optional, optional]
    · rw [h a rfl]
      rfl
    · exact hnull a

lemma table_encode {write : α → Json} {read : Decoder α} {t : Table α}
    (h : ∀ k a, t.get? k = some a → read (write a) = some a) :
    table read (Encode.table write t) = some t := by
  have hitems : ∀ e ∈ t.entries, (read (write e.2)).map (fun v => (e.1, v)) = some (id e) := by
    intro e he
    rw [h e.1 e.2 (Table.get?_eq_some.mpr he), Option.map_some, id_eq]
  rw [Encode.table, table, List.mapM_map]
  dsimp only [Function.comp_def]
  rw [mapM_eq_some_map hitems, List.map_id, Option.map_some, Table.ofList_entries]

/-- Every entry of a table is read from a member of an object. -/
lemma exists_object_of_table {read : Decoder α} {j : Json} {t : Table α}
    (h : table read j = some t) : ∃ ms, j = .object ms ∧
      ∀ k a, t.get? k = some a → ∃ x, (k, x) ∈ ms ∧ read x = some a := by
  cases j with
  | object ms =>
    refine ⟨ms, rfl, fun k a hget => ?_⟩
    rw [table] at h
    obtain ⟨es, hes, rfl⟩ := Option.map_eq_some_iff.mp h
    obtain ⟨m, hm, he⟩ := exists_of_mem_mapM hes (Table.mem_of_get?_ofList hget)
    obtain ⟨b, hread, heq⟩ := Option.map_eq_some_iff.mp he
    cases heq
    exact ⟨m.2, hm, hread⟩
  | _ => cases h

section Exact

variable {read : Decoder α} {write : α → Json} (h : ∀ a, read (write a) = some a)
include h

lemma list_encode_self (xs : List α) : list read (Encode.list write xs) = some xs := by
  have hread := list_encode (f := id) xs fun a _ => h a
  rwa [List.map_id] at hread

lemma optional_encode_self (hnull : ∀ a, write a ≠ .null) (o : Option α) :
    optional read (Encode.optional write o) = some o := by
  have hread := optional_encode (o := o) (f := id) hnull fun a _ => h a
  rwa [Option.map_id] at hread

end Exact

end Items

section Values

lemma text_encode (s : String) : text (Encode.text s) = some s := rfl

lemma bool_encode (b : Bool) : bool (Encode.bool b) = some b := rfl

lemma natBelow_ofNat {n size : Nat} (h : n < size) : natBelow size (.ofNat n) = some n := by
  have hint : (0 : Int) ≤ n ∧ (n : Int) < size := by omega
  simp [natBelow, intBetween, Json.ofNat, hint]

lemma uint32_encode (n : UInt32) : uint32 (Encode.uint32 n) = some n := by
  rw [uint32, Encode.uint32, natBelow_ofNat n.toNat_lt_size, Option.map_some, UInt32.ofNat_toNat]

lemma uint64_encode (n : UInt64) : uint64 (Encode.uint64 n) = some n := by
  rw [uint64, Encode.uint64, natBelow_ofNat n.toNat_lt_size, Option.map_some, UInt64.ofNat_toNat]

lemma int32_encode (n : Int32) : int32 (Encode.int32 n) = some n := by
  have hint : Int32.minValue.toInt ≤ n.toInt ∧ n.toInt < Int32.maxValue.toInt + 1 :=
    ⟨n.minValue_le_toInt, Int.lt_add_one_of_le n.toInt_le⟩
  rw [int32, Encode.int32, Json.ofInt, intBetween, if_pos hint, Option.map_some, Int32.ofInt_toInt]

section Enumerated

variable [DecidableEq α] [Enumerated α]

lemma named_encode (a : α) : named (Encode.named a) = some a := Enumerated.ofName?_name a

lemma enumSet_encode (s : EnumSet α) : enumSet (Encode.enumSet s) = some s := by
  change (list named (Encode.list Encode.named s.members)).map EnumSet.ofList = some s
  rw [list_encode_self named_encode, Option.map_some, EnumSet.ofList_members]

end Enumerated

lemma nameSet_encode (s : NameSet) : nameSet (Encode.nameSet s) = some s := by
  change (list text (Encode.list Encode.text s.names)).map NameSet.ofNames = some s
  rw [list_encode_self text_encode, Option.map_some, NameSet.ofNames, NameSet.names, Table.keys,
    List.map_map]
  exact congrArg some ((congrArg Table.ofList (List.map_id _)).trans s.ofList_entries)

end Values

section Records

lemma filter_of_nodup_keys {ms : List (String × V)} (hnd : (ms.map (·.1)).Nodup)
    {m : String × V} (hm : m ∈ ms) : ms.filter (fun x => x.1 == m.1) = [m] := by
  refine filter_eq_toList (o := some m) (List.Nodup.of_map _ hnd) ?_ ?_
  · rintro a ⟨⟩
    exact hm
  · intro a ha
    rw [beq_iff_eq, Option.some.injEq]
    exact ⟨fun hkey => List.inj_on_of_nodup_map hnd hm ha hkey.symm, fun h => h ▸ rfl⟩

/-- Every field of an object that holds each of them once is found. -/
lemma memberSlots_keys {ms : List (String × V)} (hnd : (ms.map (·.1)).Nodup) :
    memberSlots (ms.map (·.1)) ms = some (ms.map fun m => .given m.2) := by
  rw [memberSlots, List.mapM_map]
  refine mapM_eq_some_map fun m hm => ?_
  dsimp only [Function.comp_def]
  rw [filter_of_nodup_keys hnd hm]

lemma slots_object {ms : List (String × Json)} {names : List String}
    (hnames : ms.map (·.1) = names) (hnd : names.Nodup) :
    slots names (.object ms) = some (ms.map fun m => .given m.2) := by
  subst hnames
  exact memberSlots_keys hnd

section Tag

variable {name : String} {v : V} {ms : List (String × V)} (h : ∀ m ∈ ms, m.1 ≠ name)
include h

lemma filter_tag : ((name, v) :: ms).filter (fun m => m.1 == name) = [(name, v)] := by
  rw [List.filter_cons_of_pos (by simp), List.filter_eq_nil_iff.mpr]
  intro m hm heq
  exact h m hm (beq_iff_eq.mp heq)

lemma filter_not_tag : ((name, v) :: ms).filter (fun m => m.1 != name) = ms := by
  rw [List.filter_cons_of_neg (by simp), List.filter_eq_self]
  intro m hm
  exact bne_iff_ne.mpr (h m hm)

end Tag

section Slots

open Slot

variable {item : V → Option α} {default : α} {v : V}

lemma orElse_eq_some {slot : Slot V} {a : α} (h : orElse item default slot = some a) :
    a = default ∨ ∃ v, item v = some a := by
  cases slot with
  | given v => exact .inr ⟨v, h⟩
  | _ => exact .inl (Option.some.inj h).symm

-- The next three are not proved by `rfl`, so that a rewrite with one of them is a step of the
-- proof: the kernel would otherwise run a field's reader to see that it is that reader's result.
lemma required_given : required item (.given v) = item v := by rw [required]

lemma orElse_given : orElse item default (.given v) = item v := by rw [orElse]

lemma orNone_given {item : Decoder α} {j : Json} :
    orNone item (.given j) = Decode.optional item j := orElse_given

end Slots

end Records

end Decode

end BenefitScreen
