import BenefitScreen.Table
import Mathlib.Data.List.Nodup
import Mathlib.Tactic.Common

/-!
Look-ups among items with distinct keys, in lists and in tables.
-/

namespace BenefitScreen

variable {α κ : Type}

lemma find?_of_nodup_keys [BEq κ] [LawfulBEq κ] {key : α → κ} {l : List α}
    (h : (l.map key).Nodup) {x : α} (hx : x ∈ l) :
    (l.find? fun y => key y == key x) = some x := by
  induction l with
  | nil => cases hx
  | cons y l ih =>
    have ⟨hy, hl⟩ := List.nodup_cons.mp h
    rcases List.mem_cons.mp hx with rfl | hmem
    · simp
    · have hne : ¬key y = key x := fun he => hy (he ▸ List.mem_map_of_mem hmem)
      simp [hne, ih hl hmem]

/-- Picking items by their keys gives items with these keys. -/
lemma map_filterMap_find? (key : α → String) (l : List α) {codes : List String}
    (h : ∀ code ∈ codes, code ∈ l.map key) :
    (codes.filterMap fun code => l.find? fun x => key x == code).map key = codes := by
  induction codes with
  | nil => rfl
  | cons code codes ih =>
    obtain ⟨x, hx, hcode⟩ := List.mem_map.mp (h code List.mem_cons_self)
    obtain ⟨y, hy⟩ := Option.isSome_iff_exists.mp
      (List.find?_isSome (p := fun x => key x == code).mpr ⟨x, hx, by simp [hcode]⟩)
    have hkey : key y = code := by simpa using List.find?_some hy
    simp only [List.filterMap_cons, hy, List.map_cons, hkey]
    rw [ih fun c hc => h c (List.mem_cons_of_mem _ hc)]

lemma notMem_of_split {l before after : List α} {a : α} (hnodup : l.Nodup)
    (hsplit : l = before ++ a :: after) : a ∉ before := fun hmem =>
  (List.nodup_append.mp (hsplit ▸ hnodup)).2.2 a hmem a List.mem_cons_self rfl

/-- What a test picks that holds of one item at most. -/
lemma filter_eq_toList {l : List α} (hnd : l.Nodup) {p : α → Bool} {o : Option α}
    (ho : ∀ a, o = some a → a ∈ l) (hp : ∀ a ∈ l, p a = true ↔ o = some a) :
    l.filter p = o.toList := by
  classical
  cases o with
  | none =>
    apply List.filter_eq_nil_iff.mpr
    intro a ha hpa
    cases (hp a ha).mp hpa
  | some a =>
    have ha : a ∈ l := ho a rfl
    have hcongr : l.filter p = l.filter (· == a) := by
      apply List.filter_congr
      intro b hb
      rw [Bool.eq_iff_iff, hp b hb, beq_iff_eq, Option.some.injEq, eq_comm]
    rw [hcongr, List.filter_beq, List.count_eq_one_of_mem hnd ha]
    rfl

namespace Table

lemma get?_foldl_insert (es : List (String × α)) (t : Table α) (k : String) :
    (es.foldl (fun t e => t.insert e.1 e.2) t).get? k =
      ((es.reverse.find? fun e => e.1 == k).map (·.2)).or (t.get? k) := by
  induction es generalizing t with
  | nil => simp
  | cons e es ih =>
    rw [List.foldl_cons, ih, get?_insert, List.reverse_cons, List.find?_append]
    by_cases h : k = e.1
    · subst h
      cases es.reverse.find? fun x => x.1 == e.1 <;> simp
    · have he : ¬e.1 = k := fun hk => h hk.symm
      cases es.reverse.find? fun x => x.1 == k <;> simp [h, he]

lemma get?_ofList_of_mem {es : List (String × α)} (h : (es.map (·.1)).Nodup) {e : String × α}
    (he : e ∈ es) : (ofList es).get? e.1 = some e.2 := by
  have hr : (es.reverse.map (·.1)).Nodup := by
    rw [List.map_reverse]
    exact List.nodup_reverse.mpr h
  rw [ofList, get?_foldl_insert, find?_of_nodup_keys hr (List.mem_reverse.mpr he)]
  rfl

@[simp]
lemma get?_ofList_singleton (k : String) (v : α) : (ofList [(k, v)]).get? k = some v := by
  simp [ofList]

lemma get?_ofList_of_not_mem {es : List (String × α)} {k : String} (h : k ∉ es.map (·.1)) :
    (ofList es).get? k = none := by
  have hn : (es.reverse.find? fun e => e.1 == k) = none := by
    refine List.find?_eq_none.mpr fun e he hk => h ?_
    rw [← beq_iff_eq.mp hk]
    exact List.mem_map_of_mem (List.mem_reverse.mp he)
  rw [ofList, get?_foldl_insert, hn]
  rfl

lemma mem_of_get?_ofList {es : List (String × α)} {k : String} {v : α}
    (h : (ofList es).get? k = some v) : (k, v) ∈ es := by
  rw [ofList, get?_foldl_insert, get?_empty, Option.or_none] at h
  obtain ⟨e, he, rfl⟩ := Option.map_eq_some_iff.mp h
  have hk : e.1 = k := by simpa using List.find?_some he
  exact hk ▸ List.mem_reverse.mp (List.mem_of_find?_eq_some he)

lemma get?_ofList_eq_some {es : List (String × α)} (h : (es.map (·.1)).Nodup) {k : String} {v : α} :
    (ofList es).get? k = some v ↔ (k, v) ∈ es :=
  ⟨mem_of_get?_ofList, get?_ofList_of_mem h⟩

lemma get?_map {β : Type} (t : Table α) (f : String → α → β) (k : String) :
    (t.map f).get? k = (t.get? k).map (f k) := by
  unfold map get?
  dsimp only
  rw [List.find?_map]
  change Option.map _ (Option.map _ (t.entries.find? fun e => e.1 == k)) = _
  cases h : t.entries.find? fun e => e.1 == k with
  | none => rfl
  | some e =>
    have hk : e.1 = k := by simpa using List.find?_some h
    simp [hk]

lemma keys_map {β : Type} (t : Table α) (f : String → α → β) : (t.map f).keys = t.keys := by
  unfold keys map
  rw [List.map_map]
  rfl

lemma map_insert {β : Type} (t : Table α) (f : String → α → β) (k : String) (v : α) :
    (t.insert k v).map f = (t.map f).insert k (f k v) := by
  apply ext_get?
  intro k'
  rw [get?_map, get?_insert, get?_insert, get?_map]
  by_cases h : k' = k
  · simp [h]
  · simp [h]

/-- An entry that is there already changes nothing. -/
lemma insert_of_get? {t : Table α} {k : String} {v : α} (h : t.get? k = some v) :
    t.insert k v = t := by
  apply ext_get?
  intro k'
  rw [get?_insert]
  by_cases hk : k' = k
  · rw [if_pos hk, hk, h]
  · rw [if_neg hk]

lemma keys_nodup (t : Table α) : t.keys.Nodup := by
  refine List.pairwise_map.mpr (t.sorted.imp fun {a b} hlt heq => ?_)
  rw [heq] at hlt
  exact String.lt_irrefl _ hlt

lemma get?_eq_some {t : Table α} {k : String} {v : α} :
    t.get? k = some v ↔ (k, v) ∈ t.entries := by
  constructor
  · intro h
    obtain ⟨e, he, rfl⟩ := Option.map_eq_some_iff.mp h
    have hk : e.1 = k := by simpa using List.find?_some he
    exact hk ▸ List.mem_of_find?_eq_some he
  · intro h
    have hfind := find?_of_nodup_keys t.keys_nodup h
    exact Option.map_eq_some_iff.mpr ⟨(k, v), hfind, rfl⟩

lemma mem_keys {t : Table α} {k : String} : k ∈ t.keys ↔ ∃ v, t.get? k = some v := by
  constructor
  · intro h
    obtain ⟨e, he, rfl⟩ := List.mem_map.mp h
    exact ⟨e.2, get?_eq_some.mpr he⟩
  · rintro ⟨v, h⟩
    exact List.mem_map.mpr ⟨(k, v), get?_eq_some.mp h, rfl⟩

/-- A scan of the entries stops at the first key that passes. -/
lemma find?_entries_eq_some {t : Table α} {p : String → Bool} {k : String} {v : α} :
    t.entries.find? (fun e => p e.1) = some (k, v) ↔
      t.get? k = some v ∧ p k = true ∧ ∀ k' ∈ t.keys, p k' = true → k ≤ k' := by
  have hfound : ∀ {k : String} {v : α}, t.entries.find? (fun e => p e.1) = some (k, v) →
      t.get? k = some v ∧ p k = true ∧ ∀ k' ∈ t.keys, p k' = true → k ≤ k' := by
    intro k v hfind
    obtain ⟨hpasses, before, after, hsplit, hbefore⟩ := List.find?_eq_some_iff_append.mp hfind
    refine ⟨get?_eq_some.mpr (List.mem_of_find?_eq_some hfind), hpasses, ?_⟩
    intro k' hk' hpasses
    obtain ⟨e, he, rfl⟩ := List.mem_map.mp hk'
    have hsorted := t.sorted
    rw [hsplit] at he hsorted
    rcases List.mem_append.mp he with he | he
    · have hskipped := hbefore e he
      rw [hpasses] at hskipped
      cases hskipped
    · rcases List.mem_cons.mp he with rfl | he
      · exact String.le_refl _
      · have hlater := (List.pairwise_cons.mp (List.pairwise_append.mp hsorted).2.1).1 e he
        exact String.not_lt.mp fun hearlier => String.lt_irrefl _ (String.lt_trans hearlier hlater)
  refine ⟨hfound, ?_⟩
  rintro ⟨hget, hpasses, hfirst⟩
  have hsome : (t.entries.find? fun e => p e.1).isSome :=
    List.find?_isSome.mpr ⟨(k, v), get?_eq_some.mp hget, hpasses⟩
  obtain ⟨e, he⟩ := Option.isSome_iff_exists.mp hsome
  obtain ⟨hget', hpasses', hfirst'⟩ := hfound he
  have hkey : e.1 = k := String.le_antisymm
    (hfirst' k (mem_keys.mpr ⟨v, hget⟩) hpasses) (hfirst e.1 (mem_keys.mpr ⟨e.2, hget'⟩) hpasses')
  rw [hkey, hget] at hget'
  rw [he, Option.some.inj hget', ← hkey]

lemma mem_keys_ofList {es : List (String × α)} {k : String} :
    k ∈ (ofList es).keys ↔ k ∈ es.map (·.1) := by
  rw [mem_keys]
  constructor
  · rintro ⟨v, hget⟩
    exact List.mem_map.mpr ⟨(k, v), mem_of_get?_ofList hget, rfl⟩
  · intro hk
    obtain ⟨e, he, rfl⟩ := List.mem_map.mp hk
    have hsome : (es.reverse.find? fun x => x.1 == e.1).isSome :=
      List.find?_isSome.mpr ⟨e, List.mem_reverse.mpr he, beq_self_eq_true _⟩
    obtain ⟨x, hx⟩ := Option.isSome_iff_exists.mp hsome
    exact ⟨x.2, by rw [ofList, get?_foldl_insert, hx]; rfl⟩

lemma keys_ofList_perm {es : List (String × α)} (h : (es.map (·.1)).Nodup) :
    (ofList es).keys.Perm (es.map (·.1)) :=
  (List.perm_ext_iff_of_nodup (keys_nodup _) h).mpr fun _ => mem_keys_ofList

lemma eq_empty_of_keys {t : Table α} (h : t.keys = []) : t = .empty := by
  obtain ⟨entries, sorted⟩ := t
  obtain rfl : entries = [] := List.map_eq_nil_iff.mp h
  rfl

end Table

end BenefitScreen
