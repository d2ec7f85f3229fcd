/-!
Entries under text keys, kept in the order of the keys.

`get?` is the view of a table: `get?_insert` says what an insertion does to it, and `ext_get?`
that it determines the table.
-/

namespace BenefitScreen

/-- Entries with distinct keys in increasing order. -/
structure Table (α : Type) where
  entries : List (String × α)
  sorted : entries.Pairwise fun a b => a.1 < b.1

namespace Table

variable {α β : Type}

instance [DecidableEq α] : DecidableEq (Table α) := fun s t =>
  if h : s.entries = t.entries then isTrue (by cases s; cases t; cases h; rfl)
  else isFalse fun e => h (congrArg entries e)

def empty : Table α := ⟨[], List.Pairwise.nil⟩

instance : Inhabited (Table α) := ⟨empty⟩

/-- The place of `k` is kept; an entry that is there already is replaced. -/
def insertEntry (k : String) (v : α) : List (String × α) → List (String × α)
  | [] => [(k, v)]
  | e :: es =>
    if k = e.1 then (k, v) :: es
    else if k < e.1 then (k, v) :: e :: es
    else e :: insertEntry k v es

theorem mem_insertEntry {k : String} {v : α} {x : String × α} :
    ∀ {es : List (String × α)}, x ∈ insertEntry k v es → x = (k, v) ∨ x ∈ es
  | [], h => by simpa [insertEntry] using h
  | e :: es, h => by
    unfold insertEntry at h
    split at h
    · rcases List.mem_cons.mp h with h | h
      · exact .inl h
      · exact .inr (List.mem_cons_of_mem _ h)
    · split at h
      · rcases List.mem_cons.mp h with h | h
        · exact .inl h
        · exact .inr h
      · rcases List.mem_cons.mp h with h | h
        · exact .inr (h ▸ List.mem_cons_self)
        · exact (mem_insertEntry h).imp_right (List.mem_cons_of_mem _)

theorem sorted_insertEntry (k : String) (v : α) :
    ∀ {es : List (String × α)}, es.Pairwise (fun a b => a.1 < b.1) →
      (insertEntry k v es).Pairwise fun a b => a.1 < b.1
  | [], _ => by simp [insertEntry]
  | e :: es, h => by
    have ⟨he, hes⟩ := List.pairwise_cons.mp h
    unfold insertEntry
    split
    · rename_i hk
      exact List.pairwise_cons.mpr ⟨fun x hx => hk ▸ he x hx, hes⟩
    · rename_i hne
      split
      · rename_i hlt
        refine List.pairwise_cons.mpr ⟨fun x hx => ?_, h⟩
        rcases List.mem_cons.mp hx with rfl | hx
        · exact hlt
        · exact String.lt_trans hlt (he x hx)
      · rename_i hnlt
        refine List.pairwise_cons.mpr ⟨fun x hx => ?_, sorted_insertEntry k v hes⟩
        rcases mem_insertEntry hx with rfl | hx
        · have hle : e.1 ≤ k := String.not_lt.mp hnlt
          apply Decidable.byContradiction
          intro hn
          exact hne (String.le_antisymm (String.not_lt.mp hn) hle)
        · exact he x hx

/-- The table with `v` under `k`. -/
def insert (t : Table α) (k : String) (v : α) : Table α :=
  ⟨insertEntry k v t.entries, sorted_insertEntry k v t.sorted⟩

def get? (t : Table α) (k : String) : Option α :=
  (t.entries.find? fun e => e.1 == k).map (·.2)

def contains (t : Table α) (k : String) : Bool := (t.get? k).isSome

def keys (t : Table α) : List String := t.entries.map (·.1)

def values (t : Table α) : List α := t.entries.map (·.2)

def isEmpty (t : Table α) : Bool := t.entries.isEmpty

/-- Later pairs win over earlier ones with the same key. -/
def ofList (es : List (String × α)) : Table α :=
  es.foldl (fun t e => t.insert e.1 e.2) empty

/-- The table with every entry changed by `f`. -/
def map (f : String → α → β) (t : Table α) : Table β :=
  ⟨t.entries.map fun e => (e.1, f e.1 e.2), by
    rw [List.pairwise_map]
    exact t.sorted⟩

@[simp]
theorem get?_empty (k : String) : (empty : Table α).get? k = none := rfl

@[simp]
theorem get?_insert (t : Table α) (k : String) (v : α) (k' : String) :
    (t.insert k v).get? k' = if k' = k then some v else t.get? k' := by
  obtain ⟨es, hs⟩ := t
  unfold insert get?
  dsimp only
  clear hs
  induction es with
  | nil =>
    by_cases h : k' = k
    · simp [insertEntry, h]
    · have h1 : ¬k = k' := fun he => h he.symm
      simp [insertEntry, h, h1]
  | cons e es ih =>
    unfold insertEntry
    split
    · rename_i hk
      by_cases h : k' = k
      · simp [h]
      · have h1 : ¬k = k' := fun he => h he.symm
        have h2 : ¬e.1 = k' := fun he => h (hk.trans he).symm
        simp [h, h1, h2]
    · rename_i hne
      split
      · by_cases h : k' = k
        · simp [h]
        · have h1 : ¬k = k' := fun he => h he.symm
          simp [h, h1]
      · by_cases h : e.1 = k'
        · have h1 : ¬k' = k := fun he => hne (he ▸ h).symm
          simp [h, h1]
        · have hb : (e.1 == k') = false := by simp [h]
          simp only [List.find?_cons, hb]
          exact ih

/-- Two tables with the same entries under every key are one table. -/
theorem ext_get? {s t : Table α} (h : ∀ k, s.get? k = t.get? k) : s = t := by
  obtain ⟨es, hs⟩ := s
  obtain ⟨fs, ht⟩ := t
  suffices es = fs by subst this; rfl
  have find : ∀ {gs : List (String × α)} {e : String × α},
      gs.Pairwise (fun a b => a.1 < b.1) → e ∈ gs → (gs.find? fun x => x.1 == e.1) = some e := by
    intro gs e hg he
    induction gs with
    | nil => cases he
    | cons g gs ih =>
      have ⟨h1, h2⟩ := List.pairwise_cons.mp hg
      rcases List.mem_cons.mp he with rfl | he
      · simp
      · have hne : ¬g.1 = e.1 := fun hEq => String.lt_irrefl e.1 (hEq ▸ h1 e he)
        simp [hne, ih h2 he]
  have sub : ∀ {as bs : List (String × α)}, as.Pairwise (fun a b => a.1 < b.1) →
      bs.Pairwise (fun a b => a.1 < b.1) →
      (∀ k, (as.find? fun x => x.1 == k).map (·.2) = (bs.find? fun x => x.1 == k).map (·.2)) →
      ∀ e ∈ as, e ∈ bs := by
    intro as bs ha hb hk e he
    have h1 := hk e.1
    rw [find ha he] at h1
    obtain ⟨b, hb1, hb2⟩ := Option.map_eq_some_iff.mp h1.symm
    have hmem := List.mem_of_find?_eq_some hb1
    have hkey := List.find?_some hb1
    simp only [beq_iff_eq] at hkey
    have : b = e := Prod.ext hkey hb2
    exact this ▸ hmem
  have hsub := sub hs ht h
  have hsup := sub ht hs fun k => (h k).symm
  clear find sub h
  induction es generalizing fs with
  | nil =>
    cases fs with
    | nil => rfl
    | cons f fs => exact absurd (hsup f List.mem_cons_self) (by simp)
  | cons e es ih =>
    cases fs with
    | nil => exact absurd (hsub e List.mem_cons_self) (by simp)
    | cons f fs =>
      have ⟨he, hes⟩ := List.pairwise_cons.mp hs
      have ⟨hf, hfs⟩ := List.pairwise_cons.mp ht
      have hef : e = f := by
        rcases List.mem_cons.mp (hsub e List.mem_cons_self) with h | h
        · exact h
        · rcases List.mem_cons.mp (hsup f List.mem_cons_self) with h' | h'
          · exact h'.symm
          · exact absurd (String.lt_trans (hf e h) (he f h')) (String.lt_irrefl _)
      subst hef
      have tail : es = fs := by
        refine ih hes fs hfs (fun x hx => ?_) (fun x hx => ?_)
        · rcases List.mem_cons.mp (hsub x (List.mem_cons_of_mem _ hx)) with rfl | h
          · exact absurd (he x hx) (String.lt_irrefl _)
          · exact h
        · rcases List.mem_cons.mp (hsup x (List.mem_cons_of_mem _ hx)) with rfl | h
          · exact absurd (hf x hx) (String.lt_irrefl _)
          · exact h
      rw [tail]

end Table

abbrev NameSet := Table Unit

namespace NameSet

def ofNames (names : List String) : NameSet := Table.ofList (names.map fun n => (n, ()))

def names (s : NameSet) : List String := s.keys

end NameSet

end BenefitScreen
