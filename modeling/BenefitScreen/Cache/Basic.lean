/-!
A cache whose entries expire, with one update of an entry at a time.

A fetch begins by looking at the entry. A fresh value is served; so is the value at hand while
another caller updates the entry. Otherwise the caller itself updates it: it takes the entry's mark,
gets a new value without holding the cache, stores it and gives the mark back. An update that
fails or is given up leaves value and age as they were.
-/

namespace BenefitScreen

/-- What the cache holds under a key. -/
structure CacheEntry (α : Type) where
  value : α
  /-- The moment of the last successful update, unless it was invalidated since. -/
  refreshedAt : Option Nat
  /-- Whether a caller is updating the entry. -/
  refreshing : Bool

namespace CacheEntry

variable {α : Type}

def empty (default : α) : CacheEntry α := ⟨default, none, false⟩

/-- Whether less than `ttl` has passed since the last update. -/
def isFresh (e : CacheEntry α) (ttl now : Nat) : Bool :=
  e.refreshedAt.any fun moment => now - moment < ttl

end CacheEntry

/-- Entries under keys. Before its first update an entry has the default value. -/
structure Cache (κ α : Type) where
  ttl : Nat
  default : α
  entries : List (κ × CacheEntry α)

/-- How a fetch begins. -/
inductive Fetch (α : Type) where
  | served (value : α)
  /-- The caller has to update the entry. -/
  | mustUpdate
  deriving DecidableEq

namespace Cache

variable {κ α ε σ : Type} [DecidableEq κ]

def new (ttl : Nat) (default : α) : Cache κ α := ⟨ttl, default, []⟩

/-- The entry under a key, if the key was ever fetched. -/
def get? (c : Cache κ α) (k : κ) : Option (CacheEntry α) :=
  (c.entries.find? fun e => e.1 == k).map (·.2)

def entry (c : Cache κ α) (k : κ) : CacheEntry α := (c.get? k).getD (.empty c.default)

def value (c : Cache κ α) (k : κ) : α := (c.entry k).value

def put (c : Cache κ α) (k : κ) (e : CacheEntry α) : Cache κ α :=
  { c with entries := (k, e) :: c.entries.filter fun x => x.1 != k }

def begin (c : Cache κ α) (now : Nat) (k : κ) : Fetch α × Cache κ α :=
  let e := c.entry k
  if e.isFresh c.ttl now || e.refreshing then (.served e.value, c.put k e)
  else (.mustUpdate, c.put k { e with refreshing := true })

def store (c : Cache κ α) (now : Nat) (k : κ) : Except ε α → Cache κ α
  | .ok v => c.put k { c.entry k with value := v, refreshedAt := some now }
  | .error _ => c.put k (c.entry k)

/-- Gives the mark of an entry back. -/
def release (c : Cache κ α) (k : κ) : Cache κ α :=
  match c.get? k with
  | some e => c.put k { e with refreshing := false }
  | none => c

/-- Makes the value under a key count as old. -/
def invalidate (c : Cache κ α) (k : κ) : Cache κ α :=
  match c.get? k with
  | some e => c.put k { e with refreshedAt := none }
  | none => c

/-- A whole fetch that nobody interrupts; `update` gets a new value from the world `σ`. -/
def fetch (c : Cache κ α) (now : Nat) (k : κ) (update : σ → Except ε α × σ) (world : σ) :
    α × Cache κ α × σ :=
  match c.begin now k with
  | (.served v, c) => (v, c, world)
  | (.mustUpdate, c) =>
    let (result, world) := update world
    let c := c.store now k result
    (c.value k, c.release k, world)

@[simp]
theorem get?_put (c : Cache κ α) (k : κ) (e : CacheEntry α) (k' : κ) :
    (c.put k e).get? k' = if k' = k then some e else c.get? k' := by
  unfold put get?
  by_cases h : k' = k
  · subst h
    simp
  · have h1 : ¬k = k' := fun he => h he.symm
    simp only [List.find?_cons, beq_eq_false_iff_ne.mpr h1, if_neg h]
    congr 1
    induction c.entries with
    | nil => rfl
    | cons x xs ih =>
      by_cases hx : x.1 = k
      · have h2 : ¬x.1 = k' := fun he => h (he.symm.trans hx)
        simp [hx, ih, h1]
      · simp only [List.filter_cons, bne_iff_ne, ne_eq, hx, not_false_eq_true, if_true,
          List.find?_cons, ih]

@[simp]
theorem ttl_put (c : Cache κ α) (k : κ) (e : CacheEntry α) : (c.put k e).ttl = c.ttl := rfl

@[simp]
theorem default_put (c : Cache κ α) (k : κ) (e : CacheEntry α) :
    (c.put k e).default = c.default := rfl

@[simp]
theorem entry_put (c : Cache κ α) (k : κ) (e : CacheEntry α) (k' : κ) :
    (c.put k e).entry k' = if k' = k then e else c.entry k' := by
  unfold entry
  rw [get?_put, default_put]
  split <;> rfl

theorem entry_of_get?_eq_none {c : Cache κ α} {k : κ} (h : c.get? k = none) :
    c.entry k = .empty c.default := by
  rw [entry, h]
  rfl

theorem entry_of_get?_eq_some {c : Cache κ α} {k : κ} {e : CacheEntry α} (h : c.get? k = some e) :
    c.entry k = e := by
  rw [entry, h]
  rfl

end Cache

end BenefitScreen
