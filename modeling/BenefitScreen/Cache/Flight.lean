import BenefitScreen.Cache.Basic

/-!
Callers of a cache at the same time.

The cache is locked for one step only: the beginning of a fetch, the storing of a new value, the
return of a mark, an invalidation. Between the steps of one caller any others may run. A caller
that updates an entry is a flight; flights are numbered in the order in which they started.
-/

namespace BenefitScreen

/-- A caller that updates an entry. -/
structure Flight (κ α : Type) where
  number : Nat
  key : κ
  /-- What it will return. It is known once the update has ended, when only the mark is still to be
  given back. -/
  answer : Option α
  deriving DecidableEq

namespace Flight

variable {κ α : Type}

/-- The flight with a number gets its answer. -/
def answering (number : Nat) (value : α) (f : Flight κ α) : Flight κ α :=
  if f.number = number then { f with answer := some value } else f

@[simp]
theorem number_answering (number : Nat) (value : α) (f : Flight κ α) :
    (f.answering number value).number = f.number := by
  unfold answering
  split <;> rfl

@[simp]
theorem key_answering (number : Nat) (value : α) (f : Flight κ α) :
    (f.answering number value).key = f.key := by
  unfold answering
  split <;> rfl

end Flight

/-- A cache with the updates under way. -/
structure Traffic (κ α : Type) where
  cache : Cache κ α
  flights : List (Flight κ α)
  /-- The keys of all updates that were started, the latest first. -/
  started : List κ

namespace Traffic

variable {κ α ε : Type} [DecidableEq κ]

def new (ttl : Nat) (default : α) : Traffic κ α := ⟨.new ttl default, [], []⟩

def flight? (t : Traffic κ α) (number : Nat) : Option (Flight κ α) :=
  t.flights.find? fun f => f.number == number

def flightFor? (t : Traffic κ α) (k : κ) : Option (Flight κ α) :=
  t.flights.find? fun f => f.key == k

/-- A fetch begins; it is served, or it becomes a flight. -/
def begin (t : Traffic κ α) (now : Nat) (k : κ) : Fetch α × Traffic κ α :=
  match t.cache.begin now k with
  | (.served v, cache) => (.served v, { t with cache })
  | (.mustUpdate, cache) =>
    (.mustUpdate,
      { cache
        flights := ⟨t.started.length, k, none⟩ :: t.flights
        started := k :: t.started })

/-- The update of a flight ends. What the cache then holds is what the flight will return. -/
def complete (t : Traffic κ α) (now : Nat) (number : Nat) (result : Except ε α) : Traffic κ α :=
  match t.flight? number with
  | some f =>
    if f.answer.isSome then t
    else
      let cache := t.cache.store now f.key result
      { t with cache, flights := t.flights.map (·.answering number (cache.value f.key)) }
  | none => t

def leave (t : Traffic κ α) (f : Flight κ α) : Traffic κ α :=
  { t with
    cache := t.cache.release f.key
    flights := t.flights.filter fun g => g.number != f.number }

/-- A flight whose update has ended gives its mark back and returns. -/
def release (t : Traffic κ α) (number : Nat) : Option α × Traffic κ α :=
  match t.flight? number with
  | some f => (f.answer, if f.answer.isSome then t.leave f else t)
  | none => (none, t)

/-- A flight is given up while its update runs. -/
def cancel (t : Traffic κ α) (number : Nat) : Traffic κ α :=
  match t.flight? number with
  | some f => if f.answer.isSome then t else t.leave f
  | none => t

def invalidate (t : Traffic κ α) (k : κ) : Traffic κ α :=
  { t with cache := t.cache.invalidate k }

end Traffic

end BenefitScreen
