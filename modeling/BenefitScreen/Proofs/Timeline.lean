import BenefitScreen.Cache.Flight
import Mathlib.Data.List.Nodup
import Mathlib.Tactic.Common

/-!
A cache over time: any number of callers act on any keys in any order, and the clock goes on between
their actions. A timeline keeps what was seen of them. What one action can do is said once, by
`Change`; what holds at every moment follows from it.
-/

namespace BenefitScreen

namespace Timeline

/-- How an update ended. -/
inductive Ending (α : Type) where
  | succeeded (value : α)
  | failed
  | cancelled

/-- What was seen. Updates go by the numbers of their flights. -/
inductive Event (κ α : Type) where
  | served (key : κ) (value : α)
  | started (number : Nat) (key : κ)
  | ended (number : Nat) (key : κ) (ending : Ending α)
  | returned (number : Nat) (key : κ) (value : α)
  | invalidated (key : κ)

/-- What is done next. An action of a flight that cannot take it does nothing. -/
inductive Action (κ α ε : Type) where
  | wait (time : Nat)
  | fetch (key : κ)
  | complete (number : Nat) (result : Except ε α)
  | release (number : Nat)
  | cancel (number : Nat)
  | invalidate (key : κ)

def Ending.ofResult {α ε : Type} : Except ε α → Ending α
  | .ok v => .succeeded v
  | .error _ => .failed

end Timeline

/-- The traffic of a cache at a moment, with all that was seen before, the latest first. -/
structure Timeline (κ α : Type) extends Traffic κ α where
  now : Nat
  events : List (Timeline.Event κ α)

namespace Timeline

variable {κ α ε : Type} [DecidableEq κ]

def new (ttl : Nat) (default : α) : Timeline κ α := ⟨.new ttl default, 0, []⟩

/-- The flight with a number, if its update runs. -/
def running? (s : Timeline κ α) (number : Nat) : Option (Flight κ α) :=
  (s.flight? number).bind fun f => if f.answer.isSome then none else some f

def trafficAfter (s : Timeline κ α) : Action κ α ε → Traffic κ α
  | .wait _ => s.toTraffic
  | .fetch k => (s.begin s.now k).2
  | .complete number result => s.complete s.now number result
  | .release number => (s.release number).2
  | .cancel number => s.cancel number
  | .invalidate k => s.invalidate k

/-- What is seen of an action. -/
def event? (s : Timeline κ α) : Action κ α ε → Option (Event κ α)
  | .wait _ => none
  | .fetch k =>
    match (s.begin s.now k).1 with
    | .served v => some (.served k v)
    | .mustUpdate => some (.started s.started.length k)
  | .complete number result =>
    (s.running? number).map fun f => .ended number f.key (.ofResult result)
  | .release number =>
    (s.flight? number).bind fun f => (s.release number).1.map fun v => .returned number f.key v
  | .cancel number => (s.running? number).map fun f => .ended number f.key .cancelled
  | .invalidate k => some (.invalidated k)

def step (s : Timeline κ α) (a : Action κ α ε) : Timeline κ α where
  toTraffic := s.trafficAfter a
  now := match a with
    | .wait time => s.now + time
    | _ => s.now
  events := (s.event? a).toList ++ s.events

def run (s : Timeline κ α) (actions : List (Action κ α ε)) : Timeline κ α := actions.foldl step s

section Steps

/-! What the step of each action of a caller is made of; proofs cite these and unfold no step -/

variable (s : Timeline κ α)

lemma step_eq_fetch (k : κ) : s.step (.fetch k : Action κ α ε) =
    ⟨(s.begin s.now k).2, s.now, (match (s.begin s.now k).1 with
      | .served v => some (Event.served k v)
      | .mustUpdate => some (.started s.started.length k)).toList ++ s.events⟩ :=
  rfl

lemma step_eq_complete (number : Nat) (result : Except ε α) : s.step (.complete number result) =
    ⟨s.complete s.now number result, s.now,
      ((s.running? number).map fun f => .ended number f.key (.ofResult result)).toList ++
        s.events⟩ :=
  rfl

lemma step_eq_release (number : Nat) : s.step (.release number : Action κ α ε) =
    ⟨(s.release number).2, s.now, ((s.flight? number).bind fun f =>
      (s.release number).1.map fun v => .returned number f.key v).toList ++ s.events⟩ :=
  rfl

lemma step_eq_cancel (number : Nat) : s.step (.cancel number : Action κ α ε) =
    ⟨s.cancel number, s.now,
      ((s.running? number).map fun f => .ended number f.key .cancelled).toList ++ s.events⟩ :=
  rfl

end Steps

end Timeline

namespace Cache

variable {κ α ε : Type} [DecidableEq κ]

/-- One entry of a cache is written and nothing else changes. -/
structure Writes (c : Cache κ α) (k : κ) (e : CacheEntry α) (c' : Cache κ α) : Prop where
  ttl : c'.ttl = c.ttl
  default : c'.default = c.default
  entry : ∀ k', c'.entry k' = if k' = k then e else c.entry k'

lemma writes_put (c : Cache κ α) (k : κ) (e : CacheEntry α) : c.Writes k e (c.put k e) :=
  ⟨rfl, rfl, fun k' => entry_put c k e k'⟩

lemma writes_self {c : Cache κ α} {k : κ} {e : CacheEntry α} (h : c.entry k = e) :
    c.Writes k e c := by
  refine ⟨rfl, rfl, fun k' => ?_⟩
  split
  · rename_i hk
    rw [hk, h]
  · rfl

lemma writes_present (c : Cache κ α) (k : κ) (change : CacheEntry α → CacheEntry α)
    (hempty : change (.empty c.default) = .empty c.default) :
    c.Writes k (change (c.entry k))
      (match c.get? k with
      | some e => c.put k (change e)
      | none => c) := by
  split
  · rename_i e he
    rw [entry_of_get?_eq_some he]
    exact writes_put c k _
  · -- An entry that is not there is as good as an empty one, which the change keeps.
    rename_i he
    rw [entry_of_get?_eq_none he, hempty]
    exact writes_self (entry_of_get?_eq_none he)

lemma writes_release (c : Cache κ α) (k : κ) :
    c.Writes k { c.entry k with refreshing := false } (c.release k) :=
  writes_present c k (fun e => { e with refreshing := false }) rfl

lemma writes_invalidate (c : Cache κ α) (k : κ) :
    c.Writes k { c.entry k with refreshedAt := none } (c.invalidate k) :=
  writes_present c k (fun e => { e with refreshedAt := none }) rfl

lemma Writes.value_self {c c' : Cache κ α} {k : κ} {e : CacheEntry α} (h : c.Writes k e c') :
    c'.value k = e.value := by
  rw [value, h.entry, if_pos rfl]

end Cache

namespace Traffic

variable {κ α : Type} [DecidableEq κ]

lemma begin_of_free {t : Traffic κ α} {now : Nat} {k : κ}
    (hstale : (t.cache.entry k).isFresh t.cache.ttl now = false)
    (hfree : (t.cache.entry k).refreshing = false) :
    t.begin now k = (.mustUpdate,
      ⟨t.cache.put k { t.cache.entry k with refreshing := true },
        ⟨t.started.length, k, none⟩ :: t.flights, k :: t.started⟩) := by
  simp [begin, Cache.begin, hstale, hfree]

lemma begin_of_held {t : Traffic κ α} {now : Nat} {k : κ}
    (h : (t.cache.entry k).isFresh t.cache.ttl now = true ∨ (t.cache.entry k).refreshing = true) :
    t.begin now k = (.served (t.cache.value k),
      { t with cache := t.cache.put k (t.cache.entry k) }) := by
  have hb : ((t.cache.entry k).isFresh t.cache.ttl now || (t.cache.entry k).refreshing) = true :=
    Bool.or_eq_true_iff.mpr h
  simp [begin, Cache.begin, hb, Cache.value]

omit [DecidableEq κ] in
lemma mem_of_flight? {t : Traffic κ α} {number : Nat} {f : Flight κ α}
    (h : t.flight? number = some f) : f ∈ t.flights ∧ f.number = number :=
  ⟨List.mem_of_find?_eq_some h, by simpa using List.find?_some h⟩

end Traffic

namespace Timeline

variable {κ α ε : Type} [DecidableEq κ]

/-- What an action does. Each case but the first is seen, as another event. -/
inductive Change (s : Timeline κ α) : Timeline κ α → Prop where
  | idle (now : Nat) (hnow : s.now ≤ now) : Change s { s with now }
  | served (k : κ) (c : Cache κ α) (hc : s.cache.Writes k (s.cache.entry k) c) :
    Change s ⟨⟨c, s.flights, s.started⟩, s.now, .served k (s.cache.value k) :: s.events⟩
  | started (k : κ) (c : Cache κ α)
    (hstale : (s.cache.entry k).isFresh s.cache.ttl s.now = false)
    (hfree : (s.cache.entry k).refreshing = false)
    (hc : s.cache.Writes k { s.cache.entry k with refreshing := true } c) :
    Change s ⟨⟨c, ⟨s.started.length, k, none⟩ :: s.flights, k :: s.started⟩, s.now,
      .started s.started.length k :: s.events⟩
  | succeeded (f : Flight κ α) (v : α) (c : Cache κ α) (hf : f ∈ s.flights) (hrun : f.answer = none)
    (hc : s.cache.Writes f.key
      { s.cache.entry f.key with value := v, refreshedAt := some s.now } c) :
    Change s ⟨⟨c, s.flights.map (·.answering f.number v), s.started⟩, s.now,
      .ended f.number f.key (.succeeded v) :: s.events⟩
  | failed (f : Flight κ α) (c : Cache κ α) (hf : f ∈ s.flights) (hrun : f.answer = none)
    (hc : s.cache.Writes f.key (s.cache.entry f.key) c) :
    Change s ⟨⟨c, s.flights.map (·.answering f.number (s.cache.value f.key)), s.started⟩, s.now,
      .ended f.number f.key .failed :: s.events⟩
  | returned (f : Flight κ α) (v : α) (c : Cache κ α) (hf : f ∈ s.flights) (hv : f.answer = some v)
    (hc : s.cache.Writes f.key { s.cache.entry f.key with refreshing := false } c) :
    Change s ⟨⟨c, s.flights.filter fun g => g.number != f.number, s.started⟩, s.now,
      .returned f.number f.key v :: s.events⟩
  | cancelled (f : Flight κ α) (c : Cache κ α) (hf : f ∈ s.flights) (hrun : f.answer = none)
    (hc : s.cache.Writes f.key { s.cache.entry f.key with refreshing := false } c) :
    Change s ⟨⟨c, s.flights.filter fun g => g.number != f.number, s.started⟩, s.now,
      .ended f.number f.key .cancelled :: s.events⟩
  | invalidated (k : κ) (c : Cache κ α)
    (hc : s.cache.Writes k { s.cache.entry k with refreshedAt := none } c) :
    Change s ⟨⟨c, s.flights, s.started⟩, s.now, .invalidated k :: s.events⟩

lemma change_of_idle {s : Timeline κ α} {a : Action κ α ε} (h : s.step a = s) :
    Change s (s.step a) := by
  rw [h]
  exact .idle s.now (Nat.le_refl _)

lemma change_fetch (s : Timeline κ α) (k : κ) : Change s (s.step (.fetch k : Action κ α ε)) := by
  by_cases h : (s.cache.entry k).isFresh s.cache.ttl s.now = true ∨
      (s.cache.entry k).refreshing = true
  · have hstep : s.step (.fetch k : Action κ α ε) =
        ⟨⟨s.cache.put k (s.cache.entry k), s.flights, s.started⟩, s.now,
          .served k (s.cache.value k) :: s.events⟩ := by
      simp [step_eq_fetch, Traffic.begin_of_held h]
    rw [hstep]
    exact .served k _ (Cache.writes_put _ _ _)
  · rw [not_or, Bool.not_eq_true, Bool.not_eq_true] at h
    obtain ⟨hstale, hfree⟩ := h
    have hstep : s.step (.fetch k : Action κ α ε) =
        ⟨⟨s.cache.put k { s.cache.entry k with refreshing := true },
          ⟨s.started.length, k, none⟩ :: s.flights, k :: s.started⟩, s.now,
          .started s.started.length k :: s.events⟩ := by
      simp [step_eq_fetch, Traffic.begin_of_free hstale hfree]
    rw [hstep]
    exact .started k _ hstale hfree (Cache.writes_put _ _ _)

/-! An action of a flight that can take it -/

lemma step_complete {s : Timeline κ α} {f : Flight κ α} (hf : s.flight? f.number = some f)
    (hrun : f.answer = none) (result : Except ε α) :
    let c := s.cache.store s.now f.key result
    s.step (.complete f.number result) =
      ⟨⟨c, s.flights.map (·.answering f.number (c.value f.key)), s.started⟩, s.now,
        .ended f.number f.key (.ofResult result) :: s.events⟩ := by
  simp [step_eq_complete, running?, Traffic.complete, hf, hrun]

lemma step_release {s : Timeline κ α} {f : Flight κ α} {v : α}
    (hf : s.flight? f.number = some f) (hv : f.answer = some v) :
    s.step (.release f.number : Action κ α ε) =
      ⟨s.leave f, s.now, .returned f.number f.key v :: s.events⟩ := by
  simp [step_eq_release, Traffic.release, hf, hv]

lemma step_cancel {s : Timeline κ α} {f : Flight κ α} (hf : s.flight? f.number = some f)
    (hrun : f.answer = none) :
    s.step (.cancel f.number : Action κ α ε) =
      ⟨s.leave f, s.now, .ended f.number f.key .cancelled :: s.events⟩ := by
  simp [step_eq_cancel, running?, Traffic.cancel, hf, hrun]

lemma change_complete (s : Timeline κ α) (number : Nat) (result : Except ε α) :
    Change s (s.step (.complete number result)) := by
  cases hf : s.flight? number with
  | none =>
    exact change_of_idle (by simp [step_eq_complete, running?, Traffic.complete, hf])
  | some f =>
    obtain ⟨hmem, rfl⟩ := Traffic.mem_of_flight? hf
    cases hrun : f.answer with
    | some v =>
      exact change_of_idle
        (by simp [step_eq_complete, running?, Traffic.complete, hf, hrun])
    | none =>
      rw [step_complete hf hrun]
      cases result with
      | ok v =>
        have hc := Cache.writes_put s.cache f.key
          { s.cache.entry f.key with value := v, refreshedAt := some s.now }
        rw [Cache.store, hc.value_self]
        exact .succeeded f v _ hmem hrun hc
      | error e =>
        have hc := Cache.writes_put s.cache f.key (s.cache.entry f.key)
        rw [Cache.store, hc.value_self]
        exact .failed f _ hmem hrun hc

lemma change_release (s : Timeline κ α) (number : Nat) :
    Change s (s.step (.release number : Action κ α ε)) := by
  cases hf : s.flight? number with
  | none =>
    exact change_of_idle (by simp [step_eq_release, Traffic.release, hf])
  | some f =>
    obtain ⟨hmem, rfl⟩ := Traffic.mem_of_flight? hf
    cases hanswer : f.answer with
    | none =>
      exact change_of_idle (by simp [step_eq_release, Traffic.release, hf, hanswer])
    | some v =>
      rw [step_release hf hanswer]
      exact .returned f v _ hmem hanswer (Cache.writes_release _ _)

lemma change_cancel (s : Timeline κ α) (number : Nat) :
    Change s (s.step (.cancel number : Action κ α ε)) := by
  cases hf : s.flight? number with
  | none =>
    exact change_of_idle (by simp [step_eq_cancel, running?, Traffic.cancel, hf])
  | some f =>
    obtain ⟨hmem, rfl⟩ := Traffic.mem_of_flight? hf
    cases hrun : f.answer with
    | some v =>
      exact change_of_idle
        (by simp [step_eq_cancel, running?, Traffic.cancel, hf, hrun])
    | none =>
      rw [step_cancel hf hrun]
      exact .cancelled f _ hmem hrun (Cache.writes_release _ _)

theorem change_step (s : Timeline κ α) (a : Action κ α ε) : Change s (s.step a) := by
  cases a with
  | wait time => exact .idle (s.now + time) (Nat.le_add_right _ _)
  | fetch k => exact change_fetch s k
  | complete number result => exact change_complete s number result
  | release number => exact change_release s number
  | cancel number => exact change_cancel s number
  | invalidate k => exact .invalidated k _ (Cache.writes_invalidate _ _)

/-- What every change keeps holds at every moment. -/
theorem run_induction {p : Timeline κ α → Prop} {s : Timeline κ α} (hstart : p s)
    (hchange : ∀ s t, p s → Change s t → p t) (actions : List (Action κ α ε)) :
    p (s.run actions) := by
  induction actions generalizing s with
  | nil => exact hstart
  | cons a actions ih => exact ih (hchange s (s.step a) hstart (change_step s a))

end Timeline

end BenefitScreen
