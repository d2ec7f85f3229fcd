import BenefitScreen.Proofs.SingleFlight

/-!
What a cache holds over time. The value under a key comes from the update of it that started last of
those that succeeded, and an update that fails or is given up leaves the entry due for another one.
-/

namespace BenefitScreen

lemma CacheEntry.isFresh_later {α : Type} {e : CacheEntry α} {ttl now later : Nat}
    (h : e.isFresh ttl now = false) (hle : now ≤ later) : e.isFresh ttl later = false := by
  unfold isFresh at h ⊢
  cases hat : e.refreshedAt with
  | none => rfl
  | some moment =>
    rw [hat] at h
    simp only [Option.any_some, decide_eq_false_iff_not] at h ⊢
    omega

namespace Timeline

variable {κ α ε : Type}

def Event.start? : Event κ α → Option Nat
  | .started n _ => some n
  | _ => none

/-- What was seen of a caller that updates an entry: it is the last that started on its key, and the
ones before it have ended. -/
structure Recorded (events : List (Event κ α)) (f : Flight κ α) : Prop where
  started : .started f.number f.key ∈ events
  newest : ∀ n, .started n f.key ∈ events → n ≤ f.number
  earlier : f.answer = none → ∀ n o, .ended n f.key o ∈ events → n < f.number

/-- What holds of the events at every moment. -/
structure History (s : Timeline κ α) : Prop where
  numbers : s.events.filterMap Event.start? = (List.range s.started.length).reverse
  began : ∀ n k o, .ended n k o ∈ s.events → .started n k ∈ s.events
  flights : ∀ f ∈ s.flights, Recorded s.events f

lemma History.lt_of_started {s : Timeline κ α} (h : History s) {n : Nat} {k : κ}
    (hn : .started n k ∈ s.events) : n < s.started.length := by
  have hmem : n ∈ s.events.filterMap Event.start? := List.mem_filterMap.mpr ⟨_, hn, rfl⟩
  rw [h.numbers, List.mem_reverse] at hmem
  exact List.mem_range.mp hmem

/-- Events of other keys, and those that start or end nothing, change no record. -/
lemma Recorded.cons {events : List (Event κ α)} {f : Flight κ α} (h : Recorded events f)
    {e : Event κ α} (hstart : ∀ n, e ≠ .started n f.key) (hend : ∀ n o, e ≠ .ended n f.key o) :
    Recorded (e :: events) f where
  started := List.mem_cons_of_mem _ h.started
  newest n hn := h.newest n ((List.mem_cons.mp hn).resolve_left fun he => hstart n he.symm)
  earlier hrun n o hn :=
    h.earlier hrun n o ((List.mem_cons.mp hn).resolve_left fun he => hend n o he.symm)

lemma Recorded.answering {events : List (Event κ α)} {f : Flight κ α} (h : Recorded events f)
    (o : Ending α) (v : α) :
    Recorded (.ended f.number f.key o :: events) { f with answer := some v } where
  started := List.mem_cons_of_mem _ h.started
  newest n hn := h.newest n ((List.mem_cons.mp hn).resolve_left fun he => by cases he)
  earlier hrun := by cases hrun

lemma History.start {s : Timeline κ α} (h : History s) {k : κ} {c : Cache κ α}
    (hk : ∀ f ∈ s.flights, f.key ≠ k) :
    History ⟨⟨c, ⟨s.started.length, k, none⟩ :: s.flights, k :: s.started⟩, s.now,
      .started s.started.length k :: s.events⟩ where
  numbers := by
    have hstart : Event.start? (.started s.started.length k : Event κ α) =
      some s.started.length := rfl
    show (Event.started s.started.length k :: s.events).filterMap Event.start? =
      (List.range (s.started.length + 1)).reverse
    rw [List.filterMap_cons_some hstart, h.numbers, List.range_succ, List.reverse_append]
    rfl
  began n j o hn := by
    rcases List.mem_cons.mp hn with he | hn
    · cases he
    · exact List.mem_cons_of_mem _ (h.began n j o hn)
  flights g hg := by
    rcases List.mem_cons.mp hg with rfl | hg
    · refine ⟨List.mem_cons_self, fun n hn => ?_, fun _ n o hn => ?_⟩
      · rcases List.mem_cons.mp hn with he | hn
        · cases he
          exact Nat.le_refl _
        · exact Nat.le_of_lt (h.lt_of_started hn)
      · rcases List.mem_cons.mp hn with he | hn
        · cases he
        · exact h.lt_of_started (h.began n k o hn)
    · refine (h.flights g hg).cons (fun n he => ?_) (fun n o he => by cases he)
      rw [Event.started.injEq] at he
      exact hk g hg he.2.symm

/-- An update ends; the flights that go on are those of other keys and, if it stays, its own. -/
lemma History.ending {s : Timeline κ α} (h : History s) {f : Flight κ α} (hf : f ∈ s.flights)
    {o : Ending α} {c : Cache κ α} {flights : List (Flight κ α)}
    (hflights : ∀ g ∈ flights, (g ∈ s.flights ∧ g.key ≠ f.key) ∨
      ∃ v, g = { f with answer := some v }) :
    History ⟨⟨c, flights, s.started⟩, s.now, .ended f.number f.key o :: s.events⟩ where
  numbers := h.numbers
  began n k o' hn := by
    rcases List.mem_cons.mp hn with he | hn
    · cases he
      exact List.mem_cons_of_mem _ (h.flights f hf).started
    · exact List.mem_cons_of_mem _ (h.began n k o' hn)
  flights g hg := by
    rcases hflights g hg with ⟨hg, hkey⟩ | ⟨v, rfl⟩
    · refine (h.flights g hg).cons (fun n he => by cases he) (fun n o' he => ?_)
      rw [Event.ended.injEq] at he
      exact hkey he.2.1.symm
    · exact (h.flights f hf).answering o v

lemma History.other {s : Timeline κ α} (h : History s) {e : Event κ α}
    (hstart : ∀ n k, e ≠ .started n k) (hend : ∀ n k o, e ≠ .ended n k o) {c : Cache κ α}
    {flights : List (Flight κ α)} (hflights : ∀ f ∈ flights, f ∈ s.flights) :
    History ⟨⟨c, flights, s.started⟩, s.now, e :: s.events⟩ where
  numbers := by
    have he : Event.start? e = none := by
      cases e with
      | started n k => exact (hstart n k rfl).elim
      | _ => rfl
    rw [List.filterMap_cons_none he]
    exact h.numbers
  began n k o hn := List.mem_cons_of_mem _
    (h.began n k o ((List.mem_cons.mp hn).resolve_left fun he => hend n k o he.symm))
  flights f hf := (h.flights f (hflights f hf)).cons (fun n => hstart n f.key)
    (fun n o => hend n f.key o)

lemma history_new (ttl : Nat) (default : α) : History (new ttl default : Timeline κ α) where
  numbers := rfl
  began _ _ _ h := by cases h
  flights _ h := by cases h

variable [DecidableEq κ]

lemma mem_answering {s : Timeline κ α} (hs : s.toTraffic.Consistent) {f : Flight κ α}
    (hf : f ∈ s.flights) {v : α} {g : Flight κ α}
    (hg : g ∈ s.flights.map (·.answering f.number v)) :
    (g ∈ s.flights ∧ g.key ≠ f.key) ∨ g = { f with answer := some v } := by
  obtain ⟨x, hx, rfl⟩ := List.mem_map.mp hg
  unfold Flight.answering
  split
  · rename_i hnumber
    rw [hs.eq_of_number hx hf hnumber]
    exact .inr rfl
  · rename_i hnumber
    exact .inl ⟨hx, fun hkey => hnumber (congrArg Flight.number (hs.eq_of_key hx hf hkey))⟩

lemma mem_leave {s : Timeline κ α} (hs : s.toTraffic.Consistent) {f : Flight κ α}
    (hf : f ∈ s.flights) {g : Flight κ α}
    (hg : g ∈ s.flights.filter fun x => x.number != f.number) : g ∈ s.flights ∧ g.key ≠ f.key := by
  obtain ⟨hg, hnumber⟩ := List.mem_filter.mp hg
  refine ⟨hg, fun hkey => ?_⟩
  rw [hs.eq_of_key hg hf hkey] at hnumber
  simp at hnumber

lemma Change.history {s t : Timeline κ α} (h : Change s t) (hs : s.toTraffic.Consistent)
    (hh : History s) : History t := by
  cases h with
  | idle => exact ⟨hh.numbers, hh.began, hh.flights⟩
  | served => exact hh.other (by simp) (by simp) fun _ hf => hf
  | started k c _ hfree hc =>
    refine hh.start fun f hf hkey => ?_
    rw [← hkey, hs.refreshing_of_mem hf] at hfree
    cases hfree
  | succeeded f v c hf _ hc =>
    exact hh.ending hf fun g hg => (mem_answering hs hf hg).imp_right fun he => ⟨_, he⟩
  | failed f c hf _ hc =>
    exact hh.ending hf fun g hg => (mem_answering hs hf hg).imp_right fun he => ⟨_, he⟩
  | returned => exact hh.other (by simp) (by simp) fun _ hf => (List.mem_filter.mp hf).1
  | cancelled f c hf _ hc => exact hh.ending hf fun g hg => .inl (mem_leave hs hf hg)
  | invalidated => exact hh.other (by simp) (by simp) fun _ hf => hf

/-- Whether a fetch of a key that nobody updates would update it. -/
def Stale (s : Timeline κ α) (k : κ) : Prop :=
  (s.cache.entry k).isFresh s.cache.ttl s.now = false

/-- A write that leaves the age of an entry alone leaves what is stale. -/
lemma Stale.write {s t : Timeline κ α} {k j : κ} {e : CacheEntry α} (h : s.Stale j)
    (hc : s.cache.Writes k e t.cache) (he : e.refreshedAt = (s.cache.entry k).refreshedAt)
    (hnow : t.now = s.now) : t.Stale j := by
  have hsame := hc.same (fun e => e.isFresh s.cache.ttl s.now)
    (by simp only [CacheEntry.isFresh, he]) j
  rw [Stale, hc.ttl, hnow]
  exact hsame.trans h

/-- Only a success makes an entry fresh, and an invalidation makes it stale. -/
lemma Change.stale {s t : Timeline κ α} (h : Change s t) {k : κ}
    (hk : s.Stale k ∨ t.events = .invalidated k :: s.events) :
    t.Stale k ∨ ∃ n v, t.events = .ended n k (.succeeded v) :: s.events := by
  cases h with
  | idle now hnow =>
    rcases hk with hk | he
    · exact .inl (CacheEntry.isFresh_later hk hnow)
    · exact absurd he.symm (List.cons_ne_self _ _)
  | served j c hc => exact .inl ((hk.resolve_right (by simp)).write hc rfl rfl)
  | started j c _ _ hc => exact .inl ((hk.resolve_right (by simp)).write hc rfl rfl)
  | succeeded f v c _ _ hc =>
    have hold : s.Stale k := hk.resolve_right (by simp)
    by_cases hkey : k = f.key
    · subst hkey
      exact .inr ⟨f.number, v, rfl⟩
    · left
      show (c.entry k).isFresh c.ttl s.now = false
      rw [hc.other hkey, hc.ttl]
      exact hold
  | failed f c _ _ hc => exact .inl ((hk.resolve_right (by simp)).write hc rfl rfl)
  | returned f v c _ _ hc => exact .inl ((hk.resolve_right (by simp)).write hc rfl rfl)
  | cancelled f c _ _ hc => exact .inl ((hk.resolve_right (by simp)).write hc rfl rfl)
  | invalidated j c hc =>
    left
    show (c.entry k).isFresh c.ttl s.now = false
    rw [hc.entry, hc.ttl]
    split
    · rfl
    · rename_i hne
      rcases hk with hk | he
      · exact hk
      · cases he
        exact (hne rfl).elim

lemma Change.events {s t : Timeline κ α} (h : Change s t) :
    t.events = s.events ∨ ∃ e, t.events = e :: s.events := by
  cases h with
  | idle => exact .inl rfl
  | _ => exact .inr ⟨_, rfl⟩

lemma Change.events_subset {s t : Timeline κ α} (h : Change s t) : s.events ⊆ t.events := by
  intro x hx
  rcases h.events with he | ⟨e, he⟩
  · rwa [he]
  · rw [he]
    exact List.mem_cons_of_mem _ hx

lemma Change.mem_events {s t : Timeline κ α} (h : Change s t) {x : Event κ α}
    (hx : x ∈ t.events) : x ∈ s.events ∨ t.events = x :: s.events := by
  rcases h.events with he | ⟨e, he⟩
  · exact .inl (he ▸ hx)
  · rw [he] at hx ⊢
    exact (List.mem_cons.mp hx).symm.imp_right fun hxe => by rw [hxe]

lemma Change.flight_of_ended {s t : Timeline κ α} (h : Change s t) {n : Nat} {k : κ}
    {o : Ending α} (he : t.events = .ended n k o :: s.events) :
    ∃ f ∈ s.flights, f.answer = none ∧ f.number = n ∧ f.key = k := by
  cases h with
  | succeeded f v c hf hrun hc =>
    cases he
    exact ⟨f, hf, hrun, rfl, rfl⟩
  | failed f c hf hrun hc =>
    cases he
    exact ⟨f, hf, hrun, rfl, rfl⟩
  | cancelled f c hf hrun hc =>
    cases he
    exact ⟨f, hf, hrun, rfl, rfl⟩
  | idle => exact absurd he.symm (List.cons_ne_self _ _)
  | _ => simp at he

/-- A success of a key writes its value and age; else its age changes by an invalidation only. -/
lemma Change.value {s t : Timeline κ α} (h : Change s t) (k : κ) :
    (∃ n v, t.events = .ended n k (.succeeded v) :: s.events ∧ t.cache.value k = v) ∨
      ((∀ n v, t.events ≠ .ended n k (.succeeded v) :: s.events) ∧
        t.cache.value k = s.cache.value k ∧
        ((t.cache.entry k).refreshedAt = (s.cache.entry k).refreshedAt ∨
          t.events = .invalidated k :: s.events)) := by
  cases h with
  | idle => exact .inr ⟨fun n v he => absurd he.symm (List.cons_ne_self _ _), rfl, .inl rfl⟩
  | served j c hc =>
    exact .inr ⟨by simp, hc.same (·.value) rfl k, .inl (hc.same (·.refreshedAt) rfl k)⟩
  | started j c _ _ hc =>
    exact .inr ⟨by simp, hc.same (·.value) rfl k, .inl (hc.same (·.refreshedAt) rfl k)⟩
  | succeeded f v c _ _ hc =>
    by_cases hkey : k = f.key
    · subst hkey
      exact .inl ⟨f.number, v, rfl, hc.value_self⟩
    · refine .inr ⟨fun n w he => ?_, congrArg (·.value) (hc.other hkey),
        .inl (congrArg (·.refreshedAt) (hc.other hkey))⟩
      simp only [List.cons.injEq, Event.ended.injEq, and_true] at he
      exact hkey he.2.1.symm
  | failed f c _ _ hc =>
    exact .inr ⟨by simp, hc.same (·.value) rfl k, .inl (hc.same (·.refreshedAt) rfl k)⟩
  | returned f v c _ _ hc =>
    exact .inr ⟨by simp, hc.same (·.value) rfl k, .inl (hc.same (·.refreshedAt) rfl k)⟩
  | cancelled f c _ _ hc =>
    exact .inr ⟨by simp, hc.same (·.value) rfl k, .inl (hc.same (·.refreshedAt) rfl k)⟩
  | invalidated j c hc =>
    refine .inr ⟨by simp, hc.same (·.value) rfl k, ?_⟩
    by_cases hkey : k = j
    · exact .inr (by rw [hkey])
    · exact .inl (congrArg (·.refreshedAt) (hc.other hkey))

/-- The value under a key is the one of the last started among the updates that succeeded, or the
default if none did. -/
def HoldsLatest (default : α) (s : Timeline κ α) (k : κ) : Prop :=
  (∀ n v, .ended n k (.succeeded v) ∉ s.events) ∧ s.cache.value k = default ∨
    ∃ n, .ended n k (.succeeded (s.cache.value k)) ∈ s.events ∧
      ∀ m w, .ended m k (.succeeded w) ∈ s.events → m ≤ n

lemma Change.holdsLatest {s t : Timeline κ α} (h : Change s t) (hh : History s) {default : α}
    {k : κ} (hk : HoldsLatest default s k) : HoldsLatest default t k := by
  rcases h.value k with ⟨n, v, he, hv⟩ | ⟨hother, hv, _⟩
  · obtain ⟨f, hf, hrun, rfl, rfl⟩ := h.flight_of_ended he
    right
    rw [hv, he]
    refine ⟨f.number, List.mem_cons_self, fun m w hm => ?_⟩
    rcases List.mem_cons.mp hm with hnew | hold
    · cases hnew
      exact Nat.le_refl _
    · exact Nat.le_of_lt ((hh.flights f hf).earlier hrun m _ hold)
  · have hsame : ∀ m w, .ended m k (.succeeded w) ∈ t.events ↔
        .ended m k (.succeeded w) ∈ s.events := fun m w =>
      ⟨fun hm => (h.mem_events hm).resolve_right (hother m w), fun hm => h.events_subset hm⟩
    simp only [HoldsLatest, hsame, hv]
    exact hk

/-- What holds at every moment of the values that callers get and of the entries they update. -/
structure Faithful (default : α) (s : Timeline κ α) : Prop where
  latest : ∀ k, HoldsLatest default s k
  answer : ∀ f ∈ s.flights, ∀ v, f.answer = some v → s.cache.value f.key = v
  running : ∀ f ∈ s.flights, f.answer = none → s.Stale f.key
  due : ∀ n k o, .ended n k o ∈ s.events → (∀ v, o ≠ .succeeded v) →
    (∀ m, .started m k ∈ s.events → m ≤ n) → s.Stale k

lemma faithful_new (ttl : Nat) (default : α) :
    Faithful default (new ttl default : Timeline κ α) where
  latest _ := .inl ⟨fun _ _ h => (nomatch h), rfl⟩
  answer _ h := nomatch h
  running _ h := nomatch h
  due _ _ _ h := nomatch h

lemma Change.answer {s t : Timeline κ α} (h : Change s t) (hs : s.toTraffic.Consistent)
    (hanswer : ∀ f ∈ s.flights, ∀ v, f.answer = some v → s.cache.value f.key = v) :
    ∀ f ∈ t.flights, ∀ v, f.answer = some v → t.cache.value f.key = v := by
  intro f hf v hv
  cases h with
  | idle => exact hanswer f hf v hv
  | served k c hc => exact (hc.same (·.value) rfl f.key).trans (hanswer f hf v hv)
  | started k c _ _ hc =>
    rcases List.mem_cons.mp hf with rfl | hf
    · cases hv
    · exact (hc.same (·.value) rfl f.key).trans (hanswer f hf v hv)
  | succeeded g w c hg _ hc =>
    rcases mem_answering hs hg hf with ⟨hf, hkey⟩ | rfl
    · exact (congrArg (·.value) (hc.other hkey)).trans (hanswer f hf v hv)
    · cases hv
      exact hc.value_self
  | failed g c hg _ hc =>
    rcases mem_answering hs hg hf with ⟨hf, _⟩ | rfl
    · exact (hc.same (·.value) rfl f.key).trans (hanswer f hf v hv)
    · cases hv
      exact hc.value_self
  | returned g w c hg _ hc =>
    exact (hc.same (·.value) rfl f.key).trans (hanswer f (mem_leave hs hg hf).1 v hv)
  | cancelled g c hg _ hc =>
    exact (hc.same (·.value) rfl f.key).trans (hanswer f (mem_leave hs hg hf).1 v hv)
  | invalidated k c hc => exact (hc.same (·.value) rfl f.key).trans (hanswer f hf v hv)

/-- Where an update runs, its entry was stale before, and the change is not its success. -/
lemma Change.running {s t : Timeline κ α} (h : Change s t) (hs : s.toTraffic.Consistent)
    (hrunning : ∀ f ∈ s.flights, f.answer = none → s.Stale f.key) :
    ∀ f ∈ t.flights, f.answer = none →
      s.Stale f.key ∧ ∀ n v, t.events ≠ .ended n f.key (.succeeded v) :: s.events := by
  intro f hf hrun
  cases h with
  | idle => exact ⟨hrunning f hf hrun, fun n v he => absurd he.symm (List.cons_ne_self _ _)⟩
  | served => exact ⟨hrunning f hf hrun, by simp⟩
  | started k c hstale =>
    rcases List.mem_cons.mp hf with rfl | hf
    · exact ⟨hstale, by simp⟩
    · exact ⟨hrunning f hf hrun, by simp⟩
  | succeeded g w c hg =>
    rcases mem_answering hs hg hf with ⟨hf, hkey⟩ | rfl
    · refine ⟨hrunning f hf hrun, fun n v he => ?_⟩
      simp only [List.cons.injEq, Event.ended.injEq, and_true] at he
      exact hkey he.2.1.symm
    · cases hrun
  | failed g c hg =>
    rcases mem_answering hs hg hf with ⟨hf, _⟩ | rfl
    · exact ⟨hrunning f hf hrun, by simp⟩
    · cases hrun
  | returned g w c hg => exact ⟨hrunning f (mem_leave hs hg hf).1 hrun, by simp⟩
  | cancelled g c hg => exact ⟨hrunning f (mem_leave hs hg hf).1 hrun, by simp⟩
  | invalidated => exact ⟨hrunning f hf hrun, by simp⟩

lemma Change.faithful {s t : Timeline κ α} (h : Change s t) (hs : s.toTraffic.Consistent)
    (hh : History s) {default : α} (hf : Faithful default s) : Faithful default t where
  latest k := h.holdsLatest hh (hf.latest k)
  answer := h.answer hs hf.answer
  running f hmem hrun := by
    obtain ⟨hstale, hother⟩ := h.running hs hf.running f hmem hrun
    exact (h.stale (.inl hstale)).resolve_right fun ⟨n, v, he⟩ => hother n v he
  due n k o hended ho hnewest := by
    rcases h.mem_events hended with hold | hnew
    · have hnewest' : ∀ m, .started m k ∈ s.events → m ≤ n := fun m hm =>
        hnewest m (h.events_subset hm)
      have hstale := hf.due n k o hold ho hnewest'
      refine (h.stale (.inl hstale)).resolve_right fun ⟨m, v, he⟩ => ?_
      -- A success now would be of a later update, and this is the last one.
      obtain ⟨f, hmem, hrun, rfl, rfl⟩ := h.flight_of_ended he
      have hlater := (hh.flights f hmem).earlier hrun n o hold
      have hle := hnewest' f.number (hh.flights f hmem).started
      omega
    · obtain ⟨f, hmem, hrun, rfl, rfl⟩ := h.flight_of_ended hnew
      refine (h.stale (.inl (hf.running f hmem hrun))).resolve_right fun ⟨m, v, he⟩ => ?_
      rw [hnew] at he
      cases he
      exact ho v rfl

lemma invariants_run (ttl : Nat) (default : α) (actions : List (Action κ α ε)) :
    let s := (new ttl default).run actions
    s.toTraffic.Consistent ∧ History s ∧ Faithful default s :=
  run_induction (p := fun s => s.toTraffic.Consistent ∧ History s ∧ Faithful default s)
    ⟨consistent_new ttl default, history_new ttl default, faithful_new ttl default⟩
    (fun _ _ ⟨hs, hh, hf⟩ h => ⟨h.consistent hs, h.history hs hh, h.faithful hs hh hf⟩) actions

lemma events_step_of_seen {s : Timeline κ α} {a : Action κ α ε} {e : Event κ α}
    (h : s.event? a = some e) : (s.step a).events = e :: s.events := by
  simp [step, h]

lemma seen_of_events_step {s : Timeline κ α} {a : Action κ α ε} {e : Event κ α}
    (h : (s.step a).events = e :: s.events) : s.event? a = some e := by
  cases hseen : s.event? a with
  | none => simp [step, hseen] at h
  | some x => simpa [step, hseen] using h

lemma Change.gets_stored {s t : Timeline κ α} (h : Change s t)
    (hanswer : ∀ f ∈ s.flights, ∀ v, f.answer = some v → s.cache.value f.key = v) {k : κ} {v : α}
    (he : t.events = .served k v :: s.events ∨ ∃ n, t.events = .returned n k v :: s.events) :
    s.cache.value k = v ∧ t.cache.value k = v := by
  cases h with
  | idle =>
    rcases he with he | ⟨n, he⟩
    · exact absurd he.symm (List.cons_ne_self _ _)
    · exact absurd he.symm (List.cons_ne_self _ _)
  | served j c hc =>
    rcases he with he | ⟨n, he⟩
    · cases he
      exact ⟨rfl, hc.value_self⟩
    · cases he
  | returned f w c hf hw hc =>
    rcases he with he | ⟨n, he⟩
    · cases he
    · cases he
      have hstored := hanswer f hf v hw
      exact ⟨hstored, (hc.same (·.value) rfl f.key).trans hstored⟩
  | _ => simp at he

lemma begin_of_stale {s : Timeline κ α} (hs : s.toTraffic.Consistent) {k : κ}
    (hstale : s.Stale k) (hfree : ∀ f ∈ s.flights, f.key ≠ k) :
    (s.begin s.now k).1 = .mustUpdate := by
  have hmark : (s.cache.entry k).refreshing = false := by
    rw [← Bool.not_eq_true, hs.marked k]
    intro hmem
    obtain ⟨f, hf, hkey⟩ := List.mem_map.mp hmem
    exact hfree f hf hkey
  rw [Traffic.begin_of_free hstale hmark]

/-- However callers act: updates are numbered as they start, and the value under a key is the one of
the last of those that succeeded; every fetch gets the value that is stored when it is served or
returns; only a success writes a value, and only a success or an invalidation writes the age of an
entry; and after an update that did not succeed the next fetch that finds none under way starts
another. -/
theorem stored_values (ttl : Nat) (default : α) (actions : List (Action κ α ε)) :
    let s := (new ttl default).run actions
    s.events.filterMap Event.start? = (List.range s.started.length).reverse ∧
      (∀ k, HoldsLatest default s k) ∧
      (∀ (a : Action κ α ε) k v,
        (s.event? a = some (.served k v) ∨ ∃ n, s.event? a = some (.returned n k v)) →
        s.cache.value k = v ∧ (s.step a).cache.value k = v) ∧
      (∀ (a : Action κ α ε) k, (∀ n v, s.event? a ≠ some (.ended n k (.succeeded v))) →
        (s.step a).cache.value k = s.cache.value k ∧
          (s.event? a ≠ some (.invalidated k) →
            ((s.step a).cache.entry k).refreshedAt = (s.cache.entry k).refreshedAt)) ∧
      ∀ n k o, .ended n k o ∈ s.events → (∀ v, o ≠ .succeeded v) →
        (∀ m, .started m k ∈ s.events → m ≤ n) → (∀ f ∈ s.flights, f.key ≠ k) →
        (s.begin s.now k).1 = .mustUpdate := by
  intro s
  obtain ⟨hs, hh, hf⟩ := invariants_run ttl default actions
  refine ⟨hh.numbers, hf.latest, ?_, ?_, ?_⟩
  · intro a k v hseen
    refine (change_step s a).gets_stored hf.answer ?_
    exact hseen.imp events_step_of_seen fun ⟨n, hn⟩ => ⟨n, events_step_of_seen hn⟩
  · intro a k hother
    have hkept := ((change_step s a).value k).resolve_left fun ⟨n, v, he, _⟩ =>
      hother n v (seen_of_events_step he)
    obtain ⟨_, hvalue, hage⟩ := hkept
    exact ⟨hvalue, fun hno => hage.resolve_right fun he => hno (seen_of_events_step he)⟩
  · intro n k o hended ho hnewest hfree
    exact begin_of_stale hs (hf.due n k o hended ho hnewest) hfree

theorem failed_update_retried :
    let s := (new 60 [] : Timeline String (List Nat)).run
      [.fetch "CO", .complete 0 (.error "offline"), .release 0]
    (s.begin s.now "CO").1 = .mustUpdate := by
  intro s
  have hevents : s.events = [.returned 0 "CO" [], .ended 0 "CO" .failed, .started 0 "CO"] := rfl
  have hfailed : .ended 0 "CO" .failed ∈ s.events := by simp [hevents]
  have hnewest : ∀ m, .started m "CO" ∈ s.events → m ≤ 0 := by
    intro m hm
    have hm : m = 0 := by simpa [hevents] using hm
    exact Nat.le_of_eq hm
  obtain ⟨-, -, -, -, hretry⟩ := stored_values 60 []
    [(.fetch "CO" : Action String (List Nat) String), .complete 0 (.error "offline"), .release 0]
  exact hretry 0 "CO" .failed hfailed (fun v h => nomatch h) hnewest fun f hf => nomatch hf

end Timeline

end BenefitScreen
