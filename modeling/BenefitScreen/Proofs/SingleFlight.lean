import BenefitScreen.Proofs.Lookup
import BenefitScreen.Proofs.Timeline

/-!
One update of an entry at a time. The mark of an entry stands for one caller that updates it, from
the moment the caller takes it until it returns or is given up.
-/

namespace BenefitScreen

namespace Cache

variable {κ α : Type} [DecidableEq κ]

lemma Writes.same {β : Type} {c c' : Cache κ α} {k : κ} {e : CacheEntry α} (h : c.Writes k e c')
    (part : CacheEntry α → β) (he : part e = part (c.entry k)) (k' : κ) :
    part (c'.entry k') = part (c.entry k') := by
  rw [h.entry]
  split
  · rename_i hk
    rw [he, hk]
  · rfl

lemma Writes.other {c c' : Cache κ α} {k k' : κ} {e : CacheEntry α} (h : c.Writes k e c')
    (hk : k' ≠ k) : c'.entry k' = c.entry k' := by
  rw [h.entry, if_neg hk]

end Cache

namespace Traffic

variable {κ α : Type} [DecidableEq κ]

/-- What holds between any two actions: callers that update entries differ in number and key, and
the entries that are marked are theirs. -/
structure Consistent (t : Traffic κ α) : Prop where
  numbers : (t.flights.map (·.number)).Nodup
  below : ∀ f ∈ t.flights, f.number < t.started.length
  keys : (t.flights.map (·.key)).Nodup
  marked : ∀ k, (t.cache.entry k).refreshing = true ↔ k ∈ t.flights.map (·.key)

namespace Consistent

variable {t : Traffic κ α} {f g : Flight κ α}

lemma eq_of_key (ht : t.Consistent) (hf : f ∈ t.flights) (hg : g ∈ t.flights)
    (h : f.key = g.key) : f = g :=
  List.inj_on_of_nodup_map ht.keys hf hg h

lemma eq_of_number (ht : t.Consistent) (hf : f ∈ t.flights) (hg : g ∈ t.flights)
    (h : f.number = g.number) : f = g :=
  List.inj_on_of_nodup_map ht.numbers hf hg h

lemma flight?_of_mem (ht : t.Consistent) (hf : f ∈ t.flights) : t.flight? f.number = some f :=
  find?_of_nodup_keys ht.numbers hf

lemma refreshing_of_mem (ht : t.Consistent) (hf : f ∈ t.flights) :
    (t.cache.entry f.key).refreshing = true :=
  (ht.marked f.key).mpr (List.mem_map_of_mem hf)

/-- A new caller takes the mark of an entry that nobody updates. -/
lemma start (ht : t.Consistent) {k : κ} {c : Cache κ α}
    (hfree : (t.cache.entry k).refreshing = false)
    (hc : t.cache.Writes k { t.cache.entry k with refreshing := true } c) :
    (⟨c, ⟨t.started.length, k, none⟩ :: t.flights, k :: t.started⟩ : Traffic κ α).Consistent := by
  have hk : k ∉ t.flights.map (·.key) := by
    intro hmem
    rw [(ht.marked k).mpr hmem] at hfree
    cases hfree
  refine ⟨?_, ?_, ?_, ?_⟩
  · rw [List.map_cons, List.nodup_cons]
    refine ⟨fun hmem => ?_, ht.numbers⟩
    obtain ⟨g, hg, hnumber⟩ := List.mem_map.mp hmem
    have hlt := ht.below g hg
    rw [hnumber] at hlt
    exact Nat.lt_irrefl _ hlt
  · intro g hg
    rw [List.length_cons]
    rcases List.mem_cons.mp hg with rfl | hg
    · exact Nat.lt_succ_self _
    · exact Nat.lt_succ_of_lt (ht.below g hg)
  · rw [List.map_cons, List.nodup_cons]
    exact ⟨hk, ht.keys⟩
  · intro k'
    rw [hc.entry, List.map_cons, List.mem_cons]
    split
    · rename_i h
      simp [h]
    · rename_i h
      simp [h, ht.marked k']

lemma answer (ht : t.Consistent) {number : Nat} {v : α} {k : κ} {e : CacheEntry α} {c : Cache κ α}
    (hc : t.cache.Writes k e c) (he : e.refreshing = (t.cache.entry k).refreshing) :
    (⟨c, t.flights.map (·.answering number v), t.started⟩ : Traffic κ α).Consistent := by
  have hnumbers : (t.flights.map (·.answering number v)).map (·.number) =
      t.flights.map (·.number) := by
    rw [List.map_map]
    exact List.map_congr_left fun g _ => Flight.number_answering number v g
  have hkeys : (t.flights.map (·.answering number v)).map (·.key) = t.flights.map (·.key) := by
    rw [List.map_map]
    exact List.map_congr_left fun g _ => Flight.key_answering number v g
  refine ⟨hnumbers ▸ ht.numbers, ?_, hkeys ▸ ht.keys, ?_⟩
  · intro g hg
    obtain ⟨f, hf, rfl⟩ := List.mem_map.mp hg
    rw [Flight.number_answering]
    exact ht.below f hf
  · intro k'
    rw [hc.same (·.refreshing) he, hkeys]
    exact ht.marked k'

lemma mem_keys_leave (ht : t.Consistent) (hf : f ∈ t.flights) (k : κ) :
    k ∈ (t.flights.filter fun g => g.number != f.number).map (·.key) ↔
      k ∈ t.flights.map (·.key) ∧ k ≠ f.key := by
  simp only [List.mem_map, List.mem_filter, bne_iff_ne, ne_eq]
  constructor
  · rintro ⟨g, ⟨hg, hne⟩, rfl⟩
    exact ⟨⟨g, hg, rfl⟩, fun hkey => hne (congrArg Flight.number (ht.eq_of_key hg hf hkey))⟩
  · rintro ⟨⟨g, hg, rfl⟩, hne⟩
    exact ⟨g, ⟨hg, fun hnumber => hne (congrArg Flight.key (ht.eq_of_number hg hf hnumber))⟩, rfl⟩

lemma leave (ht : t.Consistent) (hf : f ∈ t.flights) {c : Cache κ α}
    (hc : t.cache.Writes f.key { t.cache.entry f.key with refreshing := false } c) :
    (⟨c, t.flights.filter fun g => g.number != f.number, t.started⟩ :
      Traffic κ α).Consistent := by
  have hsub := List.filter_sublist (p := fun g : Flight κ α => g.number != f.number)
    (l := t.flights)
  refine ⟨ht.numbers.sublist (hsub.map _), fun g hg => ht.below g (hsub.subset hg),
    ht.keys.sublist (hsub.map _), ?_⟩
  intro k
  rw [ht.mem_keys_leave hf, hc.entry]
  split
  · rename_i h
    simp [h]
  · rename_i h
    simp [h, ht.marked k]

lemma write (ht : t.Consistent) {k : κ} {e : CacheEntry α} {c : Cache κ α}
    (hc : t.cache.Writes k e c) (he : e.refreshing = (t.cache.entry k).refreshing) :
    (⟨c, t.flights, t.started⟩ : Traffic κ α).Consistent :=
  ⟨ht.numbers, ht.below, ht.keys, fun k' => by
    rw [hc.same (·.refreshing) he]
    exact ht.marked k'⟩

end Consistent

/-- A fetch that nobody interrupts is served, or it is one flight from its start to its return. -/
theorem fetch_eq_flight {ε σ : Type} (t : Traffic κ α) (now : Nat) (k : κ)
    (update : σ → Except ε α × σ) (world : σ) :
    match t.begin now k with
    | (.served v, t') => t.cache.fetch now k update world = (v, t'.cache, world)
    | (.mustUpdate, t') =>
      let (result, world') := update world
      let (answer, landed) :=
        (t'.complete now t.started.length result).release t.started.length
      ∃ v, answer = some v ∧ t.cache.fetch now k update world = (v, landed.cache, world') := by
  unfold Cache.fetch
  cases hbegin : t.cache.begin now k with
  | mk kind c =>
    cases kind with
    | served v => simp [begin, hbegin]
    | mustUpdate => simp [begin, hbegin, complete, release, leave, flight?, Flight.answering]

end Traffic

namespace Timeline

variable {κ α ε : Type} [DecidableEq κ]

lemma consistent_new (ttl : Nat) (default : α) :
    (new ttl default : Timeline κ α).toTraffic.Consistent where
  numbers := List.nodup_nil
  below _ hf := by cases hf
  keys := List.nodup_nil
  marked k := by
    constructor
    · intro h
      cases h
    · intro h
      cases h

lemma Change.consistent {s t : Timeline κ α} (h : Change s t) (hs : s.toTraffic.Consistent) :
    t.toTraffic.Consistent := by
  cases h with
  | idle => exact hs
  | served k c hc => exact hs.write hc rfl
  | started k c _ hfree hc => exact hs.start hfree hc
  | succeeded f v c _ _ hc => exact hs.answer hc rfl
  | failed f c _ _ hc => exact hs.answer hc rfl
  | returned f v c hf _ hc => exact hs.leave hf hc
  | cancelled f c hf _ hc => exact hs.leave hf hc
  | invalidated k c hc => exact hs.write hc rfl

lemma consistent_run (ttl : Nat) (default : α) (actions : List (Action κ α ε)) :
    ((new ttl default : Timeline κ α).run actions).toTraffic.Consistent :=
  run_induction (consistent_new ttl default) (fun _ _ hs h => h.consistent hs) actions

lemma countP_key (flights : List (Flight κ α)) (k : κ) :
    flights.countP (fun f => f.key = k) = (flights.map (·.key)).count k := by
  rw [List.count, List.countP_map]
  exact List.countP_congr fun f _ => by simp

/-- A caller that updates an entry can go on in every state, and when it has gone the entry is not
marked. -/
structure CanLeave (ε : Type) (s : Timeline κ α) (f : Flight κ α) : Prop where
  stays : ∀ a : Action κ α ε, (∃ g ∈ (s.step a).flights, g.number = f.number ∧ g.key = f.key) ∨
    ((s.step a).cache.entry f.key).refreshing = false
  cancel : f.answer = none →
    ((s.step (.cancel f.number : Action κ α ε)).cache.entry f.key).refreshing = false
  complete : f.answer = none → ∀ result : Except ε α,
    ∃ v, ⟨f.number, f.key, some v⟩ ∈ (s.step (.complete f.number result)).flights
  release : f.answer ≠ none →
    ((s.step (.release f.number : Action κ α ε)).cache.entry f.key).refreshing = false

lemma Change.stays {s t : Timeline κ α} (h : Change s t) (hs : s.toTraffic.Consistent)
    {f : Flight κ α} (hf : f ∈ s.flights) :
    (∃ g ∈ t.flights, g.number = f.number ∧ g.key = f.key) ∨
      (t.cache.entry f.key).refreshing = false := by
  have hkept : ∃ g ∈ s.flights, g.number = f.number ∧ g.key = f.key := ⟨f, hf, rfl, rfl⟩
  have hanswering : ∀ number v, ∃ g ∈ s.flights.map (·.answering number v),
      g.number = f.number ∧ g.key = f.key := fun number v =>
    ⟨_, List.mem_map_of_mem hf, Flight.number_answering _ _ _, Flight.key_answering _ _ _⟩
  have hleave : ∀ g ∈ s.flights, ∀ c,
      s.cache.Writes g.key { s.cache.entry g.key with refreshing := false } c →
      (∃ x ∈ s.flights.filter fun x => x.number != g.number,
        x.number = f.number ∧ x.key = f.key) ∨ (c.entry f.key).refreshing = false := by
    intro g hg c hc
    by_cases hnumber : f.number = g.number
    · rw [hs.eq_of_number hf hg hnumber, hc.entry, if_pos rfl]
      exact .inr rfl
    · exact .inl ⟨f, List.mem_filter.mpr ⟨hf, bne_iff_ne.mpr hnumber⟩, rfl, rfl⟩
  cases h with
  | idle => exact .inl hkept
  | served => exact .inl hkept
  | started => exact .inl ⟨f, List.mem_cons_of_mem _ hf, rfl, rfl⟩
  | succeeded g v => exact .inl (hanswering g.number v)
  | failed g => exact .inl (hanswering g.number _)
  | returned g v c hg _ hc => exact hleave g hg c hc
  | cancelled g c hg _ hc => exact hleave g hg c hc
  | invalidated => exact .inl hkept

lemma canLeave {s : Timeline κ α} (hs : s.toTraffic.Consistent) {f : Flight κ α}
    (hf : f ∈ s.flights) : CanLeave ε s f where
  stays a := (change_step s a).stays hs hf
  cancel hrun := by
    rw [step_cancel (hs.flight?_of_mem hf) hrun, Traffic.leave,
      (Cache.writes_release s.cache f.key).entry, if_pos rfl]
  complete hrun result := by
    rw [step_complete (hs.flight?_of_mem hf) hrun]
    refine ⟨(s.cache.store s.now f.key result).value f.key, List.mem_map.mpr ⟨f, hf, ?_⟩⟩
    rw [Flight.answering, if_pos rfl]
  release hanswer := by
    obtain ⟨v, hv⟩ := Option.ne_none_iff_exists'.mp hanswer
    rw [step_release (hs.flight?_of_mem hf) hv, Traffic.leave,
      (Cache.writes_release s.cache f.key).entry, if_pos rfl]

/-- However callers act: at most one update of a key runs; an entry is marked exactly while one
caller has its mark; every such caller can leave and then the mark is gone; and who comes while an
entry is marked is served what it holds and starts nothing. -/
theorem single_flight (ttl : Nat) (default : α) (actions : List (Action κ α ε)) :
    let s := (new ttl default).run actions
    (∀ k, s.flights.countP (fun f => f.key = k ∧ f.answer.isNone) ≤ 1) ∧
      (∀ k, (s.cache.entry k).refreshing = true ↔
        s.flights.countP (fun f => f.key = k) = 1) ∧
      (∀ f ∈ s.flights, CanLeave ε s f) ∧
      ∀ k, (s.cache.entry k).refreshing = true →
        (s.begin s.now k).1 = .served (s.cache.value k) ∧
          (s.step (.fetch k : Action κ α ε)).started = s.started ∧
          (s.step (.fetch k : Action κ α ε)).flights = s.flights := by
  intro s
  have hs : s.toTraffic.Consistent := consistent_run ttl default actions
  refine ⟨?_, ?_, fun f hf => canLeave hs hf, ?_⟩
  · intro k
    have hle : s.flights.countP (fun f => f.key = k ∧ f.answer.isNone) ≤
        s.flights.countP (fun f => f.key = k) :=
      List.countP_mono_left fun f _ h => by simpa using (of_decide_eq_true h).1
    have hone := List.nodup_iff_count_le_one.mp hs.keys k
    rw [← countP_key] at hone
    exact Nat.le_trans hle hone
  · intro k
    rw [hs.marked k, countP_key]
    exact ⟨List.count_eq_one_of_mem hs.keys, fun h => List.count_pos_iff.mp (by omega)⟩
  · intro k hmarked
    have hbegin : s.begin s.now k = (.served (s.cache.value k),
        { s.toTraffic with cache := s.cache.put k (s.cache.entry k) }) :=
      Traffic.begin_of_held (.inr hmarked)
    refine ⟨by rw [hbegin], ?_, ?_⟩
    · simp [step, trafficAfter, hbegin]
    · simp [step, trafficAfter, hbegin]

theorem second_caller_served :
    let s := (new 60 [] : Timeline String (List Nat)).run [(.fetch "CO" : Action _ _ String)]
    (s.begin s.now "CO").1 = .served [] := by
  intro s
  have hmarked : (s.cache.entry "CO").refreshing = true := by decide
  obtain ⟨-, -, -, hserved⟩ := single_flight 60 [] [(.fetch "CO" : Action String (List Nat) String)]
  exact (hserved "CO" hmarked).1

end Timeline

end BenefitScreen
