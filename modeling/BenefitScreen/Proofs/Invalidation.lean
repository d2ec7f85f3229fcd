import BenefitScreen.Proofs.StoredValues

/-!
What becomes of an invalidation. It makes the next fetch update the entry, except that an update
which was under way at the time still counts as new when it succeeds.
-/

namespace BenefitScreen

namespace Timeline

variable {κ α ε : Type}

/-- Whether an update had started and not ended when these were all events. -/
def Running (events : List (Event κ α)) (n : Nat) (k : κ) : Prop :=
  .started n k ∈ events ∧ ∀ o, .ended n k o ∉ events

/-- An update that runs started after an event, or it ran already before. -/
lemma Running.of_append {after before : List (Event κ α)} {e : Event κ α} {n : Nat} {k : κ}
    (h : Running (after ++ e :: before) n k) (he : e ≠ .started n k) :
    .started n k ∈ after ∨ Running before n k := by
  obtain ⟨hstarted, hopen⟩ := h
  rcases List.mem_append.mp hstarted with hafter | hbefore
  · exact .inl hafter
  · refine .inr ⟨(List.mem_cons.mp hbefore).resolve_left he.symm, fun o ho => hopen o ?_⟩
    exact List.mem_append_right _ (List.mem_cons_of_mem _ ho)

/-- An update runs up to the event that ends it. -/
def EndsOnce (s : Timeline κ α) : Prop :=
  ∀ n k o before after, s.events = after ++ .ended n k o :: before → Running before n k

variable [DecidableEq κ]

lemma Change.endsOnce {s t : Timeline κ α} (h : Change s t) (hh : History s) (hs : EndsOnce s) :
    EndsOnce t := by
  intro n k o before after hsplit
  rcases h.events with hsame | ⟨e, hnew⟩
  · exact hs n k o before after (hsame.symm.trans hsplit)
  · rw [hnew, List.cons_eq_append_iff] at hsplit
    rcases hsplit with ⟨rfl, hlast⟩ | ⟨earlier, rfl, hsplit⟩
    · obtain ⟨rfl, rfl⟩ := List.cons.inj hlast
      obtain ⟨f, hf, hrun, rfl, rfl⟩ := h.flight_of_ended hnew
      have hrecord := hh.flights f hf
      refine ⟨hrecord.started, fun o' ho' => ?_⟩
      exact Nat.lt_irrefl _ (hrecord.earlier hrun f.number o' ho')
    · exact hs n k o before earlier hsplit

/-- After an invalidation an entry is stale until an update of it succeeds. -/
def Heeded (s : Timeline κ α) : Prop :=
  ∀ k before after, s.events = after ++ .invalidated k :: before →
    s.Stale k ∨ ∃ n v, .ended n k (.succeeded v) ∈ after

lemma Change.heeded {s t : Timeline κ α} (h : Change s t) (hs : Heeded s) : Heeded t := by
  intro k before after hsplit
  rcases h.events with hsame | ⟨e, hnew⟩
  · refine (hs k before after (hsame.symm.trans hsplit)).imp_left fun hstale => ?_
    refine (h.stale (.inl hstale)).resolve_right fun ⟨n, v, he⟩ => ?_
    exact absurd (hsame.symm.trans he).symm (List.cons_ne_self _ _)
  · rw [hnew, List.cons_eq_append_iff] at hsplit
    rcases hsplit with ⟨rfl, hlast⟩ | ⟨earlier, rfl, hsplit⟩
    · obtain ⟨rfl, rfl⟩ := List.cons.inj hlast
      refine .inl ((h.stale (.inr hnew)).resolve_right fun ⟨n, v, he⟩ => ?_)
      rw [hnew] at he
      cases he
    · rcases hs k before earlier hsplit with hstale | ⟨n, v, hsuccess⟩
      · refine (h.stale (.inl hstale)).imp_right fun ⟨n, v, he⟩ => ⟨n, v, ?_⟩
        rw [hnew] at he
        rw [(List.cons.inj he).1]
        exact List.mem_cons_self
      · exact .inr ⟨n, v, List.mem_cons_of_mem _ hsuccess⟩

lemma invalidations_run (ttl : Nat) (default : α) (actions : List (Action κ α ε)) :
    let s := (new ttl default).run actions
    EndsOnce s ∧ Heeded s := by
  have hstart : EndsOnce (new ttl default : Timeline κ α) ∧
      Heeded (new ttl default : Timeline κ α) := by
    refine ⟨fun n k o before after h => ?_, fun k before after h => ?_⟩
    · exact absurd h.symm (by simp [new])
    · exact absurd h.symm (by simp [new])
  have hrun := run_induction
    (p := fun s => s.toTraffic.Consistent ∧ History s ∧ EndsOnce s ∧ Heeded s)
    ⟨consistent_new ttl default, history_new ttl default, hstart⟩
    (fun s t ⟨hs, hh, hends, hheeded⟩ h =>
      ⟨h.consistent hs, h.history hs hh, h.endsOnce hh hends, h.heeded hheeded⟩) actions
  exact ⟨hrun.2.2.1, hrun.2.2.2⟩

/-- However callers act: after an invalidation a fetch that finds no update of the key under way
starts one, unless an update has succeeded since; and that one started after the invalidation, or it
was under way at the time. -/
theorem fetch_after_invalidation (ttl : Nat) (default : α) (actions : List (Action κ α ε)) :
    let s := (new ttl default).run actions
    ∀ k before after, s.events = after ++ .invalidated k :: before →
      (∀ f ∈ s.flights, f.key ≠ k) →
      (s.begin s.now k).1 = .mustUpdate ∨
        ∃ n v, .ended n k (.succeeded v) ∈ after ∧
          (.started n k ∈ after ∨ Running before n k) := by
  intro s k before after hsplit hfree
  obtain ⟨hends, hheeded⟩ := invalidations_run ttl default actions
  rcases hheeded k before after hsplit with hstale | ⟨n, v, hsuccess⟩
  · exact .inl (begin_of_stale (consistent_run ttl default actions) hstale hfree)
  · obtain ⟨later, between, rfl⟩ := List.append_of_mem hsuccess
    have hrunning : Running (between ++ .invalidated k :: before) n k := by
      refine hends n k (.succeeded v) _ later ?_
      rw [hsplit, List.append_assoc, List.cons_append]
    have hother : (.invalidated k : Event κ α) ≠ .started n k := by simp
    refine .inr ⟨n, v, hsuccess, (hrunning.of_append hother).imp_left fun hstarted => ?_⟩
    exact List.mem_append_right _ (List.mem_cons_of_mem _ hstarted)

theorem fetch_after_settled_invalidation :
    let s := (new 60 [] : Timeline String (List Nat)).run
      [.fetch "CO", .complete 0 (.ok [1] : Except String _), .release 0, .invalidate "CO"]
    (s.begin s.now "CO").1 = .mustUpdate := by
  intro s
  have hsplit : s.events = [] ++ .invalidated "CO" :: [.returned 0 "CO" [1],
      .ended 0 "CO" (.succeeded [1]), .started 0 "CO"] := rfl
  have hfree : ∀ f ∈ s.flights, f.key ≠ "CO" := fun f hf => nomatch hf
  refine (fetch_after_invalidation 60 [] _ "CO" _ [] hsplit hfree).resolve_right ?_
  rintro ⟨n, v, hsuccess, -⟩
  cases hsuccess

lemma complete_ok (ε : Type) {s : Timeline κ α} (hs : s.toTraffic.Consistent) {f : Flight κ α}
    (hf : f ∈ s.flights) (hrun : f.answer = none) (v : α) :
    let t := s.step (.complete f.number (.ok v : Except ε α))
    s.cache.Writes f.key { s.cache.entry f.key with value := v, refreshedAt := some s.now }
        t.cache ∧
      { f with answer := some v } ∈ t.flights := by
  have hstore := Cache.writes_put s.cache f.key
    { s.cache.entry f.key with value := v, refreshedAt := some s.now }
  rw [step_complete (hs.flight?_of_mem hf) hrun]
  refine ⟨hstore, List.mem_map.mpr ⟨f, hf, ?_⟩⟩
  rw [Cache.store, hstore.value_self, Flight.answering, if_pos rfl]

lemma release_answered (ε : Type) {s : Timeline κ α} (hs : s.toTraffic.Consistent)
    {f : Flight κ α} (hf : f ∈ s.flights) {v : α} (hv : f.answer = some v) :
    let t := s.step (.release f.number : Action κ α ε)
    s.cache.Writes f.key { s.cache.entry f.key with refreshing := false } t.cache ∧
      ∀ g ∈ t.flights, g.key ≠ f.key := by
  rw [step_release (hs.flight?_of_mem hf) hv]
  exact ⟨Cache.writes_release _ _, fun g hg => (mem_leave hs hf hg).2⟩

/-- An update that is under way at an invalidation overtakes it: when it has succeeded and
returned, its value is served. -/
theorem served_of_overtaken {s : Timeline κ α} (hs : s.toTraffic.Consistent) {f : Flight κ α}
    (hf : f ∈ s.flights) (hrun : f.answer = none) (v : α) (httl : 0 < s.cache.ttl) :
    let t := s.run [.invalidate f.key, .complete f.number (.ok v : Except ε α), .release f.number]
    (∀ g ∈ t.flights, g.key ≠ f.key) ∧ (t.begin t.now f.key).1 = .served v := by
  intro t
  have hold := (change_step s (.invalidate f.key : Action κ α ε)).consistent hs
  obtain ⟨hstore, hanswered⟩ := complete_ok ε hold hf hrun v
  have hupdated := (change_step _ (.complete f.number (.ok v : Except ε α))).consistent hold
  obtain ⟨hmark, hfree⟩ := release_answered ε hupdated hanswered rfl
  have hentry : t.cache.entry f.key = ⟨v, some s.now, false⟩ := by
    refine (hmark.entry f.key).trans ((if_pos rfl).trans ?_)
    rw [hstore.entry, if_pos rfl]
    rfl
  have hkept : t.cache.ttl = s.cache.ttl :=
    hmark.ttl.trans (hstore.ttl.trans (s.cache.writes_invalidate f.key).ttl)
  have hfresh : (t.cache.entry f.key).isFresh t.cache.ttl t.now = true := by
    have hnow : t.now = s.now := rfl
    rw [hentry, hkept, hnow]
    simpa [CacheEntry.isFresh] using httl
  refine ⟨hfree, ?_⟩
  rw [Traffic.begin_of_held (.inl hfresh), Cache.value, hentry]

/-- The first fetch after the invalidation of an entry finds no update under way and starts none,
and no update that started after the invalidation has succeeded. -/
theorem overtaken_invalidation :
    let s := (new 60 [] : Timeline String (List Nat)).run
      [.fetch "CO", .invalidate "CO", .complete 0 (.ok [1] : Except String _), .release 0]
    ¬∀ before after, s.events = after ++ .invalidated "CO" :: before →
      (∃ n, .started n "CO" ∈ before) → (∀ f ∈ s.flights, f.key ≠ "CO") →
      (s.begin s.now "CO").1 = .mustUpdate ∨
        ∃ n v, .started n "CO" ∈ after ∧ .ended n "CO" (.succeeded v) ∈ after := by
  intro s hclaim
  let fetched : Timeline String (List Nat) := (new 60 []).run [(.fetch "CO" : Action _ _ String)]
  have hfetched : fetched.toTraffic.Consistent := consistent_run 60 [] [.fetch "CO"]
  have hflight : ⟨0, "CO", none⟩ ∈ fetched.flights := List.mem_cons_self
  obtain ⟨hfree, hserved⟩ : (∀ f ∈ s.flights, f.key ≠ "CO") ∧
      (s.begin s.now "CO").1 = .served [1] :=
    served_of_overtaken hfetched hflight rfl [1] (by decide)
  have hsplit : s.events = [.returned 0 "CO" [1], .ended 0 "CO" (.succeeded [1])] ++
      .invalidated "CO" :: [.started 0 "CO"] := rfl
  rcases hclaim _ _ hsplit ⟨0, List.mem_cons_self⟩ hfree with hupdate | ⟨n, v, hstarted, -⟩
  · rw [hserved] at hupdate
    cases hupdate
  · simp at hstarted

end Timeline

end BenefitScreen
