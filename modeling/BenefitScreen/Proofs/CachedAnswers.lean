import BenefitScreen.IncomeLimit.Service
import BenefitScreen.Proofs.Timeline

/-!
# Income limits with and without caches

Where the sources answer a request always in the same way, every update of a cache entry gives what
its key determines. So an entry holds this result, or the default where there is none, whatever was
fetched before. The answer to a query is then a function of the query, and the caches do not show.
-/

namespace BenefitScreen

/-- An entry at rest whose key's update has the result `result`: it holds that value once it was
updated, and the default before. -/
structure CacheEntry.Mirrors {α ε : Type} (e : CacheEntry α) (default : α) (result : Except ε α) :
    Prop where
  idle : e.refreshing = false
  unset : e.refreshedAt = none → e.value = default
  current : ∀ moment, e.refreshedAt = some moment → result = .ok e.value

namespace CacheEntry.Mirrors

variable {α ε : Type} {e : CacheEntry α} {default : α} {result : Except ε α}

lemma value_of_fresh (he : e.Mirrors default result) {ttl now : Nat}
    (hfresh : e.isFresh ttl now = true) : result = .ok e.value := by
  cases hmoment : e.refreshedAt with
  | none =>
    rw [isFresh, hmoment] at hfresh
    cases hfresh
  | some moment => exact he.current moment hmoment

/-- A key whose update fails was never updated. -/
lemma value_of_error (he : e.Mirrors default result) {failure : ε}
    (hfails : result = .error failure) : e.value = default := by
  apply he.unset
  cases hmoment : e.refreshedAt with
  | none => rfl
  | some moment =>
    have hcurrent := he.current moment hmoment
    rw [hfails] at hcurrent
    cases hcurrent

end CacheEntry.Mirrors

namespace Cache

variable {κ α ε σ : Type} [DecidableEq κ] {default : α} {update : κ → Except ε α}

/-- Every entry holds what the update of its key gives, or the default. -/
structure Mirrors (c : Cache κ α) (default : α) (update : κ → Except ε α) : Prop where
  default_eq : c.default = default
  entries : ∀ k, (c.entry k).Mirrors default (update k)

lemma mirrors_new (ttl : Nat) (default : α) (update : κ → Except ε α) :
    (new ttl default : Cache κ α).Mirrors default update where
  default_eq := rfl
  entries _ := ⟨rfl, fun _ => rfl, fun _ h => nomatch h⟩

lemma Mirrors.write {c c' : Cache κ α} (hc : c.Mirrors default update) {k : κ} {e : CacheEntry α}
    (hw : c.Writes k e c') (he : e.Mirrors default (update k)) : c'.Mirrors default update where
  default_eq := hw.default.trans hc.default_eq
  entries k' := by
    rw [hw.entry]
    by_cases hk : k' = k
    · rw [if_pos hk, hk]
      exact he
    · rw [if_neg hk]
      exact hc.entries k'

lemma Writes.trans {c c' c'' : Cache κ α} {k : κ} {e e' : CacheEntry α} (h : c.Writes k e c')
    (h' : c'.Writes k e' c'') : c.Writes k e' c'' where
  ttl := h'.ttl.trans h.ttl
  default := h'.default.trans h.default
  entry k' := by
    rw [h'.entry, h.entry]
    by_cases hk : k' = k
    · rw [if_pos hk, if_pos hk]
    · rw [if_neg hk, if_neg hk, if_neg hk]

lemma fetch_of_served {c : Cache κ α} {now : Nat} {k : κ}
    (hserved : (c.entry k).isFresh c.ttl now = true ∨ (c.entry k).refreshing = true)
    (refresh : σ → Except ε α × σ) (world : σ) :
    c.fetch now k refresh world = (c.value k, c.put k (c.entry k), world) := by
  simp [fetch, begin, hserved, value]

lemma writes_store (c : Cache κ α) (now : Nat) (k : κ) (result : Except ε α) :
    c.Writes k (match result with
      | .ok v => { c.entry k with value := v, refreshedAt := some now }
      | .error _ => c.entry k) (c.store now k result) := by
  cases result with
  | ok v => exact writes_put c k _
  | error x => exact writes_put c k _

/-- An entry that nobody updates is updated by the fetch itself. -/
lemma fetch_of_stale {c : Cache κ α} {now : Nat} {k : κ}
    (hstale : (c.entry k).isFresh c.ttl now = false) (hidle : (c.entry k).refreshing = false)
    (refresh : σ → Except ε α × σ) (world : σ) :
    ∃ c', c.fetch now k refresh world = (c'.value k, c', (refresh world).2) ∧
      c.Writes k (match (refresh world).1 with
        | .ok v => ⟨v, some now, false⟩
        | .error _ => c.entry k) c' := by
  let marked := c.put k { c.entry k with refreshing := true }
  let stored := marked.store now k (refresh world).1
  have hmark : c.Writes k { c.entry k with refreshing := true } marked := writes_put c k _
  have hstore := writes_store marked now k (refresh world).1
  have hrelease := writes_release stored k
  have hfetch :
      c.fetch now k refresh world = (stored.value k, stored.release k, (refresh world).2) := by
    simp [fetch, begin, hstale, hidle, stored, marked]
  refine ⟨stored.release k, ?_, ?_⟩
  · rw [hfetch, hrelease.value_self]
    rfl
  · have hwrites := (hmark.trans hstore).trans hrelease
    rw [hstore.entry, if_pos rfl, hmark.entry, if_pos rfl] at hwrites
    cases hresult : (refresh world).1 with
    | ok v => simpa only [hresult] using hwrites
    | error x =>
      have hkept : { c.entry k with refreshing := false } = c.entry k := by rw [← hidle]
      simpa only [hresult, hkept] using hwrites

/-- A fetch serves what the update of the key gives, or the default, and keeps the entries so. -/
lemma Mirrors.fetch {c : Cache κ α} (hc : c.Mirrors default update) (now : Nat) (k : κ)
    {refresh : σ → Except ε α × σ} (world : σ) (hrefresh : (refresh world).1 = update k) :
    (c.fetch now k refresh world).1 = (update k).toOption.getD default ∧
      (c.fetch now k refresh world).2.1.Mirrors default update := by
  have he := hc.entries k
  cases hfresh : (c.entry k).isFresh c.ttl now with
  | true =>
    have hserved : update k = .ok (c.value k) := he.value_of_fresh hfresh
    rw [fetch_of_served (.inl hfresh), hserved]
    exact ⟨rfl, hc.write (writes_put c k _) he⟩
  | false =>
    obtain ⟨c', hfetch, hwrites⟩ := fetch_of_stale hfresh he.idle refresh world
    rw [hfetch, hwrites.value_self]
    rw [hrefresh] at hwrites ⊢
    cases hupdate : update k with
    | ok v =>
      rw [hupdate] at hwrites
      have hvalue : (some now : Option Nat) = none → v = default := fun h => nomatch h
      exact ⟨rfl, hc.write hwrites ⟨rfl, hvalue, fun _ _ => hupdate⟩⟩
    | error failure =>
      rw [hupdate] at hwrites
      exact ⟨he.value_of_error hupdate, hc.write hwrites he⟩

end Cache

namespace Hud

/-- With a service that replies always in the same way, what was exchanged before does not matter
to a question. -/
lemma get_fixed {α : Type} (access : HudAccess) (reply : Request → Reply) (part : Json.Selection)
    (item : Decoder α) (endpoint parameter : String) (year : UInt16) (log log' : List Exchange) :
    (get access (.fixed reply) part item endpoint parameter year log).1 =
      (get access (.fixed reply) part item endpoint parameter year log').1 := by
  unfold get
  cases access.token with
  | none => rfl
  | some token => rfl

variable (access : HudAccess) (reply : Request → Reply)

/-- The list of counties that the service gives for a state in capitals and a year. -/
def countiesOf (k : String × UInt16) : Except LimitError (List HudCounty) :=
  (get access (.fixed reply) (.items (.fields Decode.hudCountyFields .everything))
    (Decode.list Decode.hudCounty) ("fmr/listCounties/" ++ Text.upper k.1) "updated" k.2 []).1

def dataOf (k : Dataset × String × UInt16) : Except LimitError Json :=
  (get access (.fixed reply) .everything Decode.any (Dataset.endpoint k.2.1 k.1) "year" k.2.2 []).1

/-- The answer to a query without caches. -/
def answer (q : AmiQuery) : LimitAnswer :=
  if q.size < 1 ∨ maxHudSize < q.size then .error (.sizeOutOfRange q.size 1 maxHudSize)
  else
    let counties := (countiesOf access reply (Text.upper q.state, q.year)).toOption.getD []
    match countyCode? counties q.county q.state with
    | .error e => .error e
    | .ok code => limitIn ((dataOf access reply (q.dataset, code, q.year)).toOption.getD .null) q

/-- Both caches hold what the service gives. -/
structure Mirrored (caches : HudCaches) : Prop where
  counties : caches.counties.Mirrors [] (countiesOf access reply)
  data : caches.data.Mirrors .null (dataOf access reply)

variable {access reply}

lemma fetchCounties_mirrored {caches : HudCaches} (hc : Mirrored access reply caches) (now : Nat)
    (state : String) (year : UInt16) (log : List Exchange) :
    let fetched := fetchCounties access (.fixed reply) now state year caches log
    fetched.1 = (countiesOf access reply (Text.upper state, year)).toOption.getD [] ∧
      Mirrored access reply fetched.2.1 := by
  have hfetch := hc.counties.fetch now (Text.upper state, year) log
    (get_fixed access reply (.items (.fields Decode.hudCountyFields .everything))
      (Decode.list Decode.hudCounty) ("fmr/listCounties/" ++ Text.upper (Text.upper state))
      "updated" year log [])
  exact ⟨hfetch.1, hfetch.2, hc.data⟩

lemma fetchData_mirrored {caches : HudCaches} (hc : Mirrored access reply caches) (now : Nat)
    (dataset : Dataset) (code : String) (year : UInt16) (log : List Exchange) :
    let fetched := fetchData access (.fixed reply) now dataset code year caches log
    fetched.1 = (dataOf access reply (dataset, code, year)).toOption.getD .null ∧
      Mirrored access reply fetched.2.1 := by
  have hfetch := hc.data.fetch now (dataset, code, year) log
    (get_fixed access reply .everything Decode.any (Dataset.endpoint code dataset) "year" year log
      [])
  exact ⟨hfetch.1, hc.counties, hfetch.2⟩

lemma lookup_mirrored {caches : HudCaches} (hc : Mirrored access reply caches) (now : Nat)
    (q : AmiQuery) (log : List Exchange) :
    (lookup access (.fixed reply) now q caches log).1 = answer access reply q ∧
      Mirrored access reply (lookup access (.fixed reply) now q caches log).2.1 := by
  unfold lookup answer
  by_cases hsize : q.size < 1 ∨ maxHudSize < q.size
  · rw [if_pos hsize, if_pos hsize]
    exact ⟨rfl, hc⟩
  · rw [if_neg hsize, if_neg hsize]
    obtain ⟨hcounties, hc⟩ := fetchCounties_mirrored hc now q.state q.year log
    dsimp only
    rw [hcounties]
    cases countyCode? ((countiesOf access reply (Text.upper q.state, q.year)).toOption.getD [])
        q.county q.state with
    | error e => exact ⟨rfl, hc⟩
    | ok code =>
      have hdata := fetchData_mirrored hc now q.dataset code q.year
      exact ⟨congrArg (limitIn · q) (hdata _).1, (hdata _).2⟩

end Hud

namespace LimitSources

variable (sources : LimitSources) (reply : Request → Reply)

lemma downloadSheet_fixed (log log' : List Exchange) :
    (sources.downloadSheet (.fixed reply) log).1 = (sources.downloadSheet (.fixed reply) log').1 :=
  rfl

def sheetOf : Unit → Except LimitError CountyTable := fun _ =>
  (sources.downloadSheet (.fixed reply) []).1

/-- The answer to a query without caches. -/
def answer : LimitQuery → LimitAnswer
  | .ami q => Hud.answer sources.hud reply q
  | .county state county size =>
    if Text.sameLetters state sources.countyState then
      ((sources.sheetOf reply ()).toOption.getD .empty).lookup county state size
    else .error (.countyNotFound (normalizeCounty county) state)

/-- All caches hold what the sources give. -/
structure Mirrored (caches : LimitCaches) : Prop where
  hud : Hud.Mirrored sources.hud reply caches.hud
  sheet : caches.sheet.Mirrors .empty (sources.sheetOf reply)

lemma mirrored_noCaches (hudTtl sheetTtl : Nat) :
    sources.Mirrored reply (noCaches hudTtl sheetTtl) where
  hud := ⟨Cache.mirrors_new _ _ _, Cache.mirrors_new _ _ _⟩
  sheet := Cache.mirrors_new _ _ _

/-- The answers to queries that are asked one after the other, each at its moment. -/
def askAll (service : Service) : List (Nat × LimitQuery) → LimitCaches → List Exchange →
    List LimitAnswer
  | [], _, _ => []
  | (now, q) :: asked, caches, log =>
    let (answer, caches, log) := sources.lookup service now q caches log
    answer :: askAll service asked caches log

variable {sources reply}

lemma lookup_mirrored {caches : LimitCaches} (hc : sources.Mirrored reply caches) (now : Nat)
    (q : LimitQuery) (log : List Exchange) :
    (sources.lookup (.fixed reply) now q caches log).1 = sources.answer reply q ∧
      sources.Mirrored reply (sources.lookup (.fixed reply) now q caches log).2.1 := by
  cases q with
  | ami q =>
    have hanswer := Hud.lookup_mirrored hc.hud now q log
    exact ⟨hanswer.1, hanswer.2, hc.sheet⟩
  | county state county size =>
    unfold lookup answer
    dsimp only
    by_cases hstate : Text.sameLetters state sources.countyState = true
    · rw [if_pos hstate, if_pos hstate]
      have hfetch := hc.sheet.fetch now () log (sources.downloadSheet_fixed reply log [])
      exact ⟨congrArg (fun t => CountyTable.lookup t county state size) hfetch.1, hc.hud, hfetch.2⟩
    · rw [if_neg hstate, if_neg hstate]
      exact ⟨rfl, hc⟩

lemma askAll_mirrored (asked : List (Nat × LimitQuery)) {caches : LimitCaches}
    (hc : sources.Mirrored reply caches) (log : List Exchange) :
    sources.askAll (.fixed reply) asked caches log =
      asked.map fun x => sources.answer reply x.2 := by
  induction asked generalizing caches log with
  | nil => rfl
  | cons x asked ih =>
    have hlookup := lookup_mirrored hc x.1 x.2 log
    unfold askAll
    rw [List.map_cons]
    dsimp only
    rw [hlookup.1, ih hlookup.2]

/-- Where each request always gets the same reply, queries that share the caches are answered, with
a limit or with the reason for having none, as each of them is by sources that nobody asked before.
The queries, their order, the moments and the times to live may be any. -/
theorem askAll_eq_alone (sources : LimitSources) (reply : Request → Reply) (hudTtl sheetTtl : Nat)
    (asked : List (Nat × LimitQuery)) (moment : Nat) :
    sources.askAll (.fixed reply) asked (noCaches hudTtl sheetTtl) [] =
      asked.map fun x =>
        (sources.lookup (.fixed reply) moment x.2 (noCaches hudTtl sheetTtl) []).1 := by
  have hstart := sources.mirrored_noCaches reply hudTtl sheetTtl
  rw [askAll_mirrored asked hstart]
  apply List.map_congr_left
  intro x _
  exact (lookup_mirrored hstart moment x.2 []).1.symm

end LimitSources

end BenefitScreen
