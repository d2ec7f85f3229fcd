import BenefitScreen.Proofs.CachedAnswers
import BenefitScreen.Proofs.CountySheet
import BenefitScreen.Proofs.UpperCase

/-!
# Cells of the HUD service

A lookup asks for the counties of a state and then for the data of one of them, and reads one cell.
Every failure on the way has its own answer: a document that is not there or cannot be read counts
as an empty one, so what the answer says of it is said here of the documents that the service
serves.
-/

namespace BenefitScreen

namespace Json

/-- What stands under some keys, one inside the other. -/
inductive At : Json → List String → Json → Prop
  | here {j : Json} : At j [] j
  | inside {j inner cell : Json} {key : String} {keys : List String}
      (hkey : j.get? key = some inner) (hrest : At inner keys cell) : At j (key :: keys) cell

lemma at_nil {j cell : Json} : At j [] cell ↔ cell = j := by
  constructor
  · rintro ⟨⟩
    rfl
  · rintro rfl
    exact .here

lemma at_cons {j cell : Json} {key : String} {keys : List String} :
    At j (key :: keys) cell ↔ ∃ inner, j.get? key = some inner ∧ At inner keys cell := by
  constructor
  · rintro (_ | ⟨hkey, hrest⟩)
    exact ⟨_, hkey, hrest⟩
  · rintro ⟨inner, hkey, hrest⟩
    exact .inside hkey hrest

end Json

namespace Hud

/-- The service replies to a request with a document that reads as `a`. -/
def Serves {α : Type} (reply : Request → Reply) (token url : String) (part : Json.Selection)
    (item : Decoder α) (a : α) : Prop :=
  ∃ status body, reply ⟨.get, url, some token, none⟩ = .answered status body ∧
    200 ≤ status ∧ status < 300 ∧ (Json.parseParts? part body).bind item = some a

variable (base token : String) (reply : Request → Reply) (q : AmiQuery)

/-- The counties that are served for the state, in capitals, and the year. -/
def ListsCounties (counties : List HudCounty) : Prop :=
  Serves reply token (base ++ "/fmr/listCounties/" ++ Text.upper q.state ++ "?updated=" ++
      toString q.year.toNat)
    (.items (.fields ["county_name", "fips_code"] .everything)) (Decode.list Decode.hudCounty)
    counties

/-- The data that are served for a county's code, the dataset and the year. -/
def ServesData (code : String) (data : Json) : Prop :=
  Serves reply token (base ++ (match q.dataset with | .mtsp => "/mtspil" | .section8 => "/il") ++
      "/data/" ++ code ++ "?year=" ++ toString q.year.toNat)
    .everything Decode.any data

/-- The keys to the cell for the share and the size. -/
def cellKeys : List String :=
  let percent := toString q.percent.toNat
  let size := toString q.size.toNat
  match q.dataset with
  | .mtsp => if q.percent = 100 then ["median_income"]
    else [percent ++ "percent", "il" ++ percent ++ "_p" ++ size]
  | .section8 => ["l" ++ percent ++ "_" ++ size]

/-- A number or a text that reads as the amount. -/
inductive ReadsAs : Json → Decimal → Prop
  | number {n : Json.Number} {v : Decimal} (h : Decimal.parse? n.render = some v) :
      ReadsAs (.number n) v
  | text {s : String} {v : Decimal} (h : Decimal.parse? s = some v) : ReadsAs (.text s) v

/-- The first county in the list with the name. -/
def FirstNamed (county : String) (counties : List HudCounty) (c : HudCounty) : Prop :=
  ∃ before after, counties = before ++ c :: after ∧ SameCounty county c.name ∧
    ∀ other ∈ before, ¬SameCounty county other.name

/-- A size for which limits are published. -/
def Sized : Prop := 1 ≤ q.size.toNat ∧ q.size.toNat ≤ 8

/-- What a client that was never asked before answers. -/
inductive Answers : LimitAnswer → Prop
  | sizeOutOfRange (hsize : ¬Sized q) : Answers (.error (.sizeOutOfRange q.size 1 8))
  /-- No list is served, or an empty one. -/
  | noCounties (hsize : Sized q)
      (hlist : ∀ counties, ListsCounties base token reply q counties → counties = []) :
      Answers (.error (.unavailable ("Could not retrieve counties for " ++ q.state)))
  | countyNotFound {counties : List HudCounty} (hsize : Sized q)
      (hlist : ListsCounties base token reply q counties) (hnonempty : counties ≠ [])
      (hnone : ∀ c ∈ counties, ¬SameCounty q.county c.name) :
      Answers (.error (.countyNotFound (normalizeCounty q.county) q.state))
  /-- No data are served for the county, or none under the key for them. -/
  | noData {counties : List HudCounty} {c : HudCounty} (hsize : Sized q)
      (hlist : ListsCounties base token reply q counties)
      (hcounty : FirstNamed q.county counties c)
      (hdata : ∀ data, ServesData base token reply q c.code data → data.get? "data" = none) :
      Answers (.error
        (.unavailable ("No income limit data found for " ++ q.county ++ ", " ++ q.state)))
  /-- Only the cell is missing, or holds no amount. -/
  | missing {counties : List HudCounty} {c : HudCounty} {data area : Json} (hsize : Sized q)
      (hlist : ListsCounties base token reply q counties)
      (hcounty : FirstNamed q.county counties c)
      (hdata : ServesData base token reply q c.code data) (harea : data.get? "data" = some area)
      (hcell : ∀ cell v, area.At (cellKeys q) cell → ¬ReadsAs cell v) :
      Answers (.error (.missingValue
        (toString q.percent.toNat ++ "% AMI, household of " ++ toString q.size.toNat)))
  | found {counties : List HudCounty} {c : HudCounty} {data cell : Json} {v : Decimal}
      (hsize : Sized q) (hlist : ListsCounties base token reply q counties)
      (hcounty : FirstNamed q.county counties c)
      (hdata : ServesData base token reply q c.code data)
      (hcell : data.At ("data" :: cellKeys q) cell) (hreads : ReadsAs cell v) : Answers (.ok v)

variable {base token reply q}

/-- At most one document is read from the reply to a request. -/
lemma Serves.unique {α : Type} {url : String} {part : Json.Selection} {item : Decoder α} {a b : α}
    (ha : Serves reply token url part item a) (hb : Serves reply token url part item b) :
    a = b := by
  obtain ⟨status, body, hreply, -, -, ha⟩ := ha
  obtain ⟨status', body', hreply', -, -, hb⟩ := hb
  cases hreply.symm.trans hreply'
  exact Option.some.inj (ha.symm.trans hb)

lemma get_eq_ok {α : Type} {part : Json.Selection} {item : Decoder α} {endpoint parameter : String}
    {year : UInt16} {log : List Exchange} {a : α} :
    (get ⟨base, some token⟩ (.fixed reply) part item endpoint parameter year log).1 = .ok a ↔
      Serves reply token (base ++ "/" ++ endpoint ++ "?" ++ parameter ++ "=" ++ toString year.toNat)
        part item a := by
  unfold get Serves
  dsimp only [Service.send, Service.fixed]
  cases reply ⟨.get, base ++ "/" ++ endpoint ++ "?" ++ parameter ++ "=" ++ toString year.toNat,
    some token, none⟩ with
  | unreachable reason => simp
  | answered status body =>
    by_cases hstatus : isSuccess status = true
    · have hrange := hstatus
      simp only [isSuccess, Bool.and_eq_true, decide_eq_true_eq] at hrange
      simp only [hstatus, if_true]
      cases hread : (Json.parseParts? part body).bind item <;> simp [hrange, hread]
    · have hrange : ¬(200 ≤ status ∧ status < 300) := by
        simpa [isSuccess] using hstatus
      simp only [if_neg hstatus]
      constructor
      · intro h
        cases h
      · rintro ⟨_, _, hreply, hlow, hhigh, _⟩
        cases hreply
        exact absurd ⟨hlow, hhigh⟩ hrange

lemma countiesOf_eq_ok {counties : List HudCounty} :
    countiesOf ⟨base, some token⟩ reply (Text.upper q.state, q.year) = .ok counties ↔
      ListsCounties base token reply q counties := by
  unfold countiesOf ListsCounties
  rw [get_eq_ok, Text.upper_upper]
  simp only [String.append_assoc]
  rfl

lemma dataOf_eq_ok {code : String} {data : Json} :
    dataOf ⟨base, some token⟩ reply (q.dataset, code, q.year) = .ok data ↔
      ServesData base token reply q code data := by
  unfold dataOf ServesData
  rw [get_eq_ok]
  cases q.dataset <;> simp only [Dataset.endpoint, String.append_assoc] <;> rfl

lemma cell?_eq_some {area cell : Json} : cell? area q = some cell ↔ area.At (cellKeys q) cell := by
  unfold cell? cellKeys
  cases q.dataset with
  | section8 => simp [Json.at_cons, Json.at_nil]
  | mtsp =>
    dsimp only
    split
    · simp [Json.at_cons, Json.at_nil]
    · simp [Json.at_cons, Json.at_nil, Option.bind_eq_some_iff]

lemma cellAmount?_eq_some {cell : Json} {v : Decimal} :
    cellAmount? cell = some v ↔ ReadsAs cell v := by
  constructor
  · intro h
    cases cell with
    | number n => exact .number h
    | text s => exact .text h
    | _ => cases h
  · rintro (h | h) <;> exact h

lemma find?_eq_some {county : String} {counties : List HudCounty} {c : HudCounty} :
    counties.find? (fun c => Text.sameLetters c.name (normalizeCounty county)) = some c ↔
      FirstNamed county counties c := by
  rw [List.find?_eq_some_iff_append]
  simp only [Bool.not_eq_true', ← Bool.not_eq_true]
  constructor
  · rintro ⟨hmatch, before, after, hsplit, hbefore⟩
    exact ⟨before, after, hsplit, hmatch, hbefore⟩
  · rintro ⟨before, after, hsplit, hmatch, hbefore⟩
    exact ⟨hmatch, before, after, hsplit, hbefore⟩

lemma FirstNamed.countyCode? {counties : List HudCounty} {c : HudCounty}
    (h : FirstNamed q.county counties c) : countyCode? counties q.county q.state = .ok c.code := by
  have hnonempty : counties.isEmpty = false := by
    obtain ⟨before, after, rfl, -, -⟩ := h
    cases before <;> rfl
  simp only [Hud.countyCode?, hnonempty, find?_eq_some.mpr h, Bool.false_eq_true, if_false]

lemma countyCode?_of_none {counties : List HudCounty} (hnonempty : counties ≠ [])
    (hnone : ∀ c ∈ counties, ¬SameCounty q.county c.name) :
    countyCode? counties q.county q.state =
      .error (.countyNotFound (normalizeCounty q.county) q.state) := by
  have hfind : counties.find?
      (fun c => Text.sameLetters c.name (normalizeCounty q.county)) = none :=
    List.find?_eq_none.mpr hnone
  rw [Hud.countyCode?, if_neg (by simpa using hnonempty)]
  simp only [hfind]

/-- A list that is not served is read as an empty one. -/
lemma countiesOf_getD (h : ∀ counties, ListsCounties base token reply q counties → counties = []) :
    (countiesOf ⟨base, some token⟩ reply (Text.upper q.state, q.year)).toOption.getD [] = [] := by
  cases hcounties : countiesOf ⟨base, some token⟩ reply (Text.upper q.state, q.year) with
  | error e => rfl
  | ok counties => exact h counties (countiesOf_eq_ok.mp hcounties)

lemma size_iff : (q.size < 1 ∨ maxHudSize < q.size) ↔ ¬Sized q := by
  rw [UInt64.lt_iff_toNat_lt, UInt64.lt_iff_toNat_lt]
  change q.size.toNat < 1 ∨ 8 < q.size.toNat ↔ _
  unfold Sized
  omega

section Answer

variable {counties : List HudCounty} {c : HudCounty} {a : LimitAnswer}

lemma answer_of_list (hsize : Sized q) (hlist : ListsCounties base token reply q counties) :
    answer ⟨base, some token⟩ reply q = match countyCode? counties q.county q.state with
      | .error e => .error e
      | .ok code =>
        limitIn ((dataOf ⟨base, some token⟩ reply (q.dataset, code, q.year)).toOption.getD .null)
          q := by
  rw [answer, if_neg fun h => size_iff.mp h hsize]
  dsimp only
  rw [countiesOf_eq_ok.mpr hlist]
  rfl

lemma answer_of_county (hsize : Sized q) (hlist : ListsCounties base token reply q counties)
    (hcounty : FirstNamed q.county counties c) : answer ⟨base, some token⟩ reply q =
      limitIn ((dataOf ⟨base, some token⟩ reply (q.dataset, c.code, q.year)).toOption.getD .null)
        q := by
  rw [answer_of_list hsize hlist, hcounty.countyCode?]

lemma answer_of_noCounties (hsize : Sized q)
    (hlist : ∀ counties, ListsCounties base token reply q counties → counties = []) :
    answer ⟨base, some token⟩ reply q =
      .error (.unavailable ("Could not retrieve counties for " ++ q.state)) := by
  rw [answer, if_neg fun h => size_iff.mp h hsize]
  dsimp only
  rw [countiesOf_getD hlist]
  rfl

lemma answer_of_data {data : Json} (hsize : Sized q)
    (hlist : ListsCounties base token reply q counties) (hcounty : FirstNamed q.county counties c)
    (hdata : ServesData base token reply q c.code data) :
    answer ⟨base, some token⟩ reply q = limitIn data q := by
  rw [answer_of_county hsize hlist hcounty, dataOf_eq_ok.mpr hdata]
  rfl

lemma limitIn_of_noData {data : Json} (h : data.get? "data" = none) : limitIn data q =
    .error (.unavailable ("No income limit data found for " ++ q.county ++ ", " ++ q.state)) := by
  simp only [limitIn, h]

lemma limitIn_of_area {data area : Json} (harea : data.get? "data" = some area) :
    limitIn data q = match (cell? area q).bind cellAmount? with
      | some amount => .ok amount
      | none => .error (.missingValue
        (toString q.percent.toNat ++ "% AMI, household of " ++ toString q.size.toNat)) := by
  cases hcell : (cell? area q).bind cellAmount? <;> simp only [limitIn, harea, hcell]

lemma answers_answer : Answers base token reply q (answer ⟨base, some token⟩ reply q) := by
  by_cases hsize : Sized q
  swap
  · rw [answer, if_pos (size_iff.mpr hsize)]
    exact .sizeOutOfRange hsize
  by_cases hempty : ∀ counties, ListsCounties base token reply q counties → counties = []
  · rw [answer_of_noCounties hsize hempty]
    exact .noCounties hsize hempty
  push Not at hempty
  obtain ⟨counties, hlist, hnonempty⟩ := hempty
  cases hfind : counties.find?
      (fun c => Text.sameLetters c.name (normalizeCounty q.county)) with
  | none =>
    have hnone : ∀ c ∈ counties, ¬SameCounty q.county c.name := List.find?_eq_none.mp hfind
    rw [answer_of_list hsize hlist, countyCode?_of_none hnonempty hnone]
    exact .countyNotFound hsize hlist hnonempty hnone
  | some c =>
    have hcounty := find?_eq_some.mp hfind
    cases hdata : dataOf ⟨base, some token⟩ reply (q.dataset, c.code, q.year) with
    | error e =>
      rw [answer_of_county hsize hlist hcounty, hdata]
      refine .noData hsize hlist hcounty fun data hserved => ?_
      cases hdata.symm.trans (dataOf_eq_ok.mpr hserved)
    | ok data =>
      have hserved := dataOf_eq_ok.mp hdata
      rw [answer_of_data hsize hlist hcounty hserved]
      cases harea : data.get? "data" with
      | none =>
        rw [limitIn_of_noData harea]
        exact .noData hsize hlist hcounty fun data' hserved' => hserved.unique hserved' ▸ harea
      | some area =>
        rw [limitIn_of_area harea]
        cases hamount : (cell? area q).bind cellAmount? with
        | none =>
          refine .missing hsize hlist hcounty hserved harea fun cell v hcell hreads => ?_
          rw [cell?_eq_some.mpr hcell, Option.bind_some, cellAmount?_eq_some.mpr hreads] at hamount
          cases hamount
        | some v =>
          obtain ⟨cell, hcell, hreads⟩ := Option.bind_eq_some_iff.mp hamount
          exact .found hsize hlist hcounty hserved (.inside harea (cell?_eq_some.mp hcell))
            (cellAmount?_eq_some.mp hreads)

lemma answer_of_answers (h : Answers base token reply q a) :
    answer ⟨base, some token⟩ reply q = a := by
  cases h with
  | sizeOutOfRange hsize => rw [answer, if_pos (size_iff.mpr hsize)]; rfl
  | noCounties hsize hlist => exact answer_of_noCounties hsize hlist
  | countyNotFound hsize hlist hnonempty hnone =>
    rw [answer_of_list hsize hlist, countyCode?_of_none hnonempty hnone]
  | @noData _ c hsize hlist hcounty hdata =>
    rw [answer_of_county hsize hlist hcounty]
    cases hserved : dataOf ⟨base, some token⟩ reply (q.dataset, c.code, q.year) with
    | error e => rfl
    | ok data => exact limitIn_of_noData (hdata data (dataOf_eq_ok.mp hserved))
  | @missing _ _ _ area hsize hlist hcounty hdata harea hcell =>
    have hnone : (cell? area q).bind cellAmount? = none := by
      rw [Option.eq_none_iff_forall_ne_some]
      intro v hv
      obtain ⟨cell, hcell', hreads⟩ := Option.bind_eq_some_iff.mp hv
      exact hcell cell v (cell?_eq_some.mp hcell') (cellAmount?_eq_some.mp hreads)
    rw [answer_of_data hsize hlist hcounty hdata, limitIn_of_area harea, hnone]
  | found hsize hlist hcounty hdata hcell hreads =>
    obtain ⟨area, harea, hcell⟩ := Json.at_cons.mp hcell
    rw [answer_of_data hsize hlist hcounty hdata, limitIn_of_area harea, cell?_eq_some.mpr hcell,
      Option.bind_some, cellAmount?_eq_some.mpr hreads]

end Answer

section Requests

variable {access : HudAccess} (service : Service) (now ttl : Nat) (log : List Exchange)

lemma get_log (htoken : access.token = some token) {α : Type} (part : Json.Selection)
    (item : Decoder α) (endpoint parameter : String) (year : UInt16) :
    ∃ x, (get access service part item endpoint parameter year log).2 = x :: log := by
  unfold get
  rw [htoken]
  exact ⟨_, rfl⟩

/-- The first fetch of a key asks for it once. -/
lemma fetch_new {κ α : Type} [DecidableEq κ] (default : α) (k : κ)
    {refresh : List Exchange → Except LimitError α × List Exchange} {x : Exchange}
    (hrefresh : (refresh log).2 = x :: log) :
    ∃ v cache, (Cache.new ttl default).fetch now k refresh log = (v, cache, x :: log) := by
  have hstale : ((Cache.new ttl default : Cache κ α).entry k).isFresh ttl now = false := rfl
  obtain ⟨cache, hfetch, -⟩ := Cache.fetch_of_stale hstale rfl refresh log
  exact ⟨_, cache, hrefresh ▸ hfetch⟩

lemma fetchCounties_log (htoken : access.token = some token) (state : String) (year : UInt16) :
    ∃ counties cache x, fetchCounties access service now state year (noCaches ttl) log =
      (counties, ⟨cache, .new ttl .null⟩, x :: log) := by
  obtain ⟨x, hget⟩ := get_log service log htoken
    (.items (.fields Decode.hudCountyFields .everything)) (Decode.list Decode.hudCounty)
    ("fmr/listCounties/" ++ Text.upper (Text.upper state)) "updated" year
  obtain ⟨counties, cache, hfetch⟩ := fetch_new now ttl log [] (Text.upper state, year) hget
  refine ⟨counties, cache, x, ?_⟩
  simp only [fetchCounties, noCaches, hfetch]

lemma fetchData_log (htoken : access.token = some token) (dataset : Dataset) (code : String)
    (year : UInt16) (cache : Cache (String × UInt16) (List HudCounty)) :
    ∃ data caches x, fetchData access service now dataset code year ⟨cache, .new ttl .null⟩ log =
      (data, caches, x :: log) := by
  obtain ⟨x, hget⟩ := get_log service log htoken .everything Decode.any
    (Dataset.endpoint code dataset) "year" year
  obtain ⟨data, cache', hfetch⟩ := fetch_new now ttl log Json.null (dataset, code, year) hget
  refine ⟨data, ⟨cache, cache'⟩, x, ?_⟩
  simp only [fetchData, hfetch]

lemma log_lookup (htoken : access.token = some token) :
    (lookup access service now q (noCaches ttl) log).2.2 = log ↔ ¬Sized q := by
  rw [← size_iff]
  constructor
  · intro hlog
    by_contra hsize
    obtain ⟨counties, cache, x, hcounties⟩ :=
      fetchCounties_log service now ttl log htoken q.state q.year
    rw [lookup, if_neg hsize, hcounties] at hlog
    dsimp only at hlog
    split at hlog
    · exact List.cons_ne_self _ _ hlog
    · rename_i code hcode
      obtain ⟨data, caches, y, hdata⟩ :=
        fetchData_log service now ttl (x :: log) htoken q.dataset code q.year cache
      rw [hdata] at hlog
      have hlength := congrArg List.length hlog
      simp only [List.length_cons] at hlength
      omega
  · intro hsize
    rw [lookup, if_pos hsize]

end Requests

/-- A client that was never asked before answers with the one cell that was asked for, or with the
one failure that fits, and sends nothing where it answers that the size is out of range. -/
theorem lookup_new_eq_iff (base token : String) (reply : Request → Reply) (now ttl : Nat)
    (q : AmiQuery) (log : List Exchange) (a : LimitAnswer) :
    let asked := lookup ⟨base, some token⟩ (.fixed reply) now q (noCaches ttl) log
    (asked.1 = a ↔ Answers base token reply q a) ∧ (asked.2.2 = log ↔ ¬Sized q) := by
  have hnew : Mirrored ⟨base, some token⟩ reply (noCaches ttl) :=
    ⟨Cache.mirrors_new _ _ _, Cache.mirrors_new _ _ _⟩
  refine ⟨?_, log_lookup _ now ttl log rfl⟩
  rw [(lookup_mirrored hnew now q log).1]
  refine ⟨?_, answer_of_answers⟩
  rintro rfl
  exact answers_answer

end Hud

end BenefitScreen
