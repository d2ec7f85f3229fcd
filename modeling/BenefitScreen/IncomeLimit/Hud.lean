import BenefitScreen.Cache.Basic
import BenefitScreen.Exchange
import BenefitScreen.IncomeLimit.County
import BenefitScreen.Json.Decode
import BenefitScreen.Json.Text
import BenefitScreen.Text.Upper

/-!
Income limits by share of the area median income, from the HUD service.

The county's code is looked up in the list of its state, and the limit in the data of that code.
Lists and data are kept in caches.
-/

namespace BenefitScreen

def maxHudSize : UInt64 := 8

/-- A county in the list of a state. -/
structure HudCounty where
  name : String
  code : String
  deriving DecidableEq, Repr

/-- Where the service is and how to be let in. -/
structure HudAccess where
  baseUrl : String
  token : Option String

/-- What was fetched from the service so far. -/
structure HudCaches where
  counties : Cache (String × UInt16) (List HudCounty)
  data : Cache (Dataset × String × UInt16) Json

namespace HudAccess

/-- A base without the slashes at its end. -/
def of (baseUrl : String) (token : Option String) : HudAccess :=
  ⟨String.ofList ((baseUrl.toList.reverse.dropWhile (· == '/')).reverse), token⟩

end HudAccess

namespace Decode

open Slot

def hudCountyFields : List String := ["county_name", "fips_code"]

def hudCounty : Decoder HudCounty := fun j => do
  let [name, code] ← slots hudCountyFields j | none
  return ⟨← name.required text, ← code.required text⟩

end Decode

namespace Hud

def statusText (endpoint : String) (status : Nat) (body : String) : String :=
  match status with
  | 401 => "Authentication failed. Check the HUD API token is set and valid."
  | 403 => "Access denied. The HUD API token lacks access to this dataset."
  | 404 => "Not found: " ++ endpoint
  | code => "API request failed (" ++ toString code ++ "): " ++ body

/-- Asks for an endpoint in a year and reads parts of the answer; without a token nothing is
sent. -/
def get {α : Type} (access : HudAccess) (service : Service) (part : Json.Selection)
    (item : Decoder α) (endpoint parameter : String) (year : UInt16) (log : List Exchange) :
    Except LimitError α × List Exchange :=
  match access.token with
  | none => (.error (.unavailable "HUD API token is not configured"), log)
  | some token =>
    let url := access.baseUrl ++ "/" ++ endpoint ++ "?" ++ parameter ++ "=" ++ toString year.toNat
    let (reply, log) := service.send ⟨.get, url, some token, none⟩ log
    let answer : Except LimitError α := match reply with
      | .unreachable reason => .error (.unavailable ("Request failed: " ++ reason))
      | .answered status body =>
        if isSuccess status then
          match (Json.parseParts? part body).bind item with
          | some a => .ok a
          | none => .error (.unavailable ("Invalid response: " ++ undecodable))
        else .error (.unavailable (statusText endpoint status body))
    (answer, log)

def Dataset.endpoint (code : String) : Dataset → String
  | .mtsp => "mtspil/data/" ++ code
  | .section8 => "il/data/" ++ code

def countyCode? (counties : List HudCounty) (county state : String) : Except LimitError String :=
  if counties.isEmpty then .error (.unavailable ("Could not retrieve counties for " ++ state))
  else
    let name := normalizeCounty county
    match counties.find? fun c => Text.sameLetters c.name name with
    | some c => .ok c.code
    | none => .error (.countyNotFound name state)

/-- The cell of a county's data for a dataset, a share and a size. -/
def cell? (area : Json) (q : AmiQuery) : Option Json :=
  let percent := toString q.percent.toNat
  let size := toString q.size.toNat
  match q.dataset with
  | .mtsp =>
    if q.percent = 100 then area.get? "median_income"
    else (area.get? (percent ++ "percent")).bind fun tier =>
      tier.get? ("il" ++ percent ++ "_p" ++ size)
  | .section8 => area.get? ("l" ++ percent ++ "_" ++ size)

/-- A cell as an amount, from its digits as they are written. -/
def cellAmount? : Json → Option Decimal
  | .number n => Decimal.parse? n.render
  | .text s => Decimal.parse? s
  | _ => none

def limitIn (data : Json) (q : AmiQuery) : LimitAnswer :=
  match data.get? "data" with
  | none =>
    .error (.unavailable ("No income limit data found for " ++ q.county ++ ", " ++ q.state))
  | some area =>
    match (cell? area q).bind cellAmount? with
    | some amount => .ok amount
    | none => .error (.missingValue
      (toString q.percent.toNat ++ "% AMI, household of " ++ toString q.size.toNat))

def fetchCounties (access : HudAccess) (service : Service) (now : Nat) (state : String)
    (year : UInt16) (caches : HudCaches) (log : List Exchange) :
    List HudCounty × HudCaches × List Exchange :=
  let state := Text.upper state
  let (counties, cache, log) := caches.counties.fetch now (state, year)
    (get access service (.items (.fields Decode.hudCountyFields .everything))
      (Decode.list Decode.hudCounty) ("fmr/listCounties/" ++ Text.upper state) "updated" year) log
  (counties, { caches with counties := cache }, log)

def fetchData (access : HudAccess) (service : Service) (now : Nat) (dataset : Dataset)
    (code : String) (year : UInt16) (caches : HudCaches) (log : List Exchange) :
    Json × HudCaches × List Exchange :=
  let (data, cache, log) := caches.data.fetch now (dataset, code, year)
    (get access service .everything Decode.any (Dataset.endpoint code dataset) "year" year) log
  (data, { caches with data := cache }, log)

def noCaches (ttl : Nat) : HudCaches := ⟨.new ttl [], .new ttl .null⟩

def lookup (access : HudAccess) (service : Service) (now : Nat) (q : AmiQuery)
    (caches : HudCaches) (log : List Exchange) : LimitAnswer × HudCaches × List Exchange :=
  if q.size < 1 ∨ maxHudSize < q.size then
    (.error (.sizeOutOfRange q.size 1 maxHudSize), caches, log)
  else
    let (counties, caches, log) := fetchCounties access service now q.state q.year caches log
    match countyCode? counties q.county q.state with
    | .error e => (.error e, caches, log)
    | .ok code =>
      let (data, caches, log) := fetchData access service now q.dataset code q.year caches log
      (limitIn data q, caches, log)

end Hud

end BenefitScreen
