import BenefitScreen.IncomeLimit.Csv
import BenefitScreen.IncomeLimit.Hud

/-!
Published income limits from both sources: HUD, and the sheet of one state's counties.
-/

namespace BenefitScreen

/-- Where published limits come from. -/
structure LimitSources where
  hud : HudAccess
  /-- The one state that the sheet covers, in capitals. -/
  countyState : String
  sheetUrl : String

/-- What was fetched from the sources so far. -/
structure LimitCaches where
  hud : HudCaches
  sheet : Cache Unit CountyTable

namespace LimitSources

def noCaches (hudTtl sheetTtl : Nat) : LimitCaches :=
  ⟨Hud.noCaches hudTtl, .new sheetTtl .empty⟩

def downloadSheet (sources : LimitSources) (service : Service) (log : List Exchange) :
    Except LimitError CountyTable × List Exchange :=
  let (reply, log) := service.send ⟨.get, sources.sheetUrl, none, none⟩ log
  let answer : Except LimitError CountyTable := match reply with
    | .unreachable reason => .error (.unavailable reason)
    | .answered status body =>
      if isSuccess status then
        match Csv.countyTable? body.toUTF8.toList with
        | some table => .ok table
        | none => .error (.unavailable "a record is not UTF-8")
      else .error (.unavailable ("spreadsheet export returned " ++ toString status))
  (answer, log)

def lookup (sources : LimitSources) (service : Service) (now : Nat) (q : LimitQuery)
    (caches : LimitCaches) (log : List Exchange) : LimitAnswer × LimitCaches × List Exchange :=
  match q with
  | .ami q =>
    let (answer, hud, log) := Hud.lookup sources.hud service now q caches.hud log
    (answer, { caches with hud }, log)
  | .county state county size =>
    if Text.sameLetters state sources.countyState then
      let (table, sheet, log) := caches.sheet.fetch now () (sources.downloadSheet service) log
      (table.lookup county state size, { caches with sheet }, log)
    else (.error (.countyNotFound (normalizeCounty county) state), caches, log)

end LimitSources

end BenefitScreen
