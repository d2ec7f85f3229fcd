import BenefitScreen.Decimal.Text
import BenefitScreen.IncomeLimit.Query
import BenefitScreen.Text.Blank

/-!
Income limits by county from a published sheet.

A row of the sheet holds a county and its limits for one person, two people and so on.
-/

namespace BenefitScreen

/-- The county's name without outer blanks and with the word at its end. No letters but those of
ASCII have a letter of the word as their lower case. -/
def normalizeCounty (county : String) : String :=
  let name := Text.trim county
  if Text.endsInLetters name "county" then name else name ++ " County"

/-- Limits by normalized county name, `none` where the sheet has no amount. -/
structure CountyTable where
  rows : Table (List (Option Decimal))

namespace CountyTable

def empty : CountyTable := ⟨.empty⟩

/-- An amount without outer blanks, dollar signs and thousands separators. -/
def amount? (cell : String) : Option Decimal :=
  let digits := (Text.trimChars cell.toList).filter fun c => c != '$' && c != ','
  if digits.isEmpty then none else Decimal.parse? (String.ofList digits)

/-- The table of a sheet's records. Records without a county are left out; of records of one
county the last counts. -/
def ofRecords (records : List (List String)) : CountyTable :=
  ⟨Table.ofList (records.filterMap fun
    | [] => none
    | county :: cells =>
      if (Text.trimChars county.toList).isEmpty then none
      else some (normalizeCounty county, cells.map amount?))⟩

def isEmpty (t : CountyTable) : Bool := t.rows.isEmpty

/-- The limits of the first county, in the order of names, that has the name up to case. -/
def row? (t : CountyTable) (county : String) : Option (List (Option Decimal)) :=
  (t.rows.entries.find? fun e => Text.sameLetters e.1 county).map (·.2)

/-- The limit for a household of `size` in a county. -/
def lookup (t : CountyTable) (county state : String) (size : UInt64) : LimitAnswer :=
  if t.isEmpty then
    .error (.unavailable ("county income limits for " ++ state ++ " are not loaded"))
  else
    let county := normalizeCounty county
    match t.row? county with
    | none => .error (.countyNotFound county state)
    | some amounts =>
      if hsize : size.toNat = 0 ∨ amounts.length < size.toNat then
        .error (.sizeOutOfRange size 1 (.ofNat amounts.length))
      else
        have hcell : size.toNat - 1 < amounts.length := by omega
        match amounts[size.toNat - 1] with
        | none => .error (.missingValue (county ++ ", household of " ++ toString size.toNat))
        | some amount => .ok amount

end CountyTable

end BenefitScreen
