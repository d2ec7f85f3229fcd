import BenefitScreen.Poverty
import BenefitScreen.Wire.Format

/-!
Poverty guidelines in a notation for records, and as JSON.
-/

namespace BenefitScreen

open Decode.Slot

def Format.povertyTable {V : Type} (f : Format V) (v : V) : Option PovertyTable := do
  let [limits, additional] ← f.slots ["limits", "additional_person"] v | none
  return {
    limits := ← limits.required (f.list f.decimal)
    additionalPerson := ← additional.required f.decimal }

def Decode.povertyTable : Decoder PovertyTable := Format.json.povertyTable

def Encode.povertyTable (t : PovertyTable) : Json := .object [
  ("limits", list decimal t.limits),
  ("additional_person", decimal t.additionalPerson)]

end BenefitScreen
