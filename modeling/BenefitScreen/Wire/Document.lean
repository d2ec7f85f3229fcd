import BenefitScreen.Json.Decode
import BenefitScreen.Simulation.Document

/-!
Simulation documents as JSON. The variables of a group stand beside its list of members.
-/

namespace BenefitScreen

open Simulation

namespace Decode

open Slot

def fields : Decoder Fields := table (table any)

/-- Without a list of members a group has none. -/
def group : Decoder Group
  | .object ms => do
    let members ← match ms.filter fun m => m.1 == "members" with
      | [] => some []
      | [m] => list text m.2
      | _ => none
    return ⟨members, ← fields (.object (ms.filter fun m => m.1 != "members"))⟩
  | _ => none

def groupKinds : List GroupKind := [.taxUnits, .families, .households, .spmUnits, .maritalUnits]

def documentFields : List String := "people" :: groupKinds.map GroupKind.name

def document : Decoder Document := fun j => do
  let people :: groups ← slots documentFields j | none
  let [taxUnits, families, households, spmUnits, maritalUnits] ←
    groups.mapM fun slot => slot.orElse (table group) .empty | none
  return ⟨← people.orElse (table fields) .empty, taxUnits, families, households, spmUnits,
    maritalUnits⟩

end Decode

namespace Encode

def fields (f : Fields) : Json := table (table id) f

def group (g : Group) : Json :=
  .object (("members", list text g.members) :: g.fields.entries.map fun e => (e.1, table id e.2))

def document (d : Document) : Json := .object [
  ("people", table fields d.people),
  ("tax_units", table group d.taxUnits),
  ("families", table group d.families),
  ("households", table group d.households),
  ("spm_units", table group d.spmUnits),
  ("marital_units", table group d.maritalUnits)]

end Encode

end BenefitScreen
