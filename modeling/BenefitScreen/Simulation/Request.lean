import BenefitScreen.EngineError
import BenefitScreen.Simulation.Document
import BenefitScreen.Simulation.Variables

/-!
The document that asks a simulation about a household.

Every member is a person and is in the one family, household and SPM unit, in at most one tax unit
and in one marital unit. Inputs are written with their values and outputs as empty slots.
-/

namespace BenefitScreen.Simulation

def familyKey : String := "family"

def householdKey : String := "household"

def spmUnitKey : String := "spm_unit"

namespace Document

/-- The smaller and the larger identifier of the head and the partner. -/
def couple? (h : Household) : Option (MemberId × MemberId) := do
  let a := (← h.head?).id
  let b := (← h.spouse?).id
  if a.number ≤ b.number then some (a, b) else some (b, a)

/-- The couple in one unit, everybody else alone. -/
def maritalUnitsOf (h : Household) : Table Group :=
  let couple := couple? h
  let start : Table Group := match couple with
    | some (a, b) => Table.empty.insert (a.text ++ "-" ++ b.text) (.of [a.text, b.text])
    | none => .empty
  (h.members.filter fun m => !couple.any fun c => m.id == c.1 || m.id == c.2).foldl
    (fun units m => units.insert m.id.text (.of [m.id.text])) start

/-- The one group of all members under a key, if there are members. -/
def everyone (h : Household) (key : String) : Table Group :=
  if h.members.isEmpty then .empty
  else Table.empty.insert key (.of (h.members.map fun m => m.id.text))

def skeleton (h : Household) (taxUnits : TaxUnits) : Document where
  people := .ofList (h.members.map fun m => (m.id.text, .empty))
  taxUnits := .ofList
    (taxUnits.units.map fun u => (u.key, .of ((taxUnits.membersOf u).map MemberId.text)))
  families := everyone h familyKey
  households := everyone h householdKey
  spmUnits := everyone h spmUnitKey
  maritalUnits := maritalUnitsOf h

/-- The groups that variables of a scope are attached to. -/
def groupKind : Scope → GroupKind
  | .taxUnit => .taxUnits
  | .spmUnit => .spmUnits
  | .household => .households
  | .person => .households

def writePerson (d : Document) (id : MemberId) (field period : String) (v : Json) :
    Except EngineError Document :=
  match d.people.get? id.text with
  | none => .ok d
  | some fields =>
    match fields.write? field period v with
    | some fields => .ok { d with people := d.people.insert id.text fields }
    | none => .error (.conflictingValues "people" id.text field)

def writeGroup (kind : GroupKind) (field period : String) (v : Json) (d : Document) (key : String) :
    Except EngineError Document :=
  match (d.groups kind).get? key with
  | none => .ok d
  | some group =>
    match group.fields.write? field period v with
    | some fields => .ok (d.withGroups kind ((d.groups kind).insert key { group with fields }))
    | none => .error (.conflictingValues kind.name key field)

/-- Writes the values of an input for everyone or everything that it is attached to. -/
def writeInput (h : Household) (taxUnits : TaxUnits) (period : String) (d : Document)
    (input : Input) : Except EngineError Document :=
  match input.scope with
  | .person =>
    h.members.foldlM (fun d m => do
      let v ← EngineError.ofOverflow (input.value h taxUnits (some m))
      d.writePerson m.id input.field period v.toJson) d
  | scope => do
    let v ← EngineError.ofOverflow (input.value h taxUnits none)
    let kind := groupKind scope
    (d.groups kind).keys.foldlM (writeGroup kind input.field period v.toJson) d

def reserveOutput (period : String) (d : Document) (output : Output) : Document :=
  match output.scope with
  | .person => { d with people := d.people.map fun _ fields => fields.reserve output.field period }
  | scope =>
    let kind := groupKind scope
    d.withGroups kind ((d.groups kind).map fun _ group =>
      { group with fields := group.fields.reserve output.field period })

/-- The document for a household and the variables of some programs. -/
def build (h : Household) (specs : List Variables) (period : String) :
    Except EngineError Document := do
  let taxUnits ← EngineError.ofOverflow (TaxUnits.classify h)
  let d ← (Variables.allInputs specs).members.foldlM (writeInput h taxUnits period)
    (skeleton h taxUnits)
  return (Variables.allOutputs specs).members.foldl (reserveOutput period) d

end Document

end BenefitScreen.Simulation
