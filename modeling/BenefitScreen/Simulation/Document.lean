import BenefitScreen.Json.Basic
import BenefitScreen.Table

/-!
The document that a simulation takes and gives back: people, units of people, and for each of them
the values of variables by period.
-/

namespace BenefitScreen.Simulation

abbrev Fields := Table (Table Json)

namespace Fields

/-- The value of a variable in a period, also where it is null. -/
def slot? (f : Fields) (field period : String) : Option Json :=
  (f.get? field).bind fun periods => periods.get? period

def value? (f : Fields) (field period : String) : Option Json :=
  (f.slot? field period).filter fun v => !v.isNull

def put (f : Fields) (field period : String) (v : Json) : Fields :=
  f.insert field (((f.get? field).getD .empty).insert period v)

/-- Writes a value into a slot that is free or holds that value already. -/
def write? (f : Fields) (field period : String) (v : Json) : Option Fields :=
  match f.slot? field period with
  | some old => if old.same v then some f else none
  | none => some (f.put field period v)

/-- Makes a slot for a value to be computed; one that is there already is kept. -/
def reserve (f : Fields) (field period : String) : Fields :=
  match f.slot? field period with
  | some _ => f
  | none => f.put field period .null

end Fields

/-- Some people together, and the values that concern them together. -/
structure Group where
  members : List String
  fields : Fields

def Group.of (members : List String) : Group := ⟨members, .empty⟩

/-- The kinds of groups. -/
inductive GroupKind where
  | taxUnits
  | families
  | households
  | spmUnits
  | maritalUnits
  deriving DecidableEq, Repr

def GroupKind.name : GroupKind → String
  | taxUnits => "tax_units"
  | families => "families"
  | households => "households"
  | spmUnits => "spm_units"
  | maritalUnits => "marital_units"

/-- The values for people and groups, each under a key. -/
structure Document where
  people : Table Fields
  taxUnits : Table Group
  families : Table Group
  households : Table Group
  spmUnits : Table Group
  maritalUnits : Table Group

namespace Document

def empty : Document := ⟨.empty, .empty, .empty, .empty, .empty, .empty⟩

instance : Inhabited Document := ⟨empty⟩

def groups (d : Document) : GroupKind → Table Group
  | .taxUnits => d.taxUnits
  | .families => d.families
  | .households => d.households
  | .spmUnits => d.spmUnits
  | .maritalUnits => d.maritalUnits

def withGroups (d : Document) (kind : GroupKind) (groups : Table Group) : Document :=
  match kind with
  | .taxUnits => { d with taxUnits := groups }
  | .families => { d with families := groups }
  | .households => { d with households := groups }
  | .spmUnits => { d with spmUnits := groups }
  | .maritalUnits => { d with maritalUnits := groups }

end Document

end BenefitScreen.Simulation
