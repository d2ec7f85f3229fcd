import BenefitScreen.Decimal.Conversion
import BenefitScreen.Json.Basic

/-!
What a variable of a simulation is attached to, and the values that variables take.
-/

namespace BenefitScreen.Simulation

/-- What a variable is attached to. -/
inductive Scope where
  | person
  /-- Every tax return with members. -/
  | taxUnit
  /-- All members, as a unit for poverty measures. -/
  | spmUnit
  /-- All members, as a household. -/
  | household
  deriving DecidableEq, Repr

def Scope.name : Scope → String
  | person => "person"
  | taxUnit => "tax_unit"
  | spmUnit => "spm_unit"
  | household => "household"

/-- A value that is sent to the simulation. -/
inductive Value where
  | flag (value : Bool)
  | number (amount : Decimal)
  | text (value : String)
  /-- Left for the simulation to compute, unlike a zero. -/
  | deferred
  deriving DecidableEq

namespace Value

/-- A whole amount within 64 bits is a whole number, any other a binary one. -/
def amountJson (a : Decimal) : Json :=
  let n := a.trunc.signed
  if a.isWhole && Int64.minValue.toInt ≤ n && n ≤ Int64.maxValue.toInt then .ofInt n
  else match a.toBinary64? with
    | some x => .number (.double x)
    | none => .null

def toJson : Value → Json
  | flag b => .bool b
  | number a => amountJson a
  | text s => .text s
  | deferred => .null

end Value

end BenefitScreen.Simulation
