import BenefitScreen.Decimal.Conversion
import BenefitScreen.Member
import BenefitScreen.Simulation.Document
import BenefitScreen.Simulation.Output

/-!
Reading computed values out of a simulation's answer.

A person, group, variable or period that is missing reads as zero, false or nothing.
-/

namespace BenefitScreen.Simulation

/-- A whole number of 64 bits is taken exactly, another one as the nearest binary number. -/
def numberAmount? : Json.Number → Option Decimal
  | .int n =>
    if Int64.minValue.toInt ≤ n ∧ n ≤ Int64.maxValue.toInt then Decimal.ofInt? n
    else (Binary64.nearest? (n < 0) n.natAbs 1).bind Decimal.ofBinary64?
  | .double x => Decimal.ofBinary64? x

/-- A value as an amount. Numbers are rounded to cents; text keeps its digits. -/
def amountOf : Json → Decimal
  | .number n => ((numberAmount? n).map fun a => a.roundTo 2).getD .zero
  | .bool b => if b then .one else .zero
  | .text s => (Decimal.parse? s).getD .zero
  | _ => .zero

/-- A value as a flag; a number counts if its amount is not zero. -/
def flagOf : Json → Bool
  | .bool b => b
  | .number n => !(amountOf (.number n)).isZero
  | _ => false

/-- What a simulation computed for a period. -/
structure Response where
  document : Document
  period : String

namespace Response

def memberValue? (r : Response) (output : Output) (id : MemberId) : Option Json :=
  (r.document.people.get? id.text).bind fun fields => fields.value? output.field r.period

def memberAmount (r : Response) (output : Output) (id : MemberId) : Decimal :=
  ((r.memberValue? output id).map amountOf).getD .zero

def memberFlag (r : Response) (output : Output) (id : MemberId) : Bool :=
  (r.memberValue? output id).any flagOf

def memberText? (r : Response) (output : Output) (id : MemberId) : Option String :=
  (r.memberValue? output id).bind Json.text?

/-- The fields of everyone or everything that an output is attached to. -/
def fieldsOf (d : Document) : Scope → List Fields
  | .person => d.people.values
  | .taxUnit => d.taxUnits.values.map Group.fields
  | .spmUnit => d.spmUnits.values.map Group.fields
  | .household => d.households.values.map Group.fields

/-- The sum of an output over everyone or everything that it is attached to. -/
def total (r : Response) (output : Output) : Except Overflow Decimal :=
  Decimal.sum (((fieldsOf r.document output.scope).filterMap fun fields =>
    fields.value? output.field r.period).map amountOf)

end Response

end BenefitScreen.Simulation
