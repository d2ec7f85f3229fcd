import BenefitScreen.EngineError
import BenefitScreen.Household
import BenefitScreen.Outcome

/-!
Poverty guidelines, checks of income against a share of them, and the age rule that several
programs share.
-/

namespace BenefitScreen

/-- Poverty guidelines of one year, the first for a household of one. -/
structure PovertyTable where
  limits : List Decimal
  /-- What each person beyond the table adds. -/
  additionalPerson : Decimal
  deriving DecidableEq

namespace PovertyTable

/-- The guideline for a household of `size`; nobody counts as one person. -/
def limit (t : PovertyTable) (size : UInt64) : Except Overflow Decimal :=
  let n := max size.toNat 1
  match t.limits[n - 1]? with
  | some amount => .ok amount
  | none => do
    let beyond := UInt64.ofNat (n - t.limits.length)
    (t.limits.getLast?.getD .zero).add (← t.additionalPerson.mul (.whole beyond))

def decreases : List Decimal → Bool
  | a :: b :: rest => b < a || decreases (b :: rest)
  | _ => false

def defect? (t : PovertyTable) : Option TableDefect :=
  if t.limits.isEmpty then some .noSizes
  else if t.limits.any fun l => l ≤ .zero then some .limitNotPositive
  else if decreases t.limits then some .limitsDecrease
  else if t.additionalPerson ≤ .zero then some .additionNotPositive
  else none

/-- Refuses a table under the name `table` that is empty, not positive or decreasing. -/
def validate (t : PovertyTable) (table : String) : Except EngineError Unit :=
  match t.defect? with
  | some d => .error (.invalidTable table d)
  | none => .ok ()

end PovertyTable

/-- Gross income against a share of the guideline. Income and limits count in whole dollars, and
income at a limit passes. -/
structure PovertyCheck where
  /-- The ceiling as a share of the guideline. -/
  maxPercent : Decimal
  /-- The floor, if there is one. -/
  minPercent : Option Decimal
  filters : List IncomeFilter

namespace PovertyCheck

def atMost (maxPercent : Decimal) : PovertyCheck := ⟨maxPercent, none, [.all]⟩

/-- The household size with each pregnant member counted twice. -/
def adjustedSize (h : Household) : UInt64 := h.size + .ofNat h.pregnantCount

/-- A share of the guideline in whole dollars. -/
def limit (t : PovertyTable) (size : UInt64) (percent : Decimal) : Except Overflow Decimal := do
  return (← (← t.limit size).mul percent).trunc

/-- Whether a yearly income passes for a household of `size`, and what it was compared with. -/
def verdict (c : PovertyCheck) (t : PovertyTable) (size : UInt64) (income : Decimal) :
    Except Overflow (Bool × Message) := do
  let income := income.trunc
  let ceiling ← limit t size c.maxPercent
  match c.minPercent with
  | some percent => do
    let floor ← limit t size percent
    return (floor ≤ income && income ≤ ceiling, .incomeRange income floor ceiling)
  | none => return (income ≤ ceiling, .income income ceiling)

/-- Checks a yearly income for a household of `size`: says whether it passes, and records that
after the conditions `cs`. -/
def checkIncome (c : PovertyCheck) (t : PovertyTable) (size : UInt64) (income : Decimal)
    (cs : Conditions) : Except Overflow (Bool × Conditions) := do
  let (passed, message) ← c.verdict t size income
  return (passed, cs ++ [checkFor passed message])

/-- Checks the gross income of a household, each pregnant member counted twice. -/
def checkHousehold (c : PovertyCheck) (h : Household) (t : PovertyTable) (cs : Conditions) :
    Except Overflow (Bool × Conditions) := do
  let income ← h.grossIncome .yearly c.filters
  c.checkIncome t (adjustedSize h) income cs

end PovertyCheck

/-- Old enough, or disabled and at least of a lower age. -/
structure AgeRule where
  seniorAge : UInt32
  disabilityMinAge : UInt32

namespace AgeRule

/-- A member of unknown age passes only with a disability and without a lower age. -/
def passes (r : AgeRule) (m : Member) : Bool :=
  match m.age with
  | some age => r.seniorAge ≤ age || (r.disabilityMinAge ≤ age && m.hasDisability)
  | none => r.disabilityMinAge == 0 && m.hasDisability

def any (r : AgeRule) (h : Household) : Bool := h.members.any r.passes

end AgeRule

end BenefitScreen
