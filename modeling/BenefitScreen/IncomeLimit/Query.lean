import BenefitScreen.Decimal.Basic
import BenefitScreen.Table
import BenefitScreen.Text.Quoted

/-!
Questions for published income limits, the failures to answer them, and the answers gathered for
one evaluation.
-/

namespace BenefitScreen

/-- Why a published limit could not be found. -/
inductive LimitError where
  /-- The county is not in the published table. -/
  | countyNotFound (county state : String)
  /-- The table covers sizes from `min` to `max`. -/
  | sizeOutOfRange (size min max : UInt64)
  /-- The cell is blank or unknown. -/
  | missingValue (detail : String)
  /-- The source could not be reached or gave nothing usable. -/
  | unavailable (message : String)
  deriving DecidableEq, Repr

def LimitError.text : LimitError → String
  | countyNotFound county state => "County not found: " ++ county ++ ", " ++ state
  | sizeOutOfRange size min max =>
    "Household size " ++ toString size.toNat ++ " is outside the published range " ++
      toString min.toNat ++ "-" ++ toString max.toNat
  | missingValue detail => "No income limit published for " ++ detail
  | unavailable message => "Income limit source unavailable: " ++ message

/-- The tables of area median income that are published. -/
inductive Dataset where
  /-- Limits for subsidized multifamily projects. -/
  | mtsp
  /-- Limits for housing vouchers. -/
  | section8
  deriving DecidableEq, Repr

/-- A tier of the area median income. -/
structure AmiQuery where
  dataset : Dataset
  state : String
  county : String
  year : UInt16
  percent : UInt8
  size : UInt64
  deriving DecidableEq, Repr

/-- One income limit that a program needs. -/
inductive LimitQuery where
  | ami (query : AmiQuery)
  | county (state county : String) (size : UInt64)
  deriving DecidableEq, Repr

def Dataset.label : Dataset → String
  | mtsp => "Mtsp"
  | section8 => "Section8"

def LimitQuery.describe : LimitQuery → String
  | ami q =>
    "Ami(AmiQuery \x7b dataset: " ++ q.dataset.label ++ ", state: " ++ Text.quote q.state ++
      ", county: " ++ Text.quote q.county ++ ", year: " ++ toString q.year.toNat ++
      ", percent: " ++ toString q.percent.toNat ++ ", household_size: " ++
      toString q.size.toNat ++ " \x7d)"
  | county state name size =>
    "County \x7b state: " ++ Text.quote state ++ ", county: " ++ Text.quote name ++
      ", household_size: " ++ toString size.toNat ++ " \x7d"

abbrev LimitAnswer := Except LimitError Decimal

instance : DecidableEq LimitAnswer := fun a b =>
  match a, b with
  | .ok x, .ok y => decidable_of_iff (x = y) (by simp)
  | .error e, .error f => decidable_of_iff (e = f) (by simp)
  | .ok _, .error _ => isFalse (by simp)
  | .error _, .ok _ => isFalse (by simp)

/-- The answers of one evaluation, the latest first. -/
structure ResolvedLimits where
  answers : List (LimitQuery × LimitAnswer)

namespace ResolvedLimits

def empty : ResolvedLimits := ⟨[]⟩

def find? (l : ResolvedLimits) (q : LimitQuery) : Option LimitAnswer :=
  (l.answers.find? fun a => a.1 == q).map (·.2)

/-- Records an answer over an earlier one. -/
def insert (l : ResolvedLimits) (q : LimitQuery) (a : LimitAnswer) : ResolvedLimits :=
  ⟨(q, a) :: l.answers⟩

/-- The answer for a query; one that nobody asked for is unavailable. -/
def get (l : ResolvedLimits) (q : LimitQuery) : LimitAnswer :=
  (l.find? q).getD (.error (.unavailable ("income limit was not requested: " ++ q.describe)))

/-- Asks each distinct query once, in order, of a provider with a state of its own. -/
def resolve {σ : Type} (ask : LimitQuery → σ → LimitAnswer × σ) :
    List LimitQuery → ResolvedLimits → σ → ResolvedLimits × σ
  | [], l, s => (l, s)
  | q :: qs, l, s =>
    if (l.find? q).isSome then resolve ask qs l s
    else
      let (a, s) := ask q s
      resolve ask qs (l.insert q a) s

end ResolvedLimits

end BenefitScreen
