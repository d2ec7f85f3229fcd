import BenefitScreen.DataField
import BenefitScreen.Outcome
import BenefitScreen.Wire.Household

/-!
Messages, conditions and results as JSON.

A message is a record with its kind under `kind`, a lookup failure one with its reason under
`reason`. Inside a message a reason may also be given by its number.
-/

namespace BenefitScreen

namespace Decode

open Slot

/-- A lookup failure whose reason is read by `name`. -/
def limitErrorBy (name : Decoder String) : Decoder LimitError := fun j => do
  let (reason, rest) ← variant "reason" name j
  match reason with
  | "county_not_found" => do
    let [county, state] ← slots ["county", "state"] rest | none
    return .countyNotFound (← county.required text) (← state.required text)
  | "household_size_out_of_range" => do
    let [size, min, max] ← slots ["size", "min", "max"] rest | none
    return .sizeOutOfRange (← size.required uint64) (← min.required uint64) (← max.required uint64)
  | "missing_value" => do
    let [detail] ← slots ["detail"] rest | none
    return .missingValue (← detail.required text)
  | "unavailable" => do
    let [message] ← slots ["message"] rest | none
    return .unavailable (← message.required text)
  | _ => none

def limitError : Decoder LimitError := limitErrorBy text

/-- The reasons of lookup failures in the order of their numbers. -/
def limitReasons : List String :=
  ["county_not_found", "household_size_out_of_range", "missing_value", "unavailable"]

def message : Decoder Message := fun j => do
  let (kind, rest) ← variant "kind" text j
  match kind with
  | "income" => do
    let [income, maxIncome] ← slots ["income", "max_income"] rest | none
    return .income (← income.required decimal) (← maxIncome.required decimal)
  | "income_range" => do
    let [income, minIncome, maxIncome] ← slots ["income", "min_income", "max_income"] rest | none
    return .incomeRange (← income.required decimal) (← minIncome.required decimal)
      (← maxIncome.required decimal)
  | "income_limit_unknown" => do
    let [failure] ← slots ["failure"] rest | none
    return .incomeLimitUnknown
      (← failure.optional (limitErrorBy (nameOrNumber limitReasons)))
  | "unable_to_determine" => do
    let [detail] ← slots ["detail"] rest | none
    return .unableToDetermine (← detail.required text)
  | "presumed_eligibility" => (noFields rest).map fun _ => .presumedEligibility
  | "assets" => do
    let [limit] ← slots ["asset_limit"] rest | none
    return .assets (← limit.required decimal)
  | "child" => do
    let [minAge, maxAge] ← slots ["min_age", "max_age"] rest | none
    return .child (← minAge.required uint32) (← maxAge.required uint32)
  | "adult" => do
    let [minAge, maxAge] ← slots ["min_age", "max_age"] rest | none
    return .adult (← minAge.required uint32) (← maxAge.required uint32)
  | "older_than" => do
    let [minAge] ← slots ["min_age"] rest | none
    return .olderThan (← minAge.required uint32)
  | "must_have_benefit" => do
    let [benefit] ← slots ["benefit"] rest | none
    return .mustHaveBenefit (← benefit.required text)
  | "must_not_have_benefit" => do
    let [benefit] ← slots ["benefit"] rest | none
    return .mustNotHaveBenefit (← benefit.required text)
  | "location" => (noFields rest).map fun _ => .location
  | "has_disability" => (noFields rest).map fun _ => .hasDisability
  | "has_no_insurance" => (noFields rest).map fun _ => .hasNoInsurance
  | "is_pregnant" => (noFields rest).map fun _ => .isPregnant
  | "housing_cost" => (noFields rest).map fun _ => .housingCost
  | _ => none

def condition : Decoder Condition := fun j => do
  let [passed, message'] ← slots ["passed", "message"] j | none
  return { passed := ← passed.required bool, message := ← message'.optional message }

def conditions : Decoder Conditions := list condition

end Decode

namespace Encode

/-- A record of a variant: its name under the tag, then its fields. -/
def variant (tag name : String) (fields : List (String × Json)) : Json :=
  .object ((tag, .text name) :: fields)

def limitError : LimitError → Json
  | .countyNotFound county state =>
    variant "reason" "county_not_found" [("county", text county), ("state", text state)]
  | .sizeOutOfRange size min max =>
    variant "reason" "household_size_out_of_range"
      [("size", uint64 size), ("min", uint64 min), ("max", uint64 max)]
  | .missingValue detail => variant "reason" "missing_value" [("detail", text detail)]
  | .unavailable message => variant "reason" "unavailable" [("message", text message)]

def message : Message → Json
  | .income income maxIncome =>
    variant "kind" "income" [("income", decimal income), ("max_income", decimal maxIncome)]
  | .incomeRange income minIncome maxIncome =>
    variant "kind" "income_range"
      [("income", decimal income), ("min_income", decimal minIncome),
        ("max_income", decimal maxIncome)]
  | .incomeLimitUnknown failure =>
    variant "kind" "income_limit_unknown" [("failure", optional limitError failure)]
  | .unableToDetermine detail => variant "kind" "unable_to_determine" [("detail", text detail)]
  | .presumedEligibility => variant "kind" "presumed_eligibility" []
  | .assets limit => variant "kind" "assets" [("asset_limit", decimal limit)]
  | .child minAge maxAge =>
    variant "kind" "child" [("min_age", uint32 minAge), ("max_age", uint32 maxAge)]
  | .adult minAge maxAge =>
    variant "kind" "adult" [("min_age", uint32 minAge), ("max_age", uint32 maxAge)]
  | .olderThan minAge => variant "kind" "older_than" [("min_age", uint32 minAge)]
  | .mustHaveBenefit benefit => variant "kind" "must_have_benefit" [("benefit", text benefit)]
  | .mustNotHaveBenefit benefit =>
    variant "kind" "must_not_have_benefit" [("benefit", text benefit)]
  | .location => variant "kind" "location" []
  | .hasDisability => variant "kind" "has_disability" []
  | .hasNoInsurance => variant "kind" "has_no_insurance" []
  | .isPregnant => variant "kind" "is_pregnant" []
  | .housingCost => variant "kind" "housing_cost" []

def messagePart : MessagePart → Json
  | .localized label default =>
    .object [("label", text label), ("default_message", text default)]
  | .text value => text value

def condition (c : Condition) : Json := .object [
  ("passed", bool c.passed),
  ("message", optional message c.message)]

def conditions : Conditions → Json := list condition

def memberResult (r : MemberResult) : Json := .object [
  ("member_id", memberId r.id),
  ("conditions", conditions r.conditions),
  ("value", decimal r.value)]

def programResult (r : ProgramResult) : Json := .object [
  ("code", text r.code),
  ("name", text r.name),
  ("eligible", bool r.eligible),
  ("value", decimal r.value),
  ("conditions", conditions r.conditions),
  ("members", list memberResult r.members)]

def dependencies (d : Dependencies) : Json := .object [
  ("programs", table enumSet d.programs),
  ("all", enumSet d.all)]

end Encode

end BenefitScreen
