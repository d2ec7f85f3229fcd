import BenefitScreen.Decimal.Arithmetic
import BenefitScreen.Decimal.Text
import BenefitScreen.IncomeLimit.Query

/-!
Why a condition matters, in a form that can be put into other languages.

A message renders as fragments: text of a language under a label, and formatted values between.
-/

namespace BenefitScreen

inductive Message where
  /-- Income above a ceiling. -/
  | income (income maxIncome : Decimal)
  /-- Income outside a band. -/
  | incomeRange (income minIncome maxIncome : Decimal)
  /-- A published limit could not be looked up. -/
  | incomeLimitUnknown (failure : Option LimitError)
  /-- The simulation gave no result for the program. -/
  | unableToDetermine (detail : String)
  | presumedEligibility
  | assets (limit : Decimal)
  /-- Needs a child in an age band. -/
  | child (minAge maxAge : UInt32)
  /-- Needs a person in an age band. -/
  | adult (minAge maxAge : UInt32)
  | olderThan (minAge : UInt32)
  /-- Must receive another benefit. -/
  | mustHaveBenefit (benefit : String)
  /-- Must not receive another benefit. -/
  | mustNotHaveBenefit (benefit : String)
  | location
  | hasDisability
  | hasNoInsurance
  | isPregnant
  | housingCost
  deriving DecidableEq

/-- A fragment of a rendered message. -/
inductive MessagePart where
  | localized (label default : String)
  | text (value : String)
  deriving DecidableEq, Repr

namespace Message

/-- The name under which the text of the message is looked up in a language. -/
def label : Message → String
  | income .. => "income"
  | incomeRange .. => "income_range"
  | incomeLimitUnknown _ => "income_limit_lookup_failed"
  | unableToDetermine _ => "unable_to_determine"
  | presumedEligibility => "presumptive_eligibility"
  | assets _ => "assets"
  | child .. => "child"
  | adult .. => "adult"
  | olderThan _ => "older_than"
  | mustHaveBenefit _ => "has_benefit"
  | mustNotHaveBenefit _ => "not_have_benefit"
  | location => "location"
  | hasDisability => "disability"
  | hasNoInsurance => "no_insurance"
  | isPregnant => "pregnant"
  | housingCost => "housing_cost"

/-- The fragment number `i` under a name, with its English text. -/
def fragment (name : String) (i : Nat) (default : String) : MessagePart :=
  .localized ("eligibility_message." ++ name ++ "-" ++ toString i) default

/-- An amount in whole dollars, a half going to the even one. -/
def dollars (a : Decimal) : String := " $" ++ (a.roundTo 0).render

def years (n : UInt32) : String := " " ++ toString n.toNat

def parts : Message → List MessagePart
  | income amount maxIncome =>
    [fragment "income" 0 "Household makes", .text (dollars amount ++ " "),
      fragment "income" 1 "per year which must be less than", .text (dollars maxIncome)]
  | incomeRange amount minIncome maxIncome =>
    [fragment "income" 0 "Household makes", .text (dollars amount ++ " "),
      fragment "income_range" 0 "per year which must be between", .text (dollars minIncome ++ " "),
      fragment "income_range" 1 "and", .text (dollars maxIncome)]
  | incomeLimitUnknown _ =>
    [fragment "income_limit_lookup_failed" 0 "Unable to determine income limits for your household"]
  | unableToDetermine _ =>
    [fragment "unable_to_determine" 0
      "Unable to determine eligibility for this program right now"]
  | presumedEligibility =>
    [fragment "presumptive_eligibility" 0 "Presumed eligibility based on other benefits"]
  | assets limit =>
    [fragment "assets" 0 "Household resources must not exceed", .text (dollars limit)]
  | child minAge maxAge =>
    [fragment "child" 0 "Must have a child between the ages of", .text (years minAge ++ " "),
      fragment "child" 1 "and", .text (years maxAge)]
  | adult minAge maxAge =>
    [fragment "adult" 0 "Someone in the household must be between the ages of",
      .text (years minAge ++ " "), fragment "adult" 1 "and", .text (years maxAge)]
  | olderThan minAge =>
    [fragment "older_than" 0 "Someone in the household must be at least",
      .text (years minAge ++ " "), fragment "older_than" 1 "years old"]
  | mustHaveBenefit benefit =>
    [fragment "has_benefit" 0 "Household must have", .text (" " ++ benefit)]
  | mustNotHaveBenefit benefit =>
    [fragment "not_have_benefit" 0 "Household must not have", .text (" " ++ benefit)]
  | location => [fragment "location" 0 "Must live in an eligible location"]
  | hasDisability => [fragment "disability" 0 "Someone in the household must have a disability"]
  | hasNoInsurance =>
    [fragment "no_insurance" 0 "Someone in the household must not have health insurance"]
  | isPregnant => [fragment "pregnant" 0 "Someone in the household must be pregnant"]
  | housingCost => [fragment "housing_cost" 0 "Household must pay rent or a mortgage"]

def text (m : Message) : String :=
  String.join (m.parts.map fun
    | .localized _ default => default
    | .text value => value)

/-- Equality with amounts compared by value. -/
def same : Message → Message → Bool
  | income a b, income c d => a.SameValue c && b.SameValue d
  | incomeRange a b c, incomeRange d e f => a.SameValue d && b.SameValue e && c.SameValue f
  | assets a, assets b => a.SameValue b
  | m, n => m == n

end Message

end BenefitScreen
