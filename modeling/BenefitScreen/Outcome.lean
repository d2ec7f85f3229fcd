import BenefitScreen.Member
import BenefitScreen.Message

/-!
What was checked for a program and what came of it.

Every check is recorded, so that all reasons for a refusal show together.
-/

namespace BenefitScreen

/-- One recorded check, with the reason why it matters. -/
structure Condition where
  passed : Bool
  message : Option Message
  deriving DecidableEq

def check (passed : Bool) : Condition := ⟨passed, none⟩

def checkFor (passed : Bool) (message : Message) : Condition := ⟨passed, some message⟩

def Condition.same (a b : Condition) : Bool :=
  a.passed == b.passed &&
    match a.message, b.message with
    | none, none => true
    | some m, some n => m.same n
    | _, _ => false

/-- The checks for a household or for one member, in the order in which they were made. -/
abbrev Conditions := List Condition

namespace Conditions

/-- Whether every check passed; without checks that is so. -/
def passed (cs : Conditions) : Bool := cs.all Condition.passed

def failedMessages (cs : Conditions) : List Message :=
  cs.filterMap fun c => if c.passed then none else c.message

def passedMessages (cs : Conditions) : List Message :=
  cs.filterMap fun c => if c.passed then c.message else none

/-- Equality with amounts compared by value. -/
def same : Conditions → Conditions → Bool
  | [], [] => true
  | a :: as, b :: bs => a.same b && same as bs
  | _, _ => false

@[simp]
theorem passed_nil : passed [] = true := rfl

@[simp]
theorem passed_cons (c : Condition) (cs : Conditions) :
    passed (c :: cs) = (c.passed && passed cs) := rfl

end Conditions

/-- What came of the checks for one member. -/
structure MemberResult where
  id : MemberId
  conditions : Conditions
  /-- Yearly amount, zero unless the program and the member are eligible. -/
  value : Decimal
  deriving DecidableEq

def MemberResult.eligible (r : MemberResult) : Bool := Conditions.passed r.conditions

/-- What came of one program. -/
structure ProgramResult where
  code : String
  name : String
  eligible : Bool
  /-- Yearly amount, zero unless eligible. -/
  value : Decimal
  conditions : Conditions
  /-- Empty for programs that concern the household as a whole. -/
  members : List MemberResult
  deriving DecidableEq

namespace ProgramResult

/-- Reasons for a refusal, those of the household first. -/
def failedMessages (r : ProgramResult) : List Message :=
  Conditions.failedMessages r.conditions ++
    r.members.flatMap fun m => Conditions.failedMessages m.conditions

def eligibleMembers (r : ProgramResult) : List MemberId :=
  (r.members.filter MemberResult.eligible).map (·.id)

end ProgramResult

/-- The yearly value of the eligible programs among `results`. -/
def totalValue (results : List ProgramResult) : Except Overflow Decimal :=
  Decimal.sum ((results.filter (·.eligible)).map (·.value))

end BenefitScreen
