import BenefitScreen.Member
import BenefitScreen.Table

/-!
A household as it was reported. What was not reported reads as zero, false or absent.
-/

namespace BenefitScreen

/-- A universally unique identifier of 128 bits. -/
structure Uuid where
  value : BitVec 128
  deriving DecidableEq

/-- Everything known about one household. -/
structure Household where
  id : Uuid
  /-- The code of the state, in the case in which it was reported. -/
  state : String
  /-- The reported size, if there is one. -/
  reportedSize : Option UInt64
  assets : Decimal
  /-- The county, or the city in states that screen by city. -/
  county : Option String
  zipcode : Option String
  members : List Member
  expenses : List Expense
  /-- Codes of the programs that the household receives already. -/
  currentBenefits : NameSet
  deriving DecidableEq

namespace Household

/-- The reported size, or the number of members. -/
def size (h : Household) : UInt64 := h.reportedSize.getD (.ofNat h.members.length)

def member? (h : Household) (id : MemberId) : Option Member := h.members.find? (·.id == id)

/-- The first head of household. -/
def head? (h : Household) : Option Member := h.members.find? Member.isHead

/-- The first partner of the head. -/
def spouse? (h : Household) : Option Member := h.members.find? Member.isSpouse

def isJoint (h : Household) : Bool := h.head?.isSome && h.spouse?.isSome

def pregnantCount (h : Household) : Nat := h.members.countP Member.pregnant

/-- Gross income of all members; a monthly total is a total of monthly incomes. -/
def grossIncome (h : Household) (window : Timeframe) (filters : List IncomeFilter) :
    Except Overflow Decimal :=
  h.members.foldlM (fun total m => do total.add (← m.grossIncome window filters [])) .zero

def expensesOf (h : Household) (types : List ExpenseType) : List Expense :=
  h.expenses.filter fun e => types.contains e.type

def totalExpenses (h : Household) (window : Timeframe) (types : List ExpenseType) :
    Except Overflow Decimal :=
  return window.ofYearly
    (← (h.expensesOf types).foldlM (fun total e => do total.add (← e.yearly)) .zero)

def hasExpense (h : Household) (types : List ExpenseType) : Bool :=
  h.expenses.any fun e => types.contains e.type

def hasBenefit (h : Household) (code : String) : Bool := h.currentBenefits.contains code

/-- Members of the given relationships with a known age between two bounds, both included. -/
def childCount (h : Household) (youngest oldest : UInt32) (relationships : List Relationship) :
    Nat :=
  h.members.countP fun m =>
    relationships.contains m.relationship && m.isAtLeast youngest && m.isAtMost oldest

/-- Members with a known age of at least `age`. -/
def adultCount (h : Household) (age : UInt32) : Nat := h.members.countP (·.isAtLeast age)

end Household

end BenefitScreen
