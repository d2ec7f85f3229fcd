import BenefitScreen.Income

/-!
A person of a household.
-/

namespace BenefitScreen

/-- Identifies a member, also in the units of a simulation. -/
structure MemberId where
  number : UInt32
  deriving DecidableEq, Repr

def MemberId.text (id : MemberId) : String := toString id.number.toNat

/-- A member's relationship to the head of household. -/
inductive Relationship where
  | headOfHousehold
  | spouse
  | domesticPartner
  | child
  | fosterChild
  | stepChild
  | grandChild
  | sisterOrBrother
  | stepSisterOrBrother
  | parent
  | fosterParent
  | grandParent
  | relatedOther
  | roommate
  | other
  deriving DecidableEq, Repr

namespace Relationship

def name : Relationship → String
  | headOfHousehold => "headOfHousehold"
  | spouse => "spouse"
  | domesticPartner => "domesticPartner"
  | child => "child"
  | fosterChild => "fosterChild"
  | stepChild => "stepChild"
  | grandChild => "grandChild"
  | sisterOrBrother => "sisterOrBrother"
  | stepSisterOrBrother => "stepSisterOrBrother"
  | parent => "parent"
  | fosterParent => "fosterParent"
  | grandParent => "grandParent"
  | relatedOther => "relatedOther"
  | roommate => "roommate"
  | other => "other"

instance : Enumerated Relationship where
  all := [headOfHousehold, spouse, domesticPartner, child, fosterChild, stepChild, grandChild,
    sisterOrBrother, stepSisterOrBrother, parent, fosterParent, grandParent, relatedOther,
    roommate, other]
  name := name
  mem_all := by intro a; cases a <;> decide
  names_nodup := by decide

/-- Children of the head for taxes and for care. -/
def childLike : List Relationship := [child, fosterChild, stepChild, grandChild]

def isChildLike (r : Relationship) : Bool := childLike.contains r

/-- Married or not. -/
def isPartner : Relationship → Bool
  | spouse => true
  | domesticPartner => true
  | _ => false

/-- Relatives whom a tax return may claim. -/
def isQualifyingRelative : Relationship → Bool
  | parent => true
  | fosterParent => true
  | grandParent => true
  | sisterOrBrother => true
  | stepSisterOrBrother => true
  | relatedOther => true
  | _ => false

end Relationship

/-- A kind of health coverage. -/
inductive InsuranceType where
  | none
  | dontKnow
  | employer
  | private_
  | chp
  | medicaid
  | medicare
  | emergencyMedicaid
  | familyPlanning
  | va
  deriving DecidableEq, Repr

namespace InsuranceType

def name : InsuranceType → String
  | none => "none"
  | dontKnow => "dont_know"
  | employer => "employer"
  | private_ => "private"
  | chp => "chp"
  | medicaid => "medicaid"
  | medicare => "medicare"
  | emergencyMedicaid => "emergency_medicaid"
  | familyPlanning => "family_planning"
  | va => "va"

instance : Enumerated InsuranceType where
  all := [none, dontKnow, employer, private_, chp, medicaid, medicare, emergencyMedicaid,
    familyPlanning, va]
  name := name
  mem_all := by intro a; cases a <;> decide
  names_nodup := by decide

end InsuranceType

/-- A month of birth. -/
structure BirthMonth where
  year : Int32
  month : UInt32
  deriving DecidableEq, Repr

/-- A calendar date. -/
structure Date where
  year : Int32
  month : UInt32
  day : UInt32
  deriving DecidableEq, Repr

/-- One person of a household. -/
structure Member where
  id : MemberId
  relationship : Relationship
  /-- Age in whole years. -/
  age : Option UInt32
  birthMonth : Option BirthMonth
  pregnant : Bool
  disabled : Bool
  visuallyImpaired : Bool
  longTermDisability : Bool
  student : Bool
  insurance : EnumSet InsuranceType
  incomeStreams : List IncomeStream
  deriving DecidableEq

namespace Member

def isHead (m : Member) : Bool := m.relationship == .headOfHousehold

def isSpouse (m : Member) : Bool := m.relationship.isPartner

/-- Any disability, blindness included. -/
def hasDisability (m : Member) : Bool := m.disabled || m.visuallyImpaired || m.longTermDisability

/-- Whether the age is known and at least `age`. -/
def isAtLeast (m : Member) (age : UInt32) : Bool := m.age.any (age ≤ ·)

/-- Whether the age is known and at most `age`. -/
def isAtMost (m : Member) (age : UInt32) : Bool := m.age.any (· ≤ age)

/-- Months from the month of birth to the month of `asOf`, nothing before birth; without a month
of birth twelve for each year of age. Both count in 32-bit words. -/
def ageInMonths (m : Member) (asOf : Date) : Option UInt32 :=
  match m.birthMonth with
  | some birth =>
    let months : Int32 :=
      (asOf.year - birth.year) * 12 + asOf.month.toInt32 - birth.month.toInt32
    if months < 0 then none else some months.toUInt32
  | none => m.age.map (· * 12)

def streamsOf (m : Member) (types : List IncomeType) : List IncomeStream :=
  m.incomeStreams.filter fun s => types.contains s.type

/-- The streams that some filter admits and whose type is not excluded. -/
def streamsBy (m : Member) (filters : List IncomeFilter) (exclude : List IncomeType) :
    List IncomeStream :=
  m.incomeStreams.filter fun s =>
    !exclude.contains s.type && filters.any fun f => f.admits s.type

/-- The yearly total of streams. Each is added before the next is converted. -/
def yearlyTotal (streams : List IncomeStream) : Except Overflow Decimal :=
  streams.foldlM (fun total s => do total.add (← s.yearly)) .zero

def grossIncome (m : Member) (window : Timeframe) (filters : List IncomeFilter)
    (exclude : List IncomeType) : Except Overflow Decimal :=
  return window.ofYearly (← yearlyTotal (m.streamsBy filters exclude))

def yearlyIncomeOf (m : Member) (types : List IncomeType) : Except Overflow Decimal :=
  yearlyTotal (m.streamsOf types)

end Member

end BenefitScreen
