import BenefitScreen.Household

/-!
Which tax return each member is on.

The head files the main return together with the partner and claims qualifying children and
relatives. Of the members left over, the oldest who can file alone heads a secondary return that
claims the others. With nobody who can file, those members are on no return.
-/

namespace BenefitScreen

/-- A tax return of the household. -/
inductive TaxUnit where
  | main
  | secondary
  deriving DecidableEq, Repr

def TaxUnit.key : TaxUnit → String
  | main => "tax_unit"
  | secondary => "secondary_tax_unit"

/-- A member's place on a return. -/
inductive TaxRole where
  | head
  | spouse
  | dependent
  deriving DecidableEq, Repr

def TaxRole.name : TaxRole → String
  | head => "head"
  | spouse => "spouse"
  | dependent => "dependent"

structure TaxAssignment where
  unit : TaxUnit
  role : TaxRole
  deriving DecidableEq, Repr

/-- A relative with a gross income below this may be claimed. -/
def relativeIncomeCeiling : Decimal := .whole 5050

namespace Member

/-- A child of known age who is under 19, a student under 24, or disabled. -/
def isQualifyingChild (m : Member) : Bool :=
  m.relationship.isChildLike && m.age.any fun age =>
    age < 19 || (m.student && age < 24) || m.hasDisability

/-- A relative or child with little income. -/
def isQualifyingRelative (m : Member) : Except Overflow Bool := do
  let income ← m.grossIncome .yearly [.all] []
  return (m.relationship.isQualifyingRelative || m.relationship.isChildLike) &&
    income < relativeIncomeCeiling

def isClaimable (m : Member) : Except Overflow Bool :=
  if m.isQualifyingChild then .ok true else m.isQualifyingRelative

/-- Grown up, or of unknown age and not a child. -/
def canFileAlone (m : Member) : Bool :=
  match m.age with
  | some age => 18 ≤ age
  | none => !m.relationship.isChildLike

/-- The place of the age in an order in which an unknown age comes first. -/
def ageRank (m : Member) : Nat := m.age.elim 0 fun age => age.toNat + 1

end Member

/-- The oldest of some members, the first of several. -/
def oldest? (members : List Member) : Option Member :=
  members.foldl (fun best m =>
    match best with
    | some o => if m.ageRank ≤ o.ageRank then some o else some m
    | none => some m) none

/-- The returns of a household. The latest assignment of a member counts. -/
structure TaxUnits where
  assignments : List (MemberId × TaxAssignment)
  /-- The members in household order. -/
  order : List MemberId
  deriving DecidableEq

namespace TaxUnits

def assignment? (t : TaxUnits) (id : MemberId) : Option TaxAssignment :=
  (t.assignments.find? fun a => a.1 == id).map (·.2)

def isAssigned (t : TaxUnits) (id : MemberId) : Bool := (t.assignment? id).isSome

def assign (t : TaxUnits) (id : MemberId) (unit : TaxUnit) (role : TaxRole) : TaxUnits :=
  { t with assignments := (id, ⟨unit, role⟩) :: t.assignments }

def unassigned (h : Household) : TaxUnits := ⟨[], h.members.map (·.id)⟩

def withFilers (h : Household) (head : Member) (t : TaxUnits) : TaxUnits :=
  let t := t.assign head.id .main .head
  match h.spouse? with
  | some spouse => t.assign spouse.id .main .spouse
  | none => t

/-- Claims a member who is on no return yet, where the rules allow it. -/
def claim (t : TaxUnits) (m : Member) : Except Overflow TaxUnits := do
  if t.isAssigned m.id then return t
  else if ← m.isClaimable then return t.assign m.id .main .dependent
  else return t

def mainReturn (h : Household) : Except Overflow TaxUnits :=
  match h.head? with
  | some head => h.members.foldlM claim (withFilers h head (unassigned h))
  | none => .ok (unassigned h)

def leftOver (h : Household) (t : TaxUnits) : List Member :=
  h.members.filter fun m => !t.isAssigned m.id

def withSecondReturn (h : Household) (t : TaxUnits) : TaxUnits :=
  let others := leftOver h t
  match oldest? (others.filter Member.canFileAlone) with
  | none => t
  | some head =>
    (others.filter fun m => m.id != head.id).foldl
      (fun t m => t.assign m.id .secondary .dependent) (t.assign head.id .secondary .head)

def classify (h : Household) : Except Overflow TaxUnits :=
  return withSecondReturn h (← mainReturn h)

def membersOf (t : TaxUnits) (unit : TaxUnit) : List MemberId :=
  t.order.filter fun id => (t.assignment? id).any fun a => a.unit == unit

def units (t : TaxUnits) : List TaxUnit :=
  [TaxUnit.main, .secondary].filter fun u => !(t.membersOf u).isEmpty

def hasRole (t : TaxUnits) (id : MemberId) (role : TaxRole) : Bool :=
  (t.assignment? id).any fun a => a.role == role

end TaxUnits

end BenefitScreen
