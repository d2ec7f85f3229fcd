import BenefitScreen.DataField
import BenefitScreen.IncomeLimit.Query
import BenefitScreen.Poverty
import BenefitScreen.Simulation.Response
import BenefitScreen.Simulation.Variables

/-!
The rules of one program, and the result that they give for a household.

`calculate` records every condition for the household and for each member, decides on eligibility
once all of them are known, and puts a value on eligible programs only.
-/

namespace BenefitScreen

open Simulation

/-- A configured program. -/
structure Program where
  code : String
  name : String
  /-- The one state that offers the program; without it every state does. -/
  state : Option String
  /-- The year of the poverty guidelines that the program uses. -/
  year : String
  table : PovertyTable
  deriving DecidableEq

/-- Whether the program is offered in the household's state, whatever the case of letters. -/
def Program.appliesTo (p : Program) (h : Household) : Bool :=
  p.state.all fun state => Text.sameLetters state h.state

/-- What came of the one simulation of an evaluation. -/
inductive SimulationOutcome where
  /-- No program asked for it. -/
  | skipped
  | ready (response : Response)
  | failed (detail : String)

def SimulationOutcome.response? : SimulationOutcome → Option Response
  | ready r => some r
  | _ => none

/-- Everything that the rules of a program may look at. -/
structure Context where
  household : Household
  program : Program
  /-- Results of the programs that ran before, by their codes. -/
  results : Table ProgramResult
  simulation : SimulationOutcome
  limits : ResolvedLimits
  /-- The date at which ages in months are taken. -/
  asOf : Date

namespace Context

/-- Whether a program ran before and the household was eligible. -/
def eligibleFor (ctx : Context) (code : String) : Bool :=
  (ctx.results.get? code).any (·.eligible)

/-- Whether a program ran before and the household and the member were eligible. -/
def memberEligibleFor (ctx : Context) (code : String) (m : Member) : Bool :=
  (ctx.results.get? code).any fun r =>
    r.eligible && r.members.any fun o => o.id == m.id && o.eligible

def response? (ctx : Context) : Option Response := ctx.simulation.response?

def guideline (ctx : Context) : Except Overflow Decimal :=
  ctx.program.table.limit ctx.household.size

end Context

/-- The rules of a program. -/
structure Calculator where
  /-- Household fields that the rules declare to read. -/
  dependencies : List DataField
  /-- Codes of programs whose results the rules read. -/
  references : List String := []
  /-- Variables of the simulation, for programs that rest on it. -/
  vars : Option Variables := none
  /-- Published income limits that the rules need for a household. -/
  limitQueries : Household → List LimitQuery := fun _ => []
  /-- Takes the conditions recorded so far, and gives those that it leaves. -/
  householdConditions : Context → Conditions → Except Overflow Conditions
  /-- Whether at least one member has to be eligible. -/
  memberScoped : Bool := false
  memberConditions : Context → Member → Conditions → Except Overflow Conditions :=
    fun _ _ cs => .ok cs
  /-- A fixed yearly amount for the household. -/
  householdAmount : Decimal := .zero
  /-- A fixed yearly amount for each eligible member. -/
  memberAmount : Decimal := .zero
  /-- The yearly amount for an eligible household. -/
  householdValue : Context → Except Overflow Decimal := fun _ => .ok householdAmount
  /-- The yearly amount for an eligible member of an eligible household. -/
  memberValue : Context → Member → Except Overflow Decimal := fun _ _ => .ok memberAmount

namespace Calculator

/-- What is recorded before the rules are asked: a condition that fails when the program rests on a
simulation that failed. -/
def simulationConditions (c : Calculator) (ctx : Context) : Conditions :=
  match c.vars, ctx.simulation with
  | some _, .failed detail => [checkFor false (.unableToDetermine detail)]
  | _, _ => []

/-- The conditions of every member, for programs that concern members. -/
def memberOutcomes (c : Calculator) (ctx : Context) : Except Overflow (List MemberResult) :=
  if c.memberScoped then
    ctx.household.members.mapM fun m => do
      return ⟨m.id, ← c.memberConditions ctx m [], .zero⟩
  else .ok []

/-- Puts values on eligible members and adds them up from `total` on. -/
def valueMembers (c : Calculator) (ctx : Context) :
    List Member → List MemberResult → Decimal → Except Overflow (List MemberResult × Decimal)
  | m :: ms, o :: os, total => do
    if o.eligible then
      let value ← c.memberValue ctx m
      let (rest, total) ← valueMembers c ctx ms os (← total.add value)
      return ({ o with value } :: rest, total)
    else
      let (rest, total) ← valueMembers c ctx ms os total
      return (o :: rest, total)
  | _, os, total => .ok (os, total)

def calculate (c : Calculator) (ctx : Context) : Except Overflow ProgramResult := do
  let conditions ← c.householdConditions ctx (c.simulationConditions ctx)
  let members ← c.memberOutcomes ctx
  let eligible := conditions.passed && (!c.memberScoped || members.any MemberResult.eligible)
  let (members, value) ←
    if eligible then valueMembers c ctx ctx.household.members members (← c.householdValue ctx)
    else pure (members, .zero)
  return {
    code := ctx.program.code
    name := ctx.program.name
    eligible
    value
    conditions
    members }

end Calculator

def monthly (amount : UInt64) : Decimal := .whole (amount * 12)

end BenefitScreen
