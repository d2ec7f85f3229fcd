import BenefitScreen.Configuration.Basic
import BenefitScreen.RunOrder
import BenefitScreen.Simulation.Engine
import BenefitScreen.Simulation.Request

/-!
One evaluation of a household against the configured programs.

The programs that the household's state offers run in an order in which each follows the programs
whose results it reads. Before that the simulation is asked at most once, for all of them together,
and every income limit that they need is looked up.
-/

namespace BenefitScreen

open Simulation

/-- The configured programs in run order, each with its rules. -/
structure Evaluator where
  programs : List (Program × Calculator)
  /-- The period of the simulation. -/
  period : String

/-- Where answers come from; `σ` is what they change. -/
structure Backend (σ : Type) where
  simulate : Document → String → σ → Except Failure Response × σ
  limit : LimitQuery → σ → LimitAnswer × σ

/-- What a backend was asked for, the latest first. -/
structure Asked where
  documents : List Document
  queries : List LimitQuery

/-- A backend whose answers depend on the question alone, and which takes down what it is asked. -/
def Backend.ofFunctions (simulate : Document → String → Except Failure Response)
    (limit : LimitQuery → LimitAnswer) : Backend Asked where
  simulate d period s := (simulate d period, { s with documents := d :: s.documents })
  limit q s := (limit q, { s with queries := q :: s.queries })

/-- What an evaluation gives. -/
structure Report where
  household : Uuid
  programs : List ProgramResult
  dependencies : Dependencies

def Report.program? (r : Report) (code : String) : Option ProgramResult :=
  r.programs.find? fun p => p.code == code

def engineVersion : String := "0.1.0"

namespace Evaluator

def ofConfiguration (c : Configuration) : Except EngineError Evaluator := do
  let programs ← c.programs.mapM fun p => do
    return (← c.program p.code, ← Registry.calculator p.code)
  match RunOrder.order (programs.map fun p => (p.1.code, p.2.references)) with
  | .error cycle => throw (.dependencyCycle cycle)
  | .ok codes => return {
      programs := codes.filterMap fun code => programs.find? fun p => p.1.code == code
      period := c.settings.simulation.period }

def codes (e : Evaluator) : List String := e.programs.map (·.1.code)

def active (e : Evaluator) (h : Household) : List (Program × Calculator) :=
  e.programs.filter fun p => p.1.appliesTo h

/-- Asks the simulation, if a program rests on it. -/
def simulate {σ : Type} (backend : Backend σ) (h : Household) (specs : List Variables)
    (period : String) (s : σ) : Except EngineError SimulationOutcome × σ :=
  if specs.isEmpty then (.ok .skipped, s)
  else
    match Document.build h specs period with
    | .error e => (.error e, s)
    | .ok d =>
      match backend.simulate d period s with
      | (.ok r, s) => (.ok (.ready r), s)
      | (.error failure, s) => (.ok (.failed failure.text), s)

/-- Runs one program after the others and adds its result. -/
def runProgram (context : Program → Table ProgramResult → Context) (results : Table ProgramResult)
    (p : Program × Calculator) : Except Overflow (Table ProgramResult) := do
  let r ← p.2.calculate (context p.1 results)
  return results.insert p.1.code r

/-- The fields that a program reads, also by way of the simulation. -/
def recordFields (d : Dependencies) (p : Program × Calculator) : Dependencies :=
  let d := d.record p.1.code p.2.dependencies
  match p.2.vars with
  | some v => d.record p.1.code v.reads.members
  | none => d

/-- The results of programs that run in order, by their codes. -/
def runAll (programs : List (Program × Calculator)) (h : Household) (asOf : Date)
    (simulation : SimulationOutcome) (limits : ResolvedLimits) :
    Except Overflow (Table ProgramResult) :=
  programs.foldlM
    (runProgram fun program results => ⟨h, program, results, simulation, limits, asOf⟩) .empty

def report (programs : List (Program × Calculator)) (h : Household)
    (results : Table ProgramResult) : Report where
  household := h.id
  programs := programs.filterMap fun p => results.get? p.1.code
  dependencies := programs.foldl recordFields .empty

/-- Evaluates a household on a date. A failure outside shows in the results; only defects are
errors. -/
def evaluate {σ : Type} (e : Evaluator) (backend : Backend σ) (h : Household) (asOf : Date)
    (s : σ) : Except EngineError Report × σ :=
  let programs := e.active h
  let (simulation, s) :=
    simulate backend h (programs.filterMap fun p => p.2.vars) e.period s
  let (limits, s) :=
    ResolvedLimits.resolve backend.limit (programs.flatMap fun p => p.2.limitQueries h) .empty s
  let outcome := do
    let simulation ← simulation
    let results ← EngineError.ofOverflow (runAll programs h asOf simulation limits)
    return report programs h results
  (outcome, s)

end Evaluator

end BenefitScreen
