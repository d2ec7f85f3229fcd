import BenefitScreen.Simulation.Input
import BenefitScreen.Simulation.Output

/-!
The variables of a simulation that a program needs.
-/

namespace BenefitScreen.Simulation

/-- Variables to send and variables to read back. -/
structure Variables where
  inputs : List Input
  outputs : List Output
  deriving DecidableEq

namespace Variables

/-- The household fields that some input is declared to depend on. -/
def reads (v : Variables) : EnumSet DataField := .ofList (v.inputs.flatMap Input.reads)

def allInputs (vs : List Variables) : EnumSet Input := .ofList (vs.flatMap (·.inputs))

def allOutputs (vs : List Variables) : EnumSet Output := .ofList (vs.flatMap (·.outputs))

end Variables

end BenefitScreen.Simulation
