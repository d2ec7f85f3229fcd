import BenefitScreen.Decimal.Arithmetic

/-!
Defects of a configuration or a deployment, which stop the work altogether.
-/

namespace BenefitScreen

/-- What is wrong with a table of poverty guidelines. -/
inductive TableDefect where
  | noSizes
  | limitNotPositive
  | limitsDecrease
  | additionNotPositive
  | notPublished
  /-- Not published although a program uses it. -/
  | requiredBy (code : String)
  deriving DecidableEq, Repr

def TableDefect.text : TableDefect → String
  | noSizes => "no household sizes"
  | limitNotPositive => "limits must be positive"
  | limitsDecrease => "limits must not decrease with household size"
  | additionNotPositive => "additional_person must be positive"
  | notPublished => "not published"
  | requiredBy code => "not published, required by '" ++ code ++ "'"

inductive EngineError where
  | fileNotFound (path : String)
  | fileMalformed (path reason : String)
  /-- A configured code without a calculator. -/
  | unknownProgram (code : String)
  /-- A code that is configured twice. -/
  | duplicateProgram (code : String)
  | invalidTable (table : String) (defect : TableDefect)
  /-- Programs that read each other's results; the first code is repeated at the end. -/
  | dependencyCycle (cycle : List String)
  /-- Two different values for one variable of one entity of a simulation. -/
  | conflictingValues (unit entity field : String)
  /-- An amount outgrew its type. -/
  | arithmetic (overflow : Overflow)
  deriving DecidableEq, Repr

def EngineError.text : EngineError → String
  | fileNotFound path => "Configuration file not found: " ++ path
  | fileMalformed path reason =>
    "Failed to parse configuration file '" ++ path ++ "': " ++ reason
  | unknownProgram code => "Unknown program code: " ++ code
  | duplicateProgram code => "Program '" ++ code ++ "' is configured more than once"
  | invalidTable table defect => "Invalid table '" ++ table ++ "': " ++ defect.text
  | dependencyCycle cycle => "Program dependency cycle: " ++ " -> ".intercalate cycle
  | conflictingValues unit entity field =>
    "Conflicting values for PolicyEngine field '" ++ field ++ "' on " ++ unit ++ " '" ++ entity ++
      "'"
  | arithmetic overflow => overflow.message

def EngineError.ofOverflow {α : Type} : Except Overflow α → Except EngineError α
  | .ok a => .ok a
  | .error e => .error (.arithmetic e)

end BenefitScreen
