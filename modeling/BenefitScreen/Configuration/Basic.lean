import BenefitScreen.Program.Registry

/-!
The configuration of a deployment: settings of outside services, tables of poverty guidelines by
year, and the programs to screen for.

`ofParts` accepts tables that are in order and distinct known programs whose tables are published.
-/

namespace BenefitScreen

/-- Settings of the simulation service. -/
structure SimulationSettings where
  publicUrl : String
  privateUrl : Option String
  /-- Where tokens for the private service come from. -/
  authUrl : Option String
  audience : Option String
  /-- The environment variable with the client's identifier. -/
  clientIdEnv : String
  /-- The environment variable with the client's secret. -/
  clientSecretEnv : String
  /-- The period that all variables are about. -/
  period : String
  timeoutSeconds : UInt64
  tokenTtlDays : UInt64
  deriving DecidableEq

def SimulationSettings.tokenTtl (s : SimulationSettings) : UInt64 :=
  s.tokenTtlDays * 24 * 60 * 60

/-- Settings of the service with limits by area median income. -/
structure HudSettings where
  baseUrl : String
  /-- The environment variable with the token. -/
  tokenEnv : String
  cacheTtlSeconds : UInt64
  timeoutSeconds : UInt64
  deriving DecidableEq

/-- Settings of the sheet with limits by county. -/
structure SheetSettings where
  url : String
  /-- The state that the sheet covers. -/
  state : String
  cacheTtlSeconds : UInt64
  deriving DecidableEq

structure Settings where
  simulation : SimulationSettings
  hud : HudSettings
  sheet : SheetSettings
  deriving DecidableEq

/-- A program as it is configured. -/
structure ProgramEntry where
  code : String
  name : String
  state : Option String
  year : String
  deriving DecidableEq

structure Configuration where
  settings : Settings
  /-- Poverty guidelines by year. -/
  tables : Table PovertyTable
  programs : List ProgramEntry
  deriving DecidableEq

namespace Configuration

def tableName (year : String) : String := "fpl." ++ year

def checkTables (tables : Table PovertyTable) : Except EngineError Unit :=
  tables.entries.forM fun e => e.2.validate (tableName e.1)

def checkProgram (tables : Table PovertyTable) (before : List ProgramEntry) (p : ProgramEntry) :
    Except EngineError Unit :=
  if !Registry.codes.contains p.code then .error (.unknownProgram p.code)
  else if before.any fun q => q.code == p.code then .error (.duplicateProgram p.code)
  else if !tables.contains p.year then
    .error (.invalidTable (tableName p.year) (.requiredBy p.code))
  else .ok ()

/-- Checks programs in order; `before` are those that were checked already. -/
def checkPrograms (tables : Table PovertyTable) :
    (before : List ProgramEntry) → List ProgramEntry → Except EngineError Unit
  | _, [] => .ok ()
  | before, p :: ps => do
    checkProgram tables before p
    checkPrograms tables (p :: before) ps

/-- A configuration, if nothing is wrong with it. -/
def ofParts (settings : Settings) (tables : Table PovertyTable) (programs : List ProgramEntry) :
    Except EngineError Configuration := do
  checkTables tables
  checkPrograms tables [] programs
  return { settings, tables, programs }

def table (c : Configuration) (year : String) : Except EngineError PovertyTable :=
  match c.tables.get? year with
  | some t => .ok t
  | none => .error (.invalidTable (tableName year) .notPublished)

def program (c : Configuration) (code : String) : Except EngineError Program :=
  match c.programs.find? fun p => p.code == code with
  | none => .error (.unknownProgram code)
  | some p => do return {
      code := p.code
      name := p.name
      state := p.state
      year := p.year
      table := ← c.table p.year }

end Configuration

end BenefitScreen
