import BenefitScreen.Configuration.Basic
import BenefitScreen.IncomeLimit.Service
import BenefitScreen.Simulation.Engine

/-!
The services that a deployment uses, by its settings and its environment.
-/

namespace BenefitScreen

open Simulation

abbrev Environment := Table String

/-- The private engine, where everything that it needs is set, and then the public one. -/
def SimulationSettings.engines (s : SimulationSettings) (env : Environment) : List Engine :=
  let private? : Option Engine := do
    let url ← s.privateUrl
    let authUrl ← s.authUrl
    let id ← env.get? s.clientIdEnv
    let secret ← env.get? s.clientSecretEnv
    return .private_ url ⟨authUrl, id, secret, s.audience.getD ""⟩
  private?.toList ++ [.public_ s.publicUrl]

def Settings.limitSources (s : Settings) (env : Environment) : LimitSources where
  hud := .of s.hud.baseUrl (env.get? s.hud.tokenEnv)
  countyState := Text.upper s.sheet.state
  sheetUrl := s.sheet.url

/-- Caches without entries, with the times that the settings give. -/
def Settings.limitCaches (s : Settings) : LimitCaches :=
  LimitSources.noCaches s.hud.cacheTtlSeconds.toNat s.sheet.cacheTtlSeconds.toNat

end BenefitScreen
