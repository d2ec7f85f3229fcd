import BenefitScreen.Configuration.Basic
import BenefitScreen.Wire.PovertyTable
import BenefitScreen.Yaml.Text

/-!
Configurations in a notation for records, and as three files of a directory.
-/

namespace BenefitScreen

namespace Format

open Decode.Slot

variable {V : Type}

def simulationSettingsFields : List String :=
  ["public_url", "private_url", "auth_url", "audience", "client_id_env", "client_secret_env",
    "period", "timeout_secs", "token_ttl_days"]

def simulationSettings (f : Format V) (v : V) : Option SimulationSettings := do
  let [publicUrl, privateUrl, authUrl, audience, clientId, clientSecret, period, timeout, ttl] ←
    f.slots simulationSettingsFields v | none
  return {
    publicUrl := ← publicUrl.required f.text
    privateUrl := ← privateUrl.orElse (f.optional f.text) none
    authUrl := ← authUrl.orElse (f.optional f.text) none
    audience := ← audience.orElse (f.optional f.text) none
    clientIdEnv := ← clientId.required f.text
    clientSecretEnv := ← clientSecret.required f.text
    period := ← period.required f.text
    timeoutSeconds := ← timeout.required f.uint64
    tokenTtlDays := ← ttl.required f.uint64 }

def hudSettings (f : Format V) (v : V) : Option HudSettings := do
  let [baseUrl, token, cacheTtl, timeout] ←
    f.slots ["base_url", "token_env", "cache_ttl_secs", "timeout_secs"] v | none
  return {
    baseUrl := ← baseUrl.required f.text
    tokenEnv := ← token.required f.text
    cacheTtlSeconds := ← cacheTtl.required f.uint64
    timeoutSeconds := ← timeout.required f.uint64 }

def sheetSettings (f : Format V) (v : V) : Option SheetSettings := do
  let [url, state, cacheTtl] ← f.slots ["csv_url", "state", "cache_ttl_secs"] v | none
  return {
    url := ← url.required f.text
    state := ← state.required f.text
    cacheTtlSeconds := ← cacheTtl.required f.uint64 }

def settings (f : Format V) (v : V) : Option Settings := do
  let [simulation, hud, sheet] ← f.slots ["policy_engine", "hud", "county_limits"] v | none
  return {
    simulation := ← simulation.required f.simulationSettings
    hud := ← hud.required f.hudSettings
    sheet := ← sheet.required f.sheetSettings }

def programEntry (f : Format V) (v : V) : Option ProgramEntry := do
  let [code, name, state, year] ← f.slots ["code", "name", "state", "fpl_year"] v | none
  return {
    code := ← code.required f.text
    name := ← name.required f.text
    state := ← state.orElse (f.optional f.text) none
    year := ← year.required f.text }

def povertyTables (f : Format V) (v : V) : Option (Table PovertyTable) := do
  let [years] ← f.slots ["years"] v | none
  years.required (f.table f.povertyTable)

def programList (f : Format V) (v : V) : Option (List ProgramEntry) := do
  let [programs] ← f.slots ["programs"] v | none
  programs.required (f.list f.programEntry)

end Format

namespace Configuration

def readFile {α : Type} (files : String → Option String) (directory name : String)
    (item : Json.Written → Option α) : Except EngineError α :=
  let path := directory ++ "/" ++ name
  match files name with
  | none => .error (.fileNotFound path)
  | some text =>
    match Yaml.parse? text with
    | none => .error (.fileMalformed path "not YAML")
    | some v =>
      match item v with
      | some a => .ok a
      | none => .error (.fileMalformed path "not of the expected shape")

def load (files : String → Option String) (directory : String) :
    Except EngineError Configuration := do
  let settings ← readFile files directory "engine.yaml" Format.yaml.settings
  let tables ← readFile files directory "fpl.yaml" Format.yaml.povertyTables
  let programs ← readFile files directory "programs.yaml" Format.yaml.programList
  ofParts settings tables programs

end Configuration

end BenefitScreen
