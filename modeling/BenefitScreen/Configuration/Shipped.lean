import BenefitScreen.Configuration.Basic

/-!
The configuration to start from: all programs, with the poverty guidelines of two years.
-/

namespace BenefitScreen.Shipped

def settings : Settings where
  simulation := {
    publicUrl := "https://api.policyengine.org/us/calculate"
    privateUrl := some "https://household.api.policyengine.org/us/calculate"
    authUrl := some "https://policyengine.uk.auth0.com/oauth/token"
    audience := some "https://household.api.policyengine.org"
    clientIdEnv := "POLICY_ENGINE_CLIENT_ID"
    clientSecretEnv := "POLICY_ENGINE_CLIENT_SECRET"
    period := "2025"
    timeoutSeconds := 30
    tokenTtlDays := 29 }
  hud := {
    baseUrl := "https://www.huduser.gov/hudapi/public"
    tokenEnv := "HUD_API_TOKEN"
    cacheTtlSeconds := 86400
    timeoutSeconds := 30 }
  sheet := {
    url := "https://docs.google.com/spreadsheets/d/1ZzQYhULtiP61crj0pbPjhX62L1TnyAisLcr_dQXbbFg/" ++
      "export?format=csv"
    state := "CO"
    cacheTtlSeconds := 86400 }

/-- Guidelines for the contiguous states in 2024. -/
def table2024 : PovertyTable where
  limits := [.whole 15060, .whole 20440, .whole 25820, .whole 31200, .whole 36580, .whole 41960,
    .whole 47340, .whole 52720]
  additionalPerson := .whole 5380

/-- Guidelines for the contiguous states in 2025. -/
def table2025 : PovertyTable where
  limits := [.whole 15650, .whole 21150, .whole 26650, .whole 32150, .whole 37650, .whole 43150,
    .whole 48650, .whole 54150]
  additionalPerson := .whole 5500

def tables : Table PovertyTable := .ofList [("2024", table2024), ("2025", table2025)]

def entry (code name : String) (state : Option String) : ProgramEntry := ⟨code, name, state, "2025"⟩

def programs : List ProgramEntry := [
  entry "medicaid" "Medicaid" none,
  entry "wic" "WIC" none,
  entry "snap" "SNAP" none,
  entry "aca" "Premium Tax Credit" none,
  entry "medicare_savings" "Medicare Savings Programs" none,
  entry "il_all_kids" "All Kids" (some "IL"),
  entry "il_family_care" "FamilyCare" (some "IL"),
  entry "il_moms_and_babies" "Moms & Babies" (some "IL"),
  entry "il_ccap" "Child Care Assistance Program" (some "IL"),
  entry "il_hbwd" "Health Benefits for Workers with Disabilities" (some "IL"),
  entry "co_nurse_family_partnership" "Nurse-Family Partnership" (some "CO"),
  entry "co_weatherization_assistance" "Weatherization Assistance Program" (some "CO"),
  entry "nc_lieap" "Low Income Energy Assistance Program" (some "NC"),
  entry "ma_middle_income_rental" "Middle-Income Rental Program" (some "MA"),
  entry "ma_cha" "Cambridge Housing Authority" (some "MA")]

end BenefitScreen.Shipped
