import BenefitScreen.Enumerated
import BenefitScreen.Table

/-!
The household fields that programs declare to read.
-/

namespace BenefitScreen

/-- A field of a household or of its members. -/
inductive DataField where
  | age
  | relationship
  | pregnant
  | student
  | disabled
  | visuallyImpaired
  | insurance
  | householdSize
  | householdAssets
  | incomeType
  | incomeAmount
  | incomeFrequency
  | expenseType
  | expenseAmount
  | county
  | zipcode
  | currentBenefits
  deriving DecidableEq, Repr

namespace DataField

def name : DataField → String
  | age => "age"
  | relationship => "relationship"
  | pregnant => "pregnant"
  | student => "student"
  | disabled => "disabled"
  | visuallyImpaired => "visually_impaired"
  | insurance => "insurance"
  | householdSize => "household_size"
  | householdAssets => "household_assets"
  | incomeType => "income_type"
  | incomeAmount => "income_amount"
  | incomeFrequency => "income_frequency"
  | expenseType => "expense_type"
  | expenseAmount => "expense_amount"
  | county => "county"
  | zipcode => "zipcode"
  | currentBenefits => "current_benefits"

instance : Enumerated DataField where
  all := [age, relationship, pregnant, student, disabled, visuallyImpaired, insurance,
    householdSize, householdAssets, incomeType, incomeAmount, incomeFrequency, expenseType,
    expenseAmount, county, zipcode, currentBenefits]
  name := name
  mem_all := by intro a; cases a <;> decide
  names_nodup := by decide

end DataField

/-- The fields read by each program. -/
structure Dependencies where
  programs : Table (EnumSet DataField)

namespace Dependencies

def empty : Dependencies := ⟨.empty⟩

def fieldsFor? (d : Dependencies) (code : String) : Option (EnumSet DataField) :=
  d.programs.get? code

def record (d : Dependencies) (code : String) (fields : List DataField) : Dependencies :=
  ⟨d.programs.insert code (((d.fieldsFor? code).getD .empty).addAll fields)⟩

def all (d : Dependencies) : EnumSet DataField :=
  .ofList (d.programs.values.flatMap (·.members))

/-- Codes of the programs whose result could change with a field. -/
def programsReading (d : Dependencies) (field : DataField) : List String :=
  (d.programs.entries.filter fun e => e.2.contains field).map (·.1)

end Dependencies

end BenefitScreen
