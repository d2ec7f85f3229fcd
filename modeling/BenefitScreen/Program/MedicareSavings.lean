import BenefitScreen.Program.Calculator

/-!
Help with Medicare premiums, for members who are old or disabled and have little income and assets,
counted together with those of the partner.
-/

namespace BenefitScreen.MedicareSavings

def ageRule : AgeRule := ⟨65, 18⟩

/-- Coverage that the program adds to. -/
def coverage : List InsuranceType := [.none, .employer, .private_, .medicare]

def singleAssetLimit : Decimal := .whole 11160

def marriedAssetLimit : Decimal := .whole 17470

/-- What is left out of any income, unearned income first. -/
def generalDisregard : Decimal := monthly 20

/-- What is left out of earned income. -/
def earnedDisregard : Decimal := monthly 65

def maxPercent : Decimal := .hundredths 135

/-- The member's partner, if the member is one of a couple. -/
def partner? (h : Household) (m : Member) : Option Member :=
  if m.isHead then h.spouse? else if m.isSpouse then h.head? else none

/-- Half of the earned income after all disregards, and the rest of the unearned income with SSI. -/
def countableIncome (earned unearned ssi : Decimal) : Except Overflow Decimal := do
  let (earned, unearned) ←
    if generalDisregard ≤ unearned then pure (earned, ← unearned.sub generalDisregard)
    else
      let left ← generalDisregard.sub unearned
      pure ((← earned.sub left).max .zero, .zero)
  let earned := ((← earned.sub earnedDisregard).max .zero).divNat 2
  (← earned.add unearned).add ssi

/-- Earned income, unearned income without SSI, and SSI. -/
structure Income where
  earned : Decimal
  unearned : Decimal
  ssi : Decimal

def Income.addPerson (income : Income) (m : Member) : Except Overflow Income := do
  return {
    earned := ← income.earned.add (← m.grossIncome .yearly [.earned] [])
    unearned := ← income.unearned.add
      (← m.grossIncome .yearly [.unearned] [.supplementalSecurity])
    ssi := ← income.ssi.add (← m.yearlyIncomeOf [.supplementalSecurity]) }

def combinedIncome (m : Member) (partner : Option Member) : Except Overflow Income :=
  (m :: partner.toList).foldlM Income.addPerson ⟨.zero, .zero, .zero⟩

def memberConditions (ctx : Context) (m : Member) (cs : Conditions) :
    Except Overflow Conditions := do
  let partner := partner? ctx.household m
  let assetLimit := if partner.isSome then marriedAssetLimit else singleAssetLimit
  let i ← combinedIncome m partner
  let income ← countableIncome i.earned i.unearned i.ssi
  let maxIncome ← (← ctx.guideline).mul maxPercent
  return cs ++ [
    checkFor (ageRule.passes m) (.olderThan 65),
    check (m.insurance.containsAny coverage),
    checkFor (ctx.household.assets ≤ assetLimit) (.assets assetLimit),
    checkFor (income ≤ maxIncome) (.income income maxIncome)]

def calculator : Calculator where
  dependencies := [.householdAssets, .relationship, .incomeFrequency, .incomeAmount, .age,
    .disabled, .insurance]
  householdConditions _ cs := .ok cs
  memberScoped := true
  memberConditions
  memberAmount := monthly 185

end BenefitScreen.MedicareSavings
