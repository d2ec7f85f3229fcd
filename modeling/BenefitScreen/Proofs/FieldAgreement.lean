import BenefitScreen.DataField
import BenefitScreen.Poverty
import Mathlib.Tactic.Common

/-!
# Households that agree on some fields

What a household shows through a list of fields is the household with everything else blanked: the
state, the members' ids and the numbers of streams and expenses stay. Two households agree on the
fields if they show the same. Each quantity that the rules and the simulation take from a household
is the same for what the household shows, as soon as the fields that it rests on are in the list.
-/

namespace BenefitScreen

variable {fields : List DataField}

/-- `a` where the field is among those shown, and `blank` elsewhere. -/
def DataField.reveal {α : Type} (field : DataField) (fields : List DataField) (a blank : α) : α :=
  if field ∈ fields then a else blank

@[simp] lemma DataField.reveal_of_mem {α : Type} {field : DataField} (h : field ∈ fields)
    (a blank : α) : field.reveal fields a blank = a := if_pos h

lemma DataField.reveal_reveal {α : Type} {more : List DataField} (hsub : fields ⊆ more)
    (field : DataField) (a blank : α) :
    field.reveal fields (field.reveal more a blank) blank = field.reveal fields a blank := by
  unfold DataField.reveal
  by_cases h : field ∈ fields
  · rw [if_pos h, if_pos (hsub h), if_pos h]
  · rw [if_neg h, if_neg h]

def IncomeStream.shown (fields : List DataField) (s : IncomeStream) : IncomeStream where
  type := DataField.incomeType.reveal fields s.type .other
  amount := DataField.incomeAmount.reveal fields s.amount .zero
  frequency := DataField.incomeFrequency.reveal fields s.frequency .yearly
  hoursWorked := DataField.incomeAmount.reveal fields s.hoursWorked none

/-- The frequency of an expense goes with its amount. -/
def Expense.shown (fields : List DataField) (e : Expense) : Expense where
  type := DataField.expenseType.reveal fields e.type .other
  amount := DataField.expenseAmount.reveal fields e.amount .zero
  frequency := DataField.expenseAmount.reveal fields e.frequency .yearly

/-- The month of birth goes with the age. The field of disability stands for all three flags, and
visual impairment is a field of its own besides. -/
def Member.shown (fields : List DataField) (m : Member) : Member where
  id := m.id
  relationship := DataField.relationship.reveal fields m.relationship .other
  age := DataField.age.reveal fields m.age none
  birthMonth := DataField.age.reveal fields m.birthMonth none
  pregnant := DataField.pregnant.reveal fields m.pregnant false
  disabled := DataField.disabled.reveal fields m.disabled false
  visuallyImpaired := m.visuallyImpaired && (.disabled ∈ fields || .visuallyImpaired ∈ fields)
  longTermDisability := DataField.disabled.reveal fields m.longTermDisability false
  student := DataField.student.reveal fields m.student false
  insurance := DataField.insurance.reveal fields m.insurance .empty
  incomeStreams := m.incomeStreams.map (IncomeStream.shown fields)

namespace Household

/-- The household with everything blanked that the fields do not tell. -/
def shown (fields : List DataField) (h : Household) : Household where
  id := ⟨0⟩
  state := h.state
  reportedSize := DataField.householdSize.reveal fields h.reportedSize none
  assets := DataField.householdAssets.reveal fields h.assets .zero
  county := DataField.county.reveal fields h.county none
  zipcode := DataField.zipcode.reveal fields h.zipcode none
  members := h.members.map (Member.shown fields)
  expenses := h.expenses.map (Expense.shown fields)
  currentBenefits := DataField.currentBenefits.reveal fields h.currentBenefits .empty

/-- The households have one state, the same member ids in the same order and the same numbers of
streams and expenses, and agree on the fields. -/
def AgreeOn (fields : List DataField) (h h' : Household) : Prop := h.shown fields = h'.shown fields

instance (fields : List DataField) (h h' : Household) : Decidable (AgreeOn fields h h') :=
  inferInstanceAs (Decidable (h.shown fields = h'.shown fields))

end Household

section Fewer

variable {more : List DataField}

lemma IncomeStream.shown_shown (hsub : fields ⊆ more) (s : IncomeStream) :
    (s.shown more).shown fields = s.shown fields := by
  simp only [shown, DataField.reveal_reveal hsub]

lemma Expense.shown_shown (hsub : fields ⊆ more) (e : Expense) :
    (e.shown more).shown fields = e.shown fields := by
  simp only [shown, DataField.reveal_reveal hsub]

lemma Member.shown_shown (hsub : fields ⊆ more) (m : Member) :
    (m.shown more).shown fields = m.shown fields := by
  have himpaired (b : Bool) :
      (b && (decide (.disabled ∈ more) || decide (.visuallyImpaired ∈ more)) &&
        (decide (.disabled ∈ fields) || decide (.visuallyImpaired ∈ fields))) =
      (b && (decide (.disabled ∈ fields) || decide (.visuallyImpaired ∈ fields))) := by
    by_cases hd : DataField.disabled ∈ fields
    · simp [hd, hsub hd]
    · by_cases hv : DataField.visuallyImpaired ∈ fields
      · simp [hv, hsub hv]
      · simp [hd, hv]
  have hstreams : IncomeStream.shown fields ∘ IncomeStream.shown more = IncomeStream.shown fields :=
    funext (IncomeStream.shown_shown hsub)
  simp only [shown, DataField.reveal_reveal hsub, himpaired, List.map_map, hstreams]

lemma Household.shown_shown (hsub : fields ⊆ more) (h : Household) :
    (h.shown more).shown fields = h.shown fields := by
  have hmembers : Member.shown fields ∘ Member.shown more = Member.shown fields :=
    funext (Member.shown_shown hsub)
  have hexpenses : Expense.shown fields ∘ Expense.shown more = Expense.shown fields :=
    funext (Expense.shown_shown hsub)
  simp only [shown, DataField.reveal_reveal hsub, List.map_map, hmembers, hexpenses]

/-- Who agrees on some fields agrees on fewer. -/
lemma Household.AgreeOn.mono (hsub : fields ⊆ more) {h h' : Household} (ha : AgreeOn more h h') :
    AgreeOn fields h h' := by
  have hshown := congrArg (Household.shown fields) ha
  rwa [Household.shown_shown hsub, Household.shown_shown hsub] at hshown

end Fewer

section Amounts

lemma IncomeStream.yearly_shown (hamount : .incomeAmount ∈ fields)
    (hfrequency : .incomeFrequency ∈ fields) (s : IncomeStream) :
    (s.shown fields).yearly = s.yearly := by
  simp only [shown, yearly, DataField.reveal_of_mem hamount, DataField.reveal_of_mem hfrequency]

lemma Expense.yearly_shown (hamount : .expenseAmount ∈ fields) (e : Expense) :
    (e.shown fields).yearly = e.yearly := by
  simp only [shown, yearly, DataField.reveal_of_mem hamount]

end Amounts

namespace Member

variable (m : Member)

@[simp] lemma id_shown : (m.shown fields).id = m.id := rfl

lemma relationship_shown (h : .relationship ∈ fields) :
    (m.shown fields).relationship = m.relationship := DataField.reveal_of_mem h _ _

lemma age_shown (h : .age ∈ fields) : (m.shown fields).age = m.age := DataField.reveal_of_mem h _ _

lemma pregnant_shown (h : .pregnant ∈ fields) : (m.shown fields).pregnant = m.pregnant :=
  DataField.reveal_of_mem h _ _

lemma student_shown (h : .student ∈ fields) : (m.shown fields).student = m.student :=
  DataField.reveal_of_mem h _ _

lemma insurance_shown (h : .insurance ∈ fields) : (m.shown fields).insurance = m.insurance :=
  DataField.reveal_of_mem h _ _

lemma visuallyImpaired_shown (h : .visuallyImpaired ∈ fields) :
    (m.shown fields).visuallyImpaired = m.visuallyImpaired := by
  simp [shown, h]

lemma isHead_shown (h : .relationship ∈ fields) : (m.shown fields).isHead = m.isHead := by
  rw [isHead, isHead, relationship_shown m h]

lemma isSpouse_shown (h : .relationship ∈ fields) : (m.shown fields).isSpouse = m.isSpouse := by
  rw [isSpouse, isSpouse, relationship_shown m h]

lemma hasDisability_shown (h : .disabled ∈ fields) :
    (m.shown fields).hasDisability = m.hasDisability := by
  simp [hasDisability, shown, h]

lemma isAtLeast_shown (h : .age ∈ fields) (age : UInt32) :
    (m.shown fields).isAtLeast age = m.isAtLeast age := by
  rw [isAtLeast, isAtLeast, age_shown m h]

lemma isAtMost_shown (h : .age ∈ fields) (age : UInt32) :
    (m.shown fields).isAtMost age = m.isAtMost age := by
  rw [isAtMost, isAtMost, age_shown m h]

lemma ageInMonths_shown (h : .age ∈ fields) (asOf : Date) :
    (m.shown fields).ageInMonths asOf = m.ageInMonths asOf := by
  simp only [ageInMonths, shown, DataField.reveal_of_mem h]

section Income

variable (hamount : .incomeAmount ∈ fields) (hfrequency : .incomeFrequency ∈ fields)

include hamount hfrequency

lemma yearlyTotal_shown (streams : List IncomeStream) :
    yearlyTotal (streams.map (IncomeStream.shown fields)) = yearlyTotal streams := by
  simp only [yearlyTotal, List.foldlM_map, IncomeStream.yearly_shown hamount hfrequency]

lemma yearlyIncomeOf_shown (htype : .incomeType ∈ fields) (types : List IncomeType) :
    (m.shown fields).yearlyIncomeOf types = m.yearlyIncomeOf types := by
  have hstreams : (m.shown fields).streamsOf types =
      (m.streamsOf types).map (IncomeStream.shown fields) := by
    simp only [streamsOf, shown, List.filter_map, Function.comp_def, IncomeStream.shown,
      DataField.reveal_of_mem htype]
  rw [yearlyIncomeOf, hstreams, yearlyTotal_shown hamount hfrequency, yearlyIncomeOf]

lemma grossIncome_shown (htype : .incomeType ∈ fields) (window : Timeframe)
    (filters : List IncomeFilter) (exclude : List IncomeType) :
    (m.shown fields).grossIncome window filters exclude = m.grossIncome window filters exclude := by
  have hstreams : (m.shown fields).streamsBy filters exclude =
      (m.streamsBy filters exclude).map (IncomeStream.shown fields) := by
    simp only [streamsBy, shown, List.filter_map, Function.comp_def, IncomeStream.shown,
      DataField.reveal_of_mem htype]
  rw [grossIncome, hstreams, yearlyTotal_shown hamount hfrequency, grossIncome]

omit hamount hfrequency in
lemma streamsBy_all : m.streamsBy [.all] [] = m.incomeStreams := by
  simp [streamsBy, IncomeFilter.admits]

/-- The whole income can be told without the types of the streams. -/
lemma grossIncome_all_shown (window : Timeframe) :
    (m.shown fields).grossIncome window [.all] [] = m.grossIncome window [.all] [] := by
  have hstreams : (m.shown fields).streamsBy [.all] [] =
      (m.streamsBy [.all] []).map (IncomeStream.shown fields) := by
    rw [streamsBy_all, streamsBy_all, shown]
  rw [grossIncome, hstreams, yearlyTotal_shown hamount hfrequency, grossIncome]

end Income

end Member

lemma AgeRule.passes_shown (hage : .age ∈ fields) (hdisabled : .disabled ∈ fields) (r : AgeRule)
    (m : Member) : r.passes (m.shown fields) = r.passes m := by
  rw [passes, passes, m.age_shown hage, m.hasDisability_shown hdisabled]

namespace Household

variable (h : Household)

lemma members_shown : (h.shown fields).members = h.members.map (Member.shown fields) := rfl

@[simp] lemma state_shown : (h.shown fields).state = h.state := rfl

lemma county_shown (hcounty : .county ∈ fields) : (h.shown fields).county = h.county :=
  DataField.reveal_of_mem hcounty _ _

lemma assets_shown (hassets : .householdAssets ∈ fields) : (h.shown fields).assets = h.assets :=
  DataField.reveal_of_mem hassets _ _

lemma hasBenefit_shown (hbenefits : .currentBenefits ∈ fields) (code : String) :
    (h.shown fields).hasBenefit code = h.hasBenefit code := by
  simp only [hasBenefit, shown, DataField.reveal_of_mem hbenefits]

lemma size_shown (hsize : .householdSize ∈ fields) : (h.shown fields).size = h.size := by
  simp only [size, shown, DataField.reveal_of_mem hsize, List.length_map]

/-- What holds of some member is told by the fields that tell it of each member. -/
lemma any_shown {p q : Member → Bool} (hp : ∀ m, p (m.shown fields) = q m) :
    (h.shown fields).members.any p = h.members.any q := by
  simp only [members_shown, List.any_map, Function.comp_def, hp]

lemma countP_shown {p q : Member → Bool} (hp : ∀ m, p (m.shown fields) = q m) :
    (h.shown fields).members.countP p = h.members.countP q := by
  simp only [members_shown, List.countP_map, Function.comp_def, hp]

lemma find?_shown {p q : Member → Bool} (hp : ∀ m, p (m.shown fields) = q m) :
    (h.shown fields).members.find? p = (h.members.find? q).map (Member.shown fields) := by
  simp only [members_shown, List.find?_map, Function.comp_def, hp]

lemma head?_shown (hrelationship : .relationship ∈ fields) :
    (h.shown fields).head? = h.head?.map (Member.shown fields) :=
  h.find?_shown (Member.isHead_shown · hrelationship)

lemma spouse?_shown (hrelationship : .relationship ∈ fields) :
    (h.shown fields).spouse? = h.spouse?.map (Member.shown fields) :=
  h.find?_shown (Member.isSpouse_shown · hrelationship)

lemma pregnantCount_shown (hpregnant : .pregnant ∈ fields) :
    (h.shown fields).pregnantCount = h.pregnantCount :=
  h.countP_shown (Member.pregnant_shown · hpregnant)

lemma childCount_shown (hrelationship : .relationship ∈ fields) (hage : .age ∈ fields)
    (youngest oldest : UInt32) (relationships : List Relationship) :
    (h.shown fields).childCount youngest oldest relationships =
      h.childCount youngest oldest relationships := by
  apply h.countP_shown
  intro m
  rw [m.relationship_shown hrelationship, m.isAtLeast_shown hage, m.isAtMost_shown hage]

section Income

variable (hamount : .incomeAmount ∈ fields) (hfrequency : .incomeFrequency ∈ fields)

include hamount hfrequency

lemma grossIncome_shown (htype : .incomeType ∈ fields) (window : Timeframe)
    (filters : List IncomeFilter) :
    (h.shown fields).grossIncome window filters = h.grossIncome window filters := by
  simp only [grossIncome, members_shown, List.foldlM_map,
    Member.grossIncome_shown _ hamount hfrequency htype]

lemma grossIncome_all_shown (window : Timeframe) :
    (h.shown fields).grossIncome window [.all] = h.grossIncome window [.all] := by
  simp only [grossIncome, members_shown, List.foldlM_map,
    Member.grossIncome_all_shown _ hamount hfrequency]

end Income

lemma hasExpense_shown (htype : .expenseType ∈ fields) (types : List ExpenseType) :
    (h.shown fields).hasExpense types = h.hasExpense types := by
  simp only [hasExpense, shown, List.any_map, Function.comp_def, Expense.shown,
    DataField.reveal_of_mem htype]

lemma totalExpenses_shown (htype : .expenseType ∈ fields) (hamount : .expenseAmount ∈ fields)
    (window : Timeframe) (types : List ExpenseType) :
    (h.shown fields).totalExpenses window types = h.totalExpenses window types := by
  have hexpenses : (h.shown fields).expensesOf types =
      (h.expensesOf types).map (Expense.shown fields) := by
    simp only [expensesOf, shown, List.filter_map, Function.comp_def, Expense.shown,
      DataField.reveal_of_mem htype]
  simp only [totalExpenses, hexpenses, List.foldlM_map, Expense.yearly_shown hamount]

end Household

namespace PovertyCheck

lemma adjustedSize_shown (hsize : .householdSize ∈ fields) (hpregnant : .pregnant ∈ fields)
    (h : Household) : adjustedSize (h.shown fields) = adjustedSize h := by
  rw [adjustedSize, adjustedSize, h.size_shown hsize, h.pregnantCount_shown hpregnant]

end PovertyCheck

end BenefitScreen
