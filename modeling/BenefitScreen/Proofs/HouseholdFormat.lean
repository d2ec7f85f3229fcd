import BenefitScreen.Proofs.AmountText
import BenefitScreen.Proofs.RecordFormat
import BenefitScreen.Proofs.UuidText

/-!
# A household is read back from its written form

The written form keeps everything but the sign of an amount that is zero, which only a reported
amount too small to show can have.
-/

namespace BenefitScreen

def IncomeStream.dropZeroSigns (s : IncomeStream) : IncomeStream :=
  { s with
    amount := s.amount.dropZeroSign
    hoursWorked := s.hoursWorked.map Decimal.dropZeroSign }

def Expense.dropZeroSigns (e : Expense) : Expense := { e with amount := e.amount.dropZeroSign }

def Member.dropZeroSigns (m : Member) : Member :=
  { m with incomeStreams := m.incomeStreams.map IncomeStream.dropZeroSigns }

/-- The household with every amount as it is, but for the signs of zeros. -/
def Household.dropZeroSigns (h : Household) : Household :=
  { h with
    assets := h.assets.dropZeroSign
    members := h.members.map Member.dropZeroSigns
    expenses := h.expenses.map Expense.dropZeroSigns }

namespace Decode

open Slot

lemma decimal_encode (a : Decimal) : decimal (Encode.decimal a) = some a.dropZeroSign :=
  a.parse?_render

lemma optional_decimal_encode (o : Option Decimal) :
    Decode.optional decimal (Encode.optional Encode.decimal o) =
      some (o.map Decimal.dropZeroSign) :=
  optional_encode (fun _ => Json.noConfusion) fun a _ => decimal_encode a

lemma incomeStream_encode (s : IncomeStream) :
    incomeStream (Encode.incomeStream s) = some s.dropZeroSigns := by
  have hslots : slots ["type", "amount", "frequency", "hours_worked"] (Encode.incomeStream s) =
    some _ := slots_object rfl (by decide)
  rw [incomeStream, hslots]
  simp only [List.map_cons, List.map_nil]
  rw [Option.bind_eq_bind, Option.bind_some]
  dsimp only
  simp only [required_given, orNone_given, named_encode, decimal_encode, optional_decimal_encode]
  rfl

lemma expense_encode (e : Expense) : expense (Encode.expense e) = some e.dropZeroSigns := by
  have hslots : slots ["type", "amount", "frequency"] (Encode.expense e) = some _ :=
    slots_object rfl (by decide)
  rw [expense, hslots]
  simp only [List.map_cons, List.map_nil]
  rw [Option.bind_eq_bind, Option.bind_some]
  dsimp only
  simp only [required_given, named_encode, decimal_encode]
  rfl

lemma birthMonth_encode (b : BirthMonth) : birthMonth (Encode.birthMonth b) = some b := by
  have hslots : slots ["year", "month"] (Encode.birthMonth b) = some _ :=
    slots_object rfl (by decide)
  rw [birthMonth, hslots]
  simp only [List.map_cons, List.map_nil]
  rw [Option.bind_eq_bind, Option.bind_some]
  dsimp only
  simp only [required_given, int32_encode, uint32_encode]
  rfl

lemma memberId_encode (id : MemberId) : memberId (Encode.memberId id) = some id := by
  rw [memberId, Encode.memberId, uint32_encode, Option.map_some]

lemma memberFields_nodup : memberFields.Nodup := by decide

lemma member_encode (m : Member) : member (Encode.member m) = some m.dropZeroSigns := by
  have hage := optional_encode_self uint32_encode (fun _ => Json.noConfusion) m.age
  have hbirth := optional_encode_self birthMonth_encode (fun _ => Json.noConfusion)
    m.birthMonth
  have hstreams := list_encode m.incomeStreams fun s _ => incomeStream_encode s
  have hslots : slots memberFields (Encode.member m) = some _ := slots_object rfl memberFields_nodup
  rw [member, hslots]
  simp only [List.map_cons, List.map_nil]
  rw [Option.bind_eq_bind, Option.bind_some]
  dsimp only
  simp only [required_given, orElse_given, orNone_given, memberId_encode, named_encode, hage,
    hbirth, bool_encode, enumSet_encode, hstreams]
  rfl

lemma householdFields_nodup : householdFields.Nodup := by decide

lemma uuid_encode (u : Uuid) : uuid (Encode.text u.render) = some u := u.parse?_render

/-- Every household is read back from its written form: each member, amount and set as it was, what
is absent as absent, and amounts with their digits and scale. The identifier is written too, so
that none is made up for it. -/
theorem household_encode (fresh : Uuid) (h : Household) :
    household fresh (Encode.household h) = some h.dropZeroSigns := by
  have hsize := optional_encode_self uint64_encode (fun _ => Json.noConfusion) h.reportedSize
  have hcounty := optional_encode_self text_encode (fun _ => Json.noConfusion) h.county
  have hzipcode := optional_encode_self text_encode (fun _ => Json.noConfusion) h.zipcode
  have hmembers := list_encode h.members fun m _ => member_encode m
  have hexpenses := list_encode h.expenses fun e _ => expense_encode e
  have hslots : slots householdFields (Encode.household h) = some _ :=
    slots_object rfl householdFields_nodup
  rw [household, hslots]
  simp only [List.map_cons, List.map_nil]
  rw [Option.bind_eq_bind, Option.bind_some]
  dsimp only
  simp only [required_given, orElse_given, orNone_given, uuid_encode, text_encode, hsize,
    decimal_encode, hcounty, hzipcode, hmembers, hexpenses, nameSet_encode]
  rfl

end Decode

end BenefitScreen
