import BenefitScreen.Household
import BenefitScreen.Json.Decode
import BenefitScreen.Text.Blank

/-!
Households as JSON.
-/

namespace BenefitScreen

namespace Uuid

def ofHex? (cs : List Char) : Option Uuid :=
  if cs.length = 32 then
    (cs.foldlM (fun n c => (Json.hexValue? c).map (n * 16 + ·)) 0).map fun n => ⟨.ofNat 128 n⟩
  else none

/-- Digits in groups of eight, four, four, four and twelve. -/
def ofGroups? (cs : List Char) : Option Uuid :=
  if cs.length = 36 ∧ [8, 13, 18, 23].all (fun i => cs[i]? == some '-') then
    let part (start count : Nat) := (cs.drop start).take count
    ofHex? (part 0 8 ++ part 9 4 ++ part 14 4 ++ part 19 4 ++ part 24 12)
  else none

/-- Groups, groups in braces or after `urn:uuid:` in any case, or plain digits. -/
def parse? (s : String) : Option Uuid :=
  let cs := s.toList
  match cs.length with
  | 32 => ofHex? cs
  | 36 => ofGroups? cs
  | 38 =>
    if cs.head? = some '\x7b' ∧ cs.getLast? = some '\x7d' then ofGroups? ((cs.drop 1).take 36)
    else none
  | 45 => if Text.sameLetters (String.ofList (cs.take 9)) "urn:uuid:" then ofGroups? (cs.drop 9)
    else none
  | _ => none

def render (u : Uuid) : String :=
  let digits := Nat.toDigits 16 u.value.toNat
  let all := List.replicate (32 - digits.length) '0' ++ digits
  let part (start count : Nat) := (all.drop start).take count
  String.ofList (part 0 8 ++ '-' :: part 8 4 ++ '-' :: part 12 4 ++ '-' :: part 16 4 ++
    '-' :: part 20 12)

end Uuid

namespace Decode

open Slot

def incomeStream : Decoder IncomeStream := fun j => do
  let [type, amount, frequency, hours] ← slots ["type", "amount", "frequency", "hours_worked"] j
    | none
  return {
    type := ← type.required named
    amount := ← amount.required decimal
    frequency := ← frequency.required named
    hoursWorked := ← hours.orNone decimal }

def expense : Decoder Expense := fun j => do
  let [type, amount, frequency] ← slots ["type", "amount", "frequency"] j | none
  return {
    type := ← type.required named
    amount := ← amount.required decimal
    frequency := ← frequency.required named }

def birthMonth : Decoder BirthMonth := fun j => do
  let [year, month] ← slots ["year", "month"] j | none
  return { year := ← year.required int32, month := ← month.required uint32 }

def memberId : Decoder MemberId := fun j => (uint32 j).map fun n => ⟨n⟩

def memberFields : List String :=
  ["id", "relationship", "age", "birth_year_month", "pregnant", "disabled", "visually_impaired",
    "long_term_disability", "student", "insurance", "income_streams"]

def member : Decoder Member := fun j => do
  let [id, relationship, age, birth, pregnant, disabled, visuallyImpaired, longTerm, student,
    insurance, streams] ← slots memberFields j | none
  return {
    id := ← id.required memberId
    relationship := ← relationship.required named
    age := ← age.orNone uint32
    birthMonth := ← birth.orNone birthMonth
    pregnant := ← pregnant.orElse bool false
    disabled := ← disabled.orElse bool false
    visuallyImpaired := ← visuallyImpaired.orElse bool false
    longTermDisability := ← longTerm.orElse bool false
    student := ← student.orElse bool false
    insurance := ← insurance.orElse enumSet .empty
    incomeStreams := ← streams.orElse (list incomeStream) [] }

def uuid : Decoder Uuid
  | .text s => Uuid.parse? s
  | _ => none

def householdFields : List String :=
  ["id", "state", "household_size", "household_assets", "county", "zipcode", "members",
    "expenses", "current_benefits"]

/-- Reads a household; one that comes without an identifier gets `fresh`. -/
def household (fresh : Uuid) : Decoder Household := fun j => do
  let [id, state, size, assets, county, zipcode, members, expenses, benefits]
    ← slots householdFields j | none
  return {
    id := ← id.orElse uuid fresh
    state := ← state.required text
    reportedSize := ← size.orNone uint64
    assets := ← assets.orElse decimal .zero
    county := ← county.orNone text
    zipcode := ← zipcode.orNone text
    members := ← members.orElse (list member) []
    expenses := ← expenses.orElse (list expense) []
    currentBenefits := ← benefits.orElse nameSet .empty }

end Decode

namespace Encode

def incomeStream (s : IncomeStream) : Json := .object [
  ("type", named s.type),
  ("amount", decimal s.amount),
  ("frequency", named s.frequency),
  ("hours_worked", optional decimal s.hoursWorked)]

def expense (e : Expense) : Json := .object [
  ("type", named e.type),
  ("amount", decimal e.amount),
  ("frequency", named e.frequency)]

def birthMonth (b : BirthMonth) : Json := .object [
  ("year", int32 b.year),
  ("month", uint32 b.month)]

def memberId (id : MemberId) : Json := uint32 id.number

def member (m : Member) : Json := .object [
  ("id", memberId m.id),
  ("relationship", named m.relationship),
  ("age", optional uint32 m.age),
  ("birth_year_month", optional birthMonth m.birthMonth),
  ("pregnant", bool m.pregnant),
  ("disabled", bool m.disabled),
  ("visually_impaired", bool m.visuallyImpaired),
  ("long_term_disability", bool m.longTermDisability),
  ("student", bool m.student),
  ("insurance", enumSet m.insurance),
  ("income_streams", list incomeStream m.incomeStreams)]

def household (h : Household) : Json := .object [
  ("id", text h.id.render),
  ("state", text h.state),
  ("household_size", optional uint64 h.reportedSize),
  ("household_assets", decimal h.assets),
  ("county", optional text h.county),
  ("zipcode", optional text h.zipcode),
  ("members", list member h.members),
  ("expenses", list expense h.expenses),
  ("current_benefits", nameSet h.currentBenefits)]

end Encode

end BenefitScreen
