import BenefitScreen.Proofs.HouseholdFormat
import BenefitScreen.Wire.Outcome

/-!
# Conditions are read back from their written form

A message is written under the name of its kind, and a failed look-up inside a message under the
name of its reason. Each name is read back as the kind that it was written for, with that kind's
fields. Of amounts, only the sign of a zero is lost, so that what is read back has the same values.
-/

namespace BenefitScreen

/-- The message with every amount as it is, but for the signs of zeros. -/
def Message.dropZeroSigns : Message → Message
  | .income amount maxIncome => .income amount.dropZeroSign maxIncome.dropZeroSign
  | .incomeRange amount minIncome maxIncome =>
    .incomeRange amount.dropZeroSign minIncome.dropZeroSign maxIncome.dropZeroSign
  | .assets limit => .assets limit.dropZeroSign
  | m => m

def Condition.dropZeroSigns (c : Condition) : Condition :=
  { c with message := c.message.map Message.dropZeroSigns }

lemma Decimal.sameValue_dropZeroSign (a : Decimal) : a.SameValue a.dropZeroSign := by
  have hsigned : a.dropZeroSign.signed = a.signed := by
    unfold dropZeroSign signed
    by_cases hm : a.mantissa = 0 <;> simp [hm]
  change a.signed * tenPow a.scale = a.dropZeroSign.signed * tenPow a.scale
  rw [hsigned]

lemma Message.same_dropZeroSigns (m : Message) : m.same m.dropZeroSigns = true := by
  cases m <;> simp [same, dropZeroSigns, Decimal.sameValue_dropZeroSign]

lemma Condition.same_dropZeroSigns (c : Condition) : c.same c.dropZeroSigns = true := by
  obtain ⟨passed, message⟩ := c
  cases message with
  | none => simp [same, dropZeroSigns]
  | some m => simp [same, dropZeroSigns, m.same_dropZeroSigns]

lemma Conditions.same_dropZeroSigns (cs : Conditions) :
    cs.same (cs.map Condition.dropZeroSigns) = true := by
  induction cs with
  | nil => rfl
  | cons c cs ih => rw [List.map_cons, same, c.same_dropZeroSigns, ih, Bool.and_self]

namespace Decode

open Slot

lemma variant_encode {tag name : String} {read : Decoder String} {fields : List (String × Json)}
    (hread : read (.text name) = some name) (htag : ∀ m ∈ fields, m.1 ≠ tag) :
    variant tag read (Encode.variant tag name fields) = some (name, .object fields) := by
  rw [Encode.variant, variant, filter_tag htag, filter_not_tag htag]
  dsimp only
  rw [hread, Option.map_some]

-- Not proved by `rfl`, as the lemmas on slots of other kinds are not.
lemma optional_given {α : Type} {item : Decoder α} {j : Json} :
    Slot.optional item (.given j) = Decode.optional item j := by rw [Slot.optional]

/-- A reason is read back from its name, also where its number would do. -/
lemma limitErrorBy_encode {read : Decoder String} (hread : ∀ s, read (.text s) = some s)
    (e : LimitError) : limitErrorBy read (Encode.limitError e) = some e := by
  cases e
  all_goals
    -- The name selects the reader of the fields that it was written with.
    rw [Encode.limitError, limitErrorBy, variant_encode (hread _) (by simp), Option.bind_eq_bind,
      Option.bind_some]
    simp only
    rw [slots_object]
    · simp only [List.map_cons, List.map_nil]
      rw [Option.bind_eq_bind, Option.bind_some]
      simp only [required_given, text_encode, uint64_encode]
      rfl
    · rfl
    · decide

lemma failure_encode (o : Option LimitError) :
    Decode.optional (limitErrorBy (nameOrNumber limitReasons))
      (Encode.optional Encode.limitError o) = some o := by
  refine optional_encode_self (limitErrorBy_encode fun _ => rfl) (fun e => ?_) o
  cases e <;> exact Json.noConfusion

lemma message_encode (m : Message) : message (Encode.message m) = some m.dropZeroSigns := by
  cases m
  all_goals
    rw [Encode.message, message, variant_encode rfl (by simp), Option.bind_eq_bind,
      Option.bind_some]
    simp only
  case presumedEligibility | location | hasDisability | hasNoInsurance | isPregnant | housingCost =>
    rfl
  all_goals
    rw [slots_object]
    · simp only [List.map_cons, List.map_nil]
      rw [Option.bind_eq_bind, Option.bind_some]
      simp only [required_given, optional_given, text_encode, uint32_encode, decimal_encode,
        failure_encode]
      rfl
    · rfl
    · decide

lemma condition_encode (c : Condition) :
    condition (Encode.condition c) = some c.dropZeroSigns := by
  have hmessage : Decode.optional message (Encode.optional Encode.message c.message) =
      some (c.message.map Message.dropZeroSigns) := by
    refine optional_encode (fun m => ?_) fun m _ => message_encode m
    cases m <;> exact Json.noConfusion
  have hslots : slots ["passed", "message"] (Encode.condition c) = some _ :=
    slots_object rfl (by decide)
  rw [condition, hslots]
  simp only [List.map_cons, List.map_nil]
  rw [Option.bind_eq_bind, Option.bind_some]
  dsimp only
  simp only [required_given, optional_given, bool_encode, hmessage]
  rfl

/-- Every list of conditions is read back from its written form: each condition in its place, with
its message of whatever kind, and amounts that have the same values. -/
theorem conditions_encode (cs : Conditions) :
    conditions (Encode.conditions cs) = some (cs.map Condition.dropZeroSigns) ∧
      cs.same (cs.map Condition.dropZeroSigns) = true :=
  ⟨list_encode cs fun c _ => condition_encode c, cs.same_dropZeroSigns⟩

end Decode

end BenefitScreen
