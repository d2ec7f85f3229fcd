import BenefitScreen.Decimal.Conversion
import BenefitScreen.Enumerated
import BenefitScreen.Json.Text
import BenefitScreen.Table

/-!
Reading values of a type out of JSON, and writing them as JSON.

A record is an object with its fields as members, or an array with its fields in order. Members
that no field names are ignored; a field that is named twice is refused.
-/

namespace BenefitScreen

/-- A reader of JSON values; `none` where the value has another shape. -/
abbrev Decoder (α : Type) := Json → Option α

namespace Decode

def bool : Decoder Bool
  | .bool b => some b
  | _ => none

def text : Decoder String
  | .text s => some s
  | _ => none

/-- A whole number from `low` on and below `high`. -/
def intBetween (low high : Int) : Decoder Int
  | .number (.int n) => if low ≤ n ∧ n < high then some n else none
  | _ => none

/-- A natural number below `size`. -/
def natBelow (size : Nat) : Decoder Nat := fun j => (intBetween 0 size j).map Int.toNat

def uint8 : Decoder UInt8 := fun j => (natBelow UInt8.size j).map .ofNat

def uint16 : Decoder UInt16 := fun j => (natBelow UInt16.size j).map .ofNat

def uint32 : Decoder UInt32 := fun j => (natBelow UInt32.size j).map .ofNat

def uint64 : Decoder UInt64 := fun j => (natBelow UInt64.size j).map .ofNat

def int32 : Decoder Int32 := fun j =>
  (intBetween Int32.minValue.toInt (Int32.maxValue.toInt + 1) j).map .ofInt

/-- Null stands for no value. -/
def optional {α : Type} (item : Decoder α) : Decoder (Option α)
  | .null => some none
  | j => (item j).map some

def list {α : Type} (item : Decoder α) : Decoder (List α)
  | .array xs => xs.mapM item
  | _ => none

def table {α : Type} (item : Decoder α) : Decoder (Table α)
  | .object ms =>
    (ms.mapM fun (m : String × Json) => (item m.2).map fun v => (m.1, v)).map Table.ofList
  | _ => none

def any : Decoder Json := fun j => some j.canonical

/-- An amount, written or as a number. A binary number counts by its own digits. -/
def decimal : Decoder Decimal
  | .text s => Decimal.parse? s
  | .number (.int n) => Decimal.ofInt? n
  | .number (.double x) => Decimal.parse? x.plainText
  | _ => none

/-- A value of an enumerated type by its name. -/
def byName {α : Type} [DecidableEq α] [Enumerated α] : Decoder α
  | .text s => Enumerated.ofName? s
  | _ => none

/-- A value of an enumerated type by its name, which may also be the one key of an object, over
null. -/
def named {α : Type} [DecidableEq α] [Enumerated α] : Decoder α
  | .object [(s, .null)] => Enumerated.ofName? s
  | j => byName j

def enumSet {α : Type} [DecidableEq α] [Enumerated α] : Decoder (EnumSet α) := fun j =>
  (list named j).map EnumSet.ofList

def nameSet : Decoder NameSet := fun j => (list text j).map NameSet.ofNames

/-- What a record holds for one of its fields. -/
inductive Slot (V : Type) where
  /-- An object without the field. -/
  | absent
  /-- An array that ends before the field. -/
  | cut
  | given (value : V)

/-- The slots of the fields with the given names among the members of an object. -/
def memberSlots {V : Type} (names : List String) (members : List (String × V)) :
    Option (List (Slot V)) :=
  names.mapM fun name =>
    match members.filter fun m => m.1 == name with
    | [] => some .absent
    | [m] => some (.given m.2)
    | _ => none

/-- The slots of the fields with the given names, in order. -/
def slots (names : List String) : Decoder (List (Slot Json))
  | .object ms => memberSlots names ms
  | .array xs =>
    if xs.length ≤ names.length then
      some (xs.map .given ++ List.replicate (names.length - xs.length) .cut)
    else none
  | _ => none

namespace Slot

variable {V α : Type}

def required (item : V → Option α) : Slot V → Option α
  | .given v => item v
  | _ => none

/-- A field with a default; null is not the default. -/
def orElse (item : V → Option α) (default : α) : Slot V → Option α
  | .given v => item v
  | _ => some default

def optional (item : Decoder α) : Slot Json → Option (Option α)
  | .given j => Decode.optional item j
  | .absent => some none
  | .cut => none

/-- A field that may be left out and may be null. -/
def orNone (item : Decoder α) : Slot Json → Option (Option α) :=
  orElse (Decode.optional item) none

end Slot

/-- The name of a variant, read from the value under its tag, with the rest of the record. -/
def variant (tag : String) (name : Decoder String) : Json → Option (String × Json)
  | .object ms =>
    match ms.filter fun m => m.1 == tag with
    | [m] => (name m.2).map fun n => (n, .object (ms.filter fun m => m.1 != tag))
    | _ => none
  | .array (x :: xs) => (name x).map fun n => (n, .array xs)
  | _ => none

/-- One of some names, by itself or by its number among them. -/
def nameOrNumber (names : List String) : Decoder String
  | .text s => some s
  | .number (.int n) => if 0 ≤ n then names[n.toNat]? else none
  | _ => none

def noFields : Json → Option Unit
  | .object _ => some ()
  | .array [] => some ()
  | _ => none

end Decode

namespace Encode

def bool (b : Bool) : Json := .bool b

def text (s : String) : Json := .text s

def uint32 (n : UInt32) : Json := .ofNat n.toNat

def uint64 (n : UInt64) : Json := .ofNat n.toNat

def int32 (n : Int32) : Json := .ofInt n.toInt

def decimal (a : Decimal) : Json := .text a.render

def optional {α : Type} (item : α → Json) : Option α → Json
  | none => .null
  | some a => item a

def list {α : Type} (item : α → Json) (xs : List α) : Json := .array (xs.map item)

def table {α : Type} (item : α → Json) (t : Table α) : Json :=
  .object (t.entries.map fun e => (e.1, item e.2))

def named {α : Type} [DecidableEq α] [Enumerated α] (a : α) : Json := .text (Enumerated.name a)

def enumSet {α : Type} [DecidableEq α] [Enumerated α] (s : EnumSet α) : Json :=
  .array (s.members.map named)

def nameSet (s : NameSet) : Json := .array (s.names.map .text)

end Encode

end BenefitScreen
