import BenefitScreen.Json.Decode

/-!
Notations that records are written in.

A `Format` says how fields, texts, numbers and lists are read out of the values of a notation, so
that a record has one reader for all of them.
-/

namespace BenefitScreen

/-- How values are read out of a notation. -/
structure Format (V : Type) where
  isNull : V → Bool
  text : V → Option String
  uint64 : V → Option UInt64
  decimal : V → Option Decimal
  items : V → Option (List V)
  /-- Entries under text keys. -/
  entries : V → Option (List (String × V))
  /-- The slots of the fields with the given names, in order. -/
  slots : List String → V → Option (List (Decode.Slot V))

namespace Format

variable {V α : Type}

/-- Null stands for no value. -/
def optional (f : Format V) (item : V → Option α) (v : V) : Option (Option α) :=
  if f.isNull v then some none else (item v).map some

def list (f : Format V) (item : V → Option α) (v : V) : Option (List α) :=
  (f.items v).bind fun xs => xs.mapM item

def table (f : Format V) (item : V → Option α) (v : V) : Option (Table α) :=
  (f.entries v).bind fun es =>
    (es.mapM fun (e : String × V) => (item e.2).map fun a => (e.1, a)).map Table.ofList

def json : Format Json where
  isNull := Json.isNull
  text := Decode.text
  uint64 := Decode.uint64
  decimal := Decode.decimal
  items
    | .array xs => some xs
    | _ => none
  entries
    | .object ms => some ms
    | _ => none
  slots := Decode.slots

end Format

end BenefitScreen
