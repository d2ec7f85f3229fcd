import BenefitScreen.Wire.Format
import BenefitScreen.Yaml.Quoted

/-!
Documents of YAML in its flow style, which has the form of JSON: one mapping or list over quoted
texts and plain scalars.

`Yaml.parse?` splits a document, and `Format.yaml` says what its values are read as. A scalar keeps
its written form where text is wanted, a number is the one nearest to its digits, and only a
mapping makes a record.
-/

namespace BenefitScreen

namespace Yaml

open Json (Written)

/-- Whether a character may stand in a document; most controls may not. -/
def isAllowed (c : Char) : Bool :=
  let n := c.toNat
  n == 9 || n == 10 || n == 13 || (0x20 ≤ n && n ≤ 0x7E) || n == 0x85 ||
    (0xA0 ≤ n && n ≤ 0xFFFD) || 0x10000 ≤ n

/-- The most characters between the opening quote of a key and its colon. -/
def keyLimit : Nat := 1023

/-- Texts, and keys that stand with their colon on one line, in a document of fewer than `size`
characters. -/
def lexis (size : Nat) : Json.Lexis where
  text cs := do
    let (s, cs) ← readQuoted size [] cs
    some (some s, cs)
  key cs := do
    let (k, rest) ← readQuoted size [] cs
    let rest := Json.skipBlanks rest
    let written := cs.take (cs.length - rest.length)
    match rest with
    | ':' :: rest =>
      if written.length ≤ keyLimit && !written.any isBreak then some (some k, rest) else none
    | _ => none

/-- Skips spaces and line breaks outside of all brackets, and tabs where the line has begun. -/
def skipOutside : (lineBegun : Bool) → List Char → List Char
  | begun, ' ' :: cs => skipOutside begun cs
  | true, '\t' :: cs => skipOutside true cs
  | _, c :: cs => if isBreak c then skipOutside false cs else c :: cs
  | _, [] => []

/-- Splits a document, which may begin with a byte order mark. -/
def parse? (s : String) : Option Written := do
  let cs := match s.toList with
    | '\ufeff' :: cs => cs
    | cs => cs
  let size := cs.length + 1
  let (w, rest) ← Written.read (lexis size) size size (skipOutside false cs)
  if cs.all isAllowed && (skipOutside true rest).isEmpty then some w else none

def text : Written → Option String
  | .null => some "null"
  | .bool b => some (if b then "true" else "false")
  | .number l => some l.text
  | .text s => s
  | _ => none

def uint64 : Written → Option UInt64
  | .number l => do
    let n ← l.int?
    if !l.negative && n < UInt64.size then some (.ofNat n.toNat) else none
  | _ => none

/-- An amount as text, an integer of 64 bits, or a binary number by its own digits. -/
def decimal : Written → Option Decimal
  | .text s => s.bind Decimal.parse?
  | .number l =>
    match l.int? with
    | some n => if Json.fitsInt n then Decimal.ofInt? n else none
    | none => l.nearest?.bind fun x => Decimal.parse? x.plainText
  | _ => none

end Yaml

def Format.yaml : Format Json.Written where
  isNull
    | .null => true
    | _ => false
  text := Yaml.text
  uint64 := Yaml.uint64
  decimal := Yaml.decimal
  items
    | .array xs => some xs
    | _ => none
  entries
    | .object ms => ms.mapM fun m => m.1.map fun k => (k, m.2)
    | _ => none
  slots names
    | .object ms => do
      Decode.memberSlots names (← ms.mapM fun m => m.1.map fun k => (k, m.2))
    | _ => none

end BenefitScreen
