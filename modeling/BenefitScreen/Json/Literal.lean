import BenefitScreen.Json.Basic

/-!
Number literals: digits with an optional sign, point and exponent.

A literal has a JSON number as its value, `Literal.number?`, whose digits beyond the first twenty
or so do not count; `Literal.nearest?` is the binary number nearest to all of its digits.
-/

namespace BenefitScreen.Json

abbrev Reader (α : Type) := List Char → Option (α × List Char)

/-- A number as it is written. -/
structure Literal where
  negative : Bool
  /-- The digits before the point. -/
  whole : List Char
  /-- The digits after the point, if there is one. -/
  fraction : Option (List Char)
  /-- The mark of the exponent with its sign, and its digits, if there is one. -/
  exponent : Option (List Char × List Char)

def takeDigits (cs : List Char) : List Char × List Char :=
  (cs.takeWhile Char.isDigit, cs.dropWhile Char.isDigit)

def digitsValue (digits : List Char) : Nat :=
  digits.foldl (fun n c => n * 10 + (c.toNat - 48)) 0

/-- The mark `e` or `E` of an exponent, with a sign. -/
def readMark : Reader (List Char)
  | 'e' :: '-' :: cs => some (['e', '-'], cs)
  | 'e' :: '+' :: cs => some (['e', '+'], cs)
  | 'e' :: cs => some (['e'], cs)
  | 'E' :: '-' :: cs => some (['E', '-'], cs)
  | 'E' :: '+' :: cs => some (['E', '+'], cs)
  | 'E' :: cs => some (['E'], cs)
  | _ => none

/-- A number: no zeros in front, and digits on both sides of a point and in an exponent. -/
def readLiteral : Reader Literal := fun cs => do
  let (negative, cs) := match cs with
    | '-' :: cs => (true, cs)
    | cs => (false, cs)
  let (whole, cs) := takeDigits cs
  if whole.isEmpty || (whole.head? == some '0' && whole.length != 1) then none
  else
    let (fraction, cs) ← match cs with
      | '.' :: cs =>
        let (digits, cs) := takeDigits cs
        if digits.isEmpty then none else some (some digits, cs)
      | cs => some (none, cs)
    match readMark cs with
    | none => some (⟨negative, whole, fraction, none⟩, cs)
    | some (mark, cs) =>
      let (digits, cs) := takeDigits cs
      if digits.isEmpty then none else some (⟨negative, whole, fraction, some (mark, digits)⟩, cs)

namespace Literal

def text (l : Literal) : String :=
  let sign := if l.negative then ['-'] else []
  let fraction := (l.fraction.map ('.' :: ·)).getD []
  let exponent := (l.exponent.map fun e => e.1 ++ e.2).getD []
  String.ofList (sign ++ l.whole ++ fraction ++ exponent)

/-- The literal's integer, if it has neither a point nor an exponent. -/
def int? (l : Literal) : Option Int :=
  if l.fraction.isNone && l.exponent.isNone then
    let n : Int := digitsValue l.whole
    some (if l.negative then -n else n)
  else none

def power (l : Literal) : Int :=
  match l.exponent with
  | none => 0
  | some (mark, digits) =>
    let n : Int := digitsValue digits
    if mark.contains '-' then -n else n

/-- The leading digits of a number whose value has 64 bits, and how many digits are left. -/
def capDigits : List Char → Nat → Nat × Nat
  | [], n => (n, 0)
  | c :: cs, n =>
    let m := n * 10 + (c.toNat - 48)
    if m < UInt64.size then capDigits cs m else (n, cs.length + 1)

/-- The value as a JSON number: an integer if it fits and is not a negative zero, else a binary
number, which is read from the first digits alone. -/
def number? (l : Literal) : Option Number :=
  match l.int?.filter fun n => fitsInt n && !(l.negative && n == 0) with
  | some n => some (.int n)
  | none => do
    let (head, beyond) := capDigits l.whole 0
    let fraction := l.fraction.getD []
    let (significand, left) := capDigits fraction head
    let used : Int := fraction.length - left
    let x ← Binary64.ofScientific? l.negative significand (beyond - used + l.power)
    some (.double x)

/-- The binary number nearest to the value, if it is finite. -/
def nearest? (l : Literal) : Option Binary64 :=
  let digits := l.whole ++ l.fraction.getD []
  let significand := digitsValue digits
  let power := l.power - ((l.fraction.getD []).length : Int)
  if significand = 0 ∨ power + digits.length < -330 then Binary64.nearest? l.negative 0 1
  else if 310 < power then none
  else
    Binary64.nearest? l.negative (significand * tenPow power.toNat) (tenPow (-power).toNat)

end Literal

end BenefitScreen.Json
