import BenefitScreen.Binary64.Basic

/-!
The fewest decimal digits that read back as a given binary number, and their two written forms.
-/

namespace BenefitScreen.Binary64

/-- Digits `d` with a power of ten: `d * 10 ^ power`, where `d` does not end in a zero. -/
structure Digits where
  digits : Nat
  power : Int
  deriving DecidableEq, Repr

/-- Whether `d * 10 ^ p` reads back as `x`: it lies between the midpoints to the neighbours of `x`,
and may be one of them if the significand is even. -/
def readsBack (x : Binary64) (d : Nat) (p : Int) : Bool :=
  let m := x.significand
  let low := if m = twoPow 52 ∧ 1 < x.field then 4 * m - 1 else 4 * m - 2
  let scale (e : Int) (n : Nat) := n * twoPow e.toNat
  -- everything over four times the denominator of `x` and of the power of ten
  let value := 4 * d * tenPow p.toNat * twoPow (-x.exponent).toNat
  let lower := scale x.exponent low * tenPow (-p).toNat
  let upper := scale x.exponent (4 * m + 2) * tenPow (-p).toNat
  if m % 2 = 0 then lower ≤ value && value ≤ upper else lower < value && value < upper

/-- The power of ten at or below a positive `n / d`. -/
def decimalOrder (n d : Nat) : Int :=
  let guess : Int := ((n.log2 : Int) - d.log2) * 30103 / 100000
  let atLeast (e : Int) : Bool := d * tenPow e.toNat ≤ n * tenPow (-e).toNat
  if atLeast (guess + 1) then guess + 1 else if atLeast guess then guess else guess - 1

def Digits.normal (d : Nat) (p : Int) : Digits :=
  if h : 0 < d ∧ d % 10 = 0 then Digits.normal (d / 10) (p + 1) else ⟨d, p⟩
  termination_by d
  decreasing_by omega

/-- Which of two equally near decimals stands for a binary number. -/
inductive Tie where
  | toEven
  | away
  deriving DecidableEq, Repr

/-- Whether a tie takes the lower decimal, whose digits are `below`. -/
def Tie.staysAt : Tie → (below : Nat) → Bool
  | toEven, below => below % 2 == 0
  | away, _ => false

/-- Of the two neighbours of `x` with `count` digits, the nearer one that reads back. -/
def digitsOf? (tie : Tie) (x : Binary64) (count : Nat) : Option Digits :=
  let p := decimalOrder x.num x.den - (count : Int) + 1
  let n := x.num * tenPow (-p).toNat
  let d := x.den * tenPow p.toNat
  let below := n / d
  let candidates :=
    if 2 * (n % d) < d ∨ (2 * (n % d) = d ∧ tie.staysAt below) then [below, below + 1]
    else [below + 1, below]
  (candidates.find? fun c => readsBack x c p).map fun c => Digits.normal c p

/-- The fewest digits of the size of `x` that read back. -/
def shortest (tie : Tie) (x : Binary64) : Digits :=
  if x.isZero then ⟨0, 0⟩
  else ((List.range 17).findSome? fun k => digitsOf? tie x (k + 1)).getD ⟨0, 0⟩

/-- `digits` with the point after `place` of them, without an exponent. -/
def positional (digits : List Char) (place : Int) : List Char :=
  if place ≤ 0 then
    "0.".toList ++ List.replicate (-place).toNat '0' ++ digits
  else if digits.length ≤ place.toNat then
    digits ++ List.replicate (place.toNat - digits.length) '0'
  else digits.take place.toNat ++ '.' :: digits.drop place.toNat

/-- The value without an exponent and without a point where it is whole; a tie goes away from
zero. -/
def plainText (x : Binary64) : String :=
  let s := x.shortest .away
  let digits := Nat.toDigits 10 s.digits
  let body := if s.digits = 0 then ['0'] else positional digits (digits.length + s.power)
  String.ofList (if x.negative then '-' :: body else body)

/-- The value as a JSON number: with a point, and positional between `1e-5` and `1e16`; a tie goes
to the even digit. -/
def jsonText (x : Binary64) : String :=
  let s := x.shortest .toEven
  let digits := Nat.toDigits 10 s.digits
  let place : Int := digits.length + s.power
  let body :=
    if s.digits = 0 then "0.0".toList
    else if -5 < place ∧ place ≤ 16 then
      let text := positional digits place
      if text.contains '.' then text else text ++ ".0".toList
    else
      let lead := match digits with
        | [d] => [d]
        | d :: rest => d :: '.' :: rest
        | [] => []
      lead ++ 'e' :: (toString (place - 1)).toList
  String.ofList (if x.negative then '-' :: body else body)

/-- The number that a JSON number's digits stand for: the significand and the power of ten are
each rounded to the nearest number, and so is their product or quotient. -/
def ofScientific? (negative : Bool) (significand : Nat) (power : Int) : Option Binary64 := do
  let f ← nearest? negative significand 1
  go f power 3
where
  go (f : Binary64) (power : Int) : Nat → Option Binary64
    | 0 => none
    | fuel + 1 =>
      if power.natAbs ≤ 308 then do
        let ten ← ofNat? (tenPow power.natAbs)
        if 0 ≤ power then f.mul? ten else f.div? ten
      else if f.isZero then some f
      else if 0 ≤ power then none
      else do
        let ten ← ofNat? (tenPow 308)
        let g ← f.div? ten
        if g.isZero then some g else go g (power + 308) fuel

end BenefitScreen.Binary64
