import BenefitScreen.Power
import BenefitScreen.Rounding

/-!
Finite binary floating point numbers of 64 bits.

A number is its bit pattern. `nearest` is the one rounding of this file: sums, products and
quotients are exact fractions that are rounded once, a half going to the even neighbour.
-/

namespace BenefitScreen

/-- A bit pattern that is neither infinite nor undefined. -/
structure Binary64 where
  bits : UInt64
  finite : bits.toNat / twoPow 52 % twoPow 11 ≠ 2047
  deriving DecidableEq

namespace Binary64

instance : Inhabited Binary64 := ⟨⟨0, by decide⟩⟩

def negative (x : Binary64) : Bool := x.bits.toNat / twoPow 63 == 1

def field (x : Binary64) : Nat := x.bits.toNat / twoPow 52 % twoPow 11

def fraction (x : Binary64) : Nat := x.bits.toNat % twoPow 52

/-- The whole number `m` of the value `± m * 2 ^ e`. -/
def significand (x : Binary64) : Nat :=
  if x.field = 0 then x.fraction else twoPow 52 + x.fraction

/-- The power `e` of the value `± m * 2 ^ e`. -/
def exponent (x : Binary64) : Int := (max x.field 1 : Nat) - 1075

def isZero (x : Binary64) : Bool := x.significand == 0

def num (x : Binary64) : Nat := x.significand * twoPow x.exponent.toNat

def den (x : Binary64) : Nat := twoPow (-x.exponent).toNat

/-- The power of two at or below `n / d`. -/
def binaryOrder (n d : Nat) : Int :=
  let e : Int := (n.log2 : Int) - d.log2
  if n * twoPow (-e).toNat < d * twoPow e.toNat then e - 1 else e

/-- The number nearest to `± n / d`, if it is finite. -/
def nearest? (negative : Bool) (n d : Nat) : Option Binary64 :=
  let shift : Int := if n = 0 then -1074 else max (binaryOrder n d - 52) (-1074)
  let m := divHalfEven (n * twoPow (-shift).toNat) (d * twoPow shift.toNat)
  let size := (shift + 1074).toNat * twoPow 52 + m
  let word := UInt64.ofNat (if negative then twoPow 63 + size else size)
  if h : size < 2047 * twoPow 52 ∧ word.toNat / twoPow 52 % twoPow 11 ≠ 2047 then some ⟨word, h.2⟩
  else none

def zero : Binary64 := ⟨0, by decide⟩

def ofNat? (n : Nat) : Option Binary64 := nearest? false n 1

def mul? (x y : Binary64) : Option Binary64 :=
  nearest? (x.negative != y.negative) (x.num * y.num) (x.den * y.den)

def div? (x y : Binary64) : Option Binary64 :=
  nearest? (x.negative != y.negative) (x.num * y.den) (x.den * y.num)

def addSizes? (x y : Binary64) : Option Binary64 :=
  nearest? false (x.num * y.den + y.num * x.den) (x.den * y.den)

/-- The nearest whole number, a half going away from zero. -/
def roundAway? (x : Binary64) : Option Binary64 :=
  nearest? x.negative ((2 * x.num + x.den) / (2 * x.den)) 1

def neg? (x : Binary64) : Option Binary64 := nearest? (!x.negative) x.num x.den

/-- Equality of values: the two zeros are one value. -/
def sameValue (x y : Binary64) : Bool := x == y || (x.isZero && y.isZero)

def hex (x : Binary64) : String :=
  let digits := Nat.toDigits 16 x.bits.toNat
  String.ofList (List.replicate (16 - digits.length) '0' ++ digits)

end Binary64

end BenefitScreen
