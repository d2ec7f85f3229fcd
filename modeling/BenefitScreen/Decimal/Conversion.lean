import BenefitScreen.Decimal.Text
import BenefitScreen.Binary64.Shortest

/-!
Decimal amounts as binary numbers and back.
-/

namespace BenefitScreen

namespace Binary64

/-- `10 ^ n` by repeated squaring, each product rounded. -/
def tenPow? (n : Nat) : Option Binary64 := do go (← ofNat? 1) (← ofNat? 10) n
where
  go (r a : Binary64) (n : Nat) : Option Binary64 := do
    let r ← if n % 2 = 1 then r.mul? a else some r
    if n / 2 = 0 then some r else go r (← a.mul? a) (n / 2)
  termination_by n
  decreasing_by omega

end Binary64

namespace Decimal

/-- The binary number of an amount: the whole part and the fraction are converted apart, and the
sum is rounded to the amount's own digits again. -/
def toBinary64? (a : Decimal) : Option Binary64 :=
  if a.scale = 0 then Binary64.nearest? (a.negative && a.mantissa != 0) a.mantissa 1
  else do
    let p := tenPow a.scale
    let whole ← Binary64.ofNat? (a.mantissa / p)
    let part ← (← Binary64.ofNat? (a.mantissa % p)).div? (← Binary64.ofNat? p)
    let size ←
      if part.isZero then some whole
      else do
        let value ← whole.addSizes? part
        let ten ← Binary64.tenPow? a.scale
        (← (← value.mul? ten).roundAway?).div? ten
    if a.negative then size.neg? else some size

/-- Turns `m * 2 ^ -e5` into `m * 5 ^ e5 * 10 ^ -e5`: halves while that is exact, multiplies by
five while there is room, and otherwise halves with loss. Gives the mantissa and the power of
ten. -/
def takeFives : (e5 : Nat) → (m : Nat) → (e10 : Int) → Nat × Int
  | 0, m, e10 => (m, e10)
  | e5 + 1, m, e10 =>
    if m % 2 = 0 then takeFives e5 (m / 2) (e10 + 1)
    else if 5 * m < mantissaBound then takeFives e5 (m * 5) e10
    else takeFives e5 (m / 2) (e10 + 1)

/-- Turns `m * 2 ^ k` into digits and a power of ten, where `k` counts the fives still to divide
by: doubles while there is room and divides by five with loss after that. -/
def giveFives : (k : Nat) → (m : Nat) → (e10 : Int) → Option (Nat × Int)
  | 0, m, e10 => some (m, e10)
  | k + 1, m, e10 =>
    if m < twoPow 95 then giveFives k (m * 2) (e10 - 1)
    else if (k + 1 : Int) < 2 * e10 then none
    else giveFives k (m / 5) e10

def takeTens : (e10 : Nat) → (m : Nat) → Option Nat
  | 0, m => some m
  | e10 + 1, m => if m * 10 < mantissaBound then takeTens e10 (m * 10) else none

/-- Cuts digits off until at most 28 places remain, each digit from five on going up. -/
def cutPlaces : (excess : Nat) → (m : Nat) → (places : Nat) → Nat × Nat
  | 0, m, places => (m, places)
  | excess + 1, m, places =>
    if m / 10 = 0 then (0, 0)
    else cutPlaces excess (if 5 ≤ m % 10 then m / 10 + 1 else m / 10) (places - 1)

/-- Cuts digits off until the mantissa has no more bits than a binary number. -/
def cutDigits : (places : Nat) → (m : Nat) → Nat × Nat
  | 0, m => (m, 0)
  | places + 1, m =>
    if twoPow 52 ≤ m then cutDigits places (if 5 ≤ m % 10 then m / 10 + 1 else m / 10)
    else (m, places + 1)

def cutZeros : (places : Nat) → (m : Nat) → Nat × Nat
  | 0, m => (m, 0)
  | places + 1, m => if m % 10 = 0 then cutZeros places (m / 10) else (m, places + 1)

/-- The amount of a binary number, to about as many digits as the number has. -/
def ofBinary64? (x : Binary64) : Option Decimal := do
  if x.isZero then return { zero with negative := x.negative }
  let e := x.exponent
  let (m, e10) ←
    if 0 ≤ e then giveFives e.toNat x.significand e else some (takeFives (-e).toNat x.significand e)
  let m ← takeTens e10.toNat m
  let places := (-e10).toNat
  let (m, places) := cutPlaces (places - 28) m places
  let (m, places) := cutDigits places m
  let (m, places) := cutZeros places m
  if h : m < mantissaBound ∧ places ≤ 28 then some ⟨x.negative, m, places, h.1, h.2⟩ else none

end Decimal

end BenefitScreen
