import BenefitScreen.Decimal.Basic
import BenefitScreen.Rounding

/-!
Sums, products, quotients and roundings of decimal amounts.

An exact result that has too many digits loses the fewest digits that make it fit, a half going to
the even neighbour. A result whose whole part does not fit is an overflow.
-/

namespace BenefitScreen

/-- The operation whose result did not fit. -/
inductive Overflow where
  | addition
  | subtraction
  | multiplication
  deriving DecidableEq, Repr

def Overflow.message : Overflow → String
  | .addition => "Addition overflowed"
  | .subtraction => "Subtraction overflowed"
  | .multiplication => "Multiplication overflowed"

namespace Decimal

/-- How many digits of `n` have to go until the rest fits a mantissa. -/
def excessDigits (n : Nat) : Nat :=
  if n < mantissaBound then 0 else excessDigits (n / 10) + 1
  decreasing_by unfold mantissaBound at *; omega

/-- The amount nearest to `± n / 10 ^ s` among those with the most digits that fit. -/
def fit? (negative : Bool) (n s : Nat) : Option Decimal :=
  let k := s - 28 + excessDigits (n / tenPow (s - 28))
  let m := divHalfEven n (tenPow k)
  if hk : k ≤ s ∧ s - k ≤ 28 then
    if hm : m < mantissaBound then some (ofSign negative m (s - k) hm hk.2)
    else if k < s then
      let m' := divHalfEven m 10
      if hm' : m' < mantissaBound then some (ofSign negative m' (s - k - 1) hm' (by omega))
      else none
    else none
  else none

/-- The sum, if it fits. A zero leaves the other summand as it is. -/
def add? (a b : Decimal) : Option Decimal :=
  if a.isZero then some b
  else if b.isZero then some a
  else
    let s := max a.scale b.scale
    let n := a.signed * tenPow (s - a.scale) + b.signed * tenPow (s - b.scale)
    fit? (n < 0) n.natAbs s

def add (a b : Decimal) : Except Overflow Decimal :=
  match a.add? b with
  | some c => .ok c
  | none => .error .addition

/-- A zero subtrahend leaves the other operand as it is, also where that is a zero. -/
def sub (a b : Decimal) : Except Overflow Decimal :=
  if b.isZero then .ok (if a.isZero then b else a)
  else
    match a.add? (-b) with
    | some c => .ok c
    | none => .error .subtraction

def isShort (a : Decimal) : Bool := a.mantissa < UInt32.size

/-- The zero that stands for a product too small to show. It keeps the sign of the product unless
both factors are short; for these, a product beyond 47 places is the plain zero. -/
def vanished (a b : Decimal) : Decimal :=
  if a.isShort && b.isShort then
    if 47 < a.scale + b.scale then zero else ⟨false, 0, 28, zero_lt_mantissaBound, last_le_scale⟩
  else ⟨a.negative != b.negative, 0, 28, zero_lt_mantissaBound, last_le_scale⟩

/-- A product with a zero is the plain zero. -/
def mul (a b : Decimal) : Except Overflow Decimal :=
  if a.isZero || b.isZero then .ok zero
  else
    match fit? (a.negative != b.negative) (a.mantissa * b.mantissa) (a.scale + b.scale) with
    | some c => .ok (if c.isZero then vanished a b else c)
    | none => .error .multiplication

def sum (xs : List Decimal) : Except Overflow Decimal :=
  xs.foldlM add zero

/-- The most digits, at most nine, that `q` at scale `s` can take on. -/
def room (q s : Nat) : Nat :=
  ([9, 8, 7, 6, 5, 4, 3, 2, 1].find? fun p => s + p ≤ 28 && q * tenPow p < mantissaBound).getD 0

/-- Drops one digit of a quotient that outgrew the mantissa; `rest` tells of a remainder below. -/
def dropDigit (q s : Nat) (rest : Bool) : Nat × Nat :=
  let up := 5 < q % 10 || (q % 10 == 5 && (rest || q / 10 % 2 == 1))
  (if up then q / 10 + 1 else q / 10, s - 1)

/-- Long division: `q` at scale `s` with the remainder `r` of `n`, taken on until nothing remains
or nothing more fits; the last digit then goes to the nearest, a half to the even neighbour. -/
def longDivide (n q r s : Nat) : Nat × Nat :=
  if r = 0 then (q, s)
  else
    let p := room q s
    if hp : p = 0 ∨ 28 < s + p then
      if n < 2 * r ∨ (2 * r = n ∧ q % 2 = 1) then
        if q + 1 < mantissaBound then (q + 1, s) else dropDigit (q + 1) s true
      else (q, s)
    else
      let t := r * tenPow p
      let q' := q * tenPow p + t / n
      if q' < mantissaBound then longDivide n q' (t % n) (s + p)
      else dropDigit q' (s + p) (t % n != 0)
  termination_by 28 - s
  decreasing_by omega

/-- Takes off zeros eight at a time while the mantissa's low half-word is clear. -/
def stripEights (q s : Nat) : Nat × Nat :=
  if 8 ≤ s ∧ q % twoPow 32 = 0 ∧ q % tenPow 8 = 0 then stripEights (q / tenPow 8) (s - 8)
  else (q, s)
  termination_by s
  decreasing_by omega

/-- Takes off `k` zeros if there are that many digits and `2 ^ k` divides the mantissa. -/
def stripOnce (k : Nat) (x : Nat × Nat) : Nat × Nat :=
  if k ≤ x.2 ∧ x.1 % twoPow k = 0 ∧ x.1 % tenPow k = 0 then (x.1 / tenPow k, x.2 - k) else x

/-- The zeros that a division takes off its result: all that come in steps of eight, then four,
two and one once each. -/
def stripQuotient (q s : Nat) : Nat × Nat :=
  stripOnce 1 (stripOnce 2 (stripOnce 4 (stripEights q s)))

/-- Division by a positive whole number. Every quotient fits, since it is no larger than `a`. -/
def divNat (a : Decimal) (n : Nat) : Decimal :=
  if a.isZero then zero
  else
    let r := a.mantissa % n
    let d := longDivide n (a.mantissa / n) r a.scale
    let x := if r = 0 then d else stripQuotient d.1 d.2
    if h : x.1 < mantissaBound ∧ x.2 ≤ 28 then ofSign a.negative x.1 x.2 h.1 h.2 else zero

/-- The amount with at most `k` digits after the point, a half going to the even neighbour. A
zero keeps its sign, a remainder that vanishes does not. -/
def roundTo (a : Decimal) (k : Nat) : Decimal :=
  if h : a.scale ≤ k then a
  else if a.isZero then
    { a with scale := k, scale_le := Nat.le_trans (Nat.le_of_lt (Nat.lt_of_not_le h)) a.scale_le }
  else
    let m := divHalfEven a.mantissa (tenPow (a.scale - k))
    if hm : m < mantissaBound then
      ofSign a.negative m k hm (Nat.le_trans (Nat.le_of_lt (Nat.lt_of_not_le h)) a.scale_le)
    else a

/-- Takes off every zero at the end of the digits after the point. -/
def stripZeros (a : Decimal) : Decimal :=
  if a.isZero then { a with scale := 0, scale_le := zero_le_scale }
  else go a.mantissa a.scale a.mantissa_lt a.scale_le
where
  go (m : Nat) : (s : Nat) → m < mantissaBound → s ≤ 28 → Decimal
    | 0, hm, hs => ⟨a.negative, m, 0, hm, hs⟩
    | s + 1, hm, hs =>
      if m % 10 = 0 then go (m / 10) s (by omega) (by omega) else ⟨a.negative, m, s + 1, hm, hs⟩

@[simp]
theorem sum_nil : sum [] = .ok zero := rfl

end Decimal

end BenefitScreen
