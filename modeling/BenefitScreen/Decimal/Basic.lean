import BenefitScreen.Power

/-!
Decimal amounts: a sign, a mantissa below `2 ^ 96` and up to 28 digits after the point.

The scale is part of an amount, so `12.50` and `12.5` are two amounts of one value. Order and
`SameValue` compare values; equality compares amounts.
-/

namespace BenefitScreen

/-- The first mantissa that does not fit, two to the power ninety-six. -/
def mantissaBound : Nat := 79228162514264337593543950336

/-- An amount `± mantissa / 10 ^ scale`. A zero may carry a sign. -/
structure Decimal where
  negative : Bool
  mantissa : Nat
  scale : Nat
  mantissa_lt : mantissa < mantissaBound
  scale_le : scale ≤ 28
  deriving DecidableEq, Repr

namespace Decimal

theorem zero_le_scale : 0 ≤ 28 := Nat.zero_le 28

theorem one_le_scale : 1 ≤ 28 := Nat.le_add_left 1 27

theorem two_le_scale : 2 ≤ 28 := Nat.le_add_left 2 26

theorem last_le_scale : 28 ≤ 28 := Nat.le_refl 28

theorem zero_lt_mantissaBound : 0 < mantissaBound := by
  unfold mantissaBound
  omega

theorem toNat_lt_mantissaBound (n : UInt64) : n.toNat < mantissaBound := by
  have := n.toNat_lt
  unfold mantissaBound
  omega

def whole (n : UInt64) : Decimal := ⟨false, n.toNat, 0, toNat_lt_mantissaBound n, zero_le_scale⟩

def tenths (n : UInt64) : Decimal := ⟨false, n.toNat, 1, toNat_lt_mantissaBound n, one_le_scale⟩

def hundredths (n : UInt64) : Decimal := ⟨false, n.toNat, 2, toNat_lt_mantissaBound n, two_le_scale⟩

def zero : Decimal := whole 0

def one : Decimal := whole 1

instance : Inhabited Decimal := ⟨zero⟩

def signed (a : Decimal) : Int :=
  if a.negative then -(a.mantissa : Int) else a.mantissa

def isZero (a : Decimal) : Bool := a.mantissa == 0

def neg (a : Decimal) : Decimal := { a with negative := !a.negative }

instance : Neg Decimal := ⟨neg⟩

/-- The amount `± m / 10 ^ s`, where a zero has no sign. -/
def ofSign (negative : Bool) (m s : Nat) (hm : m < mantissaBound) (hs : s ≤ 28) : Decimal :=
  ⟨negative && m != 0, m, s, hm, hs⟩

def ofInt? (n : Int) : Option Decimal :=
  if h : n.natAbs < mantissaBound then some (ofSign (n < 0) n.natAbs 0 h zero_le_scale) else none

/-- Values compare across scales. -/
protected def le (a b : Decimal) : Prop :=
  a.signed * tenPow b.scale ≤ b.signed * tenPow a.scale

protected def lt (a b : Decimal) : Prop :=
  a.signed * tenPow b.scale < b.signed * tenPow a.scale

instance : LE Decimal := ⟨Decimal.le⟩

instance : LT Decimal := ⟨Decimal.lt⟩

instance (a b : Decimal) : Decidable (a ≤ b) :=
  inferInstanceAs (Decidable (a.signed * tenPow b.scale ≤ b.signed * tenPow a.scale))

instance (a b : Decimal) : Decidable (a < b) :=
  inferInstanceAs (Decidable (a.signed * tenPow b.scale < b.signed * tenPow a.scale))

/-- Equality of values, whatever the scales and the signs of zeros. -/
def SameValue (a b : Decimal) : Prop :=
  a.signed * tenPow b.scale = b.signed * tenPow a.scale

instance (a b : Decimal) : Decidable (SameValue a b) :=
  inferInstanceAs (Decidable (a.signed * tenPow b.scale = b.signed * tenPow a.scale))

/-- The larger of two amounts, the first one if their values agree. -/
protected def max (a b : Decimal) : Decimal := if a < b then b else a

/-- The whole part, with the sign kept even where nothing is left. -/
def trunc (a : Decimal) : Decimal :=
  { a with
    mantissa := a.mantissa / tenPow a.scale
    scale := 0
    mantissa_lt := Nat.lt_of_le_of_lt (Nat.div_le_self _ _) a.mantissa_lt
    scale_le := zero_le_scale }

def isWhole (a : Decimal) : Bool := a.mantissa % tenPow a.scale == 0

theorem le_iff (a b : Decimal) :
    a ≤ b ↔ a.signed * tenPow b.scale ≤ b.signed * tenPow a.scale := Iff.rfl

theorem lt_iff (a b : Decimal) :
    a < b ↔ a.signed * tenPow b.scale < b.signed * tenPow a.scale := Iff.rfl

@[simp]
theorem signed_neg (a : Decimal) : (-a).signed = -a.signed := by
  show (neg a).signed = _
  unfold neg signed
  cases a.negative <;> simp

@[simp]
theorem signed_zero : zero.signed = 0 := rfl

end Decimal

end BenefitScreen
