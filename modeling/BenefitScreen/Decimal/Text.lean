import BenefitScreen.Decimal.Arithmetic

/-!
The written form of decimal amounts.

`render` writes every digit of the scale. `parse?` reads that form and more: a plus sign,
underscores after the first digit, digits beyond the capacity of an amount, of which the first one
rounds, and a power of ten after `e`.
-/

namespace BenefitScreen

def digitValue? (c : Char) : Option Nat :=
  if '0' ≤ c ∧ c ≤ '9' then some (c.toNat - '0'.toNat) else none

namespace Decimal

/-- A sign, the whole part with at least one digit, and all digits of the scale. -/
def render (a : Decimal) : String :=
  let sign := if a.negative then "-" else ""
  let whole := toString (a.mantissa / tenPow a.scale)
  if a.scale = 0 then sign ++ whole
  else
    let digits := toString (a.mantissa % tenPow a.scale)
    let zeros := String.ofList (List.replicate (a.scale - digits.length) '0')
    sign ++ whole ++ "." ++ zeros ++ digits

def isDigitTail (cs : List Char) : Bool :=
  cs.all fun c => c == '_' || (digitValue? c).isSome

/-- The first digit that finds no room rounds the digits before it, a five going up. -/
def roundLast (negative : Bool) (m s d : Nat) : Option Decimal :=
  let m' := if 5 ≤ d then m + 1 else m
  if h : m' < mantissaBound ∧ s ≤ 28 then some (ofSign negative m' s h.1 h.2)
  else if s = 0 then none
  else
    let m'' := (m' + 4) / 10
    if h : m'' < mantissaBound ∧ s - 1 ≤ 28 then some (ofSign negative m'' (s - 1) h.1 h.2)
    else none

/-- Digits after the point; `m` at scale `s` is what was read so far, `any` whether a digit was.
Right after the last place an underscore or a second point counts as a digit that rounds down. -/
def readFraction (negative : Bool) : List Char → (m s : Nat) → (any : Bool) → Option Decimal
  | [], m, s, any =>
    if h : any = true ∧ m < mantissaBound ∧ s ≤ 28 then some (ofSign negative m s h.2.1 h.2.2)
    else none
  | c :: cs, m, s, any =>
    if s = 28 ∧ (c = '_' ∨ c = '.') then
      if isDigitTail cs then roundLast negative m s 0 else none
    else if c = '_' then if any then readFraction negative cs m s any else none
    else match digitValue? c with
      | none => none
      | some d =>
        if s < 28 ∧ m * 10 + d < mantissaBound then
          readFraction negative cs (m * 10 + d) (s + 1) true
        else if isDigitTail cs then roundLast negative m s d
        else none

def readWhole (negative : Bool) : List Char → (m : Nat) → (any : Bool) → Option Decimal
  | [], m, any =>
    if h : any = true ∧ m < mantissaBound then some (ofSign negative m 0 h.2 zero_le_scale)
    else none
  | c :: cs, m, any =>
    if c = '.' then readFraction negative cs m 0 any
    else if c = '_' then if any then readWhole negative cs m any else none
    else match digitValue? c with
      | none => none
      | some d =>
        if m * 10 + d < mantissaBound then readWhole negative cs (m * 10 + d) true else none

def readPlain : List Char → Option Decimal
  | '-' :: cs => readWhole true cs 0 false
  | '+' :: cs => readWhole false cs 0 false
  | cs => readWhole false cs 0 false

/-- A whole number below `2 ^ 32` with at least one digit, perhaps after a plus sign. -/
def readExponent (cs : List Char) : Option Nat :=
  let digits := match cs with
    | '+' :: rest => rest
    | rest => rest
  if digits.isEmpty then none
  else
    digits.foldlM (fun n c => (digitValue? c).bind fun d =>
      if n * 10 + d < UInt32.size then some (n * 10 + d) else none) 0

/-- Moves the point `k` places to the left. Digits that would go beyond the last place are cut
off first, with the highest of them rounding half up. -/
def shiftDown (a : Decimal) (k : Nat) : Option Decimal :=
  if k ≤ 28 then
    if h : a.scale + k ≤ 28 then
      some { a with scale := a.scale + k, scale_le := h }
    else
      let cut := a.scale + k - 28
      let up := 5 ≤ a.mantissa / tenPow (cut - 1) % 10
      let m := a.mantissa / tenPow cut + if up then 1 else 0
      if hm : m < mantissaBound then some ⟨a.negative, m, 28, hm, last_le_scale⟩ else none
  else none

theorem tenPow_lt_mantissaBound {k : Nat} (h : k ≤ 28) : tenPow k < mantissaBound :=
  Nat.lt_of_le_of_lt (tenPow_le_tenPow h) (by decide)

/-- Moves the point `k` places to the right. -/
def shiftUp (a : Decimal) (k : Nat) : Option Decimal :=
  if k ≤ a.scale then
    some { a with scale := a.scale - k, scale_le := Nat.le_trans (Nat.sub_le _ _) a.scale_le }
  else if h : k ≤ 28 then
    match a.mul ⟨false, tenPow k, 0, tenPow_lt_mantissaBound h, zero_le_scale⟩ with
    | .ok b => some b.stripZeros
    | .error _ => none
  else none

def readScientific (cs : List Char) : Option Decimal :=
  let base := cs.takeWhile fun c => c != 'e' && c != 'E'
  match cs.dropWhile fun c => c != 'e' && c != 'E' with
  | [] => none
  | _ :: exponent => do
    let a ← readPlain base
    match exponent with
    | '-' :: rest => a.shiftDown (← readExponent rest)
    | rest => a.shiftUp (← readExponent rest)

/-- Reads a written amount; plain digits are tried before a power of ten. -/
def parse? (text : String) : Option Decimal :=
  (readPlain text.toList).or (readScientific text.toList)

end Decimal

end BenefitScreen
