import BenefitScreen.Program.MedicareSavings
import BenefitScreen.Proofs.AmountValue
import Mathlib.Algebra.Order.Group.MinMax

/-!
# Disregards of countable income

What unearned income leaves of the general disregard comes off earned income, before a second
disregard and a halving. The pieces join without a jump: with any of the three incomes the countable
income grows, and by no more than they do, and the disregards never add to it.
-/

namespace BenefitScreen

open Fallible

namespace MedicareSavings

open Decimal

variable {e e' u u' s s' x x' y y' z z' c c' : Decimal}

lemma value_generalDisregard : generalDisregard.value = 240 := by
  rw [generalDisregard, monthly, value_whole]
  rfl

lemma value_earnedDisregard : earnedDisregard.value = 780 := by
  rw [earnedDisregard, monthly, value_whole]
  rfl

/-- Earned and unearned income after the general disregard. -/
inductive AfterGeneral (earned unearned : Decimal) : Decimal → Decimal → Prop
  | covered {rest : Decimal} (hcovered : generalDisregard ≤ unearned)
    (hrest : unearned.sub generalDisregard = .ok rest) : AfterGeneral earned unearned earned rest
  | spills {left rest : Decimal} (hspills : unearned < generalDisregard)
    (hleft : generalDisregard.sub unearned = .ok left) (hrest : earned.sub left = .ok rest) :
    AfterGeneral earned unearned (rest.max .zero) .zero

lemma countableIncome_eq_ok : countableIncome e u s = .ok c ↔
    ∃ x y z t, AfterGeneral e u x y ∧ x.sub earnedDisregard = .ok z ∧
      ((z.max .zero).divNat 2).add y = .ok t ∧ t.add s = .ok c := by
  unfold countableIncome
  dsimp only
  split
  · rename_i hcovered
    simp only [bind_eq_ok, pure_eq_ok]
    constructor
    · rintro ⟨y, hy, _, rfl, z, hz, t, ht, h⟩
      exact ⟨e, y, z, t, .covered hcovered hy, hz, ht, h⟩
    · rintro ⟨x, y, z, t, hgeneral, hz, ht, h⟩
      cases hgeneral with
      | covered _ hrest => exact ⟨y, hrest, _, rfl, z, hz, t, ht, h⟩
      | spills hspills => exact absurd hcovered (not_le_iff_lt.mpr hspills)
  · rename_i hspills
    simp only [bind_eq_ok, pure_eq_ok]
    constructor
    · rintro ⟨left, hleft, rest, hrest, _, rfl, z, hz, t, ht, h⟩
      exact ⟨_, _, z, t, .spills (not_le_iff_lt.mp hspills) hleft hrest, hz, ht, h⟩
    · rintro ⟨x, y, z, t, hgeneral, hz, ht, h⟩
      cases hgeneral with
      | covered hcovered => exact absurd hcovered hspills
      | spills _ hleft hrest => exact ⟨_, hleft, _, hrest, _, rfl, z, hz, t, ht, h⟩

section Order

/-- Where nothing is left of earned income, it no longer counts how far below zero it is. -/
lemma afterGeneral_mono (he : e ≤ e') (hu : u ≤ u') (h : AfterGeneral e u x y)
    (h' : AfterGeneral e' u' x' y') : (x ≤ x' ∨ x ≤ .zero) ∧ y ≤ y' := by
  cases h with
  | covered hcovered hrest =>
    cases h' with
    | covered _ hrest' => exact ⟨.inl he, sub_le_sub hu (le_refl _) hrest hrest'⟩
    | spills hspills' => exact absurd (le_trans hcovered hu) (not_le_iff_lt.mpr hspills')
  | @spills left rest hspills hleft hrest =>
    cases h' with
    | covered hcovered' hrest' =>
      refine ⟨?_, zero_le_sub hcovered' hrest'⟩
      have hless := sub_le (zero_le_sub (le_of_lt hspills) hleft) hrest
      unfold Decimal.max
      split
      · exact .inr (le_refl _)
      · exact .inl (le_trans hless he)
    | spills _ hleft' hrest' =>
      have hrests := sub_le_sub he (sub_le_sub (le_refl _) hu hleft' hleft) hrest hrest'
      exact ⟨.inl (max_le_max hrests _), le_refl _⟩

/-- With income that is nowhere less, no less counts, even where digits are lost. -/
theorem countableIncome_mono (he : e ≤ e') (hu : u ≤ u') (hs : s ≤ s')
    (h : countableIncome e u s = .ok c) (h' : countableIncome e' u' s' = .ok c') : c ≤ c' := by
  obtain ⟨x, y, z, t, hgeneral, hz, ht, h⟩ := countableIncome_eq_ok.mp h
  obtain ⟨x', y', z', t', hgeneral', hz', ht', h'⟩ := countableIncome_eq_ok.mp h'
  obtain ⟨hx, hy⟩ := afterGeneral_mono he hu hgeneral hgeneral'
  have hearned : z.max .zero ≤ z'.max .zero := by
    rcases hx with hx | hx
    · exact max_le_max (sub_le_sub hx (le_refl _) hz hz') _
    · have hz := le_trans (sub_le (zero_le_whole _) hz) hx
      exact max_le_iff.mpr ⟨le_trans hz (le_max_right _ _), le_max_right _ _⟩
  exact add_le_add (add_le_add (divNat_le_divNat (by decide) hearned) hy ht ht') hs h h'

end Order

section OnPaper

variable {p p' q q' r r' : ℚ}

/-- Earned income after the general disregard. -/
def afterGeneral (earned unearned : ℚ) : ℚ :=
  if 240 ≤ unearned then earned else max (earned - (240 - unearned)) 0

/-- Earned income after both disregards. -/
def netEarned (earned unearned : ℚ) : ℚ := max (afterGeneral earned unearned - 780) 0

/-- The income that counts, on paper. -/
def counted (earned unearned ssi : ℚ) : ℚ :=
  netEarned earned unearned / 2 + max (unearned - 240) 0 + ssi

/-- Both branches take off what unearned income leaves of the general disregard, and a floor below
another one makes no difference. -/
lemma netEarned_eq (p q : ℚ) : netEarned p q = max (p - max (240 - q) 0 - 780) 0 := by
  unfold netEarned afterGeneral
  split
  · rw [max_eq_right (by linarith : 240 - q ≤ 0), sub_zero]
  · rw [max_eq_left (by linarith : 0 ≤ 240 - q)]
    rcases le_total (p - (240 - q)) 0 with hless | hmore
    · rw [max_eq_right hless, max_eq_right (by linarith), max_eq_right (by linarith)]
    · rw [max_eq_left hmore]

/-- What unearned income leaves of the general disregard moves no more than unearned income, and
only half of it counts. -/
lemma counted_sub_le (hp : p ≤ p') (hq : q ≤ q') (r r' : ℚ) :
    counted p' q' r' - counted p q r ≤ (p' - p) + (q' - q) + (r' - r) := by
  have hleft : ∀ q : ℚ, max (q - 240) 0 = q - 240 + max (240 - q) 0 := by
    intro q
    rcases le_total q 240 with h | h
    · rw [max_eq_right (by linarith), max_eq_left (by linarith)]
      ring
    · rw [max_eq_left (by linarith), max_eq_right (by linarith)]
      ring
  have hless : max (240 - q') 0 ≤ max (240 - q) 0 := max_le_max_right 0 (by linarith)
  have hearned : netEarned p' q' - netEarned p q ≤
      (p' - p) + (max (240 - q) 0 - max (240 - q') 0) := by
    rw [netEarned_eq, netEarned_eq]
    refine (max_sub_max_le_max _ _ _ _).trans (max_le ?_ ?_) <;> linarith
  unfold counted
  rw [hleft q, hleft q']
  linarith

lemma le_counted (p q r : ℚ) : r ≤ counted p q r := by
  have hearned : 0 ≤ netEarned p q := le_max_right _ _
  have hunearned : 0 ≤ max (q - 240) 0 := le_max_right _ _
  unfold counted
  linarith

lemma counted_le (hp : 0 ≤ p) (hq : 0 ≤ q) (r : ℚ) : counted p q r ≤ p + q + r := by
  have hnothing : counted 0 0 0 = 0 := by norm_num [counted, netEarned, afterGeneral]
  have hless := counted_sub_le hp hq 0 r
  linarith

/-- Each value that the computation meets on paper can be written as an amount. -/
structure CountsExactly (earned unearned ssi : ℚ) : Prop where
  excess : Representable (unearned - 240)
  spilled : unearned < 240 → Representable (earned - (240 - unearned))
  reduced : Representable (afterGeneral earned unearned - 780)
  halved : Representable (netEarned earned unearned / 2)
  joined : Representable (netEarned earned unearned / 2 + max (unearned - 240) 0)
  total : Representable (counted earned unearned ssi)

lemma computes_afterGeneral (hunearned : Representable (u.value - 240))
    (hspilled : u.value < 240 → Representable (e.value - (240 - u.value))) :
    ∃ x y, AfterGeneral e u x y ∧ x.value = afterGeneral e.value u.value ∧
      y.value = max (u.value - 240) 0 := by
  unfold afterGeneral
  by_cases hcovered : generalDisregard ≤ u
  · have hle : 240 ≤ u.value := by rwa [le_iff_value, value_generalDisregard] at hcovered
    obtain ⟨y, hy, hvalue⟩ := computes_sub (a := u) (b := generalDisregard)
      (by rwa [value_generalDisregard])
    rw [value_generalDisregard] at hvalue
    refine ⟨e, y, .covered hcovered hy, (if_pos hle).symm, ?_⟩
    rw [hvalue, max_eq_left (by linarith)]
  · have hspills := not_le_iff_lt.mp hcovered
    have hlt : u.value < 240 := by rwa [lt_iff_value, value_generalDisregard] at hspills
    obtain ⟨left, hleft, hvalue⟩ := computes_sub (a := generalDisregard) (b := u) (by
      rw [value_generalDisregard, ← neg_sub]
      exact hunearned.neg)
    rw [value_generalDisregard] at hvalue
    obtain ⟨rest, hrest, hrestValue⟩ := computes_sub (a := e) (b := left) (by
      rw [hvalue]
      exact hspilled hlt)
    refine ⟨_, _, .spills hspills hleft hrest, ?_, ?_⟩
    · rw [if_neg (by linarith), value_max, hrestValue, hvalue, value_zero]
    · rw [value_zero, max_eq_right (by linarith)]

/-- Where all values can be written, the computation agrees with the one on paper. -/
theorem computes_countableIncome (h : CountsExactly e.value u.value s.value) :
    Computes (countableIncome e u s) (counted e.value u.value s.value) := by
  obtain ⟨x, y, hgeneral, hx, hy⟩ := computes_afterGeneral h.excess h.spilled
  obtain ⟨z, hz, hzValue⟩ := computes_sub (a := x) (b := earnedDisregard) (by
    rw [value_earnedDisregard, hx]
    exact h.reduced)
  have hnet : (z.max .zero).value = netEarned e.value u.value := by
    rw [value_max, value_zero, hzValue, value_earnedDisregard, hx, netEarned]
  have hhalf : ((z.max .zero).divNat 2).value = netEarned e.value u.value / 2 := by
    rw [value_divNat (by decide), hnet]
    · rfl
    · rw [hnet]
      exact h.halved
  obtain ⟨t, ht, htValue⟩ := computes_add (a := (z.max .zero).divNat 2) (b := y) (by
    rw [hhalf, hy]
    exact h.joined)
  obtain ⟨c, hc, hcValue⟩ := computes_add (a := t) (b := s) (by
    rw [htValue, hhalf, hy]
    exact h.total)
  refine ⟨c, countableIncome_eq_ok.mpr ⟨x, y, z, t, hgeneral, hz, ht, hc⟩, ?_⟩
  rw [hcValue, htValue, hhalf, hy, counted]

section Hundredths

lemma hasDigits_generalDisregard : HasDigits 2 240 :=
  value_generalDisregard ▸ hasDigits_value (by decide)

lemma hasDigits_earnedDisregard : HasDigits 2 780 :=
  value_earnedDisregard ▸ hasDigits_value (by decide)

lemma hasDigits_zero : HasDigits 2 0 := value_zero ▸ hasDigits_value (a := zero) (by decide)

lemma hasDigits_afterGeneral (hp : HasDigits 2 p) (hq : HasDigits 2 q) :
    HasDigits 2 (afterGeneral p q) := by
  unfold afterGeneral
  split
  · exact hp
  · exact (hp.sub (hasDigits_generalDisregard.sub hq)).max hasDigits_zero

lemma abs_afterGeneral_le (p q : ℚ) : |afterGeneral p q| ≤ |p| + |q| := by
  have hp := abs_le.mp (le_refl |p|)
  have hq := abs_le.mp (le_refl |q|)
  unfold afterGeneral
  split
  · linarith
  · refine abs_le.mpr ⟨?_, max_le ?_ ?_⟩
    · exact le_trans (by linarith) (le_max_right _ _)
    · linarith
    · linarith

/-- A half has one digit more. -/
lemma hasDigits_half (hp : HasDigits 2 p) : HasDigits 3 (p / 2) := by
  have hhalf : HasDigits 1 (1 / 2) := ⟨5, by norm_num [tenPow_succ]⟩
  rw [div_eq_mul_one_div]
  exact hp.mul hhalf

/-- Amounts in hundredths count exactly, unless they are very large. -/
theorem countsExactly_of_hundredths (hp : HasDigits 2 p) (hq : HasDigits 2 q) (hr : HasDigits 2 r)
    (hpsize : |p| ≤ 10 ^ 22) (hqsize : |q| ≤ 10 ^ 22) (hrsize : |r| ≤ 10 ^ 22) :
    CountsExactly p q r := by
  have hexcess := hq.sub hasDigits_generalDisregard
  have hspilled := hp.sub (hasDigits_generalDisregard.sub hq)
  have hreduced := (hasDigits_afterGeneral hp hq).sub hasDigits_earnedDisregard
  have hhalved : HasDigits 3 (netEarned p q / 2) := hasDigits_half (hreduced.max hasDigits_zero)
  have hjoined := hhalved.add ((hexcess.max hasDigits_zero).mono (by decide))
  have htotal : HasDigits 3 (counted p q r) := hjoined.add (hr.mono (by decide))
  have hafterSize := abs_le.mp (abs_afterGeneral_le p q)
  have hpsize' := abs_le.mp hpsize
  have hqsize' := abs_le.mp hqsize
  have hrsize' := abs_le.mp hrsize
  have hnet : 0 ≤ netEarned p q := le_max_right _ _
  have hnetSize : netEarned p q ≤ 2 * 10 ^ 22 := max_le (by linarith) (by norm_num)
  have hleft : 0 ≤ max (q - 240) 0 := le_max_right _ _
  have hleftSize : max (q - 240) 0 ≤ 10 ^ 22 := max_le (by linarith) (by norm_num)
  have hcounted : counted p q r = netEarned p q / 2 + max (q - 240) 0 + r := rfl
  refine ⟨hexcess.representable (by decide) (abs_le.mpr ?_),
    fun _ => hspilled.representable (by decide) (abs_le.mpr ?_),
    hreduced.representable (by decide) (abs_le.mpr ?_),
    hhalved.representable (by decide) (abs_le.mpr ?_),
    hjoined.representable (by decide) (abs_le.mpr ?_),
    htotal.representable (by decide) (abs_le.mpr ?_)⟩ <;>
  constructor <;> linarith

end Hundredths

end OnPaper

/-- Where the amounts can be computed exactly, more income never counts as less, it counts as no
more than it is, and the disregards add nothing to it. -/
theorem countableIncome_follows_income (he : e ≤ e') (hu : u ≤ u') (hs : s ≤ s')
    (hexact : CountsExactly e.value u.value s.value)
    (hexact' : CountsExactly e'.value u'.value s'.value) :
    ∃ c c', countableIncome e u s = .ok c ∧ countableIncome e' u' s' = .ok c' ∧ c ≤ c' ∧
      c'.value - c.value ≤
        (e'.value - e.value) + (u'.value - u.value) + (s'.value - s.value) ∧
      (.zero ≤ e → .zero ≤ u → .zero ≤ s → s ≤ c ∧ c.value ≤ e.value + u.value + s.value) := by
  obtain ⟨c, hc, hvalue⟩ := computes_countableIncome hexact
  obtain ⟨c', hc', hvalue'⟩ := computes_countableIncome hexact'
  refine ⟨c, c', hc, hc', countableIncome_mono he hu hs hc hc', ?_, fun hearned hunearned _ => ?_⟩
  · rw [hvalue, hvalue']
    exact counted_sub_le (le_iff_value.mp he) (le_iff_value.mp hu) _ _
  · rw [le_iff_value, value_zero] at hearned hunearned
    rw [le_iff_value, hvalue]
    exact ⟨le_counted _ _ _, counted_le hearned hunearned _⟩

/-- Unearned income that comes to cover the general disregard, with SSI on top. -/
theorem countableIncome_across_disregard :
    ∃ c c', countableIncome (.whole 2000) (.whole 100) .zero = .ok c ∧
      countableIncome (.whole 2000) (.whole 300) (.whole 50) = .ok c' ∧ c ≤ c' ∧
      c'.value - c.value ≤ 250 ∧ c.value ≤ 2100 := by
  have hearned : whole 2000 ≤ whole 2000 := le_refl _
  have hunearned : whole 100 ≤ whole 300 := by decide
  have hssi : zero ≤ whole 50 := zero_le_whole 50
  have hdigits : ∀ n : UInt64, HasDigits 2 (whole n).value :=
    fun _ => hasDigits_value (Nat.zero_le 2)
  have hsize : ∀ n : UInt64, |(whole n).value| ≤ 10 ^ 22 := by
    intro n
    have hsmall : (n.toNat : ℚ) < 2 ^ 64 := by exact_mod_cast n.toNat_lt
    rw [value_whole, abs_of_nonneg (Nat.cast_nonneg _)]
    linarith
  have hexact : ∀ l m n : UInt64, CountsExactly (whole l).value (whole m).value (whole n).value :=
    fun l m n => countsExactly_of_hundredths (hdigits l) (hdigits m) (hdigits n) (hsize l)
      (hsize m) (hsize n)
  obtain ⟨c, c', hc, hc', hle, hraise, hbounds⟩ :=
    countableIncome_follows_income hearned hunearned hssi (hexact _ _ 0) (hexact _ _ _)
  obtain ⟨_, hless⟩ := hbounds (by decide) (by decide) (by decide)
  refine ⟨c, c', hc, hc', hle, hraise.trans ?_, hless.trans ?_⟩ <;>
    norm_num [value_whole, UInt64.toNat_ofNat]

end MedicareSavings

end BenefitScreen
