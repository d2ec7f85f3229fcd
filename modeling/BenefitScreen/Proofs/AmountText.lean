import BenefitScreen.Decimal.Text
import Mathlib.Tactic.Common

/-!
# The written form of an amount is read back

Digits are read one after the other into a mantissa that must fit at every step. The mantissas on
the way are the leading digits of the last one, so that they fit if it does.
-/

namespace BenefitScreen.Decimal

/-- The amount without a sign if it is zero; digits and scale are kept. -/
def dropZeroSign (a : Decimal) : Decimal := { a with negative := a.negative && a.mantissa != 0 }

lemma ofSign_congr {negative : Bool} {m m' s s' : Nat} {hm : m < mantissaBound} {hs : s ≤ 28}
    {hm' : m' < mantissaBound} {hs' : s' ≤ 28} (hmantissa : m = m') (hscale : s = s') :
    ofSign negative m s hm hs = ofSign negative m' s' hm' hs' := by
  subst hmantissa hscale
  rfl

lemma digitValue?_of_isDigit {c : Char} (h : c.isDigit = true) :
    digitValue? c = some (c.toNat - '0'.toNat) := by
  have hrange : '0' ≤ c ∧ c ≤ '9' := by
    simpa [Char.isDigit, Char.le_def] using h
  rw [digitValue?, if_pos hrange]

/-- Reading more digits does not make the mantissa smaller. -/
lemma le_ofDigitChars (cs : List Char) (m : Nat) : m ≤ Nat.ofDigitChars 10 cs m := by
  rw [Nat.ofDigitChars_eq_ofDigitChars_zero]
  have hpow : 0 < 10 ^ cs.length := Nat.pow_pos (by decide)
  exact Nat.le_trans (Nat.le_mul_of_pos_left m hpow) (Nat.le_add_right _ _)

section Read

variable {negative : Bool} {cs rest : List Char} {m s : Nat} {any : Bool}

/-- The whole part takes up all digits, up to something that is no digit. -/
lemma readWhole_append (hdigits : ∀ c ∈ cs, c.isDigit = true)
    (hfits : Nat.ofDigitChars 10 cs m < mantissaBound) :
    readWhole negative (cs ++ rest) m any =
      readWhole negative rest (Nat.ofDigitChars 10 cs m) (any || !cs.isEmpty) := by
  induction cs generalizing m any with
  | nil => simp
  | cons c cs ih =>
    have hc := hdigits c List.mem_cons_self
    have hpoint : c ≠ '.' := by
      rintro rfl
      cases hc
    have hunderscore : c ≠ '_' := by
      rintro rfl
      cases hc
    rw [Nat.ofDigitChars_cons, Nat.mul_comm] at hfits
    have hstep := Nat.lt_of_le_of_lt (le_ofDigitChars cs _) hfits
    rw [List.cons_append, readWhole, if_neg hpoint, if_neg hunderscore, digitValue?_of_isDigit hc]
    dsimp only
    rw [if_pos hstep, ih (fun d hd => hdigits d (List.mem_cons_of_mem _ hd)) hfits,
      Nat.ofDigitChars_cons, Nat.mul_comm]
    simp

lemma readFraction_digits (hdigits : ∀ c ∈ cs, c.isDigit = true) (hplaces : s + cs.length ≤ 28)
    (hfits : Nat.ofDigitChars 10 cs m < mantissaBound) (hany : any = true ∨ cs ≠ []) :
    readFraction negative cs m s any =
      some (ofSign negative (Nat.ofDigitChars 10 cs m) (s + cs.length) hfits hplaces) := by
  induction cs generalizing m s any with
  | nil =>
    have hany : any = true := hany.resolve_right fun h => h rfl
    rw [readFraction, dif_pos ⟨hany, hfits, hplaces⟩]
    rfl
  | cons c cs ih =>
    have hc := hdigits c List.mem_cons_self
    have hunderscore : c ≠ '_' := by
      rintro rfl
      cases hc
    rw [List.length_cons] at hplaces
    have hs : s < 28 := by omega
    have hlast : ¬(s = 28 ∧ (c = '_' ∨ c = '.')) := by omega
    have hcons : Nat.ofDigitChars 10 (c :: cs) m =
        Nat.ofDigitChars 10 cs (m * 10 + (c.toNat - '0'.toNat)) := by
      rw [Nat.ofDigitChars_cons, Nat.mul_comm]
    have hfits' := hcons ▸ hfits
    have hstep := Nat.lt_of_le_of_lt (le_ofDigitChars cs _) hfits'
    rw [readFraction, if_neg hlast, if_neg hunderscore, digitValue?_of_isDigit hc]
    dsimp only
    rw [if_pos ⟨hs, hstep⟩, ih (fun d hd => hdigits d (List.mem_cons_of_mem _ hd)) (by omega) hfits'
      (.inl rfl)]
    congr 2
    · exact hcons.symm
    · rw [List.length_cons]
      omega

end Read

lemma isDigit_of_mem_toDigits {n : Nat} {c : Char} (hc : c ∈ Nat.toDigits 10 n) :
    c.isDigit = true :=
  Nat.isDigit_of_mem_toDigits (by decide) (by decide) hc

/-- The digits after the point, as many as the scale has. -/
def places (a : Decimal) : List Char :=
  let digits := Nat.toDigits 10 (a.mantissa % tenPow a.scale)
  List.replicate (a.scale - digits.length) '0' ++ digits

lemma isDigit_of_mem_places {a : Decimal} {c : Char} (hc : c ∈ a.places) : c.isDigit = true := by
  rcases List.mem_append.mp hc with hc | hc
  · obtain rfl := List.eq_of_mem_replicate hc
    rfl
  · exact isDigit_of_mem_toDigits hc

lemma length_places {a : Decimal} (hs : 0 < a.scale) : a.places.length = a.scale := by
  have hlength : (Nat.toDigits 10 (a.mantissa % tenPow a.scale)).length ≤ a.scale :=
    (Nat.length_toDigits_le_iff (by decide) hs).mpr (Nat.mod_lt _ (tenPow_pos _))
  rw [places, List.length_append, List.length_replicate]
  omega

/-- The digits before and after the point are those of the mantissa. -/
lemma ofDigitChars_places {a : Decimal} (hs : 0 < a.scale) :
    Nat.ofDigitChars 10 a.places (a.mantissa / tenPow a.scale) = a.mantissa := by
  have hzeros : Nat.ofDigitChars 10 a.places 0 = a.mantissa % tenPow a.scale := by
    rw [places, Nat.ofDigitChars_append, Nat.ofDigitChars_replicate_zero, Nat.mul_zero,
      Nat.ofDigitChars_ten_toDigits]
  rw [Nat.ofDigitChars_eq_ofDigitChars_zero, hzeros, length_places hs]
  exact Nat.div_add_mod _ _

lemma toList_render (a : Decimal) :
    a.render.toList = (if a.negative then ['-'] else []) ++
      Nat.toDigits 10 (a.mantissa / tenPow a.scale) ++
      (if a.scale = 0 then [] else '.' :: a.places) := by
  unfold render places
  by_cases hs : a.scale = 0 <;> cases a.negative <;>
    simp [hs, ← String.length_toList]

/-- A number is no sign, so that only a written sign is taken for one. -/
lemma readPlain_sign (negative : Bool) (n : Nat) (rest : List Char) :
    readPlain ((if negative then ['-'] else []) ++ Nat.toDigits 10 n ++ rest) =
      readWhole negative (Nat.toDigits 10 n ++ rest) 0 false := by
  cases negative with
  | true => rfl
  | false =>
    obtain ⟨c, cs, hdigits⟩ := List.exists_cons_of_ne_nil (Nat.toDigits_ne_nil (n := n) (b := 10))
    have hc : c.isDigit = true := isDigit_of_mem_toDigits (hdigits ▸ List.mem_cons_self)
    simp only [Bool.false_eq_true, if_false, List.nil_append, hdigits, List.cons_append]
    unfold readPlain
    split
    · rename_i heq
      cases (List.cons.inj heq).1
      cases hc
    · rename_i heq
      cases (List.cons.inj heq).1
      cases hc
    · rfl

/-- A written amount is read as it was, but for the sign of a zero. -/
theorem parse?_render (a : Decimal) : parse? a.render = some a.dropZeroSign := by
  have hwhole : Nat.ofDigitChars 10 (Nat.toDigits 10 (a.mantissa / tenPow a.scale)) 0 <
      mantissaBound := by
    rw [Nat.ofDigitChars_ten_toDigits]
    exact Nat.lt_of_le_of_lt (Nat.div_le_self _ _) a.mantissa_lt
  have hread : readPlain a.render.toList = some a.dropZeroSign := by
    rw [toList_render, readPlain_sign, readWhole_append (fun c => isDigit_of_mem_toDigits) hwhole]
    have hsome : (Nat.toDigits 10 (a.mantissa / tenPow a.scale)).isEmpty = false :=
      List.isEmpty_eq_false_iff.mpr Nat.toDigits_ne_nil
    rw [Nat.ofDigitChars_ten_toDigits, hsome, Bool.not_false, Bool.or_true]
    rw [Nat.ofDigitChars_ten_toDigits] at hwhole
    by_cases hs : a.scale = 0
    · rw [if_pos hs, readWhole, dif_pos ⟨rfl, hwhole⟩]
      refine congrArg some (ofSign_congr ?_ hs.symm)
      rw [hs, tenPow_zero, Nat.div_one]
    · have hpos : 0 < a.scale := Nat.pos_of_ne_zero hs
      have hvalue := ofDigitChars_places hpos
      have hlength : 0 + a.places.length = a.scale := by rw [length_places hpos, Nat.zero_add]
      have hfits : Nat.ofDigitChars 10 a.places (a.mantissa / tenPow a.scale) < mantissaBound := by
        rw [hvalue]
        exact a.mantissa_lt
      have hne : a.places ≠ [] := List.ne_nil_of_length_pos (by omega)
      rw [if_neg hs, readWhole, if_pos rfl, readFraction_digits (fun c => isDigit_of_mem_places)
        (Nat.le_trans (Nat.le_of_eq hlength) a.scale_le) hfits (.inr hne)]
      exact congrArg some (ofSign_congr hvalue hlength)
  rw [parse?, hread, Option.some_or]

end BenefitScreen.Decimal
