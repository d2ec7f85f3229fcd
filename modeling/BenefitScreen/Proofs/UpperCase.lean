import BenefitScreen.Text.Upper
import Mathlib.Data.List.Basic
import Mathlib.Tactic.Common

/-!
# Upper case is final

What stands in the upper case of a letter has no upper case of its own, so that a text in upper
case stays as it is. The letters and their upper case are compared as sets of codes, which two
numbers hold in their bits.
-/

namespace BenefitScreen.Text

/-- The letters that a range covers. -/
def CaseRange.codes (r : CaseRange) : List Nat :=
  List.range' r.first ((r.last - r.first) / r.step + 1) r.step

/-- The letters whose upper case is another. -/
def loweredCodes : List Nat := upperRanges.flatMap CaseRange.codes ++ upperExpansions.map (·.1)

/-- What stands in the upper case of these letters. -/
def raisedCodes : List Nat :=
  (upperRanges.flatMap fun r => r.codes.map fun (n : Nat) => ((n : Int) + r.shift).toNat) ++
    upperExpansions.flatMap (·.2)

/-- The number whose bits with a value of one are those of the codes. -/
def bitsOf (codes : List Nat) : Nat := codes.foldr (fun n bits => bits ||| 1 <<< n) 0

lemma testBit_bitsOf {codes : List Nat} {n : Nat} :
    (bitsOf codes).testBit n = true ↔ n ∈ codes := by
  induction codes with
  | nil => simp [bitsOf]
  | cons m codes ih =>
    have hbits : bitsOf (m :: codes) = bitsOf codes ||| 1 <<< m := rfl
    have hbit : (1 <<< m).testBit n = true ↔ n = m := by
      rw [Nat.testBit_shiftLeft, Bool.and_eq_true, decide_eq_true_eq,
        Nat.testBit_one_eq_true_iff_self_eq_zero]
      omega
    rw [hbits, Nat.testBit_or, Bool.or_eq_true, ih, hbit, List.mem_cons, or_comm]

lemma raised_not_lowered {n : Nat} (h : n ∈ raisedCodes) : n ∉ loweredCodes := by
  have hdisjoint : bitsOf loweredCodes &&& bitsOf raisedCodes = 0 := by decide +kernel
  intro hlowered
  have hboth : (bitsOf loweredCodes &&& bitsOf raisedCodes).testBit n = true := by
    rw [Nat.testBit_and, testBit_bitsOf.mpr hlowered, testBit_bitsOf.mpr h]
    rfl
  rw [hdisjoint, Nat.zero_testBit] at hboth
  cases hboth

lemma toNat_of_raised {n : Nat} (h : n ∈ raisedCodes) : (Char.ofNat n).toNat = n := by
  have hcodes : raisedCodes.all (fun n => n.isValidChar) = true := by decide +kernel
  have hvalid : n.isValidChar := by simpa using List.all_eq_true.mp hcodes n h
  rw [Char.ofNat, dif_pos hvalid]
  rfl

lemma CaseRange.mem_codes {r : CaseRange} {n : Nat} (h : r.covers n = true) : n ∈ r.codes := by
  unfold covers at h
  simp only [Bool.and_eq_true, decide_eq_true_eq, beq_iff_eq] at h
  obtain ⟨⟨hfirst, hlast⟩, hstep⟩ := h
  refine List.mem_range'.mpr ⟨(n - r.first) / r.step, ?_, ?_⟩
  · exact Nat.lt_succ_of_le (Nat.div_le_div_right (Nat.sub_le_sub_right hlast _))
  · rw [Nat.mul_div_cancel' (Nat.dvd_of_mod_eq_zero hstep), Nat.add_sub_cancel' hfirst]

/-- A character that is no letter with another upper case stays as it is. -/
lemma upperChar_of_not_lowered {c : Char} (h : c.toNat ∉ loweredCodes) : upperChar c = [c] := by
  have hranges : ∀ r ∈ upperRanges, r.covers c.toNat = false := by
    intro r hr
    rw [← Bool.not_eq_true]
    intro hcovers
    exact h (List.mem_append_left _ (List.mem_flatMap.mpr ⟨r, hr, r.mem_codes hcovers⟩))
  have hexpansions : ∀ e ∈ upperExpansions, e.1 ≠ c.toNat := by
    rintro e he heq
    exact h (List.mem_append_right _ (heq ▸ List.mem_map_of_mem he))
  unfold upperChar
  split
  · have hlower : ¬('a'.val ≤ c.val ∧ c.val ≤ 'z'.val) := by
      rintro ⟨hfirst, hlast⟩
      have hcovers : CaseRange.covers ⟨0x61, 0x7A, 1, -32⟩ c.toNat = true := by
        simp only [CaseRange.covers, Nat.mod_one, Bool.and_eq_true, decide_eq_true_eq]
        exact ⟨⟨hfirst, hlast⟩, rfl⟩
      rw [hranges _ List.mem_cons_self] at hcovers
      cases hcovers
    have hupper : c.toUpper = c := dif_neg hlower
    rw [hupper]
  · rw [List.find?_eq_none.mpr fun e he => by simpa using hexpansions e he,
      List.find?_eq_none.mpr fun r hr => by simp [hranges r hr]]

lemma upperChar_toUpper {c : Char} (h : c.toNat < 128) : upperChar c.toUpper = [c.toUpper] := by
  have hascii : ∀ n : Fin 128, upperChar (Char.ofNat n).toUpper = [(Char.ofNat n).toUpper] := by
    decide +kernel
  simpa using hascii ⟨c.toNat, h⟩

lemma upperChar_of_mem {c d : Char} (h : d ∈ upperChar c) : upperChar d = [d] := by
  have hraised : ∀ n ∈ raisedCodes, upperChar (Char.ofNat n) = [Char.ofNat n] := by
    intro n hn
    apply upperChar_of_not_lowered
    rw [toNat_of_raised hn]
    exact raised_not_lowered hn
  unfold upperChar at h
  by_cases hascii : c.toNat < 128
  · rw [if_pos hascii, List.mem_singleton] at h
    rw [h]
    exact upperChar_toUpper hascii
  rw [if_neg hascii] at h
  cases hexpansion : upperExpansions.find? (·.1 == c.toNat) with
  | some e =>
    rw [hexpansion] at h
    obtain ⟨n, hn, rfl⟩ := List.mem_map.mp h
    have he := List.mem_of_find?_eq_some hexpansion
    exact hraised n (List.mem_append_right _ (List.mem_flatMap.mpr ⟨e, he, hn⟩))
  | none =>
    rw [hexpansion] at h
    cases hrange : upperRanges.find? (·.covers c.toNat) with
    | some r =>
      rw [hrange, List.mem_singleton] at h
      have hr := List.mem_of_find?_eq_some hrange
      have hcode := r.mem_codes (List.find?_some (p := (CaseRange.covers · c.toNat)) hrange)
      rw [h]
      refine hraised _ (List.mem_append_left _ (List.mem_flatMap.mpr ⟨r, hr, ?_⟩))
      exact List.mem_map.mpr ⟨c.toNat, hcode, rfl⟩
    | none =>
      rw [hrange, List.mem_singleton] at h
      rw [h, upperChar, if_neg hascii, hexpansion, hrange]

theorem upper_upper (s : String) : upper (upper s) = upper s := by
  have hfinal : ∀ c, (upperChar c).flatMap upperChar = upperChar c := by
    intro c
    rw [List.flatMap_congr fun d hd => upperChar_of_mem hd]
    exact List.flatMap_singleton' _
  unfold upper
  rw [String.toList_ofList, List.flatMap_assoc]
  simp only [hfinal]

end BenefitScreen.Text
