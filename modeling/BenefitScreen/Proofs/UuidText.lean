import BenefitScreen.Wire.Household
import Mathlib.Tactic.Common

/-!
# The written form of an identifier is read back

An identifier is written as thirty-two hexadecimal digits in five groups with hyphens between them,
one of the forms that are read.
-/

namespace BenefitScreen.Uuid

lemma hexValue?_digitChar {d : Nat} (h : d < 16) : Json.hexValue? d.digitChar = some d := by
  revert d
  decide

/-- Adds a hexadecimal digit at the end of a number. -/
def pushHex (n : Nat) (c : Char) : Option Nat := (Json.hexValue? c).map (n * 16 + ·)

lemma foldlM_pushHex_digits (n : Nat) : (Nat.toDigits 16 n).foldlM pushHex 0 = some n := by
  induction n using Nat.base_induction 16 (by decide) with
  | single d hd =>
    rw [Nat.toDigits_of_lt_base hd, List.foldlM_cons, pushHex, hexValue?_digitChar hd]
    simp
  | digit n d hd hn ih =>
    rw [← Nat.toDigits_append_toDigits (by decide) hn hd, List.foldlM_append, ih,
      Nat.toDigits_of_lt_base hd]
    simp [pushHex, hexValue?_digitChar hd, Nat.mul_comm]

lemma foldlM_pushHex_zeros (k : Nat) : (List.replicate k '0').foldlM pushHex 0 = some 0 := by
  induction k with
  | zero => rfl
  | succ k ih =>
    rw [List.replicate_succ, List.foldlM_cons]
    exact ih

/-- All digits of an identifier, with zeros in front. -/
def hexDigits (u : Uuid) : List Char :=
  let digits := Nat.toDigits 16 u.value.toNat
  List.replicate (32 - digits.length) '0' ++ digits

lemma length_hexDigits (u : Uuid) : u.hexDigits.length = 32 := by
  have hlength : (Nat.toDigits 16 u.value.toNat).length ≤ 32 :=
    (Nat.length_toDigits_le_iff (by decide) (by decide)).mpr u.value.isLt
  rw [hexDigits, List.length_append, List.length_replicate]
  omega

lemma ofHex?_hexDigits (u : Uuid) : ofHex? u.hexDigits = some u := by
  have hvalue : u.hexDigits.foldlM pushHex 0 = some u.value.toNat := by
    rw [hexDigits, List.foldlM_append, foldlM_pushHex_zeros]
    exact foldlM_pushHex_digits _
  rw [ofHex?, if_pos u.length_hexDigits]
  change (u.hexDigits.foldlM pushHex 0).map _ = some u
  rw [hvalue, Option.map_some, BitVec.ofNat_toNat, BitVec.setWidth_eq]

section Groups

variable {a b c d e : List Char} (ha : a.length = 8) (hb : b.length = 4) (hc : c.length = 4)
  (hd : d.length = 4) (he : e.length = 12)

include ha hb hc hd he

lemma length_groups :
    (a ++ '-' :: b ++ '-' :: c ++ '-' :: d ++ '-' :: e).length = 36 := by
  simp [ha, hb, hc, hd, he]

lemma ofGroups?_groups :
    ofGroups? (a ++ '-' :: b ++ '-' :: c ++ '-' :: d ++ '-' :: e) =
      ofHex? (a ++ b ++ c ++ d ++ e) := by
  have hlength := length_groups ha hb hc hd he
  rw [ofGroups?, if_pos]
  · simp (disch := omega) [List.drop_append, List.drop_eq_nil_of_le, List.take_of_length_le, ha, hb,
      hc, hd]
  · refine ⟨hlength, ?_⟩
    simp [List.getElem?_append, ha, hb, hc, hd, he]

end Groups

lemma take_groups {cs : List Char} (h : cs.length = 32) :
    cs.take 8 ++ (cs.drop 8).take 4 ++ (cs.drop 12).take 4 ++ (cs.drop 16).take 4 ++
      (cs.drop 20).take 12 = cs := by
  simp only [← List.take_add]
  exact List.take_of_length_le (Nat.le_of_eq h)

lemma toList_render (u : Uuid) :
    u.render.toList = u.hexDigits.take 8 ++ '-' :: (u.hexDigits.drop 8).take 4 ++
      '-' :: (u.hexDigits.drop 12).take 4 ++ '-' :: (u.hexDigits.drop 16).take 4 ++
      '-' :: (u.hexDigits.drop 20).take 12 :=
  String.toList_ofList

/-- A written identifier is read as it was. -/
theorem parse?_render (u : Uuid) : parse? u.render = some u := by
  have hall := u.length_hexDigits
  have ha : (u.hexDigits.take 8).length = 8 := by rw [List.length_take, hall]; rfl
  have hpart : ∀ i n, i + n ≤ 32 → ((u.hexDigits.drop i).take n).length = n := by
    intro i n h
    rw [List.length_take, List.length_drop, hall]
    omega
  have hb := hpart 8 4 (by decide)
  have hc := hpart 12 4 (by decide)
  have hd := hpart 16 4 (by decide)
  have he := hpart 20 12 (by decide)
  have hlength := length_groups ha hb hc hd he
  have hgroups := ofGroups?_groups ha hb hc hd he
  rw [take_groups hall, ofHex?_hexDigits, ← toList_render] at hgroups
  rw [← toList_render] at hlength
  rw [parse?, hlength]
  exact hgroups

end BenefitScreen.Uuid
