import BenefitScreen.Proofs.AmountValue
import BenefitScreen.Proofs.PovertyChecks
import BenefitScreen.Proofs.TaxReturns
import BenefitScreen.Simulation.Input

/-!
# Amounts of the household placed on its members

Some variables of a person carry an amount of the whole household. With one head of household the
amounts on all members come to the amount of the household, and the medical expenses are shared by
the members who are old or disabled.
-/

namespace BenefitScreen

namespace Simulation.Input

open Decimal Fallible

variable {h : Household} {taxUnits : TaxUnits} {input : Input} {total : Decimal}

/-- What the variable comes to over all members. -/
def ComesTo (h : Household) (taxUnits : TaxUnits) (input : Input) (q : ℚ) : Prop :=
  ∃ amounts : List Decimal,
    h.members.mapM (fun m => input.value h taxUnits (some m)) = .ok (amounts.map .number) ∧
    (amounts.map Decimal.value).sum = q

/-- An amount that is placed in equal parts on some of the members. -/
lemma comesTo_of_parts {part : Decimal} {holds : Member → Bool}
    (hparts : ∀ m ∈ h.members, input.value h taxUnits (some m) =
      .ok (.number (if holds m then part else .zero))) :
    ComesTo h taxUnits input (h.members.countP holds * part.value) := by
  have hvalues : ∀ m ∈ h.members, ∃ a, input.value h taxUnits (some m) = .ok (Value.number a) ∧
      a.value = if holds m then part.value else 0 := by
    intro m hm
    refine ⟨_, hparts m hm, ?_⟩
    split
    · rfl
    · exact value_zero
  obtain ⟨amounts, hamounts, hvalues⟩ := exists_mapM_amounts hvalues
  exact ⟨amounts, hamounts, by rw [hvalues, sum_holding]⟩

lemma comesTo_of_onHead (hhead : h.members.countP Member.isHead = 1)
    (hplaced : ∀ m ∈ h.members, input.value h taxUnits (some m) = .ok (onHead (some m) total)) :
    ComesTo h taxUnits input total.value := by
  have hparts : ComesTo h taxUnits input (h.members.countP Member.isHead * total.value) :=
    comesTo_of_parts hplaced
  rwa [hhead, Nat.cast_one, one_mul] at hparts

section Medical

/-- How many members share the medical expenses. -/
def sharers (h : Household) : Nat := h.members.countP sharesMedical

lemma sharesMedical_iff {m : Member} : sharesMedical m = true ↔ m.OldOrDisabled 60 := by
  unfold sharesMedical Member.isAtLeast Member.OldOrDisabled
  rw [Bool.or_eq_true, Option.any_eq_true]
  simp

lemma sharers_pos {m : Member} (hm : m ∈ h.members) (hold : m.OldOrDisabled 60) : 0 < sharers h :=
  List.countP_pos_iff.mpr ⟨m, hm, sharesMedical_iff.mpr hold⟩

lemma medicalShare_of_old {m : Member} (hm : m ∈ h.members) (hold : m.OldOrDisabled 60)
    (htotal : h.totalExpenses .yearly [.medical] = .ok total) :
    medicalShare h (some m) = .ok (.number (total.divNat (sharers h))) := by
  have hboth : (decide (0 < sharers h) && (some m).any sharesMedical) = true :=
    Bool.and_eq_true_iff.mpr ⟨decide_eq_true (sharers_pos hm hold), sharesMedical_iff.mpr hold⟩
  refine (if_pos hboth).trans ?_
  rw [htotal]
  rfl

lemma medicalShare_of_spared {m : Member} (hspared : ¬m.OldOrDisabled 60) :
    medicalShare h (some m) = .ok (.number .zero) := by
  have hshares : sharesMedical m ≠ true := mt sharesMedical_iff.mp hspared
  apply if_neg
  intro hboth
  exact hshares (Bool.and_eq_true_iff.mp hboth).2

lemma comesTo_medical (hpos : 0 < sharers h)
    (htotal : h.totalExpenses .yearly [.medical] = .ok total)
    (hpart : Representable (total.value / sharers h)) :
    ComesTo h taxUnits medicalOutOfPocketExpenses total.value := by
  have hparts : ∀ m ∈ h.members, medicalOutOfPocketExpenses.value h taxUnits (some m) =
      .ok (.number (if sharesMedical m then total.divNat (sharers h) else .zero)) := by
    intro m hm
    split
    · rename_i hshares
      exact medicalShare_of_old hm (sharesMedical_iff.mp hshares) htotal
    · rename_i hshares
      exact medicalShare_of_spared (mt sharesMedical_iff.mpr hshares)
  have hall := comesTo_of_parts hparts
  have hcast : (sharers h : ℚ) ≠ 0 := by exact_mod_cast hpos.ne'
  rwa [value_divNat hpos hpart, ← sharers, mul_div_cancel₀ _ hcast] at hall

end Medical

/-- The variables of all members together carry what the household has. -/
structure PlacesAmounts (h : Household) (taxUnits : TaxUnits) : Prop where
  rent : ∀ total, h.totalExpenses .yearly [.rent] = .ok total →
    ComesTo h taxUnits rent total.value
  realEstateTaxes : ∀ total, h.totalExpenses .yearly [.propertyTax] = .ok total →
    ComesTo h taxUnits realEstateTaxes total.value
  resources : ComesTo h taxUnits ssiCountableResources h.assets.value

/-- The members who are old or disabled share the medical expenses. -/
structure SharesMedical (h : Household) (taxUnits : TaxUnits) : Prop where
  /-- Whoever shares the expenses gets one of as many equal parts as there are sharers. -/
  shared : ∀ m ∈ h.members, m.OldOrDisabled 60 → 0 < sharers h ∧
    ∀ total, h.totalExpenses .yearly [.medical] = .ok total →
      medicalOutOfPocketExpenses.value h taxUnits (some m) =
        .ok (.number (total.divNat (sharers h)))
  /-- Nobody else gets any. -/
  spared : ∀ m ∈ h.members, ¬m.OldOrDisabled 60 →
    medicalOutOfPocketExpenses.value h taxUnits (some m) = .ok (.number .zero)
  /-- Where a part can be written as an amount, the parts come to all expenses. -/
  conserved : ∀ total, h.totalExpenses .yearly [.medical] = .ok total → 0 < sharers h →
    Representable (total.value / sharers h) →
    ComesTo h taxUnits medicalOutOfPocketExpenses total.value

/-- With one head of household, nothing that is placed on people is lost or counts twice. -/
theorem placed_amounts_conserved (hhead : h.members.countP Member.isHead = 1)
    (taxUnits : TaxUnits) : PlacesAmounts h taxUnits ∧ SharesMedical h taxUnits where
  left := by
    refine ⟨fun total htotal => ?_, fun total htotal => ?_, ?_⟩
    · exact comesTo_of_onHead hhead fun m _ => bind_eq_ok.mpr ⟨total, htotal, rfl⟩
    · exact comesTo_of_onHead hhead fun m _ => bind_eq_ok.mpr ⟨total, htotal, rfl⟩
    · exact comesTo_of_onHead hhead fun m _ => rfl
  right := {
    shared m hm hold :=
      ⟨sharers_pos hm hold, fun total htotal => medicalShare_of_old hm hold htotal⟩
    spared m _ hspared := medicalShare_of_spared hspared
    conserved total htotal hpos hpart := comesTo_medical hpos htotal hpart }

open TaxUnits (lodger sharedFlat)

/-- A household of three in which the head and a parent of unknown age share the medical
expenses. -/
def carers : Household := { sharedFlat with
  assets := .whole 5000
  members := [
    lodger 3 .child (some 12) [],
    lodger 1 .headOfHousehold (some 63) [],
    { lodger 2 .parent none [] with disabled := true }]
  expenses := [⟨.rent, .whole 900, .monthly⟩, ⟨.medical, .whole 250, .monthly⟩,
    ⟨.propertyTax, .whole 1200, .yearly⟩, ⟨.medical, .whole 40, .biweekly⟩] }

theorem carers_amounts_conserved : ∃ taxUnits, TaxUnits.classify carers = .ok taxUnits ∧
    ComesTo carers taxUnits rent 10800 ∧ ComesTo carers taxUnits realEstateTaxes 1200 ∧
    ComesTo carers taxUnits ssiCountableResources 5000 ∧
    ComesTo carers taxUnits medicalOutOfPocketExpenses 4040 := by
  have hclassify : (TaxUnits.classify carers).toOption.any (fun _ => true) = true := by
    decide +kernel
  obtain ⟨taxUnits, htaxUnits, _⟩ := exists_ok_of_any hclassify
  have hrent : carers.totalExpenses .yearly [.rent] = .ok (.whole 10800) := by decide +kernel
  have htaxes : carers.totalExpenses .yearly [.propertyTax] = .ok (.whole 1200) := by
    decide +kernel
  have hmedical : carers.totalExpenses .yearly [.medical] = .ok (.whole 4040) := by
    decide +kernel
  have hpart : Representable ((whole 4040).value / sharers carers) := by
    refine ⟨.whole 2020, ?_⟩
    have hsharers : sharers carers = 2 := by decide
    rw [hsharers, value_whole, value_whole]
    norm_num [UInt64.toNat_ofNat]
  obtain ⟨hplaced, hshared⟩ := placed_amounts_conserved (h := carers) (by decide) taxUnits
  have hrent := hplaced.rent _ hrent
  have htaxes := hplaced.realEstateTaxes _ htaxes
  have hresources := hplaced.resources
  have hmedical := hshared.conserved _ hmedical (by decide) hpart
  have hassets : carers.assets = .whole 5000 := rfl
  rw [value_whole] at hrent htaxes hmedical
  rw [hassets, value_whole] at hresources
  exact ⟨taxUnits, htaxUnits, hrent, htaxes, hresources, hmedical⟩

end Simulation.Input

end BenefitScreen
