import BenefitScreen.Outcome
import BenefitScreen.Proofs.AmountAgreement

/-!
# Conditions that agree

The same checks, made in the same order with the same outcomes and for the same reasons. Amounts
that a reason tells may be written differently as long as their values are the same.
-/

namespace BenefitScreen

open Decimal

lemma Message.same_income (a b c d : Decimal) :
    (income a b).same (income c d) = (decide (a.SameValue c) && decide (b.SameValue d)) :=
  rfl

lemma Message.same_incomeRange (a b c d e f : Decimal) :
    (incomeRange a b c).same (incomeRange d e f) =
      (decide (a.SameValue d) && decide (b.SameValue e) && decide (c.SameValue f)) :=
  rfl

lemma Message.same_assets (a b : Decimal) :
    (assets a).same (assets b) = decide (a.SameValue b) :=
  rfl

lemma Message.same_refl (m : Message) : m.same m = true := by
  cases m with
  | income a b => simp [same_income, SameValue.refl]
  | incomeRange a b c => simp [same_incomeRange, SameValue.refl]
  | assets a => simp [same_assets, SameValue.refl]
  | _ => exact beq_self_eq_true _

lemma Message.same_comm (m n : Message) : m.same n = n.same m := by
  have hcomm : ∀ a b : Decimal, decide (a.SameValue b) = decide (b.SameValue a) := fun a b =>
    decide_eq_decide.mpr ⟨SameValue.symm, SameValue.symm⟩
  fun_cases same m n with
  | case1 a b c d => rw [same_income, hcomm a, hcomm b]
  | case2 a b c d e f => rw [same_incomeRange, hcomm a, hcomm b, hcomm c]
  | case3 a b => rw [same_assets, hcomm a]
  | case4 m n hincome hrange hassets =>
    rw [same, BEq.comm]
    · exact fun a b c d hn hm => hincome c d a b hm hn
    · exact fun a b c d e f hn hm => hrange d e f a b c hm hn
    · exact fun a b hn hm => hassets b a hm hn

/-- The same check with the same outcome and message, amounts compared by value. -/
def Condition.Agrees (x y : Condition) : Prop := x.same y = true

/-- The same checks with the same outcomes and messages, amounts compared by value. -/
def Conditions.Agree (xs ys : Conditions) : Prop := xs.same ys = true

namespace Condition

variable {x y : Condition} {p q : Bool} {m n : Message} {a b c d e f : Decimal}

lemma agrees_iff : x.Agrees y ↔ x.passed = y.passed ∧
    (match x.message, y.message with
      | none, none => true
      | some m, some n => m.same n
      | _, _ => false) = true :=
  Bool.and_eq_true_iff.trans (and_congr_left' beq_iff_eq)

lemma agrees_checkFor (hpq : p = q) (hmn : m.same n = true) :
    (checkFor p m).Agrees (checkFor q n) :=
  agrees_iff.mpr ⟨hpq, hmn⟩

lemma Agrees.refl (x : Condition) : x.Agrees x := by
  obtain ⟨p, _ | m⟩ := x
  · exact agrees_iff.mpr ⟨rfl, rfl⟩
  · exact agrees_checkFor rfl m.same_refl

lemma Agrees.symm (h : x.Agrees y) : y.Agrees x := by
  obtain ⟨p, m⟩ := x
  obtain ⟨q, n⟩ := y
  obtain ⟨hpassed, h⟩ := agrees_iff.mp h
  refine agrees_iff.mpr ⟨hpassed.symm, ?_⟩
  cases m with
  | none =>
    cases n with
    | none => rfl
    | some n => exact h
  | some m =>
    cases n with
    | none => exact h
    | some n => exact (n.same_comm m).trans h

lemma Agrees.passed_eq (h : x.Agrees y) : x.passed = y.passed := (agrees_iff.mp h).1

lemma agrees_income (hac : a.SameValue c) (hbd : b.SameValue d) (hpq : p = q) :
    (checkFor p (.income a b)).Agrees (checkFor q (.income c d)) :=
  agrees_checkFor hpq (by simp [Message.same_income, hac, hbd])

lemma agrees_incomeRange (had : a.SameValue d) (hbe : b.SameValue e) (hcf : c.SameValue f)
    (hpq : p = q) : (checkFor p (.incomeRange a b c)).Agrees (checkFor q (.incomeRange d e f)) :=
  agrees_checkFor hpq (by simp [Message.same_incomeRange, had, hbe, hcf])

end Condition

namespace Conditions

variable {xs ys : Conditions} {x y : Condition}

lemma agree_nil : Agree [] [] := rfl

lemma agree_cons_iff : Agree (x :: xs) (y :: ys) ↔ x.Agrees y ∧ xs.Agree ys :=
  Bool.and_eq_true_iff

lemma agree_cons (hxy : x.Agrees y) (h : xs.Agree ys) : Agree (x :: xs) (y :: ys) :=
  agree_cons_iff.mpr ⟨hxy, h⟩

lemma agree_iff : xs.Agree ys ↔ List.Forall₂ Condition.Agrees xs ys := by
  constructor
  · intro h
    induction xs generalizing ys with
    | nil =>
      cases ys with
      | nil => exact .nil
      | cons y ys => cases h
    | cons x xs ih =>
      cases ys with
      | nil => cases h
      | cons y ys =>
        obtain ⟨hxy, h⟩ := agree_cons_iff.mp h
        exact .cons hxy (ih h)
  · intro h
    induction h with
    | nil => rfl
    | cons hxy _ ih => exact agree_cons hxy ih

lemma Agree.refl (xs : Conditions) : xs.Agree xs :=
  agree_iff.mpr (List.forall₂_same.mpr fun x _ => .refl x)

lemma Agree.symm (h : xs.Agree ys) : ys.Agree xs :=
  agree_iff.mpr ((agree_iff.mp h).imp fun _ _ => Condition.Agrees.symm).flip

lemma Agree.append {xs' ys' : Conditions} (h : xs.Agree ys) (h' : xs'.Agree ys') :
    Conditions.Agree (xs ++ xs') (ys ++ ys') :=
  agree_iff.mpr (List.rel_append (agree_iff.mp h) (agree_iff.mp h'))

lemma Agree.passed_eq (h : xs.Agree ys) : xs.passed = ys.passed := by
  have hall := agree_iff.mp h
  clear h
  induction hall with
  | nil => rfl
  | cons hxy _ ih => rw [passed_cons, passed_cons, hxy.passed_eq, ih]

end Conditions

end BenefitScreen
