import BenefitScreen.Configuration.Shipped
import BenefitScreen.Proofs.AmountProduct
import BenefitScreen.Proofs.Fallible

/-!
# Poverty guidelines and the checks against them

The guidelines of a valid table are positive and never decrease with the size of the household,
also where the published sizes end. Checks of income against a share of them are therefore
monotone in the size, in the share and in the income.
-/

namespace BenefitScreen

open Fallible

namespace PovertyTable

variable {t : PovertyTable} {m n : UInt64} {a b : Decimal}

section Validation

/-- What the validation of a table ensures. -/
structure Sound (t : PovertyTable) : Prop where
  nonempty : t.limits ≠ []
  positive : ∀ l ∈ t.limits, .zero < l
  sorted : t.limits.Pairwise (· ≤ ·)
  addition : .zero < t.additionalPerson

lemma pairwise_of_decreases {ls : List Decimal} (h : decreases ls = false) :
    ls.Pairwise (· ≤ ·) := by
  induction ls using decreases.induct with
  | case1 a b rest ih =>
    rw [decreases, Bool.or_eq_false_iff, decide_eq_false_iff_not, ← Decimal.not_le_iff_lt,
      not_not] at h
    obtain ⟨hab, hrest⟩ := h
    refine List.pairwise_cons.mpr ⟨fun x hx => ?_, ih hrest⟩
    rcases List.mem_cons.mp hx with rfl | hx
    · exact hab
    · exact Decimal.le_trans hab (List.rel_of_pairwise_cons (ih hrest) hx)
  | case2 ls hshort =>
    cases ls with
    | nil => exact .nil
    | cons a rest =>
      cases rest with
      | nil => exact List.pairwise_singleton _ a
      | cons b rest => exact absurd rfl (hshort a b rest)

lemma sound_of_validate {table : String} (h : t.validate table = .ok ()) : t.Sound := by
  have hnone : t.defect? = none := by
    cases hdefect : t.defect? with
    | none => rfl
    | some d => simp [validate, hdefect] at h
  unfold defect? at hnone
  split at hnone
  · cases hnone
  rename_i hsizes
  split at hnone
  · cases hnone
  rename_i hpositive
  split at hnone
  · cases hnone
  rename_i hdecreases
  split at hnone
  · cases hnone
  rename_i haddition
  refine ⟨by simpa using hsizes, fun l hl => ?_, ?_, Decimal.not_le_iff_lt.mp haddition⟩
  · by_contra hno
    rw [← Decimal.not_le_iff_lt, not_not] at hno
    exact hpositive (List.any_eq_true.mpr ⟨l, hl, decide_eq_true hno⟩)
  · exact pairwise_of_decreases (by simpa using hdecreases)

end Validation

section Guidelines

/-- The number of people a size stands for. -/
def people (size : UInt64) : Nat := max size.toNat 1

def last (t : PovertyTable) : Decimal := t.limits.getLast?.getD .zero

/-- Where a guideline comes from. -/
inductive Gives (t : PovertyTable) (size : UInt64) (a : Decimal) : Prop
  | published (hpublished : t.limits[people size - 1]? = some a)
  | beyond {added : Decimal} (hlarge : t.limits.length < people size)
    (hadded : t.additionalPerson.mul (.whole (.ofNat (people size - t.limits.length))) = .ok added)
    (htotal : t.last.add added = .ok a)

lemma gives_of_limit (h : t.limit n = .ok a) : t.Gives n a := by
  unfold limit at h
  dsimp only at h
  split at h
  · rename_i amount hpublished
    obtain rfl := Except.ok.inj h
    exact .published hpublished
  · rename_i hnone
    obtain ⟨added, hadded, htotal⟩ := bind_eq_ok.mp h
    have hlarge : t.limits.length < people n := by
      have hlength := List.getElem?_eq_none_iff.mp hnone
      have hpeople : 1 ≤ people n := Nat.le_max_right _ _
      unfold people at hpeople ⊢
      omega
    exact .beyond hlarge hadded htotal

lemma people_mono (h : m ≤ n) : people m ≤ people n := by
  have hle : m.toNat ≤ n.toNat := h
  unfold people
  omega

/-- Nobody is lost when the people beyond a table are counted. -/
lemma toNat_beyond (t : PovertyTable) (n : UInt64) (h : t.limits ≠ []) :
    (UInt64.ofNat (people n - t.limits.length)).toNat = people n - t.limits.length := by
  have hlength : 1 ≤ t.limits.length := List.length_pos_iff.mpr h
  have hsize : n.toNat < 2 ^ 64 := n.toNat_lt
  have hpeople : people n - t.limits.length < 2 ^ 64 := by
    unfold people
    omega
  exact UInt64.toNat_ofNat_of_lt' hpeople

namespace Sound

lemma getElem?_last (ht : t.Sound) : t.limits[t.limits.length - 1]? = some t.last := by
  rw [last, List.getLast?_eq_getLast_of_ne_nil ht.nonempty, Option.getD_some,
    List.getLast_eq_getElem, ← List.getElem?_eq_getElem]

lemma zero_lt_last (ht : t.Sound) : .zero < t.last :=
  ht.positive t.last (List.mem_of_getElem? ht.getElem?_last)

lemma published_le (ht : t.Sound) {i j : Nat} (hij : i ≤ j) (ha : t.limits[i]? = some a)
    (hb : t.limits[j]? = some b) : a ≤ b := by
  obtain ⟨hi, rfl⟩ := List.getElem?_eq_some_iff.mp ha
  obtain ⟨hj, rfl⟩ := List.getElem?_eq_some_iff.mp hb
  rcases Nat.eq_or_lt_of_le hij with rfl | hlt
  · exact Decimal.le_refl _
  · exact List.pairwise_iff_getElem.mp ht.sorted i j hi hj hlt

lemma published_le_last (ht : t.Sound) {i : Nat} (ha : t.limits[i]? = some a) : a ≤ t.last := by
  have hi : i < t.limits.length := (List.getElem?_eq_some_iff.mp ha).1
  exact ht.published_le (by omega) ha ht.getElem?_last

lemma zero_le_added (ht : t.Sound) {k : UInt64}
    (h : t.additionalPerson.mul (.whole k) = .ok a) : .zero ≤ a :=
  Decimal.zero_le_mul (Decimal.le_of_lt ht.addition) (Decimal.zero_le_whole k) h

lemma zero_lt_limit (ht : t.Sound) (h : t.limit n = .ok a) : .zero < a := by
  cases gives_of_limit h with
  | published hpublished => exact ht.positive a (List.mem_of_getElem? hpublished)
  | beyond _ hadded htotal =>
    have hpositive := ht.zero_lt_last
    have hle := Decimal.le_add (ht.zero_le_added hadded) htotal
    rw [Decimal.lt_iff_units] at hpositive ⊢
    rw [Decimal.le_iff_units] at hle
    omega

lemma limit_mono (ht : t.Sound) (hmn : m ≤ n) (ha : t.limit m = .ok a) (hb : t.limit n = .ok b) :
    a ≤ b := by
  have hpeople := people_mono hmn
  cases gives_of_limit ha with
  | published hm =>
    cases gives_of_limit hb with
    | published hn => exact ht.published_le (Nat.sub_le_sub_right hpeople 1) hm hn
    | beyond _ hadded htotal =>
      exact Decimal.le_trans (ht.published_le_last hm)
        (Decimal.le_add (ht.zero_le_added hadded) htotal)
  | beyond hlarge hadded htotal =>
    cases gives_of_limit hb with
    | published hn =>
      have hpublished := (List.getElem?_eq_some_iff.mp hn).1
      omega
    | beyond _ hadded' htotal' =>
      refine Decimal.add_le_add (Decimal.le_refl _) ?_ htotal htotal'
      have hcount : Decimal.whole (.ofNat (people m - t.limits.length)) ≤
          .whole (.ofNat (people n - t.limits.length)) := by
        rw [Decimal.whole_le_whole, UInt64.le_iff_toNat_le, t.toNat_beyond m ht.nonempty,
          t.toNat_beyond n ht.nonempty]
        omega
      exact Decimal.mul_le_mul (Decimal.le_of_lt ht.addition) (Decimal.zero_le_whole _)
        (Decimal.le_refl t.additionalPerson) hcount hadded hadded'

end Sound

/-- The guideline on paper, in units of the last digit that an amount can have. -/
def exactUnits (t : PovertyTable) (size : UInt64) : Int :=
  (t.limits[people size - 1]?.getD t.last).units +
    (people size - t.limits.length : Nat) * t.additionalPerson.units

/-- The guideline for `size` comes out as it is on paper, without overflow or a lost digit. -/
def Exact (t : PovertyTable) (size : UInt64) (a : Decimal) : Prop :=
  t.limit size = .ok a ∧ a.units = t.exactUnits size

lemma Sound.exactUnits_of_le (ht : t.Sound) (h : t.limits.length ≤ n.toNat) :
    t.exactUnits n =
      t.last.units + (n.toNat - t.limits.length : Nat) * t.additionalPerson.units := by
  have hlength : 1 ≤ t.limits.length := List.length_pos_iff.mpr ht.nonempty
  have hpeople : people n = n.toNat := Nat.max_eq_left (by omega)
  have hlast : t.limits[n.toNat - 1]?.getD t.last = t.last := by
    rcases Nat.eq_or_lt_of_le h with heq | hlt
    · rw [← heq, ht.getElem?_last, Option.getD_some]
    · rw [List.getElem?_eq_none (by omega), Option.getD_none]
  rw [exactUnits, hpeople, hlast]

/-- From the last published size on each further person counts. -/
lemma Sound.limit_strictMono (ht : t.Sound) (hpublished : t.limits.length ≤ m.toNat) (hmn : m < n)
    (ha : t.Exact m a) (hb : t.Exact n b) : a < b := by
  have hmn : m.toNat < n.toNat := hmn
  have hadded : 0 < t.additionalPerson.units := Decimal.lt_iff_units.mp ht.addition
  have hcount : ((m.toNat - t.limits.length : Nat) : Int) < (n.toNat - t.limits.length : Nat) := by
    omega
  rw [Decimal.lt_iff_units, ha.2, hb.2, ht.exactUnits_of_le hpublished,
    ht.exactUnits_of_le (Nat.le_trans hpublished (Nat.le_of_lt hmn))]
  exact Int.add_lt_add_left (Int.mul_lt_mul_of_pos_right hcount hadded) _

/-- The guidelines grow with the size of the household. -/
structure Grows (t : PovertyTable) : Prop where
  positive : ∀ {n a}, t.limit n = .ok a → .zero < a
  mono : ∀ {m n a b}, m ≤ n → t.limit m = .ok a → t.limit n = .ok b → a ≤ b
  strict : ∀ {m n a b}, t.limits.length ≤ m.toNat → m < n → t.Exact m a → t.Exact n b → a < b

lemma Sound.grows (ht : t.Sound) : t.Grows :=
  ⟨ht.zero_lt_limit, ht.limit_mono, ht.limit_strictMono⟩

end Guidelines

end PovertyTable

namespace PovertyCheck

open PovertyTable

variable {c : PovertyCheck} {t : PovertyTable} {m n : UInt64} {p q a l l' : Decimal}
  {x : Condition} {cs cs' : Conditions} {flag : Bool}

lemma exists_share (h : limit t n p = .ok l) : ∃ guideline share,
    t.limit n = .ok guideline ∧ guideline.mul p = .ok share ∧ share.trunc = l := by
  obtain ⟨guideline, hguideline, h⟩ := bind_eq_ok.mp h
  obtain ⟨share, hshare, h⟩ := bind_eq_ok.mp h
  exact ⟨guideline, share, hguideline, hshare, pure_eq_ok.mp h⟩

lemma scale_of_limit (h : limit t n p = .ok l) : l.scale = 0 := by
  obtain ⟨_, _, _, _, rfl⟩ := exists_share h
  rfl

lemma limit_le_limit (ht : t.Sound) (hmn : m ≤ n) (hp : .zero ≤ p) (hpq : p ≤ q)
    (h : limit t m p = .ok l) (h' : limit t n q = .ok l') : l ≤ l' := by
  obtain ⟨guideline, share, hguideline, hshare, rfl⟩ := exists_share h
  obtain ⟨guideline', share', hguideline', hshare', rfl⟩ := exists_share h'
  have hpositive : .zero ≤ guideline := Decimal.le_of_lt (ht.zero_lt_limit hguideline)
  have hgrows := ht.limit_mono hmn hguideline hguideline'
  exact Decimal.trunc_le_trunc (Decimal.mul_le_mul hpositive hp hgrows hpq hshare hshare')

/-- The one condition that a check of `income` comes to: its flag is the comparison with the limits
that its message names. -/
inductive Records (c : PovertyCheck) (t : PovertyTable) (size : UInt64) (income : Decimal) :
    Condition → Prop
  | ceiling {l : Decimal} (hfloor : c.minPercent = none)
    (hceiling : limit t size c.maxPercent = .ok l) :
    c.Records t size income (checkFor (income.trunc ≤ l) (.income income.trunc l))
  | range {p floor l : Decimal} (hfloor : c.minPercent = some p)
    (hceiling : limit t size c.maxPercent = .ok l) (hlimit : limit t size p = .ok floor) :
    c.Records t size income
      (checkFor (floor ≤ income.trunc && income.trunc ≤ l) (.incomeRange income.trunc floor l))

lemma records_of_verdict {v : Bool × Message} (h : c.verdict t n a = .ok v) :
    c.Records t n a (checkFor v.1 v.2) := by
  obtain ⟨l, hceiling, h⟩ := bind_eq_ok.mp h
  cases hfloor : c.minPercent with
  | none =>
    rw [hfloor] at h
    obtain rfl := pure_eq_ok.mp h
    exact .ceiling hfloor hceiling
  | some p =>
    rw [hfloor] at h
    obtain ⟨floor, hlimit, h⟩ := bind_eq_ok.mp h
    obtain rfl := pure_eq_ok.mp h
    exact .range hfloor hceiling hlimit

lemma Records.exists_verdict (h : c.Records t n a x) :
    ∃ v, c.verdict t n a = .ok v ∧ x = checkFor v.1 v.2 := by
  cases h with
  | @ceiling l hfloor hceiling =>
    refine ⟨(decide (a.trunc ≤ l), .income a.trunc l), ?_, rfl⟩
    simp only [verdict, hceiling, hfloor, ok_bind]
    rfl
  | @range p floor l hfloor hceiling hlimit =>
    refine ⟨(floor ≤ a.trunc && a.trunc ≤ l, .incomeRange a.trunc floor l), ?_, rfl⟩
    simp only [verdict, hceiling, hfloor, hlimit, ok_bind]
    rfl

/-- A check adds its one condition to those recorded before, and answers with that one's flag. -/
lemma checkIncome_eq_ok : c.checkIncome t n a cs = .ok (flag, cs') ↔
    ∃ x, c.Records t n a x ∧ flag = x.passed ∧ cs' = cs ++ [x] := by
  constructor
  · intro h
    obtain ⟨v, hv, h⟩ := bind_eq_ok.mp h
    cases pure_eq_ok.mp h
    exact ⟨_, records_of_verdict hv, rfl, rfl⟩
  · rintro ⟨x, hx, rfl, rfl⟩
    obtain ⟨v, hv, rfl⟩ := hx.exists_verdict
    exact bind_eq_ok.mpr ⟨v, hv, rfl⟩

lemma checkHousehold_eq_ok {h : Household} : c.checkHousehold h t cs = .ok (flag, cs') ↔
    ∃ income, h.grossIncome .yearly c.filters = .ok income ∧
      ∃ x, c.Records t (adjustedSize h) income x ∧ flag = x.passed ∧ cs' = cs ++ [x] := by
  constructor
  · intro hchecks
    obtain ⟨income, hincome, hchecks⟩ := bind_eq_ok.mp hchecks
    exact ⟨income, hincome, checkIncome_eq_ok.mp hchecks⟩
  · rintro ⟨income, hincome, hrecords⟩
    exact bind_eq_ok.mpr ⟨income, hincome, checkIncome_eq_ok.mpr hrecords⟩

/-- Without a floor a check passes if the whole income is at most the ceiling. -/
lemma passes_of_ceiling (hfloor : c.minPercent = none) (h : limit t n c.maxPercent = .ok l) :
    c.checkIncome t n a cs =
      .ok (decide (a.trunc ≤ l), cs ++ [checkFor (a.trunc ≤ l) (.income a.trunc l)]) :=
  checkIncome_eq_ok.mpr ⟨_, .ceiling hfloor h, rfl, rfl⟩

lemma ceiling_of_passed (hfloor : c.minPercent = none)
    (h : c.checkIncome t n a cs = .ok (true, cs')) :
    ∃ l, limit t n c.maxPercent = .ok l ∧ a.trunc ≤ l := by
  obtain ⟨x, hx, hpassed, -⟩ := checkIncome_eq_ok.mp h
  cases hx with
  | ceiling _ hceiling => exact ⟨_, hceiling, of_decide_eq_true hpassed.symm⟩
  | range hsome => cases hfloor.symm.trans hsome

/-- What holds of all checks against a table, whatever was recorded before. A check that gives an
answer records one condition, whose flag is the answer. -/
structure Ordered (t : PovertyTable) : Prop where
  records : ∀ {c : PovertyCheck} {n a cs flag cs'}, c.checkIncome t n a cs = .ok (flag, cs') ↔
    ∃ x, c.Records t n a x ∧ flag = x.passed ∧ cs' = cs ++ [x]
  household : ∀ {c : PovertyCheck} {h cs flag cs'}, c.checkHousehold h t cs = .ok (flag, cs') ↔
    ∃ income, h.grossIncome .yearly c.filters = .ok income ∧
      ∃ x, c.Records t (adjustedSize h) income x ∧ flag = x.passed ∧ cs' = cs ++ [x]
  relaxed : ∀ {c c' : PovertyCheck} {m n a b cs cs' l}, c.minPercent = none →
    c'.minPercent = none → m ≤ n → .zero ≤ c.maxPercent → c.maxPercent ≤ c'.maxPercent → a ≤ b →
    c.checkIncome t m b cs = .ok (true, cs') → limit t n c'.maxPercent = .ok l →
    ∀ ds, ∃ ds', c'.checkIncome t n a ds = .ok (true, ds')
  inclusive : ∀ {c : PovertyCheck} {n l}, c.minPercent = none → limit t n c.maxPercent = .ok l →
    ∀ cs, ∃ cs', c.checkIncome t n l cs = .ok (true, cs')
  exceeded : ∀ {c : PovertyCheck} {n l above}, c.minPercent = none →
    limit t n c.maxPercent = .ok l → l.add .one = .ok above →
    ∀ cs, ∃ cs', c.checkIncome t n above cs = .ok (false, cs')
  ranged : ∀ {c : PovertyCheck} {n p a floor l}, c.minPercent = some p →
    limit t n c.maxPercent = .ok l → limit t n p = .ok floor →
    ∀ cs, ∃ flag cs', c.checkIncome t n a cs = .ok (flag, cs') ∧
      (flag = true ↔ floor ≤ a.trunc ∧ a.trunc ≤ l)

lemma ordered_of_sound (ht : t.Sound) : Ordered t where
  records := checkIncome_eq_ok
  household := checkHousehold_eq_ok
  relaxed hc hc' hmn hp hpq hab hpassed hl ds := by
    obtain ⟨ceiling, hceiling, hbelow⟩ := ceiling_of_passed hc hpassed
    have hless := Decimal.trunc_le_trunc hab
    have hmore := limit_le_limit ht hmn hp hpq hceiling hl
    have hpasses := Decimal.le_trans hless (Decimal.le_trans hbelow hmore)
    exact ⟨_, decide_eq_true hpasses ▸ passes_of_ceiling hc' hl⟩
  inclusive hc hl cs := by
    have hwhole := Decimal.trunc_of_scale_zero (scale_of_limit hl)
    have hpasses := Decimal.le_iff_units.mpr (Int.le_of_eq hwhole)
    exact ⟨_, decide_eq_true hpasses ▸ passes_of_ceiling hc hl⟩
  exceeded hc hl habove cs := by
    have hmore := Decimal.lt_trunc_of_add_one (scale_of_limit hl) habove
    have hfails := Decimal.not_le_iff_lt.mpr hmore
    exact ⟨_, decide_eq_false hfails ▸ passes_of_ceiling hc hl⟩
  ranged hc hl hfloor cs := by
    refine ⟨_, _, checkIncome_eq_ok.mpr ⟨_, .range hc hl hfloor, rfl, rfl⟩, ?_⟩
    simp [checkFor]

/-- The guidelines of a valid table grow with the size of the household, and the checks against it
are ordered by size, share and income. -/
theorem grows_and_ordered_of_validate {table : String} (h : t.validate table = .ok ()) :
    t.Grows ∧ Ordered t := by
  have ht : t.Sound := sound_of_validate h
  exact ⟨ht.grows, ordered_of_sound ht⟩

/-- From the last published size to the first one beyond. -/
theorem table2025_beyond_published :
    Shipped.table2025.limit 8 = .ok (.whole 54150) ∧
    Shipped.table2025.limit 9 = .ok (.whole 59650) ∧ Decimal.whole 54150 < .whole 59650 ∧
    limit Shipped.table2025 9 (.hundredths 138) = .ok (.whole 82317) ∧
    ∃ cs, (atMost (.hundredths 138)).checkIncome Shipped.table2025 9 (.whole 82317)
      [checkFor true .location] = .ok (true, cs) := by
  have hvalid : Shipped.table2025.validate "2025" = .ok () := rfl
  have height : Shipped.table2025.limit 8 = .ok (.whole 54150) := rfl
  have hnine : Shipped.table2025.limit 9 = .ok (.whole 59650) := by decide +kernel
  have hceiling : limit Shipped.table2025 9 (.hundredths 138) = .ok (.whole 82317) := by
    decide +kernel
  obtain ⟨hgrows, hordered⟩ := grows_and_ordered_of_validate hvalid
  have hmore := hgrows.strict (m := 8) (n := 9) (by decide) (by decide) ⟨height, rfl⟩ ⟨hnine, rfl⟩
  have hpasses := hordered.inclusive (c := atMost (.hundredths 138)) rfl hceiling
    [checkFor true .location]
  exact ⟨height, hnine, hmore, hceiling, hpasses⟩

end PovertyCheck

/-- At least as old as `age`, or disabled at any age and also of unknown age. -/
def Member.OldOrDisabled (m : Member) (age : UInt32) : Prop :=
  (∃ years ∈ m.age, age ≤ years) ∨ m.hasDisability = true

lemma AgeRule.passes_iff {r : AgeRule} (hany : r.disabilityMinAge = 0) {m : Member} :
    r.passes m = true ↔ m.OldOrDisabled r.seniorAge := by
  unfold passes Member.OldOrDisabled
  rw [hany]
  cases m.age with
  | none => simp
  | some age => simp

end BenefitScreen
