import BenefitScreen.IncomeLimit.County
import BenefitScreen.Proofs.Lookup
import Mathlib.Data.List.TakeWhile
import Mathlib.Data.String.Basic

/-!
# Answers of the county sheet

What the table of a sheet answers, said of the records of the sheet: of the names that match the
county the first in the order of bytes counts, and of the records with that name the last. The
answer is the amount for the size in that record, or the one failure that fits.
-/

namespace BenefitScreen

namespace Text

/-- The UTF-8 form of a text. -/
def bytes (s : String) : List UInt8 := s.toUTF8.data.toList

lemma bytes_eq (s : String) : bytes s = s.toList.flatMap String.utf8EncodeChar := by
  unfold bytes
  rw [String.toUTF8, ← String.utf8Encode_toList, List.utf8Encode]
  simp

/-- The encodings of two characters differ first where the later character has the larger byte. -/
lemma encodeChar_lt {c d : Char} (h : c < d) (s t : List UInt8) :
    String.utf8EncodeChar c ++ s < String.utf8EncodeChar d ++ t := by
  have hlt : c.val.toNat < d.val.toNat := h
  have hmax : d.val.toNat < 0x110000 := by
    rcases d.valid with h | h
    · exact Nat.lt_trans h (by decide)
    · exact h.2
  have hsecond : ∀ n : Nat, n / 4096 = n / 64 / 64 := by omega
  have hthird : ∀ n : Nat, n / 262144 = n / 64 / 64 / 64 := by omega
  unfold String.utf8EncodeChar
  generalize c.val.toNat = v at *
  generalize d.val.toNat = w at *
  dsimp only
  simp only [hsecond, hthird]
  -- One case for each pair of lengths, from one byte to four.
  split_ifs <;>
    simp only [List.cons_append, List.nil_append, List.cons_lt_cons_iff, UInt8.lt_iff_toNat_lt,
      ← UInt8.toNat_inj, UInt8.toNat_ofNat'] <;>
    omega

lemma encode_lt : ∀ {cs ds : List Char}, cs < ds →
    cs.flatMap String.utf8EncodeChar < ds.flatMap String.utf8EncodeChar
  | _, [], h => absurd h (List.not_lt_nil _)
  | [], d :: ds, _ => by
    have hsize : 0 < (String.utf8EncodeChar d).length := by
      rw [String.length_utf8EncodeChar]
      exact d.utf8Size_pos
    obtain ⟨b, bs, hb⟩ := List.exists_cons_of_length_pos hsize
    rw [List.flatMap_cons, hb]
    exact List.nil_lt_cons _ _
  | c :: cs, d :: ds, h => by
    rw [List.flatMap_cons, List.flatMap_cons]
    rcases List.cons_lt_cons_iff.mp h with hchar | ⟨rfl, hrest⟩
    · exact encodeChar_lt hchar _ _
    · exact List.append_left_lt (encode_lt hrest)

/-- Texts are in the order of their bytes. -/
theorem bytes_le_iff {s t : String} : bytes s ≤ bytes t ↔ s ≤ t := by
  have hlt : ∀ {s t : String}, s < t → bytes s < bytes t := by
    intro s t h
    rw [bytes_eq, bytes_eq]
    exact encode_lt (String.lt_iff_toList_lt.mp h)
  rw [← List.not_lt, ← String.not_lt, not_iff_not]
  refine ⟨fun h => ?_, hlt⟩
  by_contra hle
  rw [String.not_lt] at hle
  by_cases heq : s = t
  · rw [heq] at h
    exact List.lt_irrefl _ h
  · have hless : s < t := by
      by_contra hge
      exact heq (String.le_antisymm hle (String.not_lt.mp hge))
    exact List.lt_asymm h (hlt hless)

lemma trimChars_eq_nil {cs : List Char} : trimChars cs = [] ↔ ∀ c ∈ cs, isBlank c = true := by
  unfold trimChars
  rw [List.reverse_eq_nil_iff, List.dropWhile_eq_nil_iff]
  simp only [List.mem_reverse]
  constructor
  · intro h
    rw [← List.dropWhile_eq_nil_iff]
    by_contra hrest
    have hblank := h _ (List.head_mem hrest)
    rw [List.head_dropWhile_not isBlank] at hblank
    cases hblank
  · intro h c hc
    exact h c ((List.dropWhile_suffix isBlank).subset hc)

end Text

/-- The name is that of the county, whatever the case of its ASCII letters. -/
def SameCounty (county name : String) : Prop :=
  Text.sameLetters name (normalizeCounty county) = true

namespace CountyTable

variable {records : List (List String)} {record cells : List String} {county name : String}

/-- The record has a county in its first cell, whose name is `name`, and amounts after it. -/
def Names (record : List String) (name : String) (cells : List String) : Prop :=
  ∃ county, record = county :: cells ∧ (∃ c ∈ county.toList, Text.isBlank c = false) ∧
    name = normalizeCounty county

/-- Of the records with a name the last one has these amounts. -/
def LastNamed (records : List (List String)) (name : String) (cells : List String) : Prop :=
  ∃ before record after, records = before ++ record :: after ∧ Names record name cells ∧
    ∀ later ∈ after, ∀ cells', ¬Names later name cells'

/-- Where the limits of a county stand: in the last record with the first of the names that match,
in the order of bytes. -/
structure Row (records : List (List String)) (county name : String) (cells : List String) :
    Prop where
  matching : SameCounty county name
  first : ∀ record ∈ records, ∀ other cells', Names record other cells' → SameCounty county other →
    Text.bytes name ≤ Text.bytes other
  last : LastNamed records name cells

/-- What is left of a cell without outer blanks, dollar signs and commas. -/
def digits (cell : String) : List Char :=
  (Text.trimChars cell.toList).filter fun c => c != '$' && c != ','

/-- What is left of the cell is the text of an amount. -/
def Reads (cell : String) (amount : Decimal) : Prop :=
  Decimal.parse? (String.ofList (digits cell)) = some amount

/-- Nothing is to be read in the cell. -/
def IsMissing (cell : String) : Prop :=
  (∀ c ∈ cell.toList, Text.isBlank c = true) ∨ ∀ amount, ¬Reads cell amount

lemma amount?_eq_some {cell : String} {amount : Decimal} :
    amount? cell = some amount ↔ Reads cell amount := by
  have hnothing : Decimal.parse? (String.ofList []) = none := rfl
  have hcell : amount? cell =
      if (digits cell).isEmpty then none else Decimal.parse? (String.ofList (digits cell)) := rfl
  rw [hcell, Reads]
  split
  · rename_i hdigits
    rw [List.isEmpty_iff.mp hdigits, hnothing]
  · exact Iff.rfl

lemma amount?_eq_none {cell : String} : amount? cell = none ↔ IsMissing cell := by
  rw [Option.eq_none_iff_forall_ne_some]
  simp only [ne_eq, amount?_eq_some]
  refine ⟨.inr, fun h => h.elim (fun hblank amount hreads => ?_) id⟩
  rw [Reads, digits, Text.trimChars_eq_nil.mpr hblank] at hreads
  cases hreads

section Rows

/-- What a record adds to the table. -/
def rowOf? : List String → Option (String × List (Option Decimal))
  | [] => none
  | county :: cells =>
    if (Text.trimChars county.toList).isEmpty then none
    else some (normalizeCounty county, cells.map amount?)

lemma rowOf?_eq_some {amounts : List (Option Decimal)} :
    rowOf? record = some (name, amounts) ↔
      ∃ cells, Names record name cells ∧ amounts = cells.map amount? := by
  unfold Names
  cases record with
  | nil => simp [rowOf?]
  | cons county cells =>
    simp only [rowOf?, Option.ite_none_left_eq_some, List.isEmpty_iff, Text.trimChars_eq_nil,
      not_forall, Bool.not_eq_true, exists_prop, Option.some.injEq, Prod.mk.injEq]
    constructor
    · rintro ⟨hfilled, rfl, rfl⟩
      exact ⟨cells, ⟨county, rfl, hfilled, rfl⟩, rfl⟩
    · rintro ⟨_, ⟨_, heq, hfilled, hname⟩, hamounts⟩
      obtain ⟨rfl, rfl⟩ := List.cons.inj heq
      exact ⟨hfilled, hname.symm, hamounts.symm⟩

/-- The table holds the amounts of the last record with a name. -/
lemma get?_ofRecords {amounts : List (Option Decimal)} :
    (ofRecords records).rows.get? name = some amounts ↔
      ∃ cells, LastNamed records name cells ∧ amounts = cells.map amount? := by
  change (Table.ofList (records.filterMap rowOf?)).get? name = _ ↔ _
  rw [Table.ofList, Table.get?_foldl_insert, Table.get?_empty, Option.or_none,
    Option.map_eq_some_iff]
  simp only [List.find?_eq_some_iff_append, beq_iff_eq, Bool.not_eq_true', beq_eq_false_iff_ne]
  constructor
  · rintro ⟨⟨_, _⟩, ⟨rfl, after, before, hsplit, hafter⟩, rfl⟩
    rw [List.reverse_eq_append_iff, List.reverse_cons, List.append_assoc,
      List.filterMap_eq_append_iff] at hsplit
    obtain ⟨earlier, rest, rfl, -, hrest⟩ := hsplit
    obtain ⟨skipped, record, later, rfl, -, hrecord, hlater⟩ := List.filterMap_eq_cons_iff.mp hrest
    obtain ⟨cells, hnames, hamounts⟩ := rowOf?_eq_some.mp hrecord
    refine ⟨cells, ⟨earlier ++ skipped, record, later, by simp, hnames, ?_⟩, hamounts⟩
    intro record' hrecord' cells' hnames'
    have hentry : rowOf? record' = some (_, cells'.map amount?) :=
      rowOf?_eq_some.mpr ⟨cells', hnames', rfl⟩
    have hmem := List.mem_filterMap.mpr ⟨record', hrecord', hentry⟩
    rw [hlater] at hmem
    exact hafter _ (List.mem_reverse.mp hmem) rfl
  · rintro ⟨cells, ⟨before, record, after, rfl, hnames, hlast⟩, rfl⟩
    have hentry : rowOf? record = some (name, cells.map amount?) :=
      rowOf?_eq_some.mpr ⟨cells, hnames, rfl⟩
    refine ⟨(name, cells.map amount?), ⟨rfl, (after.filterMap rowOf?).reverse,
      (before.filterMap rowOf?).reverse, ?_, ?_⟩, rfl⟩
    · rw [List.filterMap_append, List.filterMap_cons_some hentry]
      simp
    · rintro ⟨_, amounts⟩ he rfl
      obtain ⟨later, hlater, he⟩ := List.mem_filterMap.mp (List.mem_reverse.mp he)
      obtain ⟨cells', hnames', -⟩ := rowOf?_eq_some.mp he
      exact hlast later hlater cells' hnames'

lemma mem_keys_ofRecords :
    name ∈ (ofRecords records).rows.keys ↔
      ∃ record ∈ records, ∃ cells, Names record name cells := by
  change name ∈ (Table.ofList (records.filterMap rowOf?)).keys ↔ _
  simp only [Table.mem_keys_ofList, List.mem_map, List.mem_filterMap]
  constructor
  · rintro ⟨⟨_, amounts⟩, ⟨record, hrecord, hentry⟩, rfl⟩
    obtain ⟨cells, hnames, -⟩ := rowOf?_eq_some.mp hentry
    exact ⟨record, hrecord, cells, hnames⟩
  · rintro ⟨record, hrecord, cells, hnames⟩
    exact ⟨(name, cells.map amount?), ⟨record, hrecord, rowOf?_eq_some.mpr ⟨cells, hnames, rfl⟩⟩,
      rfl⟩

lemma isEmpty_ofRecords :
    (ofRecords records).isEmpty = true ↔
      ∀ record ∈ records, ∀ name cells, ¬Names record name cells := by
  have hkeys : (ofRecords records).isEmpty = true ↔ (ofRecords records).rows.keys = [] := by
    rw [isEmpty, Table.isEmpty, Table.keys, List.isEmpty_iff, List.map_eq_nil_iff]
  rw [hkeys, List.eq_nil_iff_forall_not_mem]
  simp only [mem_keys_ofRecords, not_exists, not_and]
  exact ⟨fun h record hrecord name => h name record hrecord,
    fun h name record hrecord => h record hrecord name⟩

/-- The scan for a county stops at the row of its first name. -/
lemma row?_eq_some {amounts : List (Option Decimal)} :
    (ofRecords records).row? (normalizeCounty county) = some amounts ↔
      ∃ name cells, Row records county name cells ∧ amounts = cells.map amount? := by
  have hscan : (ofRecords records).row? (normalizeCounty county) = some amounts ↔
      ∃ name, (ofRecords records).rows.entries.find?
        (fun e => Text.sameLetters e.1 (normalizeCounty county)) = some (name, amounts) := by
    rw [row?, Option.map_eq_some_iff]
    constructor
    · rintro ⟨⟨name, _⟩, hfind, rfl⟩
      exact ⟨name, hfind⟩
    · rintro ⟨name, hfind⟩
      exact ⟨(name, amounts), hfind, rfl⟩
  rw [hscan]
  refine exists_congr fun name => ?_
  rw [Table.find?_entries_eq_some (p := (Text.sameLetters · (normalizeCounty county))),
    get?_ofRecords]
  simp only [mem_keys_ofRecords, forall_exists_index, and_imp]
  constructor
  · rintro ⟨⟨cells, hlast, rfl⟩, hmatch, hfirst⟩
    refine ⟨cells, ⟨hmatch, fun record hrecord other cells' hnames hother => ?_, hlast⟩, rfl⟩
    exact Text.bytes_le_iff.mpr (hfirst other record hrecord cells' hnames hother)
  · rintro ⟨cells, hrow, rfl⟩
    refine ⟨⟨cells, hrow.last, rfl⟩, hrow.matching, ?_⟩
    intro other record hrecord cells' hnames hother
    exact Text.bytes_le_iff.mp (hrow.first record hrecord other cells' hnames hother)

lemma row?_eq_none :
    (ofRecords records).row? (normalizeCounty county) = none ↔
      ∀ record ∈ records, ∀ name cells, Names record name cells → ¬SameCounty county name := by
  have hkeys : (ofRecords records).row? (normalizeCounty county) = none ↔
      ∀ name ∈ (ofRecords records).rows.keys, ¬SameCounty county name := by
    rw [row?, Option.map_eq_none_iff, List.find?_eq_none, Table.keys]
    simp only [List.mem_map, forall_exists_index, and_imp, forall_apply_eq_imp_iff₂]
    rfl
  rw [hkeys]
  simp only [mem_keys_ofRecords, forall_exists_index, and_imp]
  exact ⟨fun h record hrecord name cells => h name record hrecord cells,
    fun h name record hrecord cells => h record hrecord name cells⟩

end Rows

/-- What a sheet answers for a household of `size` in a county. -/
inductive Answers (records : List (List String)) (county state : String) (size : UInt64) :
    LimitAnswer → Prop
  /-- No record names a county. -/
  | notLoaded (nameless : ∀ record ∈ records, ∀ name cells, ¬Names record name cells) :
      Answers records county state size
        (.error (.unavailable ("county income limits for " ++ state ++ " are not loaded")))
  /-- Records name counties, none of them this one. -/
  | notFound (named : ∃ record ∈ records, ∃ name cells, Names record name cells)
      (unmatched : ∀ record ∈ records, ∀ name cells, Names record name cells →
        ¬SameCounty county name) :
      Answers records county state size (.error (.countyNotFound (normalizeCounty county) state))
  /-- The row of the county has no cell for the size. -/
  | outOfRange {name : String} {cells : List String} (row : Row records county name cells)
      (outside : size = 0 ∨ cells.length < size.toNat) :
      Answers records county state size (.error (.sizeOutOfRange size 1 (.ofNat cells.length)))
  /-- Nothing is to be read in the cell for the size. -/
  | missing {name cell : String} {cells : List String} (row : Row records county name cells)
      (positive : size ≠ 0) (sized : cells[size.toNat - 1]? = some cell)
      (unread : IsMissing cell) :
      Answers records county state size (.error
        (.missingValue (normalizeCounty county ++ ", household of " ++ toString size.toNat)))
  /-- The cell for the size is an amount. -/
  | found {name cell : String} {cells : List String} {amount : Decimal}
      (row : Row records county name cells) (positive : size ≠ 0)
      (sized : cells[size.toNat - 1]? = some cell) (reads : Reads cell amount) :
      Answers records county state size (.ok amount)

section Answers

variable {state : String} {size : UInt64} {answer : LimitAnswer}

lemma isEmpty_of_row (h : Row records county name cells) :
    (ofRecords records).isEmpty = false := by
  obtain ⟨before, record, after, rfl, hnames, -⟩ := h.last
  rw [← Bool.not_eq_true, isEmpty_ofRecords]
  intro hnameless
  exact hnameless record (by simp) name cells hnames

/-- The guard of the lookup, in terms of the size itself. -/
lemma outside_iff : size.toNat = 0 ∨ cells.length < size.toNat ↔
    size = 0 ∨ cells.length < size.toNat := by
  rw [← UInt64.toNat_inj]
  rfl

lemma lookup_of_outside (h : Row records county name cells)
    (houtside : size = 0 ∨ cells.length < size.toNat) :
    (ofRecords records).lookup county state size =
      .error (.sizeOutOfRange size 1 (.ofNat cells.length)) := by
  have hrow := row?_eq_some.mpr ⟨name, cells, h, rfl⟩
  simp only [lookup, isEmpty_of_row h, hrow, List.length_map, outside_iff.mpr houtside,
    Bool.false_eq_true, if_false, dif_pos]

/-- In the row of a county the answer stands in the cell for the size. -/
lemma lookup_of_cell (h : Row records county name cells) (hpositive : size ≠ 0) {cell : String}
    (hcell : cells[size.toNat - 1]? = some cell) :
    (ofRecords records).lookup county state size =
      match amount? cell with
      | none => .error
        (.missingValue (normalizeCounty county ++ ", household of " ++ toString size.toNat))
      | some amount => .ok amount := by
  have hrow := row?_eq_some.mpr ⟨name, cells, h, rfl⟩
  obtain ⟨hbound, rfl⟩ := List.getElem?_eq_some_iff.mp hcell
  have hinside : ¬(size.toNat = 0 ∨ cells.length < size.toNat) := by
    have hoff : size.toNat ≠ 0 := fun h => hpositive (UInt64.toNat_inj.mp h)
    omega
  cases hamount : amount? cells[size.toNat - 1] <;>
    simp only [lookup, isEmpty_of_row h, hrow, List.length_map, hinside, Bool.false_eq_true,
      if_false, dif_neg, not_false_eq_true, List.getElem_map, hamount]

lemma lookup_answers :
    Answers records county state size ((ofRecords records).lookup county state size) := by
  by_cases hempty : (ofRecords records).isEmpty = true
  · rw [lookup, if_pos hempty]
    exact .notLoaded (isEmpty_ofRecords.mp hempty)
  cases hrow : (ofRecords records).row? (normalizeCounty county) with
  | none =>
    simp only [lookup, hempty, hrow, Bool.false_eq_true, if_false]
    rw [isEmpty_ofRecords] at hempty
    push Not at hempty
    exact .notFound hempty (row?_eq_none.mp hrow)
  | some amounts =>
    obtain ⟨name, cells, hcells, -⟩ := row?_eq_some.mp hrow
    by_cases houtside : size = 0 ∨ cells.length < size.toNat
    · rw [lookup_of_outside hcells houtside]
      exact .outOfRange hcells houtside
    · -- The cell for the size, then what is to be read in it.
      have hinside := mt outside_iff.mp houtside
      obtain ⟨hpositive, -⟩ := not_or.mp houtside
      obtain ⟨cell, hcell⟩ : ∃ cell, cells[size.toNat - 1]? = some cell :=
        ⟨_, List.getElem?_eq_getElem (by omega)⟩
      rw [lookup_of_cell hcells hpositive hcell]
      cases hamount : amount? cell with
      | none => exact .missing hcells hpositive hcell (amount?_eq_none.mp hamount)
      | some amount => exact .found hcells hpositive hcell (amount?_eq_some.mp hamount)

lemma lookup_of_answers (h : Answers records county state size answer) :
    (ofRecords records).lookup county state size = answer := by
  cases h with
  | notLoaded nameless => rw [lookup, if_pos (isEmpty_ofRecords.mpr nameless)]
  | notFound named unmatched =>
    have hnonempty : (ofRecords records).isEmpty = false := by
      obtain ⟨record, hrecord, name, cells, hnames⟩ := named
      rw [← Bool.not_eq_true, isEmpty_ofRecords]
      intro hnameless
      exact hnameless record hrecord name cells hnames
    simp only [lookup, hnonempty, row?_eq_none.mpr unmatched, Bool.false_eq_true, if_false]
  | outOfRange row outside => exact lookup_of_outside row outside
  | missing row positive sized unread =>
    rw [lookup_of_cell row positive sized, amount?_eq_none.mpr unread]
  | found row positive sized reads =>
    rw [lookup_of_cell row positive sized, amount?_eq_some.mpr reads]

/-- A lookup answers what the sheet answers, and nothing else. -/
theorem lookup_ofRecords_eq_iff :
    (ofRecords records).lookup county state size = answer ↔
      Answers records county state size answer := by
  refine ⟨?_, lookup_of_answers⟩
  rintro rfl
  exact lookup_answers

end Answers

end CountyTable

end BenefitScreen
