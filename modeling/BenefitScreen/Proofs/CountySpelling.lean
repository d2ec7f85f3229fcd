import BenefitScreen.IncomeLimit.Hud
import BenefitScreen.Program.ChildCare
import BenefitScreen.Proofs.CountySheet
import Mathlib.Data.List.DropRight

/-!
# Spellings of a county

A county is looked up under its normalized name, in the sheet, in the list of a state and among the
counties with rates of their own, each time up to the case of ASCII letters. What is found hangs
on the folded characters of that name alone, and these are the same however the county is spelled.
-/

namespace BenefitScreen

namespace Text

/-- The characters of a text, its ASCII letters in lower case. -/
def folded (s : String) : List Char := s.toList.map fold

/-- The text has a character that is not blank. -/
def Filled (s : String) : Prop := ∃ c ∈ s.toList, isBlank c = false

/-- The character is the other one or the same ASCII letter in another case. -/
def Recased (c d : Char) : Prop := d = c ∨ d = c.toLower ∨ d = c.toUpper

lemma folded_append (s t : String) : folded (s ++ t) = folded s ++ folded t := by
  rw [folded, String.toList_append, List.map_append, folded, folded]

section Fold

lemma fold_of_not_ascii {c : Char} (h : ¬c.toNat < 128) : fold c = c := by
  refine dif_neg ?_
  rintro ⟨-, hlast⟩
  have : c.toNat ≤ 90 := hlast
  omega

lemma toUpper_of_not_ascii {c : Char} (h : ¬c.toNat < 128) : c.toUpper = c := by
  refine dif_neg ?_
  rintro ⟨-, hlast⟩
  have : c.toNat ≤ 122 := hlast
  omega

/-- What holds of the first 128 characters holds of every character among them. -/
lemma of_ascii {p : Char → Prop} (h : ∀ n : Fin 128, p (Char.ofNat n)) {c : Char}
    (hc : c.toNat < 128) : p c := by
  simpa using h ⟨c.toNat, hc⟩

lemma isBlank_fold (c : Char) : isBlank (fold c) = isBlank c := by
  by_cases hascii : c.toNat < 128
  · exact of_ascii (p := fun c => isBlank (fold c) = isBlank c) (by decide +kernel) hascii
  · rw [fold_of_not_ascii hascii]

lemma fold_eq_of_recased {c d : Char} (h : Recased c d) : fold d = fold c := by
  by_cases hascii : c.toNat < 128
  · have hlower : fold c.toLower = fold c :=
      of_ascii (p := fun c => fold c.toLower = fold c) (by decide +kernel) hascii
    have hupper : fold c.toUpper = fold c :=
      of_ascii (p := fun c => fold c.toUpper = fold c) (by decide +kernel) hascii
    rcases h with rfl | rfl | rfl
    exacts [rfl, hlower, hupper]
  · have hlower : c.toLower = c := fold_of_not_ascii hascii
    rw [Recased, hlower, toUpper_of_not_ascii hascii, or_self, or_self] at h
    rw [h]

lemma folded_eq_of_recased {s t : String} (h : List.Forall₂ Recased s.toList t.toList) :
    folded t = folded s := by
  unfold folded
  generalize s.toList = cs, t.toList = ds at h
  induction h with
  | nil => rfl
  | cons hchar _ ih => rw [List.map_cons, List.map_cons, ih, fold_eq_of_recased hchar]

end Fold

section Trim

variable {cs before after : List Char}

lemma trimChars_eq (cs : List Char) :
    trimChars cs = (cs.dropWhile isBlank).rdropWhile isBlank := rfl

lemma trimChars_map_fold (cs : List Char) : trimChars (cs.map fold) = (trimChars cs).map fold := by
  have hblank : isBlank ∘ fold = isBlank := funext isBlank_fold
  unfold trimChars
  rw [List.dropWhile_map, hblank, ← List.map_reverse, List.dropWhile_map, hblank,
    ← List.map_reverse]

lemma folded_trim (s : String) : folded (trim s) = trimChars (folded s) := by
  rw [folded, trim, String.toList_ofList, folded, trimChars_map_fold]

lemma rdropWhile_append_of_blank (h : ∀ c ∈ after, isBlank c = true) :
    (cs ++ after).rdropWhile isBlank = cs.rdropWhile isBlank := by
  rw [List.rdropWhile, List.reverse_append, List.dropWhile_append_of_pos, List.rdropWhile]
  simpa using h

lemma trimChars_padded (hbefore : ∀ c ∈ before, isBlank c = true)
    (hafter : ∀ c ∈ after, isBlank c = true) :
    trimChars (before ++ cs ++ after) = trimChars cs := by
  rw [trimChars_eq, List.append_assoc, List.dropWhile_append_of_pos hbefore, List.dropWhile_append]
  split
  · -- Nothing but blanks: what follows is dropped as well.
    rename_i hempty
    rw [trimChars_eq, List.isEmpty_iff.mp hempty, List.dropWhile_eq_nil_iff.mpr hafter]
  · rw [rdropWhile_append_of_blank hafter, trimChars_eq]

lemma dropWhile_trimChars (cs : List Char) : (trimChars cs).dropWhile isBlank = trimChars cs := by
  rw [List.dropWhile_eq_self_iff]
  intro hpositive
  have hstart : trimChars cs <+: cs.dropWhile isBlank := List.rdropWhile_prefix _ _
  rw [hstart.getElem hpositive]
  exact List.dropWhile_get_zero_not _ _ _

lemma trimChars_trimChars (cs : List Char) : trimChars (trimChars cs) = trimChars cs := by
  rw [trimChars_eq (trimChars cs), dropWhile_trimChars]
  exact List.rdropWhile_idempotent _ _

/-- What is added to a trimmed text and does not end in a blank stays. -/
lemma trimChars_trimChars_append {word : List Char} {last : Char} (hfilled : trimChars cs ≠ [])
    (hlast : isBlank last = false) :
    trimChars (trimChars cs ++ (word ++ [last])) = trimChars cs ++ (word ++ [last]) := by
  rw [trimChars_eq (_ ++ _), List.dropWhile_append, dropWhile_trimChars, if_neg (by simpa),
    ← List.append_assoc, List.rdropWhile_concat_neg _ _ _ (by simp [hlast])]

lemma filled_iff {s : String} : Filled s ↔ trimChars s.toList ≠ [] := by
  simp [Filled, trimChars_eq_nil]

lemma filled_congr {s t : String} (h : folded (trim t) = folded (trim s)) (hs : Filled s) :
    Filled t := by
  have hlength : (trim t).toList.length = (trim s).toList.length := by
    simpa only [folded, List.length_map] using congrArg List.length h
  rw [filled_iff, ← List.length_pos_iff] at hs ⊢
  rw [trim, trim, String.toList_ofList, String.toList_ofList] at hlength
  rwa [hlength]

end Trim

lemma sameLetters_iff {s t : String} : sameLetters s t = true ↔ folded s = folded t := by
  rw [sameLetters, beq_iff_eq, folded, folded]

lemma sameLetters_congr {s t : String} (h : folded s = folded t) (u : String) :
    sameLetters u s = sameLetters u t := by
  rw [Bool.eq_iff_iff, sameLetters_iff, sameLetters_iff, h]

lemma endsInLetters_iff {s ending : String} :
    endsInLetters s ending = true ↔ folded ending <:+ folded s :=
  List.isSuffixOf_iff_suffix

end Text

open Text

variable {county other : String}

section Normalized

lemma normalizeCounty_eq (county : String) :
    normalizeCounty county =
      if endsInLetters (trim county) "county" then trim county else trim county ++ " County" := rfl

lemma normalizeCounty_congr (h : folded (trim other) = folded (trim county)) :
    folded (normalizeCounty other) = folded (normalizeCounty county) := by
  have hword : endsInLetters (trim other) "county" = endsInLetters (trim county) "county" := by
    rw [Bool.eq_iff_iff, endsInLetters_iff, endsInLetters_iff, h]
  rw [normalizeCounty_eq, normalizeCounty_eq, hword]
  split
  · exact h
  · rw [folded_append, folded_append, h]

lemma endsInLetters_normalizeCounty (county : String) :
    endsInLetters (normalizeCounty county) "county" = true := by
  rw [normalizeCounty_eq]
  split
  · assumption
  · rw [endsInLetters_iff, folded_append]
    exact List.IsSuffix.trans (by decide) (List.suffix_append _ _)

lemma trim_normalizeCounty (h : Filled county) :
    trim (normalizeCounty county) = normalizeCounty county := by
  have hname : (trim county).toList = trimChars county.toList := String.toList_ofList
  apply String.toList_injective
  rw [trim, String.toList_ofList, normalizeCounty_eq]
  split
  · rw [hname, trimChars_trimChars]
  · have hword : " County".toList = " Count".toList ++ ['y'] := by decide
    rw [String.toList_append, hname, hword]
    exact trimChars_trimChars_append (filled_iff.mp h) (by decide)

theorem normalizeCounty_normalizeCounty (h : Filled county) :
    normalizeCounty (normalizeCounty county) = normalizeCounty county := by
  rw [normalizeCounty, trim_normalizeCounty h, if_pos (endsInLetters_normalizeCounty county)]

/-- The name of a blank text starts with a blank, which goes the second time. -/
example : normalizeCounty (normalizeCounty " ") ≠ normalizeCounty " " := by decide

lemma filled_normalizeCounty (county : String) : Filled (normalizeCounty county) := by
  have hword := endsInLetters_iff.mp (endsInLetters_normalizeCounty county)
  have hmem : 'y' ∈ folded (normalizeCounty county) := hword.subset (by decide)
  obtain ⟨c, hc, hfold⟩ := List.mem_map.mp hmem
  refine ⟨c, hc, ?_⟩
  rw [← isBlank_fold, hfold]
  decide

end Normalized

/-- The text spells the county with blanks around it, with letters in another case or with the
word at its end, in any order and any number of times. -/
inductive Respelling (county : String) : String → Prop
  | same : Respelling county county
  | padded {s t before after : String} (spelled : Respelling county s)
      (text : t = before ++ s ++ after) (blankBefore : ∀ c ∈ before.toList, isBlank c = true)
      (blankAfter : ∀ c ∈ after.toList, isBlank c = true) : Respelling county t
  | recased {s t : String} (spelled : Respelling county s)
      (letters : List.Forall₂ Recased s.toList t.toList) : Respelling county t
  | normalized {s : String} (spelled : Respelling county s) :
      Respelling county (normalizeCounty s)

namespace Respelling

/-- What a spelling keeps. -/
lemma keeps (h : Respelling county other) (hfilled : Filled county) :
    Filled other ∧ folded (normalizeCounty other) = folded (normalizeCounty county) := by
  have htrimmed : ∀ {s t : String}, folded (trim t) = folded (trim s) →
      Filled s ∧ folded (normalizeCounty s) = folded (normalizeCounty county) →
      Filled t ∧ folded (normalizeCounty t) = folded (normalizeCounty county) := by
    intro s t htrim ⟨hs, hsame⟩
    exact ⟨filled_congr htrim hs, (normalizeCounty_congr htrim).trans hsame⟩
  -- The first three leave the trimmed and folded characters as they are, the last the name itself.
  induction h with
  | same => exact ⟨hfilled, rfl⟩
  | padded _ text blankBefore blankAfter ih =>
    refine htrimmed ?_ ih
    rw [text, trim, trim, String.toList_append, String.toList_append,
      trimChars_padded blankBefore blankAfter]
  | recased _ letters ih =>
    refine htrimmed ?_ ih
    rw [folded_trim, folded_trim, folded_eq_of_recased letters]
  | normalized _ ih =>
    refine ⟨filled_normalizeCounty _, ?_⟩
    rw [normalizeCounty_normalizeCounty ih.1]
    exact ih.2

end Respelling

/-- The two texts are one county wherever a county is looked up: in a sheet, in the list of a state
and among the counties with rates of their own. -/
structure KnownAlike (county other : String) : Prop where
  sheet : ∀ (sheet : CountyTable) (state : String) (size : UInt64),
    (sheet.lookup other state size).toOption = (sheet.lookup county state size).toOption
  entity : ∀ (counties : List HudCounty) (state : String),
    (Hud.countyCode? counties other state).toOption =
      (Hud.countyCode? counties county state).toOption
  rate : ∀ months : UInt32,
    (ChildCare.ratesFor (some other)).at months = (ChildCare.ratesFor (some county)).at months

lemma knownAlike_of_folded (h : folded (normalizeCounty other) = folded (normalizeCounty county)) :
    KnownAlike county other where
  sheet := by
    intro sheet state size
    unfold CountyTable.lookup CountyTable.row?
    generalize normalizeCounty other = name, normalizeCounty county = name' at h ⊢
    simp only [sameLetters_congr h]
    split
    · rfl
    · -- The failures name the county as it was spelled and differ in nothing else.
      cases (sheet.rows.entries.find? fun e => sameLetters e.1 name').map (·.2) with
      | none => rfl
      | some amounts =>
        dsimp only
        split
        · rfl
        · cases amounts[size.toNat - 1] <;> rfl
  entity := by
    intro counties state
    unfold Hud.countyCode?
    generalize normalizeCounty other = name, normalizeCounty county = name' at h ⊢
    simp only [sameLetters_congr h]
    split
    · rfl
    · cases counties.find? fun c => sameLetters c.name name' <;> rfl
  rate := by
    intro months
    unfold ChildCare.ratesFor ChildCare.isListed
    simp only [sameLetters_congr h]

/-- The normalized name is final, and however the county is spelled, it is known alike. -/
theorem knownAlike_of_respelling (h : Filled county) :
    normalizeCounty (normalizeCounty county) = normalizeCounty county ∧
      ∀ other, Respelling county other → KnownAlike county other :=
  ⟨normalizeCounty_normalizeCounty h, fun _ hspelled => knownAlike_of_folded (hspelled.keeps h).2⟩

/-- A county with rates of its own, with the word at its end and then in other letters and between
blanks. -/
theorem dekalb_knownAlike :
    Filled "DeKalb" ∧ Respelling "DeKalb" "\u3000DEKALB county " ∧
      normalizeCounty (normalizeCounty "DeKalb") = "DeKalb County" ∧
      (ChildCare.ratesFor (some "\u3000DEKALB county ")).at 12 = monthly 1474 := by
  have hfilled : Filled "DeKalb" := ⟨'D', by decide, by decide⟩
  have hrecased : List.Forall₂ Recased "DeKalb County".toList "DEKALB county".toList := by
    unfold Recased
    decide +kernel
  have hpadded : "\u3000DEKALB county " = "\u3000" ++ "DEKALB county" ++ " " := by decide +kernel
  have hbefore : ∀ c ∈ "\u3000".toList, isBlank c = true := List.all_eq_true.mp (by decide +kernel)
  have hafter : ∀ c ∈ " ".toList, isBlank c = true := List.all_eq_true.mp (by decide +kernel)
  have hspelled : Respelling "DeKalb" "\u3000DEKALB county " :=
    .padded (.recased (.normalized .same) hrecased) hpadded hbefore hafter
  have hrate : (ChildCare.ratesFor (some "DeKalb")).at 12 = monthly 1474 := by decide +kernel
  obtain ⟨hfinal, halike⟩ := knownAlike_of_respelling hfilled
  exact ⟨hfilled, hspelled, hfinal.trans (by decide), ((halike _ hspelled).rate 12).trans hrate⟩

end BenefitScreen
