import BenefitScreen.Proofs.DocumentUnits

/-!
When there is no document about a household: members who share an identifier do not agree on an
input that is written for people.
-/

namespace BenefitScreen

/-- A place among the members of a set is one among all values of the type. -/
lemma EnumSet.exists_split {α : Type} [DecidableEq α] [Enumerated α] {s : EnumSet α}
    {before after : List α} {a : α} (hsplit : s.members = before ++ a :: after) :
    ∃ first rest, (Enumerated.all : List α) = first ++ a :: rest ∧
      ∀ b ∈ first, b ∈ s.members → b ∈ before := by
  have hall := s.ordered.symm.trans hsplit
  obtain ⟨first, others, hfirst, hbefore, hothers⟩ := List.filter_eq_append_iff.mp hall
  obtain ⟨skipped, rest, rfl, hskipped, _, _⟩ := List.filter_eq_cons_iff.mp hothers
  refine ⟨first ++ skipped, rest, by rw [hfirst, List.append_assoc], fun b hb hmem => ?_⟩
  rcases List.mem_append.mp hb with hb | hb
  · rw [← hbefore]
    exact List.mem_filter.mpr ⟨hb, decide_eq_true hmem⟩
  · exact absurd (decide_eq_true hmem) (hskipped b hb)

namespace Simulation.Document

open Fallible Variables

variable {h : Household} {t : TaxUnits} {specs : List Variables} {period : String} {i : Input}

/-- The first of the person-level inputs that some program needs and on which members do not
agree. -/
def FirstContradicted (h : Household) (t : TaxUnits) (specs : List Variables) (i : Input) : Prop :=
  InputsAt specs .person i ∧ Contradicts h t i ∧ ∃ before after,
    (Enumerated.all : List Input) = before ++ i :: after ∧
      ∀ j ∈ before, InputsAt specs .person j → ¬Contradicts h t j

lemma FirstToDiffer.contradicts {m : Member} (hm : FirstToDiffer h t i m) : Contradicts h t i := by
  obtain ⟨before, after, hsplit, _, hdiffers⟩ := hm
  exact hdiffers.contradicts (hsplit ▸ List.mem_append_right _ List.mem_cons_self)

/-- Where there is no document, and no amount outgrew its type, members contradict each other. -/
lemma firstContradicted_of_build {e : EngineError}
    (hbuild : build h specs period = .error e) (hfit : ¬e.IsOverflow) :
    ∃ t, TaxUnits.classify h = .ok t ∧ ∃ i m, FirstContradicted h t specs i ∧
      FirstToDiffer h t i m ∧ e = .conflictingValues "people" m.id.text i.field := by
  obtain ⟨t, hclassify, before, i, after, hsplit, hagree, hscope, m, hm, he⟩ :=
    (conflict_of_build hbuild).resolve_left hfit
  have hi : i ∈ (allInputs specs).members := hsplit ▸ List.mem_append_right _ List.mem_cons_self
  obtain ⟨first, rest, hall, hfirst⟩ := EnumSet.exists_split hsplit
  refine ⟨t, hclassify, i, m,
    ⟨⟨hscope, mem_allInputs.mp hi⟩, hm.contradicts, first, rest, hall, ?_⟩,
    hm, he⟩
  intro j hj hneeded
  exact hagree j (hfirst j hj (mem_allInputs.mpr hneeded.2)) hneeded.1

/-- Where there is a document, members with one identifier agree on what it says of people. -/
lemma not_contradicts_of_build {d : Document} (hbuild : build h specs period = .ok d)
    (hclassify : TaxUnits.classify h = .ok t) (hi : InputsAt specs .person i) :
    ¬Contradicts h t i := by
  obtain ⟨t', hclassify', hd⟩ := completed_of_build hbuild
  obtain rfl : t = t' := Except.ok.inj (hclassify.symm.trans hclassify')
  exact hd.agree i (mem_allInputs.mpr hi.2) hi.1

/-- There is no document exactly where two members share an identifier and some input for people has
different values for them. The first such input is reported, for the first member who differs from
the first one with the same identifier. Programs that have documents of their own have one
together. -/
theorem build_fails_iff_contradicts (h : Household) (specs : List Variables) (period : String)
    (hfit : ∀ o, build h specs period ≠ .error (.arithmetic o)) :
    ∃ t, TaxUnits.classify h = .ok t ∧
      ((∃ e, build h specs period = .error e) ↔
        ∃ i, InputsAt specs .person i ∧ Contradicts h t i) ∧
      (∀ e, build h specs period = .error e → ∃ i m, FirstContradicted h t specs i ∧
        FirstToDiffer h t i m ∧ e = .conflictingValues "people" m.id.text i.field) ∧
      ((∀ s ∈ specs, ∃ d, build h [s] period = .ok d) → ∃ d, build h specs period = .ok d) := by
  cases hbuild : build h specs period with
  | ok d =>
    obtain ⟨t, hclassify, _⟩ := completed_of_build hbuild
    refine ⟨t, hclassify, ⟨?_, ?_⟩, ?_, fun _ => ⟨d, rfl⟩⟩
    · rintro ⟨e, he⟩
      cases he
    · rintro ⟨i, hi, hcontradicts⟩
      exact absurd hcontradicts (not_contradicts_of_build hbuild hclassify hi)
    · intro e he
      cases he
  | error e =>
    have hnot : ¬e.IsOverflow := by
      rintro ⟨o, rfl⟩
      exact hfit o hbuild
    obtain ⟨t, hclassify, i, m, hfirst, hm, he⟩ := firstContradicted_of_build hbuild hnot
    have ⟨hi, hcontradicts, _⟩ := hfirst
    refine ⟨t, hclassify, ⟨fun _ => ⟨i, hi, hcontradicts⟩, fun _ => ⟨e, rfl⟩⟩, ?_, fun hown => ?_⟩
    · intro e' he'
      exact ⟨i, m, hfirst, hm, Except.error.inj he' ▸ he⟩
    · obtain ⟨hscope, s, hs, his⟩ := hi
      obtain ⟨d, hd⟩ := hown s hs
      have hi' : InputsAt [s] .person i := ⟨hscope, s, List.mem_singleton_self s, his⟩
      exact absurd hcontradicts (not_contradicts_of_build hd hclassify hi')

def namesakes : Household := { TaxUnits.sharedFlat with
  members := [
    TaxUnits.lodger 1 .headOfHousehold (some 40) [],
    TaxUnits.lodger 2 .child (some 10) [],
    TaxUnits.lodger 2 .child (some 12) []] }

/-- The namesakes have no document that mentions their age. -/
theorem namesakes_conflict :
    ∃ t i m, TaxUnits.classify namesakes = .ok t ∧
      FirstContradicted namesakes t [foodAndHealth] i ∧ FirstToDiffer namesakes t i m ∧
      i.field = "age" ∧ m.id.text = "2" ∧
      build namesakes [foodAndHealth] "2025" =
        .error (.conflictingValues "people" m.id.text i.field) := by
  have hscreen : (build namesakes [foodAndHealth] "2025").map (fun _ => ()) =
      .error (.conflictingValues "people" "2" "age") := by
    decide +kernel
  have herror := eq_error_of_map hscreen
  have hfit : ∀ o, build namesakes [foodAndHealth] "2025" ≠ .error (.arithmetic o) := by
    intro o
    rw [herror]
    exact fun h => by cases h
  obtain ⟨t, hclassify, _, hall, _⟩ :=
    build_fails_iff_contradicts namesakes [foodAndHealth] "2025" hfit
  obtain ⟨i, m, hfirst, hm, he⟩ := hall _ herror
  obtain ⟨_, hid, hfield⟩ := EngineError.conflictingValues.inj he
  exact ⟨t, i, m, hclassify, hfirst, hm, hfield.symm, hid.symm, herror.trans (by rw [he])⟩

end Simulation.Document

end BenefitScreen
