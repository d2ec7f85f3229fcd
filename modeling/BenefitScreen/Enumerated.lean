/-!
Types with finitely many named values, and sets of their values.
-/

namespace BenefitScreen

/-- A type whose values are listed in order and written by distinct names. -/
class Enumerated (α : Type) [DecidableEq α] where
  all : List α
  name : α → String
  mem_all : ∀ a, a ∈ all
  names_nodup : (all.map name).Nodup

namespace Enumerated

variable {α : Type} [DecidableEq α] [Enumerated α]

theorem name_inj {a b : α} (h : name a = name b) : a = b := by
  have hn := List.pairwise_map.mp (names_nodup (α := α))
  have key : ∀ {xs : List α}, xs.Pairwise (fun a b => name a ≠ name b) →
      a ∈ xs → b ∈ xs → a = b := by
    intro xs hx
    induction xs with
    | nil => exact fun ha _ => absurd ha (by simp)
    | cons x xs ih =>
      have ⟨h1, h2⟩ := List.pairwise_cons.mp hx
      intro ha hb
      rcases List.mem_cons.mp ha with ha | ha <;> rcases List.mem_cons.mp hb with hb | hb
      · exact ha.trans hb.symm
      · exact absurd (ha ▸ h) (h1 b hb)
      · exact absurd (hb ▸ h.symm) (h1 a ha)
      · exact ih h2 ha hb
  exact key hn (mem_all a) (mem_all b)

def ofName? (s : String) : Option α := (all : List α).find? fun a => name a == s

@[simp]
theorem ofName?_name (a : α) : ofName? (name a) = some a := by
  unfold ofName?
  cases h : (all : List α).find? fun b => name b == name a with
  | none => exact absurd (List.find?_eq_none.mp h a (mem_all a)) (by simp)
  | some b =>
    have hb := List.find?_some h
    exact congrArg some (name_inj (by simpa using hb))

end Enumerated

open Enumerated

/-- A set of values, held as its list in the order of the type. -/
structure EnumSet (α : Type) [DecidableEq α] [Enumerated α] where
  members : List α
  ordered : members = (all : List α).filter fun a => a ∈ members

namespace EnumSet

variable {α : Type} [DecidableEq α] [Enumerated α]

instance : DecidableEq (EnumSet α) := fun s t =>
  if h : s.members = t.members then isTrue (by cases s; cases t; cases h; rfl)
  else isFalse fun e => h (congrArg members e)

def ofList (xs : List α) : EnumSet α :=
  ⟨(all : List α).filter fun a => a ∈ xs, by
    refine List.filter_congr fun a _ => ?_
    simp [mem_all]⟩

def empty : EnumSet α := ofList []

instance : Inhabited (EnumSet α) := ⟨empty⟩

def contains (s : EnumSet α) (a : α) : Bool := a ∈ s.members

def containsAny (s : EnumSet α) (xs : List α) : Bool := xs.any s.contains

def addAll (s : EnumSet α) (xs : List α) : EnumSet α := ofList (s.members ++ xs)

@[simp]
theorem mem_ofList (xs : List α) (a : α) : a ∈ (ofList xs).members ↔ a ∈ xs := by
  simp [ofList, mem_all]

@[simp]
theorem ofList_members (s : EnumSet α) : ofList s.members = s := by
  obtain ⟨xs, h⟩ := s
  unfold ofList
  congr 1
  exact h.symm

end EnumSet

end BenefitScreen
