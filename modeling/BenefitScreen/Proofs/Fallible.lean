import BenefitScreen.EngineError
import Mathlib.Data.List.Basic
import Mathlib.Data.List.Forall2
import Mathlib.Data.List.Induction
import Mathlib.Tactic.Common

/-!
Computations that can fail: when a chain of steps, a traversal or a fold gives a result.
-/

namespace BenefitScreen

namespace Fallible

variable {α β γ ε : Type}

lemma bind_eq_ok {x : Except ε α} {f : α → Except ε β} {b : β} :
    (x >>= f) = .ok b ↔ ∃ a, x = .ok a ∧ f a = .ok b := by
  cases x with
  | error e =>
    constructor
    · intro h
      cases h
    · rintro ⟨a, h, _⟩
      cases h
  | ok a =>
    constructor
    · intro h
      exact ⟨a, rfl, h⟩
    · rintro ⟨_, ha, h⟩
      cases ha
      exact h

lemma bind_eq_error {x : Except ε α} {f : α → Except ε β} {e : ε} :
    (x >>= f) = .error e ↔ x = .error e ∨ ∃ a, x = .ok a ∧ f a = .error e := by
  cases x with
  | error e' =>
    constructor
    · intro h
      exact .inl (congrArg Except.error (Except.error.inj h))
    · rintro (h | ⟨a, h, _⟩)
      · exact congrArg Except.error (Except.error.inj h)
      · cases h
  | ok a =>
    constructor
    · intro h
      exact .inr ⟨a, rfl, h⟩
    · rintro (h | ⟨_, ha, h⟩)
      · cases h
      · cases ha
        exact h

lemma pure_eq_ok {a b : α} : (pure a : Except ε α) = .ok b ↔ a = b :=
  ⟨fun h => Except.ok.inj h, fun h => h ▸ rfl⟩

lemma exists_ok_of_any {x : Except ε α} {p : α → Bool} (h : x.toOption.any p = true) :
    ∃ a, x = .ok a ∧ p a = true := by
  cases x with
  | error e => cases h
  | ok a => exact ⟨a, rfl, h⟩

lemma eq_error_of_map {x : Except ε α} {e : ε} (h : x.map (fun _ => ()) = .error e) :
    x = .error e := by
  cases x with
  | ok a => cases h
  | error e' => exact congrArg Except.error (Except.error.inj h)

lemma ok_bind (a : α) (f : α → Except ε β) : (Except.ok a >>= f) = f a := rfl

/-- A traversal of items that all have results has the list of these results. -/
lemma exists_mapM_of_forall {f : α → Except ε β} {R : α → β → Prop} {l : List α}
    (h : ∀ a ∈ l, ∃ b, f a = .ok b ∧ R a b) :
    ∃ bs, l.mapM f = .ok bs ∧ List.Forall₂ R l bs := by
  induction l with
  | nil => exact ⟨[], rfl, .nil⟩
  | cons a l ih =>
    obtain ⟨b, hb, hR⟩ := h a List.mem_cons_self
    obtain ⟨bs, hbs, hall⟩ := ih fun a ha => h a (List.mem_cons_of_mem _ ha)
    refine ⟨b :: bs, ?_, .cons hR hall⟩
    rw [List.mapM_cons, hb, ok_bind, hbs]
    rfl

lemma forall₂_of_mapM {f : α → Except ε β} {l : List α} {bs : List β} (h : l.mapM f = .ok bs) :
    List.Forall₂ (fun a b => f a = .ok b) l bs := by
  induction l generalizing bs with
  | nil =>
    obtain rfl := pure_eq_ok.mp h
    exact .nil
  | cons a l ih =>
    rw [List.mapM_cons] at h
    obtain ⟨b, hb, h⟩ := bind_eq_ok.mp h
    obtain ⟨rest, hrest, h⟩ := bind_eq_ok.mp h
    obtain rfl := pure_eq_ok.mp h
    exact .cons hb (ih hrest)

/-- Every partner in a pairing of two lists is the partner of some item. -/
lemma exists_of_forall₂_mem {R : α → β → Prop} {l : List α} {bs : List β}
    (h : List.Forall₂ R l bs) {b : β} (hb : b ∈ bs) : ∃ a ∈ l, R a b := by
  induction h with
  | nil => cases hb
  | cons hab _ ih =>
    rcases List.mem_cons.mp hb with rfl | hb
    · exact ⟨_, List.mem_cons_self, hab⟩
    · obtain ⟨a, ha, hR⟩ := ih hb
      exact ⟨a, List.mem_cons_of_mem _ ha, hR⟩

lemma exists_of_forall₂_getElem? {R : α → β → Prop} {l : List α} {bs : List β}
    (h : List.Forall₂ R l bs) {i : Nat} {a : α} (hi : l[i]? = some a) :
    ∃ b, bs[i]? = some b ∧ R a b := by
  induction h generalizing i with
  | nil => cases hi
  | cons hab _ ih =>
    cases i with
    | zero =>
      obtain rfl := Option.some.inj hi
      exact ⟨_, rfl, hab⟩
    | succ i => exact ih hi

lemma mapM_map_results {f : α → Except ε β} {g : β → γ} {l : List α} :
    (l.mapM fun a => (f a).map g) = (l.mapM f).map (List.map g) := by
  induction l with
  | nil => rfl
  | cons a l ih =>
    rw [List.mapM_cons, List.mapM_cons, ih]
    cases f a with
    | error e => rfl
    | ok b => cases l.mapM f <;> rfl

/-- A traversal for its checks alone succeeds when every check does. -/
lemma forM_eq_ok {f : α → Except ε Unit} {l : List α} :
    l.forM f = .ok () ↔ ∀ a ∈ l, f a = .ok () := by
  induction l with
  | nil => simp [List.forM, pure, Except.pure]
  | cons a l ih =>
    change (f a >>= fun _ => l.forM f) = _ ↔ _
    rw [bind_eq_ok, List.forall_mem_cons, ih]
    exact ⟨fun ⟨_, ha, hl⟩ => ⟨ha, hl⟩, fun ⟨ha, hl⟩ => ⟨(), ha, hl⟩⟩

lemma foldlM_cons_eq_ok {f : β → α → Except ε β} {a : α} {l : List α} {b c : β} :
    (a :: l).foldlM f b = .ok c ↔ ∃ m, f b a = .ok m ∧ l.foldlM f m = .ok c := by
  rw [List.foldlM_cons, bind_eq_ok]

/-- A fold that computes what it takes in has the result of the fold over all that is computed. -/
lemma foldlM_through_eq_ok {f : α → Except ε β} {g : γ → β → Except ε γ} {l : List α} {b c : γ} :
    l.foldlM (fun b a => f a >>= g b) b = .ok c ↔
      ∃ bs, l.mapM f = .ok bs ∧ bs.foldlM g b = .ok c := by
  induction l generalizing b with
  | nil =>
    constructor
    · intro h
      exact ⟨[], rfl, h⟩
    · rintro ⟨bs, hbs, h⟩
      obtain rfl := pure_eq_ok.mp hbs
      exact h
  | cons a l ih =>
    rw [foldlM_cons_eq_ok, List.mapM_cons]
    constructor
    · rintro ⟨m, hm, hl⟩
      obtain ⟨x, hx, hm⟩ := bind_eq_ok.mp hm
      obtain ⟨bs, hbs, hl⟩ := ih.mp hl
      exact ⟨x :: bs, by rw [hx, ok_bind, hbs]; rfl, foldlM_cons_eq_ok.mpr ⟨m, hm, hl⟩⟩
    · rintro ⟨bs, hbs, hl⟩
      obtain ⟨x, hx, hbs⟩ := bind_eq_ok.mp hbs
      obtain ⟨xs, hxs, hbs⟩ := bind_eq_ok.mp hbs
      obtain rfl := pure_eq_ok.mp hbs
      obtain ⟨m, hm, hl⟩ := foldlM_cons_eq_ok.mp hl
      exact ⟨m, bind_eq_ok.mpr ⟨x, hx, hm⟩, ih.mpr ⟨xs, hxs, hl⟩⟩

lemma foldlM_append_eq_ok {f : β → α → Except ε β} {l l' : List α} {b c : β} :
    (l ++ l').foldlM f b = .ok c ↔ ∃ m, l.foldlM f b = .ok m ∧ l'.foldlM f m = .ok c := by
  rw [List.foldlM_append, bind_eq_ok]

lemma foldlM_congr {f g : β → α → Except ε β} {l : List α} {b : β}
    (h : ∀ a ∈ l, ∀ b, f b a = g b a) : l.foldlM f b = l.foldlM g b := by
  induction l generalizing b with
  | nil => rfl
  | cons a l ih =>
    rw [List.foldlM_cons, List.foldlM_cons, h a List.mem_cons_self]
    exact bind_congr fun c => ih fun a' ha' => h a' (List.mem_cons_of_mem _ ha')

section Induction

variable {f : β → α → Except ε β} {l : List α} {b : β} (P : List α → β → Prop)

/-- What holds of the items that a fold has passed and of the state that it has reached. -/
lemma foldlM_induction (hstart : P [] b)
    (hstep : ∀ before a after, l = before ++ a :: after → ∀ b c, P before b → f b a = .ok c →
      P (before ++ [a]) c) {c : β} (hrun : l.foldlM f b = .ok c) : P l c := by
  induction l using List.reverseRecOn generalizing c with
  | nil => exact pure_eq_ok.mp hrun ▸ hstart
  | append_singleton l a ih =>
    obtain ⟨m, hl, hrun⟩ := foldlM_append_eq_ok.mp hrun
    obtain ⟨c', ha, hrun⟩ := foldlM_cons_eq_ok.mp hrun
    obtain rfl := pure_eq_ok.mp hrun
    refine hstep l a [] rfl m c' (ih (fun before a' after hsplit => ?_) hl) ha
    exact hstep before a' (after ++ [a]) (by rw [hsplit, List.append_assoc, List.cons_append])

/-- A fold that fails has passed some items and fails at the next one. -/
lemma exists_of_foldlM_error (hstart : P [] b)
    (hstep : ∀ before a after, l = before ++ a :: after → ∀ b c, P before b → f b a = .ok c →
      P (before ++ [a]) c) {e : ε} (hrun : l.foldlM f b = .error e) :
    ∃ before a after c, l = before ++ a :: after ∧ P before c ∧ f c a = .error e := by
  induction l using List.reverseRecOn with
  | nil => cases hrun
  | append_singleton l a ih =>
    have hstep' : ∀ before a' after, l = before ++ a' :: after → ∀ b c, P before b →
        f b a' = .ok c → P (before ++ [a']) c := by
      intro before a' after hsplit
      exact hstep before a' (after ++ [a]) (by rw [hsplit, List.append_assoc, List.cons_append])
    rw [List.foldlM_append] at hrun
    cases hl : l.foldlM f b with
    | error e' =>
      rw [hl] at hrun
      cases hrun
      obtain ⟨before, a', after, c, rfl, hc, herror⟩ := ih hstep' hl
      exact ⟨before, a', after ++ [a], c, by rw [List.append_assoc, List.cons_append], hc, herror⟩
    | ok c =>
      rw [hl, ok_bind, List.foldlM_cons] at hrun
      refine ⟨l, a, [], c, rfl, foldlM_induction P hstart hstep' hl, ?_⟩
      cases ha : f c a with
      | error e' =>
        rw [ha] at hrun
        cases hrun
        rfl
      | ok c' =>
        rw [ha] at hrun
        cases hrun

/-- A fold all of whose steps go on has a result. -/
lemma exists_foldlM_of_step (hstart : P [] b)
    (hstep : ∀ before a after, l = before ++ a :: after → ∀ b, P before b →
      ∃ c, f b a = .ok c ∧ P (before ++ [a]) c) : ∃ c, l.foldlM f b = .ok c ∧ P l c := by
  have hkeep : ∀ before a after, l = before ++ a :: after → ∀ b c, P before b → f b a = .ok c →
      P (before ++ [a]) c := by
    intro before a after hsplit b c hb ha
    obtain ⟨c', ha', hc'⟩ := hstep before a after hsplit b hb
    rwa [Except.ok.inj (ha.symm.trans ha')]
  cases hrun : l.foldlM f b with
  | ok c => exact ⟨c, rfl, foldlM_induction P hstart hkeep hrun⟩
  | error e =>
    obtain ⟨before, a, after, c, hsplit, hc, herror⟩ := exists_of_foldlM_error P hstart hkeep hrun
    obtain ⟨_, hok, _⟩ := hstep before a after hsplit c hc
    rw [hok] at herror
    cases herror

end Induction

lemma exists_foldlM_of_forall {f : β → α → Except ε β} {l : List α} {b : β}
    (h : ∀ a ∈ l, ∀ b, ∃ c, f b a = .ok c) : ∃ c, l.foldlM f b = .ok c := by
  refine (exists_foldlM_of_step (fun _ _ => True) trivial fun _ a _ hsplit b _ => ?_).imp
    fun _ => And.left
  have ha : a ∈ l := hsplit ▸ List.mem_append_right _ List.mem_cons_self
  exact (h a ha b).imp fun _ hc => ⟨hc, trivial⟩

/-- What every step of a fold keeps, the fold keeps. -/
lemma foldlM_invariant {f : β → α → Except ε β} (P : β → Prop) {l : List α}
    (hstep : ∀ a ∈ l, ∀ b c, f b a = .ok c → P b → P c) {b c : β} (hrun : l.foldlM f b = .ok c)
    (hb : P b) : P c := by
  refine foldlM_induction (fun _ => P) hb (fun before a after hsplit b c hb ha => ?_) hrun
  exact hstep a (hsplit ▸ List.mem_append_right _ List.mem_cons_self) b c ha hb

/-- What related steps of two folds over related items keep, the folds keep. -/
lemma foldlM_related {α' β' : Type} {R : α → α' → Prop} {V : β → β' → Prop}
    {f : β → α → Except ε β} {g : β' → α' → Except ε β'} {l : List α} {l' : List α'}
    (hl : List.Forall₂ R l l')
    (hstep : ∀ a a' b b' c c', R a a' → V b b' → f b a = .ok c → g b' a' = .ok c' → V c c')
    {b c : β} {b' c' : β'} (hb : V b b') (hrun : l.foldlM f b = .ok c)
    (hrun' : l'.foldlM g b' = .ok c') : V c c' := by
  induction hl generalizing b b' with
  | nil =>
    obtain rfl := pure_eq_ok.mp hrun
    obtain rfl := pure_eq_ok.mp hrun'
    exact hb
  | cons ha _ ih =>
    obtain ⟨m, hm, hrun⟩ := foldlM_cons_eq_ok.mp hrun
    obtain ⟨m', hm', hrun'⟩ := foldlM_cons_eq_ok.mp hrun'
    exact ih (hstep _ _ _ _ _ _ ha hb hm hm') hrun hrun'

/-- Both computations fail, or both have results and these are related. -/
inductive Alike (V : α → β → Prop) : Except ε α → Except ε β → Prop
  | ok {a : α} {b : β} (h : V a b) : Alike V (.ok a) (.ok b)
  | error {e e' : ε} : Alike V (.error e) (.error e')

namespace Alike

variable {α' β' : Type} {V : α → α' → Prop} {W : β → β' → Prop} {x : Except ε α}
  {x' : Except ε α'}

lemma refl {V : α → α → Prop} (h : ∀ a, V a a) (x : Except ε α) : Alike V x x := by
  cases x with
  | ok a => exact .ok (h a)
  | error e => exact .error

lemma of_results (hok : (∃ a, x = .ok a) ↔ ∃ a', x' = .ok a')
    (hrelated : ∀ a a', x = .ok a → x' = .ok a' → V a a') : Alike V x x' := by
  cases x with
  | ok a =>
    obtain ⟨a', rfl⟩ := hok.mp ⟨a, rfl⟩
    exact .ok (hrelated a a' rfl rfl)
  | error e =>
    cases x' with
    | ok a' => exact absurd (hok.mpr ⟨a', rfl⟩) (by simp)
    | error e' => exact .error

lemma imp {W : α → α' → Prop} (h : Alike V x x') (himp : ∀ a a', V a a' → W a a') :
    Alike W x x' := by
  cases h with
  | ok h => exact .ok (himp _ _ h)
  | error => exact .error

lemma symm (h : Alike V x x') : Alike (fun a' a => V a a') x' x := by
  cases h with
  | ok h => exact .ok h
  | error => exact .error

lemma related (h : Alike V x x') {a : α} {a' : α'} (hx : x = .ok a) (hx' : x' = .ok a') :
    V a a' := by
  cases h with
  | ok h =>
    obtain rfl := Except.ok.inj hx
    obtain rfl := Except.ok.inj hx'
    exact h
  | error => cases hx

lemma exists_ok (h : Alike V x x') {a : α} (hx : x = .ok a) : ∃ a', x' = .ok a' ∧ V a a' := by
  cases h with
  | ok h =>
    obtain rfl := Except.ok.inj hx
    exact ⟨_, rfl, h⟩
  | error => cases hx

lemma exists_error (h : Alike V x x') {e' : ε} (hx : x' = .error e') : ∃ e, x = .error e := by
  cases h with
  | ok _ => cases hx
  | error => exact ⟨_, rfl⟩

lemma bind {f : α → Except ε β} {f' : α' → Except ε β'} (h : Alike V x x')
    (hf : ∀ a a', V a a' → Alike W (f a) (f' a')) : Alike W (x >>= f) (x' >>= f') := by
  cases h with
  | ok h => exact hf _ _ h
  | error => exact .error

/-- What follows one and the same computation. -/
lemma bind_self {f : α → Except ε β} {f' : α → Except ε β'} (x : Except ε α)
    (hf : ∀ a, Alike W (f a) (f' a)) : Alike W (x >>= f) (x >>= f') := by
  cases x with
  | ok a => exact hf a
  | error e => exact .error

lemma pure {W : β → β' → Prop} {b : β} {b' : β'} (h : W b b') :
    Alike (ε := ε) W (Pure.pure b) (Pure.pure b') :=
  .ok h

/-- Folds whose steps are alike over items that are related one by one. -/
lemma foldlM {R : α → α' → Prop} {f : β → α → Except ε β} {f' : β' → α' → Except ε β'}
    {l : List α} {l' : List α'} (hl : List.Forall₂ R l l')
    (hf : ∀ b b' a a', W b b' → R a a' → Alike W (f b a) (f' b' a')) {b : β} {b' : β'}
    (hb : W b b') : Alike W (l.foldlM f b) (l'.foldlM f' b') := by
  induction hl generalizing b b' with
  | nil => exact .ok hb
  | cons ha _ ih => exact (hf _ _ _ _ hb ha).bind fun _ _ h => ih h

end Alike

end Fallible

namespace EngineError

variable {α : Type} {x : Except Overflow α}

lemma ofOverflow_eq_ok {a : α} : ofOverflow x = .ok a ↔ x = .ok a := by
  cases x <;> simp [ofOverflow]

/-- The errors of amounts that outgrow their type. -/
def IsOverflow (e : EngineError) : Prop := ∃ o, e = .arithmetic o

lemma isOverflow_of_ofOverflow {e : EngineError} (h : ofOverflow x = .error e) : e.IsOverflow := by
  cases x with
  | ok a => cases h
  | error o => exact ⟨o, (Except.error.inj h).symm⟩

end EngineError

end BenefitScreen
