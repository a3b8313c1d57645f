import Mathlib.Data.List.Forall2
import OpenVCenter.Foundations.Effect

set_option relaxedAutoImplicit false
set_option autoImplicit false

/-!
# Computations that may raise

When a pure computation returns, and what loops over a list return.

## Main definitions

* `Fallible.Returns` — a computation raises nothing.

## Main results

* `Fallible.returns_bind` — a sequence whose rest returns or not whatever the value.
* `Fallible.returns_mapM`, `Fallible.mapM_eq_ok` — a loop, by its elements.
* `Fallible.mapM_eq_mapM_iff` — two loops that can raise one thing only.
-/

universe u

namespace Fallible

variable {ε α β : Type u}

/-- The computation raises nothing. -/
def Returns (x : Except ε α) : Prop := ∃ a, x = .ok a

/-- A value is returned. -/
@[simp] theorem returns_ok (a : α) : Returns (.ok a : Except ε α) := ⟨a, rfl⟩

/-- `pure` returns. -/
@[simp] theorem returns_pure (a : α) : Returns (pure a : Except ε α) := ⟨a, rfl⟩

/-- An error does not. -/
@[simp] theorem not_returns_error (e : ε) : ¬ Returns (.error e : Except ε α) := by
  rintro ⟨a, h⟩
  cases h

/-- A bind returns through a value. -/
theorem returns_bind_iff {x : Except ε α} {f : α → Except ε β} :
    Returns (x >>= f) ↔ ∃ a, x = .ok a ∧ Returns (f a) := by
  constructor
  · rintro ⟨b, h⟩
    obtain ⟨a, ha, hb⟩ := Effect.except_bind_eq_ok.mp h
    exact ⟨a, ha, b, hb⟩
  · rintro ⟨a, ha, b, hb⟩
    exact ⟨b, Effect.except_bind_eq_ok.mpr ⟨a, ha, hb⟩⟩

/-- A sequence whose rest returns or not whatever the first computation does. -/
theorem returns_bind {x : Except ε α} {f : α → Except ε β} {P : Prop}
    (h : ∀ a, x = .ok a → (Returns (f a) ↔ P)) : Returns (x >>= f) ↔ Returns x ∧ P := by
  rw [returns_bind_iff]
  constructor
  · rintro ⟨a, ha, hf⟩
    exact ⟨⟨a, ha⟩, (h a ha).mp hf⟩
  · rintro ⟨⟨a, ha⟩, hp⟩
    exact ⟨a, ha, (h a ha).mpr hp⟩

/-- A sequence whose rest always returns. -/
theorem returns_bind_of {x : Except ε α} {f : α → Except ε β} (h : ∀ a, Returns (f a)) :
    Returns (x >>= f) ↔ Returns x := by
  rw [returns_bind fun a _ => iff_of_true (h a) trivial, and_true]

/-- A function of a value that is returned. -/
@[simp] theorem returns_bind_pure {x : Except ε α} {f : α → β} :
    Returns (x >>= fun a => pure (f a)) ↔ Returns x := returns_bind_of fun _ => returns_pure _

/-- A choice returns by its branch. -/
theorem returns_ite {c : Prop} [Decidable c] {x y : Except ε α} :
    Returns (if c then x else y) ↔ (c → Returns x) ∧ (¬ c → Returns y) := by
  split_ifs with hc <;> simp [hc]

/-! ## Loops -/

section Loop

variable {f g : α → Except ε β} {l : List α}

/-- `mapM` returns the values, one by one. -/
theorem mapM_eq_ok {ys : List β} :
    l.mapM f = .ok ys ↔ List.Forall₂ (fun x y => f x = .ok y) l ys := by
  induction l generalizing ys with
  | nil =>
    rw [List.mapM_nil, List.forall₂_nil_left_iff]
    exact ⟨fun h => (Except.ok.inj h).symm, fun h => congrArg Except.ok h.symm⟩
  | cons x l ih =>
    rw [List.mapM_cons, Effect.except_bind_eq_ok, List.forall₂_cons_left_iff]
    constructor
    · rintro ⟨y, hy, h⟩
      obtain ⟨ys', hys, h⟩ := Effect.except_bind_eq_ok.mp h
      exact ⟨y, ys', hy, ih.mp hys, (Except.ok.inj h).symm⟩
    · rintro ⟨y, ys', hy, hys, rfl⟩
      exact ⟨y, hy, Effect.except_bind_eq_ok.mpr ⟨ys', ih.mpr hys, rfl⟩⟩

/-- What a loop has made was made of one of the elements. -/
theorem mem_of_mapM_eq_ok {ys : List β} {y : β} (h : l.mapM f = .ok ys) (hy : y ∈ ys) :
    ∃ x ∈ l, f x = .ok y := by
  rw [mapM_eq_ok] at h
  induction h with
  | nil => exact absurd hy List.not_mem_nil
  | @cons x y' l ys hx _ ih =>
    rcases List.mem_cons.mp hy with rfl | hy
    · exact ⟨x, List.mem_cons_self, hx⟩
    · obtain ⟨x', hx', h⟩ := ih hy
      exact ⟨x', List.mem_cons_of_mem _ hx', h⟩

/-- It is `map` where its function always returns. -/
theorem mapM_eq_ok_map {f' : α → β} (h : ∀ x ∈ l, f x = .ok (f' x)) :
    l.mapM f = .ok (l.map f') := by
  rw [mapM_eq_ok, List.forall₂_map_right_iff, List.forall₂_same]
  exact h

/-- It returns exactly if its function does everywhere. -/
theorem returns_mapM : Returns (l.mapM f) ↔ ∀ x ∈ l, Returns (f x) := by
  induction l with
  | nil => simp
  | cons x l ih =>
    rw [List.mapM_cons, List.forall_mem_cons, ← ih]
    exact returns_bind fun y _ => returns_bind_pure

/-- What a loop makes of the elements that `p` selects, where `q` tells them by what was made. -/
theorem mapM_filter {ys : List β} {p : α → Bool} {q : β → Bool}
    (hpq : ∀ x ∈ l, ∀ y, f x = .ok y → p x = q y) (h : l.mapM f = .ok ys) :
    (l.filter p).mapM f = .ok (ys.filter q) := by
  rw [mapM_eq_ok] at h ⊢
  induction h with
  | nil => exact List.Forall₂.nil
  | @cons x y l ys hx _ ih =>
    have ih := ih fun z hz => hpq z (List.mem_cons_of_mem _ hz)
    rw [List.filter_cons, List.filter_cons, hpq x List.mem_cons_self y hx]
    split_ifs
    · exact List.Forall₂.cons hx ih
    · exact ih

/-- It keeps the length. -/
theorem length_of_mapM_eq_ok {ys : List β} (h : l.mapM f = .ok ys) : ys.length = l.length :=
  (mapM_eq_ok.mp h).length_eq.symm

/-- It depends on the elements only. -/
theorem mapM_congr (h : ∀ x ∈ l, f x = g x) : l.mapM f = l.mapM g := by
  induction l with
  | nil => rfl
  | cons x l ih =>
    obtain ⟨hx, hl⟩ := List.forall_mem_cons.mp h
    rw [List.mapM_cons, List.mapM_cons, hx, ih hl]

/-- A loop that makes a list of one at every element. -/
theorem mapM_singleton_flatten :
    ((l.mapM fun x => f x >>= fun y => pure [y]) >>= fun ys => pure ys.flatten) = l.mapM f := by
  induction l with
  | nil => rfl
  | cons x l ih =>
    rw [List.mapM_cons, List.mapM_cons, ← ih]
    rcases f x with e | y
    · rfl
    · rcases (l.mapM fun x => f x >>= fun y => pure [y] : Except ε (List (List β))) with e | ys <;> rfl

/-- Loops that return the same have done the same at every element. -/
theorem eq_of_mapM_eq_ok {ys : List β} (hf : l.mapM f = .ok ys) (hg : l.mapM g = .ok ys) :
    ∀ x ∈ l, f x = g x := by
  rw [mapM_eq_ok] at hf hg
  induction hf with
  | nil => exact fun x hx => absurd hx List.not_mem_nil
  | cons hx _ ih =>
    obtain ⟨hy, hrest⟩ := List.forall₂_cons.mp hg
    exact List.forall_mem_cons.mpr ⟨hx.trans hy.symm, ih hrest⟩

/-- A loop whose elements raise `e` or nothing raises `e` exactly when one of them does. -/
theorem mapM_eq_error {e : ε} (hf : ∀ x ∈ l, ∀ e', f x = .error e' → e' = e) :
    l.mapM f = .error e ↔ ∃ x ∈ l, f x = .error e := by
  induction l with
  | nil => simp [pure, Except.pure]
  | cons x l ih =>
    obtain ⟨hx, hl⟩ := List.forall_mem_cons.mp hf
    rw [List.mapM_cons]
    rcases hfx : f x with e' | y
    · rw [hx e' hfx]
      exact iff_of_true rfl ⟨x, List.mem_cons_self, by rw [hfx, hx e' hfx]⟩
    · have hrest : (Except.ok y >>= fun b => l.mapM f >>= fun bs => pure (b :: bs)) = .error e ↔
          l.mapM f = .error e := by
        rcases l.mapM f with e' | ys
        · exact Iff.rfl
        · exact iff_of_false nofun nofun
      rw [hrest, ih hl]
      simp [hfx]

/-- **Two loops that can raise one thing only** agree when their elements do, or both raise. -/
theorem mapM_eq_mapM_iff {e : ε} (hf : ∀ x ∈ l, ∀ e', f x = .error e' → e' = e)
    (hg : ∀ x ∈ l, ∀ e', g x = .error e' → e' = e) :
    l.mapM f = l.mapM g ↔
      (∀ x ∈ l, f x = g x) ∨ (∃ x ∈ l, f x = .error e) ∧ ∃ x ∈ l, g x = .error e := by
  rw [← mapM_eq_error hf, ← mapM_eq_error hg]
  constructor
  · intro h
    rcases hm : l.mapM f with e' | ys
    · -- what the loop raises is what one of its elements does
      have hraise : ∃ x ∈ l, ∃ e', f x = .error e' := by
        by_contra hnone
        have hall : ∀ x ∈ l, Returns (f x) := fun x hx => by
          rcases hfx : f x with e' | y
          · exact absurd ⟨x, hx, e', hfx⟩ hnone
          · exact returns_ok y
        obtain ⟨ys, hys⟩ := returns_mapM.mpr hall
        rw [hm] at hys
        cases hys
      obtain ⟨x, hx, e', hfx⟩ := hraise
      have herr : l.mapM f = .error e := (mapM_eq_error hf).mpr ⟨x, hx, hf x hx e' hfx ▸ hfx⟩
      exact Or.inr ⟨hm ▸ herr, h ▸ herr⟩
    · exact Or.inl (eq_of_mapM_eq_ok hm (h ▸ hm))
  · rintro (h | ⟨hf', hg'⟩)
    · exact mapM_congr h
    · rw [hf', hg']

end Loop

end Fallible
