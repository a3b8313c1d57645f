import Mathlib.Data.List.Basic
import OpenVCenter.Foundations.Machine

set_option relaxedAutoImplicit false
set_option autoImplicit false

/-!
# Merges of two programs

Two parties each run a list of steps of their own in order; a merge is one order in which all of
their steps may happen.

## Main definitions

* `Merge` — a list is a merge of two lists.

## Main results

* `Merge.filterMap` — what one component sees of a merge is a merge of what it sees of each party.
* `Merge.sublist_left`, `Merge.sublist_right`, `Merge.pairwise` — a merge keeps the order of each
  party.
* `Machine.run_view` — a component that sees only some of the events is in the state of a run over
  what it sees.
-/

universe u v w

/-- `Merge xs ys es`: the list `es` has the elements of `xs` and those of `ys`, each in order. -/
inductive Merge {ε : Type u} : List ε → List ε → List ε → Prop
  | nil : Merge [] [] []
  | left {e : ε} {xs ys es : List ε} : Merge xs ys es → Merge (e :: xs) ys (e :: es)
  | right {e : ε} {xs ys es : List ε} : Merge xs ys es → Merge xs (e :: ys) (e :: es)

namespace Merge

variable {ε : Type u} {xs ys es : List ε}

/-- The two sides of a merge can be swapped. -/
theorem swap (h : Merge xs ys es) : Merge ys xs es := by
  induction h with
  | nil => exact nil
  | left _ ih => exact right ih
  | right _ ih => exact left ih

/-- A merge with nothing. -/
theorem nil_left (ys : List ε) : Merge [] ys ys := by
  induction ys with
  | nil => exact nil
  | cons y ys ih => exact right ih

/-- The first party runs to its end before the second starts. -/
theorem append (xs ys : List ε) : Merge xs ys (xs ++ ys) := by
  induction xs with
  | nil => exact nil_left ys
  | cons x xs ih => exact left ih

/-- What one component sees of a merge is a merge of what it sees of each party. -/
theorem filterMap {δ : Type v} (g : ε → Option δ) (h : Merge xs ys es) :
    Merge (xs.filterMap g) (ys.filterMap g) (es.filterMap g) := by
  induction h with
  | nil => exact nil
  | @left e xs ys es _ ih =>
    cases hg : g e with
    | none => simpa [List.filterMap_cons, hg] using ih
    | some d => simpa [List.filterMap_cons, hg] using left ih
  | @right e xs ys es _ ih =>
    cases hg : g e with
    | none => simpa [List.filterMap_cons, hg] using ih
    | some d => simpa [List.filterMap_cons, hg] using right ih

/-- A step of a merge is one of either party. -/
theorem mem_iff (h : Merge xs ys es) {e : ε} : e ∈ es ↔ e ∈ xs ∨ e ∈ ys := by
  induction h with
  | nil => simp
  | left _ ih => simp [ih, or_assoc]
  | right _ ih =>
    simp only [List.mem_cons, ih]
    exact or_left_comm

/-- What holds along the steps of one party holds along a merge between the steps that the other
party cannot make. -/
theorem pairwise (h : Merge xs ys es) {R : ε → ε → Prop} {own : ε → Prop} (hxs : xs.Pairwise R)
    (hys : ∀ y ∈ ys, ¬ own y) : es.Pairwise fun x y => own x → own y → R x y := by
  induction h with
  | nil => exact List.Pairwise.nil
  | @left e xs ys es h ih =>
    obtain ⟨hhead, htail⟩ := List.pairwise_cons.mp hxs
    refine List.pairwise_cons.mpr ⟨fun y hy _ hown => ?_, ih htail hys⟩
    rcases h.mem_iff.mp hy with hy | hy
    · exact hhead y hy
    · exact absurd hown (hys y hy)
  | right _ ih =>
    refine List.pairwise_cons.mpr ⟨fun _ _ hown => ?_, ih hxs fun y hy => ?_⟩
    · exact absurd hown (hys _ List.mem_cons_self)
    · exact hys y (List.mem_cons_of_mem _ hy)

/-- The first side stands in its order. -/
theorem sublist_left (h : Merge xs ys es) : xs.Sublist es := by
  induction h with
  | nil => exact List.Sublist.slnil
  | left _ ih => exact ih.cons_cons _
  | right _ ih => exact ih.cons _

/-- So does the second. -/
theorem sublist_right (h : Merge xs ys es) : ys.Sublist es := h.swap.sublist_left

end Merge

namespace Machine

variable {σ : Type u} {τ : Type v} {ε δ : Type w} {step : σ → ε → σ} {step' : τ → δ → τ}

/-- A component of the state that sees only some of the events is in the state of a run over what
it sees. -/
theorem run_view {f : σ → τ} {g : ε → Option δ}
    (hf : ∀ s e, f (step s e) = (g e).elim (f s) (step' (f s))) (s : σ) (es : List ε) :
    f (run step s es) = run step' (f s) (es.filterMap g) := by
  induction es generalizing s with
  | nil => rfl
  | cons e es ih =>
    rw [run_cons, ih, hf]
    cases hg : g e with
    | none => simp [hg]
    | some d => simp [hg]

end Machine
