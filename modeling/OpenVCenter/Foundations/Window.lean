import Mathlib.Algebra.Order.Monoid.Defs
import Mathlib.Data.List.Sublists

set_option relaxedAutoImplicit false
set_option autoImplicit false

/-!
# Windows of time

Events in the order of their times: no window of a given width has two of them exactly when any two
are as far apart as the window is wide.

## Main definitions

* `Window.AtMostOne` — no window of the width has two of the events.

## Main results

* `Window.atMostOne_iff` — **the distance of the events** is at least the width.
-/

namespace Window

universe u v

variable {ι : Type u} {α : Type v} [AddCommMonoid α] [LinearOrder α]

/-- Every window `[t, t + width)` has at most one of the events. -/
def AtMostOne (time : ι → α) (width : α) (events : List ι) : Prop :=
  ∀ t, (events.filter fun e => decide (t ≤ time e ∧ time e < t + width)).length ≤ 1

variable {time : ι → α} {width : α} {events : List ι} {e : ι}

/-- **The distance of the events** is at least the width. -/
theorem atMostOne_iff [IsOrderedAddMonoid α] (hsorted : events.Pairwise fun a b => time a ≤ time b) :
    AtMostOne time width events ↔ events.Pairwise fun a b => time a + width ≤ time b := by
  constructor
  · intro h
    rw [List.pairwise_iff_forall_sublist] at hsorted ⊢
    intro a b hab
    by_contra hnear
    have hlt : time b < time a + width := not_le.mp hnear
    have hle := hsorted hab
    have hboth := (hab.filter fun e => decide (time a ≤ time e ∧ time e < time a + width)).length_le
    have htwo : [a, b].filter (fun e => decide (time a ≤ time e ∧ time e < time a + width)) =
        [a, b] := by
      simp [hle, hlt, hle.trans_lt hlt]
    rw [htwo] at hboth
    have hone := h (time a)
    simp only [List.length_cons, List.length_nil] at hboth
    omega
  · intro h t
    by_contra hmany
    rcases hwindow : events.filter fun e => decide (t ≤ time e ∧ time e < t + width) with
      _ | ⟨a, _ | ⟨b, rest⟩⟩
    · rw [hwindow] at hmany
      simp at hmany
    · rw [hwindow] at hmany
      simp at hmany
    · have hmem : ∀ e ∈ a :: b :: rest, t ≤ time e ∧ time e < t + width := by
        rw [← hwindow]
        intro e he
        exact of_decide_eq_true (List.mem_filter.mp he).2
      have hsub : [a, b].Sublist events := by
        have hpre : [a, b].Sublist (a :: b :: rest) := List.sublist_append_left [a, b] rest
        rw [← hwindow] at hpre
        exact hpre.trans List.filter_sublist
      have hfar := (List.pairwise_iff_forall_sublist.mp h) hsub
      have hb := (hmem b (List.mem_cons_of_mem _ List.mem_cons_self)).2
      have ha := add_le_add_left (hmem a List.mem_cons_self).1 width
      exact absurd (ha.trans hfar) (not_le.mpr hb)

end Window
