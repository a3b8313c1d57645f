import Mathlib.Data.List.Induction
import Mathlib.Logic.Function.Basic
import OpenVCenter.Foundations.Machine

set_option relaxedAutoImplicit false
set_option autoImplicit false

/-!
# Offices

An office has at most one holder. Who is elected takes the place of the holder, and a holder that
resigns leaves the office vacant.

## Main definitions

* `Office.State`, `Office.Event`, `Office.step` — the holders, and what happens to an office.
* `Office.Stays` — nobody takes the place of a holder, and it does not resign.

## Main results

* `Office.run_eq_some_iff` — **the holder is the one that was elected and has stayed since**.
-/

namespace Office

variable {κ ι : Type*}

/-- The holder of each office. -/
abbrev State (κ ι : Type*) := κ → Option ι

/-- An election, a resignation, or neither. -/
inductive Event (κ ι : Type*)
  | elect (office : κ) (x : ι)
  | resign (office : κ) (x : ι)
  | skip

/-- No office has a holder. -/
def vacant : State κ ι := fun _ => none

/-- An event leaves `x` in an office it holds. -/
def Event.Keeps (office : κ) (x : ι) (e : Event κ ι) : Prop :=
  (∀ y, e = .elect office y → y = x) ∧ e ≠ .resign office x

/-- Nobody takes the place of `x`, and it does not resign. -/
def Stays (office : κ) (x : ι) (es : List (Event κ ι)) : Prop := ∀ e ∈ es, e.Keeps office x

section Laws

variable [DecidableEq κ] [DecidableEq ι] {es : List (Event κ ι)} {e : Event κ ι} {office : κ}
  {x : ι} {s : State κ ι}

/-- The holders after an event. -/
def step (s : State κ ι) : Event κ ι → State κ ι
  | .elect office x => Function.update s office (some x)
  | .resign office x => if s office = some x then Function.update s office none else s
  | .skip => s

/-- The holders after a list of events. -/
abbrev run (s : State κ ι) (es : List (Event κ ι)) : State κ ι := Machine.run step s es

/-- One event: its winner holds the office, or a holder that stays. -/
theorem step_eq_some_iff : step s e office = some x ↔
    e = .elect office x ∨ s office = some x ∧ e.Keeps office x := by
  unfold Event.Keeps
  cases e with
  | skip => simp [step]
  | elect office' y =>
    by_cases h : office = office'
    · subst h
      rw [step, Function.update_self, Option.some.injEq]
      constructor
      · rintro rfl
        exact Or.inl rfl
      · rintro (heq | ⟨-, hkeeps, -⟩)
        · injection heq
        · exact hkeeps y rfl
    · simp [step, Function.update_of_ne h, Ne.symm h]
  | resign office' y =>
    by_cases h : office = office'
    · subst h
      by_cases hholds : s office = some y
      · rw [step, if_pos hholds, Function.update_self, hholds]
        simp [eq_comm]
      · rw [step, if_neg hholds]
        constructor
        · intro hx
          refine Or.inr ⟨hx, fun z hz => (by cases hz), fun heq => hholds ?_⟩
          cases heq
          exact hx
        · rintro (heq | ⟨hx, -⟩)
          · cases heq
          · exact hx
    · rw [step]
      split
      · simp [Function.update_of_ne h, Ne.symm h]
      · simp [Ne.symm h]

/-- **The holder is the one that was elected and has stayed since.** -/
theorem run_eq_some_iff : run vacant es office = some x ↔
    ∃ pre post, es = pre ++ .elect office x :: post ∧ Stays office x post := by
  induction es using List.reverseRecOn with
  | nil => simp [vacant]
  | append_singleton es e ih =>
    rw [run, Machine.run_append, Machine.run_cons, Machine.run_nil, step_eq_some_iff, ih]
    constructor
    · rintro (rfl | ⟨⟨pre, post, rfl, hstays⟩, hkeeps⟩)
      · exact ⟨es, [], rfl, fun _ h => absurd h List.not_mem_nil⟩
      · refine ⟨pre, post ++ [e], by simp, fun y hy => ?_⟩
        rcases List.mem_append.mp hy with hy | hy
        · exact hstays y hy
        · rw [List.mem_singleton.mp hy]
          exact hkeeps
    · rintro ⟨pre, post, hsplit, hstays⟩
      rcases List.eq_nil_or_concat post with rfl | ⟨post, y, rfl⟩
      · obtain ⟨-, hlast⟩ := List.append_inj' hsplit rfl
        injection hlast with hlast
        exact Or.inl hlast
      · have hparts : es ++ [e] = (pre ++ .elect office x :: post) ++ [y] := by simpa using hsplit
        obtain ⟨rfl, hlast⟩ := List.append_inj' hparts rfl
        injection hlast with hlast
        refine Or.inr ⟨⟨pre, post, rfl, fun z hz => hstays z ?_⟩, hlast ▸ hstays y ?_⟩
        · simp [hz]
        · simp

end Laws

end Office
