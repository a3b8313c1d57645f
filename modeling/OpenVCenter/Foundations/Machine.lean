import Mathlib.Init

set_option relaxedAutoImplicit false
set_option autoImplicit false

/-!
# Runs of a deterministic machine

A machine is a step function `step : σ → ε → σ`; a run is a list of events. A property of the
steps of a run is a predicate on the state before the step and the event.

## Main definitions

* `Machine.run` — the state after a run.
* `Machine.AllSteps` — every step of a run satisfies a predicate.

## Main results

* `Machine.run_invariant` — what every step keeps holds at the end of a run.
* `Machine.AllSteps.invariant` — what every admitted step keeps holds at the end of a run.
* `Machine.AllSteps.of_invariant`, `Machine.AllSteps.congr` — two predicates that follow from each
  other on the states of an invariant hold of the same runs.
* `Machine.run_iff_allSteps` — what every step has to keep holds at the end of a run exactly when
  every step has kept it.
-/

universe u v

namespace Machine

variable {σ : Type u} {ε : Type v} (step : σ → ε → σ)

/-- The state after the events `es`. -/
def run (s : σ) (es : List ε) : σ := es.foldl step s

/-- Every step of the run `es` from `s` satisfies `P`, a predicate on the state before the step
and the event. -/
def AllSteps (P : σ → ε → Prop) : σ → List ε → Prop
  | _, [] => True
  | s, e :: es => P s e ∧ AllSteps P (step s e) es

variable {step} {P Q : σ → ε → Prop} {s : σ} {e : ε} {es fs : List ε}

/-- A run of nothing. -/
@[simp] theorem run_nil : run step s [] = s := rfl

/-- A run, step by step. -/
@[simp] theorem run_cons : run step s (e :: es) = run step (step s e) es := rfl

/-- A run on from a run. -/
theorem run_append : run step s (es ++ fs) = run step (run step s es) fs :=
  List.foldl_append

/-- No steps meet every condition. -/
@[simp] theorem allSteps_nil : AllSteps step P s [] := trivial

/-- All steps do, if the first does and the others do. -/
@[simp] theorem allSteps_cons :
    AllSteps step P s (e :: es) ↔ P s e ∧ AllSteps step P (step s e) es := Iff.rfl

/-- All steps of two stretches. -/
theorem allSteps_append :
    AllSteps step P s (es ++ fs) ↔ AllSteps step P s es ∧ AllSteps step P (run step s es) fs := by
  induction es generalizing s with
  | nil => simp
  | cons e es ih => simp [ih, and_assoc]

/-- Whether all steps meet a condition can be decided. -/
instance decidableAllSteps [∀ s e, Decidable (P s e)] :
    ∀ s es, Decidable (AllSteps step P s es)
  | _, [] => inferInstanceAs (Decidable True)
  | s, e :: es =>
    @instDecidableAnd (P s e) (AllSteps step P (step s e) es) _ (decidableAllSteps (step s e) es)

/-- What every step keeps holds at the end of a run. -/
theorem run_invariant {I : σ → Prop} (hstep : ∀ s e, I s → I (step s e)) (h0 : I s) :
    I (run step s es) := by
  induction es generalizing s with
  | nil => exact h0
  | cons e es ih => exact ih (hstep s e h0)

/-- A run whose every step is admitted by `P` keeps what such a step keeps. -/
theorem AllSteps.invariant {I : σ → Prop} (hstep : ∀ s e, I s → P s e → I (step s e))
    (h : AllSteps step P s es) (h0 : I s) : I (run step s es) := by
  induction es generalizing s with
  | nil => exact h0
  | cons e es ih => exact ih h.2 (hstep s e h0 h.1)

/-- A step predicate that follows from another on the states of an invariant, and that keeps it, holds
of its runs. -/
theorem AllSteps.of_invariant {I : σ → Prop} (hI : ∀ s e, I s → Q s e → I (step s e))
    (hPQ : ∀ s e, I s → P s e → Q s e) (h0 : I s) (h : AllSteps step P s es) :
    AllSteps step Q s es := by
  induction es generalizing s with
  | nil => trivial
  | cons e es ih =>
    have hq := hPQ s e h0 h.1
    exact ⟨hq, ih (hI s e h0 hq) h.2⟩

/-- A step predicate that follows from another, wherever a run may be, holds along its runs. -/
theorem AllSteps.mono (hPQ : ∀ s e, P s e → Q s e) (h : AllSteps step P s es) :
    AllSteps step Q s es :=
  h.of_invariant (I := fun _ => True) (fun _ _ _ _ => trivial) (fun s e _ => hPQ s e) trivial

/-- Two step predicates that agree on the states of an invariant hold of the same runs, as soon
as one of them keeps the invariant. -/
theorem AllSteps.congr {I : σ → Prop} (hI : ∀ s e, I s → P s e → I (step s e))
    (hPQ : ∀ s e, I s → (P s e ↔ Q s e)) (h0 : I s) :
    AllSteps step P s es ↔ AllSteps step Q s es :=
  ⟨AllSteps.of_invariant (fun s e hs hq => hI s e hs ((hPQ s e hs).mpr hq))
      (fun s e hs => (hPQ s e hs).mp) h0,
    AllSteps.of_invariant hI (fun s e hs => (hPQ s e hs).mpr) h0⟩

/-- A property that a step keeps exactly when the step is admitted, and that is never regained, holds
at the end of a run exactly when it held at its start and every step was admitted. -/
theorem run_iff_allSteps {I B : σ → Prop} (hI : ∀ s e, I s → I (step s e))
    (hB : ∀ s e, I s → (B (step s e) ↔ B s ∧ P s e)) (h0 : I s) :
    B (run step s es) ↔ B s ∧ AllSteps step P s es := by
  induction es generalizing s with
  | nil => simp
  | cons e es ih =>
    rw [run_cons, ih (hI s e h0), hB s e h0, allSteps_cons, and_assoc]

end Machine
