import OpenVCenter.Foundations.Machine

set_option relaxedAutoImplicit false
set_option autoImplicit false

/-!
# What a run emits

Every step of a run emits a value, which is read off the state before it and its event. A machine
whose every step does to a view of its state what another machine does on the value that is emitted
refines that machine.

## Main definitions

* `Machine.trace` — the values that the steps of a run emit.

## Main results

* `Machine.mem_trace`, `Machine.trace_eq_append_cons` — where in a run a value is emitted.
* `Machine.view_run` — **a view that every step keeps up with is kept up with by every run**.
-/

universe u v w

namespace Machine

variable {σ : Type u} {ε : Type v} {δ : Type w} (step : σ → ε → σ) (emit : σ → ε → δ)

/-- The values that the steps of a run emit. -/
def trace : σ → List ε → List δ
  | _, [] => []
  | s, e :: es => emit s e :: trace (step s e) es

variable {step emit} {s : σ} {es fs : List ε} {out : δ}

/-- No step emits nothing. -/
@[simp] theorem trace_nil : trace step emit s [] = [] := rfl

/-- A step emits before the others. -/
@[simp] theorem trace_cons {e : ε} :
    trace step emit s (e :: es) = emit s e :: trace step emit (step s e) es := rfl

/-- The trace of two stretches. -/
theorem trace_append :
    trace step emit s (es ++ fs) = trace step emit s es ++ trace step emit (run step s es) fs := by
  induction es generalizing s with
  | nil => rfl
  | cons e es ih => exact congrArg _ ih

/-- A part of the trace is the trace of a part of the run. -/
theorem trace_eq_append_cons {before after : List δ} :
    trace step emit s es = before ++ out :: after ↔ ∃ pre e post, es = pre ++ e :: post ∧
      before = trace step emit s pre ∧ out = emit (run step s pre) e ∧
      after = trace step emit (step (run step s pre) e) post := by
  constructor
  · intro h
    induction es generalizing s before with
    | nil => cases before <;> cases h
    | cons e es ih =>
      cases before with
      | nil =>
        cases h
        exact ⟨[], e, es, rfl, rfl, rfl, rfl⟩
      | cons x before =>
        injection h with hx hrest
        obtain ⟨pre, e', post, rfl, rfl, rfl, rfl⟩ := ih hrest
        exact ⟨e :: pre, e', post, rfl, by rw [← hx, trace_cons], rfl, rfl⟩
  · rintro ⟨pre, e, post, rfl, rfl, rfl, rfl⟩
    exact trace_append

/-- What is emitted comes from a step of the run. -/
theorem mem_trace : out ∈ trace step emit s es ↔ ∃ pre e post, es = pre ++ e :: post ∧
    out = emit (run step s pre) e := by
  constructor
  · intro h
    obtain ⟨before, after, hsplit⟩ := List.append_of_mem h
    obtain ⟨pre, e, post, hes, -, hout, -⟩ := trace_eq_append_cons.mp hsplit
    exact ⟨pre, e, post, hes, hout⟩
  · rintro ⟨pre, e, post, rfl, rfl⟩
    rw [trace_append, trace_cons]
    simp

/-- **A view that every step keeps up with is kept up with by every run.** -/
theorem view_run {τ : Type*} {step' : τ → δ → τ} {view : σ → τ} {I : σ → Prop}
    (hI : ∀ s e, I s → I (step s e))
    (hview : ∀ s e, I s → view (step s e) = step' (view s) (emit s e)) (h0 : I s) :
    view (run step s es) = run step' (view s) (trace step emit s es) := by
  induction es generalizing s with
  | nil => rfl
  | cons e es ih =>
    rw [trace_cons, run_cons, run_cons, ← hview s e h0]
    exact ih (hI s e h0)

end Machine
