import Mathlib.Data.Nat.Notation
import OpenVCenter.Foundations.External

set_option relaxedAutoImplicit false
set_option autoImplicit false

/-!
# Loops that do not end

A task that repeats a body for ever. It is still running after some rounds of it when none of them
has raised; a raise ends it.

## Main definitions

* `Effect.Status` — whether a task is running, has returned, or has raised.
* `Effect.forever` — the task after some rounds of its body.

## Main results

* `Effect.forever_append` — the rounds of a task that is running go on from where it is.
* `Effect.forever_of_returns` — a body that does not raise keeps the task running.
* `Effect.forever_running_iff` — the task is running exactly when no round has raised.
-/

universe u v

namespace Effect

/-- Where a task is: in its body, at an end, or ended by a raise. -/
inductive Status (ε : Type u) : Type u
  | running
  | returned
  | raised (e : ε)

variable {σ ε : Type u} {ι : Type v}

/-- `while True: body`, after a round for each of the inputs. -/
def forever (body : ι → Prog σ ε PUnit) : List ι → σ → Status ε × σ
  | [], s => (.running, s)
  | i :: inputs, s =>
    match body i s with
    | (.ok ⟨⟩, t) => forever body inputs t
    | (.error e, t) => (.raised e, t)

variable {body : ι → Prog σ ε PUnit} {i : ι} {inputs rest : List ι} {s t : σ}

/-- A round that returns goes on. -/
theorem forever_cons_of_ok (h : body i s = (.ok ⟨⟩, t)) :
    forever body (i :: inputs) s = forever body inputs t := by
  rw [forever, h]

/-- A round that raises ends the loop. -/
theorem forever_cons_of_error {e : ε} (h : body i s = (.error e, t)) :
    forever body (i :: inputs) s = (.raised e, t) := by
  rw [forever, h]

/-- **The rounds of a running task** go on from where it is. -/
theorem forever_append (h : forever body inputs s = (.running, t)) :
    forever body (inputs ++ rest) s = forever body rest t := by
  induction inputs generalizing s with
  | nil =>
    obtain ⟨-, rfl⟩ := Prod.mk.inj h
    rfl
  | cons i inputs ih =>
    rw [List.cons_append]
    rcases hbody : body i s with ⟨e | ⟨⟩, u⟩
    · rw [forever_cons_of_error hbody] at h
      cases h
    · rw [forever_cons_of_ok hbody] at h ⊢
      exact ih h

/-- **A body that does not raise** keeps the task running. -/
theorem forever_of_returns (h : ∀ i, Returns (body i)) (inputs : List ι) (s : σ) :
    forever body inputs s = (.running, (forever body inputs s).2) := by
  induction inputs generalizing s with
  | nil => rfl
  | cons i inputs ih =>
    obtain ⟨⟨⟩, hbody⟩ := h i s
    rw [forever_cons_of_ok hbody]
    exact ih _

/-- **The task is running** exactly when no round has raised, if whether a round raises is seen from
its input. -/
theorem forever_running_iff {Ok : ι → Prop} (hok : ∀ i s, Ok i → ∃ t, body i s = (.ok ⟨⟩, t))
    (hraise : ∀ i s, ¬ Ok i → ∃ e t, body i s = (.error e, t)) :
    (forever body inputs s).1 = .running ↔ ∀ i ∈ inputs, Ok i := by
  induction inputs generalizing s with
  | nil => simp [forever]
  | cons i inputs ih =>
    by_cases hi : Ok i
    · obtain ⟨t, hbody⟩ := hok i s hi
      rw [forever_cons_of_ok hbody, ih, List.forall_mem_cons]
      simp [hi]
    · obtain ⟨e, t, hbody⟩ := hraise i s hi
      rw [forever_cons_of_error hbody, List.forall_mem_cons]
      simp [hi]

/-- What every round that returns adds to a count is what a running task has counted. -/
theorem forever_count (count : σ → ℕ) (hcount : ∀ i s, count (body i s).2 = count s + 1)
    (h : forever body inputs s = (.running, t)) : count t = count s + inputs.length := by
  induction inputs generalizing s with
  | nil =>
    obtain ⟨-, rfl⟩ := Prod.mk.inj h
    rfl
  | cons i inputs ih =>
    rcases hbody : body i s with ⟨e | ⟨⟩, u⟩
    · rw [forever_cons_of_error hbody] at h
      cases h
    · rw [forever_cons_of_ok hbody] at h
      have hone : count u = count s + 1 := by simpa only [hbody] using hcount i s
      rw [ih h, List.length_cons]
      omega

end Effect
