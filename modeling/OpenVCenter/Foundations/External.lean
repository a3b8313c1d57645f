import OpenVCenter.Foundations.Effect

set_option relaxedAutoImplicit false
set_option autoImplicit false

/-!
# Calls to services outside

A call to a service may fail, and when it fails it may have taken effect: the answer was lost. What
it did is no part of the transaction it is made in.

## Main definitions

* `Effect.Answer` — how a call ends.
* `Effect.Prog.call`, `Effect.Prog.catching`, `Effect.Prog.recovering`, `Effect.Prog.ensuring` — a
  call, and the statements that catch what it raises.
* `Effect.effective`, `Effect.firstRaised` — the calls of a sequence that take effect, and what the
  sequence raises.

## Main results

* `Effect.calls_run` — the run of a sequence of calls.
-/

universe u

namespace Effect

variable {σ ε α : Type u}

/-- How a call ends: with an answer, or with a raise before or after it has taken effect. -/
inductive Answer (ε : Type u) : Type u
  | done
  | failed (e : ε) (applied : Bool)

namespace Answer

/-- The call takes effect. -/
def applied : Answer ε → Bool
  | done => true
  | failed _ applied => applied

/-- What the call raises. -/
def raised : Answer ε → Option ε
  | done => none
  | failed e _ => some e

end Answer

namespace Prog

/-- A raise, or none. -/
def outcome : Option ε → Except ε PUnit.{u + 1}
  | some e => .error e
  | none => .ok ⟨⟩

/-- A call that changes the state by `g`. -/
def call (a : Answer ε) (g : σ → σ) : Prog σ ε PUnit := fun s =>
  (outcome a.raised, if a.applied then g s else s)

/-- `try: m except p: pass`. -/
def catching (p : ε → Bool) (m : Prog σ ε PUnit) : Prog σ ε PUnit := fun s =>
  match m s with
  | (.ok ⟨⟩, t) => (.ok ⟨⟩, t)
  | (.error e, t) => (outcome (if p e then none else some e), t)

/-- `try: m except: handler`, for a handler that catches whatever `m` raises. -/
def recovering (m handler : Prog σ ε α) : Prog σ ε α := fun s =>
  match m s with
  | (.ok a, t) => (.ok a, t)
  | (.error _, t) => handler t

/-- `try: m finally: last`. What `last` raises is raised in place of what `m` raises. -/
def ensuring (m last : Prog σ ε PUnit) : Prog σ ε PUnit := fun s =>
  match m s with
  | (r, t) =>
    match last t with
    | (.ok ⟨⟩, u) => (r, u)
    | (.error e, u) => (.error e, u)

variable {s t : σ} {m last : Prog σ ε PUnit} {o o' : Option ε} {p : ε → Bool}

/-- Catching some of the exceptions. -/
theorem catching_run (h : m s = (outcome o, t)) :
    catching p m s = (outcome (o.filter fun e => !p e), t) := by
  unfold catching
  rw [h]
  rcases o with _ | e
  · rfl
  · cases hp : p e
    · simp [outcome, Option.filter, hp]
    · simp [outcome, Option.filter, hp]

/-- A call with its answer. -/
theorem call_id_run (a : Answer ε) (s : σ) :
    (call a id : Prog σ ε PUnit) s = (outcome a.raised, s) := by
  unfold call
  rw [id, ite_self]

/-- Nothing to recover from. -/
theorem recovering_of_ok {m handler : Prog σ ε α} {a : α} (h : m s = (.ok a, t)) :
    recovering m handler s = (.ok a, t) := by
  unfold recovering
  rw [h]

/-- Recovering from an exception. -/
theorem recovering_of_error {m handler : Prog σ ε α} {e : ε} (h : m s = (.error e, t)) :
    recovering m handler s = handler t := by
  unfold recovering
  rw [h]

/-- A last step runs whatever comes before. -/
theorem ensuring_run {u : σ} (h : m s = (outcome o, t)) (hlast : last t = (outcome o', u)) :
    ensuring m last s = (outcome (o'.or o), u) := by
  unfold ensuring
  rw [h]
  dsimp only
  rw [hlast]
  cases o' <;> rfl

variable (o') in
/-- What follows a step that may have raised. -/
theorem outcome_bind_run {f : PUnit → Prog σ ε PUnit} {u : σ} (h : m s = (outcome o, t))
    (hf : f ⟨⟩ t = (outcome o', u)) :
    (m >>= f) s = (outcome (o.or o'), if o.isSome then t else u) := by
  rw [bind_run, h]
  rcases o with _ | e
  · exact hf
  · rfl

end Prog

/-- What is caught whatever it is does not raise. -/
theorem returns_catching (m : Prog σ ε PUnit) : Returns (Prog.catching (fun _ => true) m) := by
  intro s
  unfold Prog.catching
  rcases m s with ⟨e | ⟨⟩, t⟩
  · exact ⟨⟨⟩, rfl⟩
  · exact ⟨⟨⟩, rfl⟩

/-- What is caught stays in the frame of what was run. -/
theorem keeps_catching {F : Frame σ} {p : ε → Bool} {m : Prog σ ε PUnit} (h : Keeps F m) :
    Keeps F (Prog.catching p m) := by
  intro s
  have hs := h s
  unfold Prog.catching
  rcases hm : m s with ⟨e | ⟨⟩, t⟩
  · rwa [hm] at hs
  · rwa [hm] at hs

/-- A call keeps what its effect keeps. -/
theorem keeps_call {F : Frame σ} {a : Answer ε} {g : σ → σ} (h : ∀ s, F.rel s (g s)) :
    Keeps F (Prog.call a g) := by
  intro s
  unfold Prog.call
  cases a.applied
  · exact F.refl s
  · exact h s

/-! ## Sequences -/

variable (answers : α → Answer ε)

/-- The calls of a sequence that take effect: up to the first that fails. -/
def effective : List α → List α
  | [] => []
  | x :: l =>
    match answers x with
    | .done => x :: effective l
    | .failed _ true => [x]
    | .failed _ false => []

/-- What a sequence of calls raises. -/
def firstRaised (l : List α) : Option ε := l.findSome? fun x => (answers x).raised

/-- A sequence of calls stops at the first that fails. -/
theorem calls_run (g : α → σ → σ) (l : List α) (s : σ) :
    (l.foldlM (fun _ x => Prog.call (answers x) (g x)) ⟨⟩ : Prog σ ε PUnit) s =
      (Prog.outcome (firstRaised answers l), (effective answers l).foldl (fun s x => g x s) s) := by
  induction l generalizing s with
  | nil => rfl
  | cons x l ih =>
    rw [List.foldlM_cons, Prog.bind_run]
    unfold Prog.call effective firstRaised
    rw [List.findSome?_cons]
    rcases answers x with _ | ⟨e, _ | _⟩
    · exact ih (g x s)
    · rfl
    · rfl

end Effect
