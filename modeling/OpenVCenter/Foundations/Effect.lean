import Mathlib.Init

set_option relaxedAutoImplicit false
set_option autoImplicit false

/-!
# Programs with a state and exceptions

A program over a state `σ` may raise an `ε`; the state it has reached is kept either way, so
that a caller decides what a raise undoes. This is the shape of a request handler whose
database work is rolled back by its caller while its writes elsewhere stay.

## Main definitions

* `Effect.Prog` — programs, with `Effect.Prog.read`, `Effect.Prog.modify`,
  `Effect.Prog.raise`, `Effect.Prog.ofExcept`, `Effect.Prog.attempt`.
* `Effect.Prog.transact` — run a program, then a check, and undo part of the state on a raise.
* `Effect.Frame` — a reflexive and transitive relation between the states before and after,
  and `Effect.Keeps` — a program whose every run is in a frame, raised or not.
* `Effect.ReturnsWhen` — a program that returns under a condition and raises otherwise.
* `Effect.Ends` — what holds where a run returns, and what where it raises.

## Main results

* `Effect.Prog.bind_eq_ok` — the inversion of a run that returns.
* `Effect.rel_bind`, `Effect.keeps_bind`, `Effect.keeps_foldlM`, `Effect.keeps_attempt` — the rules
  that carry a frame through a program.
* `Effect.returnsWhen_bind` — the condition of a sequence.
* `Effect.commits_bind`, `Effect.rel_transact` — the same for programs that leave the frame where
  they raise and return to it once the raise is undone.
* `Effect.ends_bind`, `Effect.ends_foldlM` — the rules of sequences and loops for `Effect.Ends`.
* `Effect.returns_bind` — a sequence of programs that do not raise does not raise.
* `Effect.foldlM_ok_scan`, `Effect.foldlM_ok_induct` — the invariant rules of a loop that returns.
-/

universe u

namespace Effect

/-- The inversion of a pure computation that returns. -/
theorem except_bind_eq_ok {ε α β : Type u} {x : Except ε α} {f : α → Except ε β} {b : β} :
    x >>= f = .ok b ↔ ∃ a, x = .ok a ∧ f a = .ok b := by
  constructor
  · intro h
    cases x with
    | error e => cases h
    | ok a => exact ⟨a, rfl, h⟩
  · rintro ⟨a, rfl, h⟩
    exact h

/-- A pure computation that goes on. -/
theorem except_ok_bind {ε α β : Type u} (a : α) (f : α → Except ε β) :
    (Except.ok a >>= f) = f a := rfl

/-- A pure computation that has raised. -/
theorem except_error_bind {ε α β : Type u} (e : ε) (f : α → Except ε β) :
    (Except.error e >>= f) = Except.error e := rfl

/-- A program over the state `σ` that returns an `α` or raises an `ε`. -/
def Prog (σ ε α : Type u) : Type u := σ → Except ε α × σ

namespace Prog

variable {σ ε α β : Type u}

/-- Run `m`, and on a return go on with `f`. -/
def bind (m : Prog σ ε α) (f : α → Prog σ ε β) : Prog σ ε β := fun s =>
  match m s with
  | (.ok a, t) => f a t
  | (.error e, t) => (.error e, t)

/-- Programs are sequenced with the state threaded through. -/
instance : Monad (Prog σ ε) where
  pure a := fun s => (.ok a, s)
  bind := bind

/-- The current state. -/
def read : Prog σ ε σ := fun s => (.ok s, s)

/-- Apply `g` to the state. -/
def modify (g : σ → σ) : Prog σ ε PUnit := fun s => (.ok ⟨⟩, g s)

/-- Raise `e`. -/
def raise (e : ε) : Prog σ ε α := fun s => (.error e, s)

/-- A computation that reads no state. -/
def ofExcept : Except ε α → Prog σ ε α
  | .ok a => pure a
  | .error e => raise e

/-- Run `m` and swallow what it raises. -/
def attempt (m : Prog σ ε PUnit) : Prog σ ε PUnit := fun s => (.ok ⟨⟩, (m s).2)

/-- Run `m`, then `check`. A raise of either passes on, after `restore old new` has undone the
part of the new state that does not survive it. -/
def transact (restore : σ → σ → σ) (check : Prog σ ε PUnit) (m : Prog σ ε α) : Prog σ ε α :=
  fun s =>
    match bind m (fun a => bind check fun _ => fun t => (.ok a, t)) s with
    | (.ok a, t) => (.ok a, t)
    | (.error e, t) => (.error e, restore s t)

/-! ## Runs -/

/-- A value is returned in the state it finds. -/
@[simp] theorem pure_run (a : α) (s : σ) : (pure a : Prog σ ε α) s = (.ok a, s) := rfl

/-- A read returns the state. -/
@[simp] theorem read_run (s : σ) : (read : Prog σ ε σ) s = (.ok s, s) := rfl

/-- A modification changes the state and returns nothing. -/
@[simp] theorem modify_run (g : σ → σ) (s : σ) :
    (modify g : Prog σ ε PUnit) s = (.ok ⟨⟩, g s) := rfl

/-- A raise leaves the state as it is. -/
@[simp] theorem raise_run (e : ε) (s : σ) : (raise e : Prog σ ε α) s = (.error e, s) := rfl

/-- What is right is returned. -/
@[simp] theorem ofExcept_ok (a : α) : (ofExcept (.ok a) : Prog σ ε α) = pure a := rfl

/-- What is an error is raised. -/
@[simp] theorem ofExcept_error (e : ε) : (ofExcept (.error e) : Prog σ ε α) = raise e := rfl

/-- An attempt returns, with the state its program leaves. -/
@[simp] theorem attempt_run (m : Prog σ ε PUnit) (s : σ) : attempt m s = (.ok ⟨⟩, (m s).2) := rfl

/-- A run of `m >>= f` by the outcome of `m`. -/
theorem bind_run (m : Prog σ ε α) (f : α → Prog σ ε β) (s : σ) :
    (m >>= f) s = match m s with
      | (.ok a, t) => f a t
      | (.error e, t) => (.error e, t) := rfl

/-- What follows a read gets the state. -/
@[simp] theorem read_bind_run (f : σ → Prog σ ε β) (s : σ) :
    (read >>= f) s = f s s := rfl

/-- What follows a modification starts in the new state. -/
@[simp] theorem modify_bind_run (g : σ → σ) (f : PUnit → Prog σ ε β) (s : σ) :
    (modify g >>= f) s = f ⟨⟩ (g s) := rfl

/-- What follows a value gets it. -/
@[simp] theorem pure_bind_run (a : α) (f : α → Prog σ ε β) (s : σ) :
    ((pure a : Prog σ ε α) >>= f) s = f a s := rfl

/-- Nothing follows a raise. -/
@[simp] theorem raise_bind_run (e : ε) (f : α → Prog σ ε β) (s : σ) :
    ((raise e : Prog σ ε α) >>= f) s = (.error e, s) := rfl

/-- What follows an attempt starts where its program ends. -/
@[simp] theorem attempt_bind_run (m : Prog σ ε PUnit) (f : PUnit → Prog σ ε β) (s : σ) :
    (attempt m >>= f) s = f ⟨⟩ (m s).2 := rfl

/-- A run of `m >>= f` once the run of `m` is known to return. -/
theorem bind_run_ok {m : Prog σ ε α} {f : α → Prog σ ε β} {s t : σ} {a : α}
    (h : m s = (.ok a, t)) : (m >>= f) s = f a t := by
  rw [bind_run, h]

/-- A run of `m >>= f` once the run of `m` is known to raise. -/
theorem bind_run_error {m : Prog σ ε α} {f : α → Prog σ ε β} {s t : σ} {e : ε}
    (h : m s = (.error e, t)) : (m >>= f) s = (.error e, t) := by
  rw [bind_run, h]

/-- The programs are a lawful monad. -/
instance : LawfulMonad (Prog σ ε) := LawfulMonad.mk' _
  (fun m => funext fun s => by
    change bind m (fun a => pure (id a)) s = m s
    unfold bind
    rcases m s with ⟨e | a, t⟩ <;> rfl)
  (fun _ _ => rfl)
  (fun m f g => funext fun s => by
    simp only [bind_run]
    rcases m s with ⟨e | a, t⟩ <;> rfl)

/-- The inversion of a run that returns. -/
theorem bind_eq_ok {m : Prog σ ε α} {f : α → Prog σ ε β} {s t : σ} {b : β} :
    (m >>= f) s = (.ok b, t) ↔ ∃ a s', m s = (.ok a, s') ∧ f a s' = (.ok b, t) := by
  rw [bind_run]
  constructor
  · intro h
    rcases hm : m s with ⟨_ | a, s'⟩
    · rw [hm] at h; simp at h
    · rw [hm] at h; exact ⟨a, s', rfl, h⟩
  · rintro ⟨a, s', hm, hf⟩
    rw [hm]; exact hf

/-- The inversion of a computation that reads no state and returns. -/
theorem ofExcept_eq_ok {x : Except ε α} {s t : σ} {a : α} :
    ofExcept x s = (.ok a, t) ↔ x = .ok a ∧ t = s := by
  cases x with
  | error e => simp
  | ok b => simp [eq_comm]

/-- A computation that may fail can be run in two parts. -/
theorem ofExcept_bind {γ : Type u} (x : Except ε γ) (f : γ → Except ε α) :
    (ofExcept (x >>= f) : Prog σ ε α) = ofExcept x >>= fun a => ofExcept (f a) := by
  cases x with
  | error e => rfl
  | ok a => exact (pure_bind a fun a => (ofExcept (f a) : Prog σ ε α)).symm

/-- A transaction that returns ran its body and then its check.

**Proof sketch.** A transaction is its body, then the check, and on a raise the restored state. It
returns exactly if the two return one after the other, and what follows the check changes nothing.
-/
theorem transact_eq_ok {restore : σ → σ → σ} {check : Prog σ ε PUnit} {m : Prog σ ε α}
    {s t : σ} {a : α} :
    transact restore check m s = (.ok a, t) ↔
      ∃ s', m s = (.ok a, s') ∧ check s' = (.ok ⟨⟩, t) := by
  have hrun : transact restore check m s =
      match (m >>= fun a => check >>= fun _ => pure a) s with
      | (.ok a, t) => (.ok a, t)
      | (.error e, t) => (.error e, restore s t) := rfl
  constructor
  · intro h
    rw [hrun] at h
    rcases hb : (m >>= fun a => check >>= fun _ => pure a) s with ⟨_ | b, t'⟩
    · rw [hb] at h; simp at h
    · rw [hb] at h
      obtain ⟨a', s', hm, hc⟩ := bind_eq_ok.mp hb
      obtain ⟨⟨⟩, t'', hck, hp⟩ := bind_eq_ok.mp hc
      simp only [pure_run, Prod.mk.injEq, Except.ok.injEq] at hp h
      obtain ⟨rfl, rfl⟩ := hp
      obtain ⟨rfl, rfl⟩ := h
      exact ⟨s', hm, hck⟩
  · rintro ⟨s', hm, hc⟩
    rw [hrun, bind_run_ok hm, bind_run_ok hc]; rfl

/-- A transaction whose check leaves the state alone either keeps all its body's work, or
restores. -/
theorem transact_cases {restore : σ → σ → σ} {check : Prog σ ε PUnit}
    (hcheck : ∀ t, (check t).2 = t) (m : Prog σ ε α) (s : σ) :
    (∃ a t, m s = (.ok a, t) ∧ check t = (.ok ⟨⟩, t) ∧ transact restore check m s = (.ok a, t)) ∨
      ∃ e, transact restore check m s = (.error e, restore s (m s).2) := by
  rcases hm : m s with ⟨e | a, t⟩
  · exact Or.inr ⟨e, by simp only [transact, bind, hm]⟩
  · have ht := hcheck t
    rcases hc : check t with ⟨e | ⟨⟩, t'⟩
    · rw [hc] at ht
      obtain rfl : t' = t := ht
      exact Or.inr ⟨e, by simp only [transact, bind, hm, hc]⟩
    · rw [hc] at ht
      obtain rfl : t' = t := ht
      exact Or.inl ⟨a, t', rfl, hc, by simp only [transact, bind, hm, hc]⟩

/-- A transaction restores when its body raises. -/
theorem transact_of_raise {restore : σ → σ → σ} {check : Prog σ ε PUnit} {m : Prog σ ε α}
    {s t : σ} {e : ε} (h : m s = (.error e, t)) :
    transact restore check m s = (.error e, restore s t) := by
  simp only [transact, bind, h]

end Prog

/-! ## Frames -/

variable {σ ε α β : Type u}

/-- What a program may do to its state: a reflexive and transitive relation between the state
before and the state after. -/
structure Frame (σ : Type u) where
  /-- The relation. -/
  rel : σ → σ → Prop
  refl : ∀ s, rel s s
  trans : ∀ {a b c}, rel a b → rel b c → rel a c

namespace Frame

/-- The frame of programs that leave the observation `f` as it is. -/
def same {γ : Type*} (f : σ → γ) : Frame σ where
  rel s t := f t = f s
  refl _ := rfl
  trans h h' := h'.trans h

/-- The frame of programs that keep `I` true once it is true. -/
def invariant (I : σ → Prop) : Frame σ where
  rel s t := I s → I t
  refl _ := id
  trans h h' := h' ∘ h

/-- The frame of programs that, run where `P` holds, stay in `F` and keep `P`. -/
def under (P : σ → Prop) (F : Frame σ) : Frame σ where
  rel s t := P s → P t ∧ F.rel s t
  refl s h := ⟨h, F.refl s⟩
  trans h h' hP := ⟨(h' (h hP).1).1, F.trans (h hP).2 (h' (h hP).1).2⟩

/-- Both frames at once. -/
def inter (F G : Frame σ) : Frame σ where
  rel s t := F.rel s t ∧ G.rel s t
  refl s := ⟨F.refl s, G.refl s⟩
  trans h h' := ⟨F.trans h.1 h'.1, G.trans h.2 h'.2⟩

end Frame

/-- Every run of `m`, whether it returns or raises, is in the frame `F`. -/
def Keeps (F : Frame σ) (m : Prog σ ε α) : Prop := ∀ s, F.rel s (m s).2

section Rules

variable {F : Frame σ}

/-- A value is returned in any frame. -/
theorem keeps_pure (a : α) : Keeps F (pure a : Prog σ ε α) := fun s => F.refl s

/-- A read keeps any frame. -/
theorem keeps_read : Keeps F (Prog.read : Prog σ ε σ) := fun s => F.refl s

/-- A raise keeps any frame. -/
theorem keeps_raise (e : ε) : Keeps F (Prog.raise e : Prog σ ε α) := fun s => F.refl s

/-- A computation without effects keeps any frame. -/
theorem keeps_ofExcept (x : Except ε α) : Keeps F (Prog.ofExcept x : Prog σ ε α) := by
  cases x with
  | error e => exact keeps_raise e
  | ok a => exact keeps_pure a

/-- A modification keeps a frame that has its changes. -/
theorem keeps_modify {g : σ → σ} (h : ∀ s, F.rel s (g s)) :
    Keeps F (Prog.modify g : Prog σ ε PUnit) := h

/-- Sequencing from one state stays in the frame of that state; the second program may use what
the first has returned, and that it is in the frame. -/
theorem rel_bind_from {m : Prog σ ε α} {f : α → Prog σ ε β} {s s₀ : σ} (hm : F.rel s₀ (m s).2)
    (hf : ∀ a t, m s = (.ok a, t) → F.rel s₀ t → F.rel s₀ (f a t).2) :
    F.rel s₀ ((m >>= f) s).2 := by
  rw [Prog.bind_run]
  rcases hms : m s with ⟨_ | a, t⟩
  · rw [hms] at hm; exact hm
  · rw [hms] at hm; exact hf a t hms hm

/-- Sequencing from one state stays in the frame; the second program starts where the first has
ended. -/
theorem rel_bind {m : Prog σ ε α} {f : α → Prog σ ε β} {s : σ} (hm : F.rel s (m s).2)
    (hf : ∀ a t, m s = (.ok a, t) → F.rel s t → F.rel t (f a t).2) :
    F.rel s ((m >>= f) s).2 :=
  rel_bind_from hm fun a t ht hrel => F.trans hrel (hf a t ht hrel)

/-- Sequencing stays in the frame. -/
theorem keeps_bind {m : Prog σ ε α} {f : α → Prog σ ε β} (hm : Keeps F m)
    (hf : ∀ a, Keeps F (f a)) : Keeps F (m >>= f) := fun s =>
  rel_bind (hm s) fun a t _ _ => hf a t

/-- A program that starts by reading the state may use what it read. -/
theorem keeps_read_bind {f : σ → Prog σ ε β} (h : ∀ s, F.rel s (f s s).2) :
    Keeps F (Prog.read >>= f) := h

/-- A computation that reads no state, then a program that may use what it is. -/
theorem rel_ofExcept_bind {x : Except ε α} {f : α → Prog σ ε β} {s : σ}
    (h : ∀ a, x = .ok a → F.rel s (f a s).2) : F.rel s ((Prog.ofExcept x >>= f) s).2 := by
  cases x with
  | error e => exact F.refl s
  | ok a => exact h a rfl

/-- An attempt keeps the frame of its program. -/
theorem keeps_attempt {m : Prog σ ε PUnit} (h : Keeps F m) : Keeps F (Prog.attempt m) := h

/-- A loop stays in the frame when its body does for each element. -/
theorem keeps_foldlM {γ : Type u} {f : β → γ → Prog σ ε β} {l : List γ}
    (hf : ∀ b, ∀ c ∈ l, Keeps F (f b c)) (b : β) : Keeps F (l.foldlM f b) := by
  induction l generalizing b with
  | nil => exact keeps_pure b
  | cons c l ih =>
    refine keeps_bind (hf b c List.mem_cons_self) fun b' => ih (fun b₁ c₁ hc₁ => ?_) b'
    exact hf b₁ c₁ (List.mem_cons_of_mem _ hc₁)

end Rules

/-! ## Programs that return under a condition -/

/-- From `s` the program `m` returns `a` in the state `t` when `c` holds, and raises when `c` does
not hold. -/
def ReturnsWhen (m : Prog σ ε α) (s : σ) (c : Prop) (a : α) (t : σ) : Prop :=
  (c ∧ m s = (.ok a, t)) ∨ (¬ c ∧ ∃ e u, m s = (.error e, u))

section ReturnsWhen

variable {m : Prog σ ε α} {s t : σ} {c : Prop} {a : α}

/-- A program that returns does so without a condition. -/
theorem returnsWhen_of_ok (h : m s = (.ok a, t)) : ReturnsWhen m s True a t := Or.inl ⟨trivial, h⟩

/-- A sequence returns when both of its programs do. -/
theorem returnsWhen_bind {f : α → Prog σ ε β} {d : Prop} {b : β} {u : σ}
    (hm : ReturnsWhen m s c a t) (hf : ReturnsWhen (f a) t d b u) :
    ReturnsWhen (m >>= f) s (c ∧ d) b u := by
  rcases hm with ⟨hc, hrun⟩ | ⟨hc, e, v, hrun⟩
  · rcases hf with ⟨hd, hok⟩ | ⟨hd, e, v, hraise⟩
    · exact Or.inl ⟨⟨hc, hd⟩, (Prog.bind_run_ok hrun).trans hok⟩
    · exact Or.inr ⟨fun h => hd h.2, e, v, (Prog.bind_run_ok hrun).trans hraise⟩
  · exact Or.inr ⟨fun h => hc h.1, e, v, Prog.bind_run_error hrun⟩

/-- The condition may be put in other words. -/
theorem ReturnsWhen.congr {d : Prop} (h : ReturnsWhen m s c a t) (hcd : c ↔ d) :
    ReturnsWhen m s d a t := by
  rwa [propext hcd] at h

/-- It raises when the condition fails. -/
theorem ReturnsWhen.raises_iff (h : ReturnsWhen m s c a t) :
    (∃ e u, m s = (.error e, u)) ↔ ¬ c := by
  rcases h with ⟨hc, hrun⟩ | ⟨hc, hraise⟩
  · refine iff_of_false (fun ⟨e, u, hraise⟩ => ?_) (not_not_intro hc)
    rw [hrun] at hraise
    cases hraise
  · exact iff_of_true hraise hc

end ReturnsWhen

/-! ## Transactions -/

section Transactions

variable {F : Frame σ} {restore : σ → σ → σ}

/-- The run of `m` from `s` ends in the frame: as it is after a return, once it is undone after a
raise. -/
def Commits (F : Frame σ) (restore : σ → σ → σ) (m : Prog σ ε α) (s : σ) : Prop :=
  match m s with
  | (.ok _, t) => F.rel s t
  | (.error _, t) => F.rel s (restore s t)

/-- A run that returns in the frame commits in it. -/
theorem commits_of_ok {m : Prog σ ε α} {s t : σ} {a : α} (hm : m s = (.ok a, t))
    (h : F.rel s t) : Commits F restore m s := by
  unfold Commits
  rw [hm]
  exact h

/-- A run that raises commits in the frame that its undoing is in. -/
theorem commits_of_error {m : Prog σ ε α} {s t : σ} {e : ε} (hm : m s = (.error e, t))
    (h : F.rel s (restore s t)) : Commits F restore m s := by
  unfold Commits
  rw [hm]
  exact h

/-- A run in the frame ends in it, when what is undone stays in the frame. -/
theorem commits_of_rel (hr : ∀ s t, F.rel s t → F.rel s (restore s t)) {m : Prog σ ε α} {s : σ}
    (h : F.rel s (m s).2) : Commits F restore m s := by
  unfold Commits
  rcases hm : m s with ⟨_ | a, t⟩
  · rw [hm] at h; exact hr s t h
  · rw [hm] at h; exact h

/-- Sequencing: what the second program's raise undoes is undone to the start of the first.

**Proof sketch.** If the first program raises, that is its own commit. If the second raises, its
restored state is in the frame of the middle one, hence by `hundo` the restored state of the whole
is in that of the first. If both return, the frame is transitive. -/
theorem commits_bind
    (hundo : ∀ s t u, F.rel s t → F.rel t (restore t u) → F.rel s (restore s u))
    {m : Prog σ ε α} {f : α → Prog σ ε β} {s : σ} (hm : Commits F restore m s)
    (hf : ∀ a t, m s = (.ok a, t) → F.rel s t → Commits F restore (f a) t) :
    Commits F restore (m >>= f) s := by
  unfold Commits at hm ⊢
  rw [Prog.bind_run]
  rcases hms : m s with ⟨e | a, t⟩
  · rw [hms] at hm; exact hm
  · rw [hms] at hm
    have hfa := hf a t hms hm
    unfold Commits at hfa
    rcases hft : f a t with ⟨e | b, u⟩
    · rw [hft] at hfa
      simp only [hft]
      exact hundo s t u hm hfa
    · rw [hft] at hfa
      simp only [hft]
      exact F.trans hm hfa

/-- A transaction is in the frame when its body ends in it and its check changes nothing. -/
theorem rel_transact (hr : ∀ s t, F.rel s t → F.rel s (restore s t)) {check : Prog σ ε PUnit}
    (hc : ∀ t, (check t).2 = t) {m : Prog σ ε α} {s : σ} (h : Commits F restore m s) :
    F.rel s (Prog.transact restore check m s).2 := by
  unfold Commits at h
  rcases Prog.transact_cases hc m s with ⟨a, t, hm, -, ht⟩ | ⟨e, ht⟩
  · rw [hm] at h
    rw [ht]
    exact h
  · rw [ht]
    rcases hm : m s with ⟨e' | a, t⟩
    · rw [hm] at h; exact h
    · rw [hm] at h; exact hr s t h

end Transactions

/-! ## Where a run ends -/

/-- The run of `m` from `s` ends in `Q` when it returns, and in `E` when it raises. -/
def Ends (Q : α → σ → Prop) (E : σ → Prop) (m : Prog σ ε α) (s : σ) : Prop :=
  match m s with
  | (.ok a, t) => Q a t
  | (.error _, t) => E t

section Ends

variable {Q : α → σ → Prop} {E : σ → Prop} {s : σ}

/-- A run that returns ends in what is asked of returns. -/
theorem ends_of_ok {m : Prog σ ε α} {t : σ} {a : α} (hm : m s = (.ok a, t)) :
    Ends Q E m s ↔ Q a t := by
  unfold Ends
  rw [hm]

/-- A run that raises ends in what is asked of raises. -/
theorem ends_of_error {m : Prog σ ε α} {t : σ} {e : ε} (hm : m s = (.error e, t)) :
    Ends Q E m s ↔ E t := by
  unfold Ends
  rw [hm]

/-- How a value ends. -/
@[simp] theorem ends_pure {a : α} : Ends Q E (pure a : Prog σ ε α) s ↔ Q a s := Iff.rfl

/-- How a raise ends. -/
@[simp] theorem ends_raise {e : ε} : Ends Q E (Prog.raise e : Prog σ ε α) s ↔ E s := Iff.rfl

/-- How a read, and what follows, ends. -/
@[simp] theorem ends_read_bind {f : σ → Prog σ ε α} :
    Ends Q E (Prog.read >>= f) s ↔ Ends Q E (f s) s := Iff.rfl

/-- How a modification, and what follows, ends. -/
@[simp] theorem ends_modify_bind {g : σ → σ} {f : PUnit → Prog σ ε α} :
    Ends Q E (Prog.modify g >>= f) s ↔ Ends Q E (f ⟨⟩) (g s) := Iff.rfl

/-- A sequence ends where its second program does, or where its first one raises. -/
theorem ends_bind {m : Prog σ ε β} {f : β → Prog σ ε α} :
    Ends Q E (m >>= f) s ↔ Ends (fun b t => Ends Q E (f b) t) E m s := by
  unfold Ends
  rw [Prog.bind_run]
  rcases m s with ⟨e | b, t⟩
  · rfl
  · rfl

/-- How a computation that may fail, and what follows, ends. -/
theorem ends_ofExcept_bind {x : Except ε β} {f : β → Prog σ ε α} (hE : E s)
    (h : ∀ b, x = .ok b → Ends Q E (f b) s) : Ends Q E (Prog.ofExcept x >>= f) s := by
  rcases x with e | b
  · exact hE
  · exact h b rfl

/-- What is asked of the end may be weakened. -/
theorem ends_mono {Q' : α → σ → Prop} {E' : σ → Prop} {m : Prog σ ε α} (h : Ends Q E m s)
    (hQ : ∀ a t, m s = (.ok a, t) → Q a t → Q' a t) (hE : ∀ t, E t → E' t) : Ends Q' E' m s := by
  unfold Ends at h ⊢
  rcases hm : m s with ⟨e | a, t⟩
  · rw [hm] at h
    exact hE t h
  · rw [hm] at h
    exact hQ a t hm h

/-- A run in a frame ends in what the frame carries over. -/
theorem ends_of_rel {F : Frame σ} {m : Prog σ ε α} (h : F.rel s (m s).2)
    (hQ : ∀ a t, m s = (.ok a, t) → F.rel s t → Q a t) (hE : ∀ t, F.rel s t → E t) :
    Ends Q E m s := by
  unfold Ends
  rcases hm : m s with ⟨e | a, t⟩
  · rw [hm] at h
    exact hE t h
  · rw [hm] at h
    exact hQ a t hm h

/-- The invariant rule of a loop. -/
theorem ends_foldlM {γ : Type u} {f : β → γ → Prog σ ε β} {I : β → σ → Prop} {l : List γ} {b : β}
    (h0 : I b s) (hstep : ∀ c ∈ l, ∀ b s, I b s → Ends I E (f b c) s) :
    Ends I E (l.foldlM f b) s := by
  induction l generalizing b s with
  | nil => exact h0
  | cons c l ih =>
    rw [List.foldlM_cons, ends_bind]
    refine ends_mono (hstep c List.mem_cons_self b s h0) (fun b' t _ h => ?_) fun _ h => h
    exact ih h fun c' hc' => hstep c' (List.mem_cons_of_mem _ hc')

end Ends

/-! ## Programs that do not raise -/

/-- No run of `m` raises. -/
def Returns (m : Prog σ ε α) : Prop := ∀ s, ∃ a, m s = (.ok a, (m s).2)

/-- A value is returned. -/
theorem returns_pure (a : α) : Returns (pure a : Prog σ ε α) := fun _ => ⟨a, rfl⟩

/-- A modification returns. -/
theorem returns_modify (g : σ → σ) : Returns (Prog.modify g : Prog σ ε PUnit) :=
  fun _ => ⟨⟨⟩, rfl⟩

/-- An attempt returns. -/
theorem returns_attempt (m : Prog σ ε PUnit) : Returns (Prog.attempt m) := fun _ => ⟨⟨⟩, rfl⟩

/-- A sequence returns when both of its parts do. -/
theorem returns_bind {m : Prog σ ε α} {f : α → Prog σ ε β} (hm : Returns m)
    (hf : ∀ a, Returns (f a)) : Returns (m >>= f) := by
  intro s
  obtain ⟨a, ha⟩ := hm s
  rw [Prog.bind_run_ok ha]
  exact hf a _

/-- The invariant rule of a loop that returns, for an invariant that speaks of the elements done so
far: what holds before the first round and is carried by every round over one more element holds of
the whole list at the end.

**Proof sketch.** Induction on the elements still to come, with those that are done in front of
them. -/
theorem foldlM_ok_scan {γ : Type u} {f : β → γ → Prog σ ε β} {I : List γ → β → σ → Prop}
    {l : List γ} {b b' : β} {s t : σ} (hrun : l.foldlM f b s = (.ok b', t)) (h0 : I [] b s)
    (hstep : ∀ done c rest, l = done ++ c :: rest → ∀ b s b' t, I done b s →
      f b c s = (.ok b', t) → I (done ++ [c]) b' t) : I l b' t := by
  have key : ∀ (rest done : List γ) (b : β) (s : σ), l = done ++ rest → I done b s →
      rest.foldlM f b s = (.ok b', t) → I l b' t := by
    intro rest
    induction rest with
    | nil =>
      intro done b s hl hI hrun
      simp only [List.foldlM_nil, Prog.pure_run, Prod.mk.injEq, Except.ok.injEq] at hrun
      obtain ⟨rfl, rfl⟩ := hrun
      rw [hl, List.append_nil]
      exact hI
    | cons c rest ih =>
      intro done b s hl hI hrun
      rw [List.foldlM_cons] at hrun
      obtain ⟨b₁, s₁, hc, hrest⟩ := Prog.bind_eq_ok.mp hrun
      refine ih (done ++ [c]) b₁ s₁ ?_ (hstep done c rest hl b s b₁ s₁ hI hc) hrest
      rw [hl, List.append_assoc, List.singleton_append]
  exact key l [] b s rfl h0 hrun

/-- The invariant rule of a loop that returns: what holds of the initial accumulator and state
and is kept by every round that returns holds at the end. -/
theorem foldlM_ok_induct {γ : Type u} {f : β → γ → Prog σ ε β} {I : β → σ → Prop} {l : List γ}
    {b b' : β} {s t : σ} (hrun : l.foldlM f b s = (.ok b', t)) (h0 : I b s)
    (hstep : ∀ c ∈ l, ∀ b s b' t, I b s → f b c s = (.ok b', t) → I b' t) : I b' t := by
  refine @foldlM_ok_scan _ _ _ _ _ (fun _ => I) _ _ _ _ _ hrun h0 fun done c rest hl => ?_
  exact hstep c (hl ▸ List.mem_append_right done List.mem_cons_self)

end Effect
