import OpenVCenter.Foundations.Effect

set_option relaxedAutoImplicit false
set_option autoImplicit false

/-!
# Two programs run side by side

Two runs are compared by a relation on what they return and on the states they reach. A strict
comparison is about every run of the first program; one that is not strict is about its runs that
return.

## Main definitions

* `Effect.Beside` — the run of one program from one state, beside that of another from another.

## Main results

* `Effect.beside_bind`, `Effect.beside_foldlM` — the rules of sequences and loops.
* `Effect.beside_ofExcept_bind`, `Effect.beside_read_bind` — the rules of the other statements.
-/

universe u

namespace Effect

variable {σ τ ε α β γ δ : Type u}

/-- The run of `m` from `s` beside that of `m'` from `s'`. When the first one returns, so does the
second, and both end in `Q`. When the first one raises, a strict comparison has the second one raise
as well, and both end in `E`. -/
def Beside (strict : Prop) (Q : α → β → σ → τ → Prop) (E : σ → τ → Prop) (m : Prog σ ε α)
    (m' : Prog τ ε β) (s : σ) (s' : τ) : Prop :=
  match m s, m' s' with
  | (.ok a, t), (.ok b, t') => Q a b t t'
  | (.ok _, _), (.error _, _) => False
  | (.error _, _), (.ok _, _) => ¬ strict
  | (.error _, t), (.error _, t') => strict → E t t'

variable {strict : Prop} {Q : α → β → σ → τ → Prop} {E : σ → τ → Prop} {s : σ} {s' : τ}

/-- A first run that returns. -/
theorem Beside.ok {m : Prog σ ε α} {m' : Prog τ ε β} (h : Beside strict Q E m m' s s') {a : α}
    {t : σ} (hm : m s = (.ok a, t)) : ∃ b t', m' s' = (.ok b, t') ∧ Q a b t t' := by
  unfold Beside at h
  rw [hm] at h
  rcases hm' : m' s' with ⟨e | b, t'⟩
  · rw [hm'] at h
    exact h.elim
  · rw [hm'] at h
    exact ⟨b, t', rfl, h⟩

/-- A first run that raises. -/
theorem Beside.error {m : Prog σ ε α} {m' : Prog τ ε β} (h : Beside strict Q E m m' s s')
    (hs : strict) {e : ε} {t : σ} (hm : m s = (.error e, t)) :
    ∃ e' t', m' s' = (.error e', t') ∧ E t t' := by
  unfold Beside at h
  rw [hm] at h
  rcases hm' : m' s' with ⟨e' | b, t'⟩
  · rw [hm'] at h
    exact ⟨e', t', rfl, h hs⟩
  · rw [hm'] at h
    exact absurd hs h

/-- Both programs return. -/
theorem beside_of_ok {m : Prog σ ε α} {m' : Prog τ ε β} {a : α} {b : β} {t : σ} {t' : τ}
    (hm : m s = (.ok a, t)) (hm' : m' s' = (.ok b, t')) (h : Q a b t t') :
    Beside strict Q E m m' s s' := by
  unfold Beside
  rw [hm, hm']
  exact h

/-- Both raise. -/
theorem beside_of_error {m : Prog σ ε α} {m' : Prog τ ε β} {e e' : ε} {t : σ} {t' : τ}
    (hm : m s = (.error e, t)) (hm' : m' s' = (.error e', t')) (h : strict → E t t') :
    Beside strict Q E m m' s s' := by
  unfold Beside
  rw [hm, hm']
  exact h

/-- A comparison that is not strict asks nothing of a run that raises. -/
theorem beside_of_not_strict {m : Prog σ ε α} {m' : Prog τ ε β} {e : ε} {t : σ}
    (hm : m s = (.error e, t)) (h : ¬ strict) : Beside strict Q E m m' s s' := by
  unfold Beside
  rw [hm]
  rcases m' s' with ⟨e' | b, t'⟩
  · exact fun hs => absurd hs h
  · exact h

/-- Both return at once. -/
theorem beside_pure {a : α} {b : β} (h : Q a b s s') :
    Beside strict Q E (pure a : Prog σ ε α) (pure b) s s' := h

/-- Both raise at once. -/
theorem beside_raise {e e' : ε} (h : strict → E s s') :
    Beside strict Q E (Prog.raise e : Prog σ ε α) (Prog.raise e') s s' := h

/-- Both read first. -/
theorem beside_read_bind {f : σ → Prog σ ε α} {g : τ → Prog τ ε β}
    (h : Beside strict Q E (f s) (g s') s s') :
    Beside strict Q E (Prog.read >>= f) (Prog.read >>= g) s s' := h

/-- Two sequences side by side: the second programs start where the first ones have returned. -/
theorem beside_bind {P : γ → δ → σ → τ → Prop} {m : Prog σ ε γ} {m' : Prog τ ε δ}
    {f : γ → Prog σ ε α} {g : δ → Prog τ ε β} (hm : Beside strict P E m m' s s')
    (hf : ∀ a b t t', P a b t t' → Beside strict Q E (f a) (g b) t t') :
    Beside strict Q E (m >>= f) (m' >>= g) s s' := by
  rcases h : m s with ⟨e | a, t⟩
  · have hrun : (m >>= f) s = (.error e, t) := Prog.bind_run_error h
    by_cases hs : strict
    · obtain ⟨e', t', h', hE⟩ := hm.error hs h
      exact beside_of_error hrun (Prog.bind_run_error h') fun _ => hE
    · exact beside_of_not_strict hrun hs
  · obtain ⟨b, t', h', hP⟩ := hm.ok h
    have hnext := hf a b t t' hP
    unfold Beside at hnext ⊢
    rw [Prog.bind_run_ok h, Prog.bind_run_ok h']
    exact hnext

/-- One computation that reads no state, in both programs. -/
theorem beside_ofExcept_bind {x : Except ε γ} {f : γ → Prog σ ε α} {g : γ → Prog τ ε β}
    (hE : strict → E s s') (h : ∀ a, x = .ok a → Beside strict Q E (f a) (g a) s s') :
    Beside strict Q E (Prog.ofExcept x >>= f) (Prog.ofExcept x >>= g) s s' := by
  rcases x with e | a
  · exact beside_raise hE
  · exact h a rfl

/-- Two loops over one list side by side. -/
theorem beside_foldlM {I : β → β → σ → τ → Prop} {f : β → γ → Prog σ ε β} {g : β → γ → Prog τ ε β}
    {l : List γ} {b b' : β} (h0 : I b b' s s')
    (hstep : ∀ c ∈ l, ∀ b b' t t', I b b' t t' → Beside strict I E (f b c) (g b' c) t t') :
    Beside strict I E (l.foldlM f b) (l.foldlM g b') s s' := by
  induction l generalizing b b' s s' with
  | nil => exact beside_pure h0
  | cons c l ih =>
    rw [List.foldlM_cons, List.foldlM_cons]
    refine beside_bind (hstep c List.mem_cons_self b b' s s' h0) fun b₁ b₁' t t' h => ?_
    exact ih h fun c' hc' => hstep c' (List.mem_cons_of_mem _ hc')

/-- A weaker postcondition. -/
theorem beside_mono {Q' : α → β → σ → τ → Prop} {m : Prog σ ε α} {m' : Prog τ ε β}
    (h : Beside strict Q E m m' s s') (hQ : ∀ a b t t', Q a b t t' → Q' a b t t') :
    Beside strict Q' E m m' s s' := by
  unfold Beside at h ⊢
  revert h
  rcases m s with ⟨e | a, t⟩ <;> rcases m' s' with ⟨e' | b, t'⟩
  · exact id
  · exact id
  · exact id
  · exact hQ a b t t'

end Effect
