import Mathlib.Data.List.Induction
import Mathlib.Data.List.Nodup
import OpenVCenter.Foundations.Machine

set_option relaxedAutoImplicit false
set_option autoImplicit false

/-!
# Rows and the messages they were sent with

A system keeps rows and an outbox. A row is written together with the message that asks for the work
it stands for; the row may be undone afterwards, the message may not. The keys of the messages are
drawn from a supply that never repeats one.

## Main definitions

* `Outbox` — what is seen of the states of such a system.
* `Outbox.Posts` — messages under new keys go out between two states.
* `Outbox.Publishes` — and every row of the later state was there before, or came with one of them.

## Main results

* `Outbox.Posts.append`, `Outbox.Publishes.trans` — two stretches in a row.
* `Outbox.Posts.publishes` — a stretch whose rows were undone.
* `Outbox.run_nodup`, `Outbox.run_row` — after a run of such steps no two messages have one key, and
  every row came with a message, sent by one step of the run.
-/

/-- What is seen of the states `σ`: rows `ρ`, of which the origin `ο` does not change, and messages
`μ` under keys `κ`. `asks s o x` says that in the state `s` the message `x` asks for the row of
origin `o`. -/
structure Outbox (σ ρ ο μ κ : Type*) where
  /-- The keys there are. -/
  supply : ℕ → κ
  supply_injective : Function.Injective supply
  /-- How many keys have been drawn. -/
  next : σ → ℕ
  /-- The key of a message. -/
  key : μ → κ
  /-- The messages that have gone out. -/
  outbox : σ → List μ
  /-- The rows. -/
  rows : σ → List ρ
  /-- What of a row does not change. -/
  origin : ρ → ο
  /-- The message asks for the row. -/
  asks : σ → ο → μ → Prop

namespace Outbox

variable {σ ρ ο μ κ : Type*} {B : Outbox σ ρ ο μ κ} {s t u s₀ : σ} {sent sent' : List μ}

/-- From `s` to `t` the messages `sent` have gone out, each under a key of its own that was drawn in
between. -/
structure Posts (B : Outbox σ ρ ο μ κ) (s t : σ) (sent : List μ) : Prop where
  next_le : B.next s ≤ B.next t
  outbox : B.outbox t = B.outbox s ++ sent
  nodup : (sent.map B.key).Nodup
  drawn : ∀ x ∈ sent, ∃ k, B.next s ≤ k ∧ k < B.next t ∧ B.key x = B.supply k

/-- Messages have gone out. -/
def Posted (B : Outbox σ ρ ο μ κ) (s t : σ) : Prop := ∃ sent, B.Posts s t sent

/-- Messages have gone out, and every row of `t` was one of `s` or came with one of them, which asks
for it in `s₀`. -/
def Publishes (B : Outbox σ ρ ο μ κ) (s₀ s t : σ) : Prop :=
  ∃ sent, B.Posts s t sent ∧ ∀ row ∈ B.rows t,
    (∃ row₀ ∈ B.rows s, B.origin row₀ = B.origin row) ∨ ∃ x ∈ sent, B.asks s₀ (B.origin row) x

/-! ## Stretches -/

/-- Nothing is posted. -/
theorem Posts.nil (hnext : B.next s ≤ B.next t) (houtbox : B.outbox t = B.outbox s) :
    B.Posts s t [] :=
  ⟨hnext, by simp [houtbox], by simp, by simp⟩

/-- One message is posted, under a new key. -/
theorem Posts.singleton {x : μ} {k : ℕ} (houtbox : B.outbox t = B.outbox s ++ [x])
    (hle : B.next s ≤ k) (hlt : k < B.next t) (hkey : B.key x = B.supply k) : B.Posts s t [x] :=
  ⟨by omega, houtbox, by simp, by simpa using ⟨k, hle, hlt, hkey⟩⟩

/-- Messages posted one after another. -/
theorem Posts.append (h : B.Posts s t sent) (h' : B.Posts t u sent') :
    B.Posts s u (sent ++ sent') where
  next_le := Nat.le_trans h.next_le h'.next_le
  outbox := by rw [h'.outbox, h.outbox, List.append_assoc]
  nodup := by
    rw [List.map_append]
    refine h.nodup.append h'.nodup fun y hy hy' => ?_
    obtain ⟨x, hx, rfl⟩ := List.mem_map.mp hy
    obtain ⟨x', hx', heq⟩ := List.mem_map.mp hy'
    obtain ⟨k, -, hlt, hk⟩ := h.drawn x hx
    obtain ⟨k', hle, -, hk'⟩ := h'.drawn x' hx'
    have hsame : k' = k := B.supply_injective (hk'.symm.trans (heq.trans hk))
    omega
  drawn x hx := by
    rcases List.mem_append.mp hx with hx | hx
    · obtain ⟨k, hle, hlt, hk⟩ := h.drawn x hx
      exact ⟨k, hle, Nat.lt_of_lt_of_le hlt h'.next_le, hk⟩
    · obtain ⟨k, hle, hlt, hk⟩ := h'.drawn x hx
      exact ⟨k, Nat.le_trans h.next_le hle, hlt, hk⟩

/-- Posting twice is posting. -/
theorem Posted.trans (h : B.Posted s t) (h' : B.Posted t u) : B.Posted s u := by
  obtain ⟨sent, hsent⟩ := h
  obtain ⟨sent', hsent'⟩ := h'
  exact ⟨_, hsent.append hsent'⟩

/-- What publishes posts. -/
theorem Publishes.posted (h : B.Publishes s₀ s t) : B.Posted s t := by
  obtain ⟨sent, hsent, -⟩ := h
  exact ⟨sent, hsent⟩

/-- Nothing has gone out, and the rows are those there were. -/
theorem Publishes.nothing (hnext : B.next s ≤ B.next t) (houtbox : B.outbox t = B.outbox s)
    (hrows : ∀ row ∈ B.rows t, ∃ row₀ ∈ B.rows s, B.origin row₀ = B.origin row) :
    B.Publishes s₀ s t :=
  ⟨[], .nil hnext houtbox, fun row hrow => Or.inl (hrows row hrow)⟩

/-- Publishing twice is publishing. -/
theorem Publishes.trans (h : B.Publishes s₀ s t) (h' : B.Publishes s₀ t u) :
    B.Publishes s₀ s u := by
  obtain ⟨sent, hsent, hrows⟩ := h
  obtain ⟨sent', hsent', hrows'⟩ := h'
  refine ⟨_, hsent.append hsent', fun row hrow => ?_⟩
  rcases hrows' row hrow with ⟨row₁, hrow₁, heq⟩ | ⟨x, hx, hasks⟩
  · rw [← heq]
    rcases hrows row₁ hrow₁ with hold | ⟨x, hx, hasks⟩
    · exact Or.inl hold
    · exact Or.inr ⟨x, List.mem_append_left _ hx, hasks⟩
  · exact Or.inr ⟨x, List.mem_append_right _ hx, hasks⟩

/-- What has gone out stays out when the rows are undone. -/
theorem Posted.publishes (h : B.Posted s t) (hrows : B.rows t = B.rows s) :
    B.Publishes s₀ s t := by
  obtain ⟨sent, hsent⟩ := h
  exact ⟨sent, hsent, fun row hrow => Or.inl ⟨row, hrows ▸ hrow, rfl⟩⟩

/-! ## Runs -/

section Runs

variable {τ ε : Type*} {step : τ → ε → τ} {view : τ → σ}

open Machine

/-- A run posts what its steps post. -/
theorem run_posted (hstep : ∀ s e, B.Publishes (view s) (view s) (view (step s e))) (s : τ)
    (es : List ε) : B.Posted (view s) (view (run step s es)) := by
  induction es generalizing s with
  | nil => exact ⟨[], .nil (Nat.le_refl _) rfl⟩
  | cons e es ih => exact (hstep s e).posted.trans (ih (step s e))

/-- No two messages of a run have one key. -/
theorem run_nodup (hstep : ∀ s e, B.Publishes (view s) (view s) (view (step s e))) {s : τ}
    (hempty : B.outbox (view s) = []) (es : List ε) :
    ((B.outbox (view (run step s es))).map B.key).Nodup := by
  obtain ⟨sent, hsent⟩ := run_posted hstep s es
  rw [hsent.outbox, hempty, List.nil_append]
  exact hsent.nodup

/-- Every row after a run came with a message, which one step of the run has sent. -/
theorem run_row (hstep : ∀ s e, B.Publishes (view s) (view s) (view (step s e))) {s : τ}
    (hempty : B.outbox (view s) = []) (hrows : B.rows (view s) = []) (es : List ε) :
    ∀ row ∈ B.rows (view (run step s es)), ∃ x ∈ B.outbox (view (run step s es)),
      ∃ es₁ e es₂, es = es₁ ++ e :: es₂ ∧
        B.asks (view (run step s es₁)) (B.origin row) x ∧
        x ∉ B.outbox (view (run step s es₁)) ∧
        x ∈ B.outbox (view (step (run step s es₁) e)) := by
  induction es using List.reverseRecOn with
  | nil =>
    intro row hrow
    rw [run_nil, hrows] at hrow
    cases hrow
  | append_singleton es e ih =>
    intro row hrow
    have hnodup := run_nodup hstep hempty (es ++ [e])
    rw [run_append, run_cons, run_nil] at hrow hnodup ⊢
    obtain ⟨sent, hsent, hnew⟩ := hstep (run step s es) e
    rcases hnew row hrow with ⟨row₀, hrow₀, heq⟩ | ⟨x, hx, hasks⟩
    · -- the row was there before the last step
      obtain ⟨x, hx, es₁, e₁, es₂, rfl, hasks, hbefore, hafter⟩ := ih row₀ hrow₀
      rw [hsent.outbox]
      exact ⟨x, List.mem_append_left _ hx, es₁, e₁, es₂ ++ [e], by simp, heq ▸ hasks, hbefore,
        hafter⟩
    · have hout : x ∈ B.outbox (view (step (run step s es) e)) := by
        rw [hsent.outbox]
        exact List.mem_append_right _ hx
      refine ⟨x, hout, es, e, [], rfl, hasks, fun hold => ?_, hout⟩
      rw [hsent.outbox, List.map_append] at hnodup
      exact List.disjoint_of_nodup_append hnodup (List.mem_map_of_mem hold) (List.mem_map_of_mem hx)

end Runs

end Outbox
