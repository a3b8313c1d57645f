import OpenVCenter.StatusRace
import OpenVCenter.TerminalResponse

set_option relaxedAutoImplicit false
set_option autoImplicit false

/-!
# A response that overtakes the commit of its task

An API request flushes its task, publishes the request to the agent, and commits only when the
route returns. The agent may answer, and the worker look the task up, before that commit.

## Main definitions

* `OpenVCenter.CommitRace.State`, `OpenVCenter.CommitRace.step` — any number of API transactions, the
  agents with their queues, and the worker.
* `OpenVCenter.CommitRace.Dropped` — a terminal response of a transaction was dropped.
* `OpenVCenter.CommitRace.AfterCommit` — a delivered response finds its transaction committed.

## Main results

* `OpenVCenter.CommitRace.lookup_isSome_iff` — the worker finds a task exactly when the transaction
  that made it has committed.
* `OpenVCenter.CommitRace.none_dropped_iff` — no terminal response to a committed request is dropped
  exactly when each is delivered after the commit.

## Design

A transaction that publishes and is then rolled back leaves its request in the queue
(`publisher.py` is not transactional). The worker takes the responses of a queue in any order,
since up to 16 deliveries are in flight.
-/

namespace OpenVCenter

namespace CommitRace

variable (env : Env)

/-! ## The three parties -/

/-- The task each API transaction creates; its identifier is fresh. -/
structure Requests where
  row : ℕ → Task
  ids : Function.Injective fun tx => (row tx).id

/-- How far an API transaction is. -/
inductive Phase where
  | idle | flushed | published | committed | rolledBack
  deriving DecidableEq

/-- The transactions, the committed tables, the transactions whose request is in a queue, the
response queues (each response under the host whose queue it is in), and the responses dropped. -/
structure State where
  phase : ℕ → Phase := fun _ => .idle
  db : Db := {}
  requests : List ℕ := []
  responses : List (String × AgentResponse) := []
  dropped : List AgentResponse := []

/-- A step of a transaction, of an agent, or of the worker. -/
inductive Event where
  | flush (tx : ℕ)
  | publish (tx : ℕ)
  | commit (tx : ℕ)
  | rollback (tx : ℕ)
  | reply (tx : ℕ) (resp : AgentResponse)
  | deliver (i : ℕ) (now : Time)

/-- Move a transaction on. -/
def State.moved (s : State) (tx : ℕ) (phase : Phase) : State :=
  { s with phase := Function.update s.phase tx phase }

/-- The worker handles a response taken from the queue of a host: `apply_response` looks the task
up among the committed rows. -/
def State.handled (s : State) (now : Time) (hostId : String) (resp : AgentResponse) : State :=
  match s.db.taskOfHost hostId resp.id with
  | none => { s with dropped := s.dropped ++ [resp] }
  | some task => { s with db := s.db.storeTask (StatusRace.handledTask env now resp task) }

/-- One step. A transaction flushes, publishes and commits in this order, and may be rolled back
in between; an agent answers a request that was published. -/
def step (c : Requests) (s : State) : Event → State
  | .flush tx => if s.phase tx = .idle then s.moved tx .flushed else s
  | .publish tx =>
    if s.phase tx = .flushed then { s.moved tx .published with requests := s.requests ++ [tx] } else s
  | .commit tx =>
    if s.phase tx = .published then { s.moved tx .committed with db := s.db.addTask (c.row tx) }
    else s
  | .rollback tx =>
    if s.phase tx = .flushed ∨ s.phase tx = .published then s.moved tx .rolledBack else s
  | .reply tx resp =>
    if tx ∈ s.requests then
      { s with responses := s.responses ++ [((c.row tx).hostId, { resp with id := (c.row tx).id })] }
    else s
  | .deliver i now =>
    match s.responses[i]? with
    | none => s
    | some p => State.handled env { s with responses := s.responses.eraseIdx i } now p.1 p.2

/-! ## What the worker finds -/

variable {env} {c : Requests} {s : State}

/-- The committed tasks are those of the committed transactions, and the queues hold answers. -/
structure Inv (c : Requests) (s : State) : Prop where
  rows : ∀ t ∈ s.db.tasks, ∃ tx, s.phase tx = .committed ∧
    t.id = (c.row tx).id ∧ t.hostId = (c.row tx).hostId
  committed : ∀ tx, s.phase tx = .committed → ∃ t ∈ s.db.tasks, t.id = (c.row tx).id
  answers : ∀ p ∈ s.responses, ∃ tx, p.1 = (c.row tx).hostId ∧ p.2.id = (c.row tx).id

/-- At the start nothing is known. -/
lemma inv_start (c : Requests) : Inv c {} where
  rows t ht := by cases ht
  committed tx h := by cases h
  answers p hp := by cases hp

/-- The worker finds the task of a request exactly when its transaction has committed. -/
theorem lookup_isSome_iff (h : Inv c s) (tx : ℕ) :
    (s.db.taskOfHost (c.row tx).hostId (c.row tx).id).isSome = true ↔ s.phase tx = .committed := by
  constructor
  · intro hsome
    obtain ⟨t, ht⟩ := Option.isSome_iff_exists.mp hsome
    obtain ⟨hfound, -⟩ := taskOfHost_eq_some.mp ht
    obtain ⟨tx', hphase, hid, -⟩ := h.rows t (Table.mem_of_lookup hfound)
    have hsame : tx' = tx := c.ids (hid.symm.trans (Table.key_of_lookup hfound))
    rwa [hsame] at hphase
  · intro hphase
    obtain ⟨t₀, ht₀, hid₀⟩ := h.committed tx hphase
    rcases hfound : s.db.task (c.row tx).id with _ | t
    · exact absurd hid₀ (Table.lookup_eq_none.mp hfound t₀ ht₀)
    · obtain ⟨tx', -, hid, hhost⟩ := h.rows t (Table.mem_of_lookup hfound)
      have hsame : tx' = tx := c.ids (hid.symm.trans (Table.key_of_lookup hfound))
      rw [hsame] at hhost
      rw [taskOfHost_eq_some.mpr ⟨hfound, hhost⟩]
      rfl

/-- A handled task keeps its identifier. -/
lemma handledTask_id (now : Time) (resp : AgentResponse) (task : Task) :
    (StatusRace.handledTask env now resp task).id = task.id := by
  unfold StatusRace.handledTask
  split_ifs <;> rfl

/-- It keeps its host. -/
lemma handledTask_hostId (now : Time) (resp : AgentResponse) (task : Task) :
    (StatusRace.handledTask env now resp task).hostId = task.hostId := by
  unfold StatusRace.handledTask
  split_ifs <;> rfl

/-- A phase that is no commit. -/
lemma Inv.moved (h : Inv c s) {tx : ℕ} {phase : Phase} (hold : s.phase tx ≠ .committed)
    (hnew : phase ≠ .committed) : Inv c (s.moved tx phase) where
  rows t ht := by
    obtain ⟨tx', hphase, hrow⟩ := h.rows t ht
    have hne : tx' ≠ tx := by
      rintro rfl
      exact hold hphase
    exact ⟨tx', (Function.update_of_ne hne ..).trans hphase, hrow⟩
  committed tx' hphase := by
    by_cases heq : tx' = tx
    · subst heq
      exact absurd ((Function.update_self ..).symm.trans hphase) hnew
    · exact h.committed tx' ((Function.update_of_ne heq ..).symm.trans hphase)
  answers := h.answers

/-- A response that is handled. -/
lemma Inv.handled (h : Inv c s) (now : Time) (hostId : String) (resp : AgentResponse) :
    Inv c (s.handled env now hostId resp) := by
  unfold State.handled
  split
  · exact ⟨h.rows, h.committed, h.answers⟩
  · rename_i task htask
    obtain ⟨hfound, -⟩ := taskOfHost_eq_some.mp htask
    refine ⟨fun t ht => ?_, fun tx hphase => ?_, h.answers⟩
    · rcases Table.mem_store.mp ht with ⟨ht, -⟩ | ⟨rfl, -⟩
      · exact h.rows t ht
      · rw [handledTask_id, handledTask_hostId]
        exact h.rows task (Table.mem_of_lookup hfound)
    · obtain ⟨t, ht, hid⟩ := h.committed tx hphase
      by_cases hkey : t.id = task.id
      · refine ⟨_, Table.mem_store.mpr (Or.inr ⟨rfl, t, ht, ?_⟩), ?_⟩
        · rw [handledTask_id]; exact hkey
        · rw [handledTask_id, ← hkey]; exact hid
      · refine ⟨t, Table.mem_store.mpr (Or.inl ⟨ht, ?_⟩), hid⟩
        rw [handledTask_id]; exact hkey

/-- Every step keeps the invariant.

**Proof sketch.** By the step: a commit adds the row of its own transaction, a reply answers a
request that was published, and the handler of a response keeps the keys of the rows. The other
steps move a phase. -/
theorem Inv.step (h : Inv c s) (e : Event) : Inv c (step env c s e) := by
  cases e with
  | flush tx =>
    simp only [CommitRace.step]
    split_ifs with hphase
    · exact h.moved (by rw [hphase]; decide) (by decide)
    · exact h
  | publish tx =>
    simp only [CommitRace.step]
    split_ifs with hphase
    · have hm : Inv c (s.moved tx .published) := h.moved (by rw [hphase]; decide) (by decide)
      exact ⟨hm.rows, hm.committed, hm.answers⟩
    · exact h
  | commit tx =>
    simp only [CommitRace.step]
    split_ifs with hphase
    · refine ⟨fun t ht => ?_, fun tx' htx => ?_, h.answers⟩
      · rcases List.mem_append.mp ht with ht | ht
        · obtain ⟨tx', htx, hrow⟩ := h.rows t ht
          refine ⟨tx', ?_, hrow⟩
          by_cases heq : tx' = tx
          · subst heq; exact Function.update_self ..
          · exact (Function.update_of_ne heq ..).trans htx
        · obtain rfl := List.mem_singleton.mp ht
          exact ⟨tx, Function.update_self .., rfl, rfl⟩
      · by_cases heq : tx' = tx
        · subst heq
          exact ⟨c.row tx', List.mem_append_right _ (List.mem_singleton_self _), rfl⟩
        · obtain ⟨t, ht, hid⟩ :=
            h.committed tx' ((Function.update_of_ne heq ..).symm.trans htx)
          exact ⟨t, List.mem_append_left _ ht, hid⟩
    · exact h
  | rollback tx =>
    simp only [CommitRace.step]
    split_ifs with hphase
    · refine h.moved ?_ (by decide)
      rcases hphase with hphase | hphase <;> rw [hphase] <;> decide
    · exact h
  | reply tx resp =>
    simp only [CommitRace.step]
    split_ifs
    · refine ⟨h.rows, h.committed, fun p hp => ?_⟩
      rcases List.mem_append.mp hp with hp | hp
      · exact h.answers p hp
      · obtain rfl := List.mem_singleton.mp hp
        exact ⟨tx, rfl, rfl⟩
    · exact h
  | deliver i now =>
    simp only [CommitRace.step]
    split
    · exact h
    · have htaken : Inv c { s with responses := s.responses.eraseIdx i } :=
        ⟨h.rows, h.committed, fun p hp => h.answers p (List.mem_of_mem_eraseIdx hp)⟩
      exact htaken.handled now _ _

/-! ## Dropped responses -/

/-- A terminal response to the request of a transaction was dropped. -/
def Dropped (c : Requests) (s : State) (tx : ℕ) : Prop :=
  ∃ resp ∈ s.dropped, resp.id = (c.row tx).id ∧ resp.status ≠ "running"

/-- A terminal response that the step delivers to one of the transactions `final` finds it
committed. -/
def AfterCommit (c : Requests) (final : ℕ → Prop) (s : State) (e : Event) : Prop :=
  ∀ i now p, e = .deliver i now → s.responses[i]? = some p → p.2.status ≠ "running" →
    ∀ tx, p.2.id = (c.row tx).id → final tx → s.phase tx = .committed

/-- A response that finds no task is dropped. -/
lemma dropped_handled (now : Time) (hostId : String) (resp : AgentResponse) :
    (s.handled env now hostId resp).dropped =
      if (s.db.taskOfHost hostId resp.id).isSome then s.dropped else s.dropped ++ [resp] := by
  unfold State.handled
  split
  · rename_i h; simp [h]
  · rename_i h; simp [h]

/-- A step drops no terminal response of the transactions `final` exactly when the one it delivers,
if any, finds its transaction committed.

**Proof sketch.** Only a delivery drops a response. The response in flight answers the request of
some transaction, and its task is found exactly if that transaction has committed
(`lookup_isSome_iff`); otherwise it is dropped. -/
lemma none_dropped_step (final : ℕ → Prop) (h : Inv c s) (e : Event) :
    (∀ tx, final tx → ¬ Dropped c (step env c s e) tx) ↔
      (∀ tx, final tx → ¬ Dropped c s tx) ∧ AfterCommit c final s e := by
  have hsame : (step env c s e).dropped = s.dropped → AfterCommit c final s e →
      ((∀ tx, final tx → ¬ Dropped c (step env c s e) tx) ↔
        (∀ tx, final tx → ¬ Dropped c s tx) ∧ AfterCommit c final s e) := by
    intro hdropped hafter
    simp only [Dropped, hdropped, hafter, and_true]
  cases e with
  | flush tx =>
    refine hsame ?_ fun i now p he => by cases he
    simp only [step]; split_ifs <;> rfl
  | publish tx =>
    refine hsame ?_ fun i now p he => by cases he
    simp only [step]; split_ifs <;> rfl
  | commit tx =>
    refine hsame ?_ fun i now p he => by cases he
    simp only [step]; split_ifs <;> rfl
  | rollback tx =>
    refine hsame ?_ fun i now p he => by cases he
    simp only [step]; split_ifs <;> rfl
  | reply tx resp =>
    refine hsame ?_ fun i now p he => by cases he
    simp only [step]; split_ifs <;> rfl
  | deliver i now =>
    rcases hp : s.responses[i]? with _ | p
    · refine hsame (by simp [step, hp]) fun i' now' p' he hp' => ?_
      cases he
      rw [hp] at hp'
      cases hp'
    · obtain ⟨tx₀, hhost, hid⟩ := h.answers p (List.mem_of_getElem? hp)
      have hlookup := lookup_isSome_iff h tx₀
      have hdropped : (step env c s (.deliver i now)).dropped =
          if s.phase tx₀ = .committed then s.dropped else s.dropped ++ [p.2] := by
        simp only [step, hp, dropped_handled, hhost, hid]
        by_cases hc : s.phase tx₀ = .committed
        · rw [if_pos (hlookup.mpr hc), if_pos hc]
        · rw [if_neg (mt hlookup.mp hc), if_neg hc]
      by_cases hc : s.phase tx₀ = .committed
      · refine hsame (by rw [hdropped, if_pos hc]) fun i' now' p' he hp' _ tx htx _ => ?_
        cases he
        obtain rfl : p = p' := Option.some.inj (hp.symm.trans hp')
        obtain rfl : tx₀ = tx := c.ids (hid.symm.trans htx)
        exact hc
      · constructor
        · intro hnone
          refine ⟨fun tx hfinal hd => ?_, fun i' now' p' he hp' hstatus tx htx hfinal => ?_⟩
          · obtain ⟨resp, hmem, hresp⟩ := hd
            refine hnone tx hfinal ⟨resp, ?_, hresp⟩
            rw [hdropped, if_neg hc]
            exact List.mem_append_left _ hmem
          · cases he
            obtain rfl : p = p' := Option.some.inj (hp.symm.trans hp')
            refine absurd ⟨p.2, ?_, htx, hstatus⟩ (hnone tx hfinal)
            rw [hdropped, if_neg hc]
            exact List.mem_append_right _ (List.mem_singleton_self _)
        · rintro ⟨hnone, hafter⟩ tx hfinal ⟨resp, hmem, hresp, hstatus⟩
          rw [hdropped, if_neg hc] at hmem
          rcases List.mem_append.mp hmem with hmem | hmem
          · exact hnone tx hfinal ⟨resp, hmem, hresp, hstatus⟩
          · obtain rfl := List.mem_singleton.mp hmem
            have hcommitted := hafter i now p rfl hp hstatus tx hresp hfinal
            obtain rfl : tx₀ = tx := c.ids (hid.symm.trans hresp)
            exact hc hcommitted

/-- At the end of a run no terminal response to a committed request was dropped exactly when every
terminal response to a request that is committed by then was delivered after the commit. -/
theorem none_dropped_iff (env : Env) (c : Requests) (es : List Event) :
    (∀ tx, (Machine.run (step env c) {} es).phase tx = .committed →
        ¬ Dropped c (Machine.run (step env c) {} es) tx) ↔
      Machine.AllSteps (step env c)
        (AfterCommit c fun tx => (Machine.run (step env c) {} es).phase tx = .committed) {} es := by
  have hstart : ∀ tx, (Machine.run (step env c) {} es).phase tx = .committed →
      ¬ Dropped c {} tx := by
    rintro tx - ⟨resp, hmem, -⟩
    cases hmem
  rw [Machine.run_iff_allSteps (B := fun s => ∀ tx,
    (Machine.run (step env c) {} es).phase tx = .committed → ¬ Dropped c s tx)
    (fun s e h => h.step e) (fun s e h => none_dropped_step _ h e) (inv_start c)]
  exact and_iff_right hstart

/-! ## A response that is dropped -/

/-- The `n`th transaction starts a VM. -/
def Demo.starts : Requests where
  row n := { StatusRace.Demo.queued with id := OpenVCenter.Demo.settings.uuid n }
  ids _ _ h := OpenVCenter.Demo.settings.uuid_injective h

/-- Not every terminal response to a committed request is applied: the agent is faster than the
commit. -/
theorem commit_race_counterexample :
    ¬ ∀ (env : Env) (c : Requests) (es : List Event) (tx : ℕ),
      (Machine.run (step env c) {} es).phase tx = .committed →
      ¬ Dropped c (Machine.run (step env c) {} es) tx := by
  intro h
  refine h OpenVCenter.Demo.settings Demo.starts
    [.flush 0, .publish 0, .reply 0 OpenVCenter.Demo.started, .deliver 0 0, .commit 0] 0
    (by decide) ⟨{ OpenVCenter.Demo.started with id := "" }, ?_, rfl, by decide⟩
  exact List.mem_singleton_self _

end CommitRace

end OpenVCenter
