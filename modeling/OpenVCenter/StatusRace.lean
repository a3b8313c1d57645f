import OpenVCenter.Lifecycle

set_option relaxedAutoImplicit false
set_option autoImplicit false

/-!
# Concurrent writers of the status of one task

A response handler reads its task when it starts and writes it when it commits; a timeout sweep
selects the stale tasks and then updates them by key. Up to 16 deliveries of a host and a sweep
are in flight at a time, and none of the updates has a condition on the status.

## Main definitions

* `OpenVCenter.StatusRace.State`, `OpenVCenter.StatusRace.step` — one row of `tasks` under the reads
  and writes of any number of actors.
* `OpenVCenter.StatusRace.Safe` — a step overwrites no terminal status.
* `OpenVCenter.StatusRace.Agrees` — what an actor writes over a terminal status it has not seen.

## Main results

* `OpenVCenter.StatusRace.applyLifecycle_stores`, `OpenVCenter.StatusRace.row_alone` — an actor that is
  not interrupted writes what the atomic handler writes.
* `OpenVCenter.StatusRace.run_safe_iff` — no step of a run overwrites a terminal status committed
  after the read exactly when every such write agrees with it.

## Design

The flush of a handler updates the row of its task and holds its lock until the commit, so that
flush and commit are one step. An `UPDATE` of the session names the columns whose value differs
from the one that was read; the payload, which decides nothing here, is taken to differ. A
handler that raises is rolled back: it aborts.
-/

namespace OpenVCenter

namespace StatusRace

open Effect

variable (env : Env)

/-! ## What a handler writes -/

/-- The task as a handler leaves it in its session. -/
def handledTask (now : Time) (resp : AgentResponse) (task : Task) : Task :=
  if isProgress resp task.status then
    progressTask now resp.stripped { task with responsePayload := resp.stripped.modelDump }
  else endedTask env now resp.stripped task

/-- The status a handler that has seen `seen` leaves in its session. -/
def handledStatus (resp : AgentResponse) (seen : TaskStatus) : TaskStatus :=
  if isProgress resp seen then .running else terminalStatus resp

/-- The lifecycle change of `apply_response` stores the handled task. -/
theorem applyLifecycle_stores {w : World} {resp : AgentResponse} {task : Task}
    (hc : w.db.Consistent) (ht : w.db.task task.id = some task) (hl : Lands env w.now resp) :
    (applyLifecycle env resp task w).2.db.tasks =
      Table.store Task.id (handledTask env w.now resp task) w.db.tasks := by
  unfold handledTask
  cases hp : isProgress resp task.status with
  | true =>
    rw [applyLifecycle_progress hp hl.1]
    rfl
  | false =>
    rw [applyLifecycle_terminal hc ht hp hl]
    rfl

/-- The status of a handled task. -/
@[simp] lemma handledTask_status (now : Time) (resp : AgentResponse) (task : Task) :
    (handledTask env now resp task).status = handledStatus resp task.status := by
  unfold handledTask handledStatus
  split_ifs <;> rfl

/-! ## Columns -/

/-- The value of a column after an `UPDATE` by a session that read `old` and holds `new`. -/
def patched {α : Type} [DecidableEq α] (column : Task → α) (old new row : Task) : α :=
  if column new = column old then column row else column new

/-- The row after the `UPDATE` of a handler. -/
def patch (old new row : Task) : Task :=
  { row with
    status := patched Task.status old new row
    progress := patched Task.progress old new row
    progressMessage := patched Task.progressMessage old new row
    startedAt := patched Task.startedAt old new row
    finishedAt := patched Task.finishedAt old new row
    result := patched Task.result old new row
    error := patched Task.error old new row
    responsePayload := new.responsePayload }

/-- A column that is written over itself. -/
lemma patched_self {α : Type} [DecidableEq α] (column : Task → α) (old new : Task) :
    patched column old new old = column new := by
  unfold patched
  split_ifs with h
  · exact h.symm
  · rfl

/-- A row that is written over itself. -/
lemma patch_self (now : Time) (resp : AgentResponse) (task : Task) :
    patch task (handledTask env now resp task) task = handledTask env now resp task := by
  simp only [patch, patched_self]
  unfold handledTask
  split_ifs <;> rfl

/-! ## Actors -/

/-- What an actor does: it handles a response to the task, or it sweeps. -/
inductive Job where
  | handler (resp : AgentResponse)
  | sweep

/-- The condition of the sweep's `SELECT`, and its check of the deadline of the kind. -/
def isStale (now : Time) (task : Task) : Bool :=
  !task.status.isTerminal && decide (task.createdAt < now - seconds env.taskTimeoutSeconds) &&
  decide (task.createdAt < now - seconds (taskTimeoutSeconds env task.kind))

/-- What an actor has read: the row, and how many writes of its status were committed by then. -/
structure Seen where
  task : Task
  writes : ℕ

/-- The committed row, the number of committed writes of its status, and what each actor that is
in flight has read. A sweep goes on only with a task that has not ended. -/
structure State (job : ℕ → Job) where
  row : Task
  writes : ℕ
  seen : ℕ → Option Seen
  seen_le : ∀ who, ∀ r ∈ seen who, r.writes ≤ writes
  seen_current : ∀ who, ∀ r ∈ seen who, r.writes = writes → r.task.status = row.status
  seen_open : ∀ who, ∀ r ∈ seen who, job who = .sweep → r.task.status.isTerminal = false

/-- A read, a committed write or a rollback of an actor. -/
inductive Event where
  | read (who : ℕ) (now : Time)
  | write (who : ℕ) (now : Time)
  | abort (who : ℕ)

variable {job : ℕ → Job}

/-- What a job has read, after another was reset. -/
lemma seen_of_update_none {seen : ℕ → Option Seen} {who a : ℕ} {r : Seen}
    (h : r ∈ Function.update seen who none a) : r ∈ seen a := by
  by_cases ha : a = who
  · subst ha
    rw [Function.update_self] at h
    cases h
  · rwa [Function.update_of_ne ha] at h

/-- The actor has read the row. -/
def State.reading (s : State job) (who : ℕ)
    (h : job who = .sweep → s.row.status.isTerminal = false) : State job where
  row := s.row
  writes := s.writes
  seen := Function.update s.seen who (some ⟨s.row, s.writes⟩)
  seen_le a r hr := by
    by_cases ha : a = who
    · subst ha
      rw [Function.update_self] at hr
      cases hr
      exact le_rfl
    · rw [Function.update_of_ne ha] at hr
      exact s.seen_le a r hr
  seen_current a r hr hw := by
    by_cases ha : a = who
    · subst ha
      rw [Function.update_self] at hr
      cases hr
      rfl
    · rw [Function.update_of_ne ha] at hr
      exact s.seen_current a r hr hw
  seen_open a r hr hjob := by
    by_cases ha : a = who
    · subst ha
      rw [Function.update_self] at hr
      cases hr
      exact h hjob
    · rw [Function.update_of_ne ha] at hr
      exact s.seen_open a r hr hjob

/-- The actor is done, and has committed `row` without a write of the status. -/
def State.keepStatus (s : State job) (who : ℕ) (row : Task) (h : row.status = s.row.status) :
    State job where
  row := row
  writes := s.writes
  seen := Function.update s.seen who none
  seen_le a r hr := s.seen_le a r (seen_of_update_none hr)
  seen_current a r hr hw := (s.seen_current a r (seen_of_update_none hr) hw).trans h.symm
  seen_open a r hr hjob := s.seen_open a r (seen_of_update_none hr) hjob

/-- The actor is done, and has committed `row` with a write of the status. -/
def State.writeStatus (s : State job) (who : ℕ) (row : Task) : State job where
  row := row
  writes := s.writes + 1
  seen := Function.update s.seen who none
  seen_le a r hr := Nat.le_succ_of_le (s.seen_le a r (seen_of_update_none hr))
  seen_current a r hr hw := by
    have hle := s.seen_le a r (seen_of_update_none hr)
    omega
  seen_open a r hr hjob := s.seen_open a r (seen_of_update_none hr) hjob

/-- A stale task is open. -/
lemma isStale_open {task : Task} {now : Time} (h : isStale env now task = true) :
    task.status.isTerminal = false := by
  simp only [isStale, Bool.and_eq_true, Bool.not_eq_true'] at h
  exact h.1.1

/-- A patch that changes no status keeps it. -/
lemma patch_status_of_eq {old new row : Task} (h : new.status = old.status) :
    (patch old new row).status = row.status := by
  simp [patch, patched, h]

/-- The actor goes on with the row it has read. -/
def Job.goesOn (now : Time) (row : Task) : Job → Bool
  | .handler _ => true
  | .sweep => isStale env now row

/-- The sweep goes on with open tasks only. -/
lemma open_of_goesOn {j : Job} {row : Task} {now : Time} (h : j.goesOn env now row = true)
    (hj : j = .sweep) : row.status.isTerminal = false := by
  subst hj
  exact isStale_open env h

/-- One step of the actors with the jobs `job`. -/
def step (s : State job) : Event → State job
  | .read who now =>
    if h : (job who).goesOn env now s.row then s.reading who (open_of_goesOn env h)
    else s.keepStatus who s.row rfl
  | .write who now =>
    match s.seen who, job who with
    | none, _ => s
    | some r, .handler resp =>
      let new := handledTask env now resp r.task
      if h : new.status = r.task.status then
        s.keepStatus who (patch r.task new s.row) (patch_status_of_eq h)
      else s.writeStatus who (patch r.task new s.row)
    | some _, .sweep => s.writeStatus who (timedOut now s.row)
  | .abort who => s.keepStatus who s.row rfl

variable {env} {s : State job} {who : ℕ} {now : Time}

/-- A read changes no row, and a handler always reads. -/
lemma step_read_row : (step env s (.read who now)).row = s.row := by
  simp only [step]
  split_ifs <;> rfl

/-- A job reads the row, and the writes so far. -/
lemma step_read_seen {resp : AgentResponse} (hjob : job who = .handler resp) :
    (step env s (.read who now)).seen who = some ⟨s.row, s.writes⟩ := by
  have hgo : (job who).goesOn env now s.row = true := by rw [hjob]; rfl
  simp only [step, hgo, dite_true]
  simp [State.reading]

/-- The row after the write of a handler. -/
lemma step_write_handler {r : Seen} {resp : AgentResponse} (hr : s.seen who = some r)
    (hjob : job who = .handler resp) :
    (step env s (.write who now)).row =
      patch r.task (handledTask env now resp r.task) s.row := by
  simp only [step, hr, hjob]
  split_ifs <;> rfl

/-- The row after the write of a sweep. -/
lemma step_write_sweep {r : Seen} (hr : s.seen who = some r) (hjob : job who = .sweep) :
    (step env s (.write who now)).row = timedOut now s.row := by
  simp only [step, hr, hjob]
  rfl

/-- A job that has read nothing writes nothing. -/
lemma step_write_none (h : s.seen who = none) : step env s (.write who now) = s := by
  simp [step, h]

/-- A handler that is not interrupted commits the handled task. -/
theorem row_alone {resp : AgentResponse} (hjob : job who = .handler resp) (s : State job)
    (t : Time) :
    (Machine.run (step env) s [.read who now, .write who t]).row =
      handledTask env t resp s.row := by
  show (step env (step env s (.read who now)) (.write who t)).row = _
  rw [step_write_handler (step_read_seen hjob) hjob, step_read_row]
  exact patch_self env t resp s.row

/-! ## Terminal statuses -/

/-- A step overwrites no terminal status: not one committed since the actor's read, no end of the
task by `running`, and no success or failure by the timeout of a sweep. -/
structure Safe (env : Env) (s : State job) (e : Event) : Prop where
  kept : ∀ who now, e = .write who now → ∀ r ∈ s.seen who, r.writes < s.writes →
    s.row.status.isTerminal = true → (step env s e).row.status = s.row.status
  not_running : s.row.status.isTerminal = true → (step env s e).row.status ≠ .running
  not_timeout : ∀ who now, e = .write who now → job who = .sweep →
    s.row.status = .succeeded ∨ s.row.status = .failed → (step env s e).row.status ≠ .timeout

/-- What an actor that has seen `seen` writes leaves the terminal status `current`. -/
def Agrees : Job → TaskStatus → TaskStatus → Prop
  | .handler resp, seen, current =>
    if isProgress resp seen then seen = .running
    else terminalStatus resp = seen ∨ terminalStatus resp = current
  | .sweep, _, current => current = .timeout

/-- A write over a terminal status committed since the read agrees with it. -/
def Admitted (s : State job) (e : Event) : Prop :=
  ∀ who now, e = .write who now → ∀ r ∈ s.seen who, r.writes < s.writes →
    s.row.status.isTerminal = true → Agrees (job who) r.task.status s.row.status

/-- The status after a patch. -/
lemma patch_status {old new row : Task} : (patch old new row).status =
    if new.status = old.status then row.status else new.status := rfl

/-- The status after a write over a terminal status. -/
lemma write_keeps_iff {r : Seen} (hr : s.seen who = some r)
    (hterm : s.row.status.isTerminal = true) :
    (step env s (.write who now)).row.status = s.row.status ↔
      Agrees (job who) r.task.status s.row.status := by
  cases hjob : job who with
  | sweep =>
    rw [step_write_sweep hr hjob]
    exact eq_comm
  | handler resp =>
    rw [step_write_handler hr hjob, patch_status, handledTask_status]
    cases hp : isProgress resp r.task.status with
    | true =>
      simp only [Agrees, handledStatus, hp, if_true]
      have hne : s.row.status ≠ .running := by
        intro h
        rw [h] at hterm
        cases hterm
      by_cases hseen : r.task.status = .running
      · simp [hseen]
      · have hseen' : TaskStatus.running ≠ r.task.status := fun h => hseen h.symm
        simp [hseen, hseen', hne.symm]
    | false =>
      simp only [Agrees, handledStatus, hp, Bool.false_eq_true, if_false]
      by_cases hseen : terminalStatus resp = r.task.status
      · simp [hseen]
      · simp [hseen]

/-- A handler that reads a task that has ended takes no message for progress. -/
lemma handledStatus_ne_running {resp : AgentResponse} {seen : TaskStatus}
    (h : seen.isTerminal = true) : handledStatus resp seen ≠ .running := by
  have hp : isProgress resp seen = false := by simp [isProgress, h]
  simp only [handledStatus, hp, Bool.false_eq_true, if_false, terminalStatus]
  split_ifs <;> decide

/-- A step is safe exactly when its write agrees with what was committed since the read.

**Proof sketch.** A write can break the status only if it was read before the last one that was
committed; then `write_keeps_iff` says when it keeps it. A writer that has seen the current status
leaves an ended task alone: the sweep does not go on with it, and a handler never sets it to
running. -/
theorem safe_iff (s : State job) (e : Event) : Safe env s e ↔ Admitted s e := by
  constructor
  · rintro h who now rfl r hr hlt hterm
    exact (write_keeps_iff hr hterm).mp (h.kept who now rfl r hr hlt hterm)
  · intro h
    have hkept : ∀ who now, e = .write who now → ∀ r ∈ s.seen who, r.writes < s.writes →
        s.row.status.isTerminal = true → (step env s e).row.status = s.row.status := by
      rintro who now rfl r hr hlt hterm
      exact (write_keeps_iff hr hterm).mpr (h who now rfl r hr hlt hterm)
    have hne_running : s.row.status.isTerminal = true → s.row.status ≠ .running := by
      intro hterm hrun
      rw [hrun] at hterm
      cases hterm
    refine ⟨hkept, fun hterm => ?_, ?_⟩
    · cases e with
      | read who now => rw [step_read_row]; exact hne_running hterm
      | abort who => exact hne_running hterm
      | write who now =>
        rcases hr : s.seen who with _ | r
        · rw [step_write_none hr]; exact hne_running hterm
        · by_cases hlt : r.writes < s.writes
          · rw [hkept who now rfl r hr hlt hterm]; exact hne_running hterm
          · -- the actor has seen the current status
            have hle := s.seen_le who r hr
            have hcur := s.seen_current who r hr (by omega)
            cases hjob : job who with
            | sweep =>
              have hopen := s.seen_open who r hr hjob
              rw [hcur, hterm] at hopen
              cases hopen
            | handler resp =>
              rw [step_write_handler hr hjob, patch_status, handledTask_status]
              split_ifs
              · exact hne_running hterm
              · exact handledStatus_ne_running (by rw [hcur]; exact hterm)
    · rintro who now rfl hjob hended
      have hterm : s.row.status.isTerminal = true := by
        rcases hended with h | h <;> rw [h] <;> rfl
      have hne : s.row.status ≠ .timeout := by
        rcases hended with h | h <;> rw [h] <;> decide
      rcases hr : s.seen who with _ | r
      · rw [step_write_none hr]; exact hne
      · by_cases hlt : r.writes < s.writes
        · rw [hkept who now rfl r hr hlt hterm]; exact hne
        · have hle := s.seen_le who r hr
          have hcur := s.seen_current who r hr (by omega)
          have hopen := s.seen_open who r hr hjob
          rw [hcur, hterm] at hopen
          cases hopen

/-- No step of a run overwrites a terminal status exactly when each write over a terminal status
committed since the read agrees with it. -/
theorem run_safe_iff (env : Env) (job : ℕ → Job) (s : State job) (es : List Event) :
    Machine.AllSteps (step env) (Safe env) s es ↔ Machine.AllSteps (step env) Admitted s es :=
  Machine.AllSteps.congr (I := fun _ => True) (fun _ _ _ _ => trivial)
    (fun s e _ => safe_iff s e) trivial

/-! ## A success overtaken by a progress message -/

/-- A start that is queued. -/
def Demo.queued : Task :=
  { id := "x", kind := .vm_start, targetType := .vm, targetId := "", targetName := .null
    hostId := "h", requestedBy := "user", createdAt := 0 }

/-- Actor 0 handles a progress message, the others handle the success. -/
def Demo.jobs : ℕ → Job
  | 0 => .handler { id := "x", function := "vm_start", status := "running" }
  | _ => .handler { id := "x", function := "vm_start", status := "succeeded" }

/-- The start is queued, and nobody has read it. -/
def Demo.start : State Demo.jobs where
  row := Demo.queued
  writes := 0
  seen _ := none
  seen_le _ _ h := by cases h
  seen_current _ _ h := by cases h
  seen_open _ _ h := by cases h

/-- Not every run is safe: a progress message read before the success and written after it makes
the task run again. -/
theorem status_race_counterexample :
    ¬ ∀ (env : Env) (job : ℕ → Job) (s : State job) (es : List Event),
      Machine.AllSteps (step env) (Safe env) s es := by
  intro h
  have hsafe := h OpenVCenter.Demo.settings Demo.jobs Demo.start
    [.read 0 0, .read 1 0, .write 1 0, .write 0 0]
  obtain ⟨-, -, -, hlast, -⟩ := hsafe
  exact hlast.not_running (by decide) (by decide)

end StatusRace

end OpenVCenter
