import OpenVCenter.FailedResponse

set_option relaxedAutoImplicit false
set_option autoImplicit false

/-!
# Late progress messages

A progress message of a task that has ended is no progress message any more: the handler takes it
for the end of the task, and a failed one, since its status is not `"succeeded"`. This file says
when that changes nothing.

## Main definitions

* `OpenVCenter.Untouched` — the task, its events, the rows and the locks are as they were.
* `OpenVCenter.AlreadyFailed` — the task has failed already, just as the message fails it.

## Main results

* `OpenVCenter.late_progress_iff` — one late message is harmless exactly when it does not land
  or the task has already failed as it says.
* `OpenVCenter.run_late_progress_iff` — the same of every late message of a run.
-/

namespace OpenVCenter

open Effect

variable {env : Env} {w : World} {hostId : String} {resp : AgentResponse} {task : Task} {db : Db}

/-! ## Rows that do not change -/

/-- The state a failed power action falls back to is never its optimistic one. -/
lemma failedStateRevert_ne {kind : TaskKind} {revert transitional : String}
    (hr : failedStateRevert kind = some revert) (ht : transitionalState kind = some transitional) :
    revert ≠ transitional := by
  cases kind <;> cases hr <;> cases ht <;> decide

/-- A kind that has a transition has a state to revert to. -/
lemma failedStateRevert_isSome (kind : TaskKind) :
    (failedStateRevert kind).isSome = (transitionalState kind).isSome := by
  cases kind <;> rfl

/-- A kind that makes a placeholder has no transition. -/
lemma makesPlaceholder_no_transition {kind : TaskKind} (h : kind.makesPlaceholder = true) :
    transitionalState kind = none := by
  cases kind <;> first | rfl | cases h

/-- A delete of a row that is there changes the table. -/
lemma deleteVm_ne {vm : Vm} (h : vm ∈ db.vms) : (db.deleteVm vm.id).vms ≠ db.vms := by
  intro hsame
  have hgone := Table.deleteWhere_eq_self.mp hsame vm h
  simp at hgone

/-- A row whose state is rolled back differs from the row it was. -/
lemma storeVm_reverted_ne {vm : Vm} {id revert transitional : String} (hc : db.Consistent)
    (hvm : db.vm id = some vm) (hstate : vm.state.isStr transitional = true)
    (hne : revert ≠ transitional) :
    (db.storeVm { vm with state := .str revert }).vms ≠ db.vms := by
  intro hsame
  obtain ⟨hmem, -⟩ := hc.vm_eq_some.mp hvm
  have hnew : { vm with state := .str revert } ∈ db.vms := by
    rw [← hsame]
    exact Table.mem_store.mpr (Or.inr ⟨rfl, vm, hmem, rfl⟩)
  have heq := Table.eq_of_mem_of_key hc.keyed.vmIds hnew hmem rfl
  rw [← heq] at hstate
  exact hne (by simpa [Json.isStr] using hstate)

/-- A failed task leaves the VM rows alone exactly when it has no placeholder and no optimistic
state to take back. -/
theorem failedVms_eq_self (hc : db.Consistent) :
    failedVms db task = db.vms ↔
      (task.kind.makesPlaceholder = true → db.vm task.targetId = none) ∧
      ∀ vm ∈ db.vm task.targetId, ∀ transitional ∈ transitionalState task.kind,
        task.targetType = .vm → vm.state.isStr transitional = false := by
  unfold failedVms
  cases hk : task.kind.makesPlaceholder with
  | true =>
    rw [makesPlaceholder_no_transition hk, if_pos rfl]
    rcases hvm : db.vm task.targetId with _ | vm
    · simp
    · have hmem := (hc.vm_eq_some.mp hvm).1
      simp [deleteVm_ne hmem]
  | false =>
    have hsome := failedStateRevert_isSome task.kind
    rcases hr : failedStateRevert task.kind with _ | revert <;>
      rcases ht : transitionalState task.kind with _ | transitional
    · simp
    · rw [hr, ht] at hsome; cases hsome
    · rw [hr, ht] at hsome; cases hsome
    · rcases hvm : db.vm task.targetId with _ | vm
      · simp
      · have hne := failedStateRevert_ne hr ht
        by_cases hcond : task.targetType = .vm ∧ vm.state.isStr transitional = true
        · have := storeVm_reverted_ne hc hvm hcond.2 hne
          simp [hcond.1, hcond.2, this]
        · have hfalse : task.targetType = .vm → vm.state.isStr transitional = false := by
            intro htype
            by_contra hstate
            exact hcond ⟨htype, by simpa using hstate⟩
          simpa [hcond] using hfalse

/-! ## Locks and events that do not change -/

/-- A release changes the locks exactly when the task holds the lock. -/
lemma releaseLock_eq_self_iff {vmId taskId : String} {c : Cache} :
    (releaseLock vmId taskId c).vmLocks = c.vmLocks ↔
      ∀ lock ∈ Expiring.get c.vmLocks vmId, lock.taskId ≠ taskId := by
  constructor
  · intro h lock hlock htask
    have hfree := congrFun h vmId
    rw [releaseVmLock_locks, if_pos ⟨rfl, lock, hlock, htask⟩] at hfree
    have hnone : Expiring.get c.vmLocks vmId = none := Expiring.get_eq_none.mpr hfree.symm
    rw [hnone] at hlock
    cases hlock
  · intro h
    rw [releaseLock_eq_self h]

/-- The events of a task. -/
def eventsOf (db : Db) (taskId : String) : List AuditEvent :=
  db.auditEvents.filter fun e => decide (e.taskId = some taskId)

/-- Settling changes nothing of a task exactly if its events are settled. -/
lemma settled_filter {id : String} {outcome : AuditOutcome} {error : Option String}
    {events : List AuditEvent} (hout : outcome ≠ .pending) :
    ((settleEvents [id] outcome error events).filter fun e => decide (e.taskId = some id)) =
        (events.filter fun e => decide (e.taskId = some id)) ↔
      ∀ e ∈ events, e.taskId = some id → e.outcome ≠ .pending := by
  constructor
  · intro h e he hid hpending
    have hin : e ∈ (settleEvents [id] outcome error events).filter
        fun e => decide (e.taskId = some id) := by
      rw [h]
      exact List.mem_filter.mpr ⟨he, by simpa using hid⟩
    rcases mem_settled.mp (List.mem_filter.mp hin).1 with ⟨-, hnot⟩ | ⟨p, -, -, rfl⟩
    · exact hnot ⟨hpending, id, hid, List.mem_singleton_self _⟩
    · exact hout hpending
  · intro h
    have hsame : settleEvents [id] outcome error events = events := by
      refine Table.updateWhere_eq_self fun e he hcond => ?_
      obtain ⟨hpending, t, ht, hmem⟩ := of_decide_eq_true hcond
      rw [List.mem_singleton.mp hmem] at ht
      exact absurd hpending (h e he ht)
    rw [hsame]

/-! ## One late message -/

/-- Between two states, the end of a task, its events, the VM rows and the locks are the same. -/
structure Untouched (task : Task) (before after : World) : Prop where
  ended : ∃ t ∈ after.db.tasks, t.id = task.id ∧ t.status = task.status ∧
    t.finishedAt = task.finishedAt ∧ t.result = task.result ∧ t.error = task.error
  events : eventsOf after.db task.id = eventsOf before.db task.id
  vms : after.db.vms = before.db.vms
  locks : after.cache.vmLocks = before.cache.vmLocks

/-- The task has failed with the instant, the result and the error of the message; nothing is left
to settle, to drop, to roll back or to free. -/
structure AlreadyFailed (env : Env) (resp : AgentResponse) (task : Task) (w : World) : Prop where
  status : task.status = .failed
  finishedAt : task.finishedAt = some (terminalTime env w.now resp)
  result : task.result = resp.result.asText?
  error : task.error = resp.error
  events : ∀ e ∈ w.db.auditEvents, e.taskId = some task.id → e.outcome ≠ .pending
  placeholder : task.kind.makesPlaceholder = true → w.db.vm task.targetId = none
  state : ∀ vm ∈ w.db.vm task.targetId, ∀ transitional ∈ transitionalState task.kind,
    task.targetType = .vm → vm.state.isStr transitional = false
  lock : task.targetType = .vm →
    ∀ lock ∈ Expiring.get w.cache.vmLocks task.targetId, lock.taskId ≠ task.id

/-- A progress message for a task of the host that has ended. -/
structure IsLate (s : Committed) (hostId : String) (resp : AgentResponse) (task : Task) : Prop where
  found : s.world.db.taskOfHost hostId resp.id = some task
  terminal : task.status.isTerminal = true
  running : resp.status = "running"

/-- A late response is no progress. -/
lemma IsLate.not_progress {s : Committed} (h : IsLate s hostId resp task) :
    isProgress resp task.status = false := by
  simp [isProgress, h.terminal]

/-- It does not report a success. -/
lemma IsLate.not_succeeded {s : Committed} (h : IsLate s hostId resp task) :
    resp.status ≠ "succeeded" := by
  rw [h.running]
  decide

/-- A message that fails its task carries no warning over to the error. -/
lemma terminalError_failed (h : resp.status ≠ "succeeded") :
    terminalError env resp = resp.error := by
  have hstatus : terminalStatus resp ≠ .succeeded := mt terminalStatus_eq_succeeded.mp h
  unfold terminalError
  split
  · rw [if_neg fun hcond => hstatus hcond.1]
  · rfl

/-- The row of the ended task is the only one of its key. -/
lemma ended_iff {now : Time} (hc : db.Consistent) (ht : db.task task.id = some task) {after : Db}
    (htasks : after.tasks = (lifecycleDb env now resp task db).tasks) (P : Task → Prop) :
    (∃ t ∈ after.tasks, t.id = task.id ∧ P t) ↔ P (endedTask env now resp task) := by
  obtain ⟨hmem, -⟩ := hc.task_eq_some.mp ht
  rw [htasks]
  constructor
  · rintro ⟨t, htm, hid, hP⟩
    rcases Table.mem_store.mp htm with ⟨-, hne⟩ | ⟨rfl, -⟩
    · exact absurd hid hne
    · exact hP
  · exact fun hP => ⟨_, Table.mem_store.mpr (Or.inr ⟨rfl, task, hmem, rfl⟩), rfl, hP⟩

/-- A late progress message is harmless exactly when it does not land, or when the task has
already failed just as the message fails it.

**Proof sketch.** A message that does not land changes nothing. One that lands fails its task:
compare each part of the state afterwards (`ended_iff`, `settled_filter`, `failedVms_eq_self`,
`releaseLock_eq_self_iff`) with what was there. -/
theorem late_progress_iff {s : Committed} (h : IsLate s hostId resp task) :
    Untouched task s.world (System.step env s (.response hostId resp)).world ↔
      ¬ Lands env s.world.now resp ∨ AlreadyFailed env resp task s.world := by
  have hc := s.consistent
  have htask := task_of_taskOfHost h.found
  by_cases hl : Lands env s.world.now resp
  · obtain ⟨htasks, hevents, hvms, hlocks, -⟩ :=
      step_response_failed s h.found h.not_progress h.not_succeeded hl
    set after := (System.step env s (.response hostId resp)).world
    have hfailed : terminalStatus resp.stripped = .failed := if_neg h.not_succeeded
    have herror : terminalError env resp.stripped = resp.error :=
      terminalError_failed h.not_succeeded
    have hended := ended_iff hc htask htasks fun t => t.status = task.status ∧
      t.finishedAt = task.finishedAt ∧ t.result = task.result ∧ t.error = task.error
    have hsettled : eventsOf after.db task.id = eventsOf s.world.db task.id ↔
        ∀ e ∈ s.world.db.auditEvents, e.taskId = some task.id → e.outcome ≠ .pending := by
      unfold eventsOf
      rw [hevents]
      exact settled_filter outcome_ne_pending
    have hrows : failedVms s.world.db task = s.world.db.vms ↔ _ := failedVms_eq_self hc
    have hlock : after.cache.vmLocks = s.world.cache.vmLocks ↔ (task.targetType = .vm →
        ∀ lock ∈ Expiring.get s.world.cache.vmLocks task.targetId, lock.taskId ≠ task.id) := by
      rw [hlocks]
      split_ifs with htype
      · simp only [htype, true_imp_iff]
        exact releaseLock_eq_self_iff
      · simp [htype]
    constructor
    · intro hu
      obtain ⟨hstatus, hfinished, hresult, herr⟩ := hended.mp hu.ended
      obtain ⟨hplaceholder, hstate⟩ := hrows.mp (hvms.symm.trans hu.vms)
      exact Or.inr {
        status := hstatus.symm.trans hfailed
        finishedAt := hfinished.symm
        result := hresult.symm.trans (stripped_asText resp)
        error := herr.symm.trans herror
        events := hsettled.mp hu.events
        placeholder := hplaceholder
        state := hstate
        lock := hlock.mp hu.locks }
    · rintro (hnot | ha)
      · exact absurd hl hnot
      · exact {
          ended := hended.mpr ⟨hfailed.trans ha.status.symm, ha.finishedAt.symm,
            (stripped_asText resp).trans ha.result.symm, herror.trans ha.error.symm⟩
          events := hsettled.mpr ha.events
          vms := hvms.trans (hrows.mpr ⟨ha.placeholder, ha.state⟩)
          locks := hlock.mpr ha.lock }
  · have hsame := response_rejected s h.found h.not_progress hl
    refine iff_of_true ?_ (Or.inl hl)
    obtain ⟨hmem, -⟩ := hc.task_eq_some.mp htask
    exact {
      ended := ⟨task, by rw [hsame]; exact hmem, rfl, rfl, rfl, rfl, rfl⟩
      events := by rw [hsame]; rfl
      vms := by rw [hsame]; rfl
      locks := by rw [hsame]; rfl }

/-! ## Runs -/

/-- If the event is a late progress message, it leaves everything as it was. -/
def LateHarmless (env : Env) (s : Committed) (e : Event) : Prop :=
  ∀ hostId resp task, e = .response hostId resp → IsLate s hostId resp task →
    Untouched task s.world (System.step env s e).world

/-- If the event is a late progress message, it does not land or its task has failed as it says. -/
def LateAdmitted (env : Env) (s : Committed) (e : Event) : Prop :=
  ∀ hostId resp task, e = .response hostId resp → IsLate s hostId resp task →
    ¬ Lands env s.world.now resp ∨ AlreadyFailed env resp task s.world

/-- The late progress messages of a run are all harmless exactly when each of them does not land
or finds its task failed as it says. -/
theorem run_late_progress_iff (env : Env) (s : Committed) (es : List Event) :
    Machine.AllSteps (System.step env) (LateHarmless env) s es ↔
      Machine.AllSteps (System.step env) (LateAdmitted env) s es := by
  refine Machine.AllSteps.congr (I := fun _ => True) (fun _ _ _ _ => trivial) ?_ trivial
  intro s e _
  constructor
  · intro h hostId resp task he hlate
    have hu := h hostId resp task he hlate
    subst he
    exact (late_progress_iff hlate).mp hu
  · intro h hostId resp task he hlate
    have ha := h hostId resp task he hlate
    subst he
    exact (late_progress_iff hlate).mpr ha

/-- The start of a VM, ended with success. -/
@[irreducible] def Demo.startEnded : Committed :=
  System.step Demo.settings Demo.startQueued (.response "h" Demo.started)

/-- A progress message of the start. -/
def Demo.progress : AgentResponse := { Demo.started with status := "running" }

/-- Not every late progress message is harmless: one that comes after the success of its task fails
the task. -/
theorem late_progress_counterexample :
    ¬ ∀ (env : Env) (s : Committed) (hostId : String) (resp : AgentResponse) (task : Task),
      System.Reachable env s → IsLate s hostId resp task →
      Untouched task s.world (System.step env s (.response hostId resp)).world := by
  intro h
  have hreach : System.Reachable Demo.settings Demo.startEnded := by
    unfold Demo.startEnded
    exact Demo.startQueued_reachable.step _
  obtain ⟨task, htask⟩ : ∃ task, Demo.startEnded.world.db.taskOfHost "h" Demo.progress.id =
      some task := Option.isSome_iff_exists.mp (by decide +kernel)
  have hsucceeded : ∀ t ∈ Demo.startEnded.world.db.taskOfHost "h" Demo.progress.id,
      t.status = .succeeded := by decide +kernel
  have hstatus : task.status = .succeeded := hsucceeded task htask
  have hlate : IsLate Demo.startEnded "h" Demo.progress task :=
    ⟨htask, by rw [hstatus]; rfl, rfl⟩
  have hfailed : ∀ t ∈ (System.step Demo.settings Demo.startEnded
      (.response "h" Demo.progress)).world.db.tasks, t.status = .failed := by decide +kernel
  obtain ⟨t, hmem, -, hsame, -⟩ :=
    (h Demo.settings Demo.startEnded "h" Demo.progress task hreach hlate).ended
  rw [hfailed t hmem, hstatus] at hsame
  cases hsame

end OpenVCenter
