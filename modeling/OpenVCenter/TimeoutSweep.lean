import OpenVCenter.MutualExclusion

set_option relaxedAutoImplicit false
set_option autoImplicit false

/-!
# One timeout sweep

What a sweep of `worker/main.py` that raises nothing leaves behind, table by table. The tasks are
looked for in two stages, by the shortest deadline in SQL and by that of their own kind behind it;
the second implies the first.

## Main definitions

* `OpenVCenter.overdue` — the task is active, and past the deadline of its kind.
* `OpenVCenter.SweptExactly` — the state after a sweep, by the state before.

## Main results

* `OpenVCenter.staleTasks_eq` — the first stage hides no task.
* `OpenVCenter.sweep_exact` — a sweep that completes does what it is for, and nothing else.
-/

namespace OpenVCenter

open Effect

variable {env : Env}

/-! ## What a sweep is for -/

/-- The task is active, and past the deadline of its kind. -/
def overdue (env : Env) (now : Time) (task : Task) : Bool :=
  !task.status.isTerminal &&
    decide (task.createdAt < now - seconds (taskTimeoutSeconds env task.kind))

/-- The task of an event is overdue. -/
def EventOverdue (env : Env) (w : World) (e : AuditEvent) : Prop :=
  ∃ task ∈ w.db.tasks, overdue env w.now task = true ∧ e.taskId = some task.id

/-- An overdue task has the lock of its VM. -/
def LockOverdue (env : Env) (w : World) (vmId : String) : Prop :=
  ∃ lock ∈ Expiring.get w.cache.vmLocks vmId, ∃ task ∈ w.db.tasks,
    overdue env w.now task = true ∧ task.targetType = .vm ∧ task.targetId = vmId ∧
      task.id = lock.taskId

/-- The row has no GUID, and is the target of a create or clone that timed out or failed. -/
def Orphaned (tasks : List Task) (vm : Vm) : Prop :=
  vm.vmUuid = none ∧ ∃ task ∈ tasks, task.targetId = vm.id ∧
    (task.kind = .vm_create ∨ task.kind = .vm_clone) ∧
    (task.status = .timeout ∨ task.status = .failed)

/-- Whether an event is overdue can be decided. -/
instance (w : World) (e : AuditEvent) : Decidable (EventOverdue env w e) :=
  inferInstanceAs (Decidable (∃ task ∈ w.db.tasks, _))

/-- Whether a lock is overdue can be decided. -/
instance (w : World) (vmId : String) : Decidable (LockOverdue env w vmId) :=
  inferInstanceAs (Decidable (∃ lock ∈ Expiring.get w.cache.vmLocks vmId, ∃ task ∈ w.db.tasks, _))

/-- Whether a row is orphaned can be decided. -/
instance (tasks : List Task) (vm : Vm) : Decidable (Orphaned tasks vm) :=
  inferInstanceAs (Decidable (_ ∧ ∃ task ∈ tasks, _))

/-- **The state after a sweep.** -/
structure SweptExactly (env : Env) (w t : World) : Prop where
  tasks : t.db.tasks = w.db.tasks.map fun task =>
    if overdue env w.now task then timedOut w.now task else task
  events : t.db.auditEvents = w.db.auditEvents.map fun e =>
    if e.outcome = .pending ∧ EventOverdue env w e then
      { e with outcome := .timeout, error := some timeoutError } else e
  locks : ∀ vmId, t.cache.vmLocks vmId =
    if LockOverdue env w vmId then none else w.cache.vmLocks vmId
  vms : t.db.vms = w.db.vms.filter fun vm => !decide (Orphaned t.db.tasks vm)
  thumbnails : t.db.thumbnails = w.db.thumbnails.filter fun image =>
    decide (image.vmId ∈ t.db.vms.map Vm.id)
  samples : t.db.vmMetrics = w.db.vmMetrics.filter fun m =>
    decide (m.vmId ∈ t.db.vms.map Vm.id)
  rest : t = { w with
    db := { w.db with
      tasks := t.db.tasks
      auditEvents := t.db.auditEvents
      vms := t.db.vms
      thumbnails := t.db.thumbnails
      vmMetrics := t.db.vmMetrics }
    cache := { w.cache with vmLocks := t.cache.vmLocks } }

/-! ## The two stages -/

/-- A deadline is never shorter than the default. -/
lemma overdue_default {now : Time} {task : Task} (h : overdue env now task = true) :
    task.createdAt < now - seconds env.taskTimeoutSeconds := by
  simp only [overdue, Bool.and_eq_true, decide_eq_true_eq] at h
  have hdefault : seconds env.taskTimeoutSeconds ≤ seconds (taskTimeoutSeconds env task.kind) := by
    have hle := default_le_taskTimeout env task.kind
    unfold seconds
    omega
  have hlate := h.2
  linarith

/-- **The first stage hides no task** that is past its own deadline. -/
theorem staleTasks_eq (now : Time) (db : Db) :
    staleTasks env now db = db.tasks.filter (overdue env now) := by
  unfold staleTasks
  rw [List.filter_filter]
  refine List.filter_congr fun task _ => ?_
  rw [Bool.eq_iff_iff]
  constructor
  · intro h
    simp only [Bool.and_eq_true, decide_eq_true_eq] at h
    simp only [overdue, Bool.and_eq_true, decide_eq_true_eq]
    exact ⟨h.2.1, h.1⟩
  · intro h
    have hdefault := overdue_default h
    simp only [overdue, Bool.and_eq_true, decide_eq_true_eq] at h
    simp only [Bool.and_eq_true, decide_eq_true_eq]
    exact ⟨h.2, h.1, hdefault⟩

/-! ## Tables -/

section Tables

variable {w t : World}

/-- With distinct keys, a task whose key is that of an overdue one is it. -/
lemma mem_staleIds (hk : (w.db.tasks.map Task.id).Nodup) {task : Task} (ht : task ∈ w.db.tasks) :
    task.id ∈ (staleTasks env w.now w.db).map Task.id ↔ overdue env w.now task = true := by
  rw [staleTasks_eq]
  constructor
  · intro h
    obtain ⟨other, hother, hid⟩ := List.mem_map.mp h
    obtain ⟨hmem, hoverdue⟩ := List.mem_filter.mp hother
    rwa [← Table.eq_of_mem_of_key hk hmem ht hid]
  · exact fun h => List.mem_map_of_mem (List.mem_filter.mpr ⟨ht, h⟩)

/-- The tasks after the sweep. -/
lemma timedOutDb_tasks (hk : (w.db.tasks.map Task.id).Nodup) :
    (timedOutDb env w.now w.db).tasks = w.db.tasks.map fun task =>
      if overdue env w.now task then timedOut w.now task else task := by
  refine List.map_congr_left fun task ht => ?_
  have hiff := @mem_staleIds env w hk task ht
  by_cases h : overdue env w.now task = true
  · rw [if_pos h, if_pos (decide_eq_true (hiff.mpr h))]
  · rw [if_neg h, if_neg (by simpa using mt hiff.mp h)]

/-- The events after the sweep. -/
lemma timedOutDb_events : (timedOutDb env w.now w.db).auditEvents = w.db.auditEvents.map fun e =>
    if e.outcome = .pending ∧ EventOverdue env w e then
      { e with outcome := .timeout, error := some timeoutError } else e := by
  refine List.map_congr_left fun e _ => ?_
  have hiff : (e.outcome = .pending ∧ ∃ t ∈ e.taskId, t ∈ (staleTasks env w.now w.db).map Task.id) ↔
      e.outcome = .pending ∧ EventOverdue env w e := by
    refine and_congr_right fun _ => ?_
    rw [staleTasks_eq]
    unfold EventOverdue
    constructor
    · rintro ⟨id, hid, hmem⟩
      obtain ⟨task, htask, rfl⟩ := List.mem_map.mp hmem
      obtain ⟨hmem, hoverdue⟩ := List.mem_filter.mp htask
      exact ⟨task, hmem, hoverdue, hid⟩
    · rintro ⟨task, hmem, hoverdue, hid⟩
      exact ⟨task.id, hid, List.mem_map_of_mem (List.mem_filter.mpr ⟨hmem, hoverdue⟩)⟩
  by_cases h : e.outcome = .pending ∧ EventOverdue env w e
  · rw [if_pos h, if_pos (decide_eq_true (hiff.mpr h))]
  · rw [if_neg h, if_neg (by simpa using mt hiff.mp h)]

/-- The condition of the delete of placeholders. -/
lemma isOrphan_iff {db : Db} {vm : Vm} : isOrphan db vm = decide (Orphaned db.tasks vm) := by
  rw [Bool.eq_iff_iff, decide_eq_true_iff]
  unfold isOrphan Orphaned
  simp only [Bool.and_eq_true, Option.isNone_iff_eq_none, List.any_eq_true, decide_eq_true_eq]
  refine and_congr_right fun _ => exists_congr fun task => and_congr_right fun _ => ?_
  have hkind : task.kind.makesPlaceholder = true ↔
      task.kind = .vm_create ∨ task.kind = .vm_clone := by
    cases task.kind <;> decide
  rw [hkind, and_assoc]

end Tables

/-! ## Locks -/

section Locks

variable {tasks : List Task} {c : Cache} {vmId : String}

/-- The locks of the VMs that the tasks target are freed. -/
def releaseTasks (tasks : List Task) (c : Cache) : Cache :=
  tasks.foldl (fun c t => if t.targetType = .vm then releaseLock t.targetId t.id c else c) c

/-- The locks of the tasks are released one after another. -/
lemma releaseTasks_run (tasks : List Task) (w : World) :
    (tasks.foldlM (fun _ t =>
      if t.targetType = .vm then releaseVmLock t.targetId t.id else pure ()) () : M Unit) w =
        (.ok (), { w with cache := releaseTasks tasks w.cache }) := by
  induction tasks generalizing w with
  | nil => rfl
  | cons t tasks ih =>
    rw [List.foldlM_cons]
    unfold releaseTasks
    rw [List.foldl_cons]
    by_cases hvm : t.targetType = .vm
    · rw [if_pos hvm, if_pos hvm]
      exact ih { w with cache := releaseLock t.targetId t.id w.cache }
    · rw [if_neg hvm, if_neg hvm]
      exact ih w

/-- Nothing else of the cache is touched. -/
lemma releaseTasks_rest :
    releaseTasks tasks c = { c with vmLocks := (releaseTasks tasks c).vmLocks } := by
  have hrest : (releaseTasks tasks c).vmStates = c.vmStates ∧
      (releaseTasks tasks c).tombstones = c.tombstones := by
    induction tasks generalizing c with
    | nil => exact ⟨rfl, rfl⟩
    | cons t tasks ih =>
      have hstep : releaseTasks (t :: tasks) c =
          releaseTasks tasks (if t.targetType = .vm then releaseLock t.targetId t.id c else c) :=
        rfl
      rw [hstep, (ih (c := ite _ _ c)).1, (ih (c := ite _ _ c)).2]
      split_ifs
      · exact ⟨releaseLock_vmStates _ _ _, releaseLock_tombstones _ _ _⟩
      · exact ⟨rfl, rfl⟩
  rw [← hrest.1, ← hrest.2]

/-- One of the tasks targets the VM and has its lock. -/
def HeldByOne (tasks : List Task) (c : Cache) (vmId : String) : Prop :=
  ∃ lock ∈ Expiring.get c.vmLocks vmId, ∃ task ∈ tasks,
    task.targetType = .vm ∧ task.targetId = vmId ∧ task.id = lock.taskId

/-- Whether one of the tasks holds a lock can be decided. -/
instance : Decidable (HeldByOne tasks c vmId) :=
  inferInstanceAs (Decidable (∃ lock ∈ Expiring.get c.vmLocks vmId, ∃ task ∈ tasks, _))

/-- **A lock goes** when one of the tasks has it; a lock that is gone stays gone, and the others
are what they were.

**Proof sketch.** Induction on the tasks. The first task frees the lock when it has it, and the ones
behind it leave it free; otherwise the lock is unchanged, and so is whether one of the others has
it. -/
lemma releaseTasks_vmLocks : (releaseTasks tasks c).vmLocks vmId =
    if HeldByOne tasks c vmId then none else c.vmLocks vmId := by
  induction tasks generalizing c with
  | nil =>
    rw [if_neg]
    · rfl
    · rintro ⟨lock, -, task, htask, -⟩
      cases htask
  | cons t tasks ih =>
    have hstep : releaseTasks (t :: tasks) c =
        releaseTasks tasks (if t.targetType = .vm then releaseLock t.targetId t.id c else c) := rfl
    rw [hstep, ih]
    by_cases hfirst : t.targetType = .vm ∧ t.targetId = vmId ∧
        ∃ lock ∈ Expiring.get c.vmLocks vmId, t.id = lock.taskId
    · obtain ⟨hvm, rfl, lock, hlock, hid⟩ := hfirst
      have hfreed : (releaseLock t.targetId t.id c).vmLocks t.targetId = none := by
        rw [releaseVmLock_locks, if_pos ⟨rfl, lock, hlock, hid.symm⟩]
      rw [if_pos hvm, hfreed, ite_self, if_pos]
      exact ⟨lock, hlock, t, List.mem_cons_self, hvm, rfl, hid⟩
    · have hkept : (if t.targetType = .vm then releaseLock t.targetId t.id c else c).vmLocks vmId =
          c.vmLocks vmId := by
        split_ifs with hvm
        · rw [releaseVmLock_locks, if_neg]
          rintro ⟨rfl, lock, hlock, hid⟩
          exact hfirst ⟨hvm, rfl, lock, hlock, hid.symm⟩
        · rfl
      have hget : Expiring.get (if t.targetType = .vm then releaseLock t.targetId t.id c
          else c).vmLocks vmId = Expiring.get c.vmLocks vmId := congrArg (Option.map _) hkept
      have hheld : HeldByOne tasks (if t.targetType = .vm then releaseLock t.targetId t.id c
          else c) vmId ↔ HeldByOne (t :: tasks) c vmId := by
        unfold HeldByOne
        rw [hget]
        constructor
        · rintro ⟨lock, hlock, task, htask, h⟩
          exact ⟨lock, hlock, task, List.mem_cons_of_mem _ htask, h⟩
        · rintro ⟨lock, hlock, task, htask, hvm, htarget, hid⟩
          rcases List.mem_cons.mp htask with rfl | htask
          · exact absurd ⟨hvm, htarget, lock, hlock, hid⟩ hfirst
          · exact ⟨lock, hlock, task, htask, hvm, htarget, hid⟩
      rw [hkept]
      exact if_congr hheld rfl rfl

end Locks

/-! ## The sweep -/

/-- A first half that returns, as a whole. -/
lemma timeOutStaleTasks_run {w t : World} (h : timeOutStaleTasks env w = (.ok (), t)) :
    t = { w with
      db := timedOutDb env w.now w.db
      cache := releaseTasks (staleTasks env w.now w.db) w.cache } := by
  unfold timeOutStaleTasks at h
  rw [Prog.read_bind_run] at h
  dsimp only at h
  split at h
  · rename_i hempty
    obtain rfl : w = t := congrArg Prod.snd h
    rw [timedOutDb_of_none_stale (List.isEmpty_iff.mp hempty), List.isEmpty_iff.mp hempty]
    rfl
  · rw [modifyDb, Prog.modify_bind_run] at h
    obtain ⟨⟨⟩, w₁, h₁, h⟩ := Prog.bind_eq_ok.mp h
    obtain ⟨⟨⟩, w₂, h₂, h⟩ := Prog.bind_eq_ok.mp h
    obtain ⟨-, rfl⟩ := flush_eq_ok.mp h₁
    obtain rfl := settleTaskEvents_eq_ok h₂
    rw [releaseTasks_run] at h
    exact (congrArg Prod.snd h).symm

/-- **A sweep that completes** changes to `timeout` exactly the active tasks past the deadline of
their own kind, settles their pending events, frees the locks they have, deletes the placeholders
of creates and clones that have timed out or failed, and changes nothing else. -/
theorem sweep_exact (s : Committed) (h : SweepCompletes env s) :
    SweptExactly env (atStart s.world) (System.step env s .sweep).world := by
  obtain ⟨⟨⟩, w, hfirst, hsecond⟩ := Prog.bind_eq_ok.mp h.run
  have hstep : { w with db := w.db.deleteVms (isOrphan w.db) } =
      (System.step env s .sweep).world := congrArg Prod.snd hsecond
  rw [← hstep, timeOutStaleTasks_run hfirst]
  have hk : ((atStart s.world).db.tasks.map Task.id).Nodup := s.consistent.keyed.taskIds
  constructor
  · exact timedOutDb_tasks hk
  · exact timedOutDb_events
  · intro vmId
    refine releaseTasks_vmLocks.trans (if_congr ?_ rfl rfl)
    rw [staleTasks_eq]
    refine exists_congr fun lock => and_congr_right fun _ => exists_congr fun task => ?_
    rw [List.mem_filter, and_assoc]
  · exact List.filter_congr fun vm _ => by rw [isOrphan_iff]; rfl
  · rfl
  · rfl
  · dsimp only
    rw [← releaseTasks_rest]
    rfl

/-- The VM `"g"` is reported and started, and the agent does not answer for 400 seconds. -/
@[irreducible] def Demo.unanswered : Committed :=
  System.run Demo.settings Demo.start
    [.vmInventory "h" (Demo.snapshot ["g"]), .vmAction 0 Demo.user "" .start [], .tick 400000000]

/-- A task that nobody answered times out. -/
theorem sweep_exact_unanswered :
    (System.step Demo.settings Demo.unanswered .sweep).world.db.tasks.map Task.status = [.timeout] ∧
      SweptExactly Demo.settings (atStart Demo.unanswered.world)
        (System.step Demo.settings Demo.unanswered .sweep).world := by
  refine ⟨?_, sweep_exact Demo.unanswered ?_⟩
  · unfold Demo.unanswered
    decide +kernel
  · unfold SweepCompletes Demo.unanswered
    decide +kernel

end OpenVCenter
