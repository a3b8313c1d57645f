import OpenVCenter.Session

set_option relaxedAutoImplicit false
set_option autoImplicit false

/-!
# The cache, the task deadlines and the audit trail

`cache.py`, `task_timeouts.py` and the writing half of `services/audit.py`.

## Main definitions

* `OpenVCenter.taskTimeoutSeconds` — the deadline of a kind of task.
* `OpenVCenter.setVmState`, `OpenVCenter.clearVmState` — the state overlay.
* `OpenVCenter.acquireVmLock`, `OpenVCenter.releaseVmLock` — the VM lock.
* `OpenVCenter.markVmDeleted`, `OpenVCenter.listDeletedVmUuids`, `OpenVCenter.clearVmDeleted` —
  the tombstones.
* `OpenVCenter.record`, `OpenVCenter.settleTaskEvents` — audit events.

## Main results

* `OpenVCenter.releaseVmLock_locks` — a release for a task frees that task's lock or nothing.
* `OpenVCenter.mem_settled` — what settling does to an event.
-/

namespace OpenVCenter

open Effect

variable (env : Env)

/-! ## Deadlines -/

/-- `_LONG_TASK_TIMEOUTS.get(kind, 0)`. -/
def longTaskTimeout : TaskKind → ℤ
  | .vm_shutdown => 900
  | .vm_create | .vm_move | .vm_rename | .vm_export_template | .vm_clone | .vm_edit => 2100
  | .host_update_agent => 1800
  | _ => 0

/-- `task_timeout_seconds`. -/
def taskTimeoutSeconds (kind : TaskKind) : ℤ := max (longTaskTimeout kind) env.taskTimeoutSeconds

/-- No timeout is under the default. -/
theorem default_le_taskTimeout (kind : TaskKind) :
    env.taskTimeoutSeconds ≤ taskTimeoutSeconds env kind := le_max_right _ _

/-- A timeout is positive. -/
theorem taskTimeout_pos (kind : TaskKind) : 0 < taskTimeoutSeconds env kind :=
  lt_of_lt_of_le env.taskTimeout_pos (default_le_taskTimeout env kind)

/-! ## The state overlay -/

/-- The encoding of a value by the client library; none for a value it refuses. -/
def encodeValue : Json → Option String
  | .str s => some s
  | .int i => some (toString i)
  | .float f => some (env.py.repr (.float f))
  | _ => none

/-- `set_vm_state`. -/
def setVmState (vmId : String) (state : Json) : M Unit := do
  let text ← M.ofOption .dataError (encodeValue env state)
  let w ← Prog.read
  modifyCache fun c =>
    { c with vmStates := Expiring.put c.vmStates vmId text (w.now + seconds env.vmStateTtlSeconds) }

/-- The run of a write of the overlay that returns. -/
theorem setVmState_eq_ok {env : Env} {vmId : String} {state : Json} {w t : World} :
    setVmState env vmId state w = (.ok (), t) ↔ ∃ text, encodeValue env state = some text ∧
      t = { w with cache := { w.cache with
        vmStates := Expiring.put w.cache.vmStates vmId text
          (w.now + seconds env.vmStateTtlSeconds) } } := by
  unfold setVmState
  rcases h : encodeValue env state with _ | text
  · simp [M.ofOption]
  · simp [M.ofOption, modifyCache, eq_comm]

/-- `clear_vm_state`. -/
def clearVmState (vmId : String) : M Unit :=
  modifyCache fun c => { c with vmStates := Expiring.erase c.vmStates vmId }

/-! ## The VM lock -/

/-- `_lock_ttl`. -/
def lockTtl (kind : TaskKind) : ℤ := taskTimeoutSeconds env kind + 60

/-- `acquire_vm_lock`: `SET .. NX`; false when another task holds the lock. -/
def acquireVmLock (vmId taskId : String) (kind : TaskKind) (requestedBy : String) : M Bool := do
  let w ← Prog.read
  match Expiring.get w.cache.vmLocks vmId with
  | some _ => pure false
  | none => do
    modifyCache fun c =>
      { c with vmLocks := Expiring.put c.vmLocks vmId ⟨taskId, kind, requestedBy, w.now⟩
                            (w.now + seconds (lockTtl env kind)) }
    pure true

section Acquire

variable {env : Env} {w : World} {vmId taskId : String} {kind : TaskKind} {requestedBy : String}

/-- A free lock is taken. -/
theorem acquireVmLock_free (h : Expiring.get w.cache.vmLocks vmId = none) :
    acquireVmLock env vmId taskId kind requestedBy w =
      (.ok true, { w with cache := { w.cache with
        vmLocks := Expiring.put w.cache.vmLocks vmId ⟨taskId, kind, requestedBy, w.now⟩
          (w.now + seconds (lockTtl env kind)) } }) := by
  unfold acquireVmLock
  rw [Prog.read_bind_run, h]
  rfl

/-- A held lock is left to its task. -/
theorem acquireVmLock_held {lock : Lock} (h : Expiring.get w.cache.vmLocks vmId = some lock) :
    acquireVmLock env vmId taskId kind requestedBy w = (.ok false, w) := by
  unfold acquireVmLock
  rw [Prog.read_bind_run, h]
  rfl

end Acquire

/-- The compare-and-delete of `_RELEASE_LUA`. -/
def releaseLock (vmId taskId : String) (c : Cache) : Cache :=
  match Expiring.get c.vmLocks vmId with
  | some lock => if lock.taskId = taskId then { c with vmLocks := Expiring.erase c.vmLocks vmId }
    else c
  | none => c

/-- `release_vm_lock` with a task. -/
def releaseVmLock (vmId taskId : String) : M Unit := modifyCache (releaseLock vmId taskId)

/-- `release_vm_lock` without a task: unconditional. -/
def forceReleaseVmLock (vmId : String) : M Unit :=
  modifyCache fun c => { c with vmLocks := Expiring.erase c.vmLocks vmId }

/-- A release leaves the overlays alone. -/
@[simp] theorem releaseLock_vmStates (vmId taskId : String) (c : Cache) :
    (releaseLock vmId taskId c).vmStates = c.vmStates := by
  unfold releaseLock
  split
  · split <;> rfl
  · rfl

/-- It leaves the tombstones alone. -/
@[simp] theorem releaseLock_tombstones (vmId taskId : String) (c : Cache) :
    (releaseLock vmId taskId c).tombstones = c.tombstones := by
  unfold releaseLock
  split
  · split <;> rfl
  · rfl

/-- A release for a task frees the lock of its VM when that task holds it, and nothing else. -/
theorem releaseVmLock_locks (vmId taskId x : String) (c : Cache) :
    (releaseLock vmId taskId c).vmLocks x =
      if x = vmId ∧ ∃ lock ∈ Expiring.get c.vmLocks vmId, lock.taskId = taskId then none
      else c.vmLocks x := by
  unfold releaseLock
  rcases h : Expiring.get c.vmLocks vmId with _ | lock
  · simp
  · by_cases ht : lock.taskId = taskId
    · by_cases hx : x = vmId
      · subst hx; simp [ht]
      · simp [ht, hx]
    · simp [ht]

/-- A release for a task that does not hold the lock does nothing. -/
theorem releaseLock_eq_self {vmId taskId : String} {c : Cache}
    (h : ∀ lock ∈ Expiring.get c.vmLocks vmId, lock.taskId ≠ taskId) :
    releaseLock vmId taskId c = c := by
  unfold releaseLock
  rcases hg : Expiring.get c.vmLocks vmId with _ | lock
  · rfl
  · simp [h lock hg]

/-! ## Tombstones -/

/-- `_VM_TOMBSTONE_TTL`. -/
def vmTombstoneTtl : ℤ := 900

/-- `mark_vm_deleted`. -/
def markVmDeleted (hostId vmUuid : String) : M Unit :=
  if vmUuid.isEmpty then pure ()
  else do
    let w ← Prog.read
    modifyCache fun c =>
      { c with tombstones := Expiring.put c.tombstones (hostId, vmUuid) w.now
                               (w.now + seconds vmTombstoneTtl) }

/-- `list_deleted_vm_uuids`, as the membership test of the set. -/
def listDeletedVmUuids (hostId : String) (w : World) : String → Bool :=
  fun vmUuid => (Expiring.get w.cache.tombstones (hostId, vmUuid)).isSome

/-- `clear_vm_deleted` of every GUID of a set. -/
def clearVmDeleted (hostId : String) (uuids : String → Bool) : M Unit :=
  modifyCache fun c =>
    { c with tombstones :=
        Expiring.eraseWhere c.tombstones fun k => decide (k.1 = hostId) && uuids k.2 }

/-! ## Audit events -/

/-- A signed-in user. -/
structure User where
  email : String
  displayName : Option String

/-- `_TargetRef`. -/
structure TargetRef where
  type : String
  id : Option String
  name : Json
  hostId : Option String
  clusterId : Option String

/-- `_ref` of a VM. -/
def Vm.ref (v : Vm) : TargetRef := ⟨"vm", some v.id, v.name, some v.hostId, v.clusterId⟩

/-- `_ref` of a host. -/
def Host.ref (h : Host) : TargetRef := ⟨"host", some h.id, .str h.name, some h.id, h.clusterId⟩

/-- `SYSTEM_ACTOR_NAME`. -/
def systemActorName : String := "Open vCenter"

/-- The event `record` adds. -/
def auditEvent (id : String) (now : Time) (actor : Option User) (action : String)
    (target : TargetRef) (task : Option Task) (details : Json) : AuditEvent where
  id := id
  occurredAt := now
  actorType := if actor.isSome then .user else .system
  actorEmail := actor.map User.email
  actorName := match actor with
    | some u => match u.displayName with
      | some n => if n.isEmpty then some u.email else some n
      | none => some u.email
    | none => some systemActorName
  action := action
  targetType := target.type
  targetId := target.id
  targetName := target.name
  hostId := target.hostId
  clusterId := target.clusterId
  taskId := task.map Task.id
  outcome := if task.isSome then .pending else .succeeded
  details := if details.truthy then details else .null

/-- `record`. -/
def record (actor : Option User) (action : String) (target : TargetRef) (task : Option Task)
    (details : Json) : M Unit := do
  let id ← newId env
  let w ← Prog.read
  modifyDb fun db =>
    { db with auditEvents := db.auditEvents ++
        [auditEvent id w.now actor action target task details] }
  flush

/-- The run of a recording that returns. -/
theorem record_eq_ok {env : Env} {actor : Option User} {action : String} {target : TargetRef}
    {task : Option Task} {details : Json} {w t : World}
    (h : record env actor action target task details w = (.ok (), t)) :
    t.db.Consistent ∧ t = { w with
      nextId := w.nextId + 1
      db := { w.db with auditEvents := w.db.auditEvents ++
        [auditEvent (env.uuid w.nextId) w.now actor action target task details] } } := by
  have hrun : record env actor action target task details w = flush { w with
      nextId := w.nextId + 1
      db := { w.db with auditEvents := w.db.auditEvents ++
        [auditEvent (env.uuid w.nextId) w.now actor action target task details] } } := rfl
  rw [hrun] at h
  obtain ⟨hc, rfl⟩ := flush_eq_ok.mp h
  exact ⟨hc, rfl⟩

/-- The outcome of a terminal status. -/
def TaskStatus.outcome : TaskStatus → AuditOutcome
  | .queued | .running => .pending
  | .succeeded => .succeeded
  | .failed => .failed
  | .timeout => .timeout

/-- The `UPDATE` of `settle_task_events`: a pending event of one of the tasks is settled. -/
def settleEvents (taskIds : List String) (outcome : AuditOutcome) (error : Option String) :
    List AuditEvent → List AuditEvent :=
  Table.updateWhere
    (fun e => decide (e.outcome = .pending ∧ ∃ t ∈ e.taskId, t ∈ taskIds))
    fun e => { e with outcome := outcome, error := error }

/-- `settle_task_events`. The statement is checked as it runs. -/
def settleTaskEvents (taskIds : List String) (outcome : AuditOutcome) (error : Option String) :
    M Unit := do
  if taskIds.isEmpty then pure ()
  else do
    modifyDb fun db => { db with auditEvents := settleEvents taskIds outcome error db.auditEvents }
    flush

/-- What settling does to an event: nothing, or outcome and error of a pending one. -/
theorem mem_settled {taskIds : List String} {outcome : AuditOutcome} {error : Option String}
    {events : List AuditEvent} {e : AuditEvent} :
    e ∈ settleEvents taskIds outcome error events ↔
      (e ∈ events ∧ ¬ (e.outcome = .pending ∧ ∃ t ∈ e.taskId, t ∈ taskIds)) ∨
      ∃ p ∈ events, (p.outcome = .pending ∧ ∃ t ∈ p.taskId, t ∈ taskIds) ∧
        { p with outcome := outcome, error := error } = e := by
  unfold settleEvents
  rw [Table.mem_updateWhere]
  simp only [decide_eq_false_iff_not, decide_eq_true_eq]

end OpenVCenter
