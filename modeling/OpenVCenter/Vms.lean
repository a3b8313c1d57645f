import OpenVCenter.Cache
import OpenVCenter.Normalize

set_option relaxedAutoImplicit false
set_option autoImplicit false

/-!
# VM requests

`services/vms.py` and the routes of `api/routes/vms.py` that call it: a request on a VM checks
its host, takes the lock of the VM, adds a task and publishes the request to the agent.

## Main definitions

* `OpenVCenter.requireHostOnline`, `OpenVCenter.requireVmStorageAllowed` — the checks.
* `OpenVCenter.VmAction` — `ACTION_MAP`.
* `OpenVCenter.Calls` — how the calls of a service to the database, Valkey and the broker end.
* `OpenVCenter.queueVmTaskOver`, `OpenVCenter.requestVmActionOver` — the services, with calls that
  may fail; `OpenVCenter.queueVmTask`, `OpenVCenter.requestVmAction` are those with every call
  answered.

## Design

The caller's scope is not modelled: a request is one its caller may make. A task's
`created_at` is PostgreSQL's `now()`, the start of the transaction.
-/

namespace OpenVCenter

open Effect

variable (env : Env)

/-! ## Errors -/

/-- `not_found`. -/
def notFound (what : String) : Raised :=
  .apiError { code := "NOT_FOUND", message := what ++ " not found", statusCode := 404 }

/-- The host's agent stopped checking in. -/
def hostOffline (host : Host) : Raised :=
  .apiError {
    code := "HOST_OFFLINE"
    message := "Host '" ++ host.name ++
      "' agent is offline - VM actions are unavailable until it reconnects"
    statusCode := 409 }

/-- A clustered host takes VMs on shared volumes only. -/
def notOnSharedVolume (host : Host) (dest : List Char) : Raised :=
  .apiError {
    code := "STORAGE_NOT_ALLOWED"
    message := "Host '" ++ host.name ++ "' is in a cluster - VMs must be placed on a " ++
      "Cluster Shared Volume, not '" ++
      (if dest.isEmpty then "the default VM path" else String.ofList dest) ++ "'" }

/-- A standalone host takes no VM on its system drive. -/
def onSystemDrive (dest : List Char) : Raised :=
  .apiError {
    code := "STORAGE_NOT_ALLOWED"
    message := "VMs cannot be placed on the system drive ('" ++ String.ofList dest ++
      "') - it is not the host's Hyper-V default VM path" }

/-- The VM has no GUID yet. -/
def vmNotReady (message : String) : Raised :=
  .apiError { code := "VM_NOT_READY", message, statusCode := 409 }

/-- `vm_locked`. -/
def vmLocked (vmName : Json) (lock : Option Lock) : Raised :=
  let kind := match lock with
    | some lock => lock.kind.name
    | none => "operation"
  .apiError {
    code := "VM_LOCKED"
    message := "'" ++ env.py.str vmName ++ "' is busy - a " ++ kind ++
      " is already running on it. Wait for it to finish before trying again."
    statusCode := 409
    details := .obj [("lock", match lock with
      | some lock => .obj [("task_id", .str lock.taskId), ("kind", .str lock.kind.name),
          ("requested_by", .str lock.requestedBy),
          ("acquired_at", .str (env.py.isoformat lock.acquiredAt))]
      | none => .obj [])] }

/-- Only a highly available VM moves between nodes. -/
def haRequired (vm : Vm) : Raised :=
  .apiError {
    code := "HA_REQUIRED"
    message := "'" ++ env.py.str vm.name ++ "' does not have High Availability enabled - " ++
      "enable HA before migrating it to another cluster node"
    statusCode := 409 }

/-- A storage move names its destination. -/
def destinationRequired : Raised :=
  .apiError { code := "VALIDATION_ERROR", message := "destination_storage is required" }

/-! ## The host -/

/-- `agent_connected`. -/
def agentConnected (now : Time) (host : Host) : Bool :=
  match host.agentLastSeen with
  | none => false
  | some last => decide (now - seconds env.agentOfflineAfterSeconds ≤ last)

/-- `_require_host_online`. -/
def requireHostOnline (host : Host) : M Unit := do
  let w ← Prog.read
  if agentConnected env w.now host then pure ()
  else Prog.raise (hostOffline host)

/-- `(host.hardware or {}).get(key) or {}`. -/
def hardwareSection (host : Host) (key : String) : Except Raised Dict := do
  let hardware ← (host.hardware.orElse (.obj [])).asDict
  ((hardware.get key).orElse (.obj [])).asDict

/-- `host_is_clustered`. -/
def hostIsClustered (host : Host) : Except Raised Bool := do
  let cluster ← hardwareSection host "cluster"
  pure (host.clusterId.isSome || (cluster.get "clustered").truthy)

/-! ## Storage paths -/

/-- `_norm_path`. -/
def normPath (path : Json) : Except Raised (List Char) :=
  match path.orElse (.str "") with
  | .str s =>
    .ok ((((env.py.strip s).toList.map fun c => if c = '/' then '\\' else c).reverse.dropWhile
      fun c => decide (c = '\\')).reverse)
  | _ => .error .attributeError

/-- A character matches a lower-case ASCII letter under `re.IGNORECASE`. -/
def matchesLetter (c letter : Char) : Bool :=
  decide (c.toLower = letter ∨ (letter = 's' ∧ c = '\u017f'))

/-- A character matches `[a-z]` under `re.IGNORECASE`: beside the letters of ASCII, the dotted
capital I, the dotless small i, the long s and the Kelvin sign. -/
def isDriveLetter (c : Char) : Bool :=
  c.isAlpha || decide (c = '\u0130' ∨ c = '\u0131' ∨ c = '\u017f' ∨ c = '\u212a')

/-- `_is_csv_path`: the regular expression `^[a-z]:\\clusterstorage\\[^\\]+`, case aside. -/
def isCsvPath : List Char → Bool
  | drive :: ':' :: '\\' :: rest =>
    let name := "clusterstorage".toList
    isDriveLetter drive && decide (name.length ≤ rest.length) &&
    ((rest.zip name).all fun e => matchesLetter e.1 e.2) &&
    (match rest.drop name.length with
      | '\\' :: c :: _ => decide (c ≠ '\\')
      | _ => false)
  | _ => false

/-- `_is_system_drive`. -/
def isSystemDrive (path : List Char) : Bool :=
  (match path with
    | c :: ':' :: _ => decide (c.toLower = 'c')
    | _ => false) && !isCsvPath path

/-- `_require_vm_storage_allowed`. -/
def requireVmStorageAllowed (host : Host) (destination : Json) : M Unit := do
  let clustered ← Prog.ofExcept (hostIsClustered host)
  let hyperv ← Prog.ofExcept (hardwareSection host "hyperv")
  let defaultPath ← Prog.ofExcept (normPath env (hyperv.get "defaultVmPath"))
  let dest ← Prog.ofExcept (normPath env destination)
  let dest := if dest.isEmpty then defaultPath else dest
  if clustered then
    if isCsvPath dest then pure ()
    else Prog.raise (notOnSharedVolume host dest)
  else if !dest.isEmpty && isSystemDrive dest && !isSystemDrive defaultPath then
    Prog.raise (onSystemDrive dest)
  else pure ()

/-! ## Actions -/

/-- The keys of `ACTION_MAP`. -/
inductive VmAction where
  | start | stop | shutdown | restart | pause | delete | enable_metrics | disable_metrics
  | rename | edit | migrate | move_storage | startup_change | mount_dvd | eject_dvd
  | enable_ha | disable_ha | export_template | notes_edit | snapshot_create | snapshot_remove
  | snapshot_restore | refresh
  deriving DecidableEq

/-- The key itself. -/
def VmAction.name : VmAction → String
  | .start => "start"
  | .stop => "stop"
  | .shutdown => "shutdown"
  | .restart => "restart"
  | .pause => "pause"
  | .delete => "delete"
  | .enable_metrics => "enable_metrics"
  | .disable_metrics => "disable_metrics"
  | .rename => "rename"
  | .edit => "edit"
  | .migrate => "migrate"
  | .move_storage => "move_storage"
  | .startup_change => "startup_change"
  | .mount_dvd => "mount_dvd"
  | .eject_dvd => "eject_dvd"
  | .enable_ha => "enable_ha"
  | .disable_ha => "disable_ha"
  | .export_template => "export_template"
  | .notes_edit => "notes_edit"
  | .snapshot_create => "snapshot_create"
  | .snapshot_remove => "snapshot_remove"
  | .snapshot_restore => "snapshot_restore"
  | .refresh => "refresh"

/-- `ACTION_MAP`: the agent function, and the optimistic state of a power action. -/
def VmAction.function : VmAction → TaskKind × Option String
  | .start => (.vm_start, some "Starting")
  | .stop => (.vm_stop, some "Stopping")
  | .shutdown => (.vm_shutdown, some "Stopping")
  | .restart => (.vm_restart, some "Restarting")
  | .pause => (.vm_pause, some "Pausing")
  | .delete => (.vm_delete, some "Deleting")
  | .enable_metrics => (.vm_enable_metrics, none)
  | .disable_metrics => (.vm_disable_metrics, none)
  | .rename => (.vm_rename, none)
  | .edit => (.vm_edit, none)
  | .migrate => (.vm_migrate, none)
  | .move_storage => (.vm_move, none)
  | .startup_change => (.vm_startup_change, none)
  | .mount_dvd => (.mount_dvd, none)
  | .eject_dvd => (.eject_dvd, none)
  | .enable_ha => (.enable_ha, none)
  | .disable_ha => (.disable_ha, none)
  | .export_template => (.vm_export_template, none)
  | .notes_edit => (.notes_edit, none)
  | .snapshot_create => (.snapshot_create, none)
  | .snapshot_remove => (.snapshot_remove, none)
  | .snapshot_restore => (.snapshot_restore, none)
  | .refresh => (.refresh_status, none)

/-- `READ_ONLY_VM_ACTIONS`. -/
def VmAction.isReadOnly : VmAction → Bool
  | .refresh => true
  | _ => false

/-! ## Queueing -/

/-- The task a VM request adds. -/
def vmTask (id : String) (kind : TaskKind) (vm : Vm) (requestedBy : String) (createdAt : Time) :
    Task where
  id := id
  kind := kind
  targetType := .vm
  targetId := vm.id
  targetName := vm.name
  hostId := vm.hostId
  requestedBy := requestedBy
  createdAt := createdAt
  correlationId := some id

/-- `AgentRequest(id, function, params, requested_by)`. -/
def agentRequest (now : Time) (task : Task) (params : Dict) : AgentRequest where
  id := task.id
  function := task.kind.name
  params := params
  requestedBy := task.requestedBy
  issuedAt := env.py.isoformat now

/-- How the calls of a service that queues a VM task end, in the order of the calls. -/
structure Calls where
  /-- the reads of the database before the lock -/
  read : Call := .answered
  /-- the flush of a placeholder -/
  row : Call := .answered
  /-- `acquire_vm_lock` -/
  acquire : Call := .answered
  /-- `get_vm_lock`, of a lock that was held -/
  held : Call := .answered
  /-- the flush of the task -/
  flush : Call := .answered
  /-- `set_vm_state` -/
  setState : Call := .answered
  /-- `publish_request` -/
  publish : Call := .answered
  /-- `release_vm_lock` -/
  release : Call := .answered

/-- The guarded part of `_queue_vm_task`: the task, the optimistic state, the request. -/
def addVmTaskOver (calls : Calls) (vm : Vm) (host : Host) (vmUuid taskId : String) (kind : TaskKind)
    (params : Dict) (requestedBy : String) (transitional : Option String) : M Task := do
  let w ← Prog.read
  let task := vmTask taskId kind vm requestedBy w.txStart
  modifyDb fun db => db.addTask task
  (match transitional with
    | some state => modifyDb fun db => db.storeVm { vm with state := .str state }
    | none => pure ())
  calls.flush.through flush
  (match transitional with
    | some state => calls.setState.through (setVmState env vm.id (.str state))
    | none => pure ())
  let request := agentRequest env w.now task (params.set "vm_id" (.str vmUuid))
  let task := { task with requestPayload := request.modelDump }
  modifyDb fun db => db.storeTask task
  calls.publish.through (publishRequest host.shortId request)
  pure task

/-- It, with every call answered. -/
def addVmTask : Vm → Host → String → String → TaskKind → Dict → String → Option String → M Task :=
  addVmTaskOver env {}

/-- `_add_vm_task`, with every call answered. -/
theorem addVmTask_answered (vm : Vm) (host : Host) (vmUuid taskId : String) (kind : TaskKind)
    (params : Dict) (requestedBy : String) (transitional : Option String) :
    addVmTask env vm host vmUuid taskId kind params requestedBy transitional = (do
      let w ← Prog.read
      let task := vmTask taskId kind vm requestedBy w.txStart
      modifyDb fun db => db.addTask task
      (match transitional with
        | some state => modifyDb fun db => db.storeVm { vm with state := .str state }
        | none => pure ())
      flush
      (match transitional with
        | some state => setVmState env vm.id (.str state)
        | none => pure ())
      let request := agentRequest env w.now task (params.set "vm_id" (.str vmUuid))
      let task := { task with requestPayload := request.modelDump }
      modifyDb fun db => db.storeTask task
      publishRequest host.shortId request
      pure task) := rfl

/-- `except Exception: release; raise`. -/
def releasingOnRaiseOver {α : Type} (calls : Calls) (vmId taskId : String) (lock : Bool) (m : M α) :
    M α := fun w =>
  match m w with
  | (.ok a, t) => (.ok a, t)
  | (.error e, t) =>
    if lock then
      match calls.release.through (releaseVmLock vmId taskId) t with
      | (.ok _, u) => (.error e, u)
      | (.error e', u) => (.error e', u)
    else (.error e, t)

/-- It, with every call answered. -/
def releasingOnRaise {α : Type} : String → String → Bool → M α → M α := releasingOnRaiseOver {}

/-- The cleanup of `_queue_vm_task`, with every call answered. -/
theorem releasingOnRaise_answered {α : Type} (vmId taskId : String) (lock : Bool) (m : M α)
    (w : World) : releasingOnRaise vmId taskId lock m w =
      match m w with
      | (.ok a, t) => (.ok a, t)
      | (.error e, t) =>
        (.error e, if lock then { t with cache := releaseLock vmId taskId t.cache } else t) := by
  unfold releasingOnRaise releasingOnRaiseOver
  rcases m w with ⟨e | a, t⟩
  · cases lock <;> rfl
  · rfl

/-- What returns is not touched. -/
theorem releasingOnRaise_eq_ok {α : Type} {vmId taskId : String} {lock : Bool} {m : M α}
    {w t : World} {a : α} :
    releasingOnRaise vmId taskId lock m w = (.ok a, t) ↔ m w = (.ok a, t) := by
  rw [releasingOnRaise_answered]
  rcases m w with ⟨e | a', t'⟩
  · exact iff_of_false nofun nofun
  · exact Iff.rfl

/-- `_queue_vm_task`. The lock is acquired before the `try`: a raise of that call frees nothing. -/
def queueVmTaskOver (calls : Calls) (vm : Vm) (kind : TaskKind) (params : Dict)
    (requestedBy : String) (transitional : Option String) (lock : Bool) : M Task := do
  match nonEmpty vm.vmUuid with
  | none => Prog.raise (vmNotReady "This VM has not been reported by its host agent yet")
  | some vmUuid => do
    let w ← Prog.read
    let host ← calls.read.through (M.ofOption .assertionError (w.db.host vm.hostId))
    requireHostOnline env host
    let taskId ← newId env
    let taken ← (if lock then
        calls.acquire.through (acquireVmLock env vm.id taskId kind requestedBy)
      else pure true)
    if taken then
      releasingOnRaiseOver calls vm.id taskId lock
        (addVmTaskOver env calls vm host vmUuid taskId kind params requestedBy transitional)
    else do
      let w ← calls.held.through Prog.read
      Prog.raise (vmLocked env vm.name (Expiring.get w.cache.vmLocks vm.id))

/-- It, with every call answered. -/
def queueVmTask : Vm → TaskKind → Dict → String → Option String → Bool → M Task :=
  queueVmTaskOver env {}

/-- `_queue_vm_task`, with every call answered. -/
theorem queueVmTask_answered (vm : Vm) (kind : TaskKind) (params : Dict) (requestedBy : String)
    (transitional : Option String) (lock : Bool) :
    queueVmTask env vm kind params requestedBy transitional lock = (match nonEmpty vm.vmUuid with
      | none => Prog.raise (vmNotReady "This VM has not been reported by its host agent yet")
      | some vmUuid => do
        let w ← Prog.read
        let host ← M.ofOption .assertionError (w.db.host vm.hostId)
        requireHostOnline env host
        let taskId ← newId env
        let taken ← (if lock then acquireVmLock env vm.id taskId kind requestedBy else pure true)
        if taken then
          releasingOnRaise vm.id taskId lock
            (addVmTask env vm host vmUuid taskId kind params requestedBy transitional)
        else do
          let w ← Prog.read
          Prog.raise (vmLocked env vm.name (Expiring.get w.cache.vmLocks vm.id))) := rfl

/-- `request_vm_action`. -/
def requestVmActionOver (calls : Calls) (vm : Vm) (action : VmAction) (requestedBy : String)
    (params : Dict) : M Task := do
  if action = .migrate ∧ vm.highlyAvailable = false then Prog.raise (haRequired env vm)
  else do
    (if action = .move_storage then do
      let dest ← Prog.ofExcept (normPath env (params.get "destination_storage"))
      if dest.isEmpty then Prog.raise destinationRequired
      else do
        let w ← Prog.read
        let host ← calls.read.through (M.ofOption .assertionError (w.db.host vm.hostId))
        requireVmStorageAllowed env host (.str (String.ofList dest))
    else pure ())
    queueVmTaskOver env calls vm action.function.1 params requestedBy action.function.2
      !action.isReadOnly

/-- It, with every call answered. -/
def requestVmAction : Vm → VmAction → String → Dict → M Task := requestVmActionOver env {}

/-- `request_vm_action`, with every call answered. -/
theorem requestVmAction_answered (vm : Vm) (action : VmAction) (requestedBy : String)
    (params : Dict) : requestVmAction env vm action requestedBy params =
      (if action = .migrate ∧ vm.highlyAvailable = false then Prog.raise (haRequired env vm)
      else do
        (if action = .move_storage then do
          let dest ← Prog.ofExcept (normPath env (params.get "destination_storage"))
          if dest.isEmpty then Prog.raise destinationRequired
          else do
            let w ← Prog.read
            let host ← M.ofOption .assertionError (w.db.host vm.hostId)
            requireVmStorageAllowed env host (.str (String.ofList dest))
        else pure ())
        queueVmTask env vm action.function.1 params requestedBy action.function.2
          !action.isReadOnly) := rfl

end OpenVCenter
