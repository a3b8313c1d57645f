import OpenVCenter.Cache
import OpenVCenter.VmRow

set_option relaxedAutoImplicit false
set_option autoImplicit false

/-!
# Task responses

`apply_response` of `services/inventory.py` and `apply_host_action_response` of
`services/host_actions.py`: the lifecycle of a task, and the best-effort refresh of the rows it
is about.

## Main definitions

* `OpenVCenter.stripResponseThumbnails`, `OpenVCenter.finishTask`, `OpenVCenter.progressTask` —
  what a response does to the envelope and to its task.
* `OpenVCenter.applyResponseVmStatus`, `OpenVCenter.applyResponseState` — the refresh of the VM
  rows, run in a savepoint.
* `OpenVCenter.applyResponse`.

## Design

`apply_response` is cut into the statements before the first savepoint
(`OpenVCenter.applyLifecycle`) and those from it on (`OpenVCenter.applyRefresh`).
-/

namespace OpenVCenter

open Effect

variable (env : Env)

/-! ## Thumbnails -/

/-- `v.pop("thumbnail", None)` of the objects of a list. -/
def stripVms : Json → Json
  | .arr l => .arr (l.map fun v =>
      match v with
      | .obj d => .obj (Dict.erase d "thumbnail")
      | v => v)
  | v => v

/-- One object of `_strip_response_thumbnails` without its thumbnails. -/
def dropThumbnails (src : Dict) : Dict :=
  (src.erase "thumbnail").map fun e => if e.1 = "vms" then (e.1, stripVms e.2) else e

/-- One object of `_strip_response_thumbnails`: `vms` is iterated unless it is false. -/
def stripThumbnails (src : Dict) : Except Raised Dict := do
  let _ ← (((src.erase "thumbnail").get "vms").orElse (.arr [])).iterate
  pure (dropThumbnails src)

/-- `resp.vm_status` without thumbnails. -/
def stripVmStatus : Option Dict → Except Raised (Option Dict)
  | some d => do
    let d ← stripThumbnails d
    pure (some d)
  | none => pure none

/-- `resp.result` without thumbnails. -/
def stripResult : ResponseResult → Except Raised ResponseResult
  | .object d => do
    let d ← stripThumbnails d
    pure (.object d)
  | r => pure r

/-- `_strip_response_thumbnails`. -/
def stripResponseThumbnails (resp : AgentResponse) : Except Raised AgentResponse := do
  let vmStatus ← stripVmStatus resp.vmStatus
  let result ← stripResult resp.result
  pure { resp with vmStatus := vmStatus, result := result }

/-! ## The task -/

/-- `resp.status == "running" and task.status in ("queued", "running")`. -/
def isProgress (resp : AgentResponse) (status : TaskStatus) : Bool :=
  decide (resp.status = "running") && !status.isTerminal

/-- The task after a progress message. -/
def progressTask (now : Time) (resp : AgentResponse) (task : Task) : Task :=
  { task with
    status := .running
    startedAt := some (task.startedAt.getD now)
    progress := match resp.progress with
      | some p => some p
      | none => task.progress
    progressMessage := match resp.progressMessage with
      | some m => if m.isEmpty then task.progressMessage else some m
      | none => task.progressMessage }

/-- The status of a task its response ends. -/
def terminalStatus (resp : AgentResponse) : TaskStatus :=
  if resp.status = "succeeded" then .succeeded else .failed

/-- The error of a task its response ends: a success may carry a warning. -/
def terminalError (resp : AgentResponse) : Option String :=
  match resp.result with
  | .object d =>
    if terminalStatus resp = .succeeded ∧ resp.error.all String.isEmpty ∧
        (d.get "warning").truthy then
      some (env.py.str (d.get "warning"))
    else resp.error
  | _ => resp.error

/-- The instant a response ends its task at. -/
def terminalTime (now : Time) (resp : AgentResponse) : Time :=
  (parseDt env (.ofOption resp.finishedAt)).getD now

/-- The task after the response that ends it. -/
def finishTask (now : Time) (resp : AgentResponse) (task : Task) : Task :=
  { task with
    status := terminalStatus resp
    finishedAt := some (terminalTime env now resp)
    progress := if terminalStatus resp = .succeeded then some 100 else task.progress
    progressMessage := none
    result := resp.result.asText?
    error := terminalError env resp }

/-! ## Hosts and templates -/

/-- `result.get(key) if isinstance(result, dict) else None`. -/
def resultField (resp : AgentResponse) (key : String) : Json :=
  match resp.result with
  | .object d => d.get key
  | _ => .null

/-- The version an agent upgrade reports, written outside any savepoint. -/
def stampAgentVersion (hostId : String) (resp : AgentResponse) (task : Task) : M Unit := do
  if task.kind = .host_update_agent ∧ task.status = .succeeded ∧
      (resultField resp "version").truthy then do
    let w ← Prog.read
    match w.db.host hostId with
    | none => pure ()
    | some host => do
      modifyDb fun db =>
        db.storeHost { host with agentVersion := .str (env.py.str (resultField resp "version")) }
      flush
  else pure ()

/-- `CLUSTER_NODE_ACTIONS`. -/
def TaskKind.isClusterNodeAction : TaskKind → Bool
  | .suspend | .suspend_drain | .resume | .resume_fallback => true
  | _ => false

/-- `apply_host_action_response`. -/
def applyHostActionResponse (task : Task) (resp : AgentResponse) : M Unit := do
  if task.kind.isClusterNodeAction ∧ task.status = .succeeded ∧
      (resultField resp "status").truthy then do
    let w ← Prog.read
    match w.db.host task.targetId with
    | none => pure ()
    | some host =>
      if host.hardware.truthy then do
        let hardware ← Prog.ofExcept host.hardware.asDict
        let cluster ← Prog.ofExcept ((hardware.get "cluster").orElse (.obj [])).asDict
        let cluster := cluster.set "state" (.str (env.py.str (resultField resp "status")))
        modifyDb fun db =>
          db.storeHost { host with hardware := .obj (hardware.set "cluster" (.obj cluster)) }
      else pure ()
  else pure ()

/-- `_template_row_fields`, with the key. -/
def templateRow (id hostId : String) (item : Dict) : Except Raised Template := do
  let sizeBytes ← env.py.int (item.getD "sizeBytes" (.int 0))
  let diskSizeBytes ← env.py.int (item.getD "diskSizeBytes" (.int 0))
  let cpuCount ← env.py.int ((item.get "cpuCount").orElse (.int 0))
  let memoryMb ← env.py.int ((item.get "memoryMb").orElse (.int 0))
  pure { id, hostId, sizeBytes, diskSizeBytes, cpuCount, memoryMb
         name := item.getD "name" (.str "")
         path := item.getD "path" (.str "")
         notes := (item.get "notes").orElse .null
         guestOs := item.get "guestOs"
         imageCreatedAt := parseDt env (item.get "createdAt") }

/-- `_upsert_template`. -/
def upsertTemplate (hostId : String) (item : Dict) : M Unit := do
  let id ← (if (item.get "id").truthy then
      match item.get "id" with
      | .str s => pure s
      | _ => Prog.raise .dataError
    else newId env)
  let row ← Prog.ofExcept (templateRow env id hostId item)
  modifyDb fun db =>
    if (db.template id).isSome then
      { db with templates := Table.store Template.id row db.templates }
    else { db with templates := db.templates ++ [row] }

/-! ## VM rows -/

/-- The objects of one of the two places an agent attaches them at. -/
def vmItemsOf (src : Dict) : Option (List Dict) :=
  match src.get "vms" with
  | .arr l => some (dictsOf l)
  | _ => if (src.get "id").truthy ∨ (src.get "vmId").truthy then some [src] else none

/-- `_response_vm_items`. -/
def responseVmItems (resp : AgentResponse) : List Dict :=
  ((resp.vmStatus.bind vmItemsOf).or (resp.result.asDict?.bind vmItemsOf)).getD []

/-- `select(Vm).where(vm_uuid == .., host_id == ..)`, `scalar_one_or_none()`. -/
def vmByGuid (db : Db) (hostId vmUuid : String) : Except Raised (Option Vm) :=
  match db.vms.filter fun v => decide (v.vmUuid = some vmUuid ∧ v.hostId = hostId) with
  | [] => .ok none
  | [v] => .ok (some v)
  | _ => .error .multipleResultsFound

/-- The body of the loop of `_apply_response_vm_status`; the query flushes the session first. -/
def refreshItem (host : Host) (updated : Bool) (raw : Dict) : M Bool := do
  let item ← Prog.ofExcept (normalizeVm env raw)
  if (item.get "vmUuid").truthy then
    match item.get "vmUuid" with
    | .str u => do
      flush
      let w ← Prog.read
      match ← Prog.ofExcept (vmByGuid w.db host.id u) with
      | none => pure updated
      | some vm => do
        let vm ← Prog.ofExcept
          (writeVmRow env w.now true raw item host.id host.clusterId vm)
        modifyDb fun db => db.storeVm vm
        setVmState env vm.id vm.state
        pure true
    | _ => Prog.raise .dataError
  else pure updated

/-- `_apply_response_vm_status`. -/
def applyResponseVmStatus (hostId : String) (resp : AgentResponse) : M Bool := do
  if (responseVmItems resp).isEmpty then pure false
  else do
    let w ← Prog.read
    match w.db.host hostId with
    | none => pure false
    | some host => (responseVmItems resp).foldlM (refreshItem env host) false

/-- `_TRANSITIONAL_STATE`. -/
def transitionalState : TaskKind → Option String
  | .vm_start => some "Starting"
  | .vm_stop => some "Stopping"
  | .vm_shutdown => some "Stopping"
  | .vm_restart => some "Restarting"
  | .vm_pause => some "Pausing"
  | _ => none

/-- `_FAILED_STATE_REVERT`. -/
def failedStateRevert : TaskKind → Option String
  | .vm_start => some "Off"
  | .vm_stop => some "Running"
  | .vm_shutdown => some "Running"
  | .vm_restart => some "Running"
  | .vm_pause => some "Running"
  | _ => none

/-- The placeholder of a create or clone: it takes the GUID the agent assigned. -/
def stampPlaceholder (hostId : String) (resp : AgentResponse) (placeholder : Vm) : M Unit := do
  let state := (nonEmpty resp.vmState).getD "Off"
  modifyDb fun db => db.storeVm { placeholder with
    vmUuid := (nonEmpty resp.vmId).or placeholder.vmUuid
    state := .str state }
  setVmState env placeholder.id (.str state)
  flush
  let _ ← applyResponseVmStatus env hostId resp

/-- The row of a create or clone that did not succeed goes. -/
def dropPlaceholder (placeholder : Vm) : M Unit := do
  modifyDb fun db => db.deleteVm placeholder.id
  clearVmState placeholder.id

/-- A VM deleted by its agent: its GUID is remembered, its row goes. -/
def applyDelete (hostId : String) (task : Task) : M Unit := do
  let w ← Prog.read
  (match (w.db.vm task.targetId).bind fun gone => gone.vmUuid with
    | some u => markVmDeleted hostId u
    | none => pure ())
  modifyDb fun db => db.deleteVm task.targetId
  clearVmState task.targetId

/-- The VM objects of a success, or its bare `vm_id` and `vm_state`. -/
def applySuccess (hostId : String) (resp : AgentResponse) : M Unit := do
  let applied ← applyResponseVmStatus env hostId resp
  match nonEmpty resp.vmId, nonEmpty resp.vmState with
  | some u, some state =>
    if applied then pure ()
    else do
      flush
      let w ← Prog.read
      match ← Prog.ofExcept (vmByGuid w.db hostId u) with
      | none => pure ()
      | some vm => do
        modifyDb fun db => db.storeVm { vm with state := .str state }
        setVmState env vm.id (.str state)
  | _, _ => pure ()

/-- A power action that failed: its optimistic state is rolled back. -/
def revertState (task : Task) : M Unit := do
  match failedStateRevert task.kind, transitionalState task.kind with
  | some revert, some transitional =>
    if task.targetType = .vm then do
      let w ← Prog.read
      match w.db.vm task.targetId with
      | none => pure ()
      | some vm =>
        if vm.state.isStr transitional then do
          modifyDb fun db => db.storeVm { vm with state := .str revert }
          setVmState env vm.id (.str revert)
        else pure ()
    else pure ()
  | _, _ => pure ()

/-- `task.kind in ("vm_create", "vm_clone")`. -/
def TaskKind.makesPlaceholder : TaskKind → Bool
  | .vm_create | .vm_clone => true
  | _ => false

/-- `_apply_response_state`. -/
def applyResponseState (hostId : String) (resp : AgentResponse) (task : Task) : M Unit := do
  if task.kind.makesPlaceholder then do
    let w ← Prog.read
    match w.db.vm task.targetId with
    | none => pure ()
    | some placeholder =>
      if task.status = .succeeded then stampPlaceholder env hostId resp placeholder
      else dropPlaceholder placeholder
  else if task.kind = .vm_delete ∧ task.status = .succeeded then applyDelete hostId task
  else if task.status = .succeeded then applySuccess env hostId resp
  else if task.status = .failed then revertState env task
  else pure ()

/-! ## The handler -/

/-- `select(Task).where(id == .., host_id == ..)`. -/
def Db.taskOfHost (db : Db) (hostId id : String) : Option Task :=
  (db.task id).filter fun t => decide (t.hostId = hostId)

/-- The statements of `apply_response` up to the flush of the lifecycle change. `none` for a
progress message. -/
def applyLifecycle (resp : AgentResponse) (task : Task) : M (Option (AgentResponse × Task)) := do
  let w ← Prog.read
  let resp ← Prog.ofExcept (stripResponseThumbnails resp)
  let task := { task with responsePayload := resp.modelDump }
  if isProgress resp task.status then do
    modifyDb fun db => db.storeTask (progressTask w.now resp task)
    pure none
  else do
    let task := finishTask env w.now resp task
    modifyDb fun db => db.storeTask task
    settleTaskEvents [task.id] task.status.outcome task.error
    flush
    pure (some (resp, task))

/-- The best-effort part: each statement runs in a savepoint of its own, whose raise is logged and
swallowed. -/
def applyBestEffort (hostId : String) (resp : AgentResponse) (task : Task) : M Unit := do
  (if task.targetType = .host then
    Prog.attempt (savepoint (applyHostActionResponse env task resp))
  else pure ())
  (match resp.template with
    | some item =>
      if task.status = .succeeded ∧ task.kind = .vm_export_template then
        Prog.attempt (savepoint (upsertTemplate env task.hostId item))
      else pure ()
    | none => pure ())
  Prog.attempt (savepoint (applyResponseState env hostId resp task))

/-- The statements from the agent version on. -/
def applyRefresh (hostId : String) (resp : AgentResponse) (task : Task) : M Unit := do
  stampAgentVersion env hostId resp task
  applyBestEffort env hostId resp task
  if task.targetType = .vm then releaseVmLock task.targetId task.id else pure ()

/-- `apply_response`. A response to no task of the host is dropped. -/
def applyResponse (hostId : String) (resp : AgentResponse) : M Unit := do
  let w ← Prog.read
  match w.db.taskOfHost hostId resp.id with
  | none => pure ()
  | some task => do
    match ← applyLifecycle env resp task with
    | none => pure ()
    | some (resp, task) => applyRefresh env hostId resp task

end OpenVCenter
