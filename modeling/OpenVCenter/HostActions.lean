import OpenVCenter.Response
import OpenVCenter.Vms

set_option relaxedAutoImplicit false
set_option autoImplicit false

/-!
# Hosts

The requests whose target is a host (`services/host_actions.py`, `services/agent_upgrade.py`) with
their routes (`api/routes/hosts.py`, `api/routes/agent_binaries.py`), the heartbeat of its agent,
and its removal (`api/routes/hosts.py`, `services/organization.py`).

## Main definitions

* `OpenVCenter.requestHostAction`, `OpenVCenter.requestAgentUpgrade`.
* `OpenVCenter.hostAction`, `OpenVCenter.updateHostAgent`, `OpenVCenter.rolloutAgentBinary` — the
  routes: the service, then the audit event.
* `OpenVCenter.applyAgentStatus`.
* `OpenVCenter.removeHost`.
-/

namespace OpenVCenter

open Effect

variable (env : Env)

/-! ## Requests -/

/-- `HOST_ACTIONS`. -/
inductive HostAction where
  | suspend | suspend_drain | resume | resume_fallback | restart | refresh_hardware
  | refresh_inventory
  deriving DecidableEq

/-- The kind of the task. -/
def HostAction.kind : HostAction → TaskKind
  | .suspend => .suspend
  | .suspend_drain => .suspend_drain
  | .resume => .resume
  | .resume_fallback => .resume_fallback
  | .restart => .restart
  | .refresh_hardware => .refresh_hardware
  | .refresh_inventory => .refresh_inventory

/-- `DISRUPTIVE_HOST_ACTIONS`. -/
def TaskKind.isDisruptive : TaskKind → Bool
  | .suspend | .suspend_drain | .resume | .resume_fallback | .restart => true
  | _ => false

/-- A request the state of the host refuses. -/
def hostRefused (code message : String) (details : Json) : Raised :=
  .apiError { code, message, statusCode := 409, details }

/-- The task a host request adds. -/
def hostTask (id : String) (kind : TaskKind) (host : Host) (requestedBy : String)
    (createdAt : Time) : Task where
  id := id
  kind := kind
  targetType := .host
  targetId := host.id
  targetName := .str host.name
  hostId := host.id
  requestedBy := requestedBy
  createdAt := createdAt
  correlationId := some id

/-- Add the task of a host request and publish it. -/
def queueHostTask (host : Host) (kind : TaskKind) (params : Dict) (requestedBy : String) :
    M Task := do
  let taskId ← newId env
  let w ← Prog.read
  let task := hostTask taskId kind host requestedBy w.txStart
  let request := agentRequest env w.now task params
  let task := { task with requestPayload := request.modelDump }
  modifyDb fun db => db.addTask task
  flush
  publishRequest host.shortId request
  pure task

/-- The active tasks of the host that satisfy `p`. -/
def activeHostTasks (db : Db) (hostId : String) (p : Task → Bool) : List Task :=
  db.tasks.filter fun t => decide (t.hostId = hostId) && p t && !t.status.isTerminal

/-- What the check of `request_host_action` looks for. -/
def Task.isDisruptive (t : Task) : Bool := decide (t.targetType = .host) && t.kind.isDisruptive

/-- What the check of `request_agent_upgrade` looks for. -/
def Task.isAgentUpgrade (t : Task) : Bool := decide (t.kind = .host_update_agent)

/-- `scalar_one_or_none()`. -/
def scalarOneOrNone {α : Type} : List α → Except Raised (Option α)
  | [] => .ok none
  | [a] => .ok (some a)
  | _ => .error .multipleResultsFound

/-- The checks of `request_host_action`. -/
def checkHostAction (now : Time) (db : Db) (host : Host) (action : HostAction) :
    Except Raised Unit :=
  if agentConnected env now host = false then
    .error (hostRefused "HOST_OFFLINE"
      ("Host '" ++ host.name ++
        "' agent is offline - host actions are unavailable until it reconnects") .null)
  else do
    let clustered ← if action.kind.isClusterNodeAction then hostIsClustered host else .ok true
    if clustered = false then
      .error (hostRefused "NOT_CLUSTERED"
        ("Host '" ++ host.name ++ "' is not a Failover Cluster node") .null)
    else
      match action.kind.isDisruptive, (activeHostTasks db host.id Task.isDisruptive).head? with
      | true, some task =>
        .error (hostRefused "HOST_ACTION_IN_PROGRESS"
          ("A '" ++ task.kind.name ++ "' operation is already running on '" ++ host.name ++ "'")
          (.obj [("taskId", .str task.id)]))
      | _, _ => .ok ()

/-- `request_host_action`. -/
def requestHostAction (host : Host) (action : HostAction) (requestedBy : String) : M Task := do
  let w ← Prog.read
  Prog.ofExcept (checkHostAction env w.now w.db host action)
  queueHostTask env host action.kind [] requestedBy

/-- A request that checks, and then queues its task. -/
theorem requestHostAction_run (host : Host) (action : HostAction) (requestedBy : String)
    (w : World) : requestHostAction env host action requestedBy w =
      match checkHostAction env w.now w.db host action with
      | .ok () => queueHostTask env host action.kind [] requestedBy w
      | .error e => (.error e, w) := by
  unfold requestHostAction
  rw [Prog.read_bind_run]
  rcases checkHostAction env w.now w.db host action with e | ⟨⟩ <;> rfl

/-- The checks of `request_agent_upgrade` to a build: its version, its checksum, and the download URL
the store gives out, if any. What passes is the params of the request. -/
def checkAgentUpgrade (now : Time) (db : Db) (host : Host) (version checksum : String)
    (url : Option String) : Except Raised Dict :=
  if agentConnected env now host = false then
    .error (hostRefused "HOST_OFFLINE"
      ("Host '" ++ host.name ++
        "' agent is offline - it can't receive an upgrade until it reconnects") .null)
  else if host.agentVersion.isStr version then
    .error (hostRefused "AGENT_ALREADY_CURRENT"
      ("Host '" ++ host.name ++ "' already runs agent " ++ version) .null)
  else do
    let existing ← scalarOneOrNone (activeHostTasks db host.id Task.isAgentUpgrade)
    match existing, nonEmpty url with
    | some task, _ =>
      .error (hostRefused "AGENT_UPGRADE_IN_PROGRESS"
        ("An agent upgrade is already running on '" ++ host.name ++ "'")
        (.obj [("taskId", .str task.id)]))
    | none, none =>
      .error (hostRefused "AGENT_DOWNLOAD_UNAVAILABLE"
        ("Local agent storage has no public download URL - set " ++
          "OVC_PUBLIC_BASE_URL so hosts can reach this API") .null)
    | none, some url =>
      .ok [("download_url", .str url), ("checksum_sha256", .str checksum),
        ("version", .str version)]

/-- `request_agent_upgrade`. -/
def requestAgentUpgrade (host : Host) (version checksum : String) (url : Option String)
    (requestedBy : String) : M Task := do
  let w ← Prog.read
  let params ← Prog.ofExcept (checkAgentUpgrade env w.now w.db host version checksum url)
  queueHostTask env host .host_update_agent params requestedBy

/-- `request_agent_upgrade` checks, and then queues. -/
theorem requestAgentUpgrade_run (host : Host) (version checksum : String) (url : Option String)
    (requestedBy : String) (w : World) :
    requestAgentUpgrade env host version checksum url requestedBy w =
      match checkAgentUpgrade env w.now w.db host version checksum url with
      | .ok params => queueHostTask env host .host_update_agent params requestedBy w
      | .error e => (.error e, w) := by
  unfold requestAgentUpgrade
  rw [Prog.read_bind_run]
  rcases checkAgentUpgrade env w.now w.db host version checksum url with e | params <;> rfl

/-! ## Routes -/

/-- `action in READ_ONLY_HOST_ACTIONS`. -/
def HostAction.isReadOnly : HostAction → Bool
  | .refresh_hardware | .refresh_inventory => true
  | _ => false

/-- `POST /hosts/{host_id}/actions/{action}`. -/
def hostAction (user : User) (hostId : String) (action : HostAction) : M Unit := do
  let w ← Prog.read
  let host ← M.ofOption (notFound "Host") (w.db.host hostId)
  let task ← requestHostAction env host action user.email
  if action.isReadOnly then pure ()
  else record env (some user) ("host." ++ action.kind.name) host.ref (some task) .null

/-- `POST /hosts/{host_id}/actions/update-agent`. -/
def updateHostAgent (user : User) (hostId version checksum : String) (url : Option String) :
    M Unit := do
  let w ← Prog.read
  let host ← M.ofOption (notFound "Host") (w.db.host hostId)
  let task ← requestAgentUpgrade env host version checksum url user.email
  record env (some user) "host.update_agent" host.ref (some task)
    (.obj [("version", .str version)])

/-- `except ApiError: pass`. -/
def skipApiError (m : M Unit) : M Unit := fun w =>
  match m w with
  | (.error (.apiError _), t) => (.ok (), t)
  | r => r

/-- The body of the loop of a rollout. -/
def rolloutHost (user : User) (version checksum : String) (url : Option String) (host : Host) :
    M Unit := do
  let w ← Prog.read
  if agentConnected env w.now host = false ∨ host.agentVersion.isStr version = true then pure ()
  else skipApiError do
    let task ← requestAgentUpgrade env host version checksum url user.email
    record env (some user) "host.update_agent" host.ref (some task)
      (.obj [("version", .str version), ("rollout", .bool true)])

/-- `POST /agent-binaries/{binary_id}/rollout`, to the hosts of the binary's hypervisor, or to those
of them that are named. The order of the hosts is left open. -/
def rolloutAgentBinary (user : User) (hostIds : List String) (hypervisor version checksum : String)
    (url : Option String) : M Unit := do
  let w ← Prog.read
  let hosts := w.db.hosts.filter fun h =>
    h.hypervisor.isStr hypervisor && (hostIds.isEmpty || decide (h.id ∈ hostIds))
  hosts.foldlM (fun _ host => rolloutHost env user version checksum url host) ()

/-! ## Heartbeats -/

/-- The host after a heartbeat. -/
def withAgentStatus (now : Time) (payload : Dict) (host : Host) : Host :=
  let hypervisor := payload.get "hypervisor"
  let fqdn := (payload.get "fqdn").orElse (payload.get "hostname")
  let ip := ((payload.get "ip").orElse (payload.get "ipAddress")).orElse (payload.get "primaryIp")
  { host with
    agentVersion := payload.get "version"
    agentRefreshVm := (payload.get "vm_refresh_interval").orElse (payload.get "vmRefreshInterval")
    agentRefreshHost :=
      (payload.get "host_refresh_interval").orElse (payload.get "hostRefreshInterval")
    hypervisor := if hypervisor.truthy then hypervisor else host.hypervisor
    fqdn := if fqdn.truthy then fqdn else host.fqdn
    ipAddress := if ip.truthy then ip else host.ipAddress
    agentLastSeen := some ((parseDt env (payload.get "reported_at")).getD now) }

/-- `apply_agent_status`. -/
def applyAgentStatus (hostId : String) (payload : Json) : M Unit := do
  let w ← Prog.read
  match w.db.host hostId with
  | none => pure ()
  | some host => do
    let d ← Prog.ofExcept payload.asDict
    modifyDb fun db => db.storeHost (withAgentStatus env w.now d host)

/-! ## Removal -/

/-- `db.delete(host)` with the cascades: VMs and their thumbnails, tasks, templates and
host-scoped folders go; a VM elsewhere leaves a folder that goes. -/
def Db.deleteHost (db : Db) (id : String) : Db :=
  let gone : String → Bool := fun f =>
    db.folders.any fun folder => decide (folder.id = f ∧ folder.hostId = some id)
  let db := db.deleteVms fun v => decide (v.hostId = id)
  { db with
    hosts := Table.deleteWhere (fun h => decide (h.id = id)) db.hosts
    folders := Table.deleteWhere (fun f => decide (f.hostId = some id)) db.folders
    vms := db.vms.map fun v => { v with folderId := v.folderId.filter fun f => !gone f }
    tasks := Table.deleteWhere (fun t => decide (t.hostId = id)) db.tasks
    templates := Table.deleteWhere (fun t => decide (t.hostId = id)) db.templates
    isos := Table.deleteWhere (fun i => decide (i.hostId = id)) db.isos
    hostMetrics := Table.deleteWhere (fun m => decide (m.hostId = id)) db.hostMetrics }

/-- `DELETE /hosts/{host_id}`. -/
def removeHost (user : User) (hostId : String) : M Unit := do
  let w ← Prog.read
  let host ← M.ofOption (notFound "Host") (w.db.host hostId)
  let vmCount := w.db.vms.countP fun v => decide (v.hostId = host.id)
  record env (some user) "host.delete" host.ref none (.obj [("vmCount", .int vmCount)])
  let openTasks := w.db.tasks.filter fun t =>
    decide (t.hostId = host.id) && !t.status.isTerminal
  settleTaskEvents (openTasks.map Task.id) .failed (some "Host removed before the task finished")
  modifyDb fun db => db.deleteHost host.id
  flush

end OpenVCenter
