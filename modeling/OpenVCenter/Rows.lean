import OpenVCenter.Python

set_option relaxedAutoImplicit false
set_option autoImplicit false

/-!
# Rows

The tables of `app/models` that the message handlers and the VM requests read or write, one
structure for each row.

## Main definitions

* `OpenVCenter.Host`, `OpenVCenter.Vm`, `OpenVCenter.Task`, `OpenVCenter.AuditEvent`,
  `OpenVCenter.Template`, `OpenVCenter.Iso`, `OpenVCenter.HostMetric`, `OpenVCenter.VmMetric`,
  `OpenVCenter.VmThumbnail`, `OpenVCenter.Cluster`, `OpenVCenter.Folder` — the rows.
* `OpenVCenter.TaskKind`, `OpenVCenter.TaskStatus` — the kinds and states of a task.

## Design

An attribute of a mapped object holds whatever Python value was assigned to it; whether the
value fits the column is decided at the flush. A column that a handler fills with a value of the
agent, unconverted, is therefore a `Json`; a column that only takes converted or
backend-made values has its own type. The disks, NICs and snapshots of a VM are owned by its
row (`cascade="all, delete-orphan"`) and are kept in it, without their surrogate keys.
-/

namespace OpenVCenter

/-- `models/cluster.py`. A cluster runs one hypervisor. -/
structure Cluster where
  id : String
  name : String
  hypervisor : String := "hyperv"

/-- `models/folder.py`: scoped to one cluster or to one standalone host. -/
structure Folder where
  id : String
  name : String
  clusterId : Option String
  hostId : Option String

/-- `models/host.py`. -/
structure Host where
  id : String
  shortId : String
  clusterId : Option String := none
  name : String
  fqdn : Json := .null
  ipAddress : Json := .null
  hypervisor : Json := .str "hyperv"
  agentVersion : Json := .null
  agentLastSeen : Option Time := none
  agentRefreshVm : Json := .null
  agentRefreshHost : Json := .null
  hardware : Json := .null

/-! ## Virtual machines -/

/-- `VmDisk`. -/
structure VmDisk where
  position : ℕ
  diskId : Json
  path : Json
  controller : Json
  sizeBytes : Option ℤ
  usedBytes : Option ℤ
  type : Json
  format : Json

/-- `VmNic`. -/
structure VmNic where
  position : ℕ
  nicId : Json
  name : Json
  switchName : Json
  vlanId : Option ℤ
  macAddress : Json
  ipAddresses : List Json
  connected : Bool

/-- `VmSnapshot`. -/
structure VmSnapshot where
  position : ℕ
  snapshotId : Json
  name : Json
  parentSnapshotId : Json
  snapshotType : Json
  snapshotCreatedAt : Option Time

/-- `models/vm.py`. `id` is the backend's key, `vmUuid` the GUID of the hypervisor. -/
structure Vm where
  id : String
  vmUuid : Option String
  hostId : String
  clusterId : Option String := none
  folderId : Option String := none
  name : Json := .null
  state : Json := .str "Unknown"
  firmware : Json := .str "UEFI"
  guestOs : Option String := none
  uptimeSec : Json := .null
  vcpu : ℤ := 1
  memoryBytes : Json := .int 0
  memoryMinBytes : Json := .null
  memoryMaxBytes : Json := .null
  memoryDynamic : Bool := false
  cpuUsagePercent : Json := .null
  memoryDemandBytes : Json := .null
  secureBoot : Json := .null
  secureBootTemplate : Json := .null
  nestedVirtualization : Bool := false
  autoStartAction : Json := .null
  autoStartDelaySec : Json := .null
  autoStopAction : Json := .null
  configPath : Json := .null
  dvdPath : Json := .null
  highlyAvailable : Bool := false
  metricsEnabled : Bool := false
  notes : Json := .null
  vmCreatedAt : Option Time := none
  lastInventoryAt : Option Time := none
  disks : List VmDisk := []
  nics : List VmNic := []
  snapshots : List VmSnapshot := []
  tagIds : List String := []

/-- `VmThumbnail`: the last console image of a VM. -/
structure VmThumbnail where
  vmId : String
  image : List UInt8
  contentType : String
  capturedAt : Time

/-- `models/image.py`, `Template`. -/
structure Template where
  id : String
  hostId : String
  name : Json
  path : Json
  sizeBytes : ℤ
  diskSizeBytes : ℤ
  notes : Json
  cpuCount : ℤ
  memoryMb : ℤ
  guestOs : Json
  imageCreatedAt : Option Time

/-- `models/image.py`, `Iso`. -/
structure Iso where
  id : String
  hostId : String
  name : Json
  path : Json
  sizeBytes : ℤ
  checksum : Json

/-- `models/metric.py`, `HostMetric`, without its serial number. -/
structure HostMetric where
  hostId : String
  ts : Time
  cpuPercent : Option PyFloat
  memPercent : Option PyFloat
  diskLatencyMs : Option PyFloat
  netRxBps : Option ℤ
  netTxBps : Option ℤ
  detail : Json

/-- `models/metric.py`, `VmMetric`, without its serial number. -/
structure VmMetric where
  vmId : String
  ts : Time
  cpuPercent : Option PyFloat
  memBytes : Option ℤ
  diskBytes : Option ℤ
  netRxBytes : Option ℤ
  netTxBytes : Option ℤ
  detail : Json

/-! ## Tasks -/

/-- `TASK_STATUSES`. -/
inductive TaskStatus where
  | queued | running | succeeded | failed | timeout
  deriving DecidableEq

/-- `status in TERMINAL_TASK_STATUSES`. -/
def TaskStatus.isTerminal : TaskStatus → Bool
  | .queued | .running => false
  | .succeeded | .failed | .timeout => true

/-- The text of the status, in `tasks.status`. -/
def TaskStatus.name : TaskStatus → String
  | .queued => "queued"
  | .running => "running"
  | .succeeded => "succeeded"
  | .failed => "failed"
  | .timeout => "timeout"

/-- The kinds of a task: the agent functions of `services/vms.py`, the host actions of
`services/host_actions.py` and the agent upgrade. -/
inductive TaskKind where
  | vm_start | vm_stop | vm_shutdown | vm_restart | vm_pause | vm_delete
  | vm_enable_metrics | vm_disable_metrics | vm_rename | vm_edit | vm_migrate | vm_move
  | vm_startup_change | mount_dvd | eject_dvd | enable_ha | disable_ha | vm_export_template
  | notes_edit | snapshot_create | snapshot_remove | snapshot_restore | refresh_status
  | vm_create | vm_clone
  | suspend | suspend_drain | resume | resume_fallback | restart
  | refresh_hardware | refresh_inventory | host_update_agent
  deriving DecidableEq

/-- The text of the kind, in `tasks.kind` and in the agent's `function`. -/
def TaskKind.name : TaskKind → String
  | .vm_start => "vm_start"
  | .vm_stop => "vm_stop"
  | .vm_shutdown => "vm_shutdown"
  | .vm_restart => "vm_restart"
  | .vm_pause => "vm_pause"
  | .vm_delete => "vm_delete"
  | .vm_enable_metrics => "vm_enable_metrics"
  | .vm_disable_metrics => "vm_disable_metrics"
  | .vm_rename => "vm_rename"
  | .vm_edit => "vm_edit"
  | .vm_migrate => "vm_migrate"
  | .vm_move => "vm_move"
  | .vm_startup_change => "vm_startup_change"
  | .mount_dvd => "mount_dvd"
  | .eject_dvd => "eject_dvd"
  | .enable_ha => "enable_ha"
  | .disable_ha => "disable_ha"
  | .vm_export_template => "vm_export_template"
  | .notes_edit => "notes_edit"
  | .snapshot_create => "snapshot_create"
  | .snapshot_remove => "snapshot_remove"
  | .snapshot_restore => "snapshot_restore"
  | .refresh_status => "refresh_status"
  | .vm_create => "vm_create"
  | .vm_clone => "vm_clone"
  | .suspend => "suspend"
  | .suspend_drain => "suspend_drain"
  | .resume => "resume"
  | .resume_fallback => "resume_fallback"
  | .restart => "restart"
  | .refresh_hardware => "refresh_hardware"
  | .refresh_inventory => "refresh_inventory"
  | .host_update_agent => "host_update_agent"

/-- `tasks.target_type`. -/
inductive TargetType where
  | vm | host
  deriving DecidableEq

/-- `models/task.py`. -/
structure Task where
  id : String
  kind : TaskKind
  status : TaskStatus := .queued
  targetType : TargetType
  targetId : String
  targetName : Json
  hostId : String
  requestedBy : String
  progress : Option ℤ := some 0
  progressMessage : Option String := none
  createdAt : Time
  startedAt : Option Time := none
  finishedAt : Option Time := none
  result : Option String := none
  error : Option String := none
  requestPayload : Json := .null
  responsePayload : Json := .null
  correlationId : Option String := none

/-! ## Audit events -/

/-- `AUDIT_ACTOR_TYPES`. -/
inductive ActorType where
  | user | system
  deriving DecidableEq

/-- `AUDIT_OUTCOMES`. -/
inductive AuditOutcome where
  | pending | succeeded | failed | timeout
  deriving DecidableEq

/-- `models/audit.py`. -/
structure AuditEvent where
  id : String
  occurredAt : Time
  actorType : ActorType
  actorEmail : Option String
  actorName : Option String
  action : String
  targetType : String
  targetId : Option String
  targetName : Json
  hostId : Option String
  clusterId : Option String
  taskId : Option String
  outcome : AuditOutcome
  error : Option String := none
  details : Json

end OpenVCenter
