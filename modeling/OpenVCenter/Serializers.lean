import OpenVCenter.Rows

set_option relaxedAutoImplicit false
set_option autoImplicit false

/-!
# What is served of a VM

`VmOut` of `schemas/vm.py` with its parts, and the functions of `services/serializers.py` from
`_disk_out` to `vm_out`, which build it of a row.

## Main definitions

* `OpenVCenter.Coercions` — what the validation library makes of a value for a leaf type.
* `OpenVCenter.Schema.VmOut` — the object that is served.
* `OpenVCenter.vmOut` — `vm_out`, or what the validation raises.
-/

namespace OpenVCenter

/-- What the validation library makes of a value for a leaf type, none where it does not validate;
left open but for what is of the type already. Only a string is taken for one. -/
structure Coercions where
  bool : Json → Option Bool
  int : Json → Option ℤ
  float : Json → Option PyFloat
  datetime : Json → Option Time
  bool_bool : ∀ b, bool (.bool b) = some b
  int_int : ∀ n, int (.int n) = some n
  float_float : ∀ x, float (.float x) = some x

/-- Takes what is of the type and nothing else. -/
def Demo.coerce : Coercions where
  bool v := match v with
    | .bool b => some b
    | _ => none
  int v := match v with
    | .int n => some n
    | _ => none
  float v := match v with
    | .float x => some x
    | _ => none
  datetime _ := none
  bool_bool _ := rfl
  int_int _ := rfl
  float_float _ := rfl

namespace Schema

/-! ## Models -/

/-- `VmMemory`. -/
structure VmMemory where
  assignedBytes : ℤ
  minBytes : Option ℤ
  maxBytes : Option ℤ
  dynamic : Bool
  demandBytes : Option ℤ

/-- `VmDisk`. -/
structure VmDisk where
  id : String
  path : String
  controller : String
  sizeBytes : ℤ
  usedBytes : Option ℤ
  type : String
  format : String

/-- `VmNic`. -/
structure VmNic where
  id : String
  name : String
  switchName : String
  vlanId : Option ℤ
  macAddress : String
  ipAddresses : List String
  connected : Bool

/-- `VmSnapshot`. -/
structure VmSnapshot where
  id : String
  name : String
  createdAt : Option Time
  parentId : Option String
  type : Option String

/-- `VmLock`. -/
structure VmLock where
  taskId : String
  kind : String
  requestedBy : String
  acquiredAt : Time

/-- `VmOut`. -/
structure VmOut where
  id : String
  vmUuid : Option String
  hostId : String
  folderId : Option String
  name : String
  state : String
  lastSeen : Option Time
  firmware : String
  guestOs : Option String
  uptimeSec : Option ℤ
  vcpu : ℤ
  cpuUsagePercent : Option PyFloat
  memory : VmMemory
  disks : List VmDisk
  nics : List VmNic
  snapshots : List VmSnapshot
  secureBoot : Option Bool
  secureBootTemplate : Option String
  nestedVirtualization : Bool
  autoStartAction : Option String
  autoStartDelaySec : Option ℤ
  autoStopAction : Option String
  configPath : Option String
  dvdPath : Option String
  highlyAvailable : Bool
  notes : Option String
  tagIds : List String
  metricsEnabled : Bool
  createdAt : Option Time
  lock : Option VmLock

/-! ## Validation -/

/-- A value of type `T`, from what the library makes of it. -/
def validated {α : Type} : Option α → Except Raised α
  | some a => .ok a
  | none => .error .valueError

/-- `str`. -/
def asStr : Json → Except Raised String
  | .str s => .ok s
  | _ => .error .valueError

/-- `T | None`. -/
def asOptional {α : Type} (type : Json → Except Raised α) : Json → Except Raised (Option α)
  | .null => .ok none
  | v => (type v).map some

end Schema

/-! ## Serializers -/

variable (coerce : Coercions)

open Schema (validated asStr asOptional)

/-- `_disk_out`. -/
def diskOut (d : VmDisk) : Except Raised Schema.VmDisk := do
  let id ← asStr (d.diskId.orElse (.str ""))
  let path ← asStr (d.path.orElse (.str ""))
  let controller ← asStr (d.controller.orElse (.str ""))
  let type ← asStr (d.type.orElse (.str ""))
  let format ← asStr (d.format.orElse (.str ""))
  pure { id, path, controller
         sizeBytes := d.sizeBytes.getD 0
         usedBytes := d.usedBytes
         type, format }

/-- `_nic_out`. -/
def nicOut (n : VmNic) : Except Raised Schema.VmNic := do
  let id ← asStr (n.nicId.orElse (.str ""))
  let name ← asStr (n.name.orElse (.str ""))
  let switchName ← asStr (n.switchName.orElse (.str ""))
  let macAddress ← asStr (n.macAddress.orElse (.str ""))
  let ipAddresses ← n.ipAddresses.mapM asStr
  pure { id, name, switchName
         vlanId := n.vlanId
         macAddress, ipAddresses
         connected := n.connected }

/-- `_snapshot_out`. -/
def snapshotOut (s : VmSnapshot) : Except Raised Schema.VmSnapshot := do
  let id ← asStr (s.snapshotId.orElse (.str ""))
  let name ← asStr (s.name.orElse (.str ""))
  let parentId ← asOptional asStr s.parentSnapshotId
  let type ← asOptional asStr s.snapshotType
  pure { id, name, createdAt := s.snapshotCreatedAt, parentId, type }

/-- The `VmMemory` of a row. -/
def memoryOut (vm : Vm) : Except Raised Schema.VmMemory := do
  let assignedBytes ← validated (coerce.int (vm.memoryBytes.orElse (.int 0)))
  let minBytes ← asOptional (fun v => validated (coerce.int v)) vm.memoryMinBytes
  let maxBytes ← asOptional (fun v => validated (coerce.int v)) vm.memoryMaxBytes
  let demandBytes ← asOptional (fun v => validated (coerce.int v)) vm.memoryDemandBytes
  pure { assignedBytes, minBytes, maxBytes, dynamic := vm.memoryDynamic, demandBytes }

/-- `VmLock.model_validate`. -/
def lockOut (lock : Dict) : Except Raised Schema.VmLock := do
  let taskId ← asStr (lock.getD "taskId" (lock.get "task_id"))
  let kind ← asStr (lock.get "kind")
  let requestedBy ← asStr (lock.getD "requestedBy" (lock.get "requested_by"))
  let acquiredAt ← validated (coerce.datetime (lock.getD "acquiredAt" (lock.get "acquired_at")))
  pure { taskId, kind, requestedBy, acquiredAt }

/-- `vm_out`. A host whose agent stopped checking in vouches for none of its VMs. -/
def vmOut (stateOverride : Option String) (lock : Option Dict) (hostOffline : Bool) (vm : Vm) :
    Except Raised Schema.VmOut := do
  let state := if hostOffline then .str "Unknown"
    else (Json.ofOption stateOverride).orElse vm.state
  let name ← asStr vm.name
  let state ← asStr state
  let firmware ← asStr (vm.firmware.orElse (.str "UEFI"))
  let uptimeSec ← asOptional (fun v => validated (coerce.int v)) vm.uptimeSec
  let cpuUsagePercent ← asOptional (fun v => validated (coerce.float v)) vm.cpuUsagePercent
  let memory ← memoryOut coerce vm
  let disks ← vm.disks.mapM diskOut
  let nics ← vm.nics.mapM nicOut
  let snapshots ← vm.snapshots.mapM snapshotOut
  let secureBoot ← asOptional (fun v => validated (coerce.bool v)) vm.secureBoot
  let secureBootTemplate ← asOptional asStr vm.secureBootTemplate
  let autoStartAction ← asOptional asStr vm.autoStartAction
  let autoStartDelaySec ← asOptional (fun v => validated (coerce.int v)) vm.autoStartDelaySec
  let autoStopAction ← asOptional asStr vm.autoStopAction
  let configPath ← asOptional asStr vm.configPath
  let dvdPath ← asOptional asStr vm.dvdPath
  let notes ← asOptional asStr vm.notes
  let lock ← (match lock with
    | none | some [] => pure none
    | some lock => some <$> lockOut coerce lock)
  pure {
    id := vm.id, vmUuid := vm.vmUuid, hostId := vm.hostId, folderId := vm.folderId
    name, state
    lastSeen := vm.lastInventoryAt
    firmware
    guestOs := vm.guestOs
    uptimeSec
    vcpu := vm.vcpu
    cpuUsagePercent, memory, disks, nics, snapshots, secureBoot, secureBootTemplate
    nestedVirtualization := vm.nestedVirtualization
    autoStartAction, autoStartDelaySec, autoStopAction, configPath, dvdPath
    highlyAvailable := vm.highlyAvailable
    notes
    tagIds := vm.tagIds.mergeSort fun a b => decide (a ≤ b)
    metricsEnabled := vm.metricsEnabled
    createdAt := vm.vmCreatedAt
    lock }

end OpenVCenter
