import OpenVCenter.System

set_option relaxedAutoImplicit false
set_option autoImplicit false

/-!
# The hardware that is served

`HostHardwareInventory` of `schemas/host.py` with its parts, and `_hardware_out` of
`services/serializers.py`, which validates the hardware of a host row against it.

## Main definitions

* `OpenVCenter.Pydantic` — what the validation library takes for a leaf type.
* `OpenVCenter.Schema.hostHardwareInventory` — the values that validate.
* `OpenVCenter.hardwareOut` — what is served of a stored value, or what it raises.

## Design

A model is the predicate of the values it validates; the object of the class that is built from a
valid one is left out, the canonical dictionary stands for it.
-/

namespace OpenVCenter

/-- The values that are converted to a leaf type, left open but for what is of the type already.
Only a string is taken for one. -/
structure Pydantic where
  bool : Json → Bool
  int : Json → Bool
  float : Json → Bool
  datetime : Json → Bool
  bool_bool : ∀ b, bool (.bool b) = true
  int_int : ∀ n, int (.int n) = true
  float_float : ∀ x, float (.float x) = true

/-- Takes what is of the type, whole numbers for each other, and a date that is written in ISO
format. -/
def Demo.pydantic : Pydantic where
  bool v := match v with
    | .bool _ => true
    | v => v.isOne
  int v := match v with
    | .int _ | .bool _ => true
    | _ => false
  float v := match v with
    | .float _ | .int _ | .bool _ => true
    | _ => false
  datetime v := match v with
    | .str s => (Demo.py.fromisoformat s).isSome
    | .int _ | .float _ => true
    | _ => false
  bool_bool _ := rfl
  int_int _ := rfl
  float_float _ := rfl

namespace Schema

/-! ## Models -/

/-- `str`. -/
def str : Json → Bool
  | .str _ => true
  | _ => false

/-- `T | None`. -/
def orNone (type : Json → Bool) : Json → Bool
  | .null => true
  | v => type v

/-- `list[T]`. -/
def list (type : Json → Bool) : Json → Bool
  | .arr l => l.all type
  | _ => false

/-- The value of an attribute: under its alias, or under its name (`populate_by_name`). -/
def valueOf (name key : String) (d : Dict) : Option Json :=
  if d.has key then some (d.get key) else if d.has name then some (d.get name) else none

/-- An attribute without a default. -/
def required (name key : String) (type : Json → Bool) (d : Dict) : Bool :=
  match valueOf name key d with
  | some v => type v
  | none => false

/-- An attribute with a default. -/
def optional (name key : String) (type : Json → Bool) (d : Dict) : Bool :=
  match valueOf name key d with
  | some v => type v
  | none => true

/-- A `CamelModel` with these attributes. -/
def model (attributes : List (Dict → Bool)) : Json → Bool
  | .obj d => attributes.all fun a => a d
  | _ => false

/-! ## The hardware of a host -/

variable (pydantic : Pydantic)

/-- `CpuInfo`. -/
def cpuInfo : Json → Bool := model [
  optional "model" "model" str,
  optional "sockets" "sockets" pydantic.int,
  optional "cores" "cores" pydantic.int,
  optional "logical" "logical" pydantic.int]

/-- `StorageVolume`. -/
def storageVolume : Json → Bool := model [
  required "path" "path" str,
  optional "label" "label" (orNone str),
  optional "total_bytes" "totalBytes" pydantic.int,
  optional "free_bytes" "freeBytes" pydantic.int]

/-- `OsInfo`. -/
def osInfo : Json → Bool := model [
  optional "caption" "caption" str,
  optional "version" "version" str]

/-- `NetworkAdapter`. -/
def networkAdapter : Json → Bool := model [
  required "name" "name" str,
  required "mac" "mac" str,
  optional "speed_bps" "speedBps" pydantic.int,
  optional "connected" "connected" pydantic.bool,
  optional "description" "description" str,
  optional "status" "status" (orNone str),
  optional "link_speed" "linkSpeed" (orNone str),
  optional "driver_version" "driverVersion" (orNone str),
  optional "driver_date" "driverDate" (orNone str),
  optional "driver_provider" "driverProvider" (orNone str),
  optional "firmware_version" "firmwareVersion" (orNone str)]

/-- `VirtualSwitch`. -/
def virtualSwitch : Json → Bool := model [
  required "name" "name" str,
  optional "id" "id" (orNone str),
  optional "type" "type" str,
  optional "net_adapter" "netAdapter" (orNone str),
  optional "allow_management_os" "allowManagementOS" (orNone pydantic.bool),
  optional "embedded_teaming" "embeddedTeaming" (orNone pydantic.bool),
  optional "team_members" "teamMembers" (list str),
  optional "load_balancing_algorithm" "loadBalancingAlgorithm" (orNone str),
  optional "bandwidth_reservation_mode" "bandwidthReservationMode" (orNone str)]

/-- `FibreChannelHba`. -/
def fibreChannelHba : Json → Bool := model [
  optional "manufacturer" "manufacturer" str,
  optional "model" "model" str,
  optional "model_description" "modelDescription" str,
  optional "serial_number" "serialNumber" str,
  optional "driver_version" "driverVersion" str,
  optional "firmware_version" "firmwareVersion" str,
  optional "hardware_version" "hardwareVersion" str,
  optional "node_wwn" "nodeWWN" str,
  optional "port_wwn" "portWWN" str,
  optional "state" "state" str,
  optional "speed" "speed" str,
  optional "connection_type" "connectionType" str]

/-- `SystemInfo`. -/
def systemInfo : Json → Bool := model [
  optional "manufacturer" "manufacturer" str,
  optional "model" "model" str]

/-- `LoadSnapshot`. -/
def loadSnapshot : Json → Bool := model [
  optional "cpu_percent" "cpuPercent" (orNone pydantic.float),
  optional "memory_percent" "memoryPercent" (orNone pydantic.float)]

/-- `FailoverCluster`. -/
def failoverCluster : Json → Bool := model [
  optional "clustered" "clustered" pydantic.bool,
  optional "name" "name" (orNone str),
  optional "state" "state" str,
  optional "nodes" "nodes" (list str)]

/-- `HyperVPaths`. -/
def hyperVPaths : Json → Bool := model [
  optional "default_vm_path" "defaultVmPath" (orNone str),
  optional "default_vhd_path" "defaultVhdPath" (orNone str)]

/-- `HostHardwareInventory`. -/
def hostHardwareInventory : Json → Bool := model [
  optional "cpu" "cpu" (cpuInfo pydantic),
  optional "memory_bytes" "memoryBytes" pydantic.int,
  optional "storage" "storage" (list (storageVolume pydantic)),
  optional "os" "os" osInfo,
  optional "network" "network" (list (networkAdapter pydantic)),
  optional "v_switches" "vSwitches" (list (virtualSwitch pydantic)),
  optional "hbas" "hbas" (list fibreChannelHba),
  optional "system" "system" (orNone systemInfo),
  optional "boot_time" "bootTime" (orNone pydantic.datetime),
  optional "load" "load" (orNone (loadSnapshot pydantic)),
  optional "cluster" "cluster" (orNone (failoverCluster pydantic)),
  optional "hyperv" "hyperv" (orNone hyperVPaths)]

end Schema

/-! ## What is served -/

variable (env : Env) (pydantic : Pydantic)

/-- `_hardware_out`: a value that does not validate is dropped. -/
def hardwareOut (raw : Json) : Except Raised (Option Dict) := do
  match ← normalizeHardware env raw with
  | none => pure none
  | some canonical =>
    if Schema.hostHardwareInventory pydantic (.obj canonical) then pure (some canonical)
    else pure none

end OpenVCenter
