import OpenVCenter.Response

set_option relaxedAutoImplicit false
set_option autoImplicit false

/-!
# Hardware, templates, ISO images and samples

The message handlers of `services/inventory.py` besides those of VMs and responses: the hardware
report of a host, its templates and ISO images, and the samples of the host and its VMs.

## Main definitions

* `OpenVCenter.normalizeHardware` — the canonical hardware of a report.
* `OpenVCenter.applyHostInventory`, `OpenVCenter.applyTemplateInventory`,
  `OpenVCenter.applyIsoInventory`, `OpenVCenter.applyHostMetrics`, `OpenVCenter.applyVmMetrics`.
-/

namespace OpenVCenter

open Effect

variable (env : Env)

/-! ## Hardware -/

/-- `_num`. -/
def num (value : Json) : Except Raised PyFloat := do
  let x ← noneOnTypeOrValueError (env.py.float value)
  pure (x.getD (.ofRat 0))

/-- `round(_num(value) * c)`. -/
def numTimes (c : ℕ) (value : Json) : Except Raised ℤ := do
  let x ← num env value
  (x.scale c).toIntRound

/-- `int(_num(value))`. -/
def numInt (value : Json) : Except Raised ℤ := do
  let x ← num env value
  x.toIntTrunc

/-- One volume of a legacy report. -/
def legacyVolume (vol : Dict) : Except Raised Dict := do
  let total ← numTimes env gib (vol.get "totalGb")
  let free ← numTimes env gib (vol.get "freeGb")
  pure [("path", ((vol.get "path").orElse (vol.get "name")).orElse (.str "")),
    ("label", (vol.get "name").orElse .null), ("totalBytes", .int total), ("freeBytes", .int free)]

/-- `v["path"].lower() in _C_DRIVE`. -/
def isCDrive (volume : Dict) : Except Raised Bool :=
  match volume.get "path" with
  | .str s => .ok (match s.toList with
      | [c, ':'] => decide (c = 'c' ∨ c = 'C')
      | [c, ':', slash] => decide ((c = 'c' ∨ c = 'C') ∧ (slash = '\\' ∨ slash = '/'))
      | _ => false)
  | _ => .error .attributeError

/-- `any(..)` over the volumes. -/
def anyCDrive : List Dict → Except Raised Bool
  | [] => .ok false
  | v :: vs => do
    let b ← isCDrive v
    if b then pure true else anyCDrive vs

/-- The separate system drive of a legacy report, in front unless it is listed. -/
def withDiskC (diskC : Json) (storage : List Dict) : Except Raised (List Dict) :=
  match diskC with
  | .obj d => do
    let listed ← anyCDrive storage
    if listed then pure storage
    else do
      let total ← numTimes env gib (Dict.get d "totalGb")
      let free ← numTimes env gib (Dict.get d "freeGb")
      pure ([("path", .str "C:\\"), ("totalBytes", .int total), ("freeBytes", .int free)] :: storage)
  | _ => pure storage

/-- `n or m`. -/
def orIntVal (n m : ℤ) : ℤ := if n = 0 then m else n

/-- The cluster, the paths and the make of a legacy report, each when there is one. -/
def legacySections (raw : Dict) : Dict :=
  (if (raw.get "hwManufacturer").truthy ∨ (raw.get "hwModel").truthy then
    [("system", .obj [("manufacturer", (raw.get "hwManufacturer").orElse (.str "")),
      ("model", (raw.get "hwModel").orElse (.str ""))])] else []) ++
  (if (raw.get "lastBootTime").truthy then [("bootTime", raw.get "lastBootTime")] else []) ++
  (if (raw.get "clusterState").truthy ∨ (raw.get "isCluster").truthy then
    [("cluster", .obj [("clustered", .bool (raw.get "isCluster").truthy),
      ("name", (raw.get "clusterName").orElse .null),
      ("state", (raw.get "clusterState").orElse (.str "")),
      ("nodes", (raw.get "clusterNodes").orElse (.arr []))])] else []) ++
  (if (raw.get "defaultVmPath").truthy ∨ (raw.get "defaultVhdPath").truthy then
    [("hyperv", .obj [("defaultVmPath", (raw.get "defaultVmPath").orElse .null),
      ("defaultVhdPath", (raw.get "defaultVhdPath").orElse .null)])] else [])

/-- The canonical form of a legacy report; None for one with nothing in it. -/
def normalizeLegacy (raw : Dict) : Except Raised (Option Dict) := do
  let volumes ← ((raw.get "storage").orElse (.arr [])).iterate
  let storage ← (dictsOf volumes).mapM (legacyVolume env)
  let storage ← withDiskC env (raw.get "diskC") storage
  let cpuModel := (raw.get "cpuModel").orElse (.str "")
  let osName := (raw.get "osName").orElse (.str "")
  let memoryBytes ← numTimes env mib (raw.get "memoryCapacityMB")
  if !cpuModel.truthy && !osName.truthy && decide (memoryBytes = 0) && storage.isEmpty then
    pure none
  else do
    let logical ← numInt env (raw.get "logicalProcessors")
    let sockets ← numInt env (raw.get "cpuSockets")
    let cores ← numInt env (raw.get "cpuCores")
    let cpuPercent ← num env (raw.get "cpuLoadPercent")
    let memoryPercent ← num env (raw.get "memoryUsagePercent")
    pure (some ([("cpu", .obj [("model", cpuModel),
        ("sockets", .int (orIntVal sockets (if logical = 0 then 0 else 1))),
        ("cores", .int (orIntVal cores logical)), ("logical", .int logical)]),
      ("memoryBytes", .int memoryBytes), ("storage", .arr (storage.map .obj)),
      ("os", .obj [("caption", osName), ("version", (raw.get "osVersion").orElse (.str ""))]),
      ("network", .arr []), ("vSwitches", .arr []),
      ("load", .obj [("cpuPercent", .float cpuPercent), ("memoryPercent", .float memoryPercent)])] ++
      legacySections raw))

/-- `normalize_hardware`. -/
def normalizeHardware (raw : Json) : Except Raised (Option Dict) :=
  match raw with
  | .obj [] => .ok none
  | .obj d => if (Dict.get d "cpu").isDict then .ok (some d) else normalizeLegacy env d
  | _ => .ok none

/-- `payload["hardware"] if "hardware" in payload else payload`: a list or a string that holds the
word has no such item. -/
def hardwareOf : Json → Except Raised Json
  | .obj d => .ok (if Dict.has d "hardware" then Dict.get d "hardware" else .obj d)
  | .arr l => if l.any fun v => v.isStr "hardware" then .error .typeError else .ok (.arr l)
  | .str s => if 1 < (s.splitOn "hardware").length then .error .typeError else .ok (.str s)
  | _ => .error .typeError

/-- `apply_host_inventory`: a report without usable hardware keeps the last one. -/
def applyHostInventory (hostId : String) (payload : Json) : M Unit := do
  let w ← Prog.read
  match w.db.host hostId with
  | none => pure ()
  | some host => do
    let raw ← Prog.ofExcept (hardwareOf payload)
    match ← Prog.ofExcept (normalizeHardware env raw) with
    | none => pure ()
    | some hardware => modifyDb fun db => db.storeHost { host with hardware := .obj hardware }

/-! ## Templates and ISO images -/

/-- `item.get("id") or new_id()`, as the key of a template. -/
def templateId (item : Dict) : M String :=
  if (item.get "id").truthy then
    match item.get "id" with
    | .str s => pure s
    | _ => Prog.raise .dataError
  else newId env

/-- The body of the loop of `apply_template_inventory`. -/
def addTemplate (hostId : String) (raw : Json) : M Unit := do
  let item ← Prog.ofExcept raw.asDict
  let id ← templateId env item
  let row ← Prog.ofExcept (templateRow env id hostId item)
  modifyDb fun db => { db with templates := db.templates ++ [row] }

/-- `apply_template_inventory`: the templates of the host are replaced. -/
def applyTemplateInventory (hostId : String) (payload : Json) : M Unit := do
  modifyDb fun db =>
    { db with templates := Table.deleteWhere (fun t => decide (t.hostId = hostId)) db.templates }
  let d ← Prog.ofExcept payload.asDict
  let items ← Prog.ofExcept (d.getD "items" (.arr [])).iterate
  items.foldlM (fun _ raw => addTemplate env hostId raw) ()

/-- The body of the loop of `apply_iso_inventory`: the key is always fresh. -/
def addIso (hostId : String) (raw : Json) : M Unit := do
  let item ← Prog.ofExcept raw.asDict
  let id ← newId env
  let sizeBytes ← Prog.ofExcept (env.py.int (item.getD "sizeBytes" (.int 0)))
  modifyDb fun db => { db with isos := db.isos ++
    [{ id, hostId, sizeBytes
       name := item.getD "name" (.str "")
       path := item.getD "path" (.str "")
       checksum := (item.get "checksum").orElse .null }] }

/-- `apply_iso_inventory`: the images of the host are replaced. -/
def applyIsoInventory (hostId : String) (payload : Json) : M Unit := do
  modifyDb fun db =>
    { db with isos := Table.deleteWhere (fun i => decide (i.hostId = hostId)) db.isos }
  let d ← Prog.ofExcept payload.asDict
  let items ← Prog.ofExcept (d.getD "items" (.arr [])).iterate
  items.foldlM (fun _ raw => addIso env hostId raw) ()

/-! ## Samples -/

/-- `_metrics_cutoff`. -/
def metricsCutoff (now : Time) : Time := now - seconds env.metricsRetentionSeconds

/-- The instant of a sample. -/
def sampleTime (now : Time) (payload : Dict) : Time :=
  (parseDt env ((payload.get "reportedAt").orElse (payload.get "reported_at"))).getD now

/-- The row of a host sample. -/
def hostMetric (now : Time) (hostId : String) (payload : Dict) : Except Raised HostMetric := do
  let cpuPercent ← asFloat env (payload.get "cpuPercent")
  let memPercent ← asFloat env (payload.get "memPercent")
  let diskLatencyMs ← asFloat env (payload.get "diskLatencyMs")
  let netRxBps ← asInt env (payload.get "netRxBps")
  let netTxBps ← asInt env (payload.get "netTxBps")
  pure { hostId, cpuPercent, memPercent, diskLatencyMs, netRxBps, netTxBps
         ts := sampleTime env now payload
         detail := .obj payload }

/-- The `DELETE` of the samples of a host from before `cutoff`. -/
def Db.pruneHostMetrics (db : Db) (hostId : String) (cutoff : Time) : Db :=
  { db with
    hostMetrics :=
      Table.deleteWhere (fun m => decide (m.hostId = hostId ∧ m.ts < cutoff)) db.hostMetrics }

/-- `apply_host_metrics`. -/
def applyHostMetrics (hostId : String) (payload : Json) : M Unit := do
  let w ← Prog.read
  match w.db.host hostId with
  | none => pure ()
  | some _ => do
    let d ← Prog.ofExcept payload.asDict
    let row ← Prog.ofExcept (hostMetric env w.now hostId d)
    modifyDb fun db => { db with hostMetrics := db.hostMetrics ++ [row] }
    flush
    modifyDb fun db => db.pruneHostMetrics hostId (metricsCutoff env w.now)

/-- `by_uuid`: the metered VMs of the host by GUID. -/
def meteredVms (db : Db) (hostId : String) : List (String × String) :=
  (db.vms.filter fun v => decide (v.hostId = hostId) && v.metricsEnabled).filterMap fun v =>
    (nonEmpty v.vmUuid).map fun u => (u, v.id)

/-- `by_uuid.get(vm_uuid)`: a list or an object cannot be hashed, and other values are no key. The
last row of a GUID wins. -/
def meteredVm (byUuid : List (String × String)) (vmUuid : Json) : Except Raised (Option String) :=
  match vmUuid with
  | .str u => .ok (byUuid.reverse.lookup u)
  | .arr _ | .obj _ => .error .typeError
  | _ => .ok none

/-- The row of a VM sample. -/
def vmMetric (vmId : String) (ts : Time) (item : Dict) : Except Raised VmMetric := do
  let cpuPercent ← asFloat env (item.get "cpuPercent")
  let memBytes ← asInt env (item.get "memBytes")
  let diskBytes ← asInt env (item.get "diskBytes")
  let netRxBytes ← asInt env (item.get "netRxBytes")
  let netTxBytes ← asInt env (item.get "netTxBytes")
  pure { vmId, ts, cpuPercent, memBytes, diskBytes, netRxBytes, netTxBytes, detail := .obj item }

/-- The body of the loop of `apply_vm_metrics`. -/
def addVmMetric (byUuid : List (String × String)) (ts : Time) (raw : Json) : M Unit := do
  let item ← Prog.ofExcept raw.asDict
  match ← Prog.ofExcept (meteredVm byUuid ((item.get "id").orElse (item.get "vmId"))) with
  | none => pure ()
  | some vmId => do
    let row ← Prog.ofExcept (vmMetric env vmId ts item)
    modifyDb fun db => { db with vmMetrics := db.vmMetrics ++ [row] }

/-- The `DELETE` of the samples of the VMs of a host from before `cutoff`. -/
def Db.pruneVmMetrics (db : Db) (hostId : String) (cutoff : Time) : Db :=
  { db with
    vmMetrics :=
      Table.deleteWhere (fun m => decide (m.ts < cutoff ∧
        m.vmId ∈ (db.vms.filter fun v => decide (v.hostId = hostId)).map Vm.id)) db.vmMetrics }

/-- `apply_vm_metrics`. -/
def applyVmMetrics (hostId : String) (payload : Json) : M Unit := do
  let d ← Prog.ofExcept payload.asDict
  let w ← Prog.read
  let items ← Prog.ofExcept (d.getD "vms" (.arr [])).iterate
  items.foldlM (fun _ raw =>
    addVmMetric env (meteredVms w.db hostId) (sampleTime env w.now d) raw) ()
  flush
  modifyDb fun db => db.pruneVmMetrics hostId (metricsCutoff env w.now)

end OpenVCenter
