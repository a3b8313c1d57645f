import OpenVCenter.Vms

set_option relaxedAutoImplicit false
set_option autoImplicit false

/-!
# Provisioning, removal, and the routes

`request_vm_create`, `request_vm_clone` and `remove_vm_from_inventory` of `services/vms.py`, and
the routes of `api/routes/vms.py` around the VM services.

## Main definitions

* `OpenVCenter.VmCreate`, `OpenVCenter.VmClone` — the request bodies.
* `OpenVCenter.requestVmCreateOver`, `OpenVCenter.requestVmCloneOver` — a placeholder row without a
  GUID, its lock, its task, the request to the agent, with calls that may fail;
  `OpenVCenter.requestVmCreate`, `OpenVCenter.requestVmClone` are those with every call answered.
* `OpenVCenter.removeVmFromInventory` — a row is dropped without an agent request.
* `OpenVCenter.vmAction`, `OpenVCenter.deleteVm`, `OpenVCenter.createVm`, `OpenVCenter.cloneVm`,
  `OpenVCenter.forgetVm` — the routes: the service, then the audit event.
-/

namespace OpenVCenter

open Effect

variable (env : Env)

/-! ## Bodies -/

/-- `VmDiskSpec`. -/
structure VmDiskSpec where
  name : String
  type : String := "Fixed"
  sizeGb : ℤ := 60

/-- `VmCreate`, validated. -/
structure VmCreate where
  name : String
  hostId : String
  os : String := "windows"
  firmware : String := "UEFI"
  cpuCount : ℤ := 2
  memoryMb : ℤ := 4096
  memoryDynamic : Bool := false
  memoryMinMb : Option ℤ := none
  memoryMaxMb : Option ℤ := none
  destinationStorage : Option String := none
  notes : Option String := none
  vlanId : Option ℤ := none
  switchName : Option String := none
  nestedVirtualization : Bool := false
  haEnabled : Bool := false
  dvd : Option String := none
  startNow : Bool := false
  disks : List VmDiskSpec := [{ name := "OS" }]

/-- What a clone is made from: the field `source` with the identifier it requires. -/
inductive CloneSource where
  | vm (sourceVmId : String)
  | template (templateId : String)

/-- `VmClone`, validated. -/
structure VmClone where
  name : String
  hostId : String
  source : CloneSource
  cpuCount : Option ℤ := none
  memoryMb : Option ℤ := none
  destinationStorage : Option String := none
  notes : Option String := none
  vlanId : Option ℤ := none
  nestedVirtualization : Bool := false
  haEnabled : Bool := false
  startNow : Bool := false
  expandDisks : Bool := true

/-- `(text or "").strip() or None`. -/
def strippedOrNull (text : Option String) : Json :=
  let s := env.py.strip (text.getD "")
  if s.isEmpty then .null else .str s

/-- `text or None`. -/
def orNull (text : Option String) : Json := .ofOption (nonEmpty text)

/-! ## Placeholders -/

/-- The adapter of a placeholder that asks for a VLAN. -/
def placeholderNics (vlanId : Option ℤ) : List VmNic :=
  match vlanId with
  | none => []
  | some vlan =>
    [{ position := 0, nicId := .null, name := .str "Network Adapter", switchName := .null
       vlanId := some vlan, macAddress := .null, ipAddresses := [], connected := true }]

/-- What create and clone do with their placeholder: the row, its lock, the task, the request. The
lock is taken whether or not another task holds it, and stays when a later step raises. -/
def provisionOver (calls : Calls) (host : Host) (kind : TaskKind) (vm : String → Vm)
    (params : Vm → Dict) (requestedBy : String) : M (Vm × Task) := do
  let vmId ← newId env
  let vm := vm vmId
  modifyDb fun db => db.addVm vm
  calls.row.through flush
  let taskId ← newId env
  let _ ← calls.acquire.through (acquireVmLock env vm.id taskId kind requestedBy)
  let w ← Prog.read
  let task := vmTask taskId kind vm requestedBy w.txStart
  let request := agentRequest env w.now task (params vm)
  let task := { task with requestPayload := request.modelDump }
  modifyDb fun db => db.addTask task
  calls.flush.through flush
  calls.publish.through (publishRequest host.shortId request)
  pure (vm, task)

/-- It, with every call answered. -/
def provision : Host → TaskKind → (String → Vm) → (Vm → Dict) → String → M (Vm × Task) :=
  provisionOver env {}

/-- `_provision`, with every call answered. -/
theorem provision_answered (host : Host) (kind : TaskKind) (vm : String → Vm) (params : Vm → Dict)
    (requestedBy : String) : provision env host kind vm params requestedBy = (do
      let vmId ← newId env
      let vm := vm vmId
      modifyDb fun db => db.addVm vm
      flush
      let taskId ← newId env
      let _ ← acquireVmLock env vm.id taskId kind requestedBy
      let w ← Prog.read
      let task := vmTask taskId kind vm requestedBy w.txStart
      let request := agentRequest env w.now task (params vm)
      let task := { task with requestPayload := request.modelDump }
      modifyDb fun db => db.addTask task
      flush
      publishRequest host.shortId request
      pure (vm, task)) := rfl

/-- The placeholder of a create. -/
def createPlaceholder (host : Host) (body : VmCreate) (id : String) : Vm where
  id := id
  vmUuid := none
  hostId := host.id
  clusterId := host.clusterId
  name := .str body.name
  state := .str "Unknown"
  firmware := .str body.firmware
  vcpu := body.cpuCount
  memoryBytes := .int (body.memoryMb * 1024 * 1024)
  memoryDynamic := body.memoryDynamic
  nestedVirtualization := body.nestedVirtualization
  highlyAvailable := body.haEnabled
  notes := strippedOrNull env body.notes
  nics := placeholderNics body.vlanId

/-- The `params` of a create. -/
def createParams (host : Host) (body : VmCreate) (vm : Vm) : Dict :=
  [("name", .str body.name),
    ("destination_storage", .str (env.py.strip (body.destinationStorage.getD ""))),
    ("os", .str body.os), ("notes", vm.notes.orElse (.str "")), ("firmware", .str body.firmware),
    ("cpu_count", .int body.cpuCount), ("memory_mb", .int body.memoryMb),
    ("memory_dynamic", .bool body.memoryDynamic), ("memory_min_mb", .ofInt? body.memoryMinMb),
    ("memory_max_mb", .ofInt? body.memoryMaxMb),
    ("nested_virtualization", .bool body.nestedVirtualization),
    ("vlan_id", .ofInt? body.vlanId), ("switch_name", orNull body.switchName),
    ("dvd", orNull body.dvd), ("ha_enabled", .bool (body.haEnabled && host.clusterId.isSome)),
    ("cluster", if body.haEnabled then .ofOption host.clusterId else .null),
    ("start_now", .bool body.startNow),
    ("disks", .arr (body.disks.map fun d =>
      .obj [("name", .str d.name), ("type", .str d.type), ("size_gb", .int d.sizeGb)]))]

/-- `request_vm_create`. -/
def requestVmCreateOver (calls : Calls) (host : Host) (body : VmCreate) (requestedBy : String) :
    M (Vm × Task) := do
  requireHostOnline env host
  requireVmStorageAllowed env host (.str (env.py.strip (body.destinationStorage.getD "")))
  provisionOver env calls host .vm_create (createPlaceholder env host body)
    (createParams env host body) requestedBy

/-- It, with every call answered. -/
def requestVmCreate : Host → VmCreate → String → M (Vm × Task) := requestVmCreateOver env {}

/-! ## Clones -/

/-- The sizing and the parameters a clone takes from its source. -/
structure CloneSpec where
  firmware : Json
  cpuCount : Option ℤ
  memoryMb : Option ℤ
  vlanId : Option ℤ
  notes : Json
  params : Dict

/-- `n or m` of integers. -/
def orInt (n : Option ℤ) (m : ℤ) : Option ℤ :=
  match n with
  | some k => if k = 0 then some m else some k
  | none => some m

/-- The errors of a clone request. -/
def cloneRefused (code message : String) : Raised :=
  .apiError { code, message, statusCode := 409 }

/-- The clone of an off VM of the host. -/
def cloneOfVm (host : Host) (body : VmClone) (sourceVmId : String) : M CloneSpec := do
  let w ← Prog.read
  let source ← M.ofOption (notFound "Source VM") (w.db.vm sourceVmId)
  if source.hostId ≠ host.id then
    Prog.raise (cloneRefused "CROSS_HOST_CLONE"
      "The source VM and the target host must be the same host")
  else if !source.state.isStr "Off" then
    Prog.raise (cloneRefused "SOURCE_NOT_OFF"
      ("'" ++ env.py.str source.name ++ "' must be powered off to clone it"))
  else if (nonEmpty source.vmUuid).isNone then
    Prog.raise (vmNotReady "The source VM has not been reported by its host agent yet")
  else do
    let memory ← (match source.memoryBytes with
      | .int n => pure (n / (1024 * 1024))
      | _ => Prog.raise .typeError)
    pure {
      firmware := source.firmware.orElse (.str "UEFI")
      cpuCount := orInt body.cpuCount source.vcpu
      memoryMb := orInt body.memoryMb memory
      vlanId := match body.vlanId with
        | some v => some v
        | none => source.nics.head?.bind VmNic.vlanId
      notes := if (strippedOrNull env body.notes).isNone then source.notes
        else strippedOrNull env body.notes
      params := [("clone_type", .str "imported"), ("source_vm_name", source.name)] }

/-- The deployment of a template the host can reach. -/
def cloneOfTemplate (host : Host) (body : VmClone) (templateId : String) : M CloneSpec := do
  let w ← Prog.read
  let template ← M.ofOption (notFound "Template") (w.db.template templateId)
  let sameCluster := match w.db.host template.hostId with
    | some tplHost => host.clusterId.isSome && decide (tplHost.clusterId = host.clusterId)
    | none => false
  if template.hostId ≠ host.id ∧ sameCluster = false then
    Prog.raise (cloneRefused "TEMPLATE_UNREACHABLE"
      "The template is not on the target host or its cluster")
  else
    pure {
      firmware := .str "UEFI"
      cpuCount := orInt (orInt body.cpuCount template.cpuCount) 2
      memoryMb := orInt (orInt body.memoryMb template.memoryMb) 4096
      vlanId := body.vlanId
      notes := if (strippedOrNull env body.notes).isNone then template.notes
        else strippedOrNull env body.notes
      params := [("clone_type", .str "exported"), ("source_export_path", template.path),
        ("expand_disks", .bool body.expandDisks)] }

/-- The placeholder of a clone. -/
def clonePlaceholder (host : Host) (body : VmClone) (spec : CloneSpec) (id : String) : Vm where
  id := id
  vmUuid := none
  hostId := host.id
  clusterId := host.clusterId
  name := .str body.name
  state := .str "Unknown"
  firmware := spec.firmware
  vcpu := (orInt spec.cpuCount 2).getD 2
  memoryBytes := .int ((orInt spec.memoryMb 4096).getD 4096 * 1024 * 1024)
  nestedVirtualization := body.nestedVirtualization
  highlyAvailable := body.haEnabled && host.clusterId.isSome
  notes := spec.notes
  nics := placeholderNics spec.vlanId

/-- The `params` of a clone. -/
def cloneParams (host : Host) (body : VmClone) (spec : CloneSpec) : Dict :=
  spec.params.merge [("name", .str body.name),
    ("destination_storage", .str (env.py.strip (body.destinationStorage.getD ""))),
    ("cpu_count", .ofInt? (orInt spec.cpuCount 2)),
    ("memory_mb", .ofInt? (orInt spec.memoryMb 4096)),
    ("notes", spec.notes.orElse (.str "")), ("vlan_id", .ofInt? spec.vlanId),
    ("nested_virtualization", .bool body.nestedVirtualization),
    ("ha_enabled", .bool (body.haEnabled && host.clusterId.isSome)),
    ("start_now", .bool body.startNow)]

/-- `request_vm_clone`. -/
def requestVmCloneOver (calls : Calls) (body : VmClone) (host : Host) (requestedBy : String) :
    M (Vm × Task) := do
  requireHostOnline env host
  requireVmStorageAllowed env host (.ofOption body.destinationStorage)
  let spec ← calls.read.through (match body.source with
    | .vm sourceVmId => cloneOfVm env host body sourceVmId
    | .template templateId => cloneOfTemplate env host body templateId)
  provisionOver env calls host .vm_clone (clonePlaceholder host body spec)
    (fun _ => cloneParams env host body spec) requestedBy

/-- It, with every call answered. -/
def requestVmClone : VmClone → Host → String → M (Vm × Task) := requestVmCloneOver env {}

/-- `request_vm_clone`, with every call answered. -/
theorem requestVmClone_answered (body : VmClone) (host : Host) (requestedBy : String) :
    requestVmClone env body host requestedBy = (do
      requireHostOnline env host
      requireVmStorageAllowed env host (.ofOption body.destinationStorage)
      let spec ← (match body.source with
        | .vm sourceVmId => cloneOfVm env host body sourceVmId
        | .template templateId => cloneOfTemplate env host body templateId)
      provision env host .vm_clone (clonePlaceholder host body spec)
        (fun _ => cloneParams env host body spec) requestedBy) := rfl

/-! ## Removal from the inventory -/

/-- The agent would report the VM again. -/
def hostOnline (host : Host) : Raised :=
  .apiError {
    code := "HOST_ONLINE"
    message := "Host '" ++ host.name ++ "' is online - use Delete to remove the VM, " ++
      "or it will reappear on the next inventory refresh"
    statusCode := 409 }

/-- `remove_vm_from_inventory`: refused while the agent would report the VM again. -/
def removeVmFromInventory (vm : Vm) : M Unit := do
  let w ← Prog.read
  (match w.db.host vm.hostId with
    | some host =>
      if vm.vmUuid.isSome && agentConnected env w.now host then Prog.raise (hostOnline host)
      else pure ()
    | none => pure ())
  forceReleaseVmLock vm.id
  clearVmState vm.id
  modifyDb fun db => db.deleteVm vm.id
  flush

/-! ## Routes -/

/-- An entry of a dump without its nulls. -/
def dumpEntry (key : String) : Json → Dict
  | .null => []
  | v => [(key, v)]

/-- `body.model_dump(mode="json", by_alias=True, exclude_none=True)`. -/
def VmCreate.modelDump (body : VmCreate) : Dict :=
  [("name", .str body.name), ("hostId", .str body.hostId), ("os", .str body.os),
    ("firmware", .str body.firmware), ("cpuCount", .int body.cpuCount),
    ("memoryMb", .int body.memoryMb), ("memoryDynamic", .bool body.memoryDynamic)] ++
  dumpEntry "memoryMinMb" (.ofInt? body.memoryMinMb) ++
  dumpEntry "memoryMaxMb" (.ofInt? body.memoryMaxMb) ++
  dumpEntry "destinationStorage" (.ofOption body.destinationStorage) ++
  dumpEntry "notes" (.ofOption body.notes) ++ dumpEntry "vlanId" (.ofInt? body.vlanId) ++
  dumpEntry "switchName" (.ofOption body.switchName) ++
  [("nestedVirtualization", .bool body.nestedVirtualization),
    ("haEnabled", .bool body.haEnabled)] ++
  dumpEntry "dvd" (.ofOption body.dvd) ++
  [("startNow", .bool body.startNow),
    ("disks", .arr (body.disks.map fun d =>
      .obj [("name", .str d.name), ("type", .str d.type), ("sizeGb", .int d.sizeGb)]))]

/-- `body.model_dump(mode="json", by_alias=True, exclude_none=True)`. -/
def VmClone.modelDump (body : VmClone) : Dict :=
  [("name", .str body.name), ("hostId", .str body.hostId)] ++
  (match body.source with
    | .vm id => [("source", .str "vm"), ("sourceVmId", .str id)]
    | .template id => [("source", .str "template"), ("templateId", .str id)]) ++
  dumpEntry "cpuCount" (.ofInt? body.cpuCount) ++ dumpEntry "memoryMb" (.ofInt? body.memoryMb) ++
  dumpEntry "destinationStorage" (.ofOption body.destinationStorage) ++
  dumpEntry "notes" (.ofOption body.notes) ++ dumpEntry "vlanId" (.ofInt? body.vlanId) ++
  [("nestedVirtualization", .bool body.nestedVirtualization),
    ("haEnabled", .bool body.haEnabled), ("startNow", .bool body.startNow),
    ("expandDisks", .bool body.expandDisks)]

/-- The VM of a route, or 404. -/
def getVm (vmId : String) : M Vm := do
  let w ← Prog.read
  M.ofOption (notFound "VM") (w.db.vm vmId)

/-- A delete has a route of its own. -/
def unknownDelete : Raised :=
  .apiError { code := "UNKNOWN_ACTION", message := "Unknown VM action 'delete'", statusCode := 404 }

/-- `POST /vms/{vm_id}/actions/{action}`. -/
def vmAction (user : User) (vmId : String) (action : VmAction) (params : Dict) : M Unit := do
  if action = .delete then Prog.raise unknownDelete
  else do
    let vm ← getVm vmId
    let task ← requestVmAction env vm action user.email params
    let details := if params.isEmpty then .null else .obj [("params", .obj params)]
    if action.isReadOnly then pure ()
    else record env (some user) ("vm." ++ action.name) vm.ref (some task) details

/-- `DELETE /vms/{vm_id}`. -/
def deleteVm (user : User) (vmId : String) (removeFiles : Bool) : M Unit := do
  let vm ← getVm vmId
  let task ← requestVmAction env vm .delete user.email [("remove_files", .bool removeFiles)]
  record env (some user) "vm.delete" vm.ref (some task) (.obj [("removeFiles", .bool removeFiles)])

/-- `POST /vms`. -/
def createVm (user : User) (body : VmCreate) : M Unit := do
  let w ← Prog.read
  let host ← M.ofOption (notFound "Host") (w.db.host body.hostId)
  let (vm, task) ← requestVmCreate env host body user.email
  record env (some user) "vm.create" vm.ref (some task) (.obj body.modelDump)

/-- `POST /vms/clone`. -/
def cloneVm (user : User) (body : VmClone) : M Unit := do
  let w ← Prog.read
  let host ← M.ofOption (notFound "Host") (w.db.host body.hostId)
  let (vm, task) ← requestVmClone env body host user.email
  let w ← Prog.read
  let sourceName := match body.source with
    | .vm id => (w.db.vm id).map Vm.name
    | .template id => (w.db.template id).map Template.name
  let details := match sourceName with
    | some name => body.modelDump.set "sourceName" name
    | none => body.modelDump
  record env (some user) "vm.clone" vm.ref (some task) (.obj details)

/-- `DELETE /vms/{vm_id}/from-inventory`. -/
def forgetVm (user : User) (vmId : String) : M Unit := do
  let vm ← getVm vmId
  record env (some user) "vm.forget" vm.ref none .null
  removeVmFromInventory env vm

/-- `DELETE /vm-locks/{vm_id}`: an administrator frees a lock. -/
def releaseVmLockRoute (user : User) (vmId : String) : M Unit := do
  let w ← Prog.read
  let held := Expiring.get w.cache.vmLocks vmId
  forceReleaseVmLock vmId
  match held, w.db.vm vmId with
  | some lock, some vm =>
    record env (some user) "vm.lock_release" vm.ref none
      (.obj [("lock", .obj [("task_id", .str lock.taskId), ("kind", .str lock.kind.name),
        ("requested_by", .str lock.requestedBy),
        ("acquired_at", .str (env.py.isoformat lock.acquiredAt))])])
  | _, _ => pure ()

end OpenVCenter
