import OpenVCenter.System

set_option relaxedAutoImplicit false
set_option autoImplicit false

/-!
# The organization

Clusters, the membership of hosts, and folders: `services/organization.py`, `create_host` of
`services/hosts.py`, and the routes that call them.

## Main definitions

* `OpenVCenter.createCluster`, `OpenVCenter.deleteCluster`, `OpenVCenter.createHost`,
  `OpenVCenter.moveHost`, `OpenVCenter.createFolder`, `OpenVCenter.deleteFolder`,
  `OpenVCenter.moveVmToFolder` — the services.
* `OpenVCenter.Operation`, `OpenVCenter.Operation.handler` — the routes, with the audit event each
  records.
* `OpenVCenter.Organization.step` — the system with these operations.

## Design

Each foreign key of `vms` and `folders` has its own rule on delete; the cascades are written out
beside the delete. The caller's scope is not modelled. Renames, which touch nothing but a name, are
left out.
-/

namespace OpenVCenter

open Effect

variable (env : Env)

/-! ## Rows -/

namespace Db

/-- `db.get(Cluster, id)`. -/
def cluster (db : Db) (id : String) : Option Cluster := Table.lookup Cluster.id id db.clusters

/-- `db.get(Folder, id)`. -/
def folder (db : Db) (id : String) : Option Folder := Table.lookup Folder.id id db.folders

/-- The folders of `p` go: `folders.id` is `SET NULL` in `vms`. -/
def deleteFolders (db : Db) (p : Folder → Bool) : Db :=
  { db with
    folders := Table.deleteWhere p db.folders
    vms := db.vms.map fun v => { v with
      folderId := v.folderId.filter fun f => !db.folders.any fun folder =>
        decide (folder.id = f) && p folder } }

/-- `db.delete(cluster)`: its folders go, and hosts and VMs are left without a cluster. -/
def deleteCluster (db : Db) (id : String) : Db :=
  let db := db.deleteFolders fun f => decide (f.clusterId = some id)
  { db with
    clusters := Table.deleteWhere (fun c => decide (c.id = id)) db.clusters
    hosts := db.hosts.map fun h => if h.clusterId = some id then { h with clusterId := none } else h
    vms := db.vms.map fun v => if v.clusterId = some id then { v with clusterId := none } else v }

/-- The statements of `move_host`. -/
def moveHost (db : Db) (host : Host) (clusterId : Option String) : Db :=
  let db := db.storeHost { host with clusterId := clusterId }
  let db := { db with
    vms := Table.updateWhere (fun v => decide (v.hostId = host.id))
      (fun v => { v with clusterId := clusterId, folderId := none }) db.vms }
  db.deleteFolders fun f => decide (f.hostId = some host.id)

end Db

open Column in
/-- The values fit the columns of `clusters`. -/
def Cluster.bindable (c : Cluster) : Bool := fits 255 c.name && fits 32 c.hypervisor

/-- The values fit the columns of `folders`. -/
def Folder.bindable (f : Folder) : Bool := Column.fits 255 f.name

/-- `folder_scope_exactly_one`. -/
def Folder.scopedOnce (f : Folder) : Bool := f.clusterId.isSome != f.hostId.isSome

/-- `_ref` of a cluster. -/
def Cluster.ref (c : Cluster) : TargetRef := ⟨"cluster", some c.id, .str c.name, none, some c.id⟩

/-- `_ref` of a folder. -/
def Folder.ref (f : Folder) : TargetRef := ⟨"folder", some f.id, .str f.name, f.hostId, f.clusterId⟩

/-- `ApiError("INVALID", message)`. -/
def invalid (message : String) : Raised := .apiError { code := "INVALID", message }

/-! ## Clusters -/

/-- The flush of a new row of `clusters` or `folders`, with the columns and the `CHECK` of that
row. -/
@[irreducible] def flushNew (bindable checked : Bool) : M Unit :=
  if !bindable then Prog.raise .dataError
  else if !checked then Prog.raise .integrityError
  else flush

/-- `create_cluster`. -/
def createCluster (name hypervisor : String) : M Cluster := do
  let id ← newId env
  let cluster : Cluster := { id := id, name := env.py.strip name, hypervisor := hypervisor }
  modifyDb fun db => { db with clusters := db.clusters ++ [cluster] }
  flushNew cluster.bindable true
  pure cluster

/-- `delete_cluster`. -/
def deleteCluster (cluster : Cluster) : M Unit := do
  let w ← Prog.read
  if w.db.hosts.any fun h => decide (h.clusterId = some cluster.id) then
    Prog.raise (invalid "This cluster still has hosts - move or remove them first")
  else do
    modifyDb fun db => db.deleteCluster cluster.id
    flush

/-! ## Hosts -/

/-- `db.get(Cluster, cluster_id) if cluster_id is not None else None`, and 404. -/
def targetCluster (db : Db) : Option String → Except Raised (Option Cluster)
  | none => .ok none
  | some c =>
    match db.cluster c with
    | some cluster => .ok (some cluster)
    | none => .error (notFound "Cluster")

/-- The new host runs what its cluster runs. -/
def checkNewHost (hypervisor : String) : Option Cluster → Except Raised Unit
  | none => .ok ()
  | some cluster =>
    if cluster.hypervisor = hypervisor then .ok ()
    else .error (invalid ("Cluster runs " ++ cluster.hypervisor ++ "; cannot add a " ++ hypervisor ++
      " host"))

/-- `provision_host_queues` and `provision_host_agent_user`: the broker, then its management
interface. -/
def provisionHost (managementUp : Bool) : M Unit := do
  let w ← Prog.read
  if w.brokerUp && managementUp then pure () else Prog.raise .connectionError

/-- `create_host`. `short_id` is random. -/
def createHost (name : String) (clusterId : Option String) (hypervisor shortId : String)
    (managementUp : Bool) : M Host := do
  let w ← Prog.read
  let cluster ← Prog.ofExcept (targetCluster w.db clusterId)
  let _ ← Prog.ofExcept (checkNewHost hypervisor cluster)
  let id ← newId env
  let host : Host :=
    { id := id, shortId := shortId, clusterId := clusterId, name := env.py.strip name
      hypervisor := .str hypervisor }
  modifyDb fun db => { db with hosts := db.hosts ++ [host] }
  flush
  provisionHost managementUp
  pure host

/-- A host that joins a cluster runs what the cluster runs. -/
def checkMember (host : Host) : Option Cluster → Except Raised Unit
  | none => .ok ()
  | some target =>
    if host.hypervisor.isStr target.hypervisor then .ok ()
    else .error (invalid ("This host runs " ++ env.py.str host.hypervisor ++
      "; the cluster runs " ++ target.hypervisor))

/-- `move_host`. -/
def moveHost (host : Host) (clusterId : Option String) : M Unit := do
  let w ← Prog.read
  let target ← Prog.ofExcept (targetCluster w.db clusterId)
  let _ ← Prog.ofExcept (checkMember env host target)
  if host.clusterId = clusterId then pure ()
  else do
    modifyDb fun db => db.moveHost host clusterId
    flush

/-! ## Folders -/

/-- `bool(s)` of an optional string. -/
def given (s : Option String) : Bool := (nonEmpty s).isSome

/-- The checks of `create_folder`: one scope, which is a cluster or a standalone host. -/
def checkFolderScope (db : Db) (clusterId hostId : Option String) : Except Raised Unit :=
  if given clusterId = given hostId then
    .error (invalid "Provide exactly one of clusterId or hostId")
  else
    match clusterId with
    | some c => if (db.cluster c).isSome then .ok () else .error (notFound "Cluster")
    | none =>
      match hostId.bind db.host with
      | none => .error (notFound "Host")
      | some host =>
        if host.clusterId.isSome then
          .error (invalid
            "This host is in a cluster - create the folder on the cluster instead")
        else .ok ()

/-- `create_folder`. -/
def createFolder (name : String) (clusterId hostId : Option String) : M Folder := do
  let w ← Prog.read
  let _ ← Prog.ofExcept (checkFolderScope w.db clusterId hostId)
  let id ← newId env
  let folder : Folder :=
    { id := id, name := env.py.strip name, clusterId := clusterId, hostId := hostId }
  modifyDb fun db => { db with folders := db.folders ++ [folder] }
  flushNew folder.bindable folder.scopedOnce
  pure folder

/-- `delete_folder`. -/
def deleteFolder (folder : Folder) : M Unit := do
  modifyDb fun db => db.deleteFolders fun f => decide (f.id = folder.id)
  flush

/-- The VM's host may use the folder: both are of one cluster, or the folder is the standalone
host's own. -/
def checkFolderHost (host : Host) (folder : Folder) : Except Raised Unit :=
  if folder.clusterId.isSome then
    if host.clusterId = folder.clusterId then .ok ()
    else .error (invalid "That folder belongs to a different cluster than this VM's host")
  else if host.clusterId.isSome ∨ folder.hostId ≠ some host.id then
    .error (invalid "That folder does not belong to this VM's host")
  else .ok ()

/-- `move_vm_to_folder`. -/
def moveVmToFolder (vm : Vm) (folderId : Option String) : M Unit := do
  match folderId with
  | none => do
    modifyDb fun db => db.storeVm { vm with folderId := none }
    flush
  | some f => do
    let w ← Prog.read
    let folder ← M.ofOption (notFound "Folder") (w.db.folder f)
    let host ← M.ofOption .assertionError (w.db.host vm.hostId)
    let _ ← Prog.ofExcept (checkFolderHost host folder)
    modifyDb fun db => db.storeVm { vm with folderId := some folder.id }
    flush

/-! ## Routes -/

/-- `_cluster_ref` and `_folder_ref`: `{id, name}`, or None. -/
def idAndName (name : String → Option String) : Option String → Json
  | none => .null
  | some id => .obj [("id", .str id), ("name", .ofOption (name id))]

/-- `changes({key: before}, {key: after})` of two values that differ. -/
def changeOf (key : String) (before after : Json) : Json :=
  .obj [("before", .obj [(key, before)]), ("after", .obj [(key, after)])]

/-- `POST /clusters`. -/
def addCluster (user : User) (name hypervisor : String) : M Unit := do
  let cluster ← createCluster env name hypervisor
  record env (some user) "cluster.create" cluster.ref none
    (.obj [("hypervisor", .str cluster.hypervisor)])

/-- `DELETE /clusters/{cluster_id}`. -/
def removeCluster (user : User) (clusterId : String) : M Unit := do
  let w ← Prog.read
  let cluster ← M.ofOption (notFound "Cluster") (w.db.cluster clusterId)
  record env (some user) "cluster.delete" cluster.ref none .null
  deleteCluster cluster

/-- `POST /hosts`. -/
def addHost (user : User) (name : String) (clusterId : Option String)
    (hypervisor shortId : String) (managementUp : Bool) : M Unit := do
  let host ← createHost env name clusterId hypervisor shortId managementUp
  record env (some user) "host.create" host.ref none (.obj [("hypervisor", host.hypervisor)])

/-- `PATCH /hosts/{host_id}` with a `clusterId`. The references differ when the identifiers do. -/
def updateHost (user : User) (hostId : String) (clusterId : Option String) : M Unit := do
  let w ← Prog.read
  let host ← M.ofOption (notFound "Host") (w.db.host hostId)
  let clusterName := fun c => (w.db.cluster c).map Cluster.name
  moveHost env host clusterId
  let details := changeOf "cluster" (idAndName clusterName host.clusterId)
    (idAndName clusterName clusterId)
  if host.clusterId = clusterId then pure ()
  else record env (some user) "host.move" { host with clusterId := clusterId }.ref none details

/-- `POST /folders`. -/
def addFolder (user : User) (name : String) (clusterId hostId : Option String) : M Unit := do
  let folder ← createFolder env name clusterId hostId
  record env (some user) "folder.create" folder.ref none .null

/-- `DELETE /folders/{folder_id}`; the details are the number of rows the update matches. -/
def removeFolder (user : User) (folderId : String) : M Unit := do
  let w ← Prog.read
  let folder ← M.ofOption (notFound "Folder") (w.db.folder folderId)
  let detached := w.db.vms.countP fun v => decide (v.folderId = some folder.id)
  record env (some user) "folder.delete" folder.ref none
    (.obj [("vmsDetached", .int detached)])
  deleteFolder folder

/-- `PATCH /vms/{vm_id}`. -/
def moveVm (user : User) (vmId : String) (folderId : Option String) : M Unit := do
  let vm ← getVm vmId
  moveVmToFolder vm folderId
  let w ← Prog.read
  let folderName := fun f => (w.db.folder f).map Folder.name
  let details := changeOf "folder" (idAndName folderName vm.folderId)
    (idAndName folderName folderId)
  if vm.folderId = folderId then pure ()
  else record env (some user) "vm.move_folder" vm.ref none details

/-! ## Operations -/

/-- The requests of the organization. `shortId` is the short id drawn for a new host, `managementUp`
that the broker's management interface answers. -/
inductive Operation where
  | createCluster (user : User) (name hypervisor : String)
  | deleteCluster (user : User) (clusterId : String)
  | createHost (user : User) (name : String) (clusterId : Option String)
      (hypervisor shortId : String) (managementUp : Bool)
  | moveHost (user : User) (hostId : String) (clusterId : Option String)
  | createFolder (user : User) (name : String) (clusterId hostId : Option String)
  | deleteFolder (user : User) (folderId : String)
  | moveVmToFolder (user : User) (vmId : String) (folderId : Option String)

/-- The handler of an operation. -/
def Operation.handler : Operation → M Unit
  | .createCluster user name hypervisor => addCluster env user name hypervisor
  | .deleteCluster user clusterId => removeCluster env user clusterId
  | .createHost user name clusterId hypervisor shortId managementUp =>
    addHost env user name clusterId hypervisor shortId managementUp
  | .moveHost user hostId clusterId => updateHost env user hostId clusterId
  | .createFolder user name clusterId hostId => addFolder env user name clusterId hostId
  | .deleteFolder user folderId => removeFolder env user folderId
  | .moveVmToFolder user vmId folderId => moveVm env user vmId folderId

namespace Organization

/-- What can happen. -/
inductive Event where
  | operation (op : Operation)
  | system (e : OpenVCenter.Event)

/-- One step of the system with its organization. -/
def step (s : Committed) : Event → Committed
  | .operation op =>
    { world := (sessionScope (op.handler env) { s.world with txStart := s.world.now }).2
      consistent := savepoint_consistent s.consistent }
  | .system e => System.step env s e

/-- The state after a run. -/
abbrev run (s : Committed) (es : List Event) : Committed := Machine.run (step env) s es

/-- The states a run reaches. -/
def Reachable (s : Committed) : Prop := ∃ s₀ es, System.Initial s₀ ∧ run env s₀ es = s

end Organization

end OpenVCenter
