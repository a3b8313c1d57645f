import OpenVCenter.Organization
import Mathlib.Data.List.Sort

set_option relaxedAutoImplicit false
set_option autoImplicit false

/-!
# VLANs

`services/networking.py`, the routes that call it, and the table `vlans`: a VLAN is of one cluster,
or of one standalone host.

## Main definitions

* `OpenVCenter.Vlan` — a row of `vlans`, with the constraints of the table.
* `OpenVCenter.listVlans` — the VLANs visible from a host or from a cluster.
* `OpenVCenter.createVlan`, `OpenVCenter.updateVlan`, `OpenVCenter.deleteVlan` — the services.
* `OpenVCenter.Networking.step` — the system with its organization and its VLANs.

## Design

The table stands beside the rest of the database: nothing but these services and the cascades of its
two foreign keys writes it. The caller's scope is not modelled.
-/

namespace OpenVCenter

open Effect

variable (env : Env)

/-! ## Rows -/

/-- `models/vlan.py`. -/
structure Vlan where
  id : String
  clusterId : Option String
  hostId : Option String
  name : String
  vlanId : ℤ
  description : Option String
  isDefault : Bool
  deriving DecidableEq

namespace Vlan

open Column in
/-- The values fit the columns of `vlans`. -/
def bindable (v : Vlan) : Bool := fits 255 v.name && fitsInt 4 v.vlanId && opt isText v.description

/-- `vlan_scope_exactly_one`. -/
def scopedOnce (v : Vlan) : Bool := v.clusterId.isSome != v.hostId.isSome

/-- `vlan_tag_range`. -/
def tagInRange (v : Vlan) : Bool := decide (1 ≤ v.vlanId ∧ v.vlanId ≤ 4094)

/-- The two rows are of one scope. -/
def SameScope (v w : Vlan) : Prop := v.clusterId = w.clusterId ∧ v.hostId = w.hostId

/-- Whether two VLANs have one scope can be decided. -/
instance (v w : Vlan) : Decidable (v.SameScope w) :=
  inferInstanceAs (Decidable (v.clusterId = w.clusterId ∧ v.hostId = w.hostId))

/-- The constraints of the table on a new row: the two checks, the primary key, and the unique
indexes of a tag in a scope. -/
def admitted (vlans : List Vlan) (v : Vlan) : Bool :=
  v.scopedOnce && v.tagInRange &&
    vlans.all fun w => decide (w.id ≠ v.id ∧ ¬ (w.SameScope v ∧ w.vlanId = v.vlanId))

/-- `_ref` of a VLAN. -/
def ref (v : Vlan) : TargetRef := ⟨"vlan", some v.id, .str v.name, v.hostId, v.clusterId⟩

/-- `_vlan_fields`. -/
def fields (v : Vlan) : Dict :=
  [("name", .str v.name), ("vlanId", .int v.vlanId), ("description", .ofOption v.description),
    ("isDefault", .bool v.isDefault)]

/-- `changes(before, after)` of the fields of two rows. -/
def changes (before after : Vlan) : Option Json :=
  let changed := ([("name", decide (before.name ≠ after.name)),
    ("vlanId", decide (before.vlanId ≠ after.vlanId)),
    ("description", decide (before.description ≠ after.description)),
    ("isDefault", decide (before.isDefault ≠ after.isDefault))].filter Prod.snd).map Prod.fst
  let only := fun v : Vlan => Json.obj (v.fields.filter fun e => changed.contains e.1)
  if changed.isEmpty then none
  else some (.obj [("before", only before), ("after", only after)])

end Vlan

/-! ## Services -/

/-- The rows of a scope:
`Vlan.cluster_id == cluster_id if cluster_id else Vlan.host_id == host_id`. -/
def inScope (clusterId hostId : Option String) (v : Vlan) : Bool :=
  if given clusterId then decide (v.clusterId = clusterId) else decide (v.hostId = hostId)

/-- The filter of `list_vlans`. -/
def visibleVlan (db : Db) (hostId clusterId : Option String) : Except Raised (Vlan → Bool) :=
  match hostId with
  | some h =>
    match db.host h with
    | none => .error (notFound "Host")
    | some host =>
      if host.clusterId.isSome then
        .ok fun v => decide (v.hostId = some h) || decide (v.clusterId = host.clusterId)
      else .ok fun v => decide (v.hostId = some h)
  | none =>
    if clusterId.isSome then .ok fun v => decide (v.clusterId = clusterId) else .ok fun _ => true

/-- `list_vlans`. -/
def listVlans (db : Db) (vlans : List Vlan) (hostId clusterId : Option String) :
    Except Raised (List Vlan) := do
  let visible ← visibleVlan db hostId clusterId
  pure ((vlans.filter visible).insertionSort fun v w => v.vlanId ≤ w.vlanId)

/-- `_clear_default`. -/
def clearDefault (clusterId hostId : Option String) (vlans : List Vlan) : List Vlan :=
  Table.updateWhere (inScope clusterId hostId) (fun v => { v with isDefault := false }) vlans

/-- The checks of `create_vlan` on the scope, which is a cluster or a standalone host. -/
def checkVlanScope (db : Db) (clusterId hostId : Option String) : Except Raised Unit :=
  if given clusterId = given hostId then
    .error (invalid "Provide exactly one of clusterId or hostId")
  else
    match clusterId with
    | some c => if (db.cluster c).isSome then .ok () else .error (notFound "Cluster")
    | none =>
      match hostId.bind db.host with
      | none => .error (notFound "Host")
      | some host =>
        if host.clusterId.isSome then
          .error (invalid "This host is in a cluster - create the VLAN on the cluster instead")
        else .ok ()

/-- The check of `create_vlan` on the tag. -/
def checkVlanTag (vlans : List Vlan) (vlanId : ℤ) (clusterId hostId : Option String) :
    Except Raised Unit :=
  if vlans.any fun v => decide (v.vlanId = vlanId) && inScope clusterId hostId v then
    .error (invalid ("VLAN " ++ toString vlanId ++ " is already defined in this scope"))
  else .ok ()

/-- `create_vlan`; the table after it. -/
def createVlan (vlans : List Vlan) (name : String) (vlanId : ℤ) (description : Option String)
    (isDefault : Bool) (clusterId hostId : Option String) : M (Vlan × List Vlan) := do
  let w ← Prog.read
  let _ ← Prog.ofExcept (checkVlanScope w.db clusterId hostId)
  let _ ← Prog.ofExcept (checkVlanTag vlans vlanId clusterId hostId)
  let vlans := if isDefault then clearDefault clusterId hostId vlans else vlans
  let id ← newId env
  let vlan : Vlan :=
    { id := id, name := env.py.strip name, vlanId := vlanId
      description := nonEmpty (some (env.py.strip (description.getD ""))), isDefault := isDefault
      clusterId := clusterId, hostId := hostId }
  flushNew vlan.bindable (vlan.admitted vlans)
  pure (vlan, vlans ++ [vlan])

/-- `update_vlan`; the table after it. -/
def updateVlan (vlans : List Vlan) (vlan : Vlan) (name description : Option String)
    (isDefault : Option Bool) : M (Vlan × List Vlan) := do
  let vlans :=
    if isDefault = some true then clearDefault vlan.clusterId vlan.hostId vlans else vlans
  let vlan := { vlan with
    name := (name.map env.py.strip).getD vlan.name
    description :=
      match description with
      | some text => nonEmpty (some (env.py.strip text))
      | none => vlan.description
    isDefault := isDefault.getD vlan.isDefault }
  flushNew vlan.bindable true
  pure (vlan, Table.store Vlan.id vlan vlans)

/-- `delete_vlan`; the table after it. -/
def deleteVlan (vlans : List Vlan) (vlan : Vlan) : M (List Vlan) := do
  flush
  pure (Table.deleteWhere (fun v => decide (v.id = vlan.id)) vlans)

/-! ## Routes -/

/-- `POST /vlans`. -/
def addVlan (vlans : List Vlan) (user : User) (name : String) (vlanId : ℤ)
    (description : Option String) (isDefault : Bool) (clusterId hostId : Option String) :
    M (List Vlan) := do
  let (vlan, vlans) ← createVlan env vlans name vlanId description isDefault clusterId hostId
  record env (some user) "vlan.create" vlan.ref none (.obj vlan.fields)
  pure vlans

/-- `PATCH /vlans/{vlan_id}`. -/
def patchVlan (vlans : List Vlan) (user : User) (id : String) (name description : Option String)
    (isDefault : Option Bool) : M (List Vlan) := do
  let before ← M.ofOption (notFound "VLAN") (Table.lookup Vlan.id id vlans)
  let (vlan, vlans) ← updateVlan env vlans before name description isDefault
  match before.changes vlan with
  | some diff => record env (some user) "vlan.update" vlan.ref none diff
  | none => pure ()
  pure vlans

/-- `DELETE /vlans/{vlan_id}`. -/
def removeVlan (vlans : List Vlan) (user : User) (id : String) : M (List Vlan) := do
  let vlan ← M.ofOption (notFound "VLAN") (Table.lookup Vlan.id id vlans)
  record env (some user) "vlan.delete" vlan.ref none (.obj [("vlanId", .int vlan.vlanId)])
  deleteVlan vlans vlan

/-- The requests on VLANs. -/
inductive VlanRequest where
  | create (user : User) (name : String) (vlanId : ℤ) (description : Option String)
      (isDefault : Bool) (clusterId hostId : Option String)
  | update (user : User) (id : String) (name description : Option String) (isDefault : Option Bool)
  | delete (user : User) (id : String)

/-- The handler of a request; the table after it. -/
def VlanRequest.handler (vlans : List Vlan) : VlanRequest → M (List Vlan)
  | .create user name vlanId description isDefault clusterId hostId =>
    addVlan env vlans user name vlanId description isDefault clusterId hostId
  | .update user id name description isDefault =>
    patchVlan env vlans user id name description isDefault
  | .delete user id => removeVlan env vlans user id

namespace Networking

/-- The committed database, and the table `vlans`. -/
structure State where
  committed : Committed
  vlans : List Vlan

/-- What can happen. -/
inductive Event where
  | vlan (request : VlanRequest)
  | organization (e : Organization.Event)

/-- The cluster or the host of the VLAN is there. -/
def referenced (db : Db) (v : Vlan) : Bool :=
  (v.clusterId.all fun c => (db.cluster c).isSome) && v.hostId.all fun h => (db.host h).isSome

/-- One step. A request on VLANs is committed with its audit event; where any other event deletes a
cluster or a host, its VLANs go with it. -/
def step (s : State) : Event → State
  | .vlan request =>
    let w := { s.committed.world with txStart := s.committed.world.now }
    let answer := sessionScope (request.handler env s.vlans) w
    { committed := ⟨answer.2, savepoint_consistent s.committed.consistent⟩
      vlans := match answer.1 with
        | .ok vlans => vlans
        | .error _ => s.vlans }
  | .organization e =>
    let committed := Organization.step env s.committed e
    { committed := committed, vlans := s.vlans.filter (referenced committed.world.db) }

/-- The state after a run. -/
abbrev run (s : State) (es : List Event) : State := Machine.run (step env) s es

end Networking

end OpenVCenter
