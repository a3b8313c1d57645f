import OpenVCenter.Placement
import OpenVCenter.Rbac
import OpenVCenter.Teardown

set_option relaxedAutoImplicit false
set_option autoImplicit false

/-!
# What a caller may ask for

Every route resolves the scope of its caller, looks its target up and consults the scope; only then
it calls the service. `api/deps.py`, and the checks of `api/routes/vms.py`, `api/routes/hosts.py`,
`api/routes/clusters.py`, `api/routes/folders.py` and `api/routes/agent_binaries.py`.

## Main definitions

* `OpenVCenter.getVisibleVm`, `OpenVCenter.getVisibleHost`, `OpenVCenter.getVisibleFolder`,
  `OpenVCenter.adminCluster` — the lookups of the routes.
* `OpenVCenter.authorize` — the check of each route.
* `OpenVCenter.ApiRequest`, `OpenVCenter.Access.step` — a request of a caller, and what it does.

## Main results

* `OpenVCenter.Access.request_cases` — a request is refused and changes nothing, or it is permitted
  and does what its event does.
* `OpenVCenter.vmVisible_iff_row` — who sees a row that is placed.
* `OpenVCenter.visible_iff_granted` — **in every reachable state a VM is seen by administrators, and
  by those who are granted its host, its cluster or its folder**, and by nobody else.

## Design

Grants are not changed by any route. The name and the roles of a caller come from its token, and may
differ from one request to the next.
-/

namespace OpenVCenter

open Effect

/-! ## Lookups -/

section Checks

variable (scope : VisibleScope) (db : Db)

/-- `_get_visible_vm`. -/
def getVisibleVm (vmId : String) : Except Raised Vm :=
  match db.vm vmId with
  | none => .error (notFound "VM")
  | some vm => if vmVisible scope vm then .ok vm else .error forbidden

/-- `_get_visible_host`. -/
def getVisibleHost (hostId : String) : Except Raised Host :=
  match db.host hostId with
  | none => .error (notFound "Host")
  | some host => if scope.seesHost host.id then .ok host else .error forbidden

/-- `_get_visible_folder`. -/
def getVisibleFolder (folderId : String) : Except Raised Folder :=
  match db.folder folderId with
  | none => .error (notFound "Folder")
  | some folder => if folderVisible scope folder then .ok folder else .error forbidden

/-- `if not scope.all: raise forbidden(message)`. -/
def requireAll (message : String) : Except Raised Unit :=
  if scope.all then .ok () else .error (forbiddenTo message)

/-- `_admin_cluster`. -/
def adminCluster (clusterId : String) : Except Raised Cluster := do
  requireAll scope "Only an administrator can manage clusters"
  match db.cluster clusterId with
  | none => .error (notFound "Cluster")
  | some cluster => .ok cluster

/-- The host of `create_vm` and `clone_vm`. -/
def hostOfNewVm (hostId : String) : Except Raised Host :=
  match db.host hostId with
  | none => .error (notFound "Host")
  | some host =>
    if scope.seesHost host.id then .ok host
    else .error (forbiddenTo "You cannot create a VM on this host")

/-- `scope.all or (cluster_id and scope.sees_cluster(cluster_id))`. -/
def requireCluster (clusterId : Option String) (message : String) : Except Raised Unit :=
  if scope.all || (given clusterId && scope.seesCluster clusterId) then .ok ()
  else .error (forbiddenTo message)

/-! ## Routes -/

/-- The checks of the routes of the system's own requests. -/
def authorizeSystem : Event → Except Raised Unit
  | .vmAction _ _ vmId action _ =>
    if action = .delete then .error unknownDelete
    else do
      let _ ← getVisibleVm scope db vmId
      pure ()
  | .deleteVm _ _ vmId _ => do
    let _ ← getVisibleVm scope db vmId
    pure ()
  | .createVm _ _ body => do
    let _ ← hostOfNewVm scope db body.hostId
    pure ()
  | .cloneVm _ _ body => do
    let _ ← hostOfNewVm scope db body.hostId
    pure ()
  | .forgetVm _ vmId => do
    let _ ← getVisibleVm scope db vmId
    pure ()
  | .releaseLock _ _ => requireAll scope "Only administrators can release VM locks"
  | .hostAction _ _ hostId action => do
    let _ ← getVisibleHost scope db hostId
    if action.kind.isDisruptive then
      requireAll scope "Only an administrator can change a host's cluster or power state"
    else pure ()
  | .agentUpgrade _ _ hostId _ _ _ => do
    let _ ← getVisibleHost scope db hostId
    requireAll scope "Only an administrator can upgrade the agent"
  | .agentRollout .. => requireAll scope "Only an administrator can manage agent binaries"
  | .removeHost _ hostId => do
    let _ ← getVisibleHost scope db hostId
    requireAll scope "Only an administrator can remove hosts"
  | _ => .ok ()

/-- The checks of the routes of the organization. -/
def authorizeOperation : Operation → Except Raised Unit
  | .createCluster .. => requireAll scope "Only an administrator can create clusters"
  | .deleteCluster _ clusterId => do
    let _ ← adminCluster scope db clusterId
    pure ()
  | .createHost _ _ clusterId _ _ _ =>
    requireCluster scope clusterId "You cannot add a host here"
  | .moveHost _ hostId clusterId => do
    let _ ← getVisibleHost scope db hostId
    requireCluster scope clusterId "You cannot move this host"
  | .createFolder _ _ clusterId hostId =>
    if scope.all || (given clusterId && scope.seesCluster clusterId) ||
        (given hostId && hostId.any scope.seesHost) then .ok ()
    else .error (forbiddenTo "You cannot create a folder here")
  | .deleteFolder _ folderId => do
    let _ ← getVisibleFolder scope db folderId
    pure ()
  | .moveVmToFolder _ vmId _ => do
    let _ ← getVisibleVm scope db vmId
    pure ()

/-- The check of a route. -/
def authorize : Organization.Event → Except Raised Unit
  | .operation op => authorizeOperation scope db op
  | .system e => authorizeSystem scope db e

end Checks

/-! ## Requests -/

/-- The user a request is recorded under; the worker's events have none. -/
def Event.actor : Event → Option User
  | .vmAction _ user _ _ _ => some user
  | .deleteVm _ user _ _ => some user
  | .createVm _ user _ => some user
  | .cloneVm _ user _ => some user
  | .forgetVm user _ => some user
  | .releaseLock user _ => some user
  | .hostAction _ user _ _ => some user
  | .agentUpgrade _ user _ _ _ _ => some user
  | .agentRollout _ user _ _ _ _ _ => some user
  | .removeHost user _ => some user
  | _ => none

/-- The user an operation is recorded under. -/
def Operation.actor : Operation → User
  | .createCluster user _ _ => user
  | .deleteCluster user _ => user
  | .createHost user _ _ _ _ _ => user
  | .moveHost user _ _ => user
  | .createFolder user _ _ _ => user
  | .deleteFolder user _ => user
  | .moveVmToFolder user _ _ => user

namespace Organization.Event

/-- The user an event is recorded under. -/
def actor : Organization.Event → Option User
  | .operation op => some op.actor
  | .system e => e.actor

/-- How long ago the transaction of an event started. -/
def lag : Organization.Event → ℕ
  | .operation _ => 0
  | .system e => e.lag

/-- The handler of an event. -/
def handler (env : Env) : Organization.Event → Option (M Unit)
  | .operation op => some (op.handler env)
  | .system e => e.handler env

end Organization.Event

/-- The signed-in user of a row of `users`. -/
def UserRow.user (row : UserRow) : User := ⟨row.email, row.displayName⟩

/-- A request is of a caller, and recorded under its name. -/
structure ApiRequest where
  caller : UserRow
  event : Organization.Event
  actor_eq : event.actor = some caller.user

namespace Access

variable (env : Env) (adminRole : String) (grants : List ScopeGrant)

/-- The scope of a caller, the check of the route, and its work. -/
def handle (r : ApiRequest) : M Unit := do
  let w ← Prog.read
  Prog.ofExcept (authorize (resolveScope adminRole w.db grants r.caller) w.db r.event)
  (r.event.handler env).getD (pure ())

/-- What happens while no message of an agent arrives. -/
inductive Event where
  | request (r : ApiRequest)
  | tick (elapsed : ℕ)
  | broker (up : Bool)

/-- One step of the API. -/
def step (s : Committed) : Event → Committed
  | .request r =>
    { world := (sessionScope (handle env adminRole grants r)
        { s.world with txStart := s.world.now - r.event.lag }).2
      consistent := savepoint_consistent s.consistent }
  | .tick elapsed => System.step env s (.tick elapsed)
  | .broker up => System.step env s (.broker up)

/-- The state after a run of the API. -/
abbrev run (s : Committed) (es : List Event) : Committed :=
  Machine.run (step env adminRole grants) s es

variable {env adminRole grants}

/-- What a permitted request does is what its event does. -/
lemma handle_of_ok {r : ApiRequest} {w : World} {m : M Unit} (hm : r.event.handler env = some m)
    (h : authorize (resolveScope adminRole w.db grants r.caller) w.db r.event = .ok ()) :
    handle env adminRole grants r w = m w := by
  unfold handle
  rw [Prog.read_bind_run, h, Prog.ofExcept_ok, Prog.pure_bind_run, hm, Option.getD_some]

/-- A request that is refused changes nothing. -/
lemma handle_of_error {r : ApiRequest} {w : World} {e : Raised}
    (h : authorize (resolveScope adminRole w.db grants r.caller) w.db r.event = .error e) :
    handle env adminRole grants r w = (.error e, w) := by
  unfold handle
  rw [Prog.read_bind_run, h, Prog.ofExcept_error, Prog.raise_bind_run]

/-- A request has a handler. -/
lemma handler_isSome (r : ApiRequest) : ∃ m, r.event.handler env = some m := by
  have hactor : r.event.actor ≠ none := by simp [r.actor_eq]
  rcases hevent : r.event with op | e
  · exact ⟨_, rfl⟩
  · rw [hevent] at hactor
    cases e with
    | sweep => exact absurd rfl hactor
    | tick elapsed => exact absurd rfl hactor
    | broker up => exact absurd rfl hactor
    | _ => exact ⟨_, rfl⟩

/-- The step of an event with a handler. -/
lemma organization_step {s : Committed} {e : Organization.Event} {m : M Unit}
    (hm : e.handler env = some m) : (Organization.step env s e).world =
      (sessionScope m { s.world with txStart := s.world.now - e.lag }).2 := by
  cases e with
  | operation op =>
    cases hm
    show _ = (sessionScope _ { s.world with txStart := s.world.now - ((0 : ℕ) : ℤ) }).2
    simp only [Nat.cast_zero, sub_zero]
    rfl
  | system e => exact System.step_handler hm

/-- **A request is refused and changes nothing, or it is permitted and does what its event does.** -/
theorem request_cases (s : Committed) (r : ApiRequest) :
    (∃ e, authorize (resolveScope adminRole s.world.db grants r.caller) s.world.db r.event =
        .error e ∧ (step env adminRole grants s (.request r)).world =
          { s.world with txStart := s.world.now - r.event.lag }) ∨
      authorize (resolveScope adminRole s.world.db grants r.caller) s.world.db r.event = .ok () ∧
        (step env adminRole grants s (.request r)).world =
          (Organization.step env s r.event).world := by
  set w : World := { s.world with txStart := s.world.now - r.event.lag } with hw
  obtain ⟨m, hm⟩ := @handler_isSome env r
  rcases hcheck : authorize (resolveScope adminRole s.world.db grants r.caller) s.world.db r.event
    with e | ⟨⟩
  · refine Or.inl ⟨e, rfl, ?_⟩
    have hrun := @handle_of_error env adminRole grants r w e hcheck
    have hback : (sessionScope (handle env adminRole grants r) w).2 = rollback w w :=
      congrArg Prod.snd (savepoint_of_raise hrun)
    exact hback
  · refine Or.inr ⟨rfl, ?_⟩
    have hrun := @handle_of_ok env adminRole grants r w m hm hcheck
    rw [organization_step hm]
    exact congrArg Prod.snd (savepoint_congr hrun)

end Access

/-! ## Who sees a VM -/

/-- What gives sight of a row: everything, its host, its cluster or its folder. -/
def RowGranted (adminRole : String) (grants : List ScopeGrant) (user : UserRow) (vm : Vm) : Prop :=
  SeesAll adminRole grants user ∨ Granted grants user .host vm.hostId ∨
    (∃ c ∈ vm.clusterId, Granted grants user .cluster c) ∨
    ∃ f ∈ vm.folderId, Granted grants user .folder f

section Rows

variable {env : Env} {adminRole : String} {db : Db} {grants : List ScopeGrant} {user : UserRow}
  {vm : Vm} {host : Host}

/-- The host of a row is reached through a grant of it, or of the cluster the row repeats. -/
lemma reachesHost_of_placed (hc : db.Keyed) (hhost : host ∈ db.hosts)
    (hplaced : vm.PlacedOn db.folders host) :
    ReachesHost db grants user vm.hostId ↔
      Granted grants user .host vm.hostId ∨ ∃ c ∈ vm.clusterId, Granted grants user .cluster c := by
  unfold ReachesHost
  refine or_congr_right ⟨?_, ?_⟩
  · rintro ⟨found, hfound, hid, c, hcluster, hgrant⟩
    obtain rfl : found = host :=
      Table.eq_of_mem_of_key hc.hostIds hfound hhost (hid.trans hplaced.owner)
    exact ⟨c, hplaced.cluster ▸ hcluster, hgrant⟩
  · rintro ⟨c, hcluster, hgrant⟩
    exact ⟨host, hhost, hplaced.owner.symm, c, hplaced.cluster ▸ hcluster, hgrant⟩

/-- The host of a folder that serves a host is that host: a folder of a cluster has none. -/
lemma Folder.Serves.host_eq {folder : Folder} (h : folder.Serves host)
    (hcheck : folder.scopedOnce = true) {hostId : String} (hid : folder.hostId = some hostId) :
    hostId = host.id := by
  unfold Folder.Serves at h
  rcases hcluster : host.clusterId with _ | c
  · rw [hcluster] at h
    exact Option.some_injective _ (hid.symm.trans h.2)
  · rw [hcluster] at h
    simp [Folder.scopedOnce, h, hid] at hcheck

/-- Who sees a row that is placed.

**Proof sketch.** A caller who sees all sees the row. For any other, the row is in scope by its
host, by its cluster or by its folder; where the folder is served by a host, that host is the owner
of the row. -/
theorem vmVisible_iff_row (hc : db.Keyed) (hhost : host ∈ db.hosts)
    (hplaced : vm.PlacedOn db.folders host)
    (hcheck : ∀ folder ∈ db.folders, vm.folderId = some folder.id → folder.scopedOnce = true) :
    vmVisible (resolveScope adminRole db grants user) vm = true ↔
      RowGranted adminRole grants user vm := by
  unfold RowGranted
  by_cases hall : SeesAll adminRole grants user
  · rw [resolveScope_all hall]
    simp [vmVisible, hall]
  obtain ⟨-, hhosts, hfolders⟩ := @resolveScope_sees adminRole grants user db hall
  have hscope := (@resolveScope_sets adminRole grants user db hall).1
  have hfolder : VisibleScope.seesFolder (resolveScope adminRole db grants user) vm.folderId =
      true → ReachesHost db grants user vm.hostId ∨
        ∃ f ∈ vm.folderId, Granted grants user .folder f := by
    rcases hf : vm.folderId with _ | f
    · simp [VisibleScope.seesFolder, hscope]
    · rw [hfolders]
      rintro (hgrant | ⟨found, hfound, hid, h, hh, hreach⟩)
      · exact Or.inr ⟨f, rfl, hgrant⟩
      · obtain ⟨folder, hmem, hkey, hserves⟩ := hplaced.folder f hf
        obtain rfl : found = folder :=
          Table.eq_of_mem_of_key hc.folderIds hfound hmem (hid.trans hkey.symm)
        have howner : h = host.id := hserves.host_eq (hcheck found hfound (hid ▸ hf)) hh
        rw [howner, ← hplaced.owner] at hreach
        exact Or.inl hreach
  have hreach := @reachesHost_of_placed db grants user vm host hc hhost hplaced
  have hvisible : vmVisible (resolveScope adminRole db grants user) vm = true ↔
      ReachesHost db grants user vm.hostId ∨
        VisibleScope.seesFolder (resolveScope adminRole db grants user) vm.folderId = true := by
    rw [← hhosts]
    simp [vmVisible, hscope]
  rw [hvisible]
  constructor
  · rintro (hseen | hseen)
    · exact Or.inr ((hreach.mp hseen).imp_right Or.inl)
    · rcases hfolder hseen with hseen | hgrant
      · exact Or.inr ((hreach.mp hseen).imp_right Or.inl)
      · exact Or.inr (Or.inr (Or.inr hgrant))
  · rintro (hseen | hgrant | hgrant | ⟨f, hf, hgrant⟩)
    · exact absurd hseen hall
    · exact Or.inl (hreach.mpr (Or.inl hgrant))
    · exact Or.inl (hreach.mpr (Or.inr hgrant))
    · right
      rw [hf, hfolders]
      exact Or.inl hgrant

/-- **Who sees a VM**: in every reachable state administrators do, with whoever is granted
everything, the VM's host, its cluster or its folder, and nobody else does. -/
theorem visible_iff_granted (adminRole : String) (grants : List ScopeGrant) (s : Committed)
    (h : Organization.Reachable env s)
    (hcheck : ∀ folder ∈ s.world.db.folders, folder.scopedOnce = true) (user : UserRow) (vm : Vm)
    (hvm : vm ∈ s.world.db.vms) :
    vmVisible (resolveScope adminRole s.world.db grants user) vm = true ↔
      RowGranted adminRole grants user vm := by
  obtain ⟨host, hhost, hplaced⟩ := placed_of_reachable s h vm hvm
  exact vmVisible_iff_row s.consistent.keyed hhost hplaced fun folder hfolder _ =>
    hcheck folder hfolder

end Rows

/-- The user is granted the folder the VM was moved to. -/
def Demo.movedGrant : ScopeGrant := ⟨"u", .folder, some "xxxx", by decide⟩

/-- The caller with a grant on the folder, and the VM in it. -/
theorem visible_iff_granted_folder :
    ∃ vm ∈ Demo.inFolder.world.db.vms, vm.folderId = some "xxxx" ∧
      (vmVisible (resolveScope "ADMINISTRATOR" Demo.inFolder.world.db [Demo.movedGrant]
          Demo.folderUser) vm = true ↔
        RowGranted "ADMINISTRATOR" [Demo.movedGrant] Demo.folderUser vm) := by
  have hmoved : ∃ vm ∈ Demo.inFolder.world.db.vms, vm.folderId = some "xxxx" := by
    unfold Demo.inFolder
    decide +kernel
  have hcheck : ∀ folder ∈ Demo.inFolder.world.db.folders, folder.scopedOnce = true := by
    unfold Demo.inFolder
    decide +kernel
  obtain ⟨vm, hvm, hfolder⟩ := hmoved
  exact ⟨vm, hvm, hfolder, @visible_iff_granted Demo.settings "ADMINISTRATOR" [Demo.movedGrant]
    Demo.inFolder ⟨Demo.start, _, Demo.start_initial, by unfold Demo.inFolder; rfl⟩ hcheck
    Demo.folderUser vm hvm⟩

end OpenVCenter
