import OpenVCenter.Estate

set_option relaxedAutoImplicit false
set_option autoImplicit false

/-!
# Where VMs stand

A row of `vms` repeats the cluster of its host, and may be in a folder. Folders are of a cluster, or
of a standalone host. Operations, snapshots and responses write both links; the cascades of deletes
cut them.

## Main definitions

* `OpenVCenter.Folder.Serves` — the folder is of the host's cluster, or the standalone host's own.
* `OpenVCenter.Vm.PlacedOn`, `OpenVCenter.Db.Placed` — the links of a row agree with its host.

## Main results

* `OpenVCenter.Reorganizes.placed`, `OpenVCenter.placing_placed` — reorganizations, and what writes
  rows, keep the links in step.
* `OpenVCenter.placed_of_reachable` — **in every reachable state each row has the cluster of its
  host, and a folder that serves the host, if it has one**.
-/

namespace OpenVCenter

variable {env : Env}

/-- The folder is of the host's cluster, or the standalone host's own. -/
def Folder.Serves (folder : Folder) (host : Host) : Prop :=
  match host.clusterId with
  | some c => folder.clusterId = some c
  | none => folder.clusterId = none ∧ folder.hostId = some host.id

/-- The row is of the host, and of its cluster; if the row is in a folder, the folder serves the
host. -/
structure Vm.PlacedOn (vm : Vm) (folders : List Folder) (host : Host) : Prop where
  owner : vm.hostId = host.id
  cluster : vm.clusterId = host.clusterId
  folder : ∀ f ∈ vm.folderId, ∃ folder ∈ folders, folder.id = f ∧ folder.Serves host

/-- Each row is placed on its host. -/
def Db.Placed (db : Db) : Prop := ∀ vm ∈ db.vms, ∃ host ∈ db.hosts, vm.PlacedOn db.folders host

section Hosts

variable {folders : List Folder} {host host' : Host} {vm vm' : Vm}

/-- Only the host's identifier and cluster matter. -/
lemma Folder.Serves.congr {folder : Folder} (h : folder.Serves host) (hid : host'.id = host.id)
    (hcluster : host'.clusterId = host.clusterId) : folder.Serves host' := by
  unfold Folder.Serves at h ⊢
  rwa [hid, hcluster]

/-- A folder of a cluster serves all of its hosts. -/
lemma Folder.Serves.member {folder : Folder} {c : String} (h : folder.Serves host)
    (hc : host.clusterId = some c) (hc' : host'.clusterId = some c) : folder.Serves host' := by
  unfold Folder.Serves at h ⊢
  rw [hc] at h
  rwa [hc']

/-- What `move_vm_to_folder` checks. -/
lemma serves_of_check {folder : Folder} (h : checkFolderHost host folder = .ok ()) :
    folder.Serves host := by
  unfold checkFolderHost at h
  unfold Folder.Serves
  split_ifs at h with hscoped hsame hother
  · obtain ⟨c, hc⟩ := Option.isSome_iff_exists.mp hscoped
    rw [hsame, hc]
  · simp only [not_or, Option.not_isSome_iff_eq_none, ne_eq, not_not] at hscoped hother
    rw [hother.1]
    exact ⟨hscoped, hother.2⟩

/-- Only the host's station matters. -/
lemma Vm.PlacedOn.congr (h : vm.PlacedOn folders host) (hstation : host'.station = host.station) :
    vm.PlacedOn folders host' where
  owner := h.owner.trans (congrArg Prod.fst hstation).symm
  cluster := h.cluster.trans (congrArg (fun t => t.2.1) hstation).symm
  folder f hf := by
    obtain ⟨folder, hfolder, hid, hserves⟩ := h.folder f hf
    exact ⟨folder, hfolder, hid,
      hserves.congr (congrArg Prod.fst hstation) (congrArg (fun t => t.2.1) hstation)⟩

/-- A row whose place is that of a placed one. -/
lemma Vm.PlacedOn.place (h : vm.PlacedOn folders host) (hplace : vm'.place = vm.place) :
    vm'.PlacedOn folders host := by
  simp only [Vm.place, Prod.mk.injEq] at hplace
  obtain ⟨-, hfolder, howner, hcluster⟩ := hplace
  exact ⟨howner.trans h.owner, hcluster.trans h.cluster, hfolder ▸ h.folder⟩

end Hosts

/-! ## Reorganizations -/

section Reorganizes

variable {db db' : Db}

/-- A folder that goes leaves its rows without one. -/
lemma Db.Placed.deleteFolders (h : db.Placed) (p : Folder → Bool) :
    (db.deleteFolders p).Placed := by
  intro vm hvm
  obtain ⟨before, hbefore, rfl⟩ := List.mem_map.mp hvm
  obtain ⟨host, hhost, hplaced⟩ := h before hbefore
  refine ⟨host, hhost, hplaced.owner, hplaced.cluster, fun f hf => ?_⟩
  obtain ⟨hf, hstays⟩ := Option.mem_filter_iff.mp hf
  obtain ⟨folder, hfolder, hid, hserves⟩ := hplaced.folder f hf
  simp only [Bool.not_eq_true', List.any_eq_false, Bool.and_eq_true, decide_eq_true_eq, not_and,
    Bool.not_eq_true] at hstays
  have hp : p folder = false := hstays folder hfolder hid
  exact ⟨folder, Table.mem_deleteWhere.mpr ⟨hfolder, hp⟩, hid, hserves⟩

/-- A cluster that goes has no host, hence no VM. -/
lemma Db.Placed.deleteCluster (h : db.Placed) {id : String}
    (hempty : ∀ host ∈ db.hosts, host.clusterId ≠ some id) : (db.deleteCluster id).Placed := by
  intro vm hvm
  obtain ⟨before, hbefore, rfl⟩ := List.mem_map.mp hvm
  obtain ⟨host, hhost, hplaced⟩ := h.deleteFolders _ before hbefore
  have houtside : before.clusterId ≠ some id := hplaced.cluster ▸ hempty host hhost
  refine ⟨host, List.mem_map.mpr ⟨host, hhost, if_neg (hempty host hhost)⟩, ?_⟩
  rwa [if_neg houtside]

/-- The rows of a host that moves are of its new cluster, and in no folder. -/
lemma Db.Placed.moveHost (h : db.Placed) {host : Host} (hmem : host ∈ db.hosts)
    (clusterId : Option String) : (db.moveHost host clusterId).Placed := by
  have hmoved : ({ db.storeHost { host with clusterId := clusterId } with
      vms := Table.updateWhere (fun v => decide (v.hostId = host.id))
        (fun v => { v with clusterId := clusterId, folderId := none }) db.vms } : Db).Placed := ?_
  · exact hmoved.deleteFolders _
  intro vm hvm
  rcases Table.mem_updateWhere.mp hvm with ⟨hvm, hother⟩ | ⟨before, -, hmoved, rfl⟩
  · obtain ⟨owner, howner, hplaced⟩ := h vm hvm
    have hne : owner.id ≠ host.id := hplaced.owner ▸ of_decide_eq_false hother
    exact ⟨owner, Table.mem_store.mpr (Or.inl ⟨howner, hne⟩), hplaced⟩
  · exact ⟨{ host with clusterId := clusterId },
      Table.mem_store.mpr (Or.inr ⟨rfl, host, hmem, rfl⟩), of_decide_eq_true hmoved, rfl,
      fun _ hf => nomatch hf⟩

/-- The rows of a host go with it, and its folders leave the rows elsewhere. -/
lemma Db.Placed.deleteHost (h : db.Placed) (id : String) : (db.deleteHost id).Placed := by
  intro vm hvm
  obtain ⟨before, hbefore, rfl⟩ := List.mem_map.mp hvm
  obtain ⟨hbefore, helsewhere⟩ := Table.mem_deleteWhere.mp hbefore
  obtain ⟨host, hhost, hplaced⟩ := h before hbefore
  have hne : host.id ≠ id := hplaced.owner ▸ of_decide_eq_false helsewhere
  refine ⟨host, Table.mem_deleteWhere.mpr ⟨hhost, decide_eq_false hne⟩, hplaced.owner,
    hplaced.cluster, fun f hf => ?_⟩
  obtain ⟨hf, hstays⟩ := Option.mem_filter_iff.mp hf
  obtain ⟨folder, hfolder, hid, hserves⟩ := hplaced.folder f hf
  simp only [Bool.not_eq_true', List.any_eq_false, decide_eq_true_eq, not_and] at hstays
  have hscope : folder.hostId ≠ some id := hstays folder hfolder hid
  exact ⟨folder, Table.mem_deleteWhere.mpr ⟨hfolder, decide_eq_false hscope⟩, hid, hserves⟩

/-- A reorganization keeps the links in step. -/
theorem Reorganizes.placed (hre : Reorganizes db db') (h : db.Placed) (hc : db.Keyed) :
    db'.Placed := by
  cases hre with
  | nothing => exact h
  | addCluster cluster => exact h
  | deleteCluster id hempty => exact h.deleteCluster hempty
  | addHost new hnew =>
    intro vm hvm
    obtain ⟨host, hhost, hplaced⟩ := h vm hvm
    exact ⟨host, List.mem_append_left _ hhost, hplaced⟩
  | moveHost host clusterId hmem hmember => exact h.moveHost hmem clusterId
  | deleteHost id => exact h.deleteHost id
  | addFolder new =>
    intro vm hvm
    obtain ⟨host, hhost, hplaced⟩ := h vm hvm
    refine ⟨host, hhost, hplaced.owner, hplaced.cluster, fun f hf => ?_⟩
    obtain ⟨folder, hfolder, hserves⟩ := hplaced.folder f hf
    exact ⟨folder, List.mem_append_left _ hfolder, hserves⟩
  | deleteFolder id => exact h.deleteFolders _
  | moveVm vm hmem folder hfolder =>
    intro v hv
    rcases Table.mem_store.mp hv with ⟨hv, -⟩ | ⟨rfl, -⟩
    · exact h v hv
    · obtain ⟨host, hhost, hplaced⟩ := h vm hmem
      refine ⟨host, hhost, hplaced.owner, hplaced.cluster, fun f hf => ?_⟩
      obtain ⟨new, rfl, rfl⟩ := Option.map_eq_some_iff.mp hf
      obtain ⟨hnew, owner, howner, hid, hcheck⟩ := hfolder new rfl
      have hsame : owner = host := Table.eq_of_mem_of_key hc.hostIds howner hhost
        (hid.trans hplaced.owner)
      exact ⟨new, hnew, rfl, hsame ▸ serves_of_check hcheck⟩

end Reorganizes

/-! ## Requests and messages -/

section Placing

variable {db : Db}

/-- A host of a table that stands as one of `db` does. -/
lemma host_of_stands {db' : Db} {host : Host} (h : db'.Stands host)
    (hestate : db'.estate = db.estate) : ∃ found ∈ db.hosts, found.station = host.station :=
  List.mem_map.mp (h.congr hestate.symm)

/-- Hosts of one station have one scope. -/
lemma inventoryScopeHostIds_station {host host' : Host} (h : host'.station = host.station) :
    inventoryScopeHostIds db host' = inventoryScopeHostIds db host := by
  simp only [Host.station, Prod.mk.injEq] at h
  unfold inventoryScopeHostIds
  rw [h.1, h.2.1]

/-- In the scope of a host are hosts whose folders serve it. -/
lemma serves_of_scope {owner host : Host} {folder : Folder} (hc : db.Keyed)
    (howner : owner ∈ db.hosts) (hhost : host ∈ db.hosts) (hscope : owner.id ∈ inventoryScopeHostIds db host)
    (h : folder.Serves owner) : folder.Serves host := by
  unfold inventoryScopeHostIds at hscope
  rcases hcluster : host.clusterId with _ | c
  · rw [hcluster] at hscope
    obtain rfl : owner = host := Table.eq_of_mem_of_key hc.hostIds howner hhost
      (List.mem_singleton.mp hscope)
    exact h
  · rw [hcluster] at hscope
    obtain ⟨member, hmember, hid⟩ := List.mem_map.mp hscope
    obtain ⟨hmem, hin⟩ := List.mem_filter.mp hmember
    obtain rfl : member = owner := Table.eq_of_mem_of_key hc.hostIds hmem howner hid
    exact h.member (of_decide_eq_true hin) hcluster

/-- New rows are in no folder; a row that moves stays in its cluster. -/
theorem placing_placed (hc : db.Keyed) :
    Placing db.estate fun vm => ∃ host ∈ db.hosts, vm.PlacedOn db.folders host where
  add {_ _ vm _} hestate hstands hplace := by
    obtain ⟨found, hfound, hstation⟩ := host_of_stands hstands hestate
    simp only [Vm.place, Prod.mk.injEq] at hplace
    obtain ⟨-, hfolder, howner, hcluster⟩ := hplace
    simp only [Host.station, Prod.mk.injEq] at hstation
    refine ⟨found, hfound, howner.trans hstation.1.symm, hcluster.trans hstation.2.1.symm, ?_⟩
    intro f hf
    rw [hfolder] at hf
    cases hf
  follow {db' vm vm'} hestate hplaced hfollows := by
    obtain ⟨owner, howner, hplaced⟩ := hplaced
    cases hfollows with
    | stays h => exact ⟨owner, howner, hplaced.place h⟩
    | moves host hstands hscope h =>
      obtain ⟨found, hfound, hstation⟩ := host_of_stands hstands hestate
      have hscope : owner.id ∈ inventoryScopeHostIds db found := by
        rwa [← hplaced.owner, inventoryScopeHostIds_station hstation,
          ← inventoryScopeHostIds_congr hestate]
      simp only [Vm.place, Vm.setOwner, Prod.mk.injEq] at h
      obtain ⟨-, hfolder, howned, hcluster⟩ := h
      simp only [Host.station, Prod.mk.injEq] at hstation
      refine ⟨found, hfound, howned.trans hstation.1.symm, hcluster.trans hstation.2.1.symm, ?_⟩
      intro f hf
      rw [hfolder] at hf
      obtain ⟨folder, hmem, hid, hserves⟩ := hplaced.folder f hf
      exact ⟨folder, hmem, hid, serves_of_scope hc howner hfound hscope hserves⟩

end Placing

/-! ## Steps and runs -/

/-- A step keeps the links in step. -/
theorem placed_step {s : Committed} (hdrawn : RowsDrawn env s.world) (h : s.world.db.Placed)
    (e : Organization.Event) : (Organization.step env s e).world.db.Placed := by
  have hc : s.world.db.Keyed := s.consistent.keyed
  by_cases hstatus : ∃ hostId payload, e = .system (.agentStatus hostId payload)
  · obtain ⟨hostId, payload, rfl⟩ := hstatus
    change (System.step env s (.agentStatus hostId payload)).world.db.Placed
    rcases @heartbeat_step env s hostId payload with ⟨host, d, hhost, -, -, hdb⟩ | ⟨hdb, -⟩
    · rw [hdb]
      intro vm hvm
      obtain ⟨owner, howner, hplaced⟩ := h vm hvm
      by_cases hid : owner.id = host.id
      · obtain rfl : owner = host :=
          Table.eq_of_mem_of_key hc.hostIds howner (Table.mem_of_lookup hhost) hid
        refine ⟨withAgentStatus env s.world.now d owner,
          Table.mem_store.mpr (Or.inr ⟨rfl, owner, howner, rfl⟩), hplaced.owner, hplaced.cluster,
          fun f hf => ?_⟩
        obtain ⟨folder, hfolder, hf, hserves⟩ := hplaced.folder f hf
        exact ⟨folder, hfolder, hf, hserves.congr rfl rfl⟩
      · exact ⟨owner, Table.mem_store.mpr (Or.inl ⟨howner, hid⟩), hplaced⟩
    · rwa [hdb]
  rcases step_reorganizes_or hdrawn fun hostId payload he => hstatus ⟨hostId, payload, he⟩ with
    ⟨db', hre, hdb⟩ | hrows
  · have hafter : db'.Placed := hre.placed h hc
    have hvms : (Organization.step env s e).world.db.vms = db'.vms := (congrArg Db.vms hdb :)
    have hhosts : (Organization.step env s e).world.db.hosts = db'.hosts :=
      (congrArg Db.hosts hdb :)
    have hfolders : (Organization.step env s e).world.db.folders = db'.folders :=
      (congrArg Db.folders hdb :)
    rwa [Db.Placed, hvms, hhosts, hfolders]
  · obtain ⟨hestate, -, hrows⟩ := hrows _ (placing_placed hc) h
    intro vm hvm
    obtain ⟨host, hhost, hplaced⟩ := hrows vm hvm
    obtain ⟨found, hfound, hstation⟩ := host_of_stands (List.mem_map_of_mem hhost) hestate.symm
    have hfolders : (Organization.step env s e).world.db.folders = s.world.db.folders :=
      congrArg (fun e => e.2.1) hestate
    exact ⟨found, hfound, hfolders ▸ hplaced.congr hstation⟩

/-- What every run keeps. -/
lemma drawn_and_placed {s : Committed} (h : Organization.Reachable env s) :
    RowsDrawn env s.world ∧ s.world.db.Placed := by
  obtain ⟨s₀, es, h₀, rfl⟩ := h
  have hplaced : s₀.world.db.Placed := fun vm hvm => by
    rw [h₀.vms] at hvm
    cases hvm
  exact Machine.run_invariant (I := fun s : Committed => RowsDrawn env s.world ∧ s.world.db.Placed)
    (fun _ e hI => ⟨rowsDrawn_step hI.1 e, placed_step hI.1 hI.2 e⟩)
    ⟨rowsDrawn_of_initial h₀, hplaced⟩

/-- **Placement**: in every reachable state each row has the cluster of its host, and a folder that
serves the host, if it has one. -/
theorem placed_of_reachable (s : Committed) (h : Organization.Reachable env s) :
    s.world.db.Placed := (drawn_and_placed h).2

/-- The VM `"g"` is reported, its host joins a cluster, and it is moved to a folder of the
cluster. -/
@[irreducible] def Demo.inFolder : Committed :=
  Organization.run Demo.settings Demo.start
    [.system (.vmInventory "h" (Demo.snapshot ["g"])),
      .operation (.createCluster Demo.user "cluster" "hyperv"),
      .operation (.moveHost Demo.user "h" (some "x")),
      .operation (.createFolder Demo.user "folder" (some "x") none),
      .operation (.moveVmToFolder Demo.user "" (some "xxxx"))]

/-- A VM in a folder of its cluster is placed. -/
theorem inFolder_placed :
    (∃ vm ∈ Demo.inFolder.world.db.vms, vm.folderId = some "xxxx" ∧ vm.clusterId = some "x") ∧
      Demo.inFolder.world.db.Placed := by
  refine ⟨?_, @placed_of_reachable Demo.settings Demo.inFolder
    ⟨Demo.start, _, Demo.start_initial, by unfold Demo.inFolder; rfl⟩⟩
  unfold Demo.inFolder
  decide +kernel

end OpenVCenter
