import OpenVCenter.Placement

set_option relaxedAutoImplicit false
set_option autoImplicit false

/-!
# A host that joins a cluster

`move_host` of `services/organization.py` rewrites the cluster of every VM of the host. The GUIDs of
a cluster's VMs are unique, and those of hosts that are in no common cluster are not; the update
meets the index without having looked.

## Main definitions

* `OpenVCenter.Graceful` — a request returns, or raises an `ApiError` and changes nothing.
* `OpenVCenter.Disjoint` — no VM of the host has the GUID of another host's VM in the cluster.

## Main results

* `OpenVCenter.moveHost_consistent_iff` — when the tables after the move pass the flush.
* `OpenVCenter.moveHost_graceful_iff` — the moves that end gracefully.
-/

namespace OpenVCenter

open Effect

/-- **A request ends gracefully**: it returns, or raises an `ApiError` and leaves the state as it
was. -/
def Graceful (m : M Unit) (w : World) : Prop :=
  (m w).1 = .ok () ∨ ∃ e, m w = (.error (.apiError e), w)

/-- **No VM of the host has the GUID of another host's VM in the cluster.** -/
def Disjoint (db : Db) (hostId clusterId : String) : Prop :=
  ∀ v ∈ db.vms, v.hostId = hostId → ∀ u ∈ db.vms, u.hostId ≠ hostId →
    u.clusterId = some clusterId → ∀ guid ∈ v.vmUuid, u.vmUuid ≠ some guid

section Move

variable {env : Env} {db : Db} {host : Host} {cluster : Cluster} {clusterId : String} {a b : Vm}

/-- A row after the move. -/
def Vm.relocated (db : Db) (host : Host) (clusterId : String) (v : Vm) : Vm :=
  { v with
    clusterId := if v.hostId = host.id then some clusterId else v.clusterId
    folderId := (if v.hostId = host.id then none else v.folderId).filter fun f =>
      !db.folders.any fun folder =>
        decide (folder.id = f) && decide (folder.hostId = some host.id) }

/-- The rows of the host move with it. -/
lemma moveHost_vms : (db.moveHost host (some clusterId)).vms =
    db.vms.map (Vm.relocated db host clusterId) := by
  unfold Db.moveHost Db.deleteFolders Table.updateWhere
  dsimp only
  rw [List.map_map]
  refine List.map_congr_left fun v _ => ?_
  unfold Vm.relocated
  by_cases howner : v.hostId = host.id
  · simp [howner, Db.storeHost]
  · simp [howner, Db.storeHost]

/-! ## GUIDs -/

/-- A clash is mutual. -/
lemma clash_symm (h : a.clash b) : b.clash a := by
  obtain ⟨hsome, hguid, hcluster, hplace⟩ := h
  exact ⟨hguid ▸ hsome, hguid.symm, hcluster.symm,
    hplace.imp (fun hc => hcluster ▸ hc) Eq.symm⟩

/-- The rows of one host stay apart, as do the rows of the others; a row of the host and one of
another clash exactly when the other has its GUID, in the cluster. -/
lemma relocated_clash_iff (ha : a.hostId = host.id) (hb : b.hostId ≠ host.id) :
    (a.relocated db host clusterId).clash (b.relocated db host clusterId) ↔
      ∃ guid ∈ a.vmUuid, b.vmUuid = some guid ∧ b.clusterId = some clusterId := by
  unfold Vm.clash Vm.relocated
  simp only [if_pos ha, if_neg hb]
  constructor
  · rintro ⟨hsome, hguid, hcluster, -⟩
    obtain ⟨guid, hg⟩ := Option.isSome_iff_exists.mp hsome
    exact ⟨guid, hg, hguid ▸ hg, hcluster.symm⟩
  · rintro ⟨guid, hg, hguid, hcluster⟩
    rw [Option.mem_def] at hg
    exact ⟨by rw [hg]; rfl, hg.trans hguid.symm, hcluster.symm, Or.inl rfl⟩

/-- **The GUIDs after the move** are apart exactly when the host and the cluster have none in
common. -/
lemma guids_apart_iff (hk : db.Keyed) (hplaced : db.Placed) (hhost : host ∈ db.hosts) :
    (db.vms.Pairwise fun a b =>
      ¬ (a.relocated db host clusterId).clash (b.relocated db host clusterId)) ↔
    Disjoint db host.id clusterId := by
  constructor
  · intro h v hv hvhost u hu huhost hcluster guid hguid hsame
    have : Std.Symm fun a b : Vm =>
        ¬ (a.relocated db host clusterId).clash (b.relocated db host clusterId) :=
      ⟨fun a b hab hba => hab (clash_symm hba)⟩
    have hne : v ≠ u := fun heq => huhost (heq ▸ hvhost)
    exact h.forall hv hu hne
      ((relocated_clash_iff hvhost huhost).mpr ⟨guid, hguid, hsame, hcluster⟩)
  · intro h
    refine hk.guids.imp_of_mem fun {a b} ha hb hapart hclash => ?_
    have hcluster : ∀ v ∈ db.vms, v.hostId = host.id → v.clusterId = host.clusterId := by
      intro v hv howner
      obtain ⟨owner, howner', hplacedOn⟩ := hplaced v hv
      rw [hplacedOn.cluster, Table.eq_of_mem_of_key hk.hostIds howner' hhost
        (hplacedOn.owner.symm.trans howner)]
    by_cases haowner : a.hostId = host.id
    · by_cases hbowner : b.hostId = host.id
      · -- both of the host: they were of one cluster before
        obtain ⟨hsome, hguid, -, -⟩ := hclash
        exact hapart ⟨hsome, hguid, (hcluster a ha haowner).trans (hcluster b hb hbowner).symm,
          Or.inr (haowner.trans hbowner.symm)⟩
      · obtain ⟨guid, hg, hsame, hc⟩ := (relocated_clash_iff haowner hbowner).mp hclash
        exact h a ha haowner b hb hbowner hc guid hg hsame
    · by_cases hbowner : b.hostId = host.id
      · obtain ⟨guid, hg, hsame, hc⟩ := (relocated_clash_iff hbowner haowner).mp (clash_symm hclash)
        exact h b hb hbowner a ha haowner hc guid hg hsame
      · unfold Vm.clash Vm.relocated at hclash
        simp only [if_neg haowner, if_neg hbowner] at hclash
        exact hapart hclash

/-! ## The flush -/

/-- The host of the move is stored. -/
lemma storeHost_consistent (hc : db.Consistent) (hhost : host ∈ db.hosts)
    (hcluster : clusterId ∈ db.clusters.map Cluster.id) :
    (db.storeHost { host with clusterId := some clusterId }).Consistent := by
  refine hc.with_hosts Table.map_key_store (Table.map_store fun y hy hid => ?_) ?_ ?_
  · rw [Table.eq_of_mem_of_key hc.keyed.hostIds hy hhost hid]
  · intro y hy c hmem
    rcases Db.Consistent.mem_storeHost hy with hy | rfl
    · exact hc.keyed.hostCluster y hy c hmem
    · rw [← Option.mem_some.mp hmem]
      exact hcluster
  · intro y hy
    rcases Db.Consistent.mem_storeHost hy with hy | rfl
    · exact hc.host_bindable hy
    · have hfits := hc.host_bindable hhost
      exact hfits

/-- Folders that no row is in are deleted. -/
lemma without_folders (hc : db.Consistent) {p : Folder → Bool}
    (hfree : ∀ v ∈ db.vms, ∀ f ∈ v.folderId,
      ∃ folder ∈ db.folders, folder.id = f ∧ p folder = false) :
    ({ db with folders := Table.deleteWhere p db.folders } : Db).Consistent where
  fits := Db.fits_iff.mpr (Db.fits_iff.mp hc.fits)
  keyed := { hc.keyed with
    folderIds := hc.keyed.folderIds.sublist ((Table.deleteWhere_sublist p db.folders).map _)
    folderHost := fun f hf => hc.keyed.folderHost f (Table.mem_deleteWhere.mp hf).1
    folderCluster := fun f hf => hc.keyed.folderCluster f (Table.mem_deleteWhere.mp hf).1
    vmFolder := fun v hv f hf => by
      obtain ⟨folder, hfolder, hid, hstays⟩ := hfree v hv f hf
      exact List.mem_map.mpr ⟨folder, Table.mem_deleteWhere.mpr ⟨hfolder, hstays⟩, hid⟩ }

/-- **The tables after the move** pass the flush exactly when the host and the cluster have no GUID
in common.

**Proof sketch.** Clashes among the rows after the move are GUIDs that the host shares with the
cluster (`guids_apart_iff`). If there are none, go through the other constraints: the cluster is
there, the folders that are dropped are the host's own, and the rows of its VMs have left them. -/
theorem moveHost_consistent_iff (hc : db.Consistent) (hplaced : db.Placed) (hhost : host ∈ db.hosts)
    (hcluster : clusterId ∈ db.clusters.map Cluster.id) :
    (db.moveHost host (some clusterId)).Consistent ↔ Disjoint db host.id clusterId := by
  rw [← guids_apart_iff hc.keyed hplaced hhost]
  have hguids : (db.moveHost host (some clusterId)).vms.Pairwise (fun a b => ¬ a.clash b) ↔
      db.vms.Pairwise fun a b =>
        ¬ (a.relocated db host clusterId).clash (b.relocated db host clusterId) := by
    rw [moveHost_vms, List.pairwise_map]
  rw [← hguids]
  refine ⟨fun h => h.keyed.guids, fun hapart => ?_⟩
  have hids : (db.vms.map (Vm.relocated db host clusterId)).map Vm.id = db.vms.map Vm.id := by
    rw [List.map_map]
    rfl
  have hstored := storeHost_consistent hc hhost hcluster
  have hrelocated : ({ db.storeHost { host with clusterId := some clusterId } with
      vms := db.vms.map (Vm.relocated db host clusterId) } : Db).Consistent := by
    refine hstored.with_vms ?_ (moveHost_vms ▸ hapart) ?_ ?_ ?_ ?_ (List.Sublist.refl _) ?_
      (List.Sublist.refl _) ?_
    · rw [hids]
      exact hc.keyed.vmIds
    · exact List.forall_mem_map.mpr hstored.keyed.vmHost
    · refine List.forall_mem_map.mpr fun v hv c hmem => ?_
      unfold Vm.relocated at hmem
      split_ifs at hmem with howner
      · rw [← Option.mem_some.mp hmem]
        exact hcluster
      · exact hc.keyed.vmCluster v hv c hmem
    · refine List.forall_mem_map.mpr fun v hv f hf => ?_
      have hbefore := (Option.mem_filter_iff.mp hf).1
      split_ifs at hbefore with howner
      · exact absurd hbefore (Option.not_mem_none f)
      · exact hc.keyed.vmFolder v hv f hbefore
    · refine List.forall_mem_map.mpr fun v hv => ?_
      have hfits := hc.vm_bindable hv
      exact hfits
    · rw [hids]
      exact hc.keyed.thumbnailVm
    · rw [hids]
      exact hc.keyed.vmMetricVm
  have hfree := without_folders hrelocated (p := fun f => decide (f.hostId = some host.id)) <|
    List.forall_mem_map.mpr fun v hv f hf => by
      obtain ⟨hbefore, hstays⟩ := Option.mem_filter_iff.mp hf
      split_ifs at hbefore with howner
      · exact absurd hbefore (Option.not_mem_none f)
      · obtain ⟨folder, hfolder, hid⟩ := List.mem_map.mp (hc.keyed.vmFolder v hv f hbefore)
        refine ⟨folder, hfolder, hid, ?_⟩
        simp only [Bool.not_eq_true', List.any_eq_false, Bool.and_eq_true, decide_eq_true_eq,
          not_and] at hstays
        exact decide_eq_false (hstays folder hfolder hid)
  have heq : db.moveHost host (some clusterId) =
      { db.storeHost { host with clusterId := some clusterId } with
        vms := db.vms.map (Vm.relocated db host clusterId)
        folders := Table.deleteWhere (fun f => decide (f.hostId = some host.id)) db.folders } := by
    rw [← moveHost_vms]
    rfl
  rw [heq]
  exact hfree

end Move

/-! ## The request -/

section Request

variable {env : Env} {s : Committed} {host : Host} {cluster : Cluster}

/-- `move_host` to a cluster that is there and runs what the host runs: it does nothing, or it
writes the tables and flushes them. -/
lemma moveHost_run {w : World} (hcluster : w.db.cluster cluster.id = some cluster)
    (hsame : host.hypervisor.isStr cluster.hypervisor = true) :
    moveHost env host (some cluster.id) w =
      if host.clusterId = some cluster.id then (.ok (), w)
      else flush { w with db := w.db.moveHost host (some cluster.id) } := by
  have htarget : targetCluster w.db (some cluster.id) = .ok (some cluster) := by
    unfold targetCluster
    dsimp only
    rw [hcluster]
  have hmember : checkMember env host (some cluster) = .ok () := if_pos hsame
  unfold moveHost
  rw [Prog.read_bind_run, htarget, Prog.ofExcept_ok, pure_bind, hmember, Prog.ofExcept_ok,
    pure_bind]
  split_ifs with hin
  · rfl
  · rfl

/-- A request that ends with a flush ends gracefully when the flush passes. -/
lemma graceful_flush_iff {m : M Unit} {w : World} {db : Db} (h : m w = flush { w with db := db }) :
    Graceful m w ↔ db.Consistent := by
  unfold Graceful
  rw [h, flush_run]
  split_ifs with hcons
  · exact iff_of_true (Or.inl rfl) hcons
  · exact iff_of_false (by rintro (h | ⟨e, h⟩) <;> cases h) hcons
  · exact iff_of_false (by rintro (h | ⟨e, h⟩) <;> cases h) hcons

/-- **The moves that end gracefully**: the host is in the cluster, or it has no GUID in common with
the cluster's other hosts. -/
theorem moveHost_graceful_iff (h : Organization.Reachable env s) (hhost : host ∈ s.world.db.hosts)
    (hcluster : cluster ∈ s.world.db.clusters)
    (hsame : host.hypervisor.isStr cluster.hypervisor = true) :
    Graceful (moveHost env host (some cluster.id)) s.world ↔
      host.clusterId = some cluster.id ∨ Disjoint s.world.db host.id cluster.id := by
  have hc : s.world.db.Consistent := s.consistent
  have hplaced : s.world.db.Placed := (drawn_and_placed h).2
  have hfound : s.world.db.cluster cluster.id = some cluster :=
    (Table.lookup_eq_some hc.keyed.clusterIds).mpr ⟨hcluster, rfl⟩
  have hrun := @moveHost_run env host cluster s.world hfound hsame
  by_cases hin : host.clusterId = some cluster.id
  · rw [if_pos hin] at hrun
    exact iff_of_true (Or.inl (congrArg Prod.fst hrun)) (Or.inl hin)
  · rw [if_neg hin] at hrun
    rw [or_iff_right hin, ← moveHost_consistent_iff hc hplaced hhost
      (List.mem_map_of_mem hcluster)]
    exact graceful_flush_iff hrun

end Request

/-- A cluster is created. -/
@[irreducible] def Demo.clustered : Committed :=
  Organization.run Demo.settings Demo.start
    [.operation (.createCluster Demo.user "cluster" "hyperv")]

/-- The cluster `"x"` gets a host of its own, and both hosts report a VM of the GUID `"g"`. -/
@[irreducible] def Demo.sameGuid : Committed :=
  Organization.run Demo.settings Demo.start
    [.system (.vmInventory "h" (Demo.snapshot ["g"])),
      .operation (.createCluster Demo.user "cluster" "hyperv"),
      .operation (.createHost Demo.user "other" (some "x") "hyperv" "t" true),
      .system (.vmInventory "xxx" (Demo.snapshot ["g"]))]

/-- As before, with VMs of different GUIDs. -/
@[irreducible] def Demo.otherGuid : Committed :=
  Organization.run Demo.settings Demo.start
    [.system (.vmInventory "h" (Demo.snapshot ["g"])),
      .operation (.createCluster Demo.user "cluster" "hyperv"),
      .operation (.createHost Demo.user "other" (some "x") "hyperv" "t" true),
      .system (.vmInventory "xxx" (Demo.snapshot ["k"]))]

/-- The host with the VM `"g"` joins the cluster whose other host has the VM `"k"`. -/
theorem moveHost_graceful_apart :
    ∃ host ∈ Demo.otherGuid.world.db.hosts, ∃ cluster ∈ Demo.otherGuid.world.db.clusters,
      host.clusterId = none ∧
        (∃ v ∈ Demo.otherGuid.world.db.vms, v.hostId = host.id ∧ v.vmUuid = some "g") ∧
        (∃ v ∈ Demo.otherGuid.world.db.vms, v.clusterId = some cluster.id ∧
          v.vmUuid = some "k") ∧
        Graceful (moveHost Demo.settings host (some cluster.id)) Demo.otherGuid.world := by
  have hrows : ∃ host ∈ Demo.otherGuid.world.db.hosts,
      ∃ cluster ∈ Demo.otherGuid.world.db.clusters,
        host.hypervisor.isStr cluster.hypervisor = true ∧ host.clusterId = none ∧
          (∃ v ∈ Demo.otherGuid.world.db.vms, v.hostId = host.id ∧ v.vmUuid = some "g") ∧
          (∃ v ∈ Demo.otherGuid.world.db.vms, v.clusterId = some cluster.id ∧
            v.vmUuid = some "k") ∧
          Disjoint Demo.otherGuid.world.db host.id cluster.id := by
    unfold Demo.otherGuid Disjoint
    decide +kernel
  obtain ⟨host, hhost, cluster, hcluster, hsame, halone, hown, hothers, hdisjoint⟩ := hrows
  have hreachable : Organization.Reachable Demo.settings Demo.otherGuid :=
    ⟨Demo.start, _, Demo.start_initial, by unfold Demo.otherGuid; rfl⟩
  exact ⟨host, hhost, cluster, hcluster, halone, hown, hothers,
    (moveHost_graceful_iff hreachable hhost hcluster hsame).mpr (Or.inr hdisjoint)⟩

/-- The host joins the cluster whose other host has a VM of the same GUID. -/
theorem moveHost_graceful_counterexample :
    ¬ ∀ (env : Env) (s : Committed) (host : Host) (cluster : Cluster),
      Organization.Reachable env s → host ∈ s.world.db.hosts → cluster ∈ s.world.db.clusters →
        host.hypervisor.isStr cluster.hypervisor = true →
          Graceful (moveHost env host (some cluster.id)) s.world := by
  intro h
  have hreachable : Organization.Reachable Demo.settings Demo.sameGuid :=
    ⟨Demo.start, _, Demo.start_initial, by unfold Demo.sameGuid; rfl⟩
  have hclash : ∃ host ∈ Demo.sameGuid.world.db.hosts,
      ∃ cluster ∈ Demo.sameGuid.world.db.clusters,
        host.hypervisor.isStr cluster.hypervisor = true ∧ host.clusterId ≠ some cluster.id ∧
          ¬ (Demo.sameGuid.world.db.moveHost host (some cluster.id)).Consistent := by
    unfold Demo.sameGuid
    decide +kernel
  obtain ⟨host, hhost, cluster, hcluster, hsame, hout, hnot⟩ := hclash
  have hfound : Demo.sameGuid.world.db.cluster cluster.id = some cluster :=
    (Table.lookup_eq_some Demo.sameGuid.consistent.keyed.clusterIds).mpr ⟨hcluster, rfl⟩
  have hrun := @moveHost_run Demo.settings host cluster Demo.sameGuid.world hfound hsame
  rw [if_neg hout] at hrun
  exact hnot ((graceful_flush_iff hrun).mp (h _ _ _ _ hreachable hhost hcluster hsame))

end OpenVCenter
