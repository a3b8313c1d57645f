import OpenVCenter.Estate

set_option relaxedAutoImplicit false
set_option autoImplicit false

/-!
# One hypervisor in a cluster

`create_host` and `move_host` compare the hypervisor of the host with that of the cluster.
`apply_agent_status` writes whatever a heartbeat calls the hypervisor.

## Main definitions

* `OpenVCenter.Db.Homogeneous` — each member of a cluster runs what the cluster runs.
* `OpenVCenter.Confirms` — a heartbeat that is stored confirms the hypervisor of its cluster.

## Main results

* `OpenVCenter.homogeneous_step_iff` — a step keeps clusters homogeneous exactly when it confirms.
* `OpenVCenter.homogeneous_run_iff` — **every state of a run has homogeneous clusters** exactly when
  every heartbeat of the run confirms.
-/

namespace OpenVCenter

variable {env : Env}

/-- Each member of a cluster runs what the cluster runs. -/
def Db.Homogeneous (db : Db) : Prop :=
  ∀ host ∈ db.hosts, ∀ cluster ∈ db.clusters, host.clusterId = some cluster.id →
    host.hypervisor.isStr cluster.hypervisor = true

/-- Whether clusters are homogeneous can be decided. -/
instance (db : Db) : Decidable db.Homogeneous :=
  inferInstanceAs (Decidable (∀ host ∈ db.hosts, ∀ cluster ∈ db.clusters,
    host.clusterId = some cluster.id → host.hypervisor.isStr cluster.hypervisor = true))

/-- Homogeneity is a property of the estate. -/
lemma homogeneous_iff_estate (db : Db) : db.Homogeneous ↔ ∀ t ∈ db.estate.2.2,
    ∀ cluster ∈ db.estate.1, t.2.1 = some cluster.id → t.2.2.isStr cluster.hypervisor = true := by
  unfold Db.Homogeneous Db.estate
  rw [List.forall_mem_map]
  rfl

/-- Only the estate matters. -/
lemma Db.Homogeneous.congr {db db' : Db} (h : db.Homogeneous) (hestate : db'.estate = db.estate) :
    db'.Homogeneous := by
  rw [homogeneous_iff_estate] at h ⊢
  rwa [hestate]

/-! ## Operations -/

/-- The cluster under an identifier is the only one. -/
lemma Db.Keyed.cluster_eq {db : Db} (h : db.Keyed) {cluster cluster' : Cluster}
    (hmem : cluster ∈ db.clusters) (hlookup : db.cluster cluster.id = some cluster') :
    cluster' = cluster :=
  Table.eq_of_mem_of_key h.clusterIds (Table.mem_of_lookup hlookup) hmem
    (Table.key_of_lookup hlookup)

/-- Membership is checked where it changes; a new cluster has no members. -/
lemma Reorganizes.homogeneous {db db' : Db} (hre : Reorganizes db db') (h : db.Homogeneous)
    (hc : db.Keyed) (hids : (db'.clusters.map Cluster.id).Nodup) : db'.Homogeneous := by
  intro host hhost cluster hcluster hmember
  cases hre with
  | nothing => exact h host hhost cluster hcluster hmember
  | addCluster new =>
    rcases List.mem_append.mp hcluster with hcluster | hcluster
    · exact h host hhost cluster hcluster hmember
    · -- a host in it would refer to a cluster that was there, under the same key
      have hknown : cluster.id ∈ db.clusters.map Cluster.id :=
        hc.hostCluster host hhost cluster.id hmember
      obtain ⟨old, hold, hsame⟩ := List.mem_map.mp hknown
      rw [List.mem_singleton.mp hcluster] at hsame
      exact absurd hsame ((Table.nodup_keys_append.mp hids).2 old hold)
  | deleteCluster id hempty =>
    obtain ⟨before, hbefore, rfl⟩ := List.mem_map.mp hhost
    have hcluster : cluster ∈ db.clusters := (Table.mem_deleteWhere.mp hcluster).1
    split_ifs at hmember ⊢
    exact h before hbefore cluster hcluster hmember
  | addHost new hnew =>
    rcases List.mem_append.mp hhost with hhost | hhost
    · exact h host hhost cluster hcluster hmember
    · obtain rfl := List.mem_singleton.mp hhost
      obtain ⟨found, hfound, hruns⟩ := hnew cluster.id hmember
      rw [hruns, hc.cluster_eq hcluster hfound]
      exact decide_eq_true rfl
  | moveHost moved clusterId hmem hmoved =>
    rcases Table.mem_store.mp hhost with ⟨hhost, -⟩ | ⟨rfl, -⟩
    · exact h host hhost cluster hcluster hmember
    · obtain ⟨found, hfound, hruns⟩ := hmoved cluster.id hmember
      rwa [hc.cluster_eq hcluster hfound] at hruns
  | deleteHost id =>
    exact h host (Table.mem_deleteWhere.mp hhost).1 cluster hcluster hmember
  | addFolder folder => exact h host hhost cluster hcluster hmember
  | deleteFolder id => exact h host hhost cluster hcluster hmember
  | moveVm vm hmem folder hfolder => exact h host hhost cluster hcluster hmember

/-- A reorganization keeps clusters homogeneous. -/
lemma homogeneous_reorganized {s t : Committed} (hre : Reorganized s.world.db t.world)
    (h : s.world.db.Homogeneous) : t.world.db.Homogeneous := by
  obtain ⟨db', hre, hdb⟩ := hre
  have hclusters : t.world.db.clusters = db'.clusters := (congrArg Db.clusters hdb :)
  have hhosts : t.world.db.hosts = db'.hosts := (congrArg Db.hosts hdb :)
  have hafter : db'.Homogeneous :=
    hre.homogeneous h s.consistent.keyed (hclusters ▸ t.consistent.keyed.clusterIds)
  rwa [Db.Homogeneous, hclusters, hhosts]

/-! ## Heartbeats -/

/-- A heartbeat that is stored for a member of a cluster names the hypervisor of the cluster, or
none. -/
def Confirms (env : Env) (s : Committed) : Organization.Event → Prop
  | .system (.agentStatus hostId payload) =>
    ∀ host d, s.world.db.host hostId = some host → payload.asDict = .ok d →
      heartbeatFits env s.world.now d = true →
      ∀ cluster ∈ s.world.db.clusters, host.clusterId = some cluster.id →
        (d.get "hypervisor").truthy = true →
        (d.get "hypervisor").isStr cluster.hypervisor = true
  | _ => True

/-- A heartbeat does exactly if it confirms its cluster's hypervisor. -/
lemma homogeneous_heartbeat_iff {s : Committed} (h : s.world.db.Homogeneous) (hostId : String)
    (payload : Json) :
    (System.step env s (.agentStatus hostId payload)).world.db.Homogeneous ↔
      Confirms env s (.system (.agentStatus hostId payload)) := by
  rcases @heartbeat_step env s hostId payload with
    ⟨host, d, hhost, hpayload, hfits, hdb⟩ | ⟨hdb, hnone⟩
  · have hmem : host ∈ s.world.db.hosts := Table.mem_of_lookup hhost
    rw [hdb]
    constructor
    · rintro hafter found d' hfound hd' - cluster hcluster hmember hnamed
      obtain rfl : host = found := Option.some.inj (hhost.symm.trans hfound)
      obtain rfl : d = d' := Except.ok.inj (hpayload.symm.trans hd')
      have hwritten : withAgentStatus env s.world.now d host ∈
          (s.world.db.storeHost (withAgentStatus env s.world.now d host)).hosts :=
        Table.mem_store.mpr (Or.inr ⟨rfl, host, hmem, rfl⟩)
      have hruns := hafter _ hwritten cluster hcluster hmember
      rwa [show (withAgentStatus env s.world.now d host).hypervisor = d.get "hypervisor" from
        if_pos hnamed] at hruns
    · intro hconfirms after hafter cluster hcluster hmember
      rcases Table.mem_store.mp hafter with ⟨hafter, -⟩ | ⟨rfl, -⟩
      · exact h after hafter cluster hcluster hmember
      · by_cases hnamed : (d.get "hypervisor").truthy = true
        · rw [show (withAgentStatus env s.world.now d host).hypervisor = d.get "hypervisor" from
            if_pos hnamed]
          exact hconfirms host d hhost hpayload hfits cluster hcluster hmember hnamed
        · rw [show (withAgentStatus env s.world.now d host).hypervisor = host.hypervisor from
            if_neg hnamed]
          exact h host hmem cluster hcluster hmember
  · rw [hdb]
    refine iff_of_true h fun host d hhost hpayload hfits => ?_
    rw [hnone host d hhost hpayload] at hfits
    cases hfits

/-! ## Steps and runs -/

/-- So does any other event. -/
theorem homogeneous_step_iff {s : Committed} (hdrawn : RowsDrawn env s.world)
    (h : s.world.db.Homogeneous) (e : Organization.Event) :
    (Organization.step env s e).world.db.Homogeneous ↔ Confirms env s e := by
  by_cases hstatus : ∃ hostId payload, e = .system (.agentStatus hostId payload)
  · obtain ⟨hostId, payload, rfl⟩ := hstatus
    exact homogeneous_heartbeat_iff h hostId payload
  have hconfirms : Confirms env s e := by
    unfold Confirms
    split
    · exact absurd ⟨_, _, rfl⟩ hstatus
    · trivial
  refine iff_of_true ?_ hconfirms
  rcases step_reorganizes_or hdrawn fun hostId payload he => hstatus ⟨hostId, payload, he⟩ with
    hre | hrows
  · exact homogeneous_reorganized hre h
  · exact h.congr (hrows (fun _ => True) ⟨fun _ _ _ => trivial, fun _ _ _ => trivial⟩
      fun _ _ => trivial).estate

/-- **Every state of a run has homogeneous clusters** exactly when every heartbeat of the run that
is stored for a member of a cluster names the hypervisor of that cluster, or none. -/
theorem homogeneous_run_iff {s : Committed} (hs : System.Initial s) (h : s.world.db.Homogeneous)
    (es : List Organization.Event) :
    Machine.AllSteps (Organization.step env)
        (fun s e => (Organization.step env s e).world.db.Homogeneous) s es ↔
      Machine.AllSteps (Organization.step env) (Confirms env) s es := by
  exact Machine.AllSteps.congr (I := fun s => RowsDrawn env s.world ∧ s.world.db.Homogeneous)
    (fun s e hI hafter => ⟨rowsDrawn_step hI.1 e, hafter⟩)
    (fun s e hI => homogeneous_step_iff hI.1 hI.2 e) ⟨rowsDrawn_of_initial hs, h⟩

/-- A cluster with a new host in it, whose agent then reports a hypervisor. -/
def Demo.reported (hypervisor : String) : List Organization.Event :=
  [.operation (.createCluster Demo.user "cluster" "hyperv"),
    .operation (.createHost Demo.user "member" (some "") "hyperv" "t" true),
    .system (.agentStatus "xx" (.obj [("hypervisor", .str hypervisor)]))]

/-- A heartbeat that confirms the hypervisor of the cluster. -/
theorem homogeneous_run_reported :
    Machine.AllSteps (Organization.step Demo.settings)
        (fun s e => (Organization.step Demo.settings s e).world.db.Homogeneous) Demo.start
        (Demo.reported "hyperv") := by
  refine (homogeneous_run_iff Demo.start_initial (by decide) (Demo.reported "hyperv")).mpr ?_
  refine ⟨trivial, trivial, ?_, trivial⟩
  intro host d _ hpayload _ cluster hcluster _ _
  cases hpayload
  have hall : ∀ cluster ∈ (Organization.run Demo.settings Demo.start
      ((Demo.reported "hyperv").take 2)).world.db.clusters, cluster.hypervisor = "hyperv" := by
    decide +kernel
  rw [hall cluster hcluster]
  rfl

/-- A heartbeat makes a member of a cluster run what the cluster does not. -/
theorem homogeneous_counterexample :
    ¬ ∀ (env : Env) (s : Committed) (es : List Organization.Event), System.Initial s →
      s.world.db.Homogeneous → (Organization.run env s es).world.db.Homogeneous := by
  intro h
  have hafter := h Demo.settings Demo.start (Demo.reported "kvm") Demo.start_initial (by decide)
  have hbroken : ¬ (Organization.run Demo.settings Demo.start
      (Demo.reported "kvm")).world.db.Homogeneous := by
    decide +kernel
  exact hbroken hafter

end OpenVCenter
