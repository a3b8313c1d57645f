import OpenVCenter.Foundations.Holder
import OpenVCenter.Reconciliation
import OpenVCenter.RowKeys

set_option relaxedAutoImplicit false
set_option autoImplicit false

/-!
# The nodes of a cluster report

A GUID is unique across a cluster, and each node of it reports the VMs it runs in snapshots of its
own, on a queue of its own. A VM that migrates is then listed by one node and no longer by another,
and the snapshots of the two are consumed in any order. Whoever lists the VM last owns its row; the
owner that omits it takes the row away, and with it the folder and the tags.

## Main definitions

* `OpenVCenter.Snapshot`, `OpenVCenter.Snapshot.accepted` — a snapshot, and that it goes through.
* `OpenVCenter.sightings` — what the snapshots of a run say of one GUID in one cluster.
* `OpenVCenter.HeldBy` — the row of a VM is owned by a node, or is gone for good.

## Main results

* `OpenVCenter.heldBy_step` — what one snapshot does to the row of a VM of a cluster.
* `OpenVCenter.row_follows` — **over every run of snapshots the row stays with its key, its folder
  and its tags exactly as long as no node omits the VM while it is the last to have listed it, and
  it is owned by that node**.
* `OpenVCenter.row_handed_over_iff` — **a VM that migrates from one node to another keeps its row
  exactly when the first snapshot that omits it comes right after one of the other node**.

## Design

A snapshot that raises is rolled back, and one of a host outside the cluster is about other rows:
neither is a sighting.
-/

namespace OpenVCenter

open Effect

variable {env : Env}

/-! ## Snapshots -/

/-- A snapshot of a host. -/
structure Snapshot where
  hostId : String
  payload : Json

/-- The event of its consumption. -/
def Snapshot.event (x : Snapshot) : Event := .vmInventory x.hostId x.payload

/-- Its handler returns and is committed. -/
def Snapshot.accepted (env : Env) (s : Committed) (x : Snapshot) : Bool :=
  (sessionScope (applyVmInventory env x.hostId x.payload)
    { s.world with txStart := s.world.now - x.event.lag }).1.isOk

/-- The items of a payload that has a list of them. -/
def payloadItems (payload : Json) : List Json :=
  match payload.asDict >>= fun d => (d.getD "vms" (.arr [])).iterate with
  | .ok items => items
  | .error _ => []

/-- The host is a node of the cluster. -/
def Db.isNode (db : Db) (c hostId : String) : Bool :=
  (db.host hostId).any fun host => decide (host.clusterId = some c)

/-- The snapshot lists the GUID. -/
def Snapshot.lists (env : Env) (g : String) (x : Snapshot) : Bool :=
  decide (g ∈ listedGuids env (payloadItems x.payload))

/-- What a snapshot says of the GUID `g` in the cluster `c`, if anything. -/
def sighting (env : Env) (c g : String) (s : Committed) (x : Snapshot) : Option (String × Bool) :=
  if s.world.db.isNode c x.hostId && x.accepted env s then some (x.hostId, x.lists env g) else none

/-- What the snapshots of a run say of a GUID in a cluster, in the order they are consumed. -/
def sightings (env : Env) (c g : String) : Committed → List Snapshot → List (String × Bool)
  | _, [] => []
  | s, x :: xs =>
    (sighting env c g s x).toList ++ sightings env c g (System.step env s x.event) xs

/-- The state after a run of snapshots. -/
def consume (env : Env) (s : Committed) (xs : List Snapshot) : Committed :=
  System.run env s (xs.map Snapshot.event)

/-! ## One snapshot -/

section Snapshots

variable {s : Committed} {x : Snapshot} {host : Host} {report : VmReport} {t : World}

/-- The payload of a snapshot that goes through has a list of items. -/
lemma report_of_accepted {w : World} (hhost : w.db.host x.hostId = some host)
    (h : applyVmInventory env x.hostId x.payload w = (.ok (), t)) :
    ∃ report : VmReport, x.payload = .obj report.payload ∧
      payloadItems x.payload = report.items := by
  unfold applyVmInventory at h
  rw [Prog.read_bind_run, hhost] at h
  obtain ⟨d, w', hd, hrest⟩ := Prog.bind_eq_ok.mp h
  obtain ⟨hdict, rfl⟩ := Prog.ofExcept_eq_ok.mp hd
  obtain ⟨items, w', hitems, -⟩ := Prog.bind_eq_ok.mp hrest
  obtain ⟨hlisted, rfl⟩ := Prog.ofExcept_eq_ok.mp hitems
  refine ⟨⟨d, items, hlisted⟩, ?_, ?_⟩
  · cases hpayload : x.payload with
    | obj d' =>
      rw [hpayload] at hdict
      rw [Except.ok.inj hdict]
    | _ => simp [hpayload, Json.asDict] at hdict
  · simp [payloadItems, hdict, hlisted, bind, Except.bind]

/-- The two loops of a snapshot that goes through. -/
lemma loops_of_snapshot (hplaced : s.world.db.Placed) (hhost : host ∈ s.world.db.hosts)
    (h : sessionScope (applyVmInventory env host.id (.obj report.payload)) s.world = (.ok (), t)) :
    ∃ scan w₁ w₂, Scanned env s.world host report.items scan w₁ ∧
      (w₁.db.vms.map Vm.id).Nodup ∧ Dropped w₁ host scan.seen scan.existing w₂ ∧
      t.db.vms = w₂.db.vms := by
  obtain ⟨hrun, hct⟩ := savepoint_eq_ok.mp h
  have hlookup := s.consistent.host_eq_some.mpr ⟨hhost, rfl⟩
  obtain ⟨scan, w₁, w₂, hloop, hdrops, hvms, -⟩ := applyVmInventory_loops hlookup hrun
  have hn₁ : (w₁.db.vms.map Vm.id).Nodup := nodup_of_foldlM hdrops (hvms ▸ hct.keyed.vmIds)
  have hscan : Scanned env s.world host report.items scan w₁ :=
    scanned_reconcileItems (stands_of_host hlookup).mem_scope
      (guids_apart s.consistent hplaced hhost) hloop hn₁
  exact ⟨scan, w₁, w₂, hscan, hn₁, dropped_of_foldlM (hscan.written.index.ids_nodup hn₁) hdrops,
    hvms⟩

variable {vm v : Vm} {g : String}

/-- A listed GUID of a row in scope keeps the row, on the host. -/
lemma listed_kept (hplaced : s.world.db.Placed) (hhost : host ∈ s.world.db.hosts)
    (h : sessionScope (applyVmInventory env host.id (.obj report.payload)) s.world = (.ok (), t))
    (hvm : vm ∈ s.world.db.vms) (hscope : vm.InScope s.world.db host) (hguid : vm.vmUuid = some g)
    (hlisted : g ∈ listedGuids env report.items) :
    ∃ v ∈ t.db.vms, v.hostId = host.id ∧ v.identity = vm.identity := by
  obtain ⟨scan, w₁, w₂, hscan, hn₁, hdrop, hvms⟩ := loops_of_snapshot hplaced hhost h
  have hown : host.id ∈ inventoryScopeHostIds s.world.db host :=
    (stands_of_host (s.consistent.host_eq_some.mpr ⟨hhost, rfl⟩)).mem_scope
  have hseen : g ∈ scan.seen :=
    (hscan.seen g).mpr ⟨hlisted, fun hlapsed => hlapsed.2 vm hvm hscope hguid⟩
  rw [hvms]
  exact exists_kept hscan hn₁ hown hdrop hvm hscope hguid hseen

/-- A row of another host whose GUID is not listed, or that is out of scope, stays. -/
lemma bystander_kept (hplaced : s.world.db.Placed) (hhost : host ∈ s.world.db.hosts)
    (h : sessionScope (applyVmInventory env host.id (.obj report.payload)) s.world = (.ok (), t))
    (hvm : vm ∈ s.world.db.vms) (hother : vm.hostId ≠ host.id)
    (hout : vm.InScope s.world.db host → ∀ u ∈ vm.vmUuid, u ∉ listedGuids env report.items) :
    vm ∈ t.db.vms := by
  obtain ⟨scan, w₁, w₂, hscan, hn₁, hdrop, hvms⟩ := loops_of_snapshot hplaced hhost h
  have hown : host.id ∈ inventoryScopeHostIds s.world.db host :=
    (stands_of_host (s.consistent.host_eq_some.mpr ⟨hhost, rfl⟩)).mem_scope
  have hunlisted : unlisted (inventoryScopeHostIds s.world.db host) scan.seen vm = true :=
    decide_eq_true fun hscope u hu hseen => hout hscope u hu ((hscan.seen u).mp hseen).1
  rw [hvms]
  exact (mem_left hscan hn₁ hown hdrop).mpr
    ⟨(hscan.written.mem_iff hunlisted).mpr hvm, fun heq => absurd heq hother⟩

/-- The row of a GUID that its own host omits goes. -/
lemma omitted_gone (hplaced : s.world.db.Placed) (hhost : host ∈ s.world.db.hosts)
    (h : sessionScope (applyVmInventory env host.id (.obj report.payload)) s.world = (.ok (), t))
    (hvm : vm ∈ s.world.db.vms) (howner : vm.hostId = host.id) (hguid : vm.vmUuid = some g)
    (homitted : g ∉ listedGuids env report.items) : ∀ v ∈ t.db.vms, v.id ≠ vm.id := by
  obtain ⟨scan, w₁, w₂, hscan, hn₁, hdrop, hvms⟩ := loops_of_snapshot hplaced hhost h
  have hown : host.id ∈ inventoryScopeHostIds s.world.db host :=
    (stands_of_host (s.consistent.host_eq_some.mpr ⟨hhost, rfl⟩)).mem_scope
  have hseen : g ∉ scan.seen := fun hseen => homitted ((hscan.seen g).mp hseen).1
  intro v hv hid
  rw [hvms] at hv
  obtain ⟨hv₁, hstays⟩ := (mem_left hscan hn₁ hown hdrop).mp hv
  -- after the first loop the row still has its GUID
  obtain ⟨row, hrow, -, hidentity⟩ := hscan.written.kept vm hvm (howner ▸ hown)
  simp only [Vm.identity, Prod.mk.injEq] at hidentity
  obtain rfl := Table.eq_of_mem_of_key hn₁ hrow hv₁ (hidentity.1.trans hid.symm)
  have hvguid : row.vmUuid = some g := hidentity.2.1.trans hguid
  -- no item was about it, so that it is still on the host
  have hunlisted : unlisted (inventoryScopeHostIds s.world.db host) scan.seen row = true := by
    refine decide_eq_true fun _ u hu => ?_
    rw [Option.mem_def, hvguid] at hu
    exact Option.some.inj hu ▸ hseen
  have hrow₀ := (hscan.written.mem_iff hunlisted).mp hrow
  obtain rfl := Table.eq_of_mem_of_key s.consistent.keyed.vmIds hrow₀ hvm hidentity.1
  exact hseen (hstays howner g hvguid)

end Snapshots

/-! ## What a snapshot says -/

section Sightings

variable {s : Committed} {x : Snapshot}

/-- A snapshot changes no row and says nothing, or it is one of a host and goes through.

**Proof sketch.** An unknown host and a snapshot that is rolled back change no row and count as no
sighting. One that goes through is the report of a host, and what it says of a GUID is whether the
GUID is listed. -/
lemma snapshot_cases (s : Committed) (x : Snapshot) :
    ((System.step env s x.event).world.db.vms = s.world.db.vms ∧
      ∀ c g, sighting env c g s x = none) ∨
    ∃ host ∈ s.world.db.hosts, ∃ report : VmReport,
      sessionScope (applyVmInventory env host.id (.obj report.payload))
        { s.world with txStart := s.world.now - x.event.lag } =
          (.ok (), (System.step env s x.event).world) ∧
      ∀ c g, sighting env c g s x =
        if host.clusterId = some c then
          some (host.id, decide (g ∈ listedGuids env report.items))
        else none := by
  have hstep : (System.step env s x.event).world =
      (sessionScope (applyVmInventory env x.hostId x.payload)
        { s.world with txStart := s.world.now - x.event.lag }).2 := rfl
  rcases hhost : s.world.db.host x.hostId with _ | host
  · left
    refine ⟨?_, fun c g => by simp [sighting, Db.isNode, hhost]⟩
    -- the message of an unknown host
    have hrun : applyVmInventory env x.hostId x.payload
        { s.world with txStart := s.world.now - x.event.lag } =
          (.ok (), { s.world with txStart := s.world.now - x.event.lag }) := by
      unfold applyVmInventory
      rw [Prog.read_bind_run]
      simp only [hhost]
      rfl
    rw [hstep, sessionScope, savepoint_eq_ok.mpr ⟨hrun, s.consistent⟩]
  · obtain ⟨hmem, hid⟩ := s.consistent.host_eq_some.mp hhost
    rcases savepoint_cases (applyVmInventory env x.hostId x.payload)
      { s.world with txStart := s.world.now - x.event.lag } with
      ⟨⟨⟩, t, hrun, -, hsave⟩ | ⟨e, hsave⟩
    · right
      obtain ⟨report, hpayload, hitems⟩ := report_of_accepted
        (w := { s.world with txStart := s.world.now - x.event.lag }) hhost hrun
      refine ⟨host, hmem, report, ?_, fun c g => ?_⟩
      · rw [hstep, hid, ← hpayload, sessionScope, hsave]
      · have haccepted : x.accepted env s = true := by
          rw [Snapshot.accepted, sessionScope, hsave]
          rfl
        simp [sighting, Snapshot.lists, Db.isNode, hhost, haccepted, hitems, hid]
    · left
      have hrefused : x.accepted env s = false := by
        rw [Snapshot.accepted, sessionScope, hsave]
        rfl
      refine ⟨?_, fun c g => by simp [sighting, hrefused]⟩
      rw [hstep, sessionScope, hsave]
      rfl

end Sightings

/-! ## The row of a VM -/

/-- The row of a VM is owned by a node of the cluster, or its identifier is gone for good. -/
def HeldBy (env : Env) (c : String) (vm₀ : Vm) (s : Committed) : Option String → Prop
  | some node => ∃ vm ∈ s.world.db.vms, vm.identity = vm₀.identity ∧ vm.hostId = node ∧
      vm.clusterId = some c
  | none => WithoutRow env vm₀.id s.world

section Row

variable {s t : Committed} {x : Snapshot} {c g : String} {vm₀ vm : Vm} {host : Host}
  {holder : Option String}

/-- A snapshot leaves the organization alone. -/
lemma estate_of_snapshot (hdrawn : RowsDrawn env s.world) (x : Snapshot) :
    (System.step env s x.event).world.db.estate = s.world.db.estate := by
  refine (rowsOn_step (P := fun _ => True) placing_true hdrawn (fun _ _ => trivial) ?_ ?_).estate
  · intro hostId payload he
    cases he
  · intro user hostId he
    cases he

/-- A row on a node is in the cluster. -/
lemma clusterId_of_owner (hplaced : t.world.db.Placed) (hestate : t.world.db.estate =
    s.world.db.estate) (hhost : host ∈ s.world.db.hosts) (hvm : vm ∈ t.world.db.vms)
    (howner : vm.hostId = host.id) : vm.clusterId = host.clusterId := by
  obtain ⟨owner, hmem, hon⟩ := hplaced vm hvm
  obtain ⟨found, hfound, hstation⟩ := host_of_stands (List.mem_map_of_mem hmem) hestate
  have hid : found.id = host.id :=
    ((congrArg Prod.fst hstation).trans hon.owner.symm).trans howner
  obtain rfl := Table.eq_of_mem_of_key s.consistent.keyed.hostIds hfound hhost hid
  exact hon.cluster.trans (congrArg (fun e => e.2.1) hstation).symm

/-- A row of the cluster is in the scope of each of its nodes. -/
lemma inScope_of_cluster (hplaced : s.world.db.Placed) (hvm : vm ∈ s.world.db.vms)
    (hcluster : vm.clusterId = some c) (hnode : host.clusterId = some c) :
    vm.InScope s.world.db host := by
  obtain ⟨owner, hmem, hon⟩ := hplaced vm hvm
  unfold Vm.InScope inventoryScopeHostIds
  rw [hnode]
  refine List.mem_map.mpr ⟨owner, List.mem_filter.mpr ⟨hmem, ?_⟩, hon.owner.symm⟩
  exact decide_eq_true (hon.cluster.symm.trans hcluster)

/-- What one snapshot does to the row of a VM of a cluster.

**Proof sketch.** A row that is lost stays lost, since its identifier is not drawn again. While it
is held, a snapshot of a node of the cluster lists the GUID, and its node takes the row
(`listed_kept`); or omits it, and the row goes if the node owns it (`omitted_gone`) and stays
otherwise (`bystander_kept`). A snapshot from elsewhere does not see the row. -/
theorem heldBy_step (hdrawn : RowsDrawn env s.world) (hplaced : s.world.db.Placed)
    (hguid : vm₀.vmUuid = some g) (h : HeldBy env c vm₀ s holder) (x : Snapshot) :
    HeldBy env c vm₀ (System.step env s x.event)
      (Holder.run holder (sighting env c g s x).toList) := by
  cases holder with
  | none =>
    have hlost : Holder.run none (sighting env c g s x).toList = none := by
      cases sighting env c g s x <;> rfl
    rw [hlost]
    exact withoutRow_step hdrawn h (.system x.event)
  | some node =>
    obtain ⟨vm, hvm, hidentity, rfl, hcluster⟩ := h
    have hvmguid : vm.vmUuid = some g :=
      (congrArg (fun e => e.2.1) hidentity).trans hguid
    rcases @snapshot_cases env s x with ⟨hvms, hnone⟩ | ⟨host, hhost, report, hrun, hsighting⟩
    · rw [hnone c g]
      exact ⟨vm, hvms ▸ hvm, hidentity, rfl, hcluster⟩
    let s' : Committed :=
      ⟨{ s.world with txStart := s.world.now - x.event.lag }, s.consistent⟩
    have howner : vm.hostId = host.id → vm.clusterId = host.clusterId := fun heq =>
      clusterId_of_owner (s := s) (t := s) hplaced rfl hhost hvm heq
    rw [hsighting c g]
    by_cases hnode : host.clusterId = some c
    · rw [if_pos hnode]
      by_cases hlisted : g ∈ listedGuids env report.items
      · -- the node that lists the VM takes the row over
        obtain ⟨v, hv, hvowner, hvidentity⟩ := listed_kept (s := s') hplaced hhost hrun hvm
          (inScope_of_cluster hplaced hvm hcluster hnode) hvmguid hlisted
        have hafter := clusterId_of_owner (t := System.step env s x.event)
          (placed_step hdrawn hplaced (.system x.event)) (estate_of_snapshot hdrawn x) hhost hv
          hvowner
        rw [decide_eq_true hlisted]
        exact ⟨v, hv, hvidentity.trans hidentity, hvowner, hafter.trans hnode⟩
      · rw [decide_eq_false hlisted]
        by_cases heq : host.id = vm.hostId
        · -- its owner omits it
          have hlost : Holder.run (some vm.hostId) (some (host.id, false)).toList = none := by
            simp [Machine.run, Holder.step, heq]
          rw [hlost]
          have hgone := omitted_gone (s := s') hplaced hhost hrun hvm heq.symm hvmguid hlisted
          have hid : vm.id = vm₀.id := congrArg Prod.fst hidentity
          refine ⟨?_, hid ▸ hgone⟩
          exact hid ▸ (hdrawn vm hvm).mono (nextId_le_step env s x.event)
        · have hstays : Holder.run (some vm.hostId) (some (host.id, false)).toList =
              some vm.hostId := by
            simp [Machine.run, Holder.step, heq]
          rw [hstays]
          refine ⟨vm, ?_, hidentity, rfl, hcluster⟩
          refine bystander_kept (s := s') hplaced hhost hrun hvm (Ne.symm heq) fun _ u hu => ?_
          rw [Option.mem_def, hvmguid] at hu
          exact Option.some.inj hu ▸ hlisted
    · -- a host outside the cluster
      rw [if_neg hnode]
      have hne : vm.hostId ≠ host.id := fun heq => hnode ((howner heq).symm.trans hcluster)
      refine ⟨vm, ?_, hidentity, rfl, hcluster⟩
      refine bystander_kept (s := s') hplaced hhost hrun hvm hne fun hscope => absurd ?_ hnode
      exact (cluster_of_inScope s.consistent hplaced hhost hvm hscope).symm.trans hcluster

end Row

/-! ## Runs of snapshots -/

section Runs

variable {c g : String} {vm₀ : Vm}

/-- What holds of every state of a run of snapshots. -/
lemma heldBy_run (hguid : vm₀.vmUuid = some g) (xs : List Snapshot) {s : Committed}
    {holder : Option String} (hdrawn : RowsDrawn env s.world) (hplaced : s.world.db.Placed)
    (h : HeldBy env c vm₀ s holder) :
    HeldBy env c vm₀ (consume env s xs) (Holder.run holder (sightings env c g s xs)) := by
  induction xs generalizing s holder with
  | nil => exact h
  | cons x xs ih =>
    rw [sightings, Holder.run, Machine.run_append]
    exact ih (rowsDrawn_step hdrawn (.system x.event)) (placed_step hdrawn hplaced (.system x.event))
      (heldBy_step hdrawn hplaced hguid h x)

/-- The row at the end of a run of snapshots is that of the node that holds the VM. -/
lemma row_iff_holder (s : Committed) (hs : Organization.Reachable env s)
    (hvm : vm₀ ∈ s.world.db.vms) (hguid : vm₀.vmUuid = some g) (hcluster : vm₀.clusterId = some c)
    (xs : List Snapshot) (node : String) :
    (∃ vm ∈ (consume env s xs).world.db.vms, vm.identity = vm₀.identity ∧ vm.hostId = node) ↔
      Holder.run (some vm₀.hostId) (sightings env c g s xs) = some node := by
  obtain ⟨hdrawn, hplaced⟩ := drawn_and_placed hs
  have hstart : HeldBy env c vm₀ s (some vm₀.hostId) := ⟨vm₀, hvm, rfl, rfl, hcluster⟩
  have hend := heldBy_run hguid xs hdrawn hplaced hstart
  rcases hholder : Holder.run (some vm₀.hostId) (sightings env c g s xs) with _ | p
  · rw [hholder] at hend
    refine iff_of_false ?_ (by simp)
    rintro ⟨vm, hvm, hidentity, -⟩
    exact hend.gone vm hvm (congrArg Prod.fst hidentity)
  · rw [hholder] at hend
    obtain ⟨vm, hvm, hidentity, howner, -⟩ := hend
    rw [Option.some.injEq]
    constructor
    · rintro ⟨v, hv, hvidentity, rfl⟩
      have hid : v.id = vm.id := congrArg Prod.fst (hvidentity.trans hidentity.symm)
      rw [Table.eq_of_mem_of_key (consume env s xs).consistent.keyed.vmIds hv hvm hid]
      exact howner.symm
    · rintro rfl
      exact ⟨vm, hvm, hidentity, howner⟩

/-- **The row of a VM follows the node that lists it last**: over every run of snapshots it stays,
with its key, its folder and its tags, exactly as long as no node of the cluster omits the VM while
it is the last one to have listed it; and it is owned by the last one that has. -/
theorem row_follows (s : Committed) (hs : Organization.Reachable env s) (hvm : vm₀ ∈ s.world.db.vms)
    (hguid : vm₀.vmUuid = some g) (hcluster : vm₀.clusterId = some c) (xs : List Snapshot)
    (node : String) :
    (∃ vm ∈ (consume env s xs).world.db.vms, vm.identity = vm₀.identity ∧ vm.hostId = node) ↔
      Holder.Kept vm₀.hostId (sightings env c g s xs) ∧
        Holder.lister vm₀.hostId (sightings env c g s xs) = node := by
  rw [row_iff_holder s hs hvm hguid hcluster xs node, Holder.run_eq_some_iff]

/-- What a run of two nodes says, in the order of each. -/
lemma merge_sightings {ofA ofB xs : List Snapshot} (h : Merge ofA ofB xs) (s : Committed) :
    ∃ as bs, Merge as bs (sightings env c g s xs) ∧
      as.Sublist (ofA.map fun x => (x.hostId, x.lists env g)) ∧
      bs.Sublist (ofB.map fun x => (x.hostId, x.lists env g)) := by
  have hreports : ∀ (s : Committed) (x : Snapshot), sighting env c g s x = none ∨
      sighting env c g s x = some (x.hostId, x.lists env g) := by
    intro s x
    unfold sighting
    split
    · exact Or.inr rfl
    · exact Or.inl rfl
  induction h generalizing s with
  | nil => exact ⟨[], [], Merge.nil, List.Sublist.refl _, List.Sublist.refl _⟩
  | @left x ofA ofB xs _ ih =>
    obtain ⟨as, bs, hmerge, hA, hB⟩ := ih (System.step env s x.event)
    rcases hreports s x with hnone | hsome
    · exact ⟨as, bs, by simpa [sightings, hnone] using hmerge, hA.cons _, hB⟩
    · exact ⟨_ :: as, bs, by simpa [sightings, hsome] using hmerge.left, hA.cons_cons _, hB⟩
  | @right x ofA ofB xs _ ih =>
    obtain ⟨as, bs, hmerge, hA, hB⟩ := ih (System.step env s x.event)
    rcases hreports s x with hnone | hsome
    · exact ⟨as, bs, by simpa [sightings, hnone] using hmerge, hA, hB.cons _⟩
    · exact ⟨as, _ :: bs, by simpa [sightings, hsome] using hmerge.right, hA, hB.cons_cons _⟩

/-- **The handover of a migrating VM**: its first node lists it for a while and then omits it, its
second node lists it. Whatever the order in which the snapshots of the two are consumed, the VM ends
on the second node with the key, the folder and the tags it had exactly when the first snapshot that
omits it is consumed right after one of the second node. -/
theorem row_handed_over_iff (s : Committed) (hs : Organization.Reachable env s)
    (hvm : vm₀ ∈ s.world.db.vms) (hguid : vm₀.vmUuid = some g) (hcluster : vm₀.clusterId = some c)
    (b : String) (hne : vm₀.hostId ≠ b) (ofA ofB xs : List Snapshot) (hmerge : Merge ofA ofB xs)
    (hA : ∀ x ∈ ofA, x.hostId = vm₀.hostId)
    (honce : ofA.Pairwise fun x y => x.lists env g = false → y.lists env g = false)
    (hB : ∀ x ∈ ofB, x.hostId = b ∧ x.lists env g = true)
    (hleft : (vm₀.hostId, false) ∈ sightings env c g s xs) :
    (∃ vm ∈ (consume env s xs).world.db.vms, vm.identity = vm₀.identity ∧ vm.hostId = b) ↔
      ∃ pre post, sightings env c g s xs = pre ++ (b, true) :: (vm₀.hostId, false) :: post ∧
        (vm₀.hostId, false) ∉ pre := by
  obtain ⟨as, bs, hreports, hsubA, hsubB⟩ := @merge_sightings env c g ofA ofB xs hmerge s
  rw [row_iff_holder s hs hvm hguid hcluster xs b]
  have has : ∀ x ∈ as, x.1 = vm₀.hostId := by
    intro x hx
    obtain ⟨y, hy, rfl⟩ := List.mem_map.mp (hsubA.subset hx)
    exact hA y hy
  have hbs : ∀ x ∈ bs, x = (b, true) := by
    intro x hx
    obtain ⟨y, hy, rfl⟩ := List.mem_map.mp (hsubB.subset hx)
    obtain ⟨hhost, hlists⟩ := hB y hy
    rw [hhost, hlists]
  refine Holder.run_handover_iff hne has hbs ?_ ?_ hreports
  · exact (List.pairwise_map.mpr honce).sublist hsubA
  · refine (hreports.mem_iff.mp hleft).resolve_right fun hin => ?_
    cases hbs _ hin

end Runs

/-! ## A migration -/

/-- The VM `"g"` is on the host `"h"`, which is in a cluster with the host `"xxxx"`. -/
@[irreducible] def Demo.twoNodes : Committed :=
  Organization.run Demo.settings Demo.start
    [.system (.vmInventory "h" (Demo.snapshot ["g"])),
      .operation (.createCluster Demo.user "cluster" "hyperv"),
      .operation (.moveHost Demo.user "h" (some "x")),
      .operation (.createHost Demo.user "other" (some "x") "hyperv" "r" true)]

/-- It migrates: the second node lists it, then the first one omits it. -/
def Demo.migration : List Snapshot := [⟨"xxxx", Demo.snapshot ["g"]⟩, ⟨"h", Demo.snapshot []⟩]

/-- Two nodes of a cluster can be reached. -/
lemma Demo.twoNodes_reachable : Organization.Reachable Demo.settings Demo.twoNodes := by
  unfold Demo.twoNodes
  exact ⟨Demo.start, _, Demo.start_initial, rfl⟩

/-- The first of them has the VM. -/
lemma Demo.twoNodes_row : ∃ vm ∈ Demo.twoNodes.world.db.vms, vm.id = "" ∧ vm.vmUuid = some "g" ∧
    vm.clusterId = some "x" ∧ vm.hostId = "h" := by
  unfold Demo.twoNodes
  decide +kernel

/-- The second lists it, and then the first omits it. -/
lemma Demo.migration_sightings : sightings Demo.settings "x" "g" Demo.twoNodes Demo.migration =
    [("xxxx", true), ("h", false)] := by
  unfold Demo.twoNodes
  decide +kernel

/-- The row follows to the second node. -/
theorem row_follows_migration : ∃ vm ∈ (consume Demo.settings Demo.twoNodes
    Demo.migration).world.db.vms, vm.id = "" ∧ vm.hostId = "xxxx" := by
  obtain ⟨vm₀, hvm, hid, hguid, hcluster, howner⟩ := Demo.twoNodes_row
  have hkept := (row_follows Demo.twoNodes Demo.twoNodes_reachable hvm hguid hcluster
    Demo.migration "xxxx").mpr
  rw [Demo.migration_sightings, howner] at hkept
  have hheld : Holder.run (some "h") [("xxxx", true), ("h", false)] = some "xxxx" := by decide
  obtain ⟨vm, hmem, hidentity, hnode⟩ := hkept (Holder.run_eq_some_iff.mp hheld)
  exact ⟨vm, hmem, (congrArg Prod.fst hidentity).trans hid, hnode⟩

/-- It is handed over. -/
theorem row_handed_over_iff_migration : ∃ vm ∈ (consume Demo.settings Demo.twoNodes
    Demo.migration).world.db.vms, vm.id = "" ∧ vm.hostId = "xxxx" := by
  obtain ⟨vm₀, hvm, hid, hguid, hcluster, howner⟩ := Demo.twoNodes_row
  have hover := (row_handed_over_iff Demo.twoNodes Demo.twoNodes_reachable hvm hguid hcluster
    "xxxx" (by rw [howner]; decide) [⟨"h", Demo.snapshot []⟩] [⟨"xxxx", Demo.snapshot ["g"]⟩]
    Demo.migration (Merge.right (Merge.left Merge.nil))
    (fun x hx => by rw [List.mem_singleton.mp hx, howner]) (List.pairwise_singleton _ _)
    (fun x hx => by rw [List.mem_singleton.mp hx]; decide +kernel)
    (by rw [Demo.migration_sightings, howner]; simp)).mpr
  rw [Demo.migration_sightings, howner] at hover
  obtain ⟨vm, hmem, hidentity, hnode⟩ := hover ⟨[], [], rfl, by simp⟩
  exact ⟨vm, hmem, (congrArg Prod.fst hidentity).trans hid, hnode⟩

end OpenVCenter
