import OpenVCenter.Integrity
import OpenVCenter.WorkerFrames

set_option relaxedAutoImplicit false
set_option autoImplicit false

/-!
# The rows of other hosts

What a message of one host leaves of the rows other hosts own: hosts, VMs, tasks, templates, ISO
images and samples. Every handler but that of responses keeps them, whatever the database and the
payload, as long as the reporting host is in no cluster.

## Main definitions

* `OpenVCenter.Db.otherRows` — the rows other hosts own.
* `OpenVCenter.OthersKept` — they are the same before and after.

## Main results

* `OpenVCenter.keeps_others_applyAgentStatus` and its like — the handlers that write one table.
* `OpenVCenter.applyVmInventory_others` — a snapshot of a standalone host.
-/

namespace OpenVCenter

open Effect

variable {env : Env} {hostId : String} {vmIds : List String}

/-! ## Other rows -/

/-- The rows owned by hosts other than one. -/
structure OtherRows where
  hosts : List Host
  vms : List Vm
  tasks : List Task
  templates : List Template
  isos : List Iso
  hostMetrics : List HostMetric
  vmMetrics : List VmMetric

/-- The rows owned by other hosts than `hostId`; the samples of VMs are those of `vmIds`. -/
def Db.otherRows (db : Db) (hostId : String) (vmIds : List String) : OtherRows where
  hosts := db.hosts.filter fun h => decide (h.id ≠ hostId)
  vms := db.vms.filter fun v => decide (v.hostId ≠ hostId)
  tasks := db.tasks.filter fun t => decide (t.hostId ≠ hostId)
  templates := db.templates.filter fun t => decide (t.hostId ≠ hostId)
  isos := db.isos.filter fun i => decide (i.hostId ≠ hostId)
  hostMetrics := db.hostMetrics.filter fun m => decide (m.hostId ≠ hostId)
  vmMetrics := db.vmMetrics.filter fun m => decide (m.vmId ∈ vmIds)

/-- The VMs of other hosts than `hostId`. -/
def Db.otherVmIds (db : Db) (hostId : String) : List String :=
  (db.vms.filter fun v => decide (v.hostId ≠ hostId)).map Vm.id

/-- The rows owned by other hosts than `hostId` are the same before and after. -/
def OthersKept (hostId : String) (before after : Db) : Prop :=
  after.otherRows hostId (before.otherVmIds hostId) =
    before.otherRows hostId (before.otherVmIds hostId)

/-- With distinct keys, a VM of the host is none of the others. -/
lemma id_not_mem_otherVmIds {db : Db} (hn : (db.vms.map Vm.id).Nodup) {v : Vm} (hv : v ∈ db.vms)
    (hhost : v.hostId = hostId) : v.id ∉ db.otherVmIds hostId := by
  intro hmem
  obtain ⟨u, hu, hid⟩ := List.mem_map.mp hmem
  obtain ⟨hu, hne⟩ := List.mem_filter.mp hu
  obtain rfl := Table.eq_of_mem_of_key hn hu hv hid
  exact absurd hhost (by simpa using hne)

/-! ## Writes of the host's own rows -/

/-- The frame of what leaves the rows of other hosts alone. -/
def othersFrame (hostId : String) (vmIds : List String) : Frame World :=
  Frame.same fun w => w.db.otherRows hostId vmIds

/-- The row of a host is its own. -/
lemma others_storeHost {db : Db} {host : Host} (h : host.id = hostId) :
    (db.storeHost host).otherRows hostId vmIds = db.otherRows hostId vmIds := by
  have hhosts : (Table.store Host.id host db.hosts).filter (fun h => decide (h.id ≠ hostId)) =
      db.hosts.filter fun h => decide (h.id ≠ hostId) :=
    Table.filter_store (by simp [h]) fun x _ hx => by simp [hx, h]
  simp only [Db.otherRows, Db.storeHost, hhosts]

/-- So is its task. -/
lemma others_storeTask {db : Db} {task task₀ : Task} (hn : (db.tasks.map Task.id).Nodup)
    (h₀ : db.task task.id = some task₀) (hhost₀ : task₀.hostId = hostId)
    (hhost : task.hostId = hostId) :
    (db.storeTask task).otherRows hostId vmIds = db.otherRows hostId vmIds := by
  have htasks : (Table.store Task.id task db.tasks).filter (fun t => decide (t.hostId ≠ hostId)) =
      db.tasks.filter fun t => decide (t.hostId ≠ hostId) :=
    Table.filter_store (by simp [hhost]) fun x hx hid => by
      obtain ⟨hmem, hid₀⟩ := (Table.lookup_eq_some hn).mp h₀
      obtain rfl := Table.eq_of_mem_of_key hn hx hmem (hid.trans hid₀.symm)
      simp [hhost₀]
  simp only [Db.otherRows, Db.storeTask, htasks]

/-- A VM row whose key is that of the host's own rows only. -/
lemma others_storeVm {db : Db} {vm : Vm} (hrows : ∀ x ∈ db.vms, x.id = vm.id → x.hostId = hostId)
    (hhost : vm.hostId = hostId) :
    (db.storeVm vm).otherRows hostId vmIds = db.otherRows hostId vmIds := by
  have hvms : (Table.store Vm.id vm db.vms).filter (fun v => decide (v.hostId ≠ hostId)) =
      db.vms.filter fun v => decide (v.hostId ≠ hostId) :=
    Table.filter_store (by simp [hhost]) fun x hx hid => by
      simp [hrows x hx hid]
  simp only [Db.otherRows, Db.storeVm, hvms]

/-- So is a VM that it adds. -/
lemma others_addVm {db : Db} {vm : Vm} (hhost : vm.hostId = hostId) :
    (db.addVm vm).otherRows hostId vmIds = db.otherRows hostId vmIds := by
  simp [Db.otherRows, Db.addVm, List.filter_append, hhost]

/-- A deleted VM that is the host's own takes no sample of another host along. -/
lemma others_deleteVm {db : Db} {id : String} (hc : db.Consistent)
    (hrows : ∀ x ∈ db.vms, x.id = id → x.hostId = hostId) (hid : id ∉ vmIds) :
    (db.deleteVm id).otherRows hostId vmIds = db.otherRows hostId vmIds := by
  have hvms : (Table.deleteWhere (fun v : Vm => decide (v.id = id)) db.vms).filter
      (fun v => decide (v.hostId ≠ hostId)) = db.vms.filter fun v => decide (v.hostId ≠ hostId) :=
    Table.filter_deleteWhere fun x hx hdel => by simp [hrows x hx (by simpa using hdel)]
  have hmetrics : (db.vmMetrics.filter fun m => decide
      (m.vmId ∈ (Table.deleteWhere (fun v : Vm => decide (v.id = id)) db.vms).map Vm.id)).filter
      (fun m => decide (m.vmId ∈ vmIds)) =
      db.vmMetrics.filter fun m => decide (m.vmId ∈ vmIds) := by
    rw [List.filter_filter]
    refine List.filter_congr fun m hm => ?_
    by_cases hvm : m.vmId ∈ vmIds
    · obtain ⟨v, hv, hvid⟩ := List.mem_map.mp (hc.keyed.vmMetricVm m hm)
      have hkept : m.vmId ∈
          (Table.deleteWhere (fun v : Vm => decide (v.id = id)) db.vms).map Vm.id := by
        rw [← hvid]
        refine List.mem_map_of_mem (Table.mem_deleteWhere.mpr ⟨hv, ?_⟩)
        have hne : v.id ≠ id := by
          rintro rfl
          exact hid (hvid ▸ hvm)
        simpa using hne
      simp [hvm, hkept]
    · simp [hvm]
  simp only [Db.otherRows, Db.deleteVm, Db.deleteVms, hvms, hmetrics]

/-! ## Messages that write one table -/

/-- A heartbeat writes the row of its host. -/
lemma keeps_others_applyAgentStatus (payload : Json) :
    Keeps (othersFrame hostId vmIds) (applyAgentStatus env hostId payload) :=
  keeps_applyAgentStatus (fun _ _ h => others_storeHost h) payload

/-- So does an inventory of the host. -/
lemma keeps_others_applyHostInventory (payload : Json) :
    Keeps (othersFrame hostId vmIds) (applyHostInventory env hostId payload) :=
  keeps_applyHostInventory (fun _ _ h _ => others_storeHost h) payload

/-- A report of templates writes rows of its host. -/
lemma keeps_others_applyTemplateInventory (payload : Json) :
    Keeps (othersFrame hostId vmIds) (applyTemplateInventory env hostId payload) := by
  refine keeps_applyTemplateInventory (fun _ _ _ => rfl) (fun w => ?_) (fun w row h => ?_) payload
  · have hdel : (Table.deleteWhere (fun t : Template => decide (t.hostId = hostId))
        w.db.templates).filter (fun t => decide (t.hostId ≠ hostId)) =
        w.db.templates.filter fun t => decide (t.hostId ≠ hostId) :=
      Table.filter_deleteWhere fun x _ hx => by simpa using hx
    simp only [othersFrame, Frame.same, Db.otherRows, hdel]
  · simp [othersFrame, Frame.same, Db.otherRows, List.filter_append, h]

/-- So does a report of images. -/
lemma keeps_others_applyIsoInventory (payload : Json) :
    Keeps (othersFrame hostId vmIds) (applyIsoInventory env hostId payload) := by
  refine keeps_applyIsoInventory (fun _ _ _ => rfl) (fun w => ?_) (fun w row h => ?_) payload
  · have hdel : (Table.deleteWhere (fun i : Iso => decide (i.hostId = hostId))
        w.db.isos).filter (fun i => decide (i.hostId ≠ hostId)) =
        w.db.isos.filter fun i => decide (i.hostId ≠ hostId) :=
      Table.filter_deleteWhere fun x _ hx => by simpa using hx
    simp only [othersFrame, Frame.same, Db.otherRows, hdel]
  · simp [othersFrame, Frame.same, Db.otherRows, List.filter_append, h]

/-- So do samples of the host. -/
lemma keeps_others_applyHostMetrics (payload : Json) :
    Keeps (othersFrame hostId vmIds) (applyHostMetrics env hostId payload) := by
  refine keeps_applyHostMetrics (fun w row h => ?_) (fun w cutoff => ?_) payload
  · simp [othersFrame, Frame.same, Db.otherRows, List.filter_append, h]
  · have hdel : (Table.deleteWhere (fun m : HostMetric =>
        decide (m.hostId = hostId ∧ m.ts < cutoff)) w.db.hostMetrics).filter
        (fun m => decide (m.hostId ≠ hostId)) =
        w.db.hostMetrics.filter fun m => decide (m.hostId ≠ hostId) :=
      Table.filter_deleteWhere fun x _ hx => by
        simp only [decide_eq_true_eq] at hx
        simp [hx.1]
    simp only [othersFrame, Frame.same, Db.otherRows, Db.pruneHostMetrics, hdel]

/-! ## Samples of VMs -/

/-- A sample of a VM is not of the others. -/
lemma others_addVmMetric {w : World} {row : VmMetric} (h : row.vmId ∉ vmIds) :
    { w.db with vmMetrics := w.db.vmMetrics ++ [row] }.otherRows hostId vmIds =
      w.db.otherRows hostId vmIds := by
  simp [Db.otherRows, List.filter_append, h]

/-- Old samples of the host's own VMs are deleted. -/
lemma others_pruneVmMetrics {db : Db} {cutoff : Time}
    (h : ∀ v ∈ db.vms, v.hostId = hostId → v.id ∉ vmIds) :
    (db.pruneVmMetrics hostId cutoff).otherRows hostId vmIds = db.otherRows hostId vmIds := by
  have hdel : (Table.deleteWhere (fun m : VmMetric => decide (m.ts < cutoff ∧
      m.vmId ∈ (db.vms.filter fun v => decide (v.hostId = hostId)).map Vm.id)) db.vmMetrics).filter
      (fun m => decide (m.vmId ∈ vmIds)) =
      db.vmMetrics.filter fun m => decide (m.vmId ∈ vmIds) :=
    Table.filter_deleteWhere fun x _ hx => by
      obtain ⟨-, hmem⟩ := of_decide_eq_true hx
      obtain ⟨v, hv, hid⟩ := List.mem_map.mp hmem
      obtain ⟨hv, hhost⟩ := List.mem_filter.mp hv
      have hout := h v hv (by simpa using hhost)
      rw [hid] at hout
      simp [hout]
  simp only [Db.otherRows, Db.pruneVmMetrics, hdel]

/-- The samples of the VMs of the host. -/
theorem applyVmMetrics_others {w : World} (payload : Json)
    (h : ∀ v ∈ w.db.vms, v.hostId = hostId → v.id ∉ vmIds) :
    (othersFrame hostId vmIds).rel w (applyVmMetrics env hostId payload w).2 := by
  let F : Frame World := Frame.same fun w => (w.db.vms, w.db.otherRows hostId vmIds)
  suffices hF : F.rel w (applyVmMetrics env hostId payload w).2 from (Prod.mk.inj hF).2
  unfold applyVmMetrics
  refine rel_bind (keeps_ofExcept _ _) fun d t ht _ => ?_
  obtain ⟨-, rfl⟩ := Prog.ofExcept_eq_ok.mp ht
  rw [Prog.read_bind_run]
  refine rel_bind (keeps_ofExcept _ _) fun items t' ht' _ => ?_
  obtain ⟨-, rfl⟩ := Prog.ofExcept_eq_ok.mp ht'
  refine rel_bind_from ?_ fun _ u _ hu => ?_
  · refine keeps_foldlM (fun _ raw _ => ?_) _ t'
    refine keeps_bind (keeps_ofExcept _) fun item => keeps_ofExcept_bind fun found hfound => ?_
    cases found with
    | none => exact keeps_pure _
    | some vmId =>
      obtain ⟨v, hv, hid, hhost⟩ := meteredVm_mem hfound
      refine keeps_ofExcept_bind fun row hrow => keeps_modify fun w => ?_
      have hout : row.vmId ∉ vmIds := by
        rw [vmMetric_vmId hrow, ← hid]
        exact h v hv hhost
      exact Prod.ext rfl (others_addVmMetric hout)
  · refine F.trans hu (rel_bind (keeps_flush u) fun _ t ht _ => ?_)
    obtain ⟨-, rfl⟩ := flush_eq_ok.mp ht
    have hvms : t.db.vms = t'.db.vms := (Prod.mk.inj hu).1
    refine Prod.ext rfl (others_pruneVmMetrics fun v hv hhost => ?_)
    rw [hvms] at hv
    exact h v hv hhost

/-! ## Snapshots

Nothing in the loops forces the identifier of a new row to be new. While no two rows share one,
the rows of others are as they were and no entry of `existing` is one of theirs. -/

section Snapshot

variable {db₀ : Db} {host : Host} {scan scan' : Scan} {w t : World}

/-- Unless two rows of `vms` share a key, the rows of others are those of `db₀`. -/
def KeptOthers (db₀ : Db) (hostId : String) (w : World) : Prop :=
  (w.db.vms.map Vm.id).Nodup →
    w.db.otherRows hostId (db₀.otherVmIds hostId) = db₀.otherRows hostId (db₀.otherVmIds hostId)

/-- A VM of another host has one of the keys of `db₀`. -/
lemma mem_otherVmIds_of_kept
    (h : w.db.otherRows hostId (db₀.otherVmIds hostId) =
      db₀.otherRows hostId (db₀.otherVmIds hostId)) {v : Vm} (hv : v ∈ w.db.vms)
    (hhost : v.hostId ≠ hostId) : v.id ∈ db₀.otherVmIds hostId := by
  have hvms := congrArg OtherRows.vms h
  have hmem : v ∈ w.db.vms.filter fun v => decide (v.hostId ≠ hostId) :=
    List.mem_filter.mpr ⟨hv, by simpa using hhost⟩
  rw [show w.db.vms.filter (fun v => decide (v.hostId ≠ hostId)) =
    db₀.vms.filter fun v => decide (v.hostId ≠ hostId) from hvms] at hmem
  exact List.mem_map_of_mem hmem

/-- A VM's row keeps its identifier, and is of the host that writes it. -/
lemma writeVmRow_id {now : Time} {isPartial : Bool} {raw item : Dict} {clusterId : Option String}
    {vm vm' : Vm} (h : writeVmRow env now isPartial raw item hostId clusterId vm = .ok vm') :
    vm'.id = vm.id ∧ vm'.hostId = hostId := by
  have hanchor := writeVmRow_anchor h
  simp only [Vm.anchor, Vm.setOwner, Prod.mk.injEq] at hanchor
  exact ⟨hanchor.1, hanchor.2.2.2.2.1⟩

/-- The VMs of other hosts are still there. -/
lemma other_of_kept
    (h : w.db.otherRows hostId (db₀.otherVmIds hostId) =
      db₀.otherRows hostId (db₀.otherVmIds hostId)) {id : String}
    (hid : id ∈ db₀.otherVmIds hostId) :
    ∃ v ∈ w.db.vms, v.id = id ∧ v.hostId ≠ hostId := by
  have hvms : w.db.vms.filter (fun v => decide (v.hostId ≠ hostId)) =
    db₀.vms.filter fun v => decide (v.hostId ≠ hostId) := congrArg OtherRows.vms h
  rw [Db.otherVmIds, ← hvms] at hid
  obtain ⟨v, hv, hvid⟩ := List.mem_map.mp hid
  obtain ⟨hmem, hne⟩ := List.mem_filter.mp hv
  exact ⟨v, hmem, hvid, by simpa using hne⟩

/-- One listed item. -/
lemma kept_writeListed {image : Option (List UInt8)} {raw item : Dict} {u : String}
    (hkept : KeptOthers db₀ host.id w)
    (hown : (w.db.vms.map Vm.id).Nodup → ∀ ref ∈ scan.existing, ref.2 ∉ db₀.otherVmIds host.id)
    (h : writeListed env host scan image raw item u w = (.ok scan', t))
    (hn : (t.db.vms.map Vm.id).Nodup) :
    t.db.otherRows host.id (db₀.otherVmIds host.id) =
      db₀.otherRows host.id (db₀.otherVmIds host.id) ∧
    ∀ ref ∈ scan'.existing, ref.2 ∉ db₀.otherVmIds host.id := by
  obtain ⟨vm, text, hwrite, -, rfl, rfl⟩ := writeListed_eq_ok.mp h
  obtain ⟨hid, hhost⟩ := writeVmRow_id hwrite
  simp only [Db.storeVm, Table.map_key_store] at hn
  unfold Scan.enter at hid hn ⊢
  rcases hfind : scan.find w.db u with _ | found
  · simp only [hfind] at hid hn ⊢
    simp only [Db.addVm, List.map_append, List.map_singleton] at hn
    obtain ⟨hn₀, -, hfresh⟩ := List.nodup_append.mp hn
    have hsame := hkept hn₀
    have hnew : env.uuid w.nextId ∉ w.db.vms.map Vm.id := fun hmem =>
      hfresh _ hmem _ (List.mem_singleton_self _) rfl
    refine ⟨?_, fun ref hr => ?_⟩
    · rw [others_storeVm (fun x hx hxid => ?_) hhost, others_addVm rfl, hsame]
      rcases List.mem_append.mp hx with hx | hx
      · exact absurd (hxid.trans hid ▸ List.mem_map_of_mem (f := Vm.id) hx) hnew
      · rw [List.mem_singleton.mp hx]
    · rcases mem_dictSet hr with hr | rfl
      · exact hown hn₀ ref hr
      · intro hmem
        obtain ⟨x, hx, hxid, -⟩ := other_of_kept hsame hmem
        exact hnew (List.mem_map.mpr ⟨x, hx, hxid⟩)
  · simp only [hfind] at hid hn ⊢
    have hsame := hkept hn
    obtain ⟨hentry, -⟩ := Scan.find_eq_some hfind
    refine ⟨?_, hown hn⟩
    rw [others_storeVm (fun x hx hxid => ?_) hhost, hsame]
    by_contra hne
    refine hown hn _ hentry ?_
    rw [← hid, ← hxid]
    exact mem_otherVmIds_of_kept hsame hx hne

/-- The loop over the items. -/
lemma kept_reconcileItems {tombstoned : String → Bool} {items : List Json}
    (h : items.foldlM (reconcileItem env host tombstoned) scan w = (.ok scan', t))
    (hkept : KeptOthers db₀ host.id w)
    (hown : ∀ ref ∈ scan.existing, ref.2 ∉ db₀.otherVmIds host.id) :
    KeptOthers db₀ host.id t := by
  have hstep := foldlM_ok_induct (I := fun scan w => (w.db.vms.map Vm.id).Nodup →
      w.db.otherRows host.id (db₀.otherVmIds host.id) =
        db₀.otherRows host.id (db₀.otherVmIds host.id) ∧
      ∀ ref ∈ scan.existing, ref.2 ∉ db₀.otherVmIds host.id) h
    (fun hn => ⟨hkept hn, hown⟩) ?_
  · exact fun hn => (hstep hn).1
  intro raw _ scan w scan' t hI hrun hn
  obtain ⟨image, d, item, key, -, hkey⟩ := reconcileItem_eq_ok.mp hrun
  cases key with
  | absent =>
    obtain ⟨rfl, rfl⟩ := hkey
    exact hI hn
  | unbindable =>
    obtain ⟨rfl, rfl⟩ := hkey
    exact hI hn
  | guid u =>
    dsimp only at hkey
    split at hkey
    · obtain ⟨rfl, rfl⟩ := hkey
      exact hI hn
    · exact kept_writeListed (fun hn => (hI hn).1) (fun hn => (hI hn).2) hkey hn

/-- The event of a removal, if any, leaves the VMs and the rows of others alone. -/
lemma removal_event {inFlight : Bool} {vm : Vm} (hc : w.db.Consistent)
    (h : (if inFlight then pure () else record env none "vm.inventory_remove" vm.ref none
      removalDetails : M Unit) w = (.ok (), t)) :
    t.db.Consistent ∧ t.db.vms = w.db.vms ∧
      t.db.otherRows hostId vmIds = w.db.otherRows hostId vmIds := by
  cases inFlight with
  | true =>
    cases h
    exact ⟨hc, rfl, rfl⟩
  | false =>
    rw [if_neg Bool.false_ne_true] at h
    have hsame : Keeps (Frame.same fun w => (w.db.vms, w.db.otherRows hostId vmIds))
        (record env none "vm.inventory_remove" vm.ref none removalDetails) :=
      keeps_record (fun _ _ _ => rfl) (fun _ _ => rfl) _ _ _ _ _
    have hsame := hsame w
    rw [h] at hsame
    exact ⟨(record_eq_ok h).1, (Prod.mk.inj hsame).1, (Prod.mk.inj hsame).2⟩

/-- One removal: the flush before it has found the keys distinct. -/
lemma kept_dropUnreported {seen : List String} {ref : String × String}
    (hkept : KeptOthers db₀ host.id w)
    (h : dropUnreported env host seen ref w = (.ok (), t)) : KeptOthers db₀ host.id t := by
  unfold dropUnreported at h
  rw [Prog.read_bind_run] at h
  rcases hvm : w.db.vm ref.2 with _ | vm
  · rw [hvm] at h
    cases h
    exact hkept
  rw [hvm] at h
  dsimp only at h
  split at h
  · rename_i hcond
    obtain ⟨⟨⟩, w₁, hflush, hbody⟩ := Prog.bind_eq_ok.mp h
    obtain ⟨hc, rfl⟩ := flush_eq_ok.mp hflush
    obtain ⟨⟨⟩, w₂, hrecord, hdelete⟩ := Prog.bind_eq_ok.mp hbody
    obtain ⟨hc₂, hvms, hrows⟩ := @removal_event env host.id (db₀.otherVmIds host.id) _ _ _ _ hc
      hrecord
    cases hdelete
    have hsame := hkept hc.keyed.vmIds
    obtain ⟨hmem, hid⟩ := hc.vm_eq_some.mp hvm
    have hown : ∀ x ∈ w₂.db.vms, x.id = vm.id → x.hostId = host.id := fun x hx hxid => by
      rw [hvms] at hx
      rw [Table.eq_of_mem_of_key hc.keyed.vmIds hx hmem hxid]
      exact hcond.1
    intro _
    refine (others_deleteVm hc₂ hown fun hout => ?_).trans (hrows.trans hsame)
    obtain ⟨x, hx, hxid, hne⟩ := other_of_kept hsame hout
    exact hne (hown x (hvms ▸ hx) hxid)
  · cases h
    exact hkept

/-- The handler of a snapshot of a standalone host, once it is committed.

**Proof sketch.** The scope of a standalone host is the host itself, so what is known at the start
are rows of its own (`hown`). Both loops keep the others as long as the keys are distinct, which
they are once the state is committed; the images behind them are of rows of the host. -/
theorem applyVmInventory_others {payload : Json} (hc : w.db.Consistent)
    (halone : ∀ host ∈ w.db.host hostId, host.clusterId = none)
    (h : applyVmInventory env hostId payload w = (.ok (), t)) (hct : t.db.Consistent) :
    OthersKept hostId w.db t.db := by
  unfold applyVmInventory at h
  rw [Prog.read_bind_run] at h
  rcases hhost : w.db.host hostId with _ | host
  · rw [hhost] at h
    cases h
    rfl
  obtain rfl : host.id = hostId := host_id_of_host hhost
  rw [hhost] at h
  obtain ⟨d, w₁, hd, hrest⟩ := Prog.bind_eq_ok.mp h
  obtain ⟨-, rfl⟩ := Prog.ofExcept_eq_ok.mp hd
  obtain ⟨items, w₂, hitems, hrest⟩ := Prog.bind_eq_ok.mp hrest
  obtain ⟨-, rfl⟩ := Prog.ofExcept_eq_ok.mp hitems
  obtain ⟨scan, w₃, hreconcile, hrest⟩ := Prog.bind_eq_ok.mp hrest
  unfold reconcile at hreconcile
  rw [Prog.read_bind_run] at hreconcile
  obtain ⟨scan', w₄, hloop, hreconcile⟩ := Prog.bind_eq_ok.mp hreconcile
  obtain ⟨⟨⟩, w₅, hdrop, hreconcile⟩ := Prog.bind_eq_ok.mp hreconcile
  cases hreconcile
  have hown : ∀ ref ∈ existingVms w₂.db (inventoryScopeHostIds w₂.db host),
      ref.2 ∉ w₂.db.otherVmIds host.id := by
    intro ref href
    obtain ⟨v, hv, hscope, -, hid⟩ := mem_existingVms href
    have hhome : v.hostId = host.id := by
      simpa [inventoryScopeHostIds, halone host hhost] using hscope
    rw [← hid]
    exact id_not_mem_otherVmIds hc.keyed.vmIds hv hhome
  have hkept₄ : KeptOthers w₂.db host.id w₄ := kept_reconcileItems hloop (fun _ => rfl) hown
  have hkept₅ : KeptOthers w₂.db host.id w₅ :=
    foldlM_ok_induct (I := fun _ w => KeptOthers w₂.db host.id w) hdrop hkept₄
      fun ref _ _ w _ t hI hrun => kept_dropUnreported hI hrun
  have hend : t.db.vms = w₅.db.vms ∧
      t.db.otherRows host.id (w₂.db.otherVmIds host.id) =
        w₅.db.otherRows host.id (w₂.db.otherVmIds host.id) := by
    split at hrest
    · cases hrest
      exact ⟨rfl, rfl⟩
    · obtain ⟨⟨⟩, w₇, hflush, hthumbs⟩ := Prog.bind_eq_ok.mp hrest
      obtain ⟨-, rfl⟩ := flush_eq_ok.mp hflush
      rw [modifyDb, Prog.modify_bind_run] at hthumbs
      obtain ⟨-, rfl⟩ := flush_eq_ok.mp hthumbs
      exact ⟨rfl, rfl⟩
  refine hend.2.trans (hkept₅ ?_)
  rw [← hend.1]
  exact hct.keyed.vmIds

end Snapshot

end OpenVCenter
