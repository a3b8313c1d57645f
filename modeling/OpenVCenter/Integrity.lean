import OpenVCenter.Session

set_option relaxedAutoImplicit false
set_option autoImplicit false

/-!
# Keeping the constraints

How a consistent database stays consistent under the writes of the handlers: one lemma for each
table that is replaced, then one for each write.

## Main results

* `OpenVCenter.Db.Consistent.with_tasks`, `OpenVCenter.Db.Consistent.with_auditEvents`,
  `OpenVCenter.Db.Consistent.with_hosts`, `OpenVCenter.Db.Consistent.with_templates`,
  `OpenVCenter.Db.Consistent.with_vms` — a table is replaced by one that meets its constraints.
* `OpenVCenter.Db.Consistent.with_rows`, `OpenVCenter.Db.Consistent.storeVm`,
  `OpenVCenter.Db.Consistent.deleteVms` — updates in place, and a delete.
-/

namespace OpenVCenter

/-- What the keys and foreign keys of `vms` see of a row. -/
def Vm.keys (v : Vm) : String × Option String × String × Option String × Option String :=
  (v.id, v.vmUuid, v.hostId, v.clusterId, v.folderId)

/-- Rows have equal keys if the five columns are equal. -/
lemma keys_eq_iff {v x : Vm} : v.keys = x.keys ↔ v.id = x.id ∧ v.vmUuid = x.vmUuid ∧
    v.hostId = x.hostId ∧ v.clusterId = x.clusterId ∧ v.folderId = x.folderId := by
  simp [Vm.keys]

namespace Db

variable {db : Db}

namespace Consistent

variable (h : db.Consistent)

include h

/-- Each row of a VM fits its columns. -/
theorem vm_bindable {v : Vm} (hv : v ∈ db.vms) : v.bindable = true := (fits_iff.mp h.fits).2.2.1 v hv

/-- So does each task. -/
theorem task_bindable {t : Task} (ht : t ∈ db.tasks) : t.bindable = true :=
  (fits_iff.mp h.fits).2.2.2.2.1 t ht

/-- Each audit event. -/
theorem auditEvent_bindable {e : AuditEvent} (he : e ∈ db.auditEvents) : e.bindable = true :=
  (fits_iff.mp h.fits).2.2.2.2.2.1 e he

/-- Each template. -/
theorem template_bindable {t : Template} (ht : t ∈ db.templates) : t.bindable = true :=
  (fits_iff.mp h.fits).2.2.2.2.2.2.1 t ht

/-- Each host. -/
theorem host_bindable {x : Host} (hx : x ∈ db.hosts) : x.bindable = true :=
  (fits_iff.mp h.fits).2.1 x hx

/-! ## Rows by key -/

/-- A VM is found exactly if its row is there. -/
theorem vm_eq_some {id : String} {v : Vm} : db.vm id = some v ↔ v ∈ db.vms ∧ v.id = id :=
  Table.lookup_eq_some h.keyed.vmIds

/-- So is a task. -/
theorem task_eq_some {id : String} {t : Task} : db.task id = some t ↔ t ∈ db.tasks ∧ t.id = id :=
  Table.lookup_eq_some h.keyed.taskIds

/-- So is a host. -/
theorem host_eq_some {id : String} {x : Host} : db.host id = some x ↔ x ∈ db.hosts ∧ x.id = id :=
  Table.lookup_eq_some h.keyed.hostIds

/-- So is a template. -/
theorem template_eq_some {id : String} {t : Template} :
    db.template id = some t ↔ t ∈ db.templates ∧ t.id = id :=
  Table.lookup_eq_some h.keyed.templateIds

/-! ## Replacing a table -/

/-- The tasks are replaced. -/
theorem with_tasks {tasks : List Task} (ids : (tasks.map Task.id).Nodup)
    (hosts : ∀ t ∈ tasks, t.hostId ∈ db.hosts.map Host.id)
    (fit : ∀ t ∈ tasks, t.bindable = true) : { db with tasks := tasks }.Consistent where
  fits := by
    obtain ⟨a, b, c, d, -, f, g, i, j, k⟩ := fits_iff.mp h.fits
    exact fits_iff.mpr ⟨a, b, c, d, fit, f, g, i, j, k⟩
  keyed := { h.keyed with taskIds := ids, taskHost := hosts }

/-- The audit events are replaced. -/
theorem with_auditEvents {events : List AuditEvent} (ids : (events.map AuditEvent.id).Nodup)
    (fit : ∀ e ∈ events, e.bindable = true) : { db with auditEvents := events }.Consistent where
  fits := by
    obtain ⟨a, b, c, d, e, -, g, i, j, k⟩ := fits_iff.mp h.fits
    exact fits_iff.mpr ⟨a, b, c, d, e, fit, g, i, j, k⟩
  keyed := { h.keyed with auditIds := ids }

/-- The hosts are replaced by hosts of the same keys and clusters. -/
theorem with_hosts {hosts : List Host} (ids : hosts.map Host.id = db.hosts.map Host.id)
    (shortIds : hosts.map Host.shortId = db.hosts.map Host.shortId)
    (clusters : ∀ x ∈ hosts, ∀ c ∈ x.clusterId, c ∈ db.clusters.map Cluster.id)
    (fit : ∀ x ∈ hosts, x.bindable = true) : { db with hosts := hosts }.Consistent where
  fits := by
    obtain ⟨a, -, c, d, e, f, g, i, j, k⟩ := fits_iff.mp h.fits
    exact fits_iff.mpr ⟨a, fit, c, d, e, f, g, i, j, k⟩
  keyed := { h.keyed with
    hostIds := by simpa only [ids] using h.keyed.hostIds
    hostShortIds := by simpa only [shortIds] using h.keyed.hostShortIds
    hostCluster := clusters
    folderHost := by simpa only [ids] using h.keyed.folderHost
    vmHost := by simpa only [ids] using h.keyed.vmHost
    taskHost := by simpa only [ids] using h.keyed.taskHost
    templateHost := by simpa only [ids] using h.keyed.templateHost
    isoHost := by simpa only [ids] using h.keyed.isoHost
    hostMetricHost := by simpa only [ids] using h.keyed.hostMetricHost }

/-- The templates are replaced. -/
theorem with_templates {templates : List Template} (ids : (templates.map Template.id).Nodup)
    (hosts : ∀ t ∈ templates, t.hostId ∈ db.hosts.map Host.id)
    (fit : ∀ t ∈ templates, t.bindable = true) : { db with templates := templates }.Consistent where
  fits := by
    obtain ⟨a, b, c, d, e, f, -, i, j, k⟩ := fits_iff.mp h.fits
    exact fits_iff.mpr ⟨a, b, c, d, e, f, fit, i, j, k⟩
  keyed := { h.keyed with templateIds := ids, templateHost := hosts }

/-- The VMs, and their thumbnails and samples with them, are replaced. -/
theorem with_vms {vms : List Vm} {thumbnails : List VmThumbnail} {metrics : List VmMetric}
    (ids : (vms.map Vm.id).Nodup)
    (guids : vms.Pairwise fun a b => ¬ a.clash b)
    (hosts : ∀ v ∈ vms, v.hostId ∈ db.hosts.map Host.id)
    (clusters : ∀ v ∈ vms, ∀ c ∈ v.clusterId, c ∈ db.clusters.map Cluster.id)
    (folders : ∀ v ∈ vms, ∀ f ∈ v.folderId, f ∈ db.folders.map Folder.id)
    (fit : ∀ v ∈ vms, v.bindable = true)
    (images : thumbnails.Sublist db.thumbnails)
    (owners : ∀ t ∈ thumbnails, t.vmId ∈ vms.map Vm.id)
    (samples : metrics.Sublist db.vmMetrics)
    (sampled : ∀ m ∈ metrics, m.vmId ∈ vms.map Vm.id) :
    { db with vms := vms, thumbnails := thumbnails, vmMetrics := metrics }.Consistent where
  fits := by
    obtain ⟨a, b, -, d, e, f, g, i, j, k⟩ := fits_iff.mp h.fits
    exact fits_iff.mpr ⟨a, b, fit, fun t ht => d t (images.subset ht), e, f, g, i, j,
      fun m hm => k m (samples.subset hm)⟩
  keyed := { h.keyed with
    vmIds := ids, guids := guids, vmHost := hosts, vmCluster := clusters, vmFolder := folders
    thumbnailIds := h.keyed.thumbnailIds.sublist (images.map _)
    thumbnailVm := owners
    vmMetricVm := sampled }

/-! ## Writes -/

omit h in

/-- A row after a store is an old one or the one stored. -/
theorem mem_storeVm {v x : Vm} (hx : x ∈ (db.storeVm v).vms) : x ∈ db.vms ∨ x = v := by
  rcases Table.mem_store.mp hx with ⟨hx, -⟩ | ⟨rfl, -⟩
  · exact Or.inl hx
  · exact Or.inr rfl

omit h in

/-- So is a host. -/
theorem mem_storeHost {x y : Host} (hx : y ∈ (db.storeHost x).hosts) : y ∈ db.hosts ∨ y = x := by
  rcases Table.mem_store.mp hx with ⟨hy, -⟩ | ⟨rfl, -⟩
  · exact Or.inl hy
  · exact Or.inr rfl

/-- A host that keeps its short id and its cluster is updated: its values decide. -/
theorem storeHost_iff {x x₀ : Host} (hx : db.host x.id = some x₀)
    (shortId : x.shortId = x₀.shortId) (cluster : x.clusterId = x₀.clusterId) :
    (db.storeHost x).Consistent ↔ x.bindable = true := by
  obtain ⟨hmem, hid⟩ := h.host_eq_some.mp hx
  constructor
  · intro hc
    exact hc.host_bindable (Table.mem_store.mpr (Or.inr ⟨rfl, x₀, hmem, hid⟩))
  · intro fit
    refine h.with_hosts Table.map_key_store (Table.map_store fun y hy hyid => ?_) ?_ ?_
    · rw [Table.eq_of_mem_of_key h.keyed.hostIds hy hmem (hyid.trans hid.symm), shortId]
    · intro y hy
      rcases mem_storeHost hy with hy | rfl
      · exact h.keyed.hostCluster y hy
      · rw [cluster]; exact h.keyed.hostCluster x₀ hmem
    · intro y hy
      rcases mem_storeHost hy with hy | rfl
      · exact h.host_bindable hy
      · exact fit

/-- The rows of VMs are replaced by rows of the same keys, in the same places. -/
theorem with_rows {vms : List Vm} (keys : vms.map Vm.keys = db.vms.map Vm.keys)
    (fit : ∀ v ∈ vms, v.bindable = true) : { db with vms := vms }.Consistent := by
  have hids : vms.map Vm.id = db.vms.map Vm.id := by
    have h := congrArg (List.map Prod.fst) keys
    simp only [List.map_map] at h
    exact h
  have hold : ∀ v ∈ vms, ∃ x ∈ db.vms, x.keys = v.keys := fun v hv => by
    have hin : v.keys ∈ db.vms.map Vm.keys := keys ▸ List.mem_map_of_mem hv
    exact List.mem_map.mp hin
  have hguids : ∀ l : List Vm, (l.Pairwise fun a b => ¬ a.clash b) ↔
      (l.map Vm.keys).Pairwise fun a b =>
        ¬ (a.2.1.isSome ∧ a.2.1 = b.2.1 ∧ a.2.2.2.1 = b.2.2.2.1 ∧
          (a.2.2.2.1.isSome ∨ a.2.2.1 = b.2.2.1)) :=
    fun l => by rw [List.pairwise_map]; rfl
  refine h.with_vms ?_ ?_ ?_ ?_ ?_ fit (List.Sublist.refl _) ?_ (List.Sublist.refl _) ?_
  · rw [hids]
    exact h.keyed.vmIds
  · rw [hguids, keys, ← hguids]
    exact h.keyed.guids
  · intro v hv
    obtain ⟨x, hx, hkeys⟩ := hold v hv
    rw [← (keys_eq_iff.mp hkeys).2.2.1]
    exact h.keyed.vmHost x hx
  · intro v hv
    obtain ⟨x, hx, hkeys⟩ := hold v hv
    rw [← (keys_eq_iff.mp hkeys).2.2.2.1]
    exact h.keyed.vmCluster x hx
  · intro v hv
    obtain ⟨x, hx, hkeys⟩ := hold v hv
    rw [← (keys_eq_iff.mp hkeys).2.2.2.2]
    exact h.keyed.vmFolder x hx
  · rw [hids]
    exact h.keyed.thumbnailVm
  · rw [hids]
    exact h.keyed.vmMetricVm

/-- A VM row that keeps its GUID and its place is updated. -/
theorem storeVm {v v₀ : Vm} (hv : db.vm v.id = some v₀) (guid : v.vmUuid = v₀.vmUuid)
    (host : v.hostId = v₀.hostId) (cluster : v.clusterId = v₀.clusterId)
    (folder : v.folderId = v₀.folderId) (fit : v.bindable = true) :
    (db.storeVm v).Consistent := by
  obtain ⟨hmem, hid⟩ := h.vm_eq_some.mp hv
  refine h.with_rows (Table.map_store fun x hx hxid => ?_) fun x hx => ?_
  · rw [Table.eq_of_mem_of_key h.keyed.vmIds hx hmem (hxid.trans hid.symm)]
    exact keys_eq_iff.mpr ⟨hid.symm, guid, host, cluster, folder⟩
  · rcases mem_storeVm hx with hx | rfl
    · exact h.vm_bindable hx
    · exact fit

/-- VM rows are deleted. -/
theorem deleteVms (p : Vm → Bool) : (db.deleteVms p).Consistent := by
  have hsub := Table.deleteWhere_sublist p db.vms
  refine h.with_vms (h.keyed.vmIds.sublist (hsub.map _)) (h.keyed.guids.sublist hsub) ?_ ?_ ?_ ?_
    List.filter_sublist ?_ List.filter_sublist ?_
  · exact fun x hx => h.keyed.vmHost x (hsub.subset hx)
  · exact fun x hx => h.keyed.vmCluster x (hsub.subset hx)
  · exact fun x hx => h.keyed.vmFolder x (hsub.subset hx)
  · exact fun x hx => h.vm_bindable (hsub.subset hx)
  · intro t ht
    simpa using (List.mem_filter.mp ht).2
  · intro m hm
    simpa using (List.mem_filter.mp hm).2

/-- The removal of a VM keeps the constraints. -/
theorem deleteVm (id : String) : (db.deleteVm id).Consistent := h.deleteVms _

omit h in

/-- A task after a store is an old one or the one stored. -/
theorem mem_storeTask {t x : Task} (hx : x ∈ (db.storeTask t).tasks) : x ∈ db.tasks ∨ x = t := by
  rcases Table.mem_store.mp hx with ⟨hx, -⟩ | ⟨rfl, -⟩
  · exact Or.inl hx
  · exact Or.inr rfl

/-- A task of the same host is updated: its values decide. -/
theorem storeTask_iff {t t₀ : Task} (ht : db.task t.id = some t₀) (host : t.hostId = t₀.hostId) :
    (db.storeTask t).Consistent ↔ t.bindable = true := by
  obtain ⟨hmem, hid⟩ := h.task_eq_some.mp ht
  constructor
  · intro hc
    exact hc.task_bindable (Table.mem_store.mpr (Or.inr ⟨rfl, t₀, hmem, hid⟩))
  · intro fit
    refine h.with_tasks ?_ ?_ ?_
    · rw [Table.map_key_store]; exact h.keyed.taskIds
    · intro x hx
      rcases mem_storeTask hx with hx | rfl
      · exact h.keyed.taskHost x hx
      · rw [host]; exact h.keyed.taskHost t₀ hmem
    · intro x hx
      rcases mem_storeTask hx with hx | rfl
      · exact h.task_bindable hx
      · exact fit

end Consistent

end Db

end OpenVCenter
