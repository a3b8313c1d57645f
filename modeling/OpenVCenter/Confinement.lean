import OpenVCenter.Access

set_option relaxedAutoImplicit false
set_option autoImplicit false

/-!
# VMs the callers do not see

A request reaches the VM it names, the VMs of a host that moves, or those of a folder that goes. The
checks of the routes keep all three to VMs the caller sees.

## Main definitions

* `OpenVCenter.World.vmTraces` — all that the database and the cache hold of a VM.
* `OpenVCenter.World.Spared` — nothing of it was touched, but for entries of the cache that were due.

## Main results

* `OpenVCenter.spare_event` — a permitted request spares a VM its caller does not see.
* `OpenVCenter.confined` — **requests of callers who do not see a VM leave no trace on it**, in any
  number and any order, and do not change who sees it.
-/

namespace OpenVCenter

open Effect

variable {env : Env} {k : String} {w t : World}

/-! ## What is held of a VM -/

/-- The rows of a VM: its own, that of its folder, its thumbnail, its samples and its tasks. -/
structure VmRows where
  row : Option Vm
  folder : Option Folder
  thumbnails : List VmThumbnail
  samples : List VmMetric
  tasks : List Task

/-- The task is one of the VM. -/
def Task.IsOf (task : Task) (k : String) : Prop := task.targetType = .vm ∧ task.targetId = k

/-- Whether a task is one of the VM can be decided. -/
instance (task : Task) (k : String) : Decidable (task.IsOf k) := inferInstanceAs (Decidable (_ ∧ _))

/-- The rows of the VM `k`. -/
def Db.vmRows (db : Db) (k : String) : VmRows where
  row := db.vm k
  folder := ((db.vm k).bind Vm.folderId).bind db.folder
  thumbnails := db.thumbnails.filter fun x => decide (x.vmId = k)
  samples := db.vmMetrics.filter fun x => decide (x.vmId = k)
  tasks := db.tasks.filter fun x => decide (x.IsOf k)

/-- The rows of a VM, its overlay and its lock. -/
structure VmTraces where
  rows : VmRows
  state : Option (Expiring.Entry Time String)
  lock : Option (Expiring.Entry Time Lock)

/-- What is held of the VM `k`. -/
def World.vmTraces (w : World) (k : String) : VmTraces where
  rows := w.db.vmRows k
  state := w.cache.vmStates k
  lock := w.cache.vmLocks k

/-- The rows of the VM are as they were, and its entries of the cache too, unless they were due. -/
structure World.Spared (w t : World) (k : String) : Prop where
  now_le : w.now ≤ t.now
  rows : t.db.vmRows k = w.db.vmRows k
  state : Expiring.Aged t.now (w.cache.vmStates k) (t.cache.vmStates k)
  lock : Expiring.Aged t.now (w.cache.vmLocks k) (t.cache.vmLocks k)

/-- The VM is a row under a drawn identifier, and its folder is there. -/
structure Stands (env : Env) (k : String) (w : World) : Prop where
  drawn : Drawn env w k
  row : ∃ vm, w.db.vm k = some vm ∧ ∀ f ∈ vm.folderId, ∃ folder, w.db.folder f = some folder

/-- The frame of what leaves a VM that stands alone. -/
def spareFrame (env : Env) (k : String) : Frame World :=
  Frame.under (Stands env k) (Frame.same fun w => (w.now, w.vmTraces k))

/-! ## Writes -/

section Writes

/-- What is stored of a VM depends on its row, its folder, its images, its samples and its tasks
only. -/
lemma vmRows_congr {db db' : Db} (hrow : db'.vm k = db.vm k)
    (hfolder : ∀ vm, db.vm k = some vm → ∀ f ∈ vm.folderId, db'.folder f = db.folder f)
    (hthumbnails : (db'.thumbnails.filter fun x => decide (x.vmId = k)) =
      db.thumbnails.filter fun x => decide (x.vmId = k))
    (hsamples : (db'.vmMetrics.filter fun x => decide (x.vmId = k)) =
      db.vmMetrics.filter fun x => decide (x.vmId = k))
    (htasks : (db'.tasks.filter fun x => decide (x.IsOf k)) =
      db.tasks.filter fun x => decide (x.IsOf k)) : db'.vmRows k = db.vmRows k := by
  unfold Db.vmRows
  rw [hrow, hthumbnails, hsamples, htasks]
  rcases hvm : db.vm k with _ | vm
  · rfl
  · rcases hf : vm.folderId with _ | f
    · simp [hf]
    · simp [hf, hfolder vm hvm f hf]

/-- A write is in the frame when the traces of a VM that stands are the same. -/
lemma spare_of (hnow : t.now = w.now) (hnext : w.nextId ≤ t.nextId)
    (hrows : Stands env k w → t.db.vmRows k = w.db.vmRows k)
    (hstate : t.cache.vmStates k = w.cache.vmStates k)
    (hlock : t.cache.vmLocks k = w.cache.vmLocks k) : (spareFrame env k).rel w t := by
  intro hstands
  have hsame := hrows hstands
  refine ⟨⟨hstands.drawn.mono hnext, ?_⟩, ?_⟩
  · obtain ⟨vm, hvm, hfolder⟩ := hstands.row
    have hrow : t.db.vm k = w.db.vm k := congrArg VmRows.row hsame
    refine ⟨vm, hrow.trans hvm, fun f hf => ?_⟩
    have hfound : ((t.db.vm k).bind Vm.folderId).bind t.db.folder =
      ((w.db.vm k).bind Vm.folderId).bind w.db.folder := congrArg VmRows.folder hsame
    rw [hrow, hvm] at hfound
    simp only [Option.bind_some, Option.mem_def.mp hf] at hfound
    rw [hfound]
    exact hfolder f hf
  · show (t.now, t.vmTraces k) = (w.now, w.vmTraces k)
    unfold World.vmTraces
    rw [hnow, hsame, hstate, hlock]

/-- A write of the database. -/
lemma spare_db {db : Db} (h : Stands env k w → db.vmRows k = w.db.vmRows k) :
    (spareFrame env k).rel w { w with db := db } := spare_of rfl le_rfl h rfl rfl

/-- Drawing identifiers touches nothing of another VM. -/
lemma spare_nextId (w : World) (n : ℕ) (h : w.nextId ≤ n) :
    (spareFrame env k).rel w { w with nextId := n } := spare_of rfl h (fun _ => rfl) rfl rfl

/-- A publication touches nothing of another VM. -/
lemma spare_published (w : World) (p : List (String × AgentRequest)) :
    (spareFrame env k).rel w { w with published := p } :=
  spare_of rfl le_rfl (fun _ => rfl) rfl rfl

/-- Audit events touch nothing of a VM. -/
lemma spare_events (w : World) (es : List AuditEvent) :
    (spareFrame env k).rel w { w with db := { w.db with auditEvents := es } } :=
  spare_db fun _ => rfl

/-- Neither does `record`. -/
lemma spare_record (actor : Option User) (action : String) (target : TargetRef)
    (task : Option Task) (details : Json) :
    Keeps (spareFrame env k) (record env actor action target task details) :=
  keeps_record spare_nextId spare_events _ _ _ _ _

/-- A change of the cache touches nothing of a VM whose state and lock it keeps. -/
lemma spare_cache {c : Cache} (hstate : c.vmStates k = w.cache.vmStates k)
    (hlock : c.vmLocks k = w.cache.vmLocks k) :
    (spareFrame env k).rel w { w with cache := c } :=
  spare_of rfl le_rfl (fun _ => rfl) hstate hlock

/-- Storing the row of another VM touches nothing of this one. -/
lemma spare_storeVm {vm : Vm} (h : vm.id ≠ k) :
    (spareFrame env k).rel w { w with db := w.db.storeVm vm } :=
  spare_db fun _ => vmRows_congr (Table.lookup_store_of_ne h.symm) (fun _ _ _ _ => rfl) rfl rfl rfl

/-- Nor does adding the row of another VM. -/
lemma spare_addVm {vm : Vm} (h : vm.id ≠ k) :
    (spareFrame env k).rel w { w with db := w.db.addVm vm } :=
  spare_db fun _ => vmRows_congr (Table.lookup_append_of_ne h) (fun _ _ _ _ => rfl) rfl rfl rfl

/-- Nor does adding a task that is not of this VM. -/
lemma spare_addTask {task : Task} (h : ¬ task.IsOf k) :
    (spareFrame env k).rel w { w with db := w.db.addTask task } := by
  refine spare_db fun _ => vmRows_congr rfl (fun _ _ _ _ => rfl) rfl rfl ?_
  show (w.db.tasks ++ [task]).filter _ = _
  simp [h]

/-- A task that is written again is none of the VM. -/
lemma spare_storeTask {task added : Task} (hn : (w.db.tasks.map Task.id).Nodup)
    (h : ¬ task.IsOf k) (hadded : added ∈ w.db.tasks) (hid : added.id = task.id)
    (hnot : ¬ added.IsOf k) : (spareFrame env k).rel w { w with db := w.db.storeTask task } := by
  refine spare_db fun _ => vmRows_congr rfl (fun _ _ _ _ => rfl) rfl rfl ?_
  refine Table.filter_store (decide_eq_false h) fun x hx hkey => ?_
  rw [Table.eq_of_mem_of_key hn hx hadded (hkey.trans hid.symm)]
  exact decide_eq_false hnot

/-- A VM that goes takes its own thumbnail and samples with it. -/
lemma spare_deleteVm {id : String} (h : id ≠ k) :
    (spareFrame env k).rel w { w with db := w.db.deleteVm id } := by
  refine spare_db fun hstands => ?_
  have hrow : (w.db.deleteVm id).vm k = w.db.vm k :=
    Table.lookup_deleteWhere fun x _ hx => decide_eq_false fun hid => h (hid.symm.trans hx)
  obtain ⟨vm, hvm, -⟩ := hstands.row
  have hmem : k ∈ (Table.deleteWhere (fun v => decide (v.id = id)) w.db.vms).map Vm.id := by
    have hfound : (w.db.deleteVm id).vm k = some vm := hrow.trans hvm
    exact List.mem_map.mpr ⟨vm, Table.mem_of_lookup hfound, Table.key_of_lookup hfound⟩
  refine vmRows_congr hrow (fun _ _ _ _ => rfl) ?_ ?_ rfl
  · show (w.db.thumbnails.filter _).filter _ = _
    rw [List.filter_filter]
    refine List.filter_congr fun x _ => ?_
    by_cases hx : x.vmId = k
    · simp only [hx, hmem, decide_true, Bool.and_self]
    · simp [hx]
  · show (w.db.vmMetrics.filter _).filter _ = _
    rw [List.filter_filter]
    refine List.filter_congr fun x _ => ?_
    by_cases hx : x.vmId = k
    · simp only [hx, hmem, decide_true, Bool.and_self]
    · simp [hx]

/-- Folders that go, but for that of the VM. -/
lemma spare_deleteFolders {p : Folder → Bool} (h : ∀ vm, w.db.vm k = some vm →
      ∀ folder ∈ w.db.folders, vm.folderId = some folder.id → p folder = false) :
    (spareFrame env k).rel w { w with db := w.db.deleteFolders p } := by
  refine spare_db fun hstands => ?_
  obtain ⟨vm, hvm, -⟩ := hstands.row
  refine vmRows_congr ?_ (fun vm hvm f hf => ?_) rfl rfl rfl
  · refine (Table.lookup_map ?_).trans ?_
    · exact fun _ => rfl
    show (w.db.vm k).map _ = _
    rw [hvm, Option.map_some]
    rcases hf : vm.folderId with _ | f
    · congr 1
      cases vm
      cases hf
      rfl
    · have hstays : (w.db.folders.any fun folder => decide (folder.id = f) && p folder) = false := by
        simp only [List.any_eq_false, Bool.and_eq_true, decide_eq_true_eq, not_and,
          Bool.not_eq_true]
        exact fun folder hfolder hid => h vm hvm folder hfolder (hid ▸ hf)
      simp only [Option.filter_some, hstays, Bool.not_false, if_true]
      congr 1
      cases vm
      cases hf
      rfl
  · refine Table.lookup_deleteWhere fun folder hfolder hid => ?_
    exact h vm hvm folder hfolder (hid ▸ hf)

/-- A host that moves, but for that of the VM, and not into a folder of its own. -/
lemma spare_moveHost {host : Host} {clusterId : Option String}
    (howner : ∀ vm, w.db.vm k = some vm → vm.hostId ≠ host.id)
    (hfolder : ∀ vm, w.db.vm k = some vm →
      ∀ folder ∈ w.db.folders, vm.folderId = some folder.id → folder.hostId ≠ some host.id) :
    (spareFrame env k).rel w { w with db := w.db.moveHost host clusterId } := by
  set moved : Db := { w.db.storeHost { host with clusterId := clusterId } with
    vms := Table.updateWhere (fun v => decide (v.hostId = host.id))
      (fun v => { v with clusterId := clusterId, folderId := none }) w.db.vms } with hmoved
  have hrow : Stands env k w → moved.vm k = w.db.vm k := by
    rintro ⟨-, vm, hvm, -⟩
    refine (Table.lookup_map fun v => ?_).trans ?_
    · split <;> rfl
    show (w.db.vm k).map _ = _
    rw [hvm, Option.map_some, if_neg (by simpa using howner vm hvm)]
  have hfirst : (spareFrame env k).rel w { w with db := moved } :=
    spare_db fun hstands => vmRows_congr (hrow hstands) (fun _ _ _ _ => rfl) rfl rfl rfl
  intro hstands
  refine (spareFrame env k).trans hfirst (spare_deleteFolders fun vm hvm folder hmem hf => ?_) hstands
  exact decide_eq_false (hfolder vm ((hrow hstands).symm.trans hvm) folder hmem hf)

/-- A rollback of what spares a VM spares it. -/
lemma spare_rollback (h : (spareFrame env k).rel w t) :
    (spareFrame env k).rel w (rollback w t) := by
  intro hstands
  obtain ⟨hafter, hsame⟩ := h hstands
  obtain ⟨hnow, htraces⟩ := Prod.mk.inj hsame
  refine ⟨⟨hafter.drawn, hstands.row⟩, Prod.ext hnow ?_⟩
  show (rollback w t).vmTraces k = w.vmTraces k
  unfold World.vmTraces
  exact congrArg₂ (VmTraces.mk (w.db.vmRows k)) (congrArg VmTraces.state htraces)
    (congrArg VmTraces.lock htraces)

end Writes

/-! ## Requests on another VM -/

section Vms

variable {vm : Vm} (h : vm.id ≠ k)

include h

/-- The overlay of another VM is its own. -/
lemma spare_setVmState (state : Json) : Keeps (spareFrame env k) (setVmState env vm.id state) := by
  refine keeps_bind (keeps_ofOption _) fun text => keeps_bind keeps_read fun w => ?_
  exact keeps_modify fun w => spare_cache (Expiring.put_of_ne h.symm) rfl

/-- The lock of another VM is its own. -/
lemma spare_acquireVmLock (taskId : String) (kind : TaskKind) (requestedBy : String) :
    Keeps (spareFrame env k) (acquireVmLock env vm.id taskId kind requestedBy) := by
  refine keeps_bind keeps_read fun w => ?_
  split
  · exact keeps_pure _
  · refine keeps_bind (keeps_modify fun w => ?_) fun _ => keeps_pure _
    exact spare_cache rfl (Expiring.put_of_ne h.symm)

/-- The cleanup after a failure releases the lock of the other VM only. -/
lemma spare_releasingOnRaise {α : Type} {taskId : String} {lock : Bool} {m : M α}
    (hm : Keeps (spareFrame env k) m) :
    Keeps (spareFrame env k) (releasingOnRaise vm.id taskId lock m) := by
  intro w
  have hrel := hm w
  rw [releasingOnRaise_answered]
  rcases hrun : m w with ⟨e | a, t⟩
  · rw [hrun] at hrel
    dsimp only
    split
    · refine (spareFrame env k).trans hrel (spare_cache ?_ ?_)
      · rw [releaseLock_vmStates]
      · rw [releaseVmLock_locks, if_neg fun hfree => h hfree.1.symm]
    · exact hrel
  · rwa [hrun] at hrel

/-- The guarded part of a request. The task is written again only after a flush, so that no other
row has its key. -/
lemma spare_addVmTask (host : Host) (vmUuid taskId : String) (kind : TaskKind) (params : Dict)
    (requestedBy : String) (transitional : Option String) : Keeps (spareFrame env k)
      (addVmTask env vm host vmUuid taskId kind params requestedBy transitional) := by
  intro w
  rw [addVmTask_answered]
  rw [Prog.read_bind_run, modifyDb, Prog.modify_bind_run]
  set added := vmTask taskId kind vm requestedBy w.txStart with hadded
  have hnot : ¬ added.IsOf k := fun hof => h hof.2
  refine (spareFrame env k).trans (spare_addTask hnot) ?_
  have hmem : added ∈ (w.db.addTask added).tasks :=
    List.mem_append_right _ (List.mem_singleton_self _)
  generalize hw₁ : ({ w with db := w.db.addTask added } : World) = w₁
  have hmem₁ : added ∈ w₁.db.tasks := by rw [← hw₁]; exact hmem
  refine rel_bind ?_ fun _ w₂ h₂ _ => rel_bind (keeps_flush w₂) fun _ w₃ h₃ _ => ?_
  · split
    · refine keeps_modify (fun w => spare_storeVm ?_) w₁
      exact h
    · exact keeps_pure _ w₁
  obtain ⟨hconsistent, rfl⟩ := flush_eq_ok.mp h₃
  have hmem₃ : added ∈ w₃.db.tasks := by
    cases transitional with
    | none => cases h₂; exact hmem₁
    | some state => cases h₂; exact hmem₁
  refine rel_bind ?_ fun _ w₄ h₄ _ => ?_
  · split
    · exact spare_setVmState h _ w₃
    · exact keeps_pure _ w₃
  have hdb : w₄.db = w₃.db := by
    cases transitional with
    | none => cases h₄; rfl
    | some state => exact setVmState_db h₄
  refine rel_bind ?_ fun _ w₅ _ _ => ?_
  · show (spareFrame env k).rel w₄ { w₄ with db := w₄.db.storeTask _ }
    rw [← hdb] at hconsistent hmem₃
    exact spare_storeTask hconsistent.keyed.taskIds (fun hof => h hof.2) hmem₃ rfl hnot
  · exact keeps_bind (keeps_publishRequest spare_published _ _) (fun _ => keeps_pure _) w₅

/-- A task queued for another VM. -/
lemma spare_queueVmTask (kind : TaskKind) (params : Dict) (requestedBy : String)
    (transitional : Option String) (lock : Bool) : Keeps (spareFrame env k)
      (queueVmTask env vm kind params requestedBy transitional lock) := by
  rw [queueVmTask_answered]
  split
  · exact keeps_raise _
  · refine keeps_bind keeps_read fun w => keeps_bind (keeps_ofOption _) fun host => ?_
    refine keeps_bind (keeps_of_state (requireHostOnline_state host)) fun _ => ?_
    refine keeps_bind (keeps_newId spare_nextId) fun taskId => keeps_bind ?_ fun taken => ?_
    · split
      · exact spare_acquireVmLock h _ _ _
      · exact keeps_pure _
    · split
      · exact spare_releasingOnRaise h (spare_addVmTask h _ _ _ _ _ _ _)
      · exact keeps_bind keeps_read fun _ => keeps_raise _

/-- An action on another VM. -/
lemma spare_requestVmAction (action : VmAction) (requestedBy : String) (params : Dict) :
    Keeps (spareFrame env k) (requestVmAction env vm action requestedBy params) := by
  rw [requestVmAction_answered]
  split
  · exact keeps_raise _
  · refine keeps_bind ?_ fun _ => spare_queueVmTask h _ _ _ _ _
    split
    · refine keeps_bind (keeps_ofExcept _) fun dest => ?_
      split
      · exact keeps_raise _
      · refine keeps_bind keeps_read fun w => keeps_bind (keeps_ofOption _) fun host => ?_
        exact keeps_of_state (requireVmStorageAllowed_state host _)
    · exact keeps_pure _

/-- The removal of another VM. -/
lemma spare_removeVmFromInventory :
    Keeps (spareFrame env k) (removeVmFromInventory env vm) := by
  refine keeps_bind keeps_read fun w => keeps_bind ?_ fun _ => ?_
  · split
    · split
      · exact keeps_raise _
      · exact keeps_pure _
    · exact keeps_pure _
  · refine keeps_bind (keeps_modify fun w => ?_) fun _ => keeps_bind (keeps_modify fun w => ?_) ?_
    · exact spare_cache rfl (Expiring.erase_of_ne h.symm)
    · exact spare_cache (Expiring.erase_of_ne h.symm) rfl
    · exact fun _ => keeps_bind (keeps_modify fun w => spare_deleteVm h) fun _ => keeps_flush

/-- Another VM moves to a folder. -/
lemma spare_moveVmToFolder (folderId : Option String) :
    Keeps (spareFrame env k) (moveVmToFolder vm folderId) := by
  unfold moveVmToFolder
  rcases folderId with _ | f
  · exact keeps_bind (keeps_modify fun w => spare_storeVm h) fun _ => keeps_flush
  · refine keeps_bind keeps_read fun w => keeps_bind (keeps_ofOption _) fun folder => ?_
    refine keeps_bind (keeps_ofOption _) fun host => keeps_bind (keeps_ofExcept _) fun _ => ?_
    exact keeps_bind (keeps_modify fun w => spare_storeVm h) fun _ => keeps_flush

end Vms

/-- The VM a route finds has the identifier it was asked for. -/
lemma spare_getVm_bind {vmId : String} {f : Vm → M Unit} (h : vmId ≠ k)
    (hf : ∀ vm : Vm, vm.id ≠ k → Keeps (spareFrame env k) (f vm)) :
    Keeps (spareFrame env k) (getVm vmId >>= f) := by
  intro w
  refine rel_bind (keeps_bind keeps_read (fun w => keeps_ofOption _) w) fun vm t ht _ => ?_
  rcases hvm : w.db.vm vmId with _ | found
  · rw [getVm, Prog.read_bind_run, hvm] at ht
    cases ht
  · rw [getVm, Prog.read_bind_run, hvm] at ht
    cases ht
    exact hf vm (fun hid => h ((Table.key_of_lookup hvm).symm.trans hid)) w

/-! ## New VMs -/

/-- A placeholder is under an identifier that was not drawn before. -/
lemma spare_provision (host : Host) (kind : TaskKind) {vm : String → Vm} (params : Vm → Dict)
    (requestedBy : String) (hid : ∀ id, (vm id).id = id) :
    Keeps (spareFrame env k) (provision env host kind vm params requestedBy) := by
  intro w hstands
  have hne : (vm (env.uuid w.nextId)).id ≠ k := by
    rw [hid]
    exact fun heq => not_drawn_next env w (heq ▸ hstands.drawn)
  refine rel_bind (F := spareFrame env k) (keeps_newId spare_nextId w) (fun vmId w₁ h₁ _ => ?_)
    hstands
  cases h₁
  have hrest : Keeps (spareFrame env k) (do
      modifyDb fun db => db.addVm (vm (env.uuid w.nextId))
      flush
      let taskId ← newId env
      let _ ← acquireVmLock env (vm (env.uuid w.nextId)).id taskId kind requestedBy
      let w₂ ← Prog.read
      let task := vmTask taskId kind (vm (env.uuid w.nextId)) requestedBy w₂.txStart
      let request := agentRequest env w₂.now task (params (vm (env.uuid w.nextId)))
      let task := { task with requestPayload := request.modelDump }
      modifyDb fun db => db.addTask task
      flush
      publishRequest host.shortId request
      pure (vm (env.uuid w.nextId), task) : M (Vm × Task)) := by
    refine keeps_bind (keeps_modify fun w => spare_addVm hne) fun _ => keeps_bind keeps_flush ?_
    refine fun _ => keeps_bind (keeps_newId spare_nextId) fun taskId => ?_
    refine keeps_bind (spare_acquireVmLock hne _ _ _) fun _ => keeps_bind keeps_read fun w₂ => ?_
    refine keeps_bind (keeps_modify fun w => spare_addTask fun hof => hne hof.2) fun _ => ?_
    refine keeps_bind keeps_flush fun _ => ?_
    exact keeps_bind (keeps_publishRequest spare_published _ _) fun _ => keeps_pure _
  exact hrest _

/-- A new VM is another VM. -/
lemma spare_requestVmCreate (host : Host) (body : VmCreate) (requestedBy : String) :
    Keeps (spareFrame env k) (requestVmCreate env host body requestedBy) := by
  refine keeps_bind (keeps_of_state (requireHostOnline_state host)) fun _ => ?_
  refine keeps_bind (keeps_of_state (requireVmStorageAllowed_state host _)) fun _ => ?_
  exact spare_provision _ _ _ _ fun _ => rfl

/-- So is the copy that a clone makes. -/
lemma spare_requestVmClone (body : VmClone) (host : Host) (requestedBy : String) :
    Keeps (spareFrame env k) (requestVmClone env body host requestedBy) := by
  refine keeps_bind (keeps_of_state (requireHostOnline_state host)) fun _ => ?_
  refine keeps_bind (keeps_of_state (requireVmStorageAllowed_state host _)) fun _ => ?_
  refine keeps_bind ?_ fun spec => spare_provision _ _ _ _ fun _ => rfl
  split
  · exact keeps_of_state (cloneOfVm_state host body _)
  · exact keeps_of_state (cloneOfTemplate_state host body _)

/-! ## Hosts, clusters and folders -/

/-- An action on a host queues a task of the host. -/
lemma spare_hostAction (user : User) (hostId : String) (action : HostAction) :
    Keeps (spareFrame env k) (hostAction env user hostId action) := by
  refine keeps_bind keeps_read fun w => keeps_bind (keeps_ofOption _) fun host => ?_
  refine keeps_bind ?_ fun task => ?_
  · refine keeps_bind keeps_read fun w => keeps_bind (keeps_ofExcept _) fun _ => ?_
    refine keeps_bind (keeps_newId spare_nextId) fun taskId => keeps_bind keeps_read fun w => ?_
    refine keeps_bind (keeps_modify fun w => spare_addTask ?_) fun _ => keeps_bind keeps_flush ?_
    · rintro ⟨⟨⟩, -⟩
    · refine fun _ => keeps_bind (keeps_publishRequest spare_published _ _) fun _ => keeps_pure _
  · split
    · exact keeps_pure _
    · exact spare_record _ _ _ _ _

/-- A new folder has the key of no folder that was there. -/
lemma spare_operation_new {op : Operation} (hop : ∀ db db', op.Writes db db' →
      (∃ cluster, db' = { db with clusters := db.clusters ++ [cluster] }) ∨
      (∃ host, db' = { db with hosts := db.hosts ++ [host] }) ∨
      ∃ folder, db' = { db with folders := db.folders ++ [folder] }) :
    Keeps (spareFrame env k) (op.handler env) := by
  refine keeps_operation spare_nextId spare_events op fun w db' hwrites => ?_
  refine spare_db fun hstands => ?_
  rcases hop _ _ hwrites with ⟨cluster, rfl⟩ | ⟨host, rfl⟩ | ⟨folder, rfl⟩
  · rfl
  · rfl
  · refine vmRows_congr rfl (fun vm hvm f hf => ?_) rfl rfl rfl
    obtain ⟨found, hfound, hfolder⟩ := hstands.row
    obtain rfl : found = vm := Option.some_injective _ (hfound.symm.trans hvm)
    obtain ⟨folder', hfolder'⟩ := hfolder f hf
    rw [hfolder']
    exact Table.lookup_append_of_some hfolder'

/-- A host with none of the VM's folders is updated; the VM is on another host. -/
lemma spare_updateHost {hostId : String} (user : User) (clusterId : Option String)
    (howner : ∀ vm, w.db.vm k = some vm → vm.hostId ≠ hostId)
    (hfolder : ∀ vm, w.db.vm k = some vm →
      ∀ folder ∈ w.db.folders, vm.folderId = some folder.id → folder.hostId ≠ some hostId) :
    (spareFrame env k).rel w (updateHost env user hostId clusterId w).2 := by
  unfold updateHost
  rw [Prog.read_bind_run]
  rcases hhost : w.db.host hostId with _ | host
  · exact (spareFrame env k).refl w
  obtain rfl : host.id = hostId := Table.key_of_lookup hhost
  show (spareFrame env k).rel w ((moveHost env host clusterId >>= fun _ => _) w).2
  refine rel_bind ?_ fun _ t _ _ => ?_
  · unfold moveHost
    rw [Prog.read_bind_run]
    refine rel_ofExcept_bind fun target _ => rel_ofExcept_bind fun _ _ => ?_
    split
    · exact (spareFrame env k).refl w
    · exact rel_bind (spare_moveHost howner hfolder) fun _ t _ _ => keeps_flush t
  · show (spareFrame env k).rel t
      ((if host.clusterId = clusterId then pure () else record env _ _ _ _ _ : M Unit) t).2
    split
    · exact (spareFrame env k).refl t
    · exact spare_record _ _ _ _ _ t

/-- A folder that the VM is not in is removed. -/
lemma spare_removeFolder {folderId : String} (user : User)
    (hfolder : ∀ vm, w.db.vm k = some vm → vm.folderId ≠ some folderId) :
    (spareFrame env k).rel w (removeFolder env user folderId w).2 := by
  unfold removeFolder
  rw [Prog.read_bind_run]
  rcases hlookup : w.db.folder folderId with _ | folder
  · exact (spareFrame env k).refl w
  obtain rfl : folder.id = folderId := Table.key_of_lookup hlookup
  show (spareFrame env k).rel w ((record env _ _ _ _ _ >>= fun _ => deleteFolder folder) w).2
  refine rel_bind (spare_record _ _ _ _ _ w) fun _ t ht hrel => ?_
  have hrow : t.db.vms = w.db.vms := by
    have hsame : Keeps (Frame.same fun w : World => w.db.vms) (record env (some user) "folder.delete"
        folder.ref none (.obj [("vmsDetached",
          .int (w.db.vms.countP fun v => decide (v.folderId = some folder.id)))])) :=
      keeps_record (fun _ _ _ => rfl) (fun _ _ => rfl) _ _ _ _ _
    have hafter := hsame w
    rwa [ht] at hafter
  refine rel_bind (spare_deleteFolders fun vm hvm f _ hf => ?_) fun _ u _ _ => keeps_flush u
  have hvm : w.db.vm k = some vm := by
    unfold Db.vm at hvm ⊢
    rwa [hrow] at hvm
  refine decide_eq_false fun hid => hfolder vm hvm ?_
  rw [hf, hid]

/-! ## Requests of those who do not see a VM -/

section Unseen

variable {scope : VisibleScope} {db : Db} {vm : Vm}

/-- A scope that does not show the VM is no administrator's, and has neither its host nor its
folder. -/
lemma unseen_iff : vmVisible scope vm = false ↔
    scope.all = false ∧ scope.seesHost vm.hostId = false ∧ scope.seesFolder vm.folderId = false := by
  simp [vmVisible, and_assoc]

/-- `_require_all` passes callers who see everything. -/
lemma requireAll_eq_ok {message : String} (h : requireAll scope message = .ok ()) :
    scope.all = true := by
  by_contra hall
  simp [requireAll, hall] at h

/-- `_get_visible_vm` returns a row that is visible. -/
lemma getVisibleVm_eq_ok {vmId : String} {found : Vm} (h : getVisibleVm scope db vmId = .ok found) :
    db.vm vmId = some found ∧ vmVisible scope found = true := by
  unfold getVisibleVm at h
  split at h
  · cases h
  · rename_i vm hvm
    split_ifs at h with hseen
    cases h
    exact ⟨hvm, hseen⟩

/-- `_get_visible_host` returns a host that is visible. -/
lemma getVisibleHost_eq_ok {hostId : String} {host : Host}
    (h : getVisibleHost scope db hostId = .ok host) : scope.seesHost hostId = true := by
  unfold getVisibleHost at h
  split at h
  · cases h
  · rename_i found hfound
    split_ifs at h with hseen
    exact (Table.key_of_lookup hfound : found.id = hostId) ▸ hseen

/-- `_get_visible_folder` returns a folder that is visible. -/
lemma getVisibleFolder_eq_ok {folderId : String} {folder : Folder}
    (h : getVisibleFolder scope db folderId = .ok folder) :
    db.folder folderId = some folder ∧ folderVisible scope folder = true := by
  unfold getVisibleFolder at h
  split at h
  · cases h
  · rename_i found hfound
    split_ifs at h with hseen
    cases h
    exact ⟨hfound, hseen⟩

/-- A check that looks something up, and nothing else. -/
lemma lookup_eq_ok {α : Type} {x : Except Raised α} {f : α → Except Raised Unit}
    (h : (x >>= f) = .ok ()) : ∃ a, x = .ok a ∧ f a = .ok () := except_bind_eq_ok.mp h

/-- The VM a caller is given is not one it does not see. -/
lemma ne_of_getVisibleVm {vmId : String} {f : Vm → Except Raised Unit} (hvm : db.vm k = some vm)
    (hunseen : vmVisible scope vm = false) (h : (getVisibleVm scope db vmId >>= f) = .ok ()) :
    vmId ≠ k := by
  rintro rfl
  obtain ⟨found, hfound, -⟩ := lookup_eq_ok h
  obtain ⟨hlookup, hseen⟩ := getVisibleVm_eq_ok hfound
  obtain rfl : vm = found := Option.some_injective _ (hvm.symm.trans hlookup)
  rw [hunseen] at hseen
  cases hseen

end Unseen

/-- What has to hold of the VM `k` for its host and its folder to be out of sight with it. -/
structure Housed (db : Db) (k : String) (vm : Vm) : Prop where
  row : db.vm k = some vm
  placed : ∃ host ∈ db.hosts, vm.PlacedOn db.folders host
  checked : ∀ folder ∈ db.folders, vm.folderId = some folder.id → folder.scopedOnce = true

section Events

variable {adminRole : String} {grants : List ScopeGrant} {caller : UserRow} {vm : Vm}

/-- The folder of the VM is no other host's. -/
lemma Housed.folder_host (hset : Housed w.db k vm) (hc : w.db.Keyed) {hostId : String}
    (hne : vm.hostId ≠ hostId) : ∀ folder ∈ w.db.folders, vm.folderId = some folder.id →
      folder.hostId ≠ some hostId := by
  intro folder hfolder hf hhost
  obtain ⟨owner, -, hplaced⟩ := hset.placed
  obtain ⟨found, hfound, hid, hserves⟩ := hplaced.folder _ hf
  obtain rfl : found = folder := Table.eq_of_mem_of_key hc.folderIds hfound hfolder hid
  exact hne (hplaced.owner.trans (hserves.host_eq (hset.checked found hfound hf) hhost).symm)

/-- Whoever sees the folder of the VM sees the VM. -/
lemma Housed.unseen_folder (hset : Housed w.db k vm) (hc : w.db.Keyed)
    (hunseen : vmVisible (resolveScope adminRole w.db grants caller) vm = false) {folder : Folder}
    (hfolder : folder ∈ w.db.folders)
    (hseen : folderVisible (resolveScope adminRole w.db grants caller) folder = true) :
    vm.folderId ≠ some folder.id := by
  intro hf
  obtain ⟨owner, howner, hplaced⟩ := hset.placed
  have hrow := @vmVisible_iff_row adminRole w.db grants caller vm owner hc howner hplaced hset.checked
  rw [hunseen] at hrow
  have hhidden : ¬ RowGranted adminRole grants caller vm := fun h => Bool.noConfusion (hrow.mpr h)
  have hall : ¬ SeesAll adminRole grants caller := fun h => hhidden (Or.inl h)
  obtain ⟨found, hfound, hid, hserves⟩ := hplaced.folder _ hf
  obtain rfl : found = folder := Table.eq_of_mem_of_key hc.folderIds hfound hfolder hid
  rcases (folderVisible_resolveScope hall found).mp hseen with ⟨c, hcluster, hgrant⟩ | ⟨h, hh, hreach⟩
  · refine hhidden (Or.inr (Or.inr (Or.inl ⟨c, ?_, hgrant⟩)))
    rw [hplaced.cluster]
    unfold Folder.Serves at hserves
    split at hserves
    · rename_i c' hc'
      rw [hc', ← hserves]
      exact hcluster
    · rw [hserves.1] at hcluster
      cases hcluster
  · have hown : h = vm.hostId :=
      (hserves.host_eq (hset.checked found hfound hf) hh).trans hplaced.owner.symm
    rw [hown] at hreach
    rcases (reachesHost_of_placed hc howner hplaced).mp hreach with hgrant | hgrant
    · exact hhidden (Or.inr (Or.inl hgrant))
    · exact hhidden (Or.inr (Or.inr (Or.inl hgrant)))

/-- **A permitted request spares a VM its caller does not see.**

**Proof sketch.** By cases on the request. What only administrators may do is refused, since the
caller does not see everything. Where a VM, a host or a folder is looked up, the one that is found
is visible, hence not the unseen one, and the frame of each writer says that it spares every other
VM. What adds a row adds one under a new identifier. -/
theorem spare_event (hset : Housed w.db k vm) (hc : w.db.Keyed)
    (hunseen : vmVisible (resolveScope adminRole w.db grants caller) vm = false)
    {e : Organization.Event} {m : M Unit} (hactor : e.actor ≠ none) (hm : e.handler env = some m)
    (hok : authorize (resolveScope adminRole w.db grants caller) w.db e = .ok ()) :
    (spareFrame env k).rel w (m w).2 := by
  obtain ⟨hall, hhost, -⟩ := unseen_iff.mp hunseen
  have hadmin : ∀ {message}, requireAll (resolveScope adminRole w.db grants caller) message ≠ .ok () :=
    fun h => Bool.noConfusion (hall.symm.trans (requireAll_eq_ok h))
  have hother : ∀ v, w.db.vm k = some v → v = vm := fun v hv =>
    Option.some_injective _ (hv.symm.trans hset.row)
  rcases e with op | e
  · cases hm
    change authorizeOperation _ _ op = .ok () at hok
    cases op with
    | createCluster user name hypervisor => exact absurd hok hadmin
    | deleteCluster user clusterId =>
      obtain ⟨cluster, hcluster, -⟩ := lookup_eq_ok hok
      obtain ⟨⟨⟩, hall, -⟩ := except_bind_eq_ok.mp hcluster
      exact absurd hall hadmin
    | createHost user name clusterId hypervisor shortId managementUp =>
      refine @spare_operation_new env k (.createHost user name clusterId hypervisor shortId
        managementUp) (fun _ _ hwrites => ?_) w
      exact Or.inr (Or.inl hwrites)
    | createFolder user name clusterId hostId =>
      refine @spare_operation_new env k (.createFolder user name clusterId hostId)
        (fun _ _ hwrites => ?_) w
      exact Or.inr (Or.inr hwrites)
    | moveHost user hostId clusterId =>
      obtain ⟨host, hvisible, -⟩ := lookup_eq_ok hok
      have hne : vm.hostId ≠ hostId := by
        rintro rfl
        exact Bool.noConfusion (hhost.symm.trans (getVisibleHost_eq_ok hvisible))
      refine spare_updateHost user clusterId (fun v hv => hother v hv ▸ hne) fun v hv => ?_
      exact hother v hv ▸ hset.folder_host hc hne
    | deleteFolder user folderId =>
      obtain ⟨folder, hvisible, -⟩ := lookup_eq_ok hok
      obtain ⟨hfolder, hseen⟩ := getVisibleFolder_eq_ok hvisible
      obtain rfl : folder.id = folderId := Table.key_of_lookup hfolder
      refine spare_removeFolder user fun v hv => hother v hv ▸ ?_
      exact hset.unseen_folder hc hunseen (Table.mem_of_lookup hfolder) hseen
    | moveVmToFolder user vmId folderId =>
      refine spare_getVm_bind (ne_of_getVisibleVm hset.row hunseen hok) (fun v hv => ?_) w
      refine keeps_bind (spare_moveVmToFolder hv _) fun _ => keeps_bind keeps_read fun w => ?_
      dsimp only
      split
      · exact keeps_pure _
      · exact spare_record _ _ _ _ _
  · change authorizeSystem _ _ e = .ok () at hok
    cases e with
    | vmAction lag user vmId action params =>
      cases hm
      change (if action = .delete then .error unknownDelete
        else getVisibleVm _ w.db vmId >>= fun _ => pure ()) = .ok () at hok
      unfold vmAction
      by_cases hdelete : action = .delete
      · rw [if_pos hdelete] at hok
        cases hok
      rw [if_neg hdelete] at hok ⊢
      refine spare_getVm_bind (ne_of_getVisibleVm hset.row hunseen hok) (fun v hv => ?_) w
      refine keeps_bind (spare_requestVmAction hv _ _ _) fun task => ?_
      dsimp only
      split
      · exact keeps_pure _
      · exact spare_record _ _ _ _ _
    | deleteVm lag user vmId removeFiles =>
      cases hm
      refine spare_getVm_bind (ne_of_getVisibleVm hset.row hunseen hok) (fun v hv => ?_) w
      exact keeps_bind (spare_requestVmAction hv _ _ _) fun task => spare_record _ _ _ _ _
    | createVm lag user body =>
      cases hm
      refine keeps_bind keeps_read (fun w => keeps_bind (keeps_ofOption _) fun host => ?_) w
      exact keeps_bind (spare_requestVmCreate host body _) fun row => spare_record _ _ _ _ _
    | cloneVm lag user body =>
      cases hm
      refine keeps_bind keeps_read (fun w => keeps_bind (keeps_ofOption _) fun host => ?_) w
      refine keeps_bind (spare_requestVmClone body host _) fun row => keeps_bind keeps_read ?_
      exact fun _ => spare_record _ _ _ _ _
    | forgetVm user vmId =>
      cases hm
      refine spare_getVm_bind (ne_of_getVisibleVm hset.row hunseen hok) (fun v hv => ?_) w
      exact keeps_bind (spare_record _ _ _ _ _) fun _ => spare_removeVmFromInventory hv
    | releaseLock user vmId => exact absurd hok hadmin
    | hostAction lag user hostId action =>
      cases hm
      exact spare_hostAction user hostId action w
    | agentUpgrade lag user hostId version checksum url =>
      obtain ⟨host, -, hall⟩ := lookup_eq_ok hok
      exact absurd hall hadmin
    | agentRollout lag user hostIds hypervisor version checksum url => exact absurd hok hadmin
    | removeHost user hostId =>
      obtain ⟨host, -, hall⟩ := lookup_eq_ok hok
      exact absurd hall hadmin
    | _ => exact absurd rfl hactor

end Events

/-! ## Runs of the API -/

section Runs

variable {adminRole : String} {grants : List ScopeGrant} {s : Committed} {vm : Vm}

/-- Nothing happens. -/
lemma World.Spared.refl (w : World) (k : String) : w.Spared w k :=
  ⟨le_rfl, rfl, .refl _ _, .refl _ _⟩

/-- A VM that is spared twice is spared. -/
lemma World.Spared.trans {u : World} (h : w.Spared t k) (h' : t.Spared u k) : w.Spared u k where
  now_le := h.now_le.trans h'.now_le
  rows := h'.rows.trans h.rows
  state := h.state.trans h'.state h'.now_le
  lock := h.lock.trans h'.lock h'.now_le

/-- What keeps the frame of a VM spares it, if the VM stands. -/
lemma spared_of_rel (hstands : Stands env k w) (h : (spareFrame env k).rel w t) : w.Spared t k := by
  obtain ⟨hnow, htraces⟩ := Prod.mk.inj (h hstands).2
  exact ⟨hnow.ge, congrArg VmTraces.rows htraces, Or.inl (congrArg VmTraces.state htraces),
    Or.inl (congrArg VmTraces.lock htraces)⟩

/-- A step of the API keeps what every run of the system keeps. -/
lemma Access.kept_step (h : RowsDrawn env s.world ∧ s.world.db.Placed) (e : Access.Event) :
    RowsDrawn env (Access.step env adminRole grants s e).world ∧
      (Access.step env adminRole grants s e).world.db.Placed := by
  cases e with
  | request r =>
    rcases @Access.request_cases env adminRole grants s r with
      ⟨-, -, hworld⟩ | ⟨-, hworld⟩
    · rw [hworld]
      exact h
    · rw [hworld]
      exact ⟨rowsDrawn_step h.1 r.event, placed_step h.1 h.2 r.event⟩
  | tick elapsed => exact h
  | broker up => exact h

/-- A VM that is placed stands. -/
lemma stands_of_placed (hdrawn : RowsDrawn env w) (hset : Housed w.db k vm) (hc : w.db.Keyed) :
    Stands env k w := by
  have hmem : vm ∈ w.db.vms := Table.mem_of_lookup hset.row
  have hid : vm.id = k := Table.key_of_lookup hset.row
  refine ⟨hid ▸ hdrawn vm hmem, vm, hset.row, fun f hf => ?_⟩
  obtain ⟨host, -, hplaced⟩ := hset.placed
  obtain ⟨folder, hfolder, hkey, -⟩ := hplaced.folder f hf
  exact ⟨folder, (Table.lookup_eq_some hc.folderIds).mpr ⟨hfolder, hkey⟩⟩

/-- One step: a request of a caller who does not see the VM, time, or the broker. -/
lemma spared_step (hdrawn : RowsDrawn env s.world) (hset : Housed s.world.db k vm)
    {e : Access.Event} (hunseen : ∀ r, e = .request r →
      vmVisible (resolveScope adminRole s.world.db grants r.caller) vm = false) :
    s.world.Spared (Access.step env adminRole grants s e).world k := by
  cases e with
  | request r =>
    rcases @Access.request_cases env adminRole grants s r with
      ⟨-, -, hworld⟩ | ⟨hok, hworld⟩
    · rw [hworld]
      exact ⟨le_rfl, rfl, .refl _ _, .refl _ _⟩
    · obtain ⟨m, hm⟩ := @Access.handler_isSome env r
      rw [hworld, Access.organization_step hm]
      set w : World := { s.world with txStart := s.world.now - r.event.lag } with hw
      have hactor : r.event.actor ≠ none := by simp [r.actor_eq]
      have hrel : (spareFrame env k).rel w (m w).2 :=
        spare_event (w := w) hset s.consistent.keyed (hunseen r rfl) hactor hm hok
      have hstands : Stands env k w := stands_of_placed (w := w) hdrawn hset s.consistent.keyed
      have hcommit : (spareFrame env k).rel w (sessionScope m w).2 :=
        rel_transact (fun _ _ h => spare_rollback h) flush_state
          (commits_of_rel (fun _ _ h => spare_rollback h) hrel)
      have hspared := spared_of_rel hstands hcommit
      exact ⟨hspared.now_le, hspared.rows, hspared.state, hspared.lock⟩
  | tick elapsed =>
    exact ⟨le_add_of_nonneg_right (Int.natCast_nonneg elapsed), rfl,
      Expiring.aged_expire _ _ _, Expiring.aged_expire _ _ _⟩
  | broker up => exact ⟨le_rfl, rfl, .refl _ _, .refl _ _⟩

/-- A VM that was spared is where it was. -/
lemma Housed.spared (hset : Housed w.db k vm) (hspared : w.Spared t k) (hc : t.db.Keyed)
    (hplaced : t.db.Placed) : Housed t.db k vm := by
  have hrow : t.db.vm k = some vm := (congrArg VmRows.row hspared.rows).trans hset.row
  refine ⟨hrow, hplaced vm (Table.mem_of_lookup hrow), fun folder hfolder hf => ?_⟩
  have hfound := congrArg VmRows.folder hspared.rows
  simp only [Db.vmRows, hrow, hset.row, Option.bind_some, hf] at hfound
  have hlookup : t.db.folder folder.id = some folder :=
    (Table.lookup_eq_some hc.folderIds).mpr ⟨hfolder, rfl⟩
  exact hset.checked folder (Table.mem_of_lookup (hfound.symm.trans hlookup)) hf

/-- Who sees a VM that is where it was. -/
lemma Housed.visible_eq {db db' : Db} (hset : Housed db k vm) (hset' : Housed db' k vm)
    (hc : db.Keyed) (hc' : db'.Keyed) (user : UserRow) :
    vmVisible (resolveScope adminRole db' grants user) vm =
      vmVisible (resolveScope adminRole db grants user) vm := by
  obtain ⟨host, hhost, hplaced⟩ := hset.placed
  obtain ⟨host', hhost', hplaced'⟩ := hset'.placed
  rw [Bool.eq_iff_iff, vmVisible_iff_row hc hhost hplaced hset.checked,
    vmVisible_iff_row hc' hhost' hplaced' hset'.checked]

/-- A run of requests of callers who do not see the VM. -/
lemma spared_run {es : List Access.Event} (h : RowsDrawn env s.world ∧ s.world.db.Placed)
    (hset : Housed s.world.db k vm) (hunseen : ∀ r, Access.Event.request r ∈ es →
      vmVisible (resolveScope adminRole s.world.db grants r.caller) vm = false) :
    s.world.Spared (Access.run env adminRole grants s es).world k ∧
      Housed (Access.run env adminRole grants s es).world.db k vm := by
  induction es generalizing s with
  | nil => exact ⟨.refl _ _, hset⟩
  | cons e es ih =>
    have hstep : s.world.Spared (Access.step env adminRole grants s e).world k :=
      spared_step h.1 hset fun r hr => hunseen r (hr ▸ List.mem_cons_self)
    have hkept := @Access.kept_step env adminRole grants s h e
    set s' := Access.step env adminRole grants s e with hs'
    have hset' : Housed s'.world.db k vm :=
      hset.spared hstep s'.consistent.keyed hkept.2
    have hrest := ih hkept hset' fun r hr => by
      rw [hset.visible_eq hset' s.consistent.keyed s'.consistent.keyed]
      exact hunseen r (List.mem_cons_of_mem _ hr)
    exact ⟨hstep.trans hrest.1, hrest.2⟩

/-- **Requests of callers who do not see a VM leave no trace on it**, however many there are and
whatever they ask for: its row, its folder, its thumbnail, its samples and its tasks are as they
were, its overlay and its lock at most run out. Nor do they change who sees it. -/
theorem confined (adminRole : String) (grants : List ScopeGrant) (s : Committed)
    (h : Organization.Reachable env s) (vm : Vm) (hvm : vm ∈ s.world.db.vms)
    (hcheck : ∀ folder ∈ s.world.db.folders, vm.folderId = some folder.id →
      folder.scopedOnce = true) (es : List Access.Event)
    (hunseen : ∀ r, Access.Event.request r ∈ es →
      vmVisible (resolveScope adminRole s.world.db grants r.caller) vm = false) :
    s.world.Spared (Access.run env adminRole grants s es).world vm.id ∧
      ∀ user, vmVisible (resolveScope adminRole
          (Access.run env adminRole grants s es).world.db grants user) vm =
        vmVisible (resolveScope adminRole s.world.db grants user) vm := by
  have hkept := drawn_and_placed h
  have hset : Housed s.world.db vm.id vm :=
    ⟨(Table.lookup_eq_some s.consistent.keyed.vmIds).mpr ⟨hvm, rfl⟩, hkept.2 vm hvm, hcheck⟩
  obtain ⟨hspared, hset'⟩ := spared_run hkept hset hunseen
  exact ⟨hspared, hset.visible_eq hset' s.consistent.keyed
    (Access.run env adminRole grants s es).consistent.keyed⟩

end Runs

namespace Demo

/-- The VM `"g"` of a standalone host is reported, and a cluster is added. -/
@[irreducible] def clusterAdded : Committed :=
  Organization.run settings start
    [.system (.vmInventory "h" (snapshot ["g"])),
      .operation (.createCluster user "cluster" "hyperv")]

/-- The user is granted the cluster. -/
def addedGrant : ScopeGrant := ⟨"u", .cluster, some "x", by decide⟩

/-- The user starts the VM, which is refused, and adds a folder to the cluster, which is not. -/
def attempts : List Access.Event :=
  [.request ⟨folderUser, .system (.vmAction 0 folderUser.user "" .start []), rfl⟩,
    .tick 5,
    .request ⟨folderUser, .operation (.createFolder folderUser.user "folder" (some "x") none), rfl⟩]

end Demo

/-- A caller with a grant on the added cluster tries everything: the VM of the other cluster is
spared, and unseen. -/
theorem confined_beside :
    (∃ vm ∈ Demo.clusterAdded.world.db.vms, Demo.clusterAdded.world.Spared
        (Access.run Demo.settings "ADMINISTRATOR" [Demo.addedGrant] Demo.clusterAdded
          Demo.attempts).world vm.id ∧
      ∀ user, vmVisible (resolveScope "ADMINISTRATOR" (Access.run Demo.settings "ADMINISTRATOR"
            [Demo.addedGrant] Demo.clusterAdded Demo.attempts).world.db [Demo.addedGrant] user) vm =
        vmVisible (resolveScope "ADMINISTRATOR" Demo.clusterAdded.world.db [Demo.addedGrant] user)
          vm) ∧
    (Access.run Demo.settings "ADMINISTRATOR" [Demo.addedGrant] Demo.clusterAdded
      Demo.attempts).world.db.folders.length = 1 := by
  have hone : ∃ vm ∈ Demo.clusterAdded.world.db.vms, vm.folderId = none ∧
      vmVisible (resolveScope "ADMINISTRATOR" Demo.clusterAdded.world.db [Demo.addedGrant]
        Demo.folderUser) vm = false := by
    unfold Demo.clusterAdded
    decide +kernel
  obtain ⟨vm, hvm, hfolder, hunseen⟩ := hone
  refine ⟨⟨vm, hvm, @confined Demo.settings "ADMINISTRATOR" [Demo.addedGrant] Demo.clusterAdded
    ⟨Demo.start, _, Demo.start_initial, by unfold Demo.clusterAdded; rfl⟩ vm hvm ?_ Demo.attempts
    ?_⟩, ?_⟩
  · intro folder _ hf
    rw [hfolder] at hf
    cases hf
  · intro r hr
    have hcaller : r.caller = Demo.folderUser := by
      simp only [Demo.attempts, List.mem_cons, List.not_mem_nil, or_false, reduceCtorEq, false_or,
        Access.Event.request.injEq] at hr
      rcases hr with rfl | rfl <;> rfl
    rw [hcaller]
    exact hunseen
  · unfold Demo.clusterAdded
    decide +kernel

end OpenVCenter
