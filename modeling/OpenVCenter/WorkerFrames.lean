import OpenVCenter.ResponseFrames

set_option relaxedAutoImplicit false
set_option autoImplicit false

/-!
# What the other messages and a sweep may touch

`apply_vm_inventory` adds, updates and deletes VM rows, records events, and writes overlays,
tombstones and thumbnails; the other handlers each write the rows of one table; the first half of
a sweep writes tasks, events and locks. A frame that admits each of these writes is kept by the
whole handler.

## Main results

* `OpenVCenter.keeps_applyResponse`, `OpenVCenter.keeps_applyVmInventory`,
  `OpenVCenter.keeps_timeOutStaleTasks`.
* `OpenVCenter.timeOutStaleTasks_eq_ok` — what the first half of a sweep does to the database.
* `OpenVCenter.keeps_applyAgentStatus`, `OpenVCenter.keeps_applyHostInventory`,
  `OpenVCenter.keeps_applyTemplateInventory`, `OpenVCenter.keeps_applyIsoInventory`,
  `OpenVCenter.keeps_applyHostMetrics`, `OpenVCenter.keeps_applyVmMetrics`.
-/

namespace OpenVCenter

open Effect

variable {env : Env} {F : Frame World} {α : Type}

/-- A fresh identifier, then a program that may use that it is fresh. -/
lemma keeps_newId_bind (hid : ∀ w n, w.nextId ≤ n → F.rel w { w with nextId := n })
    {f : String → M α} (h : ∀ w n, w.nextId = n + 1 → F.rel w (f (env.uuid n) w).2) :
    Keeps F (newId env >>= f) := by
  intro w
  refine rel_bind (hid w _ (Nat.le_succ _)) fun a t ht _ => ?_
  cases ht
  exact h _ _ rfl

/-- `record` keeps what its writes keep. -/
lemma keeps_record (hid : ∀ w n, w.nextId ≤ n → F.rel w { w with nextId := n })
    (hevents : ∀ w es, F.rel w { w with db := { w.db with auditEvents := es } })
    (actor : Option User) (action : String) (target : TargetRef) (task : Option Task)
    (details : Json) : Keeps F (record env actor action target task details) := by
  refine keeps_bind (keeps_newId hid) fun _ => keeps_bind keeps_read fun _ => ?_
  exact keeps_bind (keeps_modify fun w => hevents w _) fun _ => keeps_flush

/-- Skipping errors of the API keeps what the body keeps. -/
lemma keeps_skipApiError {m : M Unit} (h : Keeps F m) : Keeps F (skipApiError m) := by
  intro w
  have hstate : (skipApiError m w).2 = (m w).2 := by
    unfold skipApiError
    split
    · rename_i hm; rw [hm]
    · rfl
  rw [hstate]
  exact h w

/-! ## Responses -/

/-- The whole handler of a response: the end of its task, and what a refresh may write. -/
theorem keeps_applyResponse (hroll : ∀ s t, F.rel s t → F.rel s (rollback s t))
    (hid : ∀ w n, w.nextId ≤ n → F.rel w { w with nextId := n })
    (hstates : ∀ w s, F.rel w { w with cache := { w.cache with vmStates := s } })
    (htombs : ∀ w s, F.rel w { w with cache := { w.cache with tombstones := s } })
    (hlocks : ∀ w vmId taskId, F.rel w { w with cache := releaseLock vmId taskId w.cache })
    (htask : ∀ w t, F.rel w { w with db := w.db.storeTask t })
    (hevents : ∀ w es, F.rel w { w with db := { w.db with auditEvents := es } })
    (hstore : ∀ w v, F.rel w { w with db := w.db.storeVm v })
    (hdelete : ∀ w id, F.rel w { w with db := w.db.deleteVm id })
    (hhost : ∀ w h, w.db.Restates h → F.rel w { w with db := w.db.storeHost h })
    (htemplates : ∀ w ts, F.rel w { w with db := { w.db with templates := ts } })
    (hostId : String) (resp : AgentResponse) : Keeps F (applyResponse env hostId resp) := by
  refine keeps_bind keeps_read fun w => ?_
  split
  · exact keeps_pure _
  · refine keeps_bind (keeps_bind keeps_read fun w => keeps_bind (keeps_ofExcept _) ?_) ?_
    · intro resp
      dsimp only
      split
      · exact keeps_bind (keeps_modify fun w => htask w _) fun _ => keeps_pure _
      · refine keeps_bind (keeps_modify fun w => htask w _) fun _ => ?_
        refine keeps_bind ?_ fun _ => keeps_bind keeps_flush fun _ => keeps_pure _
        unfold settleTaskEvents
        split
        · exact keeps_pure _
        · exact keeps_bind (keeps_modify fun w => hevents w _) fun _ => keeps_flush
    · intro ended
      cases ended with
      | none => exact keeps_pure _
      | some ended =>
        exact keeps_applyRefresh hroll hid hhost htemplates
          (keeps_applyResponseState hstates hstore (fun _ w => hdelete w _)
            (fun w _ _ _ => htombs w _) _ _) fun w => hlocks w _ _

/-! ## Messages that write one table -/

section OneTable

variable {hostId : String}

/-- The row read under a key has that key. -/
lemma host_id_of_host {db : Db} {host : Host} (h : db.host hostId = some host) :
    host.id = hostId := Table.key_of_lookup h

/-- A heartbeat writes the row of its host. -/
lemma keeps_applyAgentStatus
    (hstore : ∀ w h, h.id = hostId → F.rel w { w with db := w.db.storeHost h }) (payload : Json) :
    Keeps F (applyAgentStatus env hostId payload) := by
  refine keeps_bind keeps_read fun w => ?_
  split
  · exact keeps_pure _
  · rename_i host hhost
    have hid := host_id_of_host hhost
    refine keeps_bind (keeps_ofExcept _) fun d => keeps_modify fun w => ?_
    exact hstore w _ hid

/-- So does an inventory of the host. -/
lemma keeps_applyHostInventory
    (hstore : ∀ w h, h.id = hostId → w.db.Restates h → F.rel w { w with db := w.db.storeHost h })
    (payload : Json) : Keeps F (applyHostInventory env hostId payload) := by
  refine keeps_read_bind fun w => ?_
  rcases hhost : w.db.host hostId with _ | host
  · exact F.refl w
  · have hid : host.id = hostId := host_id_of_host hhost
    refine rel_ofExcept_bind fun raw _ => rel_ofExcept_bind fun found _ => ?_
    cases found with
    | none => exact F.refl w
    | some hardware => exact hstore w _ hid (restates_of_host hhost rfl)

/-- A template's row has its identifier and its host. -/
lemma templateRow_hostId {id : String} {item : Dict} {row : Template}
    (h : templateRow env id hostId item = .ok row) : row.id = id ∧ row.hostId = hostId := by
  unfold templateRow at h
  obtain ⟨sizeBytes, -, h⟩ := except_bind_eq_ok.mp h
  obtain ⟨diskSizeBytes, -, h⟩ := except_bind_eq_ok.mp h
  obtain ⟨cpuCount, -, h⟩ := except_bind_eq_ok.mp h
  obtain ⟨memoryMb, -, h⟩ := except_bind_eq_ok.mp h
  cases h
  exact ⟨rfl, rfl⟩

/-- A computed value, then a program that may use what it is. -/
lemma keeps_ofExcept_bind {x : Except Raised α} {β : Type} {f : α → M β}
    (h : ∀ a, x = .ok a → Keeps F (f a)) : Keeps F (Prog.ofExcept x >>= f) := by
  exact fun w => rel_ofExcept_bind fun a hx => h a hx w

variable (hid : ∀ w n, w.nextId ≤ n → F.rel w { w with nextId := n })

include hid

/-- The identifier of a template is looked up or drawn. -/
lemma keeps_templateId (item : Dict) : Keeps F (templateId env item) := by
  unfold templateId
  split
  · split
    · exact keeps_pure _
    · exact keeps_raise _
  · exact keeps_newId hid

/-- A report of templates writes rows of its host. -/
lemma keeps_applyTemplateInventory
    (hdelete : ∀ w, F.rel w { w with db := { w.db with
      templates := Table.deleteWhere (fun t => decide (t.hostId = hostId)) w.db.templates } })
    (hadd : ∀ w row, row.hostId = hostId → F.rel w { w with db := { w.db with
      templates := w.db.templates ++ [row] } }) (payload : Json) :
    Keeps F (applyTemplateInventory env hostId payload) := by
  refine keeps_bind (keeps_modify hdelete) fun _ => keeps_bind (keeps_ofExcept _) fun d => ?_
  refine keeps_bind (keeps_ofExcept _) fun items => keeps_foldlM (fun _ raw _ => ?_) _
  refine keeps_bind (keeps_ofExcept _) fun item => keeps_bind (keeps_templateId hid _) fun id => ?_
  exact keeps_ofExcept_bind fun row hrow => keeps_modify fun w =>
    hadd w row (templateRow_hostId hrow).2

/-- So does a report of images. -/
lemma keeps_applyIsoInventory
    (hdelete : ∀ w, F.rel w { w with db := { w.db with
      isos := Table.deleteWhere (fun i => decide (i.hostId = hostId)) w.db.isos } })
    (hadd : ∀ w row, row.hostId = hostId → F.rel w { w with db := { w.db with
      isos := w.db.isos ++ [row] } }) (payload : Json) :
    Keeps F (applyIsoInventory env hostId payload) := by
  refine keeps_bind (keeps_modify hdelete) fun _ => keeps_bind (keeps_ofExcept _) fun d => ?_
  refine keeps_bind (keeps_ofExcept _) fun items => keeps_foldlM (fun _ raw _ => ?_) _
  refine keeps_bind (keeps_ofExcept _) fun item => keeps_bind (keeps_newId hid) fun id => ?_
  exact keeps_bind (keeps_ofExcept _) fun size => keeps_modify fun w => hadd w _ rfl

omit hid

/-- A sample of a host is of that host. -/
lemma hostMetric_hostId {now : Time} {payload : Dict} {row : HostMetric}
    (h : hostMetric env now hostId payload = .ok row) : row.hostId = hostId := by
  unfold hostMetric at h
  obtain ⟨cpuPercent, -, h⟩ := except_bind_eq_ok.mp h
  obtain ⟨memPercent, -, h⟩ := except_bind_eq_ok.mp h
  obtain ⟨diskLatencyMs, -, h⟩ := except_bind_eq_ok.mp h
  obtain ⟨netRxBps, -, h⟩ := except_bind_eq_ok.mp h
  obtain ⟨netTxBps, -, h⟩ := except_bind_eq_ok.mp h
  cases h
  rfl

/-- Samples of a host are rows of its own. -/
lemma keeps_applyHostMetrics
    (hadd : ∀ w row, row.hostId = hostId → F.rel w { w with db := { w.db with
      hostMetrics := w.db.hostMetrics ++ [row] } })
    (hprune : ∀ w cutoff, F.rel w { w with db := w.db.pruneHostMetrics hostId cutoff })
    (payload : Json) : Keeps F (applyHostMetrics env hostId payload) := by
  refine keeps_bind keeps_read fun w => ?_
  split
  · exact keeps_pure _
  · refine keeps_bind (keeps_ofExcept _) fun d => keeps_ofExcept_bind fun row hrow => ?_
    refine keeps_bind (keeps_modify fun w => hadd w row (hostMetric_hostId hrow)) fun _ => ?_
    exact keeps_bind keeps_flush fun _ => keeps_modify fun w => hprune w _

/-- A sample of a VM is of that VM. -/
lemma vmMetric_vmId {vmId : String} {ts : Time} {item : Dict} {row : VmMetric}
    (h : vmMetric env vmId ts item = .ok row) : row.vmId = vmId := by
  unfold vmMetric at h
  obtain ⟨cpuPercent, -, h⟩ := except_bind_eq_ok.mp h
  obtain ⟨memBytes, -, h⟩ := except_bind_eq_ok.mp h
  obtain ⟨diskBytes, -, h⟩ := except_bind_eq_ok.mp h
  obtain ⟨netRxBytes, -, h⟩ := except_bind_eq_ok.mp h
  obtain ⟨netTxBytes, -, h⟩ := except_bind_eq_ok.mp h
  cases h
  rfl

/-- Samples of VMs are added. -/
lemma keeps_applyVmMetrics
    (hadd : ∀ w row, F.rel w { w with db := { w.db with vmMetrics := w.db.vmMetrics ++ [row] } })
    (hprune : ∀ w cutoff, F.rel w { w with db := w.db.pruneVmMetrics hostId cutoff })
    (payload : Json) : Keeps F (applyVmMetrics env hostId payload) := by
  refine keeps_bind (keeps_ofExcept _) fun d => keeps_bind keeps_read fun w => ?_
  refine keeps_bind (keeps_ofExcept _) fun items => keeps_bind ?_ fun _ => ?_
  · refine keeps_foldlM (fun _ raw _ => ?_) _
    refine keeps_bind (keeps_ofExcept _) fun item => keeps_bind (keeps_ofExcept _) fun found => ?_
    cases found with
    | none => exact keeps_pure _
    | some vmId => exact keeps_bind (keeps_ofExcept _) fun row => keeps_modify fun w => hadd w row
  · exact keeps_bind keeps_flush fun _ => keeps_modify fun w => hprune w _

/-- A metered VM is a VM of the host. -/
lemma meteredVm_mem {db : Db} {vmUuid : Json} {vmId : String}
    (h : meteredVm (meteredVms db hostId) vmUuid = .ok (some vmId)) :
    ∃ v ∈ db.vms, v.id = vmId ∧ v.hostId = hostId := by
  unfold meteredVm at h
  split at h
  · have hlookup := Except.ok.inj h
    obtain ⟨l₁, l₂, hsplit, -⟩ := List.lookup_eq_some_iff.mp hlookup
    have hmem := hsplit ▸ List.mem_append_right l₁ List.mem_cons_self
    obtain ⟨v, hv, hu⟩ := List.mem_filterMap.mp (List.mem_reverse.mp hmem)
    obtain ⟨hrow, hcond⟩ := List.mem_filter.mp hv
    obtain ⟨u, -, heq⟩ := Option.map_eq_some_iff.mp hu
    cases heq
    simp only [Bool.and_eq_true, decide_eq_true_eq] at hcond
    exact ⟨v, hrow, rfl, hcond.1⟩
  · cases h
  · cases h
  · cases h

end OneTable

/-! ## Sweeps -/

/-- Settling events writes events. -/
lemma keeps_settleTaskEvents
    (hevents : ∀ w es, F.rel w { w with db := { w.db with auditEvents := es } })
    (ids : List String) (outcome : AuditOutcome) (error : Option String) :
    Keeps F (settleTaskEvents ids outcome error) := by
  unfold settleTaskEvents
  split
  · exact keeps_pure _
  · exact keeps_bind (keeps_modify fun w => hevents w _) fun _ => keeps_flush

/-- The first half of a sweep writes tasks, events and locks. -/
lemma keeps_timeOutStaleTasks
    (htasks : ∀ w ts, F.rel w { w with db := { w.db with tasks := ts } })
    (hevents : ∀ w es, F.rel w { w with db := { w.db with auditEvents := es } })
    (hlocks : ∀ w vmId taskId, F.rel w { w with cache := releaseLock vmId taskId w.cache }) :
    Keeps F (timeOutStaleTasks env) := by
  refine keeps_bind keeps_read fun w => ?_
  dsimp only
  split
  · exact keeps_pure _
  · refine keeps_bind (keeps_modify fun w => htasks w _) fun _ => keeps_bind keeps_flush fun _ => ?_
    refine keeps_bind (keeps_settleTaskEvents hevents _ _ _) fun _ => ?_
    refine keeps_foldlM (fun _ t _ => ?_) _
    split
    · exact keeps_modify fun w => hlocks w _ _
    · exact keeps_pure _

/-- The database after the first half of a sweep: the stale tasks, and no others, have timed out,
with their pending events. -/
def timedOutDb (env : Env) (now : Time) (db : Db) : Db :=
  let ids := (staleTasks env now db).map Task.id
  { db with
    tasks := Table.updateWhere (fun t => decide (t.id ∈ ids)) (timedOut now) db.tasks
    auditEvents := settleEvents ids .timeout (some timeoutError) db.auditEvents }

/-- Settling the events of no task changes nothing. -/
lemma settleEvents_nil {outcome : AuditOutcome} {error : Option String}
    {events : List AuditEvent} : settleEvents [] outcome error events = events := by
  refine Table.updateWhere_eq_self fun e _ hx => ?_
  obtain ⟨-, t, -, hmem⟩ := of_decide_eq_true hx
  cases hmem

/-- A settlement that returns updates the pending events of its tasks. -/
lemma settleTaskEvents_eq_ok {ids : List String} {outcome : AuditOutcome} {error : Option String}
    {w t : World} (h : settleTaskEvents ids outcome error w = (.ok (), t)) :
    t = { w with db := { w.db with
      auditEvents := settleEvents ids outcome error w.db.auditEvents } } := by
  unfold settleTaskEvents at h
  split at h
  · rename_i hempty
    rw [List.isEmpty_iff.mp hempty, settleEvents_nil]
    exact (congrArg Prod.snd h).symm
  · rw [modifyDb, Prog.modify_bind_run] at h
    exact (flush_eq_ok.mp h).2

/-- Nothing times out where nothing is stale. -/
lemma timedOutDb_of_none_stale {now : Time} {db : Db} (h : staleTasks env now db = []) :
    timedOutDb env now db = db := by
  have htasks : Table.updateWhere (fun t : Task => decide (t.id ∈ ([] : List String)))
      (timedOut now) db.tasks = db.tasks := Table.updateWhere_eq_self fun _ _ hx => by cases hx
  unfold timedOutDb
  simp only [h, List.map_nil, htasks, settleEvents_nil]

/-- The first half of a sweep that returns: the stale tasks have timed out, and behind that only
their locks are freed. -/
theorem timeOutStaleTasks_eq_ok {w t : World}
    (hlocks : ∀ x ∈ staleTasks env w.now w.db, ∀ w,
      F.rel w { w with cache := releaseLock x.targetId x.id w.cache })
    (h : timeOutStaleTasks env w = (.ok (), t)) :
    F.rel { w with db := timedOutDb env w.now w.db } t := by
  unfold timeOutStaleTasks at h
  rw [Prog.read_bind_run] at h
  dsimp only at h
  split at h
  · rename_i hempty
    obtain rfl : w = t := congrArg Prod.snd h
    rw [timedOutDb_of_none_stale (List.isEmpty_iff.mp hempty)]
    exact F.refl _
  · rw [modifyDb, Prog.modify_bind_run] at h
    obtain ⟨⟨⟩, w₁, h₁, h⟩ := Prog.bind_eq_ok.mp h
    obtain ⟨⟨⟩, w₂, h₂, h⟩ := Prog.bind_eq_ok.mp h
    obtain ⟨-, rfl⟩ := flush_eq_ok.mp h₁
    obtain rfl := settleTaskEvents_eq_ok h₂
    have hloop : Keeps F ((staleTasks env w.now w.db).foldlM (fun _ t =>
        if t.targetType = .vm then releaseVmLock t.targetId t.id else pure ()) ()) := by
      refine keeps_foldlM (fun _ x hx => ?_) _
      split
      · exact keeps_modify (hlocks x hx)
      · exact keeps_pure _
    have hrel := hloop { w with db := timedOutDb env w.now w.db }
    have hrun : ((staleTasks env w.now w.db).foldlM (fun _ t =>
        if t.targetType = .vm then releaseVmLock t.targetId t.id else pure ()) ())
        { w with db := timedOutDb env w.now w.db } = (.ok (), t) := h
    rwa [hrun] at hrel

/-! ## Snapshots -/

section Snapshot

variable (hid : ∀ w n, w.nextId ≤ n → F.rel w { w with nextId := n })
  (hstates : ∀ w s, F.rel w { w with cache := { w.cache with vmStates := s } })
  (htombs : ∀ w s, F.rel w { w with cache := { w.cache with tombstones := s } })
  (hstore : ∀ w v, F.rel w { w with db := w.db.storeVm v })
  (hadd : ∀ w v, (∃ n, w.nextId = n + 1 ∧ v.id = env.uuid n) →
    F.rel w { w with db := w.db.addVm v })
  (hdelete : ∀ w id, F.rel w { w with db := w.db.deleteVm id })
  (hrecord : ∀ vm : Vm,
    Keeps F (record env none "vm.inventory_remove" vm.ref none removalDetails))
  (hunbind : ∀ w, F.rel w { w with db := { w.db with unbindable := true } })
  (hthumbs : ∀ w ts, F.rel w { w with db := { w.db with thumbnails := ts } })

include hid hstates hstore hadd

/-- A listed item is written by the writes of the loop. -/
lemma keeps_writeListed (host : Host) (scan : Scan) (image : Option (List UInt8))
    (raw item : Dict) (vmUuid : String) :
    Keeps F (writeListed env host scan image raw item vmUuid) := by
  refine keeps_bind keeps_read fun w => keeps_bind ?_ fun row => ?_
  · split
    · exact keeps_pure _
    · exact keeps_newId_bind hid fun w n hn =>
        rel_bind (hadd w _ ⟨n, hn, rfl⟩) fun _ _ _ _ => F.refl _
  · refine keeps_bind (keeps_ofExcept _) fun vm => keeps_bind (keeps_modify fun w => hstore w _) ?_
    exact fun _ => keeps_bind (keeps_setVmState hstates _ _) fun _ => keeps_pure _

include hunbind

/-- One item of a snapshot. -/
lemma keeps_reconcileItem (host : Host) (tombstoned : String → Bool) (scan : Scan) (raw : Json) :
    Keeps F (reconcileItem env host tombstoned scan raw) := by
  refine keeps_bind (keeps_ofExcept _) fun d => ?_
  dsimp only
  refine keeps_bind (keeps_ofExcept _) fun item => keeps_bind (keeps_ofExcept _) fun key => ?_
  cases key with
  | absent => exact keeps_pure _
  | unbindable => exact keeps_bind (keeps_modify hunbind) fun _ => keeps_pure _
  | guid u =>
    refine keeps_bind keeps_read fun w => ?_
    split
    · exact keeps_pure _
    · exact keeps_writeListed hid hstates hstore hadd _ _ _ _ _ _

omit hid hstore hadd hunbind
include hdelete hrecord

/-- One removal. -/
lemma keeps_dropUnreported (host : Host) (seen : List String) (ref : String × String) :
    Keeps F (dropUnreported env host seen ref) := by
  refine keeps_bind keeps_read fun w => ?_
  split
  · exact keeps_pure _
  · split
    · refine keeps_bind keeps_flush fun _ => keeps_bind ?_ fun _ => ?_
      · split
        · exact keeps_pure _
        · exact hrecord _
      · exact keeps_bind (keeps_clearVmState hstates _) fun _ => keeps_modify fun w => hdelete w _
    · exact keeps_pure _

include hid htombs hstore hadd hunbind

/-- The two loops. -/
lemma keeps_reconcile (host : Host) (items : List Json) : Keeps F (reconcile env host items) := by
  refine keeps_bind keeps_read fun w => ?_
  dsimp only
  refine keeps_bind (keeps_foldlM
    (fun _ _ _ => keeps_reconcileItem hid hstates hstore hadd hunbind _ _ _ _) _) fun scan => ?_
  refine keeps_bind (keeps_foldlM
    (fun _ _ _ => keeps_dropUnreported hstates hdelete hrecord _ _ _) _) fun _ => ?_
  exact keeps_bind (keeps_modify fun w => htombs w _) fun _ => keeps_pure _

include hthumbs

/-- The handler of a snapshot. -/
theorem keeps_applyVmInventory (hostId : String) (payload : Json) :
    Keeps F (applyVmInventory env hostId payload) := by
  refine keeps_bind keeps_read fun w => ?_
  split
  · exact keeps_pure _
  · refine keeps_bind (keeps_ofExcept _) fun d => keeps_bind (keeps_ofExcept _) fun items => ?_
    refine keeps_bind
      (keeps_reconcile hid hstates htombs hstore hadd hdelete hrecord hunbind _ _) fun scan => ?_
    split
    · exact keeps_pure _
    · refine keeps_bind keeps_flush fun _ => ?_
      exact keeps_bind (keeps_modify fun w => hthumbs w _) fun _ => keeps_flush

end Snapshot

end OpenVCenter
