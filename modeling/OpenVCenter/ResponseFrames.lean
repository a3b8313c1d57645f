import OpenVCenter.Lifecycle

set_option relaxedAutoImplicit false
set_option autoImplicit false

/-!
# What the refresh of a response may touch

The part of `apply_response` behind the lifecycle change writes VM rows, a host, a template and
the cache. A frame of the state that admits each of these writes is kept by the whole part; the
assumptions of a section say which writes a frame must admit.

## Main results

* `OpenVCenter.keeps_applyResponseVmStatus` — rows are updated in place.
* `OpenVCenter.keeps_applyResponseState` — rows are updated or deleted, overlays and tombstones
  written.
* `OpenVCenter.keeps_applyRefresh` — the whole part.
* `OpenVCenter.applyBestEffort_returns`, `OpenVCenter.applyBestEffort_tasks`,
  `OpenVCenter.applyBestEffort_consistent` — the best-effort part does not raise, and leaves the
  tasks and the constraints of the database alone.
-/

namespace OpenVCenter

open Effect

variable {env : Env} {F : Frame World} {α : Type}

/-- The task, as its response ended it, takes the row of its target away. -/
def Task.RemovesTarget (task : Task) : Prop :=
  (task.kind.makesPlaceholder = true ∧ task.status ≠ .succeeded) ∨
    (task.kind = .vm_delete ∧ task.status = .succeeded)

/-- Where a host stands: its key, its cluster and what it runs. -/
def Host.station (h : Host) : String × Option String × Json := (h.id, h.clusterId, h.hypervisor)

/-- The row is that of a host as it stands. -/
def Db.Restates (db : Db) (h : Host) : Prop :=
  ∃ host, db.host h.id = some host ∧ h.station = host.station

/-- A change of a host that is read, with its station as it was. -/
lemma restates_of_host {db : Db} {hostId : String} {host h : Host}
    (hhost : db.host hostId = some host) (hstation : h.station = host.station) :
    db.Restates h := by
  obtain rfl : host.id = hostId := Table.key_of_lookup hhost
  obtain hid : h.id = host.id := congrArg Prod.fst hstation
  exact ⟨host, hid ▸ hhost, hstation⟩

/-- `ofOption` writes nothing. -/
lemma keeps_ofOption {e : Raised} (x : Option α) : Keeps F (M.ofOption e x) := by
  cases x with
  | none => exact keeps_raise e
  | some a => exact keeps_pure a

/-- Drawing an identifier draws one. -/
lemma keeps_newId (hid : ∀ w n, w.nextId ≤ n → F.rel w { w with nextId := n }) :
    Keeps F (newId env) :=
  fun w => hid w _ (Nat.le_succ _)

/-- Programs that take no identifier back. -/
def drawnFrame : Frame World where
  rel w t := w.nextId ≤ t.nextId
  refl _ := le_rfl
  trans := le_trans

/-- A savepoint whose body stays in a frame does, as soon as a rollback does. -/
lemma rel_savepoint (hroll : ∀ s t, F.rel s t → F.rel s (rollback s t)) {m : M α} {s : World}
    (h : F.rel s (m s).2) : F.rel s (savepoint m s).2 := by
  rcases savepoint_cases m s with ⟨a, t, hm, -, hr⟩ | ⟨e, hr⟩
  · rw [hr]
    rwa [hm] at h
  · rw [hr]
    exact hroll s _ h

/-- A savepoint keeps what a rollback keeps. -/
lemma keeps_savepoint (hroll : ∀ s t, F.rel s t → F.rel s (rollback s t)) {m : M α}
    (hm : Keeps F m) : Keeps F (savepoint m) := fun s => rel_savepoint hroll (hm s)

/-- A row that is found by its GUID. -/
lemma vmByGuid_eq_some {db : Db} {hostId u : String} {vm : Vm}
    (h : vmByGuid db hostId u = .ok (some vm)) :
    vm ∈ db.vms ∧ vm.vmUuid = some u ∧ vm.hostId = hostId := by
  unfold vmByGuid at h
  have hmem : vm ∈ db.vms.filter fun v => decide (v.vmUuid = some u ∧ v.hostId = hostId) := by
    split at h
    · cases h
    · rename_i v hone
      cases h
      rw [hone]
      exact List.mem_singleton_self _
    · cases h
  obtain ⟨hrow, hcond⟩ := List.mem_filter.mp hmem
  simp only [decide_eq_true_eq] at hcond
  exact ⟨hrow, hcond⟩

section Writes

variable (hstates : ∀ w s, F.rel w { w with cache := { w.cache with vmStates := s } })
  (hstore : ∀ w v, F.rel w { w with db := w.db.storeVm v })

section Overlay

include hstates

/-- An overlay is set in the cache. -/
lemma keeps_setVmState (vmId : String) (state : Json) : Keeps F (setVmState env vmId state) :=
  keeps_bind (keeps_ofOption _) fun _ => keeps_read_bind fun w => hstates w _

/-- An overlay is cleared in the cache. -/
lemma keeps_clearVmState (vmId : String) : Keeps F (clearVmState vmId) := fun w => hstates w _

end Overlay

include hstates hstore

/-- One attached object updates one row. -/
lemma keeps_refreshItem (host : Host) (updated : Bool) (raw : Dict) :
    Keeps F (refreshItem env host updated raw) := by
  refine keeps_bind (keeps_ofExcept _) fun item => ?_
  split
  · split
    · refine keeps_bind keeps_flush fun _ => keeps_bind keeps_read fun w => ?_
      refine keeps_bind (keeps_ofExcept _) fun row => ?_
      cases row with
      | none => exact keeps_pure _
      | some vm =>
        refine keeps_bind (keeps_ofExcept _) fun vm' => ?_
        refine keeps_bind (keeps_modify fun w => hstore w vm') fun _ => ?_
        exact keeps_bind (keeps_setVmState hstates _ _) fun _ => keeps_pure _
    · exact keeps_raise _
  · exact keeps_pure _

/-- The attached objects update rows in place. -/
theorem keeps_applyResponseVmStatus (hostId : String) (resp : AgentResponse) :
    Keeps F (applyResponseVmStatus env hostId resp) := by
  unfold applyResponseVmStatus
  split
  · exact keeps_pure _
  · refine keeps_bind keeps_read fun w => ?_
    split
    · exact keeps_pure _
    · exact keeps_foldlM (fun _ _ _ => keeps_refreshItem hstates hstore _ _ _) _

/-- The placeholder's stamp keeps what its writes keep. -/
lemma keeps_stampPlaceholder (hostId : String) (resp : AgentResponse) (placeholder : Vm) :
    Keeps F (stampPlaceholder env hostId resp placeholder) := by
  refine keeps_bind (keeps_modify fun w => hstore w _) fun _ => ?_
  refine keeps_bind (keeps_setVmState hstates _ _) fun _ => ?_
  refine keeps_bind keeps_flush fun _ => ?_
  exact keeps_bind (keeps_applyResponseVmStatus hstates hstore _ _) fun _ => keeps_pure _

/-- So does what follows a success. -/
lemma keeps_applySuccess (hostId : String) (resp : AgentResponse) :
    Keeps F (applySuccess env hostId resp) := by
  refine keeps_bind (keeps_applyResponseVmStatus hstates hstore _ _) fun applied => ?_
  split
  · split
    · exact keeps_pure _
    · refine keeps_bind keeps_flush fun _ => keeps_bind keeps_read fun w => ?_
      refine keeps_bind (keeps_ofExcept _) fun row => ?_
      cases row with
      | none => exact keeps_pure _
      | some vm =>
        exact keeps_bind (keeps_modify fun w => hstore w _) fun _ => keeps_setVmState hstates _ _
  · exact keeps_pure _

/-- So does the reverted state. -/
lemma keeps_revertState (task : Task) : Keeps F (revertState env task) := by
  unfold revertState
  split
  · split
    · refine keeps_bind keeps_read fun w => ?_
      split
      · exact keeps_pure _
      · split
        · exact keeps_bind (keeps_modify fun w => hstore w _) fun _ =>
            keeps_setVmState hstates _ _
        · exact keeps_pure _
    · exact keeps_pure _
  · exact keeps_pure _

variable {task : Task}
  (hdelete : task.RemovesTarget → ∀ w, F.rel w { w with db := w.db.deleteVm task.targetId })
  (htomb : ∀ w : World, ∀ h u t,
    F.rel w { w with cache := { w.cache with
      tombstones := Expiring.put w.cache.tombstones (h, u) w.now t } })

omit hstore in

/-- So does the dropped placeholder. -/
lemma keeps_dropPlaceholder {placeholder : Vm}
    (hdelete : ∀ w, F.rel w { w with db := w.db.deleteVm placeholder.id }) :
    Keeps F (dropPlaceholder placeholder) :=
  keeps_bind (keeps_modify hdelete) fun _ => keeps_clearVmState hstates _

omit hstore in
include htomb in

/-- So does what follows a delete. -/
lemma keeps_applyDelete
    (hdelete : ∀ w, F.rel w { w with db := w.db.deleteVm task.targetId }) (hostId : String) :
    Keeps F (applyDelete hostId task) := by
  refine keeps_bind keeps_read fun w => keeps_bind ?_ fun _ => ?_
  · split
    · unfold markVmDeleted
      split
      · exact keeps_pure _
      · exact keeps_read_bind fun w => htomb w _ _ _
    · exact keeps_pure _
  · exact keeps_bind (keeps_modify hdelete) fun _ => keeps_clearVmState hstates _

include hdelete htomb

/-- The refresh of the VM rows. -/
theorem keeps_applyResponseState (hostId : String) (resp : AgentResponse) :
    Keeps F (applyResponseState env hostId resp task) := by
  unfold applyResponseState
  split
  · rename_i hkind
    refine keeps_bind keeps_read fun w => ?_
    split
    · exact keeps_pure _
    · rename_i placeholder hvm
      have hid : placeholder.id = task.targetId := Table.key_of_lookup hvm
      split
      · exact keeps_stampPlaceholder hstates hstore _ _ _
      · rename_i hstatus
        refine keeps_dropPlaceholder hstates ?_
        rw [hid]
        exact hdelete (Or.inl ⟨hkind, hstatus⟩)
  · split
    · rename_i hdel
      exact keeps_applyDelete hstates htomb (hdelete (Or.inr hdel)) _
    · split
      · exact keeps_applySuccess hstates hstore _ _
      · split
        · exact keeps_revertState hstates hstore _
        · exact keeps_pure _

end Writes

/-! ## Hosts and templates -/

section Hosts

variable (hhost : ∀ w h, w.db.Restates h → F.rel w { w with db := w.db.storeHost h })

include hhost

/-- So does the stamped version of the agent. -/
lemma keeps_stampAgentVersion (hostId : String) (resp : AgentResponse) (task : Task) :
    Keeps F (stampAgentVersion env hostId resp task) := by
  unfold stampAgentVersion
  split
  · refine keeps_read_bind fun w => ?_
    rcases hfound : w.db.host hostId with _ | host
    · exact F.refl w
    · refine rel_bind (m := modifyDb _) ?_ fun _ t _ _ => keeps_flush t
      exact hhost w _ (restates_of_host hfound rfl)
  · exact keeps_pure _

/-- So does the answer to an action on the host. -/
lemma keeps_applyHostActionResponse (task : Task) (resp : AgentResponse) :
    Keeps F (applyHostActionResponse env task resp) := by
  unfold applyHostActionResponse
  split
  · refine keeps_read_bind fun w => ?_
    rcases hfound : w.db.host task.targetId with _ | host
    · exact F.refl w
    · dsimp only
      by_cases hhardware : host.hardware.truthy = true
      · rw [if_pos hhardware]
        refine rel_ofExcept_bind fun hardware _ => rel_ofExcept_bind fun cluster _ => ?_
        exact hhost w _ (restates_of_host hfound rfl)
      · rw [if_neg hhardware]
        exact F.refl w
  · exact keeps_pure _

end Hosts

/-- So does the template that is written. -/
lemma keeps_upsertTemplate (hid : ∀ w n, w.nextId ≤ n → F.rel w { w with nextId := n })
    (htemplates : ∀ w ts, F.rel w { w with db := { w.db with templates := ts } })
    (hostId : String) (item : Dict) : Keeps F (upsertTemplate env hostId item) := by
  refine keeps_bind ?_ fun id => keeps_bind (keeps_ofExcept _) fun row => ?_
  · split
    · split
      · exact keeps_pure _
      · exact keeps_raise _
    · exact keeps_newId hid
  · refine keeps_modify fun w => ?_
    dsimp only
    split
    · exact htemplates w _
    · exact htemplates w _

/-! ## The whole part -/

section Refresh

variable (hroll : ∀ s t, F.rel s t → F.rel s (rollback s t))
  (hid : ∀ w n, w.nextId ≤ n → F.rel w { w with nextId := n })
  (hhost : ∀ w h, w.db.Restates h → F.rel w { w with db := w.db.storeHost h })
  (htemplates : ∀ w ts, F.rel w { w with db := { w.db with templates := ts } })
  {hostId : String} {resp : AgentResponse} {task : Task}
  (hstate : Keeps F (applyResponseState env hostId resp task))

include hroll hid hhost htemplates hstate

/-- The best-effort part. -/
theorem keeps_applyBestEffort : Keeps F (applyBestEffort env hostId resp task) := by
  refine keeps_bind ?_ fun _ => keeps_bind ?_ fun _ => ?_
  · split
    · exact keeps_attempt (keeps_savepoint hroll (keeps_applyHostActionResponse hhost _ _))
    · exact keeps_pure _
  · split
    · split
      · exact keeps_attempt (keeps_savepoint hroll (keeps_upsertTemplate hid htemplates _ _))
      · exact keeps_pure _
    · exact keeps_pure _
  · exact keeps_attempt (keeps_savepoint hroll hstate)

/-- The statements from the agent version on. -/
theorem keeps_applyRefresh
    (hlock : ∀ w : World, F.rel w { w with cache := releaseLock task.targetId task.id w.cache }) :
    Keeps F (applyRefresh env hostId resp task) := by
  refine keeps_bind (keeps_stampAgentVersion hhost _ _ _) fun _ => ?_
  refine keeps_bind (keeps_applyBestEffort hroll hid hhost htemplates hstate) fun _ => ?_
  split
  · exact keeps_modify hlock
  · exact keeps_pure _

end Refresh

variable (env)

/-- The best-effort part never raises. -/
theorem applyBestEffort_returns (hostId : String) (resp : AgentResponse) (task : Task) :
    Returns (applyBestEffort env hostId resp task) := by
  refine returns_bind ?_ fun _ => returns_bind ?_ fun _ => returns_attempt _
  · split
    · exact returns_attempt _
    · exact returns_pure _
  · rcases resp.template with _ | item
    · exact returns_pure _
    · dsimp only
      split
      · exact returns_attempt _
      · exact returns_pure _

/-- The best-effort part leaves the tasks and the audit events alone. -/
theorem applyBestEffort_tasks (hostId : String) (resp : AgentResponse) (task : Task) (w : World) :
    (applyBestEffort env hostId resp task w).2.db.tasks = w.db.tasks ∧
    (applyBestEffort env hostId resp task w).2.db.auditEvents = w.db.auditEvents := by
  have h : Keeps (Frame.same fun w => (w.db.tasks, w.db.auditEvents))
      (applyBestEffort env hostId resp task) :=
    keeps_applyBestEffort (fun _ _ _ => rfl) (fun _ _ _ => rfl) (fun _ _ _ => rfl) (fun _ _ => rfl)
      (keeps_applyResponseState (fun _ _ => rfl) (fun _ _ => rfl) (fun _ _ => rfl)
        (fun _ _ _ _ => rfl) hostId resp)
  exact Prod.mk.inj (h w)

/-- The best-effort part leaves a consistent database behind. -/
theorem applyBestEffort_consistent (hostId : String) (resp : AgentResponse) (task : Task)
    {w : World} (hc : w.db.Consistent) :
    (applyBestEffort env hostId resp task w).2.db.Consistent := by
  have hsave : ∀ m : M Unit, Keeps (Frame.invariant fun w => w.db.Consistent)
      (Prog.attempt (savepoint m)) := fun m w h => savepoint_consistent h
  have h : Keeps (Frame.invariant fun w => w.db.Consistent)
      (applyBestEffort env hostId resp task) := by
    refine keeps_bind ?_ fun _ => keeps_bind ?_ fun _ => hsave _
    · split
      · exact hsave _
      · exact keeps_pure _
    · split
      · split
        · exact hsave _
        · exact keeps_pure _
      · exact keeps_pure _
  exact h w hc

end OpenVCenter
