import OpenVCenter.System
import OpenVCenter.WorkerFrames

set_option relaxedAutoImplicit false
set_option autoImplicit false

/-!
# What a request may touch

The services behind the routes draw identifiers, take and free locks, write overlays, add and
update VM rows, queue tasks and publish. A frame that admits each of these writes is kept by every
service; the assumptions of a section say which writes a frame must admit.

## Main definitions

* `OpenVCenter.Queued` — the task is in the database, waiting for its agent.

## Main results

* `OpenVCenter.keeps_requestVmAction`, `OpenVCenter.keeps_requestVmCreate`,
  `OpenVCenter.keeps_requestVmClone`, `OpenVCenter.keeps_requestHostAction`,
  `OpenVCenter.keeps_requestAgentUpgrade` — the services.
* `OpenVCenter.requestVmAction_queued` and its like — a service that returns has queued the task
  it returns.
-/

namespace OpenVCenter

open Effect

variable {env : Env} {F : Frame World} {α : Type}

/-! ## Checks

What leaves the state alone. -/

/-- A program that leaves every state alone keeps every frame. -/
lemma keeps_of_state {m : M α} (h : ∀ s, (m s).2 = s) : Keeps F m := fun s => by
  rw [h]
  exact F.refl s

/-- `ofOption` leaves the state alone. -/
lemma ofOption_state (e : Raised) (x : Option α) (s : World) : ((M.ofOption e x : M α) s).2 = s := by
  cases x <;> rfl

/-- So does `ofExcept`. -/
lemma ofExcept_state (x : Except Raised α) (s : World) : ((Prog.ofExcept x : M α) s).2 = s := by
  cases x <;> rfl

/-- So does the check that a host is online. -/
lemma requireHostOnline_state (host : Host) (s : World) : (requireHostOnline env host s).2 = s := by
  unfold requireHostOnline
  rw [Prog.read_bind_run]
  split <;> rfl

/-- So does the check of a destination. -/
lemma requireVmStorageAllowed_state (host : Host) (destination : Json) (s : World) :
    (requireVmStorageAllowed env host destination s).2 = s := by
  unfold requireVmStorageAllowed
  rcases hostIsClustered host with e | clustered
  · rfl
  rcases hardwareSection host "hyperv" with e | hyperv
  · rfl
  rcases hd : normPath env (hyperv.get "defaultVmPath") with e | defaultPath
  · simp only [Prog.ofExcept_ok, Prog.pure_bind_run, hd]; rfl
  rcases normPath env destination with e | dest
  · simp only [Prog.ofExcept_ok, Prog.pure_bind_run, hd]; rfl
  simp only [Prog.ofExcept_ok, Prog.pure_bind_run, hd]
  split_ifs <;> rfl

/-- So do the checks of a clone of a VM. -/
lemma cloneOfVm_state (host : Host) (body : VmClone) (sourceVmId : String) (s : World) :
    (cloneOfVm env host body sourceVmId s).2 = s := by
  unfold cloneOfVm
  rw [Prog.read_bind_run]
  rcases s.db.vm sourceVmId with _ | source
  · rfl
  · simp only [M.ofOption, Prog.pure_bind_run]
    split
    · rfl
    · split
      · rfl
      · split
        · rfl
        · cases source.memoryBytes <;> rfl

/-- So do the checks of a clone of a template. -/
lemma cloneOfTemplate_state (host : Host) (body : VmClone) (templateId : String) (s : World) :
    (cloneOfTemplate env host body templateId s).2 = s := by
  unfold cloneOfTemplate
  rw [Prog.read_bind_run]
  rcases s.db.template templateId with _ | template
  · rfl
  · simp only [M.ofOption, Prog.pure_bind_run]
    split_ifs <;> rfl

/-! ## Writes of the cache and the broker -/

/-- `publish_request` writes to the broker only. -/
lemma keeps_publishRequest (hpublish : ∀ w p, F.rel w { w with published := p }) (hostRef : String)
    (req : AgentRequest) : Keeps F (publishRequest hostRef req) := by
  refine keeps_bind keeps_read fun w => ?_
  split
  · exact keeps_modify fun w => hpublish w _
  · exact keeps_raise _

/-- A publication that returns leaves the tables alone. -/
lemma publishRequest_db {hostRef : String} {req : AgentRequest} {w t : World}
    (h : publishRequest hostRef req w = (.ok (), t)) : t.db = w.db := by
  have hkeeps : Keeps (Frame.same World.db) (publishRequest hostRef req) :=
    keeps_publishRequest (fun _ _ => rfl) hostRef req
  have hdb := hkeeps w
  rwa [h] at hdb

/-- An overlay that is set leaves the tables alone. -/
lemma setVmState_db {vmId : String} {state : Json} {w t : World}
    (h : setVmState env vmId state w = (.ok (), t)) : t.db = w.db := by
  have hkeeps : Keeps (Frame.same World.db) (setVmState env vmId state) :=
    keeps_setVmState (fun _ _ => rfl) vmId state
  have hdb := hkeeps w
  rwa [h] at hdb

section Locks

variable (hlocks : ∀ w l, F.rel w { w with cache := { w.cache with vmLocks := l } })

include hlocks

/-- A lock is taken in the cache only. -/
lemma keeps_acquireVmLock (vmId taskId : String) (kind : TaskKind) (requestedBy : String) :
    Keeps F (acquireVmLock env vmId taskId kind requestedBy) := by
  refine keeps_bind keeps_read fun w => ?_
  split
  · exact keeps_pure _
  · exact keeps_bind (keeps_modify fun w => hlocks w _) fun _ => keeps_pure _

/-- A lock is released in the cache only. -/
lemma rel_releaseLock (w : World) (vmId taskId : String) :
    F.rel w { w with cache := releaseLock vmId taskId w.cache } := by
  unfold releaseLock
  split
  · split
    · exact hlocks w _
    · exact F.refl w
  · exact F.refl w

/-- The cleanup after a failure keeps what the body kept. -/
lemma rel_releasingOnRaise {vmId taskId : String} {lock : Bool} {m : M α} {w₀ w : World}
    (h : F.rel w₀ (m w).2) : F.rel w₀ (releasingOnRaise vmId taskId lock m w).2 := by
  rw [releasingOnRaise_answered]
  rcases hm : m w with ⟨e | a, t⟩
  · rw [hm] at h
    dsimp only
    split
    · exact F.trans h (rel_releaseLock hlocks t vmId taskId)
    · exact h
  · rwa [hm] at h

end Locks

/-- Taking a lock draws no identifier. -/
lemma acquireVmLock_nextId {vmId taskId : String} {kind : TaskKind} {requestedBy : String}
    (w : World) :
    (acquireVmLock env vmId taskId kind requestedBy w).2.nextId = w.nextId :=
  keeps_acquireVmLock (F := Frame.same World.nextId) (fun _ _ => rfl) _ _ _ _ w

/-! ## Services

A task is queued under an identifier drawn by its request: the frame has to admit it from the state
the identifier is drawn in. -/

section Services

variable (hid : ∀ w n, w.nextId ≤ n → F.rel w { w with nextId := n })
  (hpublish : ∀ w p, F.rel w { w with published := p })
  (hqueue : ∀ w₀ w t, F.rel w₀ w → w₀.nextId < w.nextId → t.id = env.uuid w₀.nextId →
    t.status = .queued → F.rel w₀ { w with db := w.db.addTask t })

section Vms

variable (hstates : ∀ w s, F.rel w { w with cache := { w.cache with vmStates := s } })
  (hlocks : ∀ w l, F.rel w { w with cache := { w.cache with vmLocks := l } })
  (hrow : ∀ w v, F.rel w { w with db := w.db.storeVm v })
  (hrequeue : ∀ w t, t.status = .queued →
    (∃ added ∈ w.db.tasks, added.id = t.id ∧ added.status = .queued) →
    F.rel w { w with db := w.db.storeTask t })

include hpublish hqueue hstates hrow hrequeue

/-- The guarded part of a VM request, behind the draw of its identifier. -/
lemma rel_addVmTask {w₀ w : World} {taskId : String} (hrel : F.rel w₀ w)
    (hlt : w₀.nextId < w.nextId) (htask : taskId = env.uuid w₀.nextId) (vm : Vm) (host : Host)
    (vmUuid : String) (kind : TaskKind) (params : Dict) (requestedBy : String)
    (transitional : Option String) :
    F.rel w₀ (addVmTask env vm host vmUuid taskId kind params requestedBy transitional w).2 := by
  rw [addVmTask_answered]
  rw [Prog.read_bind_run, modifyDb, Prog.modify_bind_run]
  set added := vmTask taskId kind vm requestedBy w.txStart with hadded
  refine F.trans (hqueue w₀ w added hrel hlt htask rfl) ?_
  have hmem : added ∈ (w.db.addTask added).tasks :=
    List.mem_append_right _ (List.mem_singleton_self _)
  generalize hw₁ : ({ w with db := w.db.addTask added } : World) = w₁
  have hmem₁ : added ∈ w₁.db.tasks := by rw [← hw₁]; exact hmem
  refine rel_bind ?_ fun _ w₂ h₂ _ => rel_bind (keeps_flush w₂) fun _ w₃ h₃ _ => ?_
  · split
    · exact keeps_modify (fun w => hrow w _) w₁
    · exact keeps_pure _ w₁
  have hmem₃ : added ∈ w₃.db.tasks := by
    obtain ⟨-, rfl⟩ := flush_eq_ok.mp h₃
    cases transitional with
    | none => cases h₂; exact hmem₁
    | some state => cases h₂; exact hmem₁
  refine rel_bind ?_ fun _ w₄ h₄ _ => ?_
  · split
    · exact keeps_setVmState hstates _ _ w₃
    · exact keeps_pure _ w₃
  have hmem₄ : added ∈ w₄.db.tasks := by
    cases transitional with
    | none => cases h₄; exact hmem₃
    | some state => rw [setVmState_db h₄]; exact hmem₃
  refine rel_bind (hrequeue w₄ _ rfl ⟨added, hmem₄, rfl, rfl⟩) fun _ w₅ _ _ => ?_
  exact keeps_bind (keeps_publishRequest hpublish _ _) (fun _ => keeps_pure _) w₅

include hid hlocks

/-- `_queue_vm_task` keeps what its writes keep. -/
theorem keeps_queueVmTask (vm : Vm) (kind : TaskKind) (params : Dict) (requestedBy : String)
    (transitional : Option String) (lock : Bool) :
    Keeps F (queueVmTask env vm kind params requestedBy transitional lock) := by
  rw [queueVmTask_answered]
  split
  · exact keeps_raise _
  · refine keeps_bind keeps_read fun w => keeps_bind (keeps_ofOption _) fun host => ?_
    refine keeps_bind (keeps_of_state (requireHostOnline_state host)) fun _ w₀ => ?_
    refine rel_bind_from (keeps_newId hid w₀) fun taskId w₁ h₁ hrel₁ => ?_
    cases h₁
    refine rel_bind_from (F.trans hrel₁ ?_) fun taken w₂ h₂ hrel₂ => ?_
    · split
      · exact keeps_acquireVmLock hlocks _ _ _ _ _
      · exact keeps_pure _ _
    · have hnext : w₂.nextId = w₀.nextId + 1 := by
        cases lock with
        | false => cases h₂; rfl
        | true =>
          have hsame := @acquireVmLock_nextId env vm.id (env.uuid w₀.nextId) kind requestedBy
            { w₀ with nextId := w₀.nextId + 1 }
          rw [show acquireVmLock env vm.id (env.uuid w₀.nextId) kind requestedBy
            { w₀ with nextId := w₀.nextId + 1 } = (.ok taken, w₂) from h₂] at hsame
          exact hsame
      split
      · exact rel_releasingOnRaise hlocks (rel_addVmTask hpublish hqueue hstates hrow hrequeue
          hrel₂ (by omega) rfl _ _ _ _ _ _ _)
      · exact F.trans hrel₂ (keeps_bind keeps_read (fun _ => keeps_raise _) w₂)

/-- `request_vm_action` keeps what its writes keep. -/
theorem keeps_requestVmAction (vm : Vm) (action : VmAction) (requestedBy : String)
    (params : Dict) : Keeps F (requestVmAction env vm action requestedBy params) := by
  rw [requestVmAction_answered]
  split
  · exact keeps_raise _
  · refine keeps_bind ?_ fun _ =>
      keeps_queueVmTask hid hpublish hqueue hstates hlocks hrow hrequeue _ _ _ _ _ _
    split
    · refine keeps_bind (keeps_ofExcept _) fun dest => ?_
      split
      · exact keeps_raise _
      · refine keeps_bind keeps_read fun w => keeps_bind (keeps_ofOption _) fun host => ?_
        exact keeps_of_state (requireVmStorageAllowed_state host _)
    · exact keeps_pure _

end Vms

section Provision

variable (hlocks : ∀ w l, F.rel w { w with cache := { w.cache with vmLocks := l } })
  (hadd : ∀ w v, F.rel w { w with db := w.db.addVm v })

include hid hpublish hqueue hlocks hadd

/-- What create and clone do with their placeholder. -/
theorem keeps_provision (host : Host) (kind : TaskKind) (vm : String → Vm) (params : Vm → Dict)
    (requestedBy : String) : Keeps F (provision env host kind vm params requestedBy) := by
  rw [provision_answered]
  refine keeps_bind (keeps_newId hid) fun vmId => keeps_bind (keeps_modify fun w => hadd w _) ?_
  refine fun _ => keeps_bind keeps_flush fun _ w₀ => ?_
  refine rel_bind_from (keeps_newId hid w₀) fun taskId w₁ h₁ hrel₁ => ?_
  cases h₁
  refine rel_bind_from (F.trans hrel₁ (keeps_acquireVmLock hlocks _ _ _ _ _)) fun _ w₂ h₂ hrel₂ => ?_
  have hnext : w₂.nextId = w₀.nextId + 1 := by
    have hsame := @acquireVmLock_nextId env (vm vmId).id (env.uuid w₀.nextId) kind requestedBy
      { w₀ with nextId := w₀.nextId + 1 }
    rwa [h₂] at hsame
  rw [Prog.read_bind_run]
  refine rel_bind_from ?_ fun _ w₃ _ hrel₃ => F.trans hrel₃ (keeps_bind keeps_flush (fun _ => ?_) w₃)
  · exact hqueue w₀ w₂ _ hrel₂ (by omega) rfl rfl
  exact keeps_bind (keeps_publishRequest hpublish _ _) fun _ => keeps_pure _

/-- `request_vm_create` keeps what its writes keep. -/
theorem keeps_requestVmCreate (host : Host) (body : VmCreate) (requestedBy : String) :
    Keeps F (requestVmCreate env host body requestedBy) := by
  refine keeps_bind (keeps_of_state (requireHostOnline_state host)) fun _ => ?_
  refine keeps_bind (keeps_of_state (requireVmStorageAllowed_state host _)) fun _ => ?_
  exact keeps_provision hid hpublish hqueue hlocks hadd _ _ _ _ _

/-- `request_vm_clone` keeps what its writes keep. -/
theorem keeps_requestVmClone (body : VmClone) (host : Host) (requestedBy : String) :
    Keeps F (requestVmClone env body host requestedBy) := by
  refine keeps_bind (keeps_of_state (requireHostOnline_state host)) fun _ => ?_
  refine keeps_bind (keeps_of_state (requireVmStorageAllowed_state host _)) fun _ => ?_
  refine keeps_bind ?_ fun spec => keeps_provision hid hpublish hqueue hlocks hadd _ _ _ _ _
  split
  · exact keeps_of_state (cloneOfVm_state host body _)
  · exact keeps_of_state (cloneOfTemplate_state host body _)

end Provision

section Hosts

include hid hpublish hqueue

/-- The task of a host request. -/
lemma keeps_queueHostRequest (host : Host) (kind : TaskKind) (params : Dict)
    (requestedBy : String) : Keeps F (queueHostTask env host kind params requestedBy) := by
  intro w₀
  refine rel_bind_from (keeps_newId hid w₀) fun taskId w₁ h₁ hrel₁ => ?_
  cases h₁
  rw [Prog.read_bind_run]
  refine rel_bind_from ?_ fun _ w₂ _ hrel₂ => F.trans hrel₂ (keeps_bind keeps_flush (fun _ => ?_) w₂)
  · exact hqueue w₀ _ _ hrel₁ (Nat.lt_succ_self _) rfl rfl
  exact keeps_bind (keeps_publishRequest hpublish _ _) fun _ => keeps_pure _

/-- `request_host_action` keeps what its writes keep. -/
theorem keeps_hostRequest (host : Host) (action : HostAction) (requestedBy : String) :
    Keeps F (requestHostAction env host action requestedBy) := by
  refine keeps_bind keeps_read fun w => keeps_bind (keeps_ofExcept _) fun _ => ?_
  exact keeps_queueHostRequest hid hpublish hqueue _ _ _ _

/-- `request_agent_upgrade` keeps what its writes keep. -/
theorem keeps_upgradeRequest (host : Host) (version checksum : String) (url : Option String)
    (requestedBy : String) :
    Keeps F (requestAgentUpgrade env host version checksum url requestedBy) := by
  refine keeps_bind keeps_read fun w => keeps_bind (keeps_ofExcept _) fun params => ?_
  exact keeps_queueHostRequest hid hpublish hqueue _ _ _ _

end Hosts

end Services

/-! ## The task of a request -/

/-- The task is a row of the database, waiting for its agent. -/
def Queued (db : Db) (task : Task) : Prop := task ∈ db.tasks ∧ task.status = .queued

/-- A row of `tasks` that was just added and is written again is there. -/
lemma queued_storeTask {db : Db} {task added : Task} (hmem : added ∈ db.tasks)
    (hid : added.id = task.id) (hstatus : task.status = .queued) :
    Queued (db.storeTask task) task :=
  ⟨Table.mem_store.mpr (Or.inr ⟨rfl, added, hmem, hid⟩), hstatus⟩

/-- The task of `_add_vm_task` is queued. -/
lemma addVmTask_queued {vm : Vm} {host : Host} {vmUuid taskId : String} {kind : TaskKind}
    {params : Dict} {requestedBy : String} {transitional : Option String} {task : Task} {w t : World}
    (h : addVmTask env vm host vmUuid taskId kind params requestedBy transitional w =
      (.ok task, t)) : Queued t.db task := by
  rw [addVmTask_answered] at h
  rw [Prog.read_bind_run, modifyDb, Prog.modify_bind_run] at h
  obtain ⟨⟨⟩, w₁, h₁, h⟩ := Prog.bind_eq_ok.mp h
  obtain ⟨⟨⟩, w₂, h₂, h⟩ := Prog.bind_eq_ok.mp h
  obtain ⟨⟨⟩, w₃, h₃, h⟩ := Prog.bind_eq_ok.mp h
  rw [modifyDb, Prog.modify_bind_run] at h
  obtain ⟨⟨⟩, w₄, h₄, h⟩ := Prog.bind_eq_ok.mp h
  have hadded : vmTask taskId kind vm requestedBy w.txStart ∈ w₁.db.tasks := by
    cases transitional with
    | none =>
      cases h₁
      exact List.mem_append_right _ (List.mem_singleton_self _)
    | some state =>
      cases h₁
      exact List.mem_append_right _ (List.mem_singleton_self _)
  have hdb : w₃.db = w₁.db := by
    obtain ⟨-, rfl⟩ := flush_eq_ok.mp h₂
    cases transitional with
    | none =>
      cases h₃
      rfl
    | some state => exact setVmState_db h₃
  cases h
  rw [publishRequest_db h₄]
  rw [← hdb] at hadded
  exact queued_storeTask hadded rfl rfl

/-- The task of `_queue_vm_task` is queued. -/
theorem queueVmTask_queued {vm : Vm} {kind : TaskKind} {params : Dict} {requestedBy : String}
    {transitional : Option String} {lock : Bool} {task : Task} {w t : World}
    (h : queueVmTask env vm kind params requestedBy transitional lock w = (.ok task, t)) :
    Queued t.db task := by
  rw [queueVmTask_answered] at h
  rcases hguid : nonEmpty vm.vmUuid with _ | vmUuid
  · rw [hguid] at h
    cases h
  · rw [hguid] at h
    dsimp only at h
    rw [Prog.read_bind_run] at h
    obtain ⟨host, w₁, -, h⟩ := Prog.bind_eq_ok.mp h
    obtain ⟨⟨⟩, w₂, -, h⟩ := Prog.bind_eq_ok.mp h
    obtain ⟨taskId, w₃, -, h⟩ := Prog.bind_eq_ok.mp h
    obtain ⟨taken, w₄, -, h⟩ := Prog.bind_eq_ok.mp h
    split at h
    · exact addVmTask_queued (releasingOnRaise_eq_ok.mp h)
    · cases h

/-- The task of an action is queued. -/
theorem requestVmAction_queued {vm : Vm} {action : VmAction} {requestedBy : String}
    {params : Dict} {task : Task} {w t : World}
    (h : requestVmAction env vm action requestedBy params w = (.ok task, t)) :
    Queued t.db task := by
  rw [requestVmAction_answered] at h
  split at h
  · cases h
  · obtain ⟨⟨⟩, w₁, -, h⟩ := Prog.bind_eq_ok.mp h
    exact queueVmTask_queued h

/-- The task of a placeholder is queued. -/
theorem provision_queued {host : Host} {kind : TaskKind} {vm : String → Vm} {params : Vm → Dict}
    {requestedBy : String} {row : Vm × Task} {w t : World}
    (h : provision env host kind vm params requestedBy w = (.ok row, t)) : Queued t.db row.2 := by
  rw [provision_answered] at h
  obtain ⟨vmId, w₁, -, h⟩ := Prog.bind_eq_ok.mp h
  rw [modifyDb, Prog.modify_bind_run] at h
  obtain ⟨⟨⟩, w₂, -, h⟩ := Prog.bind_eq_ok.mp h
  obtain ⟨taskId, w₃, -, h⟩ := Prog.bind_eq_ok.mp h
  obtain ⟨taken, w₄, -, h⟩ := Prog.bind_eq_ok.mp h
  rw [Prog.read_bind_run, modifyDb, Prog.modify_bind_run] at h
  obtain ⟨⟨⟩, w₅, h₅, h⟩ := Prog.bind_eq_ok.mp h
  obtain ⟨⟨⟩, w₆, h₆, h⟩ := Prog.bind_eq_ok.mp h
  cases h
  obtain ⟨-, rfl⟩ := flush_eq_ok.mp h₅
  rw [publishRequest_db h₆]
  exact ⟨List.mem_append_right _ (List.mem_singleton_self _), rfl⟩

/-- The task of a new VM is queued. -/
theorem requestVmCreate_queued {host : Host} {body : VmCreate} {requestedBy : String}
    {row : Vm × Task} {w t : World}
    (h : requestVmCreate env host body requestedBy w = (.ok row, t)) : Queued t.db row.2 := by
  obtain ⟨⟨⟩, w₁, -, h⟩ := Prog.bind_eq_ok.mp h
  obtain ⟨⟨⟩, w₂, -, h⟩ := Prog.bind_eq_ok.mp h
  exact provision_queued h

/-- The task of a clone is queued. -/
theorem requestVmClone_queued {host : Host} {body : VmClone} {requestedBy : String}
    {row : Vm × Task} {w t : World}
    (h : requestVmClone env body host requestedBy w = (.ok row, t)) : Queued t.db row.2 := by
  obtain ⟨⟨⟩, w₁, -, h⟩ := Prog.bind_eq_ok.mp h
  obtain ⟨⟨⟩, w₂, -, h⟩ := Prog.bind_eq_ok.mp h
  obtain ⟨spec, w₃, -, h⟩ := Prog.bind_eq_ok.mp h
  exact provision_queued h

/-- The task of a host is queued. -/
lemma queueHostTask_queued {host : Host} {kind : TaskKind} {params : Dict} {requestedBy : String}
    {task : Task} {w t : World}
    (h : queueHostTask env host kind params requestedBy w = (.ok task, t)) : Queued t.db task := by
  unfold queueHostTask at h
  obtain ⟨taskId, w₁, -, h⟩ := Prog.bind_eq_ok.mp h
  rw [Prog.read_bind_run, modifyDb, Prog.modify_bind_run] at h
  obtain ⟨⟨⟩, w₂, h₂, h⟩ := Prog.bind_eq_ok.mp h
  obtain ⟨⟨⟩, w₃, h₃, h⟩ := Prog.bind_eq_ok.mp h
  cases h
  obtain ⟨-, rfl⟩ := flush_eq_ok.mp h₂
  rw [publishRequest_db h₃]
  exact ⟨List.mem_append_right _ (List.mem_singleton_self _), rfl⟩

/-- The task of a host's action is queued. -/
theorem requestHostAction_queued {host : Host} {action : HostAction} {requestedBy : String}
    {task : Task} {w t : World}
    (h : requestHostAction env host action requestedBy w = (.ok task, t)) : Queued t.db task := by
  unfold requestHostAction at h
  rw [Prog.read_bind_run] at h
  obtain ⟨-, w₁, -, h⟩ := Prog.bind_eq_ok.mp h
  exact queueHostTask_queued h

/-- The task of an upgrade is queued. -/
theorem requestAgentUpgrade_queued {host : Host} {version checksum : String} {url : Option String}
    {requestedBy : String} {task : Task} {w t : World}
    (h : requestAgentUpgrade env host version checksum url requestedBy w = (.ok task, t)) :
    Queued t.db task := by
  unfold requestAgentUpgrade at h
  rw [Prog.read_bind_run] at h
  obtain ⟨params, w₁, -, h⟩ := Prog.bind_eq_ok.mp h
  exact queueHostTask_queued h

end OpenVCenter
