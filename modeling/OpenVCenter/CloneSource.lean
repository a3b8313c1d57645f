import OpenVCenter.AcceptedRequests
import OpenVCenter.AuditFrame
import OpenVCenter.Estate
import OpenVCenter.RequestFrames

set_option relaxedAutoImplicit false
set_option autoImplicit false

/-!
# The source of a clone

A clone of a VM takes the lock of its placeholder, not that of the VM it is made from: all that is
asked of the source is that it is off. This file says which requests let a clone and another
operation on its source overlap.

## Main definitions

* `OpenVCenter.Accepted` — the transaction of an event is committed.
* `OpenVCenter.Sourced` — a committed state, and the source VM of each clone task.
* `OpenVCenter.Sourced.Apart` — no VM is the source of a clone and the target of a task of a kind
  that takes the lock, both in flight.
* `OpenVCenter.Sourced.Admitted` — a request that keeps them apart.

## Main results

* `OpenVCenter.step_goesOn` — what the events that queue no task for a VM do to the tasks in flight.
* `OpenVCenter.Sourced.apart_step_iff` — one step.
* `OpenVCenter.clone_source_iff` — every state of a run.
-/

namespace OpenVCenter

open Effect

variable {env : Env} {w t : World}

/-! ## Accepted requests -/

/-- The handler of the event returns, and what it leaves is committed. -/
def Accepted (env : Env) (s : Committed) (e : Event) : Prop :=
  ∃ m t, e.handler env = some m ∧
    m { s.world with txStart := s.world.now - e.lag } = (.ok (), t) ∧ t.db.Consistent

/-- An accepted event is committed. -/
lemma step_accepted {s : Committed} {e : Event} {m : M Unit} (hm : e.handler env = some m)
    (hrun : m { s.world with txStart := s.world.now - e.lag } = (.ok (), t))
    (hc : t.db.Consistent) : (System.step env s e).world = t := by
  rw [System.step_handler hm, sessionScope, savepoint_eq_ok.mpr ⟨hrun, hc⟩]

/-- The database after a refused event is as it was. -/
lemma step_refused {s : Committed} {e : Event} (h : ¬ Accepted env s e) :
    (System.step env s e).world.db = s.world.db := by
  rcases hm : e.handler env with _ | m
  · cases e with
    | tick elapsed => rfl
    | broker up => rfl
    | _ => cases hm
  · rw [System.step_handler hm]
    rcases savepoint_cases m { s.world with txStart := s.world.now - e.lag } with
      ⟨⟨⟩, t, hrun, hc, -⟩ | ⟨err, hsave⟩
    · exact absurd ⟨m, t, hm, hrun, hc⟩ h
    · rw [sessionScope, hsave]
      rfl

/-! ## The task of a request -/

/-- The program has queued one task, of the kind and for the target, and left the others alone. -/
def QueuesOne (kind : TaskKind) (targetId : String) (w t : World) : Prop :=
  ∃ task : Task, t.db.tasks = w.db.tasks ++ [task] ∧ task.kind = kind ∧ task.targetId = targetId ∧
    task.status = .queued

/-- Only the tables before and the tasks after matter. -/
lemma QueuesOne.congr {kind : TaskKind} {targetId : String} {w' t' : World}
    (h : QueuesOne kind targetId w t) (hw : w.db = w'.db) (ht : t'.db.tasks = t.db.tasks) :
    QueuesOne kind targetId w' t' := by
  obtain ⟨task, htasks, hrest⟩ := h
  exact ⟨task, by rw [ht, htasks, hw], hrest⟩

/-- A program that leaves the database alone. -/
lemma db_of_keeps {α : Type} {m : M α} {a : α} (hm : Keeps (Frame.same World.db) m)
    (hrun : m w = (.ok a, t)) : t.db = w.db := by
  have hdb := hm w
  rwa [hrun] at hdb

/-- A program that leaves the state alone. -/
lemma state_of_ok {α : Type} {m : M α} {a : α} (hm : ∀ s, (m s).2 = s) (hrun : m w = (.ok a, t)) :
    t = w := by
  have hstate := hm w
  rwa [hrun] at hstate

/-- `_add_vm_task` queues one task for its VM. -/
lemma addVmTask_one {vm : Vm} {host : Host} {vmUuid taskId : String} {kind : TaskKind}
    {params : Dict} {requestedBy : String} {transitional : Option String} {task : Task}
    (h : addVmTask env vm host vmUuid taskId kind params requestedBy transitional w =
      (.ok task, t)) : QueuesOne kind vm.id w t := by
  rw [addVmTask_answered] at h
  rw [Prog.read_bind_run, modifyDb, Prog.modify_bind_run] at h
  obtain ⟨⟨⟩, w₁, h₁, h⟩ := Prog.bind_eq_ok.mp h
  obtain ⟨⟨⟩, w₂, h₂, h⟩ := Prog.bind_eq_ok.mp h
  obtain ⟨⟨⟩, w₃, h₃, h⟩ := Prog.bind_eq_ok.mp h
  rw [modifyDb, Prog.modify_bind_run] at h
  obtain ⟨⟨⟩, w₄, h₄, h⟩ := Prog.bind_eq_ok.mp h
  cases h
  set added := vmTask taskId kind vm requestedBy w.txStart with hadded
  have hadd : w₁.db.tasks = w.db.tasks ++ [added] := by
    cases transitional with
    | none =>
      cases h₁
      rfl
    | some state =>
      cases h₁
      rfl
  obtain ⟨hc, rfl⟩ := flush_eq_ok.mp h₂
  have hdb : w₃.db = w₂.db := by
    cases transitional with
    | none =>
      cases h₃
      rfl
    | some state => exact setVmState_db h₃
  -- the flush has seen that no other task has the key
  have hfresh : ∀ x ∈ w.db.tasks, x.id ≠ added.id := by
    have hn := hc.keyed.taskIds
    rw [hadd, List.map_append, List.map_singleton, List.nodup_append] at hn
    exact fun x hx => hn.2.2 _ (List.mem_map_of_mem hx) _ (List.mem_singleton_self _)
  refine ⟨{ added with requestPayload :=
    (agentRequest env w.now added (params.set "vm_id" (.str vmUuid))).modelDump }, ?_, rfl, rfl, rfl⟩
  rw [publishRequest_db h₄]
  change Table.store Task.id _ w₃.db.tasks = _
  rw [hdb, hadd]
  exact Table.store_append_singleton rfl hfresh

/-- So does `_queue_vm_task`. -/
lemma queueVmTask_one {vm : Vm} {kind : TaskKind} {params : Dict} {requestedBy : String}
    {transitional : Option String} {lock : Bool} {task : Task}
    (h : queueVmTask env vm kind params requestedBy transitional lock w = (.ok task, t)) :
    QueuesOne kind vm.id w t := by
  rw [queueVmTask_answered] at h
  rcases hguid : nonEmpty vm.vmUuid with _ | vmUuid
  · rw [hguid] at h
    cases h
  · rw [hguid] at h
    dsimp only at h
    rw [Prog.read_bind_run] at h
    obtain ⟨host, w₁, h₁, h⟩ := Prog.bind_eq_ok.mp h
    obtain ⟨⟨⟩, w₂, h₂, h⟩ := Prog.bind_eq_ok.mp h
    obtain ⟨taskId, w₃, h₃, h⟩ := Prog.bind_eq_ok.mp h
    obtain ⟨taken, w₄, h₄, h⟩ := Prog.bind_eq_ok.mp h
    have hdb : w₄.db = w.db := by
      have htaken : Keeps (Frame.same World.db)
          (if lock = true then acquireVmLock env vm.id taskId kind requestedBy else pure true) := by
        split
        · exact keeps_acquireVmLock (fun _ _ => rfl) _ _ _ _
        · exact keeps_pure _
      rw [db_of_keeps htaken h₄, db_of_keeps (keeps_newId fun _ _ _ => rfl) h₃,
        db_of_keeps (keeps_of_state (requireHostOnline_state host)) h₂,
        db_of_keeps (keeps_ofOption _) h₁]
    split at h
    · exact (addVmTask_one (releasingOnRaise_eq_ok.mp h)).congr hdb rfl
    · cases h

/-- So does `request_vm_action`. -/
lemma requestVmAction_one {vm : Vm} {action : VmAction} {requestedBy : String}
    {params : Dict} {task : Task}
    (h : requestVmAction env vm action requestedBy params w = (.ok task, t)) :
    QueuesOne action.function.1 vm.id w t := by
  rw [requestVmAction_answered] at h
  split at h
  · cases h
  · obtain ⟨⟨⟩, w₁, h₁, h⟩ := Prog.bind_eq_ok.mp h
    refine (queueVmTask_one h).congr (db_of_keeps ?_ h₁) rfl
    split
    · refine keeps_bind (keeps_ofExcept _) fun dest => ?_
      split
      · exact keeps_raise _
      · refine keeps_bind keeps_read fun w => keeps_bind (keeps_ofOption _) fun host => ?_
        exact keeps_of_state (requireVmStorageAllowed_state host _)
    · exact keeps_pure _

/-- A new placeholder gets one task. -/
lemma provision_one {host : Host} {kind : TaskKind} {vm : String → Vm} {params : Vm → Dict}
    {requestedBy : String} {row : Vm × Task} (hvm : ∀ id, (vm id).id = id)
    (h : provision env host kind vm params requestedBy w = (.ok row, t)) :
    QueuesOne kind (env.uuid w.nextId) w t := by
  rw [provision_answered] at h
  obtain ⟨vmId, w₁, h₁, h⟩ := Prog.bind_eq_ok.mp h
  rw [modifyDb, Prog.modify_bind_run] at h
  obtain ⟨⟨⟩, w₂, h₂, h⟩ := Prog.bind_eq_ok.mp h
  obtain ⟨taskId, w₃, h₃, h⟩ := Prog.bind_eq_ok.mp h
  obtain ⟨taken, w₄, h₄, h⟩ := Prog.bind_eq_ok.mp h
  rw [Prog.read_bind_run, modifyDb, Prog.modify_bind_run] at h
  obtain ⟨⟨⟩, w₅, h₅, h⟩ := Prog.bind_eq_ok.mp h
  obtain ⟨⟨⟩, w₆, h₆, h⟩ := Prog.bind_eq_ok.mp h
  cases h
  cases h₁
  obtain ⟨-, rfl⟩ := flush_eq_ok.mp h₂
  obtain ⟨-, rfl⟩ := flush_eq_ok.mp h₅
  have htasks : w₄.db.tasks = w.db.tasks := by
    rw [db_of_keeps (keeps_acquireVmLock (fun _ _ => rfl) _ _ _ _) h₄,
      db_of_keeps (keeps_newId fun _ _ _ => rfl) h₃]
    rfl
  set added := vmTask taskId kind (vm (env.uuid w.nextId)) requestedBy w₄.txStart
  refine ⟨{ added with requestPayload :=
    (agentRequest env w₄.now added (params (vm (env.uuid w.nextId)))).modelDump },
    ?_, rfl, hvm _, rfl⟩
  rw [publishRequest_db h₆]
  exact congrArg (· ++ [_]) htasks

/-- The tasks after the event of a request has been recorded. -/
lemma record_tasks {actor : Option User} {action : String} {target : TargetRef}
    {task : Option Task} {details : Json}
    (h : record env actor action target task details w = (.ok (), t)) : t.db.tasks = w.db.tasks := by
  have hkeeps : Keeps (Frame.same fun w => w.db.tasks)
      (record env actor action target task details) :=
    keeps_record (fun _ _ _ => rfl) (fun _ _ => rfl) _ _ _ _ _
  have htasks := hkeeps w
  rwa [h] at htasks

/-- `_get_vm` returns a row of the table. -/
lemma getVm_eq_ok {vmId : String} {vm : Vm} (h : getVm vmId w = (.ok vm, t)) :
    t = w ∧ vm ∈ w.db.vms ∧ vm.id = vmId := by
  unfold getVm at h
  rw [Prog.read_bind_run] at h
  rcases hrow : w.db.vm vmId with _ | row
  · rw [hrow] at h
    cases h
  · rw [hrow] at h
    cases h
    exact ⟨rfl, Table.mem_of_lookup hrow, Table.key_of_lookup hrow⟩

/-- The route of an action queues one task for its VM. -/
lemma vmAction_one {user : User} {vmId : String} {action : VmAction} {params : Dict}
    (h : vmAction env user vmId action params w = (.ok (), t)) :
    QueuesOne action.function.1 vmId w t := by
  unfold vmAction at h
  split at h
  · cases h
  · obtain ⟨vm, w₁, h₁, hrequest⟩ := Prog.bind_eq_ok.mp h
    obtain ⟨rfl, -, rfl⟩ := getVm_eq_ok h₁
    obtain ⟨task, w₂, h₂, hrecord⟩ := Prog.bind_eq_ok.mp hrequest
    split at hrecord
    · cases hrecord
      exact requestVmAction_one h₂
    · exact (requestVmAction_one h₂).congr rfl (record_tasks hrecord)

/-- So does the route that deletes it. -/
lemma deleteVm_one {user : User} {vmId : String} {removeFiles : Bool}
    (h : deleteVm env user vmId removeFiles w = (.ok (), t)) : QueuesOne .vm_delete vmId w t := by
  obtain ⟨vm, w₁, h₁, hrequest⟩ := Prog.bind_eq_ok.mp h
  obtain ⟨rfl, -, rfl⟩ := getVm_eq_ok h₁
  obtain ⟨task, w₂, h₂, hrecord⟩ := Prog.bind_eq_ok.mp hrequest
  exact (requestVmAction_one h₂).congr rfl (record_tasks hrecord)

/-- The route that creates a VM queues one task for the new row. -/
lemma createVm_one {user : User} {body : VmCreate}
    (h : createVm env user body w = (.ok (), t)) :
    QueuesOne .vm_create (env.uuid w.nextId) w t := by
  unfold createVm at h
  rw [Prog.read_bind_run] at h
  obtain ⟨host, w₁, h₁, hrequest⟩ := Prog.bind_eq_ok.mp h
  obtain ⟨⟨vm, task⟩, w₂, h₂, hrecord⟩ := Prog.bind_eq_ok.mp hrequest
  obtain ⟨⟨⟩, w₃, h₃, hrest⟩ := Prog.bind_eq_ok.mp h₂
  obtain ⟨⟨⟩, w₄, h₄, hprovision⟩ := Prog.bind_eq_ok.mp hrest
  have hw₁ := state_of_ok (ofOption_state _ _) h₁
  have hw₃ := state_of_ok (requireHostOnline_state host) h₃
  have hw₄ := state_of_ok (requireVmStorageAllowed_state host _) h₄
  subst hw₁ hw₃ hw₄
  exact (provision_one (fun _ => rfl) hprovision).congr rfl (record_tasks hrecord)

/-- A clone is made from a row that is there. -/
lemma cloneVm_one {user : User} {body : VmClone}
    (h : cloneVm env user body w = (.ok (), t)) :
    QueuesOne .vm_clone (env.uuid w.nextId) w t ∧
      ∀ id, body.source = .vm id → ∃ row ∈ w.db.vms, row.id = id := by
  unfold cloneVm at h
  rw [Prog.read_bind_run] at h
  obtain ⟨host, w₁, h₁, hrequest⟩ := Prog.bind_eq_ok.mp h
  obtain ⟨⟨vm, task⟩, w₂, h₂, hrecord⟩ := Prog.bind_eq_ok.mp hrequest
  obtain ⟨⟨⟩, w₃, h₃, hrest⟩ := Prog.bind_eq_ok.mp h₂
  obtain ⟨⟨⟩, w₄, h₄, hspec⟩ := Prog.bind_eq_ok.mp hrest
  obtain ⟨spec, w₅, h₅, hprovision⟩ := Prog.bind_eq_ok.mp hspec
  have hw₁ := state_of_ok (ofOption_state _ _) h₁
  have hw₃ := state_of_ok (requireHostOnline_state host) h₃
  have hw₄ := state_of_ok (requireVmStorageAllowed_state host _) h₄
  subst hw₁ hw₃ hw₄
  have hw₅ : w₅ = w₄ := by
    refine state_of_ok (fun s => ?_) h₅
    rcases body.source with id | id
    · exact cloneOfVm_state host body id s
    · exact cloneOfTemplate_state host body id s
  subst hw₅
  refine ⟨(provision_one (fun _ => rfl) hprovision).congr rfl (record_tasks hrecord), ?_⟩
  intro id hsource
  rw [hsource] at h₅
  change cloneOfVm env host body id w₅ = _ at h₅
  unfold cloneOfVm at h₅
  rw [Prog.read_bind_run] at h₅
  obtain ⟨row, w₆, hrow, -⟩ := Prog.bind_eq_ok.mp h₅
  rcases hlookup : w₅.db.vm id with _ | found
  · rw [hlookup] at hrow
    cases hrow
  · exact ⟨found, Table.mem_of_lookup hlookup, Table.key_of_lookup hlookup⟩

/-! ## The other events -/

/-- Tasks go on or end, and a new one is of a kind that takes no lock. -/
def goesOnFrame : Frame World where
  rel w w' := ∀ t ∈ w'.db.tasks,
    (∃ t₀ ∈ w.db.tasks, SameTask t₀ t) ∨ t.kind.takesVmLock = false
  refl _ t ht := Or.inl ⟨t, ht, .refl t⟩
  trans h h' t ht := by
    rcases h' t ht with ⟨t₁, ht₁, hsame⟩ | hkind
    · rcases h t₁ ht₁ with ⟨t₀, ht₀, hsame₀⟩ | hkind
      · exact Or.inl ⟨t₀, ht₀, hsame₀.trans hsame⟩
      · exact Or.inr (hsame.kind ▸ hkind)
    · exact Or.inr hkind

/-- What leaves the tasks alone lets them go on. -/
lemma goesOn_of_tasks (h : t.db.tasks = w.db.tasks) : goesOnFrame.rel w t := fun x hx =>
  Or.inl ⟨x, h ▸ hx, .refl x⟩

/-- So does adding a task that takes no lock. -/
lemma goesOn_addUnlocked (w : World) (task : Task) (h : task.kind.takesVmLock = false) :
    goesOnFrame.rel w { w with db := w.db.addTask task } := by
  intro x hx
  rcases List.mem_append.mp hx with hx | hx
  · exact Or.inl ⟨x, hx, .refl x⟩
  · rw [List.mem_singleton.mp hx]
    exact Or.inr h

/-- A task that is written again has gone on, or has ended. -/
lemma same_of_storeTask {tasks : List Task} {before task x : Task} (hmem : before ∈ tasks)
    (hx : x ∈ Table.store Task.id task tasks) (hsame : SameTask before task) :
    ∃ t₀ ∈ tasks, SameTask t₀ x := by
  rcases Table.mem_store.mp hx with ⟨hx, -⟩ | ⟨rfl, -⟩
  · exact ⟨x, hx, .refl x⟩
  · exact ⟨before, hmem, hsame⟩

/-- A response, a sweep and the removal of a host queue nothing. -/
theorem step_ends_tasks (env : Env) (s : Committed) {e : Event} (h : e.endsTasks = true) :
    ∀ x ∈ (System.step env s e).world.db.tasks, ∃ t₀ ∈ s.world.db.tasks, SameTask t₀ x := by
  have hc := s.consistent
  intro x hx
  cases e with
  | removeHost user hostId =>
    rcases step_removeHost_audit env s user hostId with ⟨htasks, -⟩ | ⟨-, -, -, htasks, -⟩
    · exact ⟨x, htasks ▸ hx, .refl x⟩
    · exact ⟨x, (Table.mem_deleteWhere.mp (htasks ▸ hx)).1, .refl x⟩
  | response hostId resp =>
    rcases step_response_audit env s hostId resp with
      ⟨htasks, -⟩ | ⟨task, hfound, ⟨hp, -, htasks⟩ | ⟨-, -, -, htasks⟩⟩
    · exact ⟨x, htasks ▸ hx, .refl x⟩
    · obtain ⟨hmem, -⟩ := hc.task_eq_some.mp (task_of_taskOfHost hfound)
      rw [htasks] at hx
      refine same_of_storeTask hmem hx ⟨rfl, rfl, rfl, rfl, fun _ => ?_⟩
      simpa [isProgress] using (Bool.and_eq_true_iff.mp hp).2
    · obtain ⟨hmem, -⟩ := hc.task_eq_some.mp (task_of_taskOfHost hfound)
      rw [htasks] at hx
      refine same_of_storeTask hmem hx ⟨rfl, rfl, rfl, rfl, fun hactive => ?_⟩
      exact absurd (terminalStatus_isTerminal.symm.trans hactive) (by decide)
  | sweep =>
    rcases step_sweep_audit env s with ⟨htasks, -⟩ | ⟨htasks, -⟩
    · exact ⟨x, htasks ▸ hx, .refl x⟩
    · rw [htasks] at hx
      rcases Table.mem_updateWhere.mp hx with ⟨hx, -⟩ | ⟨y, hy, -, rfl⟩
      · exact ⟨x, hx, .refl x⟩
      · exact ⟨y, hy, rfl, rfl, rfl, rfl, fun hactive => by cases hactive⟩
  | _ => cases h

/-- The events that queue a task for a VM. -/
def Event.queuesVmTask : Event → Bool
  | .vmAction .. | .deleteVm .. | .createVm .. | .cloneVm .. => true
  | _ => false

/-- The route that forgets a VM writes what it says. -/
lemma keeps_forgetVm {F : Frame World} (hid : ∀ w n, w.nextId ≤ n → F.rel w { w with nextId := n })
    (hevents : ∀ w es, F.rel w { w with db := { w.db with auditEvents := es } })
    (hcache : ∀ w c, F.rel w { w with cache := c })
    (hdelete : ∀ w p, F.rel w { w with db := w.db.deleteVms p }) (user : User) (vmId : String) :
    Keeps F (forgetVm env user vmId) := by
  refine keeps_bind (keeps_bind keeps_read fun w => keeps_ofOption _) fun vm => ?_
  refine keeps_bind (keeps_record hid hevents _ _ _ _ _) fun _ => keeps_bind keeps_read fun w => ?_
  refine keeps_bind ?_ fun _ => keeps_bind (keeps_modify fun w => hcache w _) fun _ => ?_
  · split
    · split
      · exact keeps_raise _
      · exact keeps_pure _
    · exact keeps_pure _
  · refine keeps_bind (keeps_clearVmState (fun w _ => hcache w _) _) fun _ => ?_
    exact keeps_bind (keeps_modify fun w => hdelete w _) fun _ => keeps_flush

/-- So does the route that releases a lock. -/
lemma keeps_releaseVmLockRoute {F : Frame World}
    (hid : ∀ w n, w.nextId ≤ n → F.rel w { w with nextId := n })
    (hevents : ∀ w es, F.rel w { w with db := { w.db with auditEvents := es } })
    (hcache : ∀ w c, F.rel w { w with cache := c }) (user : User) (vmId : String) :
    Keeps F (releaseVmLockRoute env user vmId) := by
  refine keeps_bind keeps_read fun w => ?_
  refine keeps_bind (keeps_modify fun w => hcache w _) fun _ => ?_
  split
  · exact keeps_record hid hevents _ _ _ _ _
  · exact keeps_pure _

/-- A step of an event that queues no task for a VM.

**Proof sketch.** By the event. What ends tasks ends the one that is there, and the other handlers
queue tasks that take no lock or none at all, by the frame of their writes. -/
theorem step_goesOn (env : Env) (s : Committed) (e : Event) (h : e.queuesVmTask = false) :
    goesOnFrame.rel s.world (System.step env s e).world := by
  have hid : ∀ w n, w.nextId ≤ n → goesOnFrame.rel w { w with nextId := n } :=
    fun _ _ _ => goesOn_of_tasks rfl
  have hevents : ∀ w es, goesOnFrame.rel w { w with db := { w.db with auditEvents := es } } :=
    fun _ _ => goesOn_of_tasks rfl
  have hcache : ∀ w c, goesOnFrame.rel w { w with cache := c } := fun _ _ => goesOn_of_tasks rfl
  have hpublish : ∀ w p, goesOnFrame.rel w { w with published := p } :=
    fun _ _ => goesOn_of_tasks rfl
  have hhandler : ∀ m : M Unit, e.handler env = some m → Keeps goesOnFrame m →
      goesOnFrame.rel s.world (System.step env s e).world := by
    intro m hm hkeeps
    rw [System.step_handler hm]
    have hroll : ∀ s t, goesOnFrame.rel s t → goesOnFrame.rel s (rollback s t) :=
      fun _ _ _ => goesOn_of_tasks rfl
    exact keeps_savepoint hroll hkeeps { s.world with txStart := s.world.now - e.lag }
  cases e with
  | vmAction lag user vmId action params => cases h
  | deleteVm lag user vmId removeFiles => cases h
  | createVm lag user body => cases h
  | cloneVm lag user body => cases h
  | forgetVm user vmId =>
    exact hhandler _ rfl (keeps_forgetVm hid hevents hcache (fun _ _ => goesOn_of_tasks rfl) _ _)
  | releaseLock user vmId => exact hhandler _ rfl (keeps_releaseVmLockRoute hid hevents hcache _ _)
  | hostAction lag user hostId action =>
    exact hhandler _ rfl (keeps_hostAction hid hpublish goesOn_addUnlocked hevents _ _ _)
  | agentUpgrade lag user hostId version checksum url =>
    exact hhandler _ rfl (keeps_updateHostAgent hid hpublish goesOn_addUnlocked hevents _ _ _ _ _)
  | agentRollout lag user hostIds hypervisor version checksum url =>
    exact hhandler _ rfl
      (keeps_rolloutAgentBinary hid hpublish goesOn_addUnlocked hevents _ _ _ _ _ _)
  | removeHost user hostId => exact fun x hx => Or.inl (step_ends_tasks env s rfl x hx)
  | response hostId resp => exact fun x hx => Or.inl (step_ends_tasks env s rfl x hx)
  | vmInventory hostId payload =>
    exact hhandler _ rfl (keeps_applyVmInventory hid
      (fun _ _ => goesOn_of_tasks rfl) (fun _ _ => goesOn_of_tasks rfl)
      (fun _ _ => goesOn_of_tasks rfl) (fun _ _ _ => goesOn_of_tasks rfl)
      (fun _ _ => goesOn_of_tasks rfl) (fun _ => keeps_record hid hevents _ _ _ _ _)
      (fun _ => goesOn_of_tasks rfl) (fun _ _ => goesOn_of_tasks rfl) _ _)
  | agentStatus hostId payload =>
    exact hhandler _ rfl (keeps_applyAgentStatus (fun _ _ _ => goesOn_of_tasks rfl) _)
  | hostInventory hostId payload =>
    exact hhandler _ rfl (keeps_applyHostInventory (fun _ _ _ _ => goesOn_of_tasks rfl) _)
  | templateInventory hostId payload =>
    exact hhandler _ rfl (keeps_applyTemplateInventory hid
      (fun _ => goesOn_of_tasks rfl) (fun _ _ _ => goesOn_of_tasks rfl) _)
  | isoInventory hostId payload =>
    exact hhandler _ rfl (keeps_applyIsoInventory hid
      (fun _ => goesOn_of_tasks rfl) (fun _ _ _ => goesOn_of_tasks rfl) _)
  | hostMetrics hostId payload =>
    exact hhandler _ rfl (keeps_applyHostMetrics (fun _ _ _ => goesOn_of_tasks rfl)
      (fun _ _ => goesOn_of_tasks rfl) _)
  | vmMetrics hostId payload =>
    exact hhandler _ rfl (keeps_applyVmMetrics (fun _ _ => goesOn_of_tasks rfl)
      (fun _ _ => goesOn_of_tasks rfl) _)
  | sweep => exact fun x hx => Or.inl (step_ends_tasks env s rfl x hx)
  | tick elapsed => exact goesOn_of_tasks rfl
  | broker up => exact goesOn_of_tasks rfl

/-! ## Sources -/

/-- A committed state, and the VM that each clone task is made from. -/
structure Sourced where
  state : Committed
  source : String → Option String

/-- The VM that the task of an event is made from. -/
def Event.cloneSource : Event → Option String
  | .cloneVm _ _ body =>
    match body.source with
    | .vm id => some id
    | .template _ => none
  | _ => none

namespace Sourced

/-- The start of a run. -/
def start (s : Committed) : Sourced := ⟨s, fun _ => none⟩

/-- One step: a task that is new has the source of its event. -/
def step (env : Env) (s : Sourced) (e : Event) : Sourced where
  state := System.step env s.state e
  source := fun id =>
    if (s.state.world.db.task id).isSome then s.source id
    else if ((System.step env s.state e).world.db.task id).isSome then e.cloneSource
    else none

/-- A clone of the VM is queued or running. -/
def BeingCloned (s : Sourced) (vmId : String) : Prop :=
  ∃ t ∈ s.state.world.db.tasks, t.status.isTerminal = false ∧ s.source t.id = some vmId

/-- A task of a kind that takes the lock is queued or running on the VM. -/
def Busy (s : Sourced) (vmId : String) : Prop :=
  ∃ t ∈ s.state.world.db.tasks, t.kind.takesVmLock = true ∧ t.status.isTerminal = false ∧
    t.targetId = vmId

/-- No VM is cloned and operated on at the same time. -/
def Apart (s : Sourced) : Prop := ∀ vmId, s.BeingCloned vmId → ¬ s.Busy vmId

/-- An operation that passes finds no clone of its VM in flight, and a clone that passes finds no
operation on its source. -/
def Admitted (env : Env) (s : Sourced) (e : Event) : Prop :=
  let w : World := { s.state.world with txStart := s.state.world.now - e.lag }
  match e with
  | .vmAction _ user vmId action params => action.isReadOnly = false → action ≠ .delete →
    ActionPasses env w user vmId action params (actionDetails params) → ¬ s.BeingCloned vmId
  | .deleteVm _ user vmId removeFiles =>
    ActionPasses env w user vmId .delete [("remove_files", .bool removeFiles)]
      (deleteDetails removeFiles) → ¬ s.BeingCloned vmId
  | .cloneVm _ user body => ∀ vmId, body.source = .vm vmId → ClonePasses env w user body vmId →
    ¬ s.Busy vmId
  | _ => True

/-- The rows, the tasks and the sources are under identifiers that were drawn. -/
structure Known (env : Env) (s : Sourced) : Prop where
  rows : RowsDrawn env s.state.world
  tasks : ∀ t ∈ s.state.world.db.tasks, Drawn env s.state.world t.id
  sources : ∀ id vmId, s.source id = some vmId → Drawn env s.state.world vmId

variable {s : Sourced} {e : Event} {vmId : String}

/-- A task that was there keeps its source. -/
lemma source_old {task : Task} (h : task ∈ s.state.world.db.tasks) :
    (s.step env e).source task.id = s.source task.id := by
  have hfound := s.state.consistent.task_eq_some.mpr ⟨h, rfl⟩
  simp [step, hfound]

/-- A new task has the source of its request. -/
lemma source_new {task : Task} (h : task ∈ (s.step env e).state.world.db.tasks)
    (hfresh : ∀ x ∈ s.state.world.db.tasks, x.id ≠ task.id) :
    (s.step env e).source task.id = e.cloneSource := by
  have hbefore : s.state.world.db.task task.id = none := Table.lookup_eq_none.mpr hfresh
  have hafter := (s.step env e).state.consistent.task_eq_some.mpr ⟨h, rfl⟩
  have hfound : ((System.step env s.state e).world.db.task task.id).isSome = true :=
    Option.isSome_iff_exists.mpr ⟨task, hafter⟩
  change (if (s.state.world.db.task task.id).isSome = true then _ else
    if ((System.step env s.state e).world.db.task task.id).isSome = true then _ else _) = _
  rw [if_neg (by simp [hbefore]), if_pos hfound]

/-! ## One step -/

/-- A step that queues no task for a VM, or is refused, starts no clone. -/
lemma beingCloned_of_quiet (hk : s.Known env)
    (h : e.queuesVmTask = false ∨ ¬ Accepted env s.state e)
    (hcloned : (s.step env e).BeingCloned vmId) : s.BeingCloned vmId := by
  obtain ⟨t, ht, hactive, hsource⟩ := hcloned
  have hold : ∀ t₀ ∈ s.state.world.db.tasks, t₀.id = t.id → t₀.status.isTerminal = false →
      s.BeingCloned vmId := by
    intro t₀ ht₀ hid hactive₀
    rw [← hid, source_old ht₀] at hsource
    exact ⟨t₀, ht₀, hactive₀, hsource⟩
  rcases h with h | h
  · cases hends : e.endsTasks with
    | true =>
      obtain ⟨t₀, ht₀, hsame⟩ := step_ends_tasks env s.state hends t ht
      exact hold t₀ ht₀ hsame.id (hsame.active hactive)
    | false =>
      rcases (auditGrows_step env s.state e hends).tasks t ht with ⟨t₀, ht₀, hid, hstatus⟩ |
        ⟨-, -, hfresh⟩
      · exact hold t₀ ht₀ hid (hstatus ▸ hactive)
      · rw [source_new ht fun x hx hid => hfresh (hid ▸ hk.tasks x hx)] at hsource
        cases e <;> first | cases hsource | cases h
  · have htasks := congrArg Db.tasks (step_refused h)
    exact hold t (htasks ▸ ht) rfl hactive

/-- Nor does it queue another task under a lock. -/
lemma busy_of_quiet (h : e.queuesVmTask = false ∨ ¬ Accepted env s.state e)
    (hbusy : (s.step env e).Busy vmId) : s.Busy vmId := by
  obtain ⟨t, ht, htakes, hactive, htarget⟩ := hbusy
  rcases h with h | h
  · rcases step_goesOn env s.state e h t ht with ⟨t₀, ht₀, hsame⟩ | hkind
    · exact ⟨t₀, ht₀, hsame.kind ▸ htakes, hsame.active hactive, hsame.targetId.trans htarget⟩
    · rw [hkind] at htakes
      cases htakes
  · have htasks := congrArg Db.tasks (step_refused h)
    exact ⟨t, htasks ▸ ht, htakes, hactive, htarget⟩

/-- A task that is queued may be a clone, and may be under a lock. -/
lemma overlap_of_queued {kind : TaskKind} {targetId : String}
    (hone : QueuesOne kind targetId s.state.world (s.step env e).state.world) :
    ((s.step env e).BeingCloned vmId ↔ s.BeingCloned vmId ∨ e.cloneSource = some vmId) ∧
      ((s.step env e).Busy vmId ↔ s.Busy vmId ∨ kind.takesVmLock = true ∧ targetId = vmId) := by
  obtain ⟨task, htasks, rfl, rfl, hqueued⟩ := hone
  have hmem : task ∈ (s.step env e).state.world.db.tasks := by
    rw [htasks]
    exact List.mem_append_right _ (List.mem_singleton_self _)
  have hfresh : ∀ x ∈ s.state.world.db.tasks, x.id ≠ task.id := by
    have hn := (s.step env e).state.consistent.keyed.taskIds
    rw [htasks, List.map_append, List.map_singleton, List.nodup_append] at hn
    exact fun x hx => hn.2.2 _ (List.mem_map_of_mem hx) _ (List.mem_singleton_self _)
  have hactive : task.status.isTerminal = false := by
    rw [hqueued]
    rfl
  refine ⟨⟨?_, ?_⟩, ⟨?_, ?_⟩⟩
  · rintro ⟨t, ht, hta, hsource⟩
    rcases List.mem_append.mp (htasks ▸ ht) with ht | ht
    · rw [source_old ht] at hsource
      exact Or.inl ⟨t, ht, hta, hsource⟩
    · obtain rfl := List.mem_singleton.mp ht
      exact Or.inr ((source_new hmem hfresh).symm.trans hsource)
  · rintro (⟨t, ht, hta, hsource⟩ | hsource)
    · exact ⟨t, htasks ▸ List.mem_append_left _ ht, hta, (source_old ht).trans hsource⟩
    · exact ⟨task, hmem, hactive, (source_new hmem hfresh).trans hsource⟩
  · rintro ⟨t, ht, htakes, hta, htarget⟩
    rcases List.mem_append.mp (htasks ▸ ht) with ht | ht
    · exact Or.inl ⟨t, ht, htakes, hta, htarget⟩
    · obtain rfl := List.mem_singleton.mp ht
      exact Or.inr ⟨htakes, htarget⟩
  · rintro (⟨t, ht, hrest⟩ | ⟨htakes, htarget⟩)
    · exact ⟨t, htasks ▸ List.mem_append_left _ ht, hrest⟩
    · exact ⟨task, hmem, htakes, hactive, htarget⟩

/-- The VM of a clone in flight was drawn. -/
lemma Known.drawn (hk : s.Known env) (h : s.BeingCloned vmId) : Drawn env s.state.world vmId := by
  obtain ⟨t, -, -, hsource⟩ := h
  exact hk.sources _ _ hsource

/-- The source of an accepted clone is there. -/
lemma cloneSource_row {e : Event} (ha : Accepted env s.state e) (h : e.cloneSource = some vmId) :
    ∃ row ∈ s.state.world.db.vms, row.id = vmId := by
  obtain ⟨m, t, hm, hrun, -⟩ := ha
  cases e with
  | cloneVm lag user body =>
    cases hm
    obtain ⟨-, hrow⟩ := cloneVm_one hrun
    rcases hsource : body.source with id | id
    · simp only [Event.cloneSource, hsource, Option.some.injEq] at h
      exact h ▸ hrow id hsource
    · simp only [Event.cloneSource, hsource] at h
      cases h
  | _ => cases h

/-- What is known after a step. -/
theorem Known.step (hk : s.Known env) (e : Event) : (s.step env e).Known env where
  rows := rowsDrawn_step hk.rows (.system e)
  tasks t ht := by
    cases hends : e.endsTasks with
    | true =>
      obtain ⟨t₀, ht₀, hsame⟩ := step_ends_tasks env s.state hends t ht
      exact hsame.id ▸ (hk.tasks t₀ ht₀).mono (nextId_le_step env s.state e)
    | false =>
      rcases (auditGrows_step env s.state e hends).tasks t ht with ⟨t₀, ht₀, hid, -⟩ | ⟨-, hd, -⟩
      · exact hid ▸ (hk.tasks t₀ ht₀).mono (nextId_le_step env s.state e)
      · exact hd
  sources id vmId hsource := by
    have hnext : s.state.world.nextId ≤ (System.step env s.state e).world.nextId :=
      nextId_le_step env s.state e
    change (if _ then _ else _) = _ at hsource
    split_ifs at hsource with hbefore hafter
    · exact (hk.sources id vmId hsource).mono hnext
    · by_cases ha : Accepted env s.state e
      · obtain ⟨row, hrow, rfl⟩ := cloneSource_row ha hsource
        exact (hk.rows row hrow).mono hnext
      · rw [step_refused ha] at hafter
        exact absurd hafter hbefore

/-- The checks that an admitted request passes are those that let it through. -/
lemma admitted_iff : s.Admitted env e ↔ (Accepted env s.state e → match e with
    | .vmAction _ _ vmId action _ => action.isReadOnly = false → ¬ s.BeingCloned vmId
    | .deleteVm _ _ vmId _ => ¬ s.BeingCloned vmId
    | .cloneVm _ _ body => ∀ vmId, body.source = .vm vmId → ¬ s.Busy vmId
    | _ => True) := by
  have haccepted : ∀ {m}, e.handler env = some m → (Accepted env s.state e ↔
      Completes m { s.state.world with txStart := s.state.world.now - e.lag }) := by
    intro m hm
    constructor
    · rintro ⟨_, t, hm', hrun, hc⟩
      obtain rfl := Option.some.inj (hm.symm.trans hm')
      exact ⟨(), t, hrun, hc⟩
    · rintro ⟨⟨⟩, t, hrun, hc⟩
      exact ⟨m, t, hm, hrun, hc⟩
  unfold Admitted
  cases e with
  | vmAction lag user vmId action params =>
    rw [haccepted rfl]
    constructor
    · intro h hcompletes hread
      obtain ⟨hdelete, hpass⟩ := (completes_vmAction_iff hread).mp hcompletes
      exact h hread hdelete hpass
    · exact fun h hread hdelete hpass =>
        h ((completes_vmAction_iff hread).mpr ⟨hdelete, hpass⟩) hread
  | deleteVm lag user vmId removeFiles =>
    rw [haccepted rfl, completes_deleteVm_iff]
  | cloneVm lag user body =>
    rw [haccepted rfl]
    constructor
    · exact fun h hcompletes vmId hsource =>
        h vmId hsource ((completes_cloneVm_iff hsource).mp hcompletes)
    · exact fun h vmId hsource hpass => h ((completes_cloneVm_iff hsource).mpr hpass) vmId hsource
  | _ => simp

/-- **One step** keeps clones and operations apart exactly when it is admitted.

**Proof sketch.** A request that does not get through, and one that queues no task for a VM, puts
nothing in flight. Of the others each queues one task (`vmAction_one` and so on), so what is cloned
or busy afterwards is what was, or the new target or source (`overlap_of_queued`). The target of a
create or a clone has a new identifier, which is neither cloned nor busy. -/
theorem apart_step_iff (hk : s.Known env) (h : s.Apart) :
    (s.step env e).Apart ↔ s.Admitted env e := by
  rw [admitted_iff]
  by_cases ha : Accepted env s.state e
  swap
  · refine iff_of_true (fun vmId hcloned hbusy => ?_) fun ha' => absurd ha' ha
    exact h vmId (beingCloned_of_quiet hk (Or.inr ha) hcloned) (busy_of_quiet (Or.inr ha) hbusy)
  cases hq : e.queuesVmTask with
  | false =>
    refine iff_of_true (fun vmId hcloned hbusy => ?_) fun _ => by cases e <;> trivial
    exact h vmId (beingCloned_of_quiet hk (Or.inl hq) hcloned) (busy_of_quiet (Or.inl hq) hbusy)
  | true =>
    obtain ⟨m, t, hm, hrun, hc⟩ := id ha
    have hstep : (s.step env e).state.world = t := step_accepted hm hrun hc
    have hqueued : ∀ {kind targetId w₀}, QueuesOne kind targetId w₀ t →
        w₀.db = s.state.world.db → ∀ vmId,
        ((s.step env e).BeingCloned vmId ↔ s.BeingCloned vmId ∨ e.cloneSource = some vmId) ∧
        ((s.step env e).Busy vmId ↔ s.Busy vmId ∨ kind.takesVmLock = true ∧ targetId = vmId) :=
      fun hone hdb vmId => overlap_of_queued (hone.congr hdb (congrArg (fun w => w.db.tasks) hstep))
    -- the placeholder of a create or a clone is no VM that is cloned
    have hplaceholder : ∀ vmId, Drawn env s.state.world vmId →
        env.uuid s.state.world.nextId ≠ vmId := fun vmId hd hid =>
      not_drawn_next env s.state.world (hid ▸ hd)
    cases e with
    | vmAction lag user vmId action params =>
      cases hm
      have hoverlap := hqueued (vmAction_one hrun) rfl
      refine ⟨fun hafter _ hlock hcloned => ?_, fun hadmit x hcloned hbusy => ?_⟩
      · refine hafter vmId ((hoverlap vmId).1.mpr (Or.inl hcloned)) ((hoverlap vmId).2.mpr ?_)
        exact Or.inr ⟨by rw [action.takesVmLock, hlock]; rfl, rfl⟩
      · rcases (hoverlap x).1.mp hcloned with hcloned | hsource
        · rcases (hoverlap x).2.mp hbusy with hbusy | ⟨htakes, rfl⟩
          · exact h x hcloned hbusy
          · rw [action.takesVmLock, Bool.not_eq_true'] at htakes
            exact hadmit ha htakes hcloned
        · cases hsource
    | deleteVm lag user vmId removeFiles =>
      cases hm
      have hoverlap := hqueued (deleteVm_one hrun) rfl
      refine ⟨fun hafter _ hcloned => ?_, fun hadmit x hcloned hbusy => ?_⟩
      · exact hafter vmId ((hoverlap vmId).1.mpr (Or.inl hcloned))
          ((hoverlap vmId).2.mpr (Or.inr ⟨rfl, rfl⟩))
      · rcases (hoverlap x).1.mp hcloned with hcloned | hsource
        · rcases (hoverlap x).2.mp hbusy with hbusy | ⟨-, rfl⟩
          · exact h x hcloned hbusy
          · exact hadmit ha hcloned
        · cases hsource
    | createVm lag user body =>
      cases hm
      have hoverlap := hqueued (createVm_one hrun) rfl
      refine iff_of_true (fun x hcloned hbusy => ?_) fun _ => trivial
      rcases (hoverlap x).1.mp hcloned with hcloned | hsource
      · rcases (hoverlap x).2.mp hbusy with hbusy | ⟨-, htarget⟩
        · exact h x hcloned hbusy
        · exact hplaceholder x (hk.drawn hcloned) htarget
      · cases hsource
    | cloneVm lag user body =>
      cases hm
      have hoverlap := hqueued (cloneVm_one hrun).1 rfl
      refine ⟨fun hafter _ vmId hsource hbusy => ?_, fun hadmit x hcloned hbusy => ?_⟩
      · refine hafter vmId ((hoverlap vmId).1.mpr (Or.inr ?_)) ((hoverlap vmId).2.mpr (Or.inl hbusy))
        simp [Event.cloneSource, hsource]
      · have hdrawn : Drawn env s.state.world x := by
          rcases (hoverlap x).1.mp hcloned with hcloned | hsource
          · exact hk.drawn hcloned
          · obtain ⟨row, hrow, rfl⟩ := cloneSource_row ha hsource
            exact hk.rows row hrow
        rcases (hoverlap x).2.mp hbusy with hbusy | ⟨-, htarget⟩
        · rcases (hoverlap x).1.mp hcloned with hcloned | hsource
          · exact h x hcloned hbusy
          · rcases hbody : body.source with id | id
            · simp only [Event.cloneSource, hbody, Option.some.injEq] at hsource
              exact hadmit ha x (hsource ▸ hbody) hbusy
            · simp only [Event.cloneSource, hbody] at hsource
              cases hsource
        · exact hplaceholder x hdrawn htarget
    | _ => cases hq

/-! ## Runs -/

/-- What is known at the start. -/
lemma known_start {s : Committed} (h : System.Initial s) : (start s).Known env where
  rows := rowsDrawn_of_initial h
  tasks t ht := by
    change t ∈ s.world.db.tasks at ht
    rw [h.tasks] at ht
    cases ht
  sources _ _ hsource := by cases hsource

/-- At the start nothing is in flight. -/
lemma apart_start {s : Committed} (h : System.Initial s) : (start s).Apart := by
  rintro vmId ⟨t, ht, -⟩
  change t ∈ s.world.db.tasks at ht
  rw [h.tasks] at ht
  cases ht

end Sourced

/-- In every state of a run the clones in flight and the operations on their sources are apart
exactly when every step of the run is admitted. -/
theorem clone_source_iff (env : Env) (s : Committed) (es : List Event) (h : System.Initial s) :
    Machine.AllSteps (Sourced.step env) (fun s e => (s.step env e).Apart) (Sourced.start s) es ↔
      Machine.AllSteps (Sourced.step env) (Sourced.Admitted env) (Sourced.start s) es :=
  Machine.AllSteps.congr (I := fun s => s.Known env ∧ s.Apart)
    (fun _ e hI hafter => ⟨hI.1.step e, hafter⟩) (fun _ _ hI => Sourced.apart_step_iff hI.1 hI.2)
    ⟨Sourced.known_start h, Sourced.apart_start h⟩

namespace Demo

/-- A clone of the VM `""`. -/
def clone : VmClone := { name := "copy", hostId := "h", source := .vm "" }

/-- The VM `"g"` is reported, and cloned. -/
def cloneEvents : List Event := [.vmInventory "h" (snapshot ["g"]), .cloneVm 0 user clone]

/-- The VM is cloned, and started while the clone is queued. -/
@[irreducible] def startedSource : Sourced :=
  Machine.run (Sourced.step settings) (.start start) (cloneEvents ++ [.vmAction 0 user "" .start []])

end Demo

/-- A clone of a VM that nothing runs on is admitted. -/
theorem clone_source_iff_reported :
    Machine.AllSteps (Sourced.step Demo.settings) (fun s e => (s.step Demo.settings e).Apart)
      (.start Demo.start) Demo.cloneEvents := by
  refine (clone_source_iff Demo.settings Demo.start Demo.cloneEvents Demo.start_initial).mpr ?_
  refine ⟨trivial, fun vmId _ _ hbusy => ?_, trivial⟩
  have hnone : (Sourced.step Demo.settings (.start Demo.start)
      (.vmInventory "h" (Demo.snapshot ["g"]))).state.world.db.tasks = [] := by decide +kernel
  obtain ⟨t, ht, -⟩ := hbusy
  rw [hnone] at ht
  cases ht

/-- Clones and operations on their sources are not always apart: a VM can be started while it is
cloned. -/
theorem clone_source_counterexample :
    ¬ ∀ (env : Env) (s : Committed) (es : List Event), System.Initial s →
      (∀ e ∈ es, ∀ user vmId, e ≠ .releaseLock user vmId) →
      (Machine.run (Sourced.step env) (.start s) es).Apart := by
  intro h
  have hapart := h Demo.settings Demo.start (Demo.cloneEvents ++ [.vmAction 0 Demo.user "" .start []])
    Demo.start_initial (by simp [Demo.cloneEvents])
  have hrun : Demo.startedSource = Machine.run (Sourced.step Demo.settings) (.start Demo.start)
      (Demo.cloneEvents ++ [.vmAction 0 Demo.user "" .start []]) := by
    unfold Demo.startedSource
    rfl
  rw [← hrun] at hapart
  have hcloned : ∃ t ∈ Demo.startedSource.state.world.db.tasks, t.status.isTerminal = false ∧
      Demo.startedSource.source t.id = some "" := by decide +kernel
  have hbusy : ∃ t ∈ Demo.startedSource.state.world.db.tasks, t.kind.takesVmLock = true ∧
      t.status.isTerminal = false ∧ t.targetId = "" := by decide +kernel
  exact hapart "" hcloned hbusy

end OpenVCenter
