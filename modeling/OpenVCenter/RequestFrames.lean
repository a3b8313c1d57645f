import OpenVCenter.LockFrame
import OpenVCenter.RequestWrites

set_option relaxedAutoImplicit false
set_option autoImplicit false

/-!
# The handlers and the VM lock

Every handler but that of a response, a sweep, and the two that free a lock by force ends in the
frame of the locks: a request that queues a task for a VM takes the lock first, and gives it back
when it raises.

## Main results

* `OpenVCenter.commits_queueVmTask`, `OpenVCenter.commits_provision` — the two ways to queue a
  task for a VM.
* `OpenVCenter.Event.IsQuiet`, `OpenVCenter.lockFrame_step` — the handlers that end in the frame.
-/

namespace OpenVCenter

open Effect

variable {env : Env} {w w₁ : World} {α β : Type}

/-! ## Sequencing -/

/-- The run ends in the frame of the locks. -/
def LockSafe (env : Env) (m : M α) (w : World) : Prop := Commits (lockFrame env) rollback m w

/-- A run that keeps the locks safe is safe. -/
lemma lockSafe_of_rel {m : M α} (h : (lockFrame env).rel w (m w).2) : LockSafe env m w :=
  commits_of_rel lockFrame_rollback h

/-- A program that keeps them safe is safe. -/
lemma lockSafe_of_keeps {m : M α} (h : Keeps (lockFrame env) m) : LockSafe env m w :=
  lockSafe_of_rel (h w)

/-- Safe programs, one after another. -/
lemma lockSafe_bind {m : M α} {f : α → M β} (hm : LockSafe env m w)
    (hf : ∀ a t, m w = (.ok a, t) → (lockFrame env).rel w t → LockSafe env (f a) t) :
    LockSafe env (m >>= f) w := commits_bind lockFrame_undo hm hf

/-- A computation that leaves the state alone, then a program. -/
lemma lockSafe_pass {m : M α} {f : α → M β} (hm : ∀ s, (m s).2 = s)
    (hf : ∀ a, m w = (.ok a, w) → LockSafe env (f a) w) : LockSafe env (m >>= f) w := by
  refine lockSafe_bind (lockSafe_of_rel ?_) fun a t ht _ => ?_
  · rw [hm]
    exact (lockFrame env).refl w
  · have hsame := hm w
    rw [ht] at hsame
    obtain rfl : t = w := hsame
    exact hf a ht

/-- A program that reads first. -/
lemma lockSafe_read {f : World → M β} (hf : LockSafe env (f w) w) :
    LockSafe env (Prog.read >>= f) w :=
  lockSafe_pass (fun _ => rfl) fun a ha => by cases ha; exact hf

/-- A program that raises is safe. -/
lemma lockSafe_raise (e : Raised) : LockSafe env (Prog.raise e : M α) w :=
  lockSafe_of_keeps (keeps_raise e)

/-- A program that draws an identifier first. -/
lemma lockSafe_newId {f : String → M β}
    (hf : (lockFrame env).rel w { w with nextId := w.nextId + 1 } →
      LockSafe env (f (env.uuid w.nextId)) { w with nextId := w.nextId + 1 }) :
    LockSafe env (newId env >>= f) w := by
  refine lockSafe_bind (lockSafe_of_keeps (keeps_newId lockFrame_nextId)) fun a t ht hrel => ?_
  cases ht
  exact hf hrel

/-- A run from a state that is not ready is in the frame. -/
lemma lockSafe_of_ready {m : M α} (h : Ready env w → LockSafe env m w) : LockSafe env m w := by
  by_cases hready : Ready env w
  · exact h hready
  · unfold LockSafe Commits
    split
    · exact fun hr => absurd hr hready
    · exact fun hr => absurd hr hready

/-! ## A task under its lock -/

/-- What a raise leaves of a lock that was free before: nothing. -/
lemma lockFrame_released {vmId taskId : String} {t : World} (h : (lockFrame env).rel w t)
    (hfree : Expiring.get w.cache.vmLocks vmId = none) :
    (lockFrame env).rel w
      (rollback w { t with cache := releaseLock vmId taskId t.cache }) := by
  intro hready
  obtain ⟨hready', hgrows⟩ := h hready
  refine ⟨⟨hready'.started, fun v hv => (hready.rows v hv).mono hgrows.drawn, fun id hid => ?_⟩,
    ⟨hgrows.now, hgrows.drawn, fun id e he => ?_, fun t ht => Or.inl ⟨t, ht, .refl t⟩⟩⟩
  · refine hready'.locks id fun hnone => hid ?_
    change (releaseLock vmId taskId t.cache).vmLocks id = none
    rw [releaseVmLock_locks, hnone, ite_self]
  · change (releaseLock vmId taskId t.cache).vmLocks id = some e
    have hne : id ≠ vmId := by
      rintro rfl
      rw [Expiring.get_eq_none.mp hfree] at he
      cases he
    rw [releaseVmLock_locks, if_neg fun hcond => hne hcond.1]
    exact hgrows.locks id e he

/-- A guarded part that stays in the frame once the lock is taken. -/
lemma lockSafe_releasing {vmId taskId : String} {lock : Bool} {m : M α} {n : M α}
    (hrun : n w = releasingOnRaise vmId taskId lock m w₁) (hlock : (lockFrame env).rel w w₁)
    (hm : (lockFrame env).rel w₁ (m w₁).2)
    (hfree : lock = true → Expiring.get w.cache.vmLocks vmId = none) : LockSafe env n w := by
  have hrel := (lockFrame env).trans hlock hm
  rcases hres : m w₁ with ⟨e | a, t⟩
  · rw [hres] at hrel
    have hn : n w = (.error e,
        if lock then { t with cache := releaseLock vmId taskId t.cache } else t) := by
      rw [hrun, releasingOnRaise_answered, hres]
    refine commits_of_error hn ?_
    cases hl : lock with
    | false => exact lockFrame_rollback w t hrel
    | true => exact lockFrame_released hrel (hfree hl)
  · rw [hres] at hrel
    have hn : n w = (.ok a, t) := by rw [hrun, releasingOnRaise_answered, hres]
    exact commits_of_ok hn hrel

/-- `_queue_vm_task` of a VM whose key was drawn. -/
theorem lockSafe_queueVmTask (vm : Vm) (kind : TaskKind) (params : Dict) (requestedBy : String)
    (transitional : Option String) (lock : Bool) (hlock : kind.takesVmLock = true → lock = true)
    (hdrawn : Ready env w → Drawn env w vm.id) :
    LockSafe env (queueVmTask env vm kind params requestedBy transitional lock) w := by
  refine lockSafe_of_ready fun hready => ?_
  rw [queueVmTask_answered]
  split
  · exact lockSafe_raise _
  · rename_i vmUuid _
    refine lockSafe_read (lockSafe_pass (ofOption_state _ _) fun host _ => ?_)
    refine lockSafe_pass (requireHostOnline_state host) fun _ _ => ?_
    refine lockSafe_newId fun hrel => ?_
    set t : World := { w with nextId := w.nextId + 1 } with ht
    obtain ⟨hready', hgrows⟩ := hrel hready
    have hdrawn' : Drawn env t vm.id := (hdrawn hready).mono hgrows.drawn
    have hadd : ∀ w₁ taskId, (kind.takesVmLock = true →
        Holds env w₁ (vmTask taskId kind vm requestedBy w₁.txStart)) → (lockFrame env).rel w₁
        (addVmTask env vm host vmUuid taskId kind params requestedBy transitional w₁).2 :=
      fun _ _ => lockFrame_addVmTask vm host vmUuid _ kind params requestedBy transitional
    cases lock with
    | false =>
      refine lockSafe_releasing (Prog.pure_bind_run true _ t) ((lockFrame env).refl t) ?_ ?_
      · exact hadd t _ fun hk => absurd (hlock hk) (by decide)
      · exact fun h => by cases h
    | true =>
      rcases hget : Expiring.get t.cache.vmLocks vm.id with _ | held
      · refine lockSafe_releasing (Prog.bind_run_ok (acquireVmLock_free hget))
          (lockFrame_put hget fun _ => hdrawn') ?_ fun _ => hget
        exact hadd _ _ fun _ => holds_put rfl hready'.started
      · refine lockSafe_of_rel ?_
        rw [if_pos rfl, Prog.bind_run_ok (acquireVmLock_held hget)]
        exact (lockFrame env).refl t

/-! ## Requests on a VM -/

/-- A VM that was read has a drawn key. -/
lemma drawn_of_vm {vmId : String} {vm : Vm} (h : w.db.vm vmId = some vm) :
    Ready env w → Drawn env w vm.id :=
  fun hready => hready.rows vm (Table.mem_of_lookup h)

/-- An action takes the lock of a VM whose identifier is drawn. -/
theorem lockSafe_requestVmAction (vm : Vm) (action : VmAction) (requestedBy : String)
    (params : Dict) (hdrawn : Ready env w → Drawn env w vm.id) :
    LockSafe env (requestVmAction env vm action requestedBy params) w := by
  have hqueue : LockSafe env
      (queueVmTask env vm action.function.1 params requestedBy action.function.2
        !action.isReadOnly) w :=
    lockSafe_queueVmTask vm _ params requestedBy _ _
      (fun hk => by rwa [action.takesVmLock] at hk) hdrawn
  rw [requestVmAction_answered]
  split
  · exact lockSafe_raise _
  · refine lockSafe_pass (fun s => ?_) fun _ _ => hqueue
    split
    · rcases normPath env (params.get "destination_storage") with e | dest
      · rfl
      · rw [Prog.ofExcept_ok, Prog.pure_bind_run]
        split
        · rfl
        · rw [Prog.read_bind_run, Prog.bind_run]
          have hstate := ofOption_state (.assertionError) (s.db.host vm.hostId) s
          rcases hopt : M.ofOption .assertionError (s.db.host vm.hostId) s with ⟨e | host, t⟩
          · rw [hopt] at hstate; exact hstate
          · rw [hopt] at hstate
            obtain rfl : t = s := hstate
            exact requireVmStorageAllowed_state host _ _
    · rfl

/-! ## Provisioning -/

/-- No lock is under an identifier that was not drawn. -/
lemma Ready.free (h : Ready env w) : Expiring.get w.cache.vmLocks (env.uuid w.nextId) = none := by
  refine Expiring.get_eq_none.mpr ?_
  by_contra hne
  exact not_drawn_next env w (h.locks _ hne)

/-- A program that changes the tables first. -/
lemma lockSafe_modifyDb {g : Db → Db} {f : Unit → M β}
    (hg : (lockFrame env).rel w { w with db := g w.db })
    (hf : LockSafe env (f ()) { w with db := g w.db }) :
    LockSafe env (modifyDb g >>= f) w :=
  lockSafe_bind (lockSafe_of_rel hg) fun a t ht _ => by cases ht; exact hf

/-- A free lock is taken, and the program goes on under it. -/
lemma lockSafe_acquire {vmId taskId : String} {kind : TaskKind} {requestedBy : String}
    {f : Bool → M β} (hget : Expiring.get w.cache.vmLocks vmId = none)
    (hdrawn : Ready env w → Drawn env w vmId)
    (hf : LockSafe env (f true) { w with cache := { w.cache with
      vmLocks := Expiring.put w.cache.vmLocks vmId ⟨taskId, kind, requestedBy, w.now⟩
        (w.now + seconds (lockTtl env kind)) } }) :
    LockSafe env (acquireVmLock env vmId taskId kind requestedBy >>= f) w := by
  have hrun : acquireVmLock env vmId taskId kind requestedBy w = (.ok true, _) :=
    acquireVmLock_free hget
  refine lockSafe_bind (lockSafe_of_rel ?_) fun a t ht _ => ?_
  · rw [hrun]
    exact lockFrame_put hget hdrawn
  · rw [hrun] at ht
    cases ht
    exact hf

/-- Create and clone: the placeholder has a key of its own, so that its lock is free. -/
theorem lockSafe_provision (host : Host) (kind : TaskKind) (vm : String → Vm) (params : Vm → Dict)
    (requestedBy : String) (hvm : ∀ id, (vm id).id = id) :
    LockSafe env (provision env host kind vm params requestedBy) w := by
  refine lockSafe_of_ready fun hready => ?_
  rw [provision_answered]
  refine lockSafe_newId fun _ => lockSafe_modifyDb (lockFrame_addVm _ _ ⟨w.nextId, rfl, hvm _⟩) ?_
  refine lockSafe_pass flush_state fun _ _ => lockSafe_newId fun _ => ?_
  refine lockSafe_acquire ?_ (fun _ => ⟨w.nextId, ?_, hvm _⟩) ?_
  · rw [hvm]
    exact hready.free
  · exact Nat.lt_add_right 1 (Nat.lt_succ_self w.nextId)
  refine lockSafe_read (lockSafe_modifyDb (lockFrame_addTask fun _ => ?_) ?_)
  · exact ⟨_, Expiring.put_self, rfl, le_rfl, hready.started⟩
  · refine lockSafe_of_keeps (keeps_bind keeps_flush fun _ => ?_)
    exact keeps_bind (lockFrame_publishRequest _ _) fun _ => keeps_pure _

/-- A new VM's identifier is drawn before its lock is taken. -/
theorem lockSafe_requestVmCreate (host : Host) (body : VmCreate) (requestedBy : String) :
    LockSafe env (requestVmCreate env host body requestedBy) w := by
  refine lockSafe_pass (requireHostOnline_state host) fun _ _ => ?_
  refine lockSafe_pass (requireVmStorageAllowed_state host _) fun _ _ => ?_
  exact lockSafe_provision host _ _ _ _ fun _ => rfl

/-- So is the identifier of a copy. -/
theorem lockSafe_requestVmClone (body : VmClone) (host : Host) (requestedBy : String) :
    LockSafe env (requestVmClone env body host requestedBy) w := by
  refine lockSafe_pass (requireHostOnline_state host) fun _ _ => ?_
  refine lockSafe_pass (requireVmStorageAllowed_state host _) fun _ _ => ?_
  refine lockSafe_pass (fun s => ?_) fun spec _ => ?_
  · rcases body.source with id | id
    · exact cloneOfVm_state host body id s
    · exact cloneOfTemplate_state host body id s
  · exact lockSafe_provision host _ _ _ _ fun _ => rfl

/-! ## Routes -/

/-- A VM that is found has an identifier that is drawn. -/
lemma lockSafe_getVm {vmId : String} {f : Vm → M β}
    (hf : ∀ vm, (Ready env w → Drawn env w vm.id) → LockSafe env (f vm) w) :
    LockSafe env (getVm vmId >>= f) w := by
  have hget : ∀ s : World, getVm vmId s = M.ofOption (notFound "VM") (s.db.vm vmId) s := fun _ => rfl
  refine lockSafe_pass (fun s => by rw [hget, ofOption_state]) fun vm hvm => hf vm ?_
  rw [hget] at hvm
  rcases hrow : w.db.vm vmId with _ | row
  · rw [hrow] at hvm; cases hvm
  · rw [hrow] at hvm
    obtain rfl : row = vm := by injection congrArg Prod.fst hvm
    exact drawn_of_vm hrow

/-- The route of an action is safe. -/
lemma lockSafe_vmAction (user : User) (vmId : String) (action : VmAction) (params : Dict) :
    LockSafe env (vmAction env user vmId action params) w := by
  unfold vmAction
  split
  · exact lockSafe_raise _
  · refine lockSafe_getVm fun vm hdrawn => ?_
    refine lockSafe_bind (lockSafe_requestVmAction vm action _ _ hdrawn) fun task t _ _ => ?_
    refine lockSafe_of_keeps ?_
    dsimp only
    split
    · exact keeps_pure _
    · exact lockFrame_record _ _ _ _ _

/-- So is the route that deletes a VM. -/
lemma lockSafe_deleteVm (user : User) (vmId : String) (removeFiles : Bool) :
    LockSafe env (deleteVm env user vmId removeFiles) w := by
  refine lockSafe_getVm fun vm hdrawn => ?_
  refine lockSafe_bind (lockSafe_requestVmAction vm .delete _ _ hdrawn) fun task t _ _ => ?_
  exact lockSafe_of_keeps (lockFrame_record _ _ _ _ _)

/-- The route that creates one. -/
lemma lockSafe_createVm (user : User) (body : VmCreate) :
    LockSafe env (createVm env user body) w := by
  refine lockSafe_read (lockSafe_pass (ofOption_state _ _) fun host _ => ?_)
  refine lockSafe_bind (lockSafe_requestVmCreate host body _) fun row t _ _ => ?_
  exact lockSafe_of_keeps (lockFrame_record _ _ _ _ _)

/-- The route that clones one. -/
lemma lockSafe_cloneVm (user : User) (body : VmClone) : LockSafe env (cloneVm env user body) w := by
  refine lockSafe_read (lockSafe_pass (ofOption_state _ _) fun host _ => ?_)
  refine lockSafe_bind (lockSafe_requestVmClone body host _) fun row t _ _ => ?_
  exact lockSafe_of_keeps (keeps_bind keeps_read fun _ => lockFrame_record _ _ _ _ _)

/-! ## Hosts -/

section Hosts

variable {F : Frame World} (hid : ∀ w n, w.nextId ≤ n → F.rel w { w with nextId := n })
  (hpublish : ∀ w p, F.rel w { w with published := p })
  (hadd : ∀ w t, t.kind.takesVmLock = false → F.rel w { w with db := w.db.addTask t })

include hid hpublish hadd

/-- The task of a host request needs no lock. -/
lemma keeps_queueHostTask (host : Host) (kind : TaskKind) (params : Dict) (requestedBy : String)
    (hkind : kind.takesVmLock = false) :
    Keeps F (queueHostTask env host kind params requestedBy) := by
  refine keeps_bind (keeps_newId hid) fun taskId => keeps_bind keeps_read fun w => ?_
  refine keeps_bind (keeps_modify fun w => hadd w _ hkind) fun _ => keeps_bind keeps_flush fun _ => ?_
  exact keeps_bind (keeps_publishRequest hpublish _ _) fun _ => keeps_pure _

/-- `request_host_action` keeps what its writes keep. -/
lemma keeps_requestHostAction (host : Host) (action : HostAction) (requestedBy : String) :
    Keeps F (requestHostAction env host action requestedBy) := by
  refine keeps_bind keeps_read fun w => keeps_bind (keeps_ofExcept _) fun _ => ?_
  exact keeps_queueHostTask hid hpublish hadd _ _ _ _ action.not_takesVmLock

/-- `request_agent_upgrade` keeps what its writes keep. -/
lemma keeps_requestAgentUpgrade (host : Host) (version checksum : String) (url : Option String)
    (requestedBy : String) :
    Keeps F (requestAgentUpgrade env host version checksum url requestedBy) := by
  refine keeps_bind keeps_read fun w => keeps_bind (keeps_ofExcept _) fun params => ?_
  exact keeps_queueHostTask hid hpublish hadd _ _ _ _ rfl

variable (hevents : ∀ w es, F.rel w { w with db := { w.db with auditEvents := es } })

include hevents

/-- The route of a host's action keeps what its writes keep. -/
lemma keeps_hostAction (user : User) (hostId : String) (action : HostAction) :
    Keeps F (hostAction env user hostId action) := by
  refine keeps_bind keeps_read fun w => keeps_bind (keeps_ofOption _) fun host => ?_
  refine keeps_bind (keeps_requestHostAction hid hpublish hadd _ _ _) fun task => ?_
  split
  · exact keeps_pure _
  · exact keeps_record hid hevents _ _ _ _ _

/-- The route of an upgrade keeps what its writes keep. -/
lemma keeps_updateHostAgent (user : User) (hostId version checksum : String)
    (url : Option String) :
    Keeps F (updateHostAgent env user hostId version checksum url) := by
  refine keeps_bind keeps_read fun w => keeps_bind (keeps_ofOption _) fun host => ?_
  refine keeps_bind (keeps_requestAgentUpgrade hid hpublish hadd _ _ _ _ _) fun task => ?_
  exact keeps_record hid hevents _ _ _ _ _

/-- The route that rolls a binary out keeps what its writes keep. -/
lemma keeps_rolloutAgentBinary (user : User) (hostIds : List String)
    (hypervisor version checksum : String) (url : Option String) :
    Keeps F (rolloutAgentBinary env user hostIds hypervisor version checksum url) := by
  refine keeps_bind keeps_read fun w => keeps_foldlM (fun _ host _ => ?_) _
  refine keeps_bind keeps_read fun w => ?_
  split
  · exact keeps_pure _
  · refine keeps_skipApiError ?_
    refine keeps_bind (keeps_requestAgentUpgrade hid hpublish hadd _ _ _ _ _) fun task => ?_
    exact keeps_record hid hevents _ _ _ _ _

end Hosts

/-- A publication keeps the locks safe. -/
lemma lockFrame_published (w : World) (p : List (String × AgentRequest)) :
    (lockFrame env).rel w { w with published := p } := lockFrame_rows rfl rfl le_rfl rfl rfl rfl

/-- So do audit events. -/
lemma lockFrame_events (w : World) (es : List AuditEvent) :
    (lockFrame env).rel w { w with db := { w.db with auditEvents := es } } :=
  lockFrame_rows rfl rfl le_rfl rfl rfl rfl

/-- So does a task that takes no lock. -/
lemma lockFrame_addUnlocked (w : World) (t : Task) (h : t.kind.takesVmLock = false) :
    (lockFrame env).rel w { w with db := w.db.addTask t } :=
  lockFrame_addTask fun hk => absurd (h.symm.trans hk) (by decide)

/-- So does the removal of a host. -/
lemma lockFrame_deleteHost (w : World) (id : String) :
    (lockFrame env).rel w { w with db := w.db.deleteHost id } := by
  intro hready
  refine ⟨⟨hready.started, fun v hv => ?_, hready.locks⟩,
    ⟨rfl, le_rfl, fun _ _ h => h, fun t ht => Or.inl ⟨t, ?_, .refl t⟩⟩⟩
  · obtain ⟨u, hu, rfl⟩ := List.mem_map.mp hv
    exact hready.rows u ((Table.deleteWhere_sublist _ _).subset hu)
  · exact (Table.deleteWhere_sublist _ _).subset ht

/-- The route that removes a host keeps the locks safe. -/
lemma keeps_removeHost (user : User) (hostId : String) :
    Keeps (lockFrame env) (removeHost env user hostId) := by
  refine keeps_bind keeps_read fun w => keeps_bind (keeps_ofOption _) fun host => ?_
  refine keeps_bind (lockFrame_record _ _ _ _ _) fun _ => ?_
  refine keeps_bind (keeps_settleTaskEvents ?_ _ _ _) fun _ => ?_
  · exact fun w es => lockFrame_rows rfl rfl le_rfl rfl rfl rfl
  · exact keeps_bind (keeps_modify fun w => lockFrame_deleteHost w _) fun _ => keeps_flush

/-! ## Snapshots -/

/-- So does a snapshot. -/
lemma lockFrame_applyVmInventory (hostId : String) (payload : Json) :
    Keeps (lockFrame env) (applyVmInventory env hostId payload) :=
  keeps_applyVmInventory lockFrame_nextId
    (fun _ _ => lockFrame_rows rfl rfl le_rfl rfl rfl rfl)
    (fun _ _ => lockFrame_rows rfl rfl le_rfl rfl rfl rfl) lockFrame_storeVm lockFrame_addVm
    (fun w _ => lockFrame_deleteVms w _) (fun _ => lockFrame_record _ _ _ _ _)
    (fun _ => lockFrame_rows rfl rfl le_rfl rfl rfl rfl)
    (fun _ _ => lockFrame_rows rfl rfl le_rfl rfl rfl rfl) hostId payload

/-! ## Steps -/

/-- The handler of the event ends in the frame of the locks. -/
def Event.IsQuiet : Event → Bool
  | .response _ _ | .sweep | .forgetVm _ _ | .releaseLock _ _ | .tick _ | .broker _ => false
  | _ => true

/-- A step of a quiet event is in the frame.

**Proof sketch.** By the event: each quiet handler keeps the locks safe, by its own lemma or by the
frame of its writes, and the transaction around it rolls back to a state that is safe as well. -/
theorem lockFrame_step (env : Env) (s : Committed) (e : Event) (h : e.IsQuiet = true) :
    (lockFrame env).rel { s.world with txStart := s.world.now - e.lag } (System.step env s e).world := by
  have hsafe : ∀ m : M Unit, e.handler env = some m →
      LockSafe env m { s.world with txStart := s.world.now - e.lag } →
      (lockFrame env).rel { s.world with txStart := s.world.now - e.lag }
        (System.step env s e).world := by
    intro m hm hm'
    rw [System.step_handler hm]
    exact rel_transact lockFrame_rollback flush_state hm'
  cases e with
  | vmAction lag user vmId action params => exact hsafe _ rfl (lockSafe_vmAction _ _ _ _)
  | deleteVm lag user vmId removeFiles => exact hsafe _ rfl (lockSafe_deleteVm _ _ _)
  | createVm lag user body => exact hsafe _ rfl (lockSafe_createVm _ _)
  | cloneVm lag user body => exact hsafe _ rfl (lockSafe_cloneVm _ _)
  | forgetVm user vmId => cases h
  | releaseLock user vmId => cases h
  | hostAction lag user hostId action =>
    exact hsafe _ rfl (lockSafe_of_keeps (keeps_hostAction lockFrame_nextId lockFrame_published
      lockFrame_addUnlocked lockFrame_events _ _ _))
  | agentUpgrade lag user hostId version checksum url =>
    exact hsafe _ rfl (lockSafe_of_keeps (keeps_updateHostAgent lockFrame_nextId
      lockFrame_published lockFrame_addUnlocked lockFrame_events _ _ _ _ _))
  | agentRollout lag user hostIds hypervisor version checksum url =>
    exact hsafe _ rfl (lockSafe_of_keeps (keeps_rolloutAgentBinary lockFrame_nextId
      lockFrame_published lockFrame_addUnlocked lockFrame_events _ _ _ _ _ _))
  | removeHost user hostId => exact hsafe _ rfl (lockSafe_of_keeps (keeps_removeHost _ _))
  | response hostId resp => cases h
  | vmInventory hostId payload =>
    exact hsafe _ rfl (lockSafe_of_keeps (lockFrame_applyVmInventory _ _))
  | agentStatus hostId payload =>
    exact hsafe _ rfl (lockSafe_of_keeps (keeps_applyAgentStatus
      (fun _ _ _ => lockFrame_rows rfl rfl le_rfl rfl rfl rfl) _))
  | hostInventory hostId payload =>
    exact hsafe _ rfl (lockSafe_of_keeps (keeps_applyHostInventory
      (fun _ _ _ _ => lockFrame_rows rfl rfl le_rfl rfl rfl rfl) _))
  | templateInventory hostId payload =>
    exact hsafe _ rfl (lockSafe_of_keeps (keeps_applyTemplateInventory lockFrame_nextId
      (fun _ => lockFrame_rows rfl rfl le_rfl rfl rfl rfl)
      (fun _ _ _ => lockFrame_rows rfl rfl le_rfl rfl rfl rfl) _))
  | isoInventory hostId payload =>
    exact hsafe _ rfl (lockSafe_of_keeps (keeps_applyIsoInventory lockFrame_nextId
      (fun _ => lockFrame_rows rfl rfl le_rfl rfl rfl rfl)
      (fun _ _ _ => lockFrame_rows rfl rfl le_rfl rfl rfl rfl) _))
  | hostMetrics hostId payload =>
    exact hsafe _ rfl (lockSafe_of_keeps (keeps_applyHostMetrics
      (fun _ _ _ => lockFrame_rows rfl rfl le_rfl rfl rfl rfl)
      (fun _ _ => lockFrame_rows rfl rfl le_rfl rfl rfl rfl) _))
  | vmMetrics hostId payload =>
    exact hsafe _ rfl (lockSafe_of_keeps (keeps_applyVmMetrics
      (fun _ _ => lockFrame_rows rfl rfl le_rfl rfl rfl rfl)
      (fun _ _ => lockFrame_rows rfl rfl le_rfl rfl rfl rfl) _))
  | sweep => cases h
  | tick elapsed => cases h
  | broker up => cases h

end OpenVCenter
