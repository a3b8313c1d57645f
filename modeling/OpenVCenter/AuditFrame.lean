import OpenVCenter.RequestWrites
import OpenVCenter.TerminalResponse

set_option relaxedAutoImplicit false
set_option autoImplicit false

/-!
# Tasks and their audit events

An audited request records a pending event for the task it has queued, and whatever ends the task
settles the event. This file says what each handler does to the tasks and to the events: all but
three only add queued tasks and events that wait for them; a response, a sweep and the removal of
a host end tasks.

## Main definitions

* `OpenVCenter.AuditGrows` — tasks stay as they are, and new events wait for queued tasks.
* `OpenVCenter.Event.endsTasks` — the three events that end tasks.

## Main results

* `OpenVCenter.auditGrows_step` — a step of any other event.
* `OpenVCenter.step_response_audit`, `OpenVCenter.step_sweep_audit`,
  `OpenVCenter.step_removeHost_audit` — a step of each of the three.
-/

namespace OpenVCenter

open Effect

variable {env : Env} {w : World} {hostId : String} {resp : AgentResponse} {task : Task} {db : Db}

/-! ## The frame -/

/-- A task keeps its key and its status, or is queued under a fresh key; an event stays, or is new:
settled from the start and of no task, or waiting for a queued task. -/
structure AuditGrows (env : Env) (before after : World) : Prop where
  drawn : before.nextId ≤ after.nextId
  tasks : ∀ t ∈ after.db.tasks,
    (∃ t₀ ∈ before.db.tasks, t₀.id = t.id ∧ t₀.status = t.status) ∨
    t.status = .queued ∧ Drawn env after t.id ∧ ¬ Drawn env before t.id
  kept : ∀ t ∈ before.db.tasks, ∃ t' ∈ after.db.tasks, t'.id = t.id ∧
    (t'.status = .queued ∨ t'.status = t.status)
  events : ∀ e ∈ after.db.auditEvents, e ∈ before.db.auditEvents ∨
    (e.taskId = none ∧ e.outcome ≠ .pending) ∨
    e.outcome = .pending ∧ ∃ t ∈ after.db.tasks, e.taskId = some t.id ∧ t.status = .queued

/-- A run that writes no task and no event grows the trail. -/
lemma AuditGrows.of_same {w' : World} (hdrawn : w.nextId ≤ w'.nextId)
    (htasks : w'.db.tasks = w.db.tasks) (hevents : w'.db.auditEvents = w.db.auditEvents) :
    AuditGrows env w w' where
  drawn := hdrawn
  tasks t ht := Or.inl ⟨t, htasks ▸ ht, rfl, rfl⟩
  kept t ht := ⟨t, htasks ▸ ht, rfl, Or.inr rfl⟩
  events _ he := Or.inl (hevents ▸ he)

/-- Growing twice is growing. -/
lemma AuditGrows.trans {a b c : World} (h : AuditGrows env a b) (h' : AuditGrows env b c) :
    AuditGrows env a c where
  drawn := h.drawn.trans h'.drawn
  tasks t ht := by
    rcases h'.tasks t ht with ⟨t₁, ht₁, hid₁, hs₁⟩ | ⟨hq, hdrawn, hfresh⟩
    · rcases h.tasks t₁ ht₁ with ⟨t₀, ht₀, hid₀, hs₀⟩ | ⟨hq, hdrawn, hfresh⟩
      · exact Or.inl ⟨t₀, ht₀, hid₀.trans hid₁, hs₀.trans hs₁⟩
      · rw [hid₁] at hdrawn hfresh
        exact Or.inr ⟨hs₁ ▸ hq, hdrawn.mono h'.drawn, hfresh⟩
    · exact Or.inr ⟨hq, hdrawn, fun hd => hfresh (hd.mono h.drawn)⟩
  kept t ht := by
    obtain ⟨t₁, ht₁, hid₁, hs₁⟩ := h.kept t ht
    obtain ⟨t₂, ht₂, hid₂, hs₂⟩ := h'.kept t₁ ht₁
    refine ⟨t₂, ht₂, hid₂.trans hid₁, ?_⟩
    rcases hs₂ with hq | hs₂
    · exact Or.inl hq
    · rw [hs₂]
      exact hs₁
  events e he := by
    rcases h'.events e he with he | hnew | hnew
    · rcases h.events e he with he | hnew | ⟨hpending, t, ht, hid, hq⟩
      · exact Or.inl he
      · exact Or.inr (Or.inl hnew)
      · obtain ⟨t', ht', hid', hs'⟩ := h'.kept t ht
        refine Or.inr (Or.inr ⟨hpending, t', ht', by rw [hid, hid'], ?_⟩)
        rcases hs' with hq' | hs'
        · exact hq'
        · exact hs'.trans hq
    · exact Or.inr (Or.inl hnew)
    · exact Or.inr (Or.inr hnew)

variable (env) in
/-- Programs that leave the tasks as they are, and record events that wait for queued tasks. -/
def auditFrame : Frame World where
  rel := AuditGrows env
  refl _ := .of_same le_rfl rfl rfl
  trans := AuditGrows.trans

/-- What leaves tasks and events alone keeps the trail. -/
lemma auditFrame_same {w' : World} (htasks : w'.db.tasks = w.db.tasks)
    (hevents : w'.db.auditEvents = w.db.auditEvents) (hnext : w'.nextId = w.nextId) :
    (auditFrame env).rel w w' := .of_same hnext.ge htasks hevents

/-- Drawing identifiers keeps it. -/
lemma auditFrame_nextId (w : World) (n : ℕ) (h : w.nextId ≤ n) :
    (auditFrame env).rel w { w with nextId := n } := .of_same h rfl rfl

/-- So does a rollback. -/
lemma auditFrame_rollback (s t : World) (h : (auditFrame env).rel s t) :
    (auditFrame env).rel s (rollback s t) := .of_same h.drawn rfl rfl

/-! ## Single writes -/

/-- A task is queued under the identifier drawn in the first state. -/
lemma auditFrame_addTask {w₀ : World} {t : Task} (hrel : (auditFrame env).rel w₀ w)
    (hlt : w₀.nextId < w.nextId) (hid : t.id = env.uuid w₀.nextId) (hq : t.status = .queued) :
    (auditFrame env).rel w₀ { w with db := w.db.addTask t } where
  drawn := hrel.drawn
  tasks x hx := by
    rcases List.mem_append.mp hx with hx | hx
    · exact hrel.tasks x hx
    · rw [List.mem_singleton.mp hx]
      refine Or.inr ⟨hq, ⟨w₀.nextId, hlt, hid⟩, ?_⟩
      rw [hid]
      exact not_drawn_next env w₀
  kept x hx := by
    obtain ⟨x', hx', hsame⟩ := hrel.kept x hx
    exact ⟨x', List.mem_append_left _ hx', hsame⟩
  events e he := by
    rcases hrel.events e he with he | hnew | ⟨hpending, x, hx, hsame⟩
    · exact Or.inl he
    · exact Or.inr (Or.inl hnew)
    · exact Or.inr (Or.inr ⟨hpending, x, List.mem_append_left _ hx, hsame⟩)

/-- The row of a queued task is written again. -/
lemma auditFrame_storeTask (t : Task) (hq : t.status = .queued)
    (hadded : ∃ added ∈ w.db.tasks, added.id = t.id ∧ added.status = .queued) :
    (auditFrame env).rel w { w with db := w.db.storeTask t } where
  drawn := le_rfl
  tasks x hx := by
    rcases Table.mem_store.mp hx with ⟨hx, -⟩ | ⟨rfl, -⟩
    · exact Or.inl ⟨x, hx, rfl, rfl⟩
    · obtain ⟨added, hmem, hid, hs⟩ := hadded
      exact Or.inl ⟨added, hmem, hid, hs.trans hq.symm⟩
  kept x hx := by
    by_cases hid : x.id = t.id
    · exact ⟨t, Table.mem_store.mpr (Or.inr ⟨rfl, x, hx, hid⟩), hid.symm, Or.inl hq⟩
    · exact ⟨x, Table.mem_store.mpr (Or.inl ⟨hx, hid⟩), rfl, Or.inr rfl⟩
  events e he := Or.inl he

/-- An event of a queued task, or of no task, is recorded. -/
lemma auditFrame_record {actor : Option User} {action : String} {target : TargetRef}
    {task : Option Task} {details : Json} (hq : ∀ t ∈ task, Queued w.db t) :
    (auditFrame env).rel w (record env actor action target task details w).2 := by
  refine rel_bind (auditFrame_nextId w _ (Nat.le_succ _)) fun id t ht _ => ?_
  cases ht
  refine rel_bind ((auditFrame env).refl _) fun s t ht _ => ?_
  cases ht
  refine rel_bind ?_ fun _ t _ _ => keeps_flush t
  refine ⟨le_rfl, fun t ht => Or.inl ⟨t, ht, rfl, rfl⟩, fun t ht => ⟨t, ht, rfl, Or.inr rfl⟩,
    fun e he => ?_⟩
  rcases List.mem_append.mp he with he | he
  · exact Or.inl he
  · rw [List.mem_singleton.mp he]
    cases task with
    | none => exact Or.inr (Or.inl ⟨rfl, by simp [auditEvent]⟩)
    | some t =>
      obtain ⟨hmem, hstatus⟩ := hq t rfl
      exact Or.inr (Or.inr ⟨rfl, t, hmem, rfl, hstatus⟩)

/-- So does an event of no task. -/
lemma keeps_recordSystem (actor : Option User) (action : String) (target : TargetRef)
    (details : Json) : Keeps (auditFrame env) (record env actor action target none details) :=
  fun _ => auditFrame_record fun _ ht => by cases ht

/-! ## Requests -/

/-- A service that keeps the frame and queues the task it returns, then the event of the task. -/
lemma auditFrame_audited {α : Type} {m : M α} {f : α → M Unit} (hm : Keeps (auditFrame env) m)
    (hf : ∀ a t, m w = (.ok a, t) → (auditFrame env).rel t (f a t).2) :
    (auditFrame env).rel w ((m >>= f) w).2 := rel_bind (hm w) fun a t ht _ => hf a t ht

/-- So does an action of the service. -/
lemma auditFrame_vmRequest (vm : Vm) (action : VmAction) (requestedBy : String) (params : Dict) :
    Keeps (auditFrame env) (requestVmAction env vm action requestedBy params) :=
  keeps_requestVmAction auditFrame_nextId
    (fun _ _ => auditFrame_same rfl rfl rfl) (fun _ _ _ => auditFrame_addTask)
    (fun _ _ => auditFrame_same rfl rfl rfl) (fun _ _ => auditFrame_same rfl rfl rfl)
    (fun _ _ => auditFrame_same rfl rfl rfl) (fun _ => auditFrame_storeTask) vm action _ _

/-- So does an upgrade. -/
lemma auditFrame_upgradeRequest (host : Host) (version checksum : String) (url : Option String)
    (requestedBy : String) :
    Keeps (auditFrame env) (requestAgentUpgrade env host version checksum url requestedBy) :=
  keeps_upgradeRequest auditFrame_nextId
    (fun _ _ => auditFrame_same rfl rfl rfl) (fun _ _ _ => auditFrame_addTask) host _ _ _ _

/-- The route of an action keeps the trail. -/
lemma auditFrame_vmAction (user : User) (vmId : String) (action : VmAction) (params : Dict) :
    Keeps (auditFrame env) (vmAction env user vmId action params) := by
  unfold vmAction
  split
  · exact keeps_raise _
  · refine keeps_bind (keeps_bind keeps_read fun w => keeps_ofOption _) fun vm => fun w => ?_
    refine auditFrame_audited (auditFrame_vmRequest vm action _ _) fun task t ht => ?_
    split
    · exact (auditFrame env).refl t
    · refine auditFrame_record fun x hx => ?_
      cases hx
      exact requestVmAction_queued ht

/-- So does the route that deletes a VM. -/
lemma auditFrame_deleteVm (user : User) (vmId : String) (removeFiles : Bool) :
    Keeps (auditFrame env) (deleteVm env user vmId removeFiles) := by
  refine keeps_bind (keeps_bind keeps_read fun w => keeps_ofOption _) fun vm => fun w => ?_
  refine auditFrame_audited (auditFrame_vmRequest vm .delete _ _) fun task t ht => ?_
  refine auditFrame_record fun x hx => ?_
  cases hx
  exact requestVmAction_queued ht

/-- The route that creates one. -/
lemma auditFrame_createVm (user : User) (body : VmCreate) :
    Keeps (auditFrame env) (createVm env user body) := by
  refine keeps_bind keeps_read fun w => keeps_bind (keeps_ofOption _) fun host => fun w => ?_
  refine auditFrame_audited ?_ fun row t ht => auditFrame_record fun x hx => ?_
  · exact keeps_requestVmCreate auditFrame_nextId
      (fun _ _ => auditFrame_same rfl rfl rfl) (fun _ _ _ => auditFrame_addTask)
      (fun _ _ => auditFrame_same rfl rfl rfl) (fun _ _ => auditFrame_same rfl rfl rfl) host body _
  · cases hx
    exact requestVmCreate_queued ht

/-- The route that clones one. -/
lemma auditFrame_cloneVm (user : User) (body : VmClone) :
    Keeps (auditFrame env) (cloneVm env user body) := by
  refine keeps_bind keeps_read fun w => keeps_bind (keeps_ofOption _) fun host => fun w => ?_
  refine auditFrame_audited ?_ fun row t ht => ?_
  · exact keeps_requestVmClone auditFrame_nextId
      (fun _ _ => auditFrame_same rfl rfl rfl) (fun _ _ _ => auditFrame_addTask)
      (fun _ _ => auditFrame_same rfl rfl rfl) (fun _ _ => auditFrame_same rfl rfl rfl) body host _
  · obtain ⟨vm, task⟩ := row
    refine auditFrame_record fun x hx => ?_
    cases hx
    exact requestVmClone_queued ht

/-- The route of a host's action. -/
lemma auditFrame_hostAction (user : User) (hostId : String) (action : HostAction) :
    Keeps (auditFrame env) (hostAction env user hostId action) := by
  refine keeps_bind keeps_read fun w => keeps_bind (keeps_ofOption _) fun host => fun w => ?_
  refine auditFrame_audited ?_ fun task t ht => ?_
  · exact keeps_hostRequest auditFrame_nextId
      (fun _ _ => auditFrame_same rfl rfl rfl) (fun _ _ _ => auditFrame_addTask) host action _
  · split
    · exact (auditFrame env).refl t
    · refine auditFrame_record fun x hx => ?_
      cases hx
      exact requestHostAction_queued ht

/-- An agent upgrade and its event. -/
lemma auditFrame_upgrade (host : Host) (user : User) (version checksum : String)
    (url : Option String) (details : Json) :
    Keeps (auditFrame env) (do
      let task ← requestAgentUpgrade env host version checksum url user.email
      record env (some user) "host.update_agent" host.ref (some task) details) := by
  intro w
  refine auditFrame_audited (auditFrame_upgradeRequest host _ _ _ _) fun task t ht => ?_
  refine auditFrame_record fun x hx => ?_
  cases hx
  exact requestAgentUpgrade_queued ht

/-- The route of an upgrade. -/
lemma auditFrame_updateHostAgent (user : User) (hostId version checksum : String)
    (url : Option String) :
    Keeps (auditFrame env) (updateHostAgent env user hostId version checksum url) :=
  keeps_bind keeps_read fun _ => keeps_bind (keeps_ofOption _) fun host =>
    auditFrame_upgrade host user version checksum url _

/-- The route that rolls a binary out. -/
lemma auditFrame_rolloutAgentBinary (user : User) (hostIds : List String)
    (hypervisor version checksum : String) (url : Option String) :
    Keeps (auditFrame env)
      (rolloutAgentBinary env user hostIds hypervisor version checksum url) := by
  refine keeps_bind keeps_read fun w => keeps_foldlM (fun _ host _ => ?_) _
  refine keeps_bind keeps_read fun w => ?_
  split
  · exact keeps_pure _
  · exact keeps_skipApiError (auditFrame_upgrade host user version checksum url _)

/-- The route that forgets a VM. -/
lemma auditFrame_forgetVm (user : User) (vmId : String) :
    Keeps (auditFrame env) (forgetVm env user vmId) := by
  refine keeps_bind (keeps_bind keeps_read fun w => keeps_ofOption _) fun vm => ?_
  refine keeps_bind (keeps_recordSystem _ _ _ _) fun _ => keeps_bind keeps_read fun w => ?_
  refine keeps_bind ?_ fun _ => keeps_bind (keeps_modify fun _ => auditFrame_same rfl rfl rfl) fun _ => ?_
  · split
    · split
      · exact keeps_raise _
      · exact keeps_pure _
    · exact keeps_pure _
  · refine keeps_bind (keeps_clearVmState (fun _ _ => auditFrame_same rfl rfl rfl) _) fun _ => ?_
    exact keeps_bind (keeps_modify fun _ => auditFrame_same rfl rfl rfl) fun _ => keeps_flush

/-- The route that releases a lock. -/
lemma auditFrame_releaseVmLockRoute (user : User) (vmId : String) :
    Keeps (auditFrame env) (releaseVmLockRoute env user vmId) := by
  refine keeps_bind keeps_read fun w => ?_
  refine keeps_bind (keeps_modify fun _ => auditFrame_same rfl rfl rfl) fun _ => ?_
  split
  · exact keeps_recordSystem _ _ _ _
  · exact keeps_pure _

/-! ## Steps that end no task -/

/-- The events that end tasks. -/
def Event.endsTasks : Event → Bool
  | .response _ _ | .sweep | .removeHost _ _ => true
  | _ => false

/-- A step of any other event leaves the tasks as they are, and its events wait.

**Proof sketch.** By the event: each handler keeps the trail by its own lemma or by the frame of its
writes, and a rollback keeps it too. -/
theorem auditGrows_step (env : Env) (s : Committed) (e : Event) (h : e.endsTasks = false) :
    AuditGrows env s.world (System.step env s e).world := by
  have hhandler : ∀ m : M Unit, e.handler env = some m → Keeps (auditFrame env) m →
      AuditGrows env s.world (System.step env s e).world := by
    intro m hm hkeeps
    rw [System.step_handler hm]
    have hrel := keeps_savepoint auditFrame_rollback hkeeps
      { s.world with txStart := s.world.now - e.lag }
    exact ⟨hrel.drawn, hrel.tasks, hrel.kept, hrel.events⟩
  cases e with
  | vmAction lag user vmId action params => exact hhandler _ rfl (auditFrame_vmAction _ _ _ _)
  | deleteVm lag user vmId removeFiles => exact hhandler _ rfl (auditFrame_deleteVm _ _ _)
  | createVm lag user body => exact hhandler _ rfl (auditFrame_createVm _ _)
  | cloneVm lag user body => exact hhandler _ rfl (auditFrame_cloneVm _ _)
  | forgetVm user vmId => exact hhandler _ rfl (auditFrame_forgetVm _ _)
  | releaseLock user vmId => exact hhandler _ rfl (auditFrame_releaseVmLockRoute _ _)
  | hostAction lag user hostId action => exact hhandler _ rfl (auditFrame_hostAction _ _ _)
  | agentUpgrade lag user hostId version checksum url =>
    exact hhandler _ rfl (auditFrame_updateHostAgent _ _ _ _ _)
  | agentRollout lag user hostIds hypervisor version checksum url =>
    exact hhandler _ rfl (auditFrame_rolloutAgentBinary _ _ _ _ _ _)
  | removeHost user hostId => cases h
  | response hostId resp => cases h
  | vmInventory hostId payload =>
    exact hhandler _ rfl (keeps_applyVmInventory auditFrame_nextId
      (fun _ _ => auditFrame_same rfl rfl rfl) (fun _ _ => auditFrame_same rfl rfl rfl)
      (fun _ _ => auditFrame_same rfl rfl rfl) (fun _ _ _ => auditFrame_same rfl rfl rfl)
      (fun _ _ => auditFrame_same rfl rfl rfl) (fun _ => keeps_recordSystem _ _ _ _)
      (fun _ => auditFrame_same rfl rfl rfl) (fun _ _ => auditFrame_same rfl rfl rfl) _ _)
  | agentStatus hostId payload =>
    exact hhandler _ rfl (keeps_applyAgentStatus (fun _ _ _ => auditFrame_same rfl rfl rfl) _)
  | hostInventory hostId payload =>
    exact hhandler _ rfl (keeps_applyHostInventory (fun _ _ _ _ => auditFrame_same rfl rfl rfl) _)
  | templateInventory hostId payload =>
    exact hhandler _ rfl (keeps_applyTemplateInventory auditFrame_nextId
      (fun _ => auditFrame_same rfl rfl rfl) (fun _ _ _ => auditFrame_same rfl rfl rfl) _)
  | isoInventory hostId payload =>
    exact hhandler _ rfl (keeps_applyIsoInventory auditFrame_nextId
      (fun _ => auditFrame_same rfl rfl rfl) (fun _ _ _ => auditFrame_same rfl rfl rfl) _)
  | hostMetrics hostId payload =>
    exact hhandler _ rfl (keeps_applyHostMetrics (fun _ _ _ => auditFrame_same rfl rfl rfl)
      (fun _ _ => auditFrame_same rfl rfl rfl) _)
  | vmMetrics hostId payload =>
    exact hhandler _ rfl (keeps_applyVmMetrics (fun _ _ => auditFrame_same rfl rfl rfl)
      (fun _ _ => auditFrame_same rfl rfl rfl) _)
  | sweep => cases h
  | tick elapsed => exact .of_same le_rfl rfl rfl
  | broker up => exact .of_same le_rfl rfl rfl

/-! ## Steps that end tasks -/

/-- What a response does to the tasks and the events: nothing, an update of its task, or the end of
its task.

**Proof sketch.** By the branches of the handler: no task, a progress message, one that lands, and
one that does not. What raises is rolled back, and what returns is committed or rolled back by the
flush at the end; the refresh writes neither tasks nor events. -/
theorem step_response_audit (env : Env) (s : Committed) (hostId : String) (resp : AgentResponse) :
    let before := s.world.db
    let after := (System.step env s (.response hostId resp)).world.db
    (after.tasks = before.tasks ∧ after.auditEvents = before.auditEvents) ∨
    ∃ task, before.taskOfHost hostId resp.id = some task ∧
      ((isProgress resp task.status = true ∧ after.auditEvents = before.auditEvents ∧
        after.tasks = (before.storeTask (progressTask s.world.now resp.stripped
          { task with responsePayload := resp.stripped.modelDump })).tasks) ∨
      (isProgress resp task.status = false ∧ Lands env s.world.now resp ∧
        after.auditEvents =
          (lifecycleDb env s.world.now resp.stripped task before).auditEvents ∧
        after.tasks = (lifecycleDb env s.world.now resp.stripped task before).tasks)) := by
  intro before after
  have hc := s.consistent
  have hrolled : ∀ e t, applyResponse env hostId resp (atStart s.world) = (.error e, t) →
      after.tasks = before.tasks ∧ after.auditEvents = before.auditEvents := by
    intro e t ht
    have hstep := congrArg World.db (@step_response env hostId resp s)
    rw [sessionScope, savepoint_of_raise ht] at hstep
    exact ⟨congrArg Db.tasks hstep, congrArg Db.auditEvents hstep⟩
  -- a run that returns is committed, or rolled back by the flush
  have hreturns : ∀ t, applyResponse env hostId resp (atStart s.world) = (.ok (), t) →
      after = t.db ∨ after.tasks = before.tasks ∧ after.auditEvents = before.auditEvents := by
    intro t ht
    have hstep := congrArg World.db (@step_response env hostId resp s)
    rcases savepoint_cases (applyResponse env hostId resp) (atStart s.world) with
      ⟨⟨⟩, t', hm, -, hr⟩ | ⟨e, hr⟩
    · rw [sessionScope, hr] at hstep
      rw [ht] at hm
      cases hm
      exact Or.inl hstep
    · rw [sessionScope, hr] at hstep
      exact Or.inr ⟨congrArg Db.tasks hstep, congrArg Db.auditEvents hstep⟩
  rcases hfound : before.taskOfHost hostId resp.id with _ | task
  · rcases hreturns _ (applyResponse_unknown (w := atStart s.world) hfound) with heq | h
    · exact Or.inl ⟨congrArg Db.tasks heq, congrArg Db.auditEvents heq⟩
    · exact Or.inl h
  cases hp : isProgress resp task.status with
  | true =>
    by_cases hs : resp.strippable = true
    · rcases hreturns _ (applyResponse_progress (w := atStart s.world) hfound hp hs) with heq | h
      · refine Or.inr ⟨task, rfl, Or.inl ⟨hp, ?_, ?_⟩⟩
        · rw [heq]
          rfl
        · rw [heq]
          rfl
      · exact Or.inl h
    · exact Or.inl (hrolled _ _ (applyResponse_not_strippable (w := atStart s.world) hfound hs))
  | false =>
    by_cases hl : Lands env s.world.now resp
    · have hc₁ : (lifecycleDb env s.world.now resp.stripped task before).Consistent :=
        (lifecycleDb_consistent_iff hc (task_of_taskOfHost hfound)).mpr hl.2
      have hlanded := applyResponse_landed (w := atStart s.world) hc hfound hp hl
      set ended : Task := endedTask env s.world.now resp.stripped task
      set w₁ : World := { atStart s.world with
        db := lifecycleDb env s.world.now resp.stripped task before }
      have hended : ended.status = terminalStatus resp.stripped := rfl
      rcases @applyRefresh_cases env w₁ hostId _ _ (Frame.same fun _ => ()) hc₁ hended
          (fun _ => rfl) (fun _ => rfl) with
        ⟨e, t, ht, -, -⟩ | ⟨t, -, -, htasks, hevents, -, ht⟩
      · exact Or.inl (hrolled e t (hlanded.trans ht))
      · rcases hreturns _ (hlanded.trans ht) with heq | h
        · have hdb : after = t.db := by
            rw [heq]
            split <;> rfl
          refine Or.inr ⟨task, rfl, Or.inr ⟨hp, hl, ?_, ?_⟩⟩
          · rw [hdb]
            exact hevents
          · rw [hdb]
            exact htasks
        · exact Or.inl h
    · refine Or.inl ?_
      have hsame := congrArg World.db (response_rejected s hfound hp hl)
      exact ⟨congrArg Db.tasks hsame, congrArg Db.auditEvents hsame⟩

/-- What a sweep does to the tasks and the events: nothing when it raises, else the stale tasks
time out. -/
theorem step_sweep_audit (env : Env) (s : Committed) :
    let before := s.world.db
    let after := (System.step env s .sweep).world.db
    (after.tasks = before.tasks ∧ after.auditEvents = before.auditEvents) ∨
    (after.tasks = (timedOutDb env s.world.now before).tasks ∧
      after.auditEvents = (timedOutDb env s.world.now before).auditEvents) := by
  intro before after
  have hstep : after = (savepoint (sweepStaleTasks env) (atStart s.world)).2.db := rfl
  rcases savepoint_cases (sweepStaleTasks env) (atStart s.world) with ⟨⟨⟩, t, hm, -, hr⟩ | ⟨e, hr⟩
  · rw [hr] at hstep
    obtain ⟨⟨⟩, t₁, h₁, h₂⟩ := Prog.bind_eq_ok.mp hm
    have hframe : (Frame.same fun w => (w.db.tasks, w.db.auditEvents)).rel
        { atStart s.world with db := timedOutDb env s.world.now before } t₁ :=
      timeOutStaleTasks_eq_ok (w := atStart s.world) (fun _ _ _ => rfl) h₁
    obtain ⟨htasks, hevents⟩ := Prod.mk.inj hframe
    obtain rfl : { t₁ with db := t₁.db.deleteVms (isOrphan t₁.db) } = t := congrArg Prod.snd h₂
    refine Or.inr ⟨?_, ?_⟩
    · rw [hstep]
      exact htasks
    · rw [hstep]
      exact hevents
  · rw [hr] at hstep
    exact Or.inl ⟨congrArg Db.tasks hstep, congrArg Db.auditEvents hstep⟩

/-- The keys of the tasks of the host that are queued or running. -/
def openTaskIds (db : Db) (hostId : String) : List String :=
  (db.tasks.filter fun t => decide (t.hostId = hostId) && !t.status.isTerminal).map Task.id

/-- What the removal of a host does to the tasks and the events: nothing when it is refused, else
the events of the open tasks of the host fail, and its tasks go.

**Proof sketch.** The run is taken apart at its binds: the host is found, its event recorded, the
events of its open tasks settled and its rows deleted. A refused removal is rolled back whole. -/
theorem step_removeHost_audit (env : Env) (s : Committed) (user : User) (hostId : String) :
    let before := s.world.db
    let after := (System.step env s (.removeHost user hostId)).world.db
    (after.tasks = before.tasks ∧ after.auditEvents = before.auditEvents) ∨
    ∃ removed : AuditEvent, removed.taskId = none ∧ removed.outcome ≠ .pending ∧
      after.tasks = Table.deleteWhere (fun t => decide (t.hostId = hostId)) before.tasks ∧
      after.auditEvents = settleEvents (openTaskIds before hostId) .failed
        (some "Host removed before the task finished") (before.auditEvents ++ [removed]) := by
  intro before after
  have hstep : after = (savepoint (removeHost env user hostId) (atStart s.world)).2.db := rfl
  rcases savepoint_cases (removeHost env user hostId) (atStart s.world) with
    ⟨⟨⟩, t, hm, -, hr⟩ | ⟨e, hr⟩
  · rw [hr] at hstep
    unfold removeHost at hm
    rw [Prog.read_bind_run] at hm
    obtain ⟨host, w₁, h₁, hm⟩ := Prog.bind_eq_ok.mp hm
    obtain ⟨⟨⟩, w₂, h₂, hm⟩ := Prog.bind_eq_ok.mp hm
    obtain ⟨⟨⟩, w₃, h₃, hm⟩ := Prog.bind_eq_ok.mp hm
    rw [modifyDb, Prog.modify_bind_run] at hm
    obtain ⟨-, rfl⟩ := flush_eq_ok.mp hm
    obtain rfl := settleTaskEvents_eq_ok h₃
    have hid : host.id = hostId := by
      rcases hhost : (atStart s.world).db.host hostId with _ | found
      · rw [hhost] at h₁; cases h₁
      · rw [hhost] at h₁
        cases h₁
        exact host_id_of_host hhost
    have hw₁ : w₁ = atStart s.world := by
      have hsame := ofOption_state (notFound "Host") ((atStart s.world).db.host hostId)
        (atStart s.world)
      rw [h₁] at hsame
      exact hsame
    subst hw₁ hid
    unfold record at h₂
    obtain ⟨id, w₄, h₄, h₂⟩ := Prog.bind_eq_ok.mp h₂
    cases h₄
    rw [Prog.read_bind_run, modifyDb, Prog.modify_bind_run] at h₂
    obtain ⟨-, rfl⟩ := flush_eq_ok.mp h₂
    refine Or.inr ⟨auditEvent (env.uuid s.world.nextId) s.world.now (some user) "host.delete" host.ref
      none (.obj [("vmCount", .int (before.vms.countP fun v => decide (v.hostId = host.id)))]),
      rfl, ?_, ?_, ?_⟩
    · simp [auditEvent]
    · rw [hstep]
      rfl
    · rw [hstep]
      rfl
  · rw [hr] at hstep
    exact Or.inl ⟨congrArg Db.tasks hstep, congrArg Db.auditEvents hstep⟩

/-! ## Identifiers -/

/-- No step takes an identifier back. -/
theorem nextId_le_step (env : Env) (s : Committed) (e : Event) :
    s.world.nextId ≤ (System.step env s e).world.nextId := by
  have hhandler : ∀ m : M Unit, e.handler env = some m → Keeps drawnFrame m →
      s.world.nextId ≤ (System.step env s e).world.nextId := by
    intro m hm hkeeps
    rw [System.step_handler hm]
    exact keeps_savepoint (F := drawnFrame) (fun _ _ h => h) hkeeps
      { s.world with txStart := s.world.now - e.lag }
  cases hends : e.endsTasks with
  | false => exact (auditGrows_step env s e hends).drawn
  | true =>
    cases e with
    | response hostId resp =>
      refine hhandler _ rfl (keeps_applyResponse (fun _ _ h => h) (fun _ _ h => h)
        (fun _ _ => le_rfl) (fun _ _ => le_rfl) (fun _ _ _ => le_rfl) (fun _ _ => le_rfl)
        (fun _ _ => le_rfl) (fun _ _ => le_rfl) (fun _ _ => le_rfl) (fun _ _ _ => le_rfl)
        (fun _ _ => le_rfl) hostId resp)
    | sweep =>
      refine hhandler _ rfl (keeps_bind (keeps_timeOutStaleTasks (fun _ _ => le_rfl)
        (fun _ _ => le_rfl) fun _ _ _ => le_rfl) fun _ => keeps_modify fun _ => le_rfl)
    | removeHost user hostId =>
      refine hhandler _ rfl (keeps_bind keeps_read fun w => keeps_bind (keeps_ofOption _) ?_)
      intro host
      refine keeps_bind (keeps_record (fun _ _ h => h) (fun _ _ => le_rfl) _ _ _ _ _) fun _ => ?_
      refine keeps_bind (keeps_settleTaskEvents (fun _ _ => le_rfl) _ _ _) fun _ => ?_
      exact keeps_bind (keeps_modify fun _ => le_rfl) fun _ => keeps_flush
    | _ => cases hends

end OpenVCenter
