import OpenVCenter.CloneSource
import OpenVCenter.Foundations.Outbox

set_option relaxedAutoImplicit false
set_option autoImplicit false

/-!
# The requests the agents are sent

`_queue_vm_task`, `request_vm_create`, `request_vm_clone`, `request_host_action` and
`request_agent_upgrade` flush a task and publish the request to the agent of its host, in the
transaction that the route commits afterwards. A rollback undoes the task and leaves the request;
nothing else adds a task or publishes.

## Main definitions

* `OpenVCenter.requestOutbox` — the tasks and the requests queues as an `Outbox`.
* `OpenVCenter.Publishing` — a program that adds tasks only with their requests, where it returns.

## Main results

* `OpenVCenter.publishing_queueVmTask`, `OpenVCenter.publishing_provision`,
  `OpenVCenter.publishing_queueHostTask` — the three ways to queue a task.
* `OpenVCenter.publishes_step` — one step of the system, whatever raises in it.
* `OpenVCenter.published_once` — **every task was published exactly once**, to the queue of its
  host.
-/

namespace OpenVCenter

open Effect

variable {env : Env} {s w t : World} {α β : Type}

/-! ## The outbox -/

/-- What of a task does not change. -/
structure TaskOrigin where
  id : String
  kind : TaskKind
  hostId : String
  requestedBy : String
  requestPayload : Json

/-- What of the task does not change. -/
def Task.origin (task : Task) : TaskOrigin where
  id := task.id
  kind := task.kind
  hostId := task.hostId
  requestedBy := task.requestedBy
  requestPayload := task.requestPayload

/-- A message in the queue of the task's host that asks for what the row says was asked. -/
structure AsksFor (db : Db) (o : TaskOrigin) (x : String × AgentRequest) : Prop where
  id : x.2.id = o.id
  function : x.2.function = o.kind.name
  requestedBy : x.2.requestedBy = o.requestedBy
  payload : x.2.modelDump = o.requestPayload
  queue : ∃ host, db.host o.hostId = some host ∧ host.shortId = x.1

/-- The tasks and the requests queues. -/
def requestOutbox (env : Env) : Outbox World Task TaskOrigin (String × AgentRequest) String where
  supply := env.uuid
  supply_injective := env.uuid_injective
  next := World.nextId
  key x := x.2.id
  outbox := World.published
  rows w := w.db.tasks
  origin := Task.origin
  asks w := AsksFor w.db

/-! ## Programs -/

/-- A run of `m` publishes requests, and where it returns the tasks it has added are theirs. -/
def Publishing (env : Env) (s : World) (m : M α) (w : World) : Prop :=
  Ends (fun _ t => (requestOutbox env).Publishes s w t) ((requestOutbox env).Posted w) m w

/-- Programs that write no task and publish nothing. -/
def silentFrame : Frame World := drawnFrame.inter (Frame.same fun w => (w.published, w.db.tasks))

/-- A run that posts nothing keeps the messages and the tasks. -/
lemma silent_of (hnext : w.nextId ≤ t.nextId) (hpublished : t.published = w.published)
    (htasks : t.db.tasks = w.db.tasks) : silentFrame.rel w t :=
  ⟨hnext, Prod.ext hpublished htasks⟩

/-- `record` posts nothing. -/
lemma silent_record (actor : Option User) (action : String) (target : TargetRef)
    (task : Option Task) (details : Json) :
    Keeps silentFrame (record env actor action target task details) :=
  keeps_record (fun _ _ h => silent_of h rfl rfl) (fun _ _ => silent_of le_rfl rfl rfl) _ _ _ _ _

section Rules

/-- After a silent run, what was posted is posted. -/
lemma posted_of_silent (h : silentFrame.rel w t) : (requestOutbox env).Posted w t :=
  ⟨[], .nil h.1 (congrArg Prod.fst h.2)⟩

/-- A silent run publishes what was to be published. -/
lemma publishes_of_silent (h : silentFrame.rel w t) : (requestOutbox env).Publishes s w t := by
  have htasks : t.db.tasks = w.db.tasks := congrArg Prod.snd h.2
  refine .nothing h.1 (congrArg Prod.fst h.2) fun task htask => ⟨task, ?_, rfl⟩
  show task ∈ w.db.tasks
  rw [← htasks]
  exact htask

/-- An identifier has been drawn, and no more. -/
lemma posted_of_drawn (h : silentFrame.rel { w with nextId := w.nextId + 1 } t) :
    (requestOutbox env).Posted w t :=
  ⟨[], .nil ((Nat.le_succ _).trans h.1) (congrArg Prod.fst h.2)⟩

/-- Nothing is posted twice by nothing. -/
lemma posted_refl (w : World) : (requestOutbox env).Posted w w :=
  posted_of_silent (silentFrame.refl w)

/-- A silent program publishes. -/
lemma publishing_of_silent {m : M α} (h : Keeps silentFrame m) : Publishing env s m w :=
  ends_of_rel (h w) (fun _ _ _ hrel => publishes_of_silent hrel) fun _ hrel => posted_of_silent hrel

/-- A program that raises publishes. -/
lemma publishing_raise {e : Raised} : Publishing env s (Prog.raise e : M α) w := posted_refl w

/-- Programs that publish, one after another. -/
lemma publishing_bind {m : M α} {f : α → M β} (hm : Publishing env s m w)
    (hf : ∀ a t, m w = (.ok a, t) → Publishing env s (f a) t) : Publishing env s (m >>= f) w := by
  refine ends_bind.mpr (ends_mono hm (fun a t hrun h => ?_) fun _ h => h)
  exact ends_mono (hf a t hrun) (fun _ _ _ h' => h.trans h') fun _ h' => h.posted.trans h'

/-- A check first. -/
lemma publishing_check {m : M α} {f : α → M β} (hm : (m w).2 = w)
    (hf : ∀ a, m w = (.ok a, w) → Publishing env s (f a) w) : Publishing env s (m >>= f) w := by
  rcases hrun : m w with ⟨e | a, t⟩
  · rw [hrun] at hm
    obtain rfl : t = w := hm
    exact (ends_of_error (Prog.bind_run_error hrun)).mpr (posted_refl _)
  · rw [hrun] at hm
    obtain rfl : t = w := hm
    have hrest := hf a hrun
    unfold Publishing Ends at hrest ⊢
    rwa [Prog.bind_run_ok hrun]

/-- A raise that the loop swallows has left nothing. -/
lemma publishing_skipApiError {m : M Unit} (hm : Publishing env s m w)
    (hskip : ∀ e t, m w = (.error (.apiError e), t) → t = w) :
    Publishing env s (skipApiError m) w := by
  unfold Publishing Ends skipApiError
  rcases hrun : m w with ⟨e | ⟨⟩, t⟩
  · have hposted : (requestOutbox env).Posted w t := (ends_of_error hrun).mp hm
    cases e with
    | apiError a =>
      obtain rfl := hskip a t hrun
      exact publishes_of_silent (silentFrame.refl _)
    | _ => exact hposted
  · exact (ends_of_ok hrun).mp hm

/-- A transaction that raises takes its tasks back and not its requests. -/
lemma publishes_sessionScope {m : M Unit} (hm : Publishing env s m w) :
    (requestOutbox env).Publishes s w (sessionScope m w).2 := by
  have hposted : (requestOutbox env).Posted w (m w).2 := by
    rcases hrun : m w with ⟨e | ⟨⟩, t⟩
    · exact (ends_of_error hrun).mp hm
    · exact ((ends_of_ok hrun).mp hm).posted
  rcases savepoint_cases m w with ⟨a, t, hrun, -, hsave⟩ | ⟨e, hsave⟩
  · rw [sessionScope, hsave]
    exact (ends_of_ok hrun).mp hm
  · rw [sessionScope, hsave]
    obtain ⟨sent, hsent⟩ := hposted
    have hundone : (requestOutbox env).Posted w (rollback w (m w).2) :=
      ⟨sent, hsent.next_le, hsent.outbox, hsent.nodup, hsent.drawn⟩
    exact hundone.publishes rfl

end Rules

/-! ## Queueing -/

section Queueing

variable {u v : World} {vm : Vm} {host : Host} {kind : TaskKind} {requestedBy : String}
  {Q : β → World → Prop} {E : World → Prop}

/-- A silent program before one that ends well. -/
lemma ends_silent_bind {m : M α} {f : α → M β} (hm : Keeps silentFrame m)
    (hE : ∀ t, silentFrame.rel w t → E t) (hf : ∀ a t, silentFrame.rel w t → Ends Q E (f a) t) :
    Ends Q E (m >>= f) w :=
  ends_bind.mpr (ends_of_rel (hm w) (fun a t _ h => hf a t h) hE)

/-- In `v` the request `x` is about to go out, under the identifier drawn in `w`. -/
structure Queues (env : Env) (s w v : World) (x : String × AgentRequest) : Prop where
  next_lt : w.nextId < v.nextId
  published : v.published = w.published
  id : x.2.id = env.uuid w.nextId
  tasks : ∀ task ∈ v.db.tasks,
    (∃ task₀ ∈ w.db.tasks, task₀.origin = task.origin) ∨ AsksFor s.db task.origin x

/-- The request goes out, or the broker is down. -/
lemma Queues.send {x : String × AgentRequest} (h : Queues env s w v x) (a : α) :
    Ends (fun _ t => (requestOutbox env).Publishes s w t) ((requestOutbox env).Posted w)
      (publishRequest x.1 x.2 >>= fun _ => pure a) v := by
  by_cases hup : v.brokerUp = true
  · rw [ends_bind, ends_of_ok (publishRequest_up hup), ends_pure]
    refine ⟨[x], .singleton ?_ le_rfl h.next_lt h.id, fun task htask => ?_⟩
    · show v.published ++ [x] = w.published ++ [x]
      rw [h.published]
    · rcases h.tasks task htask with hold | hasks
      · exact Or.inl hold
      · exact Or.inr ⟨x, List.mem_singleton_self x, hasks⟩
  · exact (ends_of_error (Prog.bind_run_error (publishRequest_down hup))).mpr
      ⟨[], .nil h.next_lt.le h.published⟩

/-- The task is added and flushed, and its request goes out. -/
lemma ends_queue {task : Task} {x : String × AgentRequest}
    (hrel : silentFrame.rel { w with nextId := w.nextId + 1 } u) (hid : x.2.id = env.uuid w.nextId)
    (hasks : AsksFor s.db task.origin x) (a : α) :
    Ends (fun _ t => (requestOutbox env).Publishes s w t) ((requestOutbox env).Posted w)
      (modifyDb (fun db => db.addTask task) >>= fun _ => flush >>= fun _ =>
        publishRequest x.1 x.2 >>= fun _ => pure a) u := by
  have hpublished : u.published = w.published := congrArg Prod.fst hrel.2
  have htasks : u.db.tasks = w.db.tasks := congrArg Prod.snd hrel.2
  rw [modifyDb, ends_modify_bind]
  refine ends_silent_bind keeps_flush (fun t h => ?_) fun _ v h => Queues.send (x := x) ?_ a
  · exact ⟨[], .nil ((Nat.le_succ _).trans (hrel.1.trans h.1))
      ((congrArg Prod.fst h.2).trans hpublished)⟩
  · refine ⟨(Nat.lt_succ_self _).trans_le (hrel.1.trans h.1),
      (congrArg Prod.fst h.2).trans hpublished, hid, fun task' htask' => ?_⟩
    rw [show v.db.tasks = u.db.tasks ++ [task] from congrArg Prod.snd h.2, htasks] at htask'
    rcases List.mem_append.mp htask' with hold | hnew
    · exact Or.inl ⟨task', hold, rfl⟩
    · rw [List.mem_singleton.mp hnew]
      exact Or.inr hasks

/-- A host request. -/
lemma publishing_queueHostTask {params : Dict} (hhost : s.db.host host.id = some host) :
    Publishing env s (queueHostTask env host kind params requestedBy) w := by
  unfold Publishing queueHostTask
  rw [ends_bind, ends_of_ok (m := newId env) rfl, ends_read_bind]
  exact ends_queue (x := (host.shortId, _)) (silentFrame.refl _) rfl
    ⟨rfl, rfl, rfl, rfl, host, hhost, rfl⟩ _

/-- What create and clone do with their placeholder. -/
lemma publishing_provision {row : String → Vm} {params : Vm → Dict}
    (hhost : s.db.host host.id = some host) (hrow : ∀ id, (row id).hostId = host.id) :
    Publishing env s (provision env host kind row params requestedBy) w := by
  refine publishing_bind (publishing_of_silent (keeps_newId fun _ _ h => silent_of h rfl rfl))
    fun vmId w₁ _ => ?_
  refine publishing_bind (publishing_of_silent (keeps_modify fun _ => silent_of le_rfl rfl rfl))
    fun _ w₂ _ => publishing_bind (publishing_of_silent keeps_flush) fun _ w₃ _ => ?_
  unfold Publishing
  rw [ends_bind, ends_of_ok (m := newId env) rfl]
  refine ends_silent_bind (keeps_acquireVmLock (fun _ _ => silent_of le_rfl rfl rfl) _ _ _ _)
    (fun t h => posted_of_drawn h) fun _ w₄ h₄ => ?_
  rw [ends_read_bind]
  refine ends_queue (x := (host.shortId, _)) h₄ rfl ⟨rfl, rfl, rfl, rfl, host, ?_, rfl⟩ _
  show s.db.host (row vmId).hostId = some host
  rw [hrow]
  exact hhost

/-- The guarded part of a VM request. The task is written again with its payload before the request
goes out. -/
lemma ends_addVmTask {params : Dict} {vmUuid : String} {transitional : Option String}
    (hrel : silentFrame.rel { w with nextId := w.nextId + 1 } u)
    (hhost : s.db.host vm.hostId = some host) :
    Ends (fun _ t => (requestOutbox env).Publishes s w t) ((requestOutbox env).Posted w)
      (addVmTask env vm host vmUuid (env.uuid w.nextId) kind params requestedBy transitional)
      u := by
  rw [addVmTask_answered]
  rw [ends_read_bind]
  dsimp only
  rw [modifyDb, ends_modify_bind]
  set added := vmTask (env.uuid w.nextId) kind vm requestedBy u.txStart with hadded
  have hposted : ∀ t, silentFrame.rel { u with db := u.db.addTask added } t →
      (requestOutbox env).Posted w t := fun t h =>
    ⟨[], .nil ((Nat.le_succ _).trans (hrel.1.trans h.1))
      ((congrArg Prod.fst h.2).trans (congrArg Prod.fst hrel.2))⟩
  refine ends_silent_bind ?_ hposted fun _ w₂ h₂ => ?_
  · split
    · exact keeps_modify fun _ => silent_of le_rfl rfl rfl
    · exact keeps_pure _
  refine ends_silent_bind keeps_flush (fun t h => hposted t (silentFrame.trans h₂ h))
    fun _ w₃ h => ?_
  have h₃ := silentFrame.trans h₂ h
  refine ends_silent_bind ?_ (fun t h => hposted t (silentFrame.trans h₃ h)) fun _ w₄ h => ?_
  · split
    · exact keeps_setVmState (fun _ _ => silent_of le_rfl rfl rfl) _ _
    · exact keeps_pure _
  have h₄ := silentFrame.trans h₃ h
  rw [modifyDb, ends_modify_bind]
  refine Queues.send (x := (host.shortId, _)) ⟨?_, ?_, rfl, fun task htask => ?_⟩ _
  · exact (Nat.lt_succ_self _).trans_le (hrel.1.trans h₄.1)
  · exact (congrArg Prod.fst h₄.2).trans (congrArg Prod.fst hrel.2)
  · rcases Table.mem_store.mp htask with ⟨hmem, hne⟩ | ⟨rfl, -⟩
    · rw [show w₄.db.tasks = u.db.tasks ++ [added] from congrArg Prod.snd h₄.2] at hmem
      rcases List.mem_append.mp hmem with hold | hnew
      · have htasks : u.db.tasks = w.db.tasks := congrArg Prod.snd hrel.2
        exact Or.inl ⟨task, htasks ▸ hold, rfl⟩
      · rw [List.mem_singleton.mp hnew] at hne
        exact absurd rfl hne
    · exact Or.inr ⟨rfl, rfl, rfl, rfl, host, hhost, rfl⟩

/-- The cleanup after a failure posts nothing. -/
lemma ends_releasingOnRaise {vmId taskId : String} {lock : Bool} {m : M α}
    (h : Ends (fun _ t => (requestOutbox env).Publishes s w t) ((requestOutbox env).Posted w) m u) :
    Ends (fun _ t => (requestOutbox env).Publishes s w t) ((requestOutbox env).Posted w)
      (releasingOnRaise vmId taskId lock m) u := by
  unfold Ends at *
  rw [releasingOnRaise_answered]
  rcases hm : m u with ⟨e | a, t⟩
  · rw [hm] at h
    have hposted : (requestOutbox env).Posted w t := h
    dsimp only
    split
    · exact hposted.trans (posted_of_silent (silent_of le_rfl rfl rfl))
    · exact hposted
  · rw [hm] at h
    exact h

/-- `ofOption` returns what it was given. -/
lemma ofOption_found {e : Raised} {x : Option α} {a : α} (h : M.ofOption e x w = (.ok a, t)) :
    x = some a := by
  cases x with
  | none => cases h
  | some b =>
    cases h
    rfl

/-- A VM request. -/
lemma publishing_queueVmTask {params : Dict} {transitional : Option String} {lock : Bool}
    (hdb : w.db = s.db) : Publishing env s
      (queueVmTask env vm kind params requestedBy transitional lock) w := by
  rw [queueVmTask_answered]
  split
  · exact publishing_raise
  · unfold Publishing
    rw [ends_read_bind]
    refine publishing_check (ofOption_state _ _ _) fun host hhost => ?_
    refine publishing_check (requireHostOnline_state host w) fun _ _ => ?_
    unfold Publishing
    rw [ends_bind, ends_of_ok (m := newId env) rfl]
    refine ends_silent_bind ?_ (fun t h => posted_of_drawn h) fun taken u h => ?_
    · split
      · exact keeps_acquireVmLock (fun _ _ => silent_of le_rfl rfl rfl) _ _ _ _
      · exact keeps_pure _
    · split
      · exact ends_releasingOnRaise (ends_addVmTask h (hdb ▸ ofOption_found hhost))
      · exact posted_of_drawn h

/-- An action of the service publishes its task. -/
lemma publishing_requestVmAction {action : VmAction} {params : Dict} (hdb : w.db = s.db) :
    Publishing env s (requestVmAction env vm action requestedBy params) w := by
  rw [requestVmAction_answered]
  split
  · exact publishing_raise
  · refine publishing_check ?_ fun _ _ => publishing_queueVmTask hdb
    have hchecks : Keeps (Frame.same id) (if action = .move_storage then do
        let dest ← Prog.ofExcept (normPath env (params.get "destination_storage"))
        if dest.isEmpty then Prog.raise destinationRequired
        else do
          let w ← Prog.read
          let host ← M.ofOption .assertionError (w.db.host vm.hostId)
          requireVmStorageAllowed env host (.str (String.ofList dest))
      else pure () : M Unit) := by
      split
      · refine keeps_bind (keeps_ofExcept _) fun dest => ?_
        split
        · exact keeps_raise _
        · refine keeps_bind keeps_read fun w => keeps_bind (keeps_ofOption _) fun host => ?_
          exact keeps_of_state (requireVmStorageAllowed_state host _)
      · exact keeps_pure _
    exact hchecks w

end Queueing

/-! ## Routes -/

section Routes

variable {user : User} {hostId vmId version checksum : String} {url : Option String} {host : Host}

/-- A host that a route has found is in the table. -/
lemma host_of_ofOption {e : Raised} {id : String}
    (h : M.ofOption e (w.db.host id) w = (.ok host, t)) : w.db.host host.id = some host := by
  have hfound := ofOption_found h
  rwa [show host.id = id from Table.key_of_lookup hfound]

/-- A request, and its audit event. -/
lemma publishing_audited {m : M α} {f : α → M Unit} (hm : Publishing env s m w)
    (hf : ∀ a, Keeps silentFrame (f a)) : Publishing env s (m >>= f) w :=
  publishing_bind hm fun a _ _ => publishing_of_silent (hf a)

/-- The route of an action. -/
lemma publishing_vmAction {action : VmAction} {params : Dict} :
    Publishing env w (vmAction env user vmId action params) w := by
  unfold vmAction
  split
  · exact publishing_raise
  · refine publishing_check (ofOption_state _ _ w) fun vm _ => ?_
    refine publishing_audited (publishing_requestVmAction rfl) fun task => ?_
    dsimp only
    split
    · exact keeps_pure _
    · exact silent_record _ _ _ _ _

/-- The route that deletes a VM. -/
lemma publishing_deleteVm {removeFiles : Bool} :
    Publishing env w (deleteVm env user vmId removeFiles) w :=
  publishing_check (ofOption_state _ _ w) fun _ _ =>
    publishing_audited (publishing_requestVmAction rfl) fun _ => silent_record _ _ _ _ _

/-- The route that creates one. -/
lemma publishing_createVm {body : VmCreate} : Publishing env w (createVm env user body) w := by
  unfold createVm Publishing
  rw [ends_read_bind]
  refine publishing_check (ofOption_state _ _ w) fun host hhost => ?_
  refine publishing_audited ?_ fun row => silent_record _ _ _ _ _
  refine publishing_check (requireHostOnline_state host w) fun _ _ => ?_
  refine publishing_check (requireVmStorageAllowed_state host _ w) fun _ _ => ?_
  exact publishing_provision (host_of_ofOption hhost) fun _ => rfl

/-- The route that clones one. -/
lemma publishing_cloneVm {body : VmClone} : Publishing env w (cloneVm env user body) w := by
  unfold cloneVm Publishing
  rw [ends_read_bind]
  refine publishing_check (ofOption_state _ _ w) fun host hhost => ?_
  refine publishing_audited ?_ fun row => ?_
  · refine publishing_check (requireHostOnline_state host w) fun _ _ => ?_
    refine publishing_check (requireVmStorageAllowed_state host _ w) fun _ _ => ?_
    refine publishing_check ?_ fun spec _ =>
      publishing_provision (host_of_ofOption hhost) fun _ => rfl
    cases body.source with
    | vm sourceVmId => exact cloneOfVm_state host body _ w
    | template templateId => exact cloneOfTemplate_state host body _ w
  · exact keeps_bind keeps_read fun _ => silent_record _ _ _ _ _

/-- The route of a host's action. -/
lemma publishing_hostAction {action : HostAction} :
    Publishing env w (hostAction env user hostId action) w := by
  unfold hostAction Publishing
  rw [ends_read_bind]
  refine publishing_check (ofOption_state _ _ w) fun host hhost => ?_
  refine publishing_audited ?_ fun task => ?_
  · unfold requestHostAction Publishing
    rw [ends_read_bind]
    exact publishing_check (ofExcept_state _ w) fun _ _ =>
      publishing_queueHostTask (host_of_ofOption hhost)
  · split
    · exact keeps_pure _
    · exact silent_record _ _ _ _ _

/-- One host of an upgrade, with its audit event. -/
lemma publishing_upgrade {details : Json} (hhost : s.db.host host.id = some host) :
    Publishing env s (do
      let task ← requestAgentUpgrade env host version checksum url user.email
      record env (some user) "host.update_agent" host.ref (some task) details) w := by
  refine publishing_audited ?_ fun task => silent_record _ _ _ _ _
  unfold requestAgentUpgrade Publishing
  rw [ends_read_bind]
  exact publishing_check (ofExcept_state _ w) fun _ _ => publishing_queueHostTask hhost

/-! ### Rollouts -/

/-- No run of `m` raises an `ApiError`. -/
def Unrefused (m : M α) : Prop := ∀ w e t, m w ≠ (.error (.apiError e), t)

/-- Programs that are never refused, one after another. -/
lemma unrefused_bind {m : M α} {f : α → M β} (hm : Unrefused m) (hf : ∀ a, Unrefused (f a)) :
    Unrefused (m >>= f) := by
  intro w e t h
  rw [Prog.bind_run] at h
  rcases hrun : m w with ⟨e' | a, u⟩
  · rw [hrun] at h
    cases h
    exact hm w _ _ hrun
  · rw [hrun] at h
    exact hf a u _ _ h

/-- A change of the state is not refused. -/
lemma unrefused_modify {g : World → World} : Unrefused (Prog.modify g : M PUnit) := by
  intro w e t h
  cases h

/-- Reading it is not refused. -/
lemma unrefused_read : Unrefused (Prog.read : M World) := by
  intro w e t h
  cases h

/-- Returning is not refused. -/
lemma unrefused_pure {a : α} : Unrefused (pure a : M α) := by
  intro w e t h
  cases h

/-- Drawing an identifier is not refused. -/
lemma unrefused_newId : Unrefused (newId env) := by
  intro w e t h
  cases h

/-- A flush raises errors of the database only. -/
lemma unrefused_flush : Unrefused flush := by
  intro w e t h
  rw [flush_run] at h
  split_ifs at h
  all_goals cases h

/-- A publication raises errors of the broker only. -/
lemma unrefused_publishRequest {hostRef : String} {req : AgentRequest} :
    Unrefused (publishRequest hostRef req) := by
  intro w e t h
  by_cases hup : w.brokerUp = true
  · rw [publishRequest_up hup] at h
    cases h
  · rw [publishRequest_down hup] at h
    cases h

/-- A task for a host is never refused. -/
lemma unrefused_queueHostTask {kind : TaskKind} {params : Dict} {requestedBy : String} :
    Unrefused (queueHostTask env host kind params requestedBy) :=
  unrefused_bind unrefused_newId fun _ => unrefused_bind unrefused_read fun _ =>
    unrefused_bind unrefused_modify fun _ => unrefused_bind unrefused_flush fun _ =>
      unrefused_bind unrefused_publishRequest fun _ => unrefused_pure

/-- Nor is an audit event. -/
lemma unrefused_record {actor : Option User} {action : String} {target : TargetRef}
    {task : Option Task} {details : Json} :
    Unrefused (record env actor action target task details) :=
  unrefused_bind unrefused_newId fun _ => unrefused_bind unrefused_read fun _ =>
    unrefused_bind unrefused_modify fun _ => unrefused_flush

/-- What a rollout skips has been refused by the checks, before anything was written. -/
lemma publishing_rolloutHost (hhost : s.db.host host.id = some host) :
    Publishing env s (rolloutHost env user version checksum url host) w := by
  unfold rolloutHost Publishing
  rw [ends_read_bind]
  split
  · exact publishing_of_silent (keeps_pure _)
  · refine publishing_skipApiError (publishing_upgrade hhost) fun e t h => ?_
    rw [Prog.bind_run, requestAgentUpgrade_run] at h
    rcases hcheck : checkAgentUpgrade env w.now w.db host version checksum url with e' | params
    · rw [hcheck] at h
      cases h
      rfl
    · rw [hcheck] at h
      dsimp only at h
      rcases hrun : queueHostTask env host .host_update_agent params user.email w with
        ⟨e' | task, u⟩
      · rw [hrun] at h
        cases h
        exact absurd hrun (unrefused_queueHostTask w _ _)
      · rw [hrun] at h
        exact absurd h (unrefused_record u _ _)

/-- The route that rolls a binary out publishes one message a host. -/
lemma publishing_rolloutAgentBinary {hostIds : List String} {hypervisor : String}
    (hc : w.db.Keyed) : Publishing env w
      (rolloutAgentBinary env user hostIds hypervisor version checksum url) w := by
  unfold rolloutAgentBinary Publishing
  rw [ends_read_bind]
  refine ends_foldlM (publishes_of_silent (silentFrame.refl _)) fun host hmem _ t hsent => ?_
  have hhost : w.db.host host.id = some host :=
    (Table.lookup_eq_some hc.hostIds).mpr ⟨(List.mem_filter.mp hmem).1, rfl⟩
  exact ends_mono (publishing_rolloutHost hhost) (fun _ _ _ h => hsent.trans h)
    fun _ h => hsent.posted.trans h

end Routes

/-! ## Steps -/

section Step

variable (env)

/-- An event that ends tasks publishes nothing. -/
lemma published_of_ending (s : Committed) {e : Event} (h : e.endsTasks = true) :
    (System.step env s e).world.published = s.world.published := by
  have hquiet : ∀ m : M Unit, e.handler env = some m → Keeps (Frame.same World.published) m →
      (System.step env s e).world.published = s.world.published := by
    intro m hm hkeeps
    rw [System.step_handler hm]
    exact keeps_savepoint (F := Frame.same World.published) (fun _ _ h => h) hkeeps
      { s.world with txStart := s.world.now - e.lag }
  cases e with
  | response hostId resp =>
    exact hquiet _ rfl (keeps_applyResponse (fun _ _ h => h) (fun _ _ _ => rfl) (fun _ _ => rfl)
      (fun _ _ => rfl) (fun _ _ _ => rfl) (fun _ _ => rfl) (fun _ _ => rfl) (fun _ _ => rfl)
      (fun _ _ => rfl) (fun _ _ _ => rfl) (fun _ _ => rfl) hostId resp)
  | sweep =>
    exact hquiet _ rfl (keeps_bind (keeps_timeOutStaleTasks (fun _ _ => rfl) (fun _ _ => rfl)
      fun _ _ _ => rfl) fun _ => keeps_modify fun _ => rfl)
  | removeHost user hostId =>
    refine hquiet _ rfl (keeps_bind keeps_read fun w => keeps_bind (keeps_ofOption _) ?_)
    intro host
    refine keeps_bind (keeps_record (fun _ _ _ => rfl) (fun _ _ => rfl) _ _ _ _ _) fun _ => ?_
    refine keeps_bind (keeps_settleTaskEvents (fun _ _ => rfl) _ _ _) fun _ => ?_
    exact keeps_bind (keeps_modify fun _ => rfl) fun _ => keeps_flush
  | _ => cases h

/-- A row that is written again is that of a task that was there. -/
lemma origin_of_storeTask {tasks : List Task} {found stored task : Task} (hfound : found ∈ tasks)
    (horigin : found.origin = stored.origin) (htask : task ∈ Table.store Task.id stored tasks) :
    ∃ task₀ ∈ tasks, task₀.origin = task.origin := by
  rcases Table.mem_store.mp htask with ⟨hmem, -⟩ | ⟨rfl, -⟩
  · exact ⟨task, hmem, rfl⟩
  · exact ⟨found, hfound, horigin⟩

/-- An event that ends tasks ends tasks that were there. -/
lemma origin_of_ending (s : Committed) {e : Event} (h : e.endsTasks = true) :
    ∀ task ∈ (System.step env s e).world.db.tasks,
      ∃ task₀ ∈ s.world.db.tasks, task₀.origin = task.origin := by
  intro task htask
  cases e with
  | response hostId resp =>
    rcases step_response_audit env s hostId resp with
      ⟨htasks, -⟩ | ⟨found, hfound, ⟨-, -, htasks⟩ | ⟨-, -, -, htasks⟩⟩
    · exact ⟨task, htasks ▸ htask, rfl⟩
    · have hmem : found ∈ s.world.db.tasks := Table.mem_of_lookup (taskOfHost_eq_some.mp hfound).1
      rw [htasks] at htask
      refine origin_of_storeTask hmem ?_ htask
      rfl
    · have hmem : found ∈ s.world.db.tasks := Table.mem_of_lookup (taskOfHost_eq_some.mp hfound).1
      rw [htasks] at htask
      refine origin_of_storeTask hmem ?_ htask
      rfl
  | sweep =>
    rcases step_sweep_audit env s with ⟨htasks, -⟩ | ⟨htasks, -⟩
    · exact ⟨task, htasks ▸ htask, rfl⟩
    · rw [htasks] at htask
      rcases Table.mem_updateWhere.mp htask with ⟨hmem, -⟩ | ⟨found, hmem, -, rfl⟩
      · exact ⟨task, hmem, rfl⟩
      · exact ⟨found, hmem, rfl⟩
  | removeHost user hostId =>
    rcases step_removeHost_audit env s user hostId with ⟨htasks, -⟩ | ⟨-, -, -, htasks, -⟩
    · exact ⟨task, htasks ▸ htask, rfl⟩
    · rw [htasks] at htask
      exact ⟨task, (Table.mem_deleteWhere.mp htask).1, rfl⟩
  | _ => cases h

/-- **One step of the system**: whatever raises in it, it adds tasks only with their requests.

**Proof sketch.** An operation, and an event that ends tasks, is silent: neither its outbox nor the
set of its tasks changes. For the rest go through the handlers: a route publishes by its own lemma,
and the handler of a message is silent by the frame of its writes. -/
theorem publishes_step (s : Committed) (e : Organization.Event) :
    (requestOutbox env).Publishes s.world s.world (Organization.step env s e).world := by
  have hscope : ∀ (m : M Unit) (start : Time),
      Publishing env { s.world with txStart := start } m { s.world with txStart := start } →
      (requestOutbox env).Publishes s.world s.world
        (sessionScope m { s.world with txStart := start }).2 := by
    intro m start hm
    obtain ⟨sent, hsent, hrows⟩ := publishes_sessionScope hm
    exact ⟨sent, ⟨hsent.next_le, hsent.outbox, hsent.nodup, hsent.drawn⟩, hrows⟩
  rcases e with op | e
  · have hwrites : ∀ w db', op.Writes w.db db' → silentFrame.rel w { w with db := db' } := by
      intro w db' h
      cases op with
      | deleteCluster user id =>
        obtain ⟨x, rfl⟩ := h
        exact silent_of le_rfl rfl rfl
      | _ =>
        obtain ⟨x, rfl⟩ := h
        exact silent_of le_rfl rfl rfl
    have hkeeps : Keeps silentFrame (op.handler env) :=
      keeps_operation (fun _ _ h => silent_of h rfl rfl) (fun _ _ => silent_of le_rfl rfl rfl) op
        hwrites
    exact hscope (op.handler env) s.world.now (publishing_of_silent hkeeps)
  by_cases hends : e.endsTasks = true
  · exact .nothing (nextId_le_step env s e) (published_of_ending env s hends)
      (origin_of_ending env s hends)
  have hhandler : ∀ m : M Unit, e.handler env = some m →
      Publishing env { s.world with txStart := s.world.now - e.lag } m
        { s.world with txStart := s.world.now - e.lag } →
      (requestOutbox env).Publishes s.world s.world (System.step env s e).world := by
    intro m hm hpublishing
    rw [System.step_handler hm]
    exact hscope m _ hpublishing
  have hsilent : ∀ m : M Unit, e.handler env = some m → Keeps silentFrame m →
      (requestOutbox env).Publishes s.world s.world (System.step env s e).world :=
    fun m hm hkeeps => hhandler m hm (publishing_of_silent hkeeps)
  have hdraw : ∀ (w : World) (n : ℕ), w.nextId ≤ n → silentFrame.rel w { w with nextId := n } :=
    fun _ _ h => silent_of h rfl rfl
  have hevents : ∀ (w : World) (es : List AuditEvent),
      silentFrame.rel w { w with db := { w.db with auditEvents := es } } :=
    fun _ _ => silent_of le_rfl rfl rfl
  have hcache : ∀ (w : World) (c : Cache), silentFrame.rel w { w with cache := c } :=
    fun _ _ => silent_of le_rfl rfl rfl
  show (requestOutbox env).Publishes s.world s.world (System.step env s e).world
  cases e with
  | vmAction lag user vmId action params => exact hhandler _ rfl publishing_vmAction
  | deleteVm lag user vmId removeFiles => exact hhandler _ rfl publishing_deleteVm
  | createVm lag user body => exact hhandler _ rfl publishing_createVm
  | cloneVm lag user body => exact hhandler _ rfl publishing_cloneVm
  | forgetVm user vmId =>
    exact hsilent _ rfl (keeps_forgetVm hdraw hevents hcache
      (fun _ _ => silent_of le_rfl rfl rfl) _ _)
  | releaseLock user vmId => exact hsilent _ rfl (keeps_releaseVmLockRoute hdraw hevents hcache _ _)
  | hostAction lag user hostId action => exact hhandler _ rfl publishing_hostAction
  | agentUpgrade lag user hostId version checksum url =>
    refine hhandler _ rfl ?_
    unfold updateHostAgent Publishing
    rw [ends_read_bind]
    exact publishing_check (ofOption_state _ _ _) fun host hhost =>
      publishing_upgrade (host_of_ofOption hhost)
  | agentRollout lag user hostIds hypervisor version checksum url =>
    exact hhandler _ rfl (publishing_rolloutAgentBinary s.consistent.keyed)
  | vmInventory hostId payload =>
    exact hsilent _ rfl (keeps_applyVmInventory hdraw
      (fun _ _ => silent_of le_rfl rfl rfl) (fun _ _ => silent_of le_rfl rfl rfl)
      (fun _ _ => silent_of le_rfl rfl rfl) (fun _ _ _ => silent_of le_rfl rfl rfl)
      (fun _ _ => silent_of le_rfl rfl rfl) (fun _ => silent_record _ _ _ _ _)
      (fun _ => silent_of le_rfl rfl rfl) (fun _ _ => silent_of le_rfl rfl rfl) _ _)
  | agentStatus hostId payload =>
    exact hsilent _ rfl (keeps_applyAgentStatus (fun _ _ _ => silent_of le_rfl rfl rfl) _)
  | hostInventory hostId payload =>
    exact hsilent _ rfl (keeps_applyHostInventory (fun _ _ _ _ => silent_of le_rfl rfl rfl) _)
  | templateInventory hostId payload =>
    exact hsilent _ rfl (keeps_applyTemplateInventory hdraw
      (fun _ => silent_of le_rfl rfl rfl) (fun _ _ _ => silent_of le_rfl rfl rfl) _)
  | isoInventory hostId payload =>
    exact hsilent _ rfl (keeps_applyIsoInventory hdraw
      (fun _ => silent_of le_rfl rfl rfl) (fun _ _ _ => silent_of le_rfl rfl rfl) _)
  | hostMetrics hostId payload =>
    exact hsilent _ rfl (keeps_applyHostMetrics (fun _ _ _ => silent_of le_rfl rfl rfl)
      (fun _ _ => silent_of le_rfl rfl rfl) _)
  | vmMetrics hostId payload =>
    exact hsilent _ rfl (keeps_applyVmMetrics (fun _ _ => silent_of le_rfl rfl rfl)
      (fun _ _ => silent_of le_rfl rfl rfl) _)
  | tick elapsed => exact publishes_of_silent (silent_of le_rfl rfl rfl)
  | broker up => exact publishes_of_silent (silent_of le_rfl rfl rfl)
  | _ => exact absurd rfl hends

end Step

/-! ## Runs -/

/-- **Every task was published exactly once**: after any run of the system, whatever raised in it,
no two requests that were sent have one identifier, and every task has its own, which asks its host
for what the row says. One step of the run sent it, to the queue of the host as it then was. -/
theorem published_once (s : Committed) (h : System.Initial s) (hqueues : s.world.published = [])
    (es : List Organization.Event) :
    ((Organization.run env s es).world.published.map fun x => x.2.id).Nodup ∧
    ∀ task ∈ (Organization.run env s es).world.db.tasks,
      ∃ x ∈ (Organization.run env s es).world.published,
        (∀ y ∈ (Organization.run env s es).world.published, y.2.id = task.id → y = x) ∧
        ∃ es₁ e es₂, es = es₁ ++ e :: es₂ ∧
          AsksFor (Organization.run env s es₁).world.db task.origin x ∧
          x ∉ (Organization.run env s es₁).world.published ∧
          x ∈ (Organization.run env s (es₁ ++ [e])).world.published := by
  have hnodup : ((Organization.run env s es).world.published.map fun x => x.2.id).Nodup :=
    Outbox.run_nodup (publishes_step env) hqueues es
  refine ⟨hnodup, fun task htask => ?_⟩
  obtain ⟨x, hx, es₁, e, es₂, rfl, hasks, hbefore, hafter⟩ :=
    Outbox.run_row (publishes_step env) hqueues h.tasks es task htask
  refine ⟨x, hx, fun y hy hid => ?_, es₁, e, es₂, rfl, hasks, hbefore, ?_⟩
  · exact List.inj_on_of_nodup_map hnodup hy hx (hid.trans hasks.id.symm)
  · rw [Organization.run, Machine.run_append]
    exact hafter

/-- The VM `"g"` is reported and started; the broker is lost, and it is started again. -/
def Demo.startedOnce : List Organization.Event :=
  [.system (.vmInventory "h" (snapshot ["g"])), .system (.vmAction 0 user "" .start []),
    .system (.broker false), .system (.vmAction 0 user "" .refresh [])]

/-- A run with an action has published its one message once. -/
theorem published_once_started :
    (Organization.run Demo.settings Demo.start Demo.startedOnce).world.db.tasks.length = 1 ∧
    ((Organization.run Demo.settings Demo.start Demo.startedOnce).world.published.map
      fun x => x.2.id).Nodup ∧
    ∀ task ∈ (Organization.run Demo.settings Demo.start Demo.startedOnce).world.db.tasks,
      ∃ x ∈ (Organization.run Demo.settings Demo.start Demo.startedOnce).world.published,
        (∀ y ∈ (Organization.run Demo.settings Demo.start Demo.startedOnce).world.published,
          y.2.id = task.id → y = x) ∧
        ∃ es₁ e es₂, Demo.startedOnce = es₁ ++ e :: es₂ ∧
          AsksFor (Organization.run Demo.settings Demo.start es₁).world.db task.origin x ∧
          x ∉ (Organization.run Demo.settings Demo.start es₁).world.published ∧
          x ∈ (Organization.run Demo.settings Demo.start (es₁ ++ [e])).world.published :=
  ⟨by decide +kernel, published_once Demo.start Demo.start_initial rfl Demo.startedOnce⟩

end OpenVCenter
