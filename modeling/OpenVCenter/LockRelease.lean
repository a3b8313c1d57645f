import OpenVCenter.RequestWrites

set_option relaxedAutoImplicit false
set_option autoImplicit false

/-!
# Locks left behind by a request that raises

The services that queue a task on a VM write its lock to the cache, which no rollback undoes. Each
of their calls to the database, to Valkey and to the broker may fail, before its effect or behind
it. An action on a VM frees its lock when a step behind the acquisition raises; the acquisition
itself stands before the `try`, and a create or clone has none.

## Main definitions

* `OpenVCenter.VmRequest` — the requests that queue a task under a VM lock.
* `OpenVCenter.LeavesLock` — the cache holds a lock that the request has taken.
* `OpenVCenter.ActionPlan`, `OpenVCenter.Plan` — what is left of a request once its checks have
  passed.
* `OpenVCenter.VmRequest.FreesLock` — no raise leaves the lock that was taken.

## Main results

* `OpenVCenter.leavesLock_taking_iff` — a service that takes a lock leaves it when the answer of the
  acquisition is lost, or when a later raise leaves it.
* `OpenVCenter.no_lock_left_iff` — a raising request leaves no lock, exactly when the answer of the
  acquisition is not lost, and behind it nothing raises or the lock is freed.
-/

namespace OpenVCenter

open Effect

variable {env : Env} {w t : World} {e : Raised} {requestedBy : String} {calls : Calls}

/-! ## Calls that may fail -/

section Calls

variable {α : Type} {call : Call} {m : M α}

/-- A call keeps a frame that what is called keeps. -/
lemma keeps_through {F : Frame World} (h : Keeps F m) : Keeps F (call.through m) := by
  cases call with
  | answered => exact h
  | lost => exact keeps_bind h fun _ => keeps_raise _
  | refused => exact keeps_raise _

/-- A call returns when it is answered and what is called returns. -/
lemma returnsWhen_through (call : Call) {c : Prop} {a : α} (h : ReturnsWhen m w c a t) :
    ReturnsWhen (call.through m) w (call = .answered ∧ c) a t := by
  cases call with
  | answered => exact h.congr (and_iff_right rfl).symm
  | lost =>
    refine Or.inr ⟨nofun, ?_⟩
    rcases h with ⟨-, hrun⟩ | ⟨-, e, u, hrun⟩
    · exact ⟨_, _, Prog.bind_run_ok hrun⟩
    · exact ⟨e, u, Prog.bind_run_error hrun⟩
  | refused => exact Or.inr ⟨nofun, .connectionError, w, rfl⟩

/-- A call whose answer is lost has had its effect. -/
lemma through_lost {a : α} (h : m w = (.ok a, t)) :
    Call.lost.through m w = (.error .connectionError, t) := Prog.bind_run_ok h

/-- A flush returns when the tables meet the constraints. -/
lemma returnsWhen_flush : ReturnsWhen flush w w.db.Consistent () w := by
  by_cases hc : w.db.Consistent
  · exact Or.inl ⟨hc, flush_of_consistent hc⟩
  · obtain ⟨e, hflush⟩ := flush_of_inconsistent hc
    exact Or.inr ⟨hc, e, w, hflush⟩

/-- A publication returns when the broker is up. -/
lemma returnsWhen_publishRequest (hostRef : String) (req : AgentRequest) :
    ReturnsWhen (publishRequest hostRef req) w (w.brokerUp = true) ()
      { w with published := w.published ++ [(hostRef, req)] } := by
  by_cases hup : w.brokerUp = true
  · exact Or.inl ⟨hup, publishRequest_up hup⟩
  · exact Or.inr ⟨hup, _, _, publishRequest_down hup⟩

/-- The overlay takes any text. -/
lemma returnsWhen_setVmState (vmId state : String) :
    ReturnsWhen (setVmState env vmId (.str state)) w True ()
      { w with cache := { w.cache with
        vmStates := Expiring.put w.cache.vmStates vmId state
          (w.now + seconds env.vmStateTtlSeconds) } } :=
  returnsWhen_of_ok (setVmState_eq_ok.mpr ⟨state, rfl, rfl⟩)

end Calls

/-! ## Requests -/

/-- The requests that queue a task on a VM under its lock. -/
inductive VmRequest where
  | action (vm : Vm) (action : VmAction) (params : Dict)
  | create (host : Host) (body : VmCreate)
  | clone (body : VmClone) (host : Host)

/-- The service behind a request. -/
def VmRequest.run (env : Env) (requestedBy : String) (calls : Calls) : VmRequest → M Unit
  | .action vm act params => do
    let _ ← requestVmActionOver env calls vm act requestedBy params
    pure ()
  | .create host body => do
    let _ ← requestVmCreateOver env calls host body requestedBy
    pure ()
  | .clone body host => do
    let _ ← requestVmCloneOver env calls body host requestedBy
    pure ()

/-- The cache of `t` holds a lock that a call from `w` has taken: one that was not there, under an
identifier that the call has drawn. -/
def LeavesLock (env : Env) (w t : World) : Prop :=
  ∃ vmId lock, Expiring.get t.cache.vmLocks vmId = some lock ∧
    Expiring.get w.cache.vmLocks vmId ≠ some lock ∧
    ∃ k, w.nextId ≤ k ∧ k < t.nextId ∧ lock.taskId = env.uuid k

/-- What is left of an action once its checks have passed. -/
structure ActionPlan where
  host : Host
  vmUuid : String

/-- The checks of an action. -/
def actionPlan (env : Env) (calls : Calls) (vm : Vm) (action : VmAction) (params : Dict) :
    M ActionPlan := do
  if action = .migrate ∧ vm.highlyAvailable = false then Prog.raise (haRequired env vm)
  else do
    (if action = .move_storage then do
      let dest ← Prog.ofExcept (normPath env (params.get "destination_storage"))
      if dest.isEmpty then Prog.raise destinationRequired
      else do
        let w ← Prog.read
        let host ← calls.read.through (M.ofOption .assertionError (w.db.host vm.hostId))
        requireVmStorageAllowed env host (.str (String.ofList dest))
    else pure ())
    match nonEmpty vm.vmUuid with
    | none => Prog.raise (vmNotReady "This VM has not been reported by its host agent yet")
    | some vmUuid => do
      let w ← Prog.read
      let host ← calls.read.through (M.ofOption .assertionError (w.db.host vm.hostId))
      requireHostOnline env host
      pure { host, vmUuid }

/-- What is left of a create or clone once its checks have passed. -/
structure Plan where
  host : Host
  kind : TaskKind
  vm : String → Vm
  params : Vm → Dict

/-- The checks of a create, then its plan. -/
def createPlan (env : Env) (host : Host) (body : VmCreate) : M Plan := do
  requireHostOnline env host
  requireVmStorageAllowed env host (.str (env.py.strip (body.destinationStorage.getD "")))
  pure { host, kind := .vm_create, vm := createPlaceholder env host body,
         params := createParams env host body }

/-- The checks of a clone, then its plan. -/
def clonePlan (env : Env) (calls : Calls) (body : VmClone) (host : Host) : M Plan := do
  requireHostOnline env host
  requireVmStorageAllowed env host (.ofOption body.destinationStorage)
  let spec ← calls.read.through (match body.source with
    | .vm sourceVmId => cloneOfVm env host body sourceVmId
    | .template templateId => cloneOfTemplate env host body templateId)
  pure { host, kind := .vm_clone, vm := clonePlaceholder host body spec,
         params := fun _ => cloneParams env host body spec }

/-- The placeholder row of a plan. -/
def Plan.row (env : Env) (w : World) (plan : Plan) : Vm := plan.vm (env.uuid w.nextId)

/-- The task of a plan. -/
def Plan.task (env : Env) (w : World) (requestedBy : String) (plan : Plan) : Task :=
  let task := vmTask (env.uuid (w.nextId + 1)) plan.kind (plan.row env w) requestedBy w.txStart
  { task with
    requestPayload := (agentRequest env w.now task (plan.params (plan.row env w))).modelDump }

/-- The database with the placeholder and the task of a plan. -/
def Plan.db (env : Env) (w : World) (requestedBy : String) (plan : Plan) : Db :=
  (w.db.addVm (plan.row env w)).addTask (plan.task env w requestedBy)

/-- The database with the task of an action and the state it stamps. -/
def actionDb (env : Env) (w : World) (requestedBy : String) (vm : Vm) (action : VmAction) : Db :=
  let task := vmTask (env.uuid w.nextId) action.function.1 vm requestedBy w.txStart
  match action.function.2 with
  | some state => (w.db.addTask task).storeVm { vm with state := .str state }
  | none => w.db.addTask task

/-! ## Conditions -/

/-- Nothing raises behind the lock of an action: the database takes the task and the stamped state,
the overlay is written if there is a stamp, and the request is published. -/
def ActionRuns (env : Env) (requestedBy : String) (calls : Calls) (vm : Vm) (action : VmAction)
    (w : World) : Prop :=
  (calls.flush = .answered ∧ (actionDb env w requestedBy vm action).Consistent) ∧
    (action.function.2.isSome = true → calls.setState = .answered) ∧
    calls.publish = .answered ∧ w.brokerUp = true

/-- Nothing raises behind the lock of a placeholder: the database takes the task, and the request is
published. -/
def Plan.Runs (env : Env) (requestedBy : String) (calls : Calls) (w : World) (plan : Plan) : Prop :=
  (calls.flush = .answered ∧ (plan.db env w requestedBy).Consistent) ∧
    calls.publish = .answered ∧ w.brokerUp = true

/-- No raise of a create or clone leaves the lock of its placeholder: where the database takes the
row and the row is not locked yet, the answer of the acquisition is not lost, and nothing raises
behind it. -/
def Plan.FreesLock (env : Env) (requestedBy : String) (calls : Calls) (w : World) (plan : Plan) :
    Prop :=
  calls.row = .answered → (w.db.addVm (plan.row env w)).Consistent →
    Expiring.get w.cache.vmLocks (plan.row env w).id = none →
      calls.acquire ≠ .lost ∧ (calls.acquire = .answered → plan.Runs env requestedBy calls w)

/-- No raise leaves the lock that the request has taken. An action that takes a lock frees it when a
later step raises, unless that call is refused too. -/
def VmRequest.FreesLock (env : Env) (requestedBy : String) (calls : Calls) (w : World) :
    VmRequest → Prop
  | .action vm act params => act.isReadOnly = false →
    ∀ _plan ∈ (actionPlan env calls vm act params w).1.toOption,
      Expiring.get w.cache.vmLocks vm.id = none →
        calls.acquire ≠ .lost ∧ (calls.acquire = .answered →
          calls.release ≠ .refused ∨ ActionRuns env requestedBy calls vm act w)
  | .create host body => ∀ plan ∈ (createPlan env host body w).1.toOption,
      plan.FreesLock env requestedBy calls w
  | .clone body host => ∀ plan ∈ (clonePlan env calls body host w).1.toOption,
      plan.FreesLock env requestedBy calls w

/-! ## Taking a lock -/

/-- The frame of what takes no lock; identifiers may be drawn. -/
def oldLocks : Frame World where
  rel s t := s.nextId ≤ t.nextId ∧ ∀ vmId lock, Expiring.get t.cache.vmLocks vmId = some lock →
    Expiring.get s.cache.vmLocks vmId = some lock
  refl _ := ⟨le_rfl, fun _ _ h => h⟩
  trans h h' := ⟨h.1.trans h'.1, fun vmId lock ht => h.2 vmId lock (h'.2 vmId lock ht)⟩

/-- The frame of what writes no lock and draws no identifier. -/
def sameLocks : Frame World := Frame.same fun w => (w.cache.vmLocks, w.nextId)

/-- Where no lock is written none is taken. -/
lemma oldLocks_of_same (h : sameLocks.rel w t) : oldLocks.rel w t := by
  have hlocks : t.cache.vmLocks = w.cache.vmLocks := congrArg Prod.fst h
  have hnext : t.nextId = w.nextId := congrArg Prod.snd h
  exact ⟨hnext.ge, fun vmId lock ht => hlocks ▸ ht⟩

/-- Where no lock is taken none is left. -/
lemma not_leavesLock_of_old (h : oldLocks.rel w t) : ¬ LeavesLock env w t :=
  fun ⟨vmId, lock, hheld, hnew, _⟩ => hnew (h.2 vmId lock hheld)

/-- What a task writes to the key of its lock. -/
def heldBy (w : World) (taskId : String) (kind : TaskKind) (requestedBy : String) : Lock :=
  ⟨taskId, kind, requestedBy, w.now⟩

/-- The world in which a task holds the lock of a VM. -/
def locked (env : Env) (w : World) (vmId taskId : String) (kind : TaskKind)
    (requestedBy : String) : World :=
  { w with cache := { w.cache with
    vmLocks := Expiring.put w.cache.vmLocks vmId (heldBy w taskId kind requestedBy)
      (w.now + seconds (lockTtl env kind)) } }

/-- The locks once a task holds one. -/
lemma get_locked {vmId taskId x : String} {kind : TaskKind} :
    Expiring.get (locked env w vmId taskId kind requestedBy).cache.vmLocks x =
      if x = vmId then some (heldBy w taskId kind requestedBy)
      else Expiring.get w.cache.vmLocks x :=
  Expiring.get_put

/-- **What a service leaves that takes a lock and goes on.** It leaves the lock it has taken when the
answer of the acquisition is lost, or when it goes on to a raise that leaves it.

**Proof sketch.** A held lock is not taken, and what follows takes none. A free one is taken unless
the call is refused; what follows takes none, so that a new lock at the end is the one that was
taken. -/
theorem leavesLock_taking_iff {α : Type} {rest : Bool → M α} {w w₁ : World} {vmId taskId : String}
    {kind : TaskKind} (hrest : ∀ b, Keeps oldLocks (rest b))
    (hcache : w₁.cache.vmLocks = w.cache.vmLocks)
    (hdrawn : ∃ k, w.nextId ≤ k ∧ k < w₁.nextId ∧ taskId = env.uuid k) :
    (∃ e t, (calls.acquire.through (acquireVmLock env vmId taskId kind requestedBy) >>= rest) w₁ =
        (.error e, t) ∧ LeavesLock env w t) ↔
      Expiring.get w.cache.vmLocks vmId = none ∧ (calls.acquire = .lost ∨
        calls.acquire = .answered ∧ ∃ e t,
          rest true (locked env w₁ vmId taskId kind requestedBy) = (.error e, t) ∧
          Expiring.get t.cache.vmLocks vmId = some (heldBy w₁ taskId kind requestedBy)) := by
  obtain ⟨k, hle, hlt, htask⟩ := hdrawn
  have hold : ∀ t, oldLocks.rel w₁ t → ¬ LeavesLock env w t :=
    fun t hrel ⟨x, lock, hheld, hnew, _⟩ => hnew (hcache ▸ hrel.2 x lock hheld)
  rcases hget : Expiring.get w.cache.vmLocks vmId with _ | other
  · have hfree : acquireVmLock env vmId taskId kind requestedBy w₁ =
        (.ok true, locked env w₁ vmId taskId kind requestedBy) :=
      acquireVmLock_free (hcache ▸ hget)
    have hleaves : ∀ t, w₁.nextId ≤ t.nextId →
        Expiring.get t.cache.vmLocks vmId = some (heldBy w₁ taskId kind requestedBy) →
        LeavesLock env w t := fun t hnext hheld =>
      ⟨vmId, _, hheld, by rw [hget]; exact nofun, k, hle, hlt.trans_le hnext, htask⟩
    rw [and_iff_right rfl]
    rcases hcall : calls.acquire with _ | _ | _
    · show (∃ e t, (acquireVmLock env vmId taskId kind requestedBy >>= rest) w₁ = _ ∧ _) ↔ _
      rw [Prog.bind_run_ok hfree]
      refine ⟨fun ⟨e, t, hrun, hleft⟩ => Or.inr ⟨rfl, e, t, hrun, ?_⟩, ?_⟩
      · obtain ⟨x, lock, hheld, hnew, -⟩ := hleft
        have hrel := hrest true (locked env w₁ vmId taskId kind requestedBy)
        rw [hrun] at hrel
        have hwas := hrel.2 x lock hheld
        rw [get_locked, hcache] at hwas
        split_ifs at hwas with hx
        · subst hx
          rw [hheld, hwas]
        · exact absurd hwas hnew
      · rintro (hlost | ⟨-, e, t, hrun, hheld⟩)
        · cases hlost
        · have hrel := hrest true (locked env w₁ vmId taskId kind requestedBy)
          rw [hrun] at hrel
          exact ⟨e, t, hrun, hleaves t hrel.1 hheld⟩
    · refine iff_of_true ⟨.connectionError, locked env w₁ vmId taskId kind requestedBy, ?_, ?_⟩
        (Or.inl rfl)
      · exact Prog.bind_run_error (through_lost hfree)
      · exact hleaves _ le_rfl (get_locked.trans (if_pos rfl))
    · refine iff_of_false (fun ⟨e, t, hrun, hleft⟩ => ?_) fun h => ?_
      · cases hrun
        exact hold _ (oldLocks.refl _) hleft
      · rcases h with hlost | ⟨hanswered, -⟩
        · cases hlost
        · cases hanswered
  · refine iff_of_false (fun ⟨e, t, hrun, hleft⟩ => hold t ?_ hleft) fun h => nomatch h.1
    have hheld : acquireVmLock env vmId taskId kind requestedBy w₁ = (.ok false, w₁) :=
      acquireVmLock_held (hcache ▸ hget)
    rcases hcall : calls.acquire with _ | _ | _
    · rw [hcall] at hrun
      have hrel := hrest false w₁
      rw [show (rest false w₁) = (.error e, t) from (Prog.bind_run_ok hheld).symm.trans hrun] at hrel
      exact hrel
    · rw [hcall, Prog.bind_run_error (through_lost hheld)] at hrun
      cases hrun
      exact oldLocks.refl _
    · rw [hcall] at hrun
      cases hrun
      exact oldLocks.refl _

/-! ## Actions -/

/-- The guarded part of an action writes no lock. -/
lemma keeps_addVmTaskOver (vm : Vm) (host : Host) (vmUuid taskId : String) (kind : TaskKind)
    (params : Dict) (requestedBy : String) (transitional : Option String) : Keeps sameLocks
      (addVmTaskOver env calls vm host vmUuid taskId kind params requestedBy transitional) := by
  refine keeps_bind keeps_read fun w => keeps_bind (keeps_modify fun _ => rfl) fun _ => ?_
  refine keeps_bind ?_ fun _ => keeps_bind (keeps_through keeps_flush) fun _ => keeps_bind ?_ ?_
  · split
    · exact keeps_modify fun _ => rfl
    · exact keeps_pure _
  · split
    · exact keeps_through (keeps_setVmState (fun _ _ => rfl) _ _)
    · exact keeps_pure _
  · refine fun _ => keeps_bind (keeps_modify fun _ => rfl) fun _ => ?_
    exact keeps_bind (keeps_through (keeps_publishRequest (fun _ _ => rfl) _ _)) fun _ =>
      keeps_pure _

/-- What an action does behind its checks. -/
def ActionPlan.queue (env : Env) (calls : Calls) (vm : Vm) (action : VmAction) (params : Dict)
    (requestedBy : String) (plan : ActionPlan) : M Task := do
  let taskId ← newId env
  let taken ← (if !action.isReadOnly then
      calls.acquire.through (acquireVmLock env vm.id taskId action.function.1 requestedBy)
    else pure true)
  if taken then
    releasingOnRaiseOver calls vm.id taskId (!action.isReadOnly)
      (addVmTaskOver env calls vm plan.host plan.vmUuid taskId action.function.1 params requestedBy
        action.function.2)
  else do
    let w ← calls.held.through Prog.read
    Prog.raise (vmLocked env vm.name (Expiring.get w.cache.vmLocks vm.id))

/-- An action is its checks, then the rest. -/
lemma requestVmActionOver_eq (vm : Vm) (action : VmAction) (params : Dict) :
    requestVmActionOver env calls vm action requestedBy params =
      actionPlan env calls vm action params >>= ActionPlan.queue env calls vm action params
        requestedBy := by
  unfold requestVmActionOver actionPlan queueVmTaskOver
  by_cases hmigrate : action = .migrate ∧ vm.highlyAvailable = false
  · rw [if_pos hmigrate, if_pos hmigrate]
    rfl
  · rw [if_neg hmigrate, if_neg hmigrate]
    rcases nonEmpty vm.vmUuid with _ | vmUuid
    · simp only [bind_assoc]
      rfl
    · simp only [bind_assoc, pure_bind, ActionPlan.queue]

/-- The checks of an action leave the state alone. -/
lemma actionPlan_state (vm : Vm) (action : VmAction) (params : Dict) (w : World) :
    (actionPlan env calls vm action params w).2 = w := by
  have hhost : ∀ w : World, Keeps (Frame.same id)
      (calls.read.through (M.ofOption Raised.assertionError (w.db.host vm.hostId))) :=
    fun w => keeps_through (keeps_ofOption _)
  have hkeeps : Keeps (Frame.same id) (actionPlan env calls vm action params) := by
    unfold actionPlan
    split
    · exact keeps_raise _
    · refine keeps_bind ?_ fun _ => ?_
      · split
        · refine keeps_bind (keeps_ofExcept _) fun dest => ?_
          split
          · exact keeps_raise _
          · exact keeps_bind keeps_read fun w => keeps_bind (hhost w) fun host =>
              keeps_of_state (requireVmStorageAllowed_state host _)
        · exact keeps_pure _
      · split
        · exact keeps_raise _
        · exact keeps_bind keeps_read fun w => keeps_bind (hhost w) fun host =>
            keeps_bind (keeps_of_state (requireHostOnline_state host)) fun _ => keeps_pure _
  exact hkeeps w

/-- A raise behind the lock leaves the lock when the call that frees it is not carried out. -/
lemma releasing_leaves_iff {α : Type} {m : M α} {vmId taskId : String} {lock : Lock} {s : World}
    (hm : Keeps sameLocks m) (hlock : Expiring.get s.cache.vmLocks vmId = some lock)
    (htask : lock.taskId = taskId) :
    (∃ e t, releasingOnRaiseOver calls vmId taskId true m s = (.error e, t) ∧
        Expiring.get t.cache.vmLocks vmId = some lock) ↔
      calls.release = .refused ∧ ∃ e t, m s = (.error e, t) := by
  unfold releasingOnRaiseOver
  have hsame := hm s
  rcases hrun : m s with ⟨e | a, u⟩
  · rw [hrun] at hsame
    have hlocks : u.cache.vmLocks = s.cache.vmLocks := congrArg Prod.fst hsame
    rw [← hlocks] at hlock
    have herased : Expiring.get (releaseLock vmId taskId u.cache).vmLocks vmId = none := by
      rcases hget : Expiring.get (releaseLock vmId taskId u.cache).vmLocks vmId with _ | other
      · rfl
      · obtain ⟨_, hentry⟩ := Expiring.get_eq_some.mp hget
        rw [releaseVmLock_locks, if_pos ⟨rfl, lock, hlock, htask⟩] at hentry
        cases hentry
    dsimp only
    rw [if_pos rfl]
    rcases calls.release with _ | _ | _
    · refine iff_of_false (fun ⟨e', t, hraise, hheld⟩ => ?_) fun h => nomatch h.1
      cases hraise
      exact nomatch herased.symm.trans hheld
    · refine iff_of_false (fun ⟨e', t, hraise, hheld⟩ => ?_) fun h => nomatch h.1
      cases hraise
      exact nomatch herased.symm.trans hheld
    · exact iff_of_true ⟨_, _, rfl, hlock⟩ ⟨rfl, e, u, rfl⟩
  · exact iff_of_false (fun ⟨_, _, hraise, _⟩ => nomatch hraise) fun ⟨_, _, _, hraise⟩ =>
      nomatch hraise

/-- The guarded part of an action returns when nothing in it raises. -/
lemma addVmTaskOver_raises_iff {w₁ : World} (vm : Vm) (action : VmAction) (params : Dict)
    (plan : ActionPlan) (hdb : w₁.db = w.db) (hstart : w₁.txStart = w.txStart)
    (hbroker : w₁.brokerUp = w.brokerUp) :
    (∃ e t, addVmTaskOver env calls vm plan.host plan.vmUuid (env.uuid w.nextId)
        action.function.1 params requestedBy action.function.2 w₁ = (.error e, t)) ↔
      ¬ ActionRuns env requestedBy calls vm action w := by
  unfold addVmTaskOver
  rw [Prog.read_bind_run, hstart]
  dsimp only
  rw [modifyDb, Prog.modify_bind_run]
  rcases hstamp : action.function.2 with _ | state
  · refine ((returnsWhen_bind (returnsWhen_of_ok rfl) <| returnsWhen_bind
      (returnsWhen_through _ returnsWhen_flush) <| returnsWhen_bind (returnsWhen_of_ok rfl) <|
        returnsWhen_bind (returnsWhen_of_ok rfl) <| returnsWhen_bind
          (returnsWhen_through _ (returnsWhen_publishRequest _ _))
            (returnsWhen_of_ok rfl)).raises_iff).trans (not_congr ?_)
    unfold ActionRuns actionDb
    simp [hstamp, hdb, hbroker]
  · refine ((returnsWhen_bind (returnsWhen_of_ok rfl) <| returnsWhen_bind
      (returnsWhen_through _ returnsWhen_flush) <| returnsWhen_bind
        (returnsWhen_through _ (returnsWhen_setVmState _ _)) <|
          returnsWhen_bind (returnsWhen_of_ok rfl) <| returnsWhen_bind
            (returnsWhen_through _ (returnsWhen_publishRequest _ _))
              (returnsWhen_of_ok rfl)).raises_iff).trans (not_congr ?_)
    unfold ActionRuns actionDb
    simp [hstamp, hdb, hbroker]

/-- Freeing a lock takes none. -/
lemma keeps_releasingOnRaiseOver {α : Type} {m : M α} (hm : Keeps sameLocks m)
    (vmId taskId : String) (lock : Bool) :
    Keeps oldLocks (releasingOnRaiseOver calls vmId taskId lock m) := by
  intro s
  have hsame := oldLocks_of_same (hm s)
  have hrelease : Keeps oldLocks (calls.release.through (releaseVmLock vmId taskId)) := by
    refine keeps_through (keeps_modify fun u => ⟨le_rfl, fun x lock hheld => ?_⟩)
    obtain ⟨at_, hentry⟩ := Expiring.get_eq_some.mp hheld
    rw [releaseVmLock_locks] at hentry
    split_ifs at hentry
    exact Expiring.get_eq_some.mpr ⟨at_, hentry⟩
  unfold releasingOnRaiseOver
  rcases hrun : m s with ⟨e | a, u⟩
  · rw [hrun] at hsame
    cases lock with
    | false => exact hsame
    | true =>
      have hrel := hrelease u
      dsimp only
      rw [if_pos rfl]
      rcases hfree : calls.release.through (releaseVmLock vmId taskId) u with ⟨e' | b, v⟩
      · rw [hfree] at hrel
        exact oldLocks.trans hsame hrel
      · rw [hfree] at hrel
        exact oldLocks.trans hsame hrel
  · rw [hrun] at hsame
    exact hsame

/-- **What an action leaves that raises behind its checks.** -/
lemma leavesLock_queue_iff (vm : Vm) (action : VmAction) (params : Dict) (plan : ActionPlan) :
    (∃ e t, plan.queue env calls vm action params requestedBy w = (.error e, t) ∧
        LeavesLock env w t) ↔
      action.isReadOnly = false ∧ Expiring.get w.cache.vmLocks vm.id = none ∧
        (calls.acquire = .lost ∨ calls.acquire = .answered ∧ calls.release = .refused ∧
          ¬ ActionRuns env requestedBy calls vm action w) := by
  have hguarded : ∀ taskId, Keeps sameLocks (addVmTaskOver env calls vm plan.host plan.vmUuid taskId
      action.function.1 params requestedBy action.function.2) :=
    fun taskId => keeps_addVmTaskOver _ _ _ _ _ _ _ _
  have hid : newId env w = (.ok (env.uuid w.nextId), { w with nextId := w.nextId + 1 }) := rfl
  have hdrawn : oldLocks.rel w { w with nextId := w.nextId + 1 } :=
    ⟨Nat.le_succ _, fun _ _ h => h⟩
  unfold ActionPlan.queue
  rw [Prog.bind_run_ok hid]
  rcases hread : action.isReadOnly with _ | _
  · refine Iff.trans (leavesLock_taking_iff (fun b => ?_) rfl
      ⟨w.nextId, le_rfl, Nat.lt_succ_self _, rfl⟩) ?_
    · split
      · exact keeps_releasingOnRaiseOver (hguarded _) _ _ _
      · exact keeps_bind (keeps_through keeps_read) fun _ => keeps_raise _
    · rw [and_iff_right rfl]
      refine and_congr_right fun _ => or_congr_right (and_congr_right fun _ => ?_)
      rw [if_pos rfl, Bool.not_false]
      refine (releasing_leaves_iff (hguarded _) (get_locked.trans (if_pos rfl)) rfl).trans ?_
      exact and_congr_right fun _ => addVmTaskOver_raises_iff vm action params plan rfl rfl rfl
  · refine iff_of_false (fun ⟨e, t, hrun, hleft⟩ => not_leavesLock_of_old ?_ hleft)
      fun h => nomatch h.1
    have hkeeps : Keeps oldLocks (releasingOnRaiseOver calls vm.id (env.uuid w.nextId) false
        (addVmTaskOver env calls vm plan.host plan.vmUuid (env.uuid w.nextId) action.function.1
          params requestedBy action.function.2)) := keeps_releasingOnRaiseOver (hguarded _) _ _ _
    have hrel := hkeeps { w with nextId := w.nextId + 1 }
    rw [show releasingOnRaiseOver calls vm.id (env.uuid w.nextId) false _
      { w with nextId := w.nextId + 1 } = (.error e, t) from hrun] at hrel
    exact oldLocks.trans hdrawn hrel

/-! ## Placeholders -/

namespace Plan

variable {plan : Plan}

/-- What a create or clone does behind its checks. -/
def provision (env : Env) (requestedBy : String) (calls : Calls) (plan : Plan) : M (Vm × Task) :=
  provisionOver env calls plan.host plan.kind plan.vm plan.params requestedBy

/-- The world with the placeholder of a plan. -/
def added (env : Env) (w : World) (plan : Plan) : World :=
  { w with nextId := w.nextId + 1, db := w.db.addVm (plan.row env w) }

/-- The steps behind the lock. -/
def finish (env : Env) (requestedBy : String) (calls : Calls) (plan : Plan) (vm : Vm)
    (taskId : String) : M (Vm × Task) := do
  let w ← Prog.read
  let task := vmTask taskId plan.kind vm requestedBy w.txStart
  let request := agentRequest env w.now task (plan.params vm)
  let task := { task with requestPayload := request.modelDump }
  modifyDb fun db => db.addTask task
  calls.flush.through flush
  calls.publish.through (publishRequest plan.host.shortId request)
  pure (vm, task)

/-- The steps of a create or clone, from the world with its placeholder. -/
lemma provision_run : plan.provision env requestedBy calls w =
    (calls.row.through flush >>= fun _ => newId env >>= fun taskId =>
      calls.acquire.through (acquireVmLock env (plan.row env w).id taskId plan.kind requestedBy) >>=
        fun _ => plan.finish env requestedBy calls (plan.row env w) taskId) (plan.added env w) := rfl

/-- The steps behind the lock write no lock. -/
lemma keeps_finish (vm : Vm) (taskId : String) :
    Keeps sameLocks (plan.finish env requestedBy calls vm taskId) := by
  refine keeps_bind keeps_read fun w => keeps_bind (keeps_modify fun _ => rfl) fun _ => ?_
  refine keeps_bind (keeps_through keeps_flush) fun _ => ?_
  exact keeps_bind (keeps_through (keeps_publishRequest (fun _ _ => rfl) _ _)) fun _ => keeps_pure _

/-- They return when nothing in them raises. -/
lemma finish_raises_iff {w₁ : World} (hdb : w₁.db = w.db.addVm (plan.row env w))
    (hstart : w₁.txStart = w.txStart) (hnow : w₁.now = w.now) (hbroker : w₁.brokerUp = w.brokerUp) :
    (∃ e t, plan.finish env requestedBy calls (plan.row env w) (env.uuid (w.nextId + 1)) w₁ =
        (.error e, t)) ↔ ¬ plan.Runs env requestedBy calls w := by
  unfold finish
  rw [Prog.read_bind_run, hstart, hnow, modifyDb, Prog.modify_bind_run]
  refine ((returnsWhen_bind (returnsWhen_through _ returnsWhen_flush) <| returnsWhen_bind
    (returnsWhen_through _ (returnsWhen_publishRequest _ _)) (returnsWhen_of_ok rfl)).raises_iff).trans
      (not_congr ?_)
  unfold Runs Plan.db Plan.task
  simp [hdb, hbroker]

/-- They leave a lock that is held. -/
lemma finish_leaves_iff {s : World} {vm : Vm} {taskId vmId : String} {lock : Lock}
    (hlock : Expiring.get s.cache.vmLocks vmId = some lock) :
    (∃ e t, plan.finish env requestedBy calls vm taskId s = (.error e, t) ∧
        Expiring.get t.cache.vmLocks vmId = some lock) ↔
      ∃ e t, plan.finish env requestedBy calls vm taskId s = (.error e, t) := by
  refine ⟨fun ⟨e, t, hraise, _⟩ => ⟨e, t, hraise⟩, fun ⟨e, t, hraise⟩ => ⟨e, t, hraise, ?_⟩⟩
  have hsame : sameLocks.rel s (plan.finish env requestedBy calls vm taskId s).2 :=
    keeps_finish vm taskId s
  rw [hraise] at hsame
  rw [show t.cache.vmLocks = s.cache.vmLocks from congrArg Prod.fst hsame]
  exact hlock

/-- **What a create or clone leaves that raises behind its checks.** -/
lemma leavesLock_provision_iff :
    (∃ e t, plan.provision env requestedBy calls w = (.error e, t) ∧ LeavesLock env w t) ↔
      ¬ plan.FreesLock env requestedBy calls w := by
  have hid : newId env (plan.added env w) = (.ok (env.uuid (w.nextId + 1)),
      { plan.added env w with nextId := w.nextId + 2 }) := rfl
  have hadded : oldLocks.rel w (plan.added env w) := ⟨Nat.le_succ _, fun _ _ h => h⟩
  have hflush := returnsWhen_through calls.row (@returnsWhen_flush (plan.added env w))
  unfold FreesLock
  rcases hflush with ⟨⟨hrow, hc⟩, hrun⟩ | ⟨hfail, e, u, hrun⟩
  · rw [provision_run, Prog.bind_run_ok hrun, Prog.bind_run_ok hid]
    refine Iff.trans (leavesLock_taking_iff (fun b => ?_) rfl
      ⟨w.nextId + 1, Nat.le_succ _, Nat.lt_succ_self _, rfl⟩) ?_
    · exact fun s => oldLocks_of_same (keeps_finish _ _ s)
    · rw [finish_leaves_iff (get_locked.trans (if_pos rfl))]
      refine Iff.trans (and_congr_right fun _ => or_congr_right (and_congr_right fun _ =>
        finish_raises_iff rfl rfl rfl rfl)) ?_
      constructor
      · rintro ⟨hfree, hlost | ⟨hanswered, hraises⟩⟩ hfrees
        · exact (hfrees hrow hc hfree).1 hlost
        · exact hraises ((hfrees hrow hc hfree).2 hanswered)
      · intro hnot
        by_contra hall
        rw [not_and, not_or, not_and, not_not] at hall
        exact hnot fun _ _ hfree => hall hfree
  · refine iff_of_false (fun ⟨e', t, hraise, hleft⟩ => not_leavesLock_of_old ?_ hleft) ?_
    · rw [provision_run, Prog.bind_run_error hrun] at hraise
      cases hraise
      have hrel : oldLocks.rel (plan.added env w) (calls.row.through flush (plan.added env w)).2 :=
        keeps_through keeps_flush _
      rw [hrun] at hrel
      exact oldLocks.trans hadded hrel
    · exact not_not_intro fun hrow hc _ => absurd ⟨hrow, hc⟩ hfail

end Plan

/-! ## Requests that raise -/

/-- A raising run of the request leaves no lock of its own. -/
def ReleasesOnRaise (env : Env) (requestedBy : String) (calls : Calls) (req : VmRequest)
    (w : World) : Prop :=
  ∀ e t, req.run env requestedBy calls w = (.error e, t) → ¬ LeavesLock env w t

/-- A run of the checks leaves the state alone. -/
lemma createPlan_state (host : Host) (body : VmCreate) (w : World) :
    (createPlan env host body w).2 = w := by
  have hkeeps : Keeps (Frame.same id) (createPlan env host body) :=
    keeps_bind (keeps_of_state (requireHostOnline_state host)) fun _ =>
      keeps_bind (keeps_of_state (requireVmStorageAllowed_state host _)) fun _ => keeps_pure _
  exact hkeeps w

/-- The checks of a clone leave the state alone. -/
lemma clonePlan_state (body : VmClone) (host : Host) (w : World) :
    (clonePlan env calls body host w).2 = w := by
  have hkeeps : Keeps (Frame.same id) (clonePlan env calls body host) := by
    refine keeps_bind (keeps_of_state (requireHostOnline_state host)) fun _ => ?_
    refine keeps_bind (keeps_of_state (requireVmStorageAllowed_state host _)) fun _ => ?_
    refine keeps_bind (keeps_through ?_) fun _ => keeps_pure _
    split
    · exact keeps_of_state (cloneOfVm_state host body _)
    · exact keeps_of_state (cloneOfTemplate_state host body _)
  exact hkeeps w

/-- A request is its checks, which leave the state alone, then the rest. -/
lemma releases_of_plan {α β : Type} (checks : M α) (rest : α → M β) {req : VmRequest}
    (hstate : (checks w).2 = w) (hrun : req.run env requestedBy calls =
      checks >>= fun plan => rest plan >>= fun _ => pure ()) :
    ReleasesOnRaise env requestedBy calls req w ↔ ∀ plan ∈ (checks w).1.toOption,
      ¬ ∃ e t, rest plan w = (.error e, t) ∧ LeavesLock env w t := by
  unfold ReleasesOnRaise
  rw [hrun]
  rcases hchecks : checks w with ⟨e | plan, w'⟩
  · rw [hchecks] at hstate
    obtain rfl : w' = w := hstate
    refine iff_of_true (fun e' t hraise => ?_) fun plan hnone => nomatch hnone
    rw [Prog.bind_run_error hchecks] at hraise
    cases hraise
    exact not_leavesLock_of_old (oldLocks.refl _)
  · rw [hchecks] at hstate
    obtain rfl : w' = w := hstate
    rw [Prog.bind_run_ok hchecks]
    have hpass : ∀ e t, (rest plan >>= fun _ => pure ()) w' = (.error e, t) ↔
        rest plan w' = (.error e, t) := by
      intro e t
      rw [Prog.bind_run]
      rcases rest plan w' with ⟨e' | row, u⟩
      · simp
      · simp
    constructor
    · rintro hclean plan' hplan' ⟨e, t, hraise, hleft⟩
      obtain rfl : plan = plan' := Option.some.inj hplan'
      exact hclean e t ((hpass e t).mpr hraise) hleft
    · intro hnone e t hraise hleft
      exact hnone plan rfl ⟨e, t, (hpass e t).mp hraise, hleft⟩

/-- **A request that raises leaves no lock of its own behind** exactly when the answer of its
acquisition is not lost and behind the acquisition nothing raises, or, in an action, the call that
frees the lock is carried out. -/
theorem no_lock_left_iff (env : Env) (requestedBy : String) (calls : Calls) (req : VmRequest)
    (w : World) :
    ReleasesOnRaise env requestedBy calls req w ↔ req.FreesLock env requestedBy calls w := by
  cases req with
  | action vm act params =>
    refine (releases_of_plan (actionPlan env calls vm act params)
      (ActionPlan.queue env calls vm act params requestedBy) (actionPlan_state vm act params w)
      ?_).trans ?_
    · simp only [VmRequest.run, requestVmActionOver_eq, bind_assoc]
    · constructor
      · intro hnone hread plan hplan hfree
        have hnot := hnone plan hplan
        rw [leavesLock_queue_iff] at hnot
        refine ⟨fun hlost => hnot ⟨hread, hfree, Or.inl hlost⟩, fun hanswered => ?_⟩
        by_contra hraises
        rw [not_or, not_not] at hraises
        exact hnot ⟨hread, hfree, Or.inr ⟨hanswered, hraises⟩⟩
      · intro hfrees plan hplan hleaves
        obtain ⟨hread, hfree, hlost | ⟨hanswered, hrefused, hraises⟩⟩ :=
          (leavesLock_queue_iff vm act params plan).mp hleaves
        · exact (hfrees hread plan hplan hfree).1 hlost
        · exact ((hfrees hread plan hplan hfree).2 hanswered).elim (fun h => h hrefused) hraises
  | create host body =>
    refine (releases_of_plan (createPlan env host body) (Plan.provision env requestedBy calls)
      (createPlan_state host body w) ?_).trans ?_
    · simp only [VmRequest.run, requestVmCreateOver, createPlan, Plan.provision, bind_assoc,
        pure_bind]
    · exact forall₂_congr fun plan _ => Plan.leavesLock_provision_iff.not.trans not_not
  | clone body host =>
    refine (releases_of_plan (clonePlan env calls body host) (Plan.provision env requestedBy calls)
      (clonePlan_state body host w) ?_).trans ?_
    · rcases hsource : body.source with vmId | templateId
      · simp only [VmRequest.run, requestVmCloneOver, clonePlan, hsource, Plan.provision,
          bind_assoc, pure_bind]
      · simp only [VmRequest.run, requestVmCloneOver, clonePlan, hsource, Plan.provision,
          bind_assoc, pure_bind]
    · exact forall₂_congr fun plan _ => Plan.leavesLock_provision_iff.not.trans not_not

/-- A VM is created on the host while the broker is down. -/
def Demo.createBrokerDown : Except Raised Unit × World :=
  VmRequest.run settings "user@example.test" {} (.create host { name := "new", hostId := "h" })
    { start.world with brokerUp := false }

/-- A create that finds the broker down leaves the lock of its placeholder. -/
theorem no_lock_left_counterexample :
    ¬ ∀ (env : Env) (requestedBy : String) (calls : Calls) (req : VmRequest) (w : World),
      ReleasesOnRaise env requestedBy calls req w := by
  intro h
  have hraises : Demo.createBrokerDown.1.toOption.isNone := by decide +kernel
  have hlock : (Expiring.get Demo.createBrokerDown.2.cache.vmLocks "").map Lock.taskId =
      some "x" := by decide +kernel
  have hdrawn : Demo.createBrokerDown.2.nextId = 2 := by decide +kernel
  rcases hrun : Demo.createBrokerDown with ⟨e | ⟨⟩, t⟩
  · rw [hrun] at hlock hdrawn
    obtain ⟨lock, hheld, htask⟩ := Option.map_eq_some_iff.mp hlock
    refine h _ _ _ _ _ e t hrun ⟨"", lock, hheld, ?_, 1, Nat.zero_le 1, ?_, htask⟩
    · exact (Option.some_ne_none lock).symm
    · exact Nat.lt_of_lt_of_eq Nat.one_lt_two hdrawn.symm
  · rw [hrun] at hraises
    cases hraises

end OpenVCenter
