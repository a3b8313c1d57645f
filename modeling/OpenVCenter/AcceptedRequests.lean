import OpenVCenter.LockRelease

set_option relaxedAutoImplicit false
set_option autoImplicit false

/-!
# Requests that are accepted

A request on a VM goes through when its checks pass, its lock is free, the broker is up, and the
tables take what it writes. This file names the checks of an action, a delete and a clone, on the
state that the request finds.

## Main definitions

* `OpenVCenter.Completes` — a transaction that commits.
* `OpenVCenter.StorageAllowed`, `OpenVCenter.ActionChecks`, `OpenVCenter.CloneChecks` — the checks.
* `OpenVCenter.ActionPasses`, `OpenVCenter.ClonePasses` — the requests that go through.

## Main results

* `OpenVCenter.completes_vmAction_iff`, `OpenVCenter.completes_deleteVm_iff`,
  `OpenVCenter.completes_cloneVm_iff` — **a request commits exactly when it passes**.
-/

namespace OpenVCenter

open Effect

variable {env : Env} {w t : World} {α β : Type}

/-! ## Transactions that commit -/

/-- The transaction commits. -/
def Completes (m : M α) (w : World) : Prop := ∃ a t, m w = (.ok a, t) ∧ t.db.Consistent

section Completes

variable {m n : M β} {f : β → M α}

/-- A transaction commits with any other of the same run. -/
lemma completes_congr {m n : M α} (h : m w = n t) : Completes m w ↔ Completes n t := by
  unfold Completes
  rw [h]

/-- A program returns with any other of the same run. -/
lemma returnsWhen_congr {c : Prop} {b : β} {s u : World} (h : m w = n s)
    (hn : ReturnsWhen n s c b u) : ReturnsWhen m w c b u := by
  unfold ReturnsWhen
  rw [h]
  exact hn

/-- A program that returns under a condition goes first. -/
lemma completes_bind_of_returns {c : Prop} {b : β} (h : ReturnsWhen m w c b t) :
    Completes (m >>= f) w ↔ c ∧ Completes (f b) t := by
  rcases h with ⟨hc, hrun⟩ | ⟨hc, e, u, hrun⟩
  · rw [completes_congr (Prog.bind_run_ok hrun), and_iff_right hc]
  · refine iff_of_false (fun ⟨a, t, hok, _⟩ => ?_) fun h => hc h.1
    rw [Prog.bind_run_error hrun] at hok
    cases hok

/-- Checks go first, which leave the state alone. -/
lemma completes_bind_of_checks (hm : (m w).2 = w) :
    Completes (m >>= f) w ↔ ∃ b, m w = (.ok b, w) ∧ Completes (f b) w := by
  rcases hrun : m w with ⟨e | b, u⟩
  · refine iff_of_false (fun ⟨a, t, hok, _⟩ => ?_) fun ⟨b, h, _⟩ => nomatch h
    rw [Prog.bind_run_error hrun] at hok
    cases hok
  · rw [hrun] at hm
    obtain rfl : u = w := hm
    rw [completes_congr (Prog.bind_run_ok hrun)]
    refine ⟨fun h => ⟨b, rfl, h⟩, ?_⟩
    rintro ⟨b', hb', h⟩
    obtain rfl := Except.ok.inj (Prod.mk.inj hb').1
    exact h

/-- What returns behind checks, which leave the state alone. -/
lemma checks_bind_eq_ok {a : α} (hm : (m w).2 = w) :
    (m >>= f) w = (.ok a, t) ↔ ∃ b, m w = (.ok b, w) ∧ f b w = (.ok a, t) := by
  rw [Prog.bind_eq_ok]
  constructor
  · rintro ⟨b, u, hrun, hrest⟩
    rw [hrun] at hm
    obtain rfl : u = w := hm
    exact ⟨b, hrun, hrest⟩
  · rintro ⟨b, hrun, hrest⟩
    exact ⟨b, w, hrun, hrest⟩

/-- A recording goes through when the tables take the event. -/
lemma completes_record_iff {actor : Option User} {name : String} {target : TargetRef}
    {task : Option Task} {details : Json} :
    Completes (record env actor name target task details) w ↔
      { w.db with auditEvents := w.db.auditEvents ++
        [auditEvent (env.uuid w.nextId) w.now actor name target task details] }.Consistent := by
  set w' : World := { w with
    nextId := w.nextId + 1
    db := { w.db with auditEvents := w.db.auditEvents ++
      [auditEvent (env.uuid w.nextId) w.now actor name target task details] } } with hw'
  have hrun : record env actor name target task details w = flush w' := rfl
  rw [completes_congr hrun]
  constructor
  · rintro ⟨⟨⟩, t, hflush, -⟩
    exact (flush_eq_ok.mp hflush).1
  · exact fun hc => ⟨(), w', flush_of_consistent hc, hc⟩

/-- Freeing a lock where a program raises changes nothing where it returns. -/
lemma returnsWhen_releasing {c : Prop} {b : β} {vmId taskId : String} {lock : Bool}
    (h : ReturnsWhen m w c b t) :
    ReturnsWhen (releasingOnRaise vmId taskId lock m) w c b t := by
  rcases h with ⟨hc, hrun⟩ | ⟨hc, e, u, hrun⟩
  · exact Or.inl ⟨hc, releasingOnRaise_eq_ok.mpr hrun⟩
  · refine Or.inr ⟨hc, e, (releasingOnRaise vmId taskId lock m w).2, ?_⟩
    rw [releasingOnRaise_answered, hrun]

end Completes

/-! ## Checks -/

/-- A host takes the storage of a VM: one of a cluster on a shared volume only, one on its own off
its system drive, unless its default path is on that drive. -/
def StorageAllowed (env : Env) (host : Host) (destination : Json) : Prop :=
  ∃ clustered hyperv defaultPath dest, hostIsClustered host = .ok clustered ∧
    hardwareSection host "hyperv" = .ok hyperv ∧
    normPath env (hyperv.get "defaultVmPath") = .ok defaultPath ∧
    normPath env destination = .ok dest ∧
    if clustered then isCsvPath (if dest.isEmpty then defaultPath else dest) = true
    else (!(if dest.isEmpty then defaultPath else dest).isEmpty &&
      isSystemDrive (if dest.isEmpty then defaultPath else dest) &&
        !isSystemDrive defaultPath) = false

/-- **The check of the storage of a VM**, as a condition. -/
lemma requireVmStorageAllowed_eq_ok {host : Host} {destination : Json} :
    requireVmStorageAllowed env host destination w = (.ok (), w) ↔
      StorageAllowed env host destination := by
  unfold requireVmStorageAllowed StorageAllowed
  rcases hostIsClustered host with e | clustered
  · exact iff_of_false nofun fun ⟨_, _, _, _, h, _⟩ => nomatch h
  rcases hardwareSection host "hyperv" with e | hyperv
  · exact iff_of_false nofun fun ⟨_, _, _, _, _, h, _⟩ => nomatch h
  simp only [Prog.ofExcept_ok, Prog.pure_bind_run, Except.ok.injEq, exists_and_left,
    exists_eq_left']
  rcases normPath env (hyperv.get "defaultVmPath") with e | defaultPath
  · exact iff_of_false nofun fun ⟨_, h, _⟩ => nomatch h
  simp only [Prog.ofExcept_ok, Prog.pure_bind_run, Except.ok.injEq, exists_eq_left']
  rcases normPath env destination with e | dest
  · exact iff_of_false nofun fun ⟨_, h, _⟩ => nomatch h
  simp only [Prog.ofExcept_ok, Prog.pure_bind_run, Except.ok.injEq, exists_eq_left']
  generalize (if dest.isEmpty = true then defaultPath else dest) = dest'
  cases clustered with
  | true =>
    by_cases hcsv : isCsvPath dest' = true
    · simp [hcsv]
    · simp [hcsv]
  | false =>
    by_cases hdrive : (!dest'.isEmpty && isSystemDrive dest' && !isSystemDrive defaultPath) = true
    · simp [hdrive]
    · simp [hdrive]

/-- A lookup that is required returns what it finds. -/
lemma ofOption_eq_ok {e : Raised} {x : Option α} {a : α} :
    (M.ofOption e x : M α) w = (.ok a, w) ↔ x = some a := by
  cases x with
  | none => exact iff_of_false nofun nofun
  | some b => simp [M.ofOption]

/-- The check that a host is online, as a condition. -/
lemma requireHostOnline_eq_ok {host : Host} :
    requireHostOnline env host w = (.ok (), w) ↔ agentConnected env w.now host = true := by
  unfold requireHostOnline
  rw [Prog.read_bind_run]
  split_ifs with honline
  · exact iff_of_true rfl honline
  · exact iff_of_false nofun honline

/-- The checks of an action: to migrate, the VM is highly available; to move its storage, its host
takes the destination that is named; it has been reported, and its host is online. -/
structure ActionChecks (env : Env) (w : World) (vm : Vm) (action : VmAction) (params : Dict)
    (plan : ActionPlan) : Prop where
  available : action = .migrate → vm.highlyAvailable = true
  storage : action = .move_storage → ∃ dest,
    normPath env (params.get "destination_storage") = .ok dest ∧ dest.isEmpty = false ∧
      StorageAllowed env plan.host (.str (String.ofList dest))
  reported : nonEmpty vm.vmUuid = some plan.vmUuid
  host : w.db.host vm.hostId = some plan.host
  online : agentConnected env w.now plan.host = true

/-- The checks that every action makes. -/
def reportedPlan (env : Env) (vm : Vm) : M ActionPlan :=
  match nonEmpty vm.vmUuid with
  | none => Prog.raise (vmNotReady "This VM has not been reported by its host agent yet")
  | some vmUuid => do
    let w ← Prog.read
    let host ← M.ofOption .assertionError (w.db.host vm.hostId)
    requireHostOnline env host
    pure { host, vmUuid }

/-- What these checks return, as a condition. -/
lemma reportedPlan_eq_ok {vm : Vm} {plan : ActionPlan} :
    reportedPlan env vm w = (.ok plan, w) ↔ nonEmpty vm.vmUuid = some plan.vmUuid ∧
      w.db.host vm.hostId = some plan.host ∧ agentConnected env w.now plan.host = true := by
  unfold reportedPlan
  rcases nonEmpty vm.vmUuid with _ | vmUuid
  · exact iff_of_false nofun fun h => nomatch h.1
  · dsimp only
    rw [Prog.read_bind_run, checks_bind_eq_ok (ofOption_state _ _ _)]
    constructor
    · rintro ⟨host, hhost, hrest⟩
      obtain ⟨⟨⟩, honline, hplan⟩ := (checks_bind_eq_ok (requireHostOnline_state host w)).mp hrest
      obtain rfl := Except.ok.inj (Prod.mk.inj hplan).1
      exact ⟨rfl, ofOption_eq_ok.mp hhost, requireHostOnline_eq_ok.mp honline⟩
    · rintro ⟨hguid, hhost, honline⟩
      cases hguid
      exact ⟨plan.host, ofOption_eq_ok.mpr hhost,
        (checks_bind_eq_ok (requireHostOnline_state _ w)).mpr
          ⟨(), requireHostOnline_eq_ok.mpr honline, rfl⟩⟩

/-- The check of a storage move. -/
def moveCheck (env : Env) (vm : Vm) (params : Dict) : M Unit := do
  let dest ← Prog.ofExcept (normPath env (params.get "destination_storage"))
  if dest.isEmpty then Prog.raise destinationRequired
  else do
    let w ← Prog.read
    let host ← M.ofOption .assertionError (w.db.host vm.hostId)
    requireVmStorageAllowed env host (.str (String.ofList dest))

/-- The check of a storage move leaves the state alone. -/
lemma moveCheck_state (vm : Vm) (params : Dict) (w : World) :
    (moveCheck env vm params w).2 = w := by
  have hkeeps : Keeps (Frame.same id) (moveCheck env vm params) := by
    refine keeps_bind (keeps_ofExcept _) fun dest => ?_
    split
    · exact keeps_raise _
    · exact keeps_bind keeps_read fun w => keeps_bind (keeps_ofOption _) fun host =>
        keeps_of_state (requireVmStorageAllowed_state host _)
  exact hkeeps w

/-- The check of a storage move, as a condition. -/
lemma moveCheck_eq_ok {vm : Vm} {params : Dict} : moveCheck env vm params w = (.ok (), w) ↔
    ∃ dest host, normPath env (params.get "destination_storage") = .ok dest ∧
      dest.isEmpty = false ∧ w.db.host vm.hostId = some host ∧
      StorageAllowed env host (.str (String.ofList dest)) := by
  unfold moveCheck
  rcases normPath env (params.get "destination_storage") with e | dest
  · exact iff_of_false nofun fun ⟨_, _, h, _⟩ => nomatch h
  simp only [Prog.ofExcept_ok, Prog.pure_bind_run, Except.ok.injEq]
  by_cases hempty : dest.isEmpty = true
  · rw [if_pos hempty]
    refine iff_of_false nofun fun ⟨_, _, h, hne, _⟩ => ?_
    rw [← h, hempty] at hne
    cases hne
  · rw [if_neg hempty, Prog.read_bind_run, checks_bind_eq_ok (ofOption_state _ _ _)]
    constructor
    · rintro ⟨host, hhost, hallowed⟩
      exact ⟨dest, host, rfl, Bool.eq_false_of_not_eq_true hempty, ofOption_eq_ok.mp hhost,
        requireVmStorageAllowed_eq_ok.mp hallowed⟩
    · rintro ⟨_, host, rfl, -, hhost, hallowed⟩
      exact ⟨host, ofOption_eq_ok.mpr hhost, requireVmStorageAllowed_eq_ok.mpr hallowed⟩

/-- **The checks of an action**, one by one. -/
theorem actionPlan_eq_ok {vm : Vm} {action : VmAction} {params : Dict} {plan : ActionPlan} :
    actionPlan env {} vm action params w = (.ok plan, w) ↔
      ActionChecks env w vm action params plan := by
  have hplan : actionPlan env {} vm action params =
      if action = .migrate ∧ vm.highlyAvailable = false then Prog.raise (haRequired env vm)
      else (if action = .move_storage then moveCheck env vm params else pure ()) >>= fun _ =>
        reportedPlan env vm := rfl
  rw [hplan]
  by_cases hmigrate : action = .migrate ∧ vm.highlyAvailable = false
  · rw [if_pos hmigrate]
    refine iff_of_false nofun fun h => ?_
    rw [h.available hmigrate.1] at hmigrate
    cases hmigrate.2
  rw [if_neg hmigrate]
  have havailable : action = .migrate → vm.highlyAvailable = true := fun h =>
    Bool.eq_true_of_not_eq_false fun hnot => hmigrate ⟨h, hnot⟩
  by_cases hmove : action = .move_storage
  · rw [if_pos hmove, checks_bind_eq_ok (moveCheck_state vm params w)]
    constructor
    · rintro ⟨⟨⟩, hallowed, hrest⟩
      obtain ⟨hguid, hhost, honline⟩ := reportedPlan_eq_ok.mp hrest
      obtain ⟨dest, host, hdest, hne, hhost', hstorage⟩ := moveCheck_eq_ok.mp hallowed
      obtain rfl := Option.some.inj (hhost'.symm.trans hhost)
      exact ⟨havailable, fun _ => ⟨dest, hdest, hne, hstorage⟩, hguid, hhost, honline⟩
    · intro h
      obtain ⟨dest, hdest, hne, hstorage⟩ := h.storage hmove
      exact ⟨(), moveCheck_eq_ok.mpr ⟨dest, plan.host, hdest, hne, h.host, hstorage⟩,
        reportedPlan_eq_ok.mpr ⟨h.reported, h.host, h.online⟩⟩
  · rw [if_neg hmove, pure_bind]
    refine reportedPlan_eq_ok.trans ⟨fun ⟨hguid, hhost, honline⟩ => ?_, fun h => ?_⟩
    · exact ⟨havailable, fun h => absurd h hmove, hguid, hhost, honline⟩
    · exact ⟨h.reported, h.host, h.online⟩

/-! ## Actions -/

/-- The task of an action that has been sent. -/
def sentTask (env : Env) (w : World) (requestedBy : String) (vm : Vm) (action : VmAction)
    (vmUuid : String) (params : Dict) : Task :=
  let task := vmTask (env.uuid w.nextId) action.function.1 vm requestedBy w.txStart
  { task with
    requestPayload := (agentRequest env w.now task (params.set "vm_id" (.str vmUuid))).modelDump }

/-- The tables with the task, the stamp and the event of an action that has been sent. -/
def sentDb (env : Env) (w : World) (user : User) (vm : Vm) (action : VmAction) (vmUuid : String)
    (params : Dict) (details : Json) : Db :=
  let task := sentTask env w user.email vm action vmUuid params
  let db := (actionDb env w user.email vm action).storeTask task
  { db with auditEvents := db.auditEvents ++ [auditEvent (env.uuid (w.nextId + 1)) w.now (some user)
      ("vm." ++ action.name) vm.ref (some task) details] }

/-- The details of the event of an action. -/
def actionDetails (params : Dict) : Json :=
  if params.isEmpty then .null else .obj [("params", .obj params)]

/-- The details of the event of a delete. -/
def deleteDetails (removeFiles : Bool) : Json := .obj [("removeFiles", .bool removeFiles)]

/-- **An action passes**: its VM is found, its checks pass, the lock of the VM is free, the broker is
up, and the tables take the task and the stamp, and the request and the event. -/
def ActionPasses (env : Env) (w : World) (user : User) (vmId : String) (action : VmAction)
    (params : Dict) (details : Json) : Prop :=
  ∃ vm plan, w.db.vm vmId = some vm ∧ ActionChecks env w vm action params plan ∧
    Expiring.get w.cache.vmLocks vm.id = none ∧ w.brokerUp = true ∧
    (actionDb env w user.email vm action).Consistent ∧
    (sentDb env w user vm action plan.vmUuid params details).Consistent

section Actions

variable {user : User} {vm : Vm} {action : VmAction} {params : Dict} {details : Json}

/-- The guarded part of an action, from a world with the tables of `w`. -/
lemma returnsWhen_addVmTask {w₁ : World} (requestedBy : String) (plan : ActionPlan)
    (hdb : w₁.db = w.db) (hstart : w₁.txStart = w.txStart) (hnow : w₁.now = w.now)
    (hbroker : w₁.brokerUp = w.brokerUp) :
    ∃ t, ReturnsWhen (addVmTask env vm plan.host plan.vmUuid (env.uuid w.nextId)
        action.function.1 params requestedBy action.function.2) w₁
        ((actionDb env w requestedBy vm action).Consistent ∧ w.brokerUp = true)
        (sentTask env w requestedBy vm action plan.vmUuid params) t ∧
      t.db = (actionDb env w requestedBy vm action).storeTask
        (sentTask env w requestedBy vm action plan.vmUuid params) ∧
      t.nextId = w₁.nextId ∧ t.now = w₁.now := by
  rw [addVmTask_answered]
  unfold actionDb sentTask
  rw [← hdb, ← hstart, ← hnow, ← hbroker]
  rcases action.function.2 with _ | state
  · refine ⟨_, ReturnsWhen.congr (returnsWhen_bind (returnsWhen_of_ok rfl) <| returnsWhen_bind
      (returnsWhen_of_ok rfl) <| returnsWhen_bind (returnsWhen_of_ok rfl) <| returnsWhen_bind
        returnsWhen_flush <| returnsWhen_bind (returnsWhen_of_ok rfl) <| returnsWhen_bind
          (returnsWhen_of_ok rfl) <| returnsWhen_bind (returnsWhen_publishRequest _ _)
            (returnsWhen_of_ok rfl)) (by simp), rfl, rfl, rfl⟩
  · refine ⟨_, ReturnsWhen.congr (returnsWhen_bind (returnsWhen_of_ok rfl) <| returnsWhen_bind
      (returnsWhen_of_ok rfl) <| returnsWhen_bind (returnsWhen_of_ok rfl) <| returnsWhen_bind
        returnsWhen_flush <| returnsWhen_bind (returnsWhen_setVmState _ _) <| returnsWhen_bind
          (returnsWhen_of_ok rfl) <| returnsWhen_bind (returnsWhen_publishRequest _ _)
            (returnsWhen_of_ok rfl)) (by simp), rfl, rfl, rfl⟩

/-- An action behind its checks, and its event: the lock is taken before the tables are written. -/
lemma completes_queue_iff {name : String} (hread : action.isReadOnly = false)
    (plan : ActionPlan) :
    Completes (plan.queue env {} vm action params user.email >>= fun task =>
        record env (some user) name vm.ref (some task) details) w ↔
      Expiring.get w.cache.vmLocks vm.id = none ∧ w.brokerUp = true ∧
        (actionDb env w user.email vm action).Consistent ∧
        { (actionDb env w user.email vm action).storeTask
            (sentTask env w user.email vm action plan.vmUuid params) with
          auditEvents := ((actionDb env w user.email vm action).storeTask
              (sentTask env w user.email vm action plan.vmUuid params)).auditEvents ++
            [auditEvent (env.uuid (w.nextId + 1)) w.now (some user) name vm.ref
              (some (sentTask env w user.email vm action plan.vmUuid params))
              details] }.Consistent := by
  have hid : newId env w = (.ok (env.uuid w.nextId), { w with nextId := w.nextId + 1 }) := rfl
  unfold ActionPlan.queue
  rw [bind_assoc, completes_congr (Prog.bind_run_ok hid), bind_assoc, hread, Bool.not_false,
    if_pos rfl]
  rcases hlock : Expiring.get w.cache.vmLocks vm.id with _ | lock
  · rw [and_iff_right rfl]
    have htaken : ({} : Calls).acquire.through (acquireVmLock env vm.id (env.uuid w.nextId)
        action.function.1 user.email) { w with nextId := w.nextId + 1 } = (.ok true, _) :=
      acquireVmLock_free hlock
    obtain ⟨t, hruns, hdb, hnext, hnow⟩ := @returnsWhen_addVmTask env w vm action params
      (locked env { w with nextId := w.nextId + 1 } vm.id (env.uuid w.nextId) action.function.1
        user.email) user.email plan rfl rfl rfl rfl
    have hnext : t.nextId = w.nextId + 1 := hnext
    have hnow : t.now = w.now := hnow
    have hguarded := @returnsWhen_releasing _ _ _ _ _ _ vm.id (env.uuid w.nextId) true hruns
    rw [completes_congr (Prog.bind_run_ok htaken), if_pos rfl]
    refine (completes_bind_of_returns hguarded).trans ?_
    rw [completes_record_iff, hdb, hnext, hnow, and_assoc, and_left_comm]
  · refine iff_of_false (fun ⟨a, t, hok, _⟩ => ?_) fun h => nomatch h.1
    have hheld : ({} : Calls).acquire.through (acquireVmLock env vm.id (env.uuid w.nextId)
        action.function.1 user.email) { w with nextId := w.nextId + 1 } = (.ok false, _) :=
      acquireVmLock_held hlock
    rw [Prog.bind_run_ok hheld] at hok
    cases hok

/-- An action that takes the lock, and its event. -/
lemma completes_requestVmAction_iff (hread : action.isReadOnly = false) :
    Completes (requestVmAction env vm action user.email params >>= fun task =>
        record env (some user) ("vm." ++ action.name) vm.ref (some task) details) w ↔
      ∃ plan, ActionChecks env w vm action params plan ∧
        Expiring.get w.cache.vmLocks vm.id = none ∧ w.brokerUp = true ∧
        (actionDb env w user.email vm action).Consistent ∧
        (sentDb env w user vm action plan.vmUuid params details).Consistent := by
  have hrun : requestVmAction env vm action user.email params =
      actionPlan env {} vm action params >>= ActionPlan.queue env {} vm action params user.email :=
    requestVmActionOver_eq vm action params
  rw [hrun, bind_assoc, completes_bind_of_checks (actionPlan_state vm action params w)]
  exact exists_congr fun plan => and_congr actionPlan_eq_ok (completes_queue_iff hread plan)

/-- The VM of a route, and a program on it. -/
lemma completes_getVm_iff {vmId : String} {f : Vm → M α} :
    Completes (getVm vmId >>= f) w ↔ ∃ vm, w.db.vm vmId = some vm ∧ Completes (f vm) w := by
  have hget : getVm vmId w = M.ofOption (notFound "VM") (w.db.vm vmId) w := rfl
  have hstate : (getVm vmId w).2 = w := by
    rw [hget]
    exact ofOption_state _ _ _
  rw [completes_bind_of_checks hstate]
  exact exists_congr fun vm => and_congr (hget ▸ ofOption_eq_ok) Iff.rfl

/-- **An action that takes the lock commits** exactly when it passes. A delete has its own route. -/
theorem completes_vmAction_iff {vmId : String} (hread : action.isReadOnly = false) :
    Completes (vmAction env user vmId action params) w ↔ action ≠ .delete ∧
      ActionPasses env w user vmId action params (actionDetails params) := by
  unfold vmAction ActionPasses
  by_cases hdelete : action = .delete
  · rw [if_pos hdelete]
    exact iff_of_false (fun ⟨a, t, hok, _⟩ => nomatch hok) fun h => h.1 hdelete
  rw [if_neg hdelete, and_iff_right hdelete, completes_getVm_iff]
  refine exists_congr fun vm => ?_
  simp only [hread, if_neg Bool.false_ne_true]
  rw [exists_and_left]
  exact and_congr_right fun _ => completes_requestVmAction_iff hread

/-- **A delete commits** exactly when it passes. -/
theorem completes_deleteVm_iff {vmId : String} {removeFiles : Bool} :
    Completes (deleteVm env user vmId removeFiles) w ↔
      ActionPasses env w user vmId .delete [("remove_files", .bool removeFiles)]
        (deleteDetails removeFiles) := by
  unfold deleteVm ActionPasses
  rw [completes_getVm_iff]
  refine exists_congr fun vm => ?_
  rw [exists_and_left]
  have hread : VmAction.delete.isReadOnly = false := rfl
  exact and_congr_right fun _ => completes_requestVmAction_iff hread

end Actions

/-! ## Clones -/

/-- What a clone takes from its source VM, whose memory is `memory` bytes. -/
def sourceSpec (env : Env) (body : VmClone) (source : Vm) (memory : ℤ) : CloneSpec where
  firmware := source.firmware.orElse (.str "UEFI")
  cpuCount := orInt body.cpuCount source.vcpu
  memoryMb := orInt body.memoryMb (memory / (1024 * 1024))
  vlanId := match body.vlanId with
    | some v => some v
    | none => source.nics.head?.bind VmNic.vlanId
  notes := if (strippedOrNull env body.notes).isNone then source.notes
    else strippedOrNull env body.notes
  params := [("clone_type", .str "imported"), ("source_vm_name", source.name)]

/-- The plan of a clone of a VM. -/
def sourcePlan (env : Env) (body : VmClone) (host : Host) (source : Vm) (memory : ℤ) : Plan where
  host := host
  kind := .vm_clone
  vm := clonePlaceholder host body (sourceSpec env body source memory)
  params := fun _ => cloneParams env host body (sourceSpec env body source memory)

/-- The checks of a clone of a VM: its host is found, online, and takes the storage; the source is
found on the host, off, reported, and its memory is a number. -/
structure CloneChecks (env : Env) (w : World) (body : VmClone) (sourceVmId : String) (host : Host)
    (source : Vm) (memory : ℤ) : Prop where
  target : w.db.host body.hostId = some host
  online : agentConnected env w.now host = true
  storage : StorageAllowed env host (.ofOption body.destinationStorage)
  found : w.db.vm sourceVmId = some source
  owner : source.hostId = host.id
  off : source.state.isStr "Off" = true
  reported : (nonEmpty source.vmUuid).isSome = true
  sized : source.memoryBytes = .int memory

/-- The details of the event of a clone, whose source is looked up in the tables. -/
def cloneDetails (body : VmClone) (db : Db) : Json :=
  let sourceName := match body.source with
    | .vm id => (db.vm id).map Vm.name
    | .template id => (db.template id).map Template.name
  .obj (match sourceName with
    | some name => body.modelDump.set "sourceName" name
    | none => body.modelDump)

/-- The tables with the placeholder, the task and the event of a clone. -/
def clonedDb (env : Env) (w : World) (user : User) (body : VmClone) (plan : Plan) : Db :=
  let db := plan.db env w user.email
  { db with auditEvents := db.auditEvents ++ [auditEvent (env.uuid (w.nextId + 2)) w.now (some user)
      "vm.clone" (plan.row env w).ref (some (plan.task env w user.email))
      (cloneDetails body db)] }

/-- **A clone of a VM passes**: its checks pass, the broker is up, and the tables take the
placeholder, the task and the event. -/
def ClonePasses (env : Env) (w : World) (user : User) (body : VmClone) (sourceVmId : String) :
    Prop :=
  ∃ host source memory, CloneChecks env w body sourceVmId host source memory ∧
    let plan := sourcePlan env body host source memory
    w.brokerUp = true ∧ (w.db.addVm (plan.row env w)).Consistent ∧
      (plan.db env w user.email).Consistent ∧ (clonedDb env w user body plan).Consistent

section Clones

variable {user : User} {body : VmClone} {host : Host} {sourceVmId : String}

/-- The checks on the source of a clone, as conditions. -/
lemma cloneOfVm_eq_ok {spec : CloneSpec} :
    cloneOfVm env host body sourceVmId w = (.ok spec, w) ↔ ∃ source memory,
      w.db.vm sourceVmId = some source ∧ source.hostId = host.id ∧
      source.state.isStr "Off" = true ∧ (nonEmpty source.vmUuid).isSome = true ∧
      source.memoryBytes = .int memory ∧ spec = sourceSpec env body source memory := by
  unfold cloneOfVm
  rw [Prog.read_bind_run, checks_bind_eq_ok (ofOption_state _ _ _)]
  refine exists_congr fun source => ?_
  rw [exists_and_left]
  refine and_congr ofOption_eq_ok ?_
  by_cases howner : source.hostId = host.id
  swap
  · rw [if_pos howner]
    exact iff_of_false nofun fun ⟨_, h, _⟩ => howner h
  rw [if_neg (not_not.mpr howner)]
  by_cases hoff : source.state.isStr "Off" = true
  swap
  · rw [if_pos (by simpa using hoff)]
    exact iff_of_false nofun fun ⟨_, _, h, _⟩ => hoff h
  rw [if_neg (by simp [hoff])]
  by_cases hguid : (nonEmpty source.vmUuid).isSome = true
  swap
  · rw [if_pos (by simpa using hguid)]
    exact iff_of_false nofun fun ⟨_, _, _, h, _⟩ => hguid h
  rw [if_neg (by simpa [Option.isSome_iff_ne_none] using hguid)]
  simp only [howner, hoff, hguid, true_and]
  rcases hmemory : source.memoryBytes with _ | _ | memory | _ | _ | _ | _
  case int =>
    simp only [pure_bind]
    constructor
    · intro h
      exact ⟨memory, rfl, (Except.ok.inj (Prod.mk.inj h).1).symm⟩
    · rintro ⟨_, ⟨⟩, rfl⟩
      rfl
  all_goals exact iff_of_false nofun fun ⟨_, h, _⟩ => nomatch h

/-- The checks of a clone of a VM, as conditions. -/
lemma clonePlan_eq_ok {plan : Plan} (hsource : body.source = .vm sourceVmId) :
    clonePlan env {} body host w = (.ok plan, w) ↔ ∃ source memory,
      agentConnected env w.now host = true ∧
      StorageAllowed env host (.ofOption body.destinationStorage) ∧
      w.db.vm sourceVmId = some source ∧ source.hostId = host.id ∧
      source.state.isStr "Off" = true ∧ (nonEmpty source.vmUuid).isSome = true ∧
      source.memoryBytes = .int memory ∧ plan = sourcePlan env body host source memory := by
  have hplan : clonePlan env {} body host = (requireHostOnline env host >>= fun _ =>
      requireVmStorageAllowed env host (.ofOption body.destinationStorage) >>= fun _ =>
        cloneOfVm env host body sourceVmId >>= fun spec =>
          pure { host, kind := .vm_clone, vm := clonePlaceholder host body spec,
                 params := fun _ => cloneParams env host body spec }) := by
    unfold clonePlan
    rw [hsource]
    rfl
  rw [hplan, checks_bind_eq_ok (requireHostOnline_state host w)]
  constructor
  · rintro ⟨⟨⟩, honline, hrest⟩
    obtain ⟨⟨⟩, hstorage, hrest⟩ :=
      (checks_bind_eq_ok (requireVmStorageAllowed_state host _ w)).mp hrest
    obtain ⟨spec, hspec, hmade⟩ := (checks_bind_eq_ok (cloneOfVm_state host body _ w)).mp hrest
    obtain ⟨source, memory, hfound, howner, hoff, hguid, hmemory, rfl⟩ := cloneOfVm_eq_ok.mp hspec
    exact ⟨source, memory, requireHostOnline_eq_ok.mp honline,
      requireVmStorageAllowed_eq_ok.mp hstorage, hfound, howner, hoff, hguid, hmemory,
      (Except.ok.inj (Prod.mk.inj hmade).1).symm⟩
  · rintro ⟨source, memory, honline, hstorage, hfound, howner, hoff, hguid, hmemory, rfl⟩
    refine ⟨(), requireHostOnline_eq_ok.mpr honline,
      (checks_bind_eq_ok (requireVmStorageAllowed_state host _ w)).mpr
        ⟨(), requireVmStorageAllowed_eq_ok.mpr hstorage,
          (checks_bind_eq_ok (cloneOfVm_state host body _ w)).mpr ⟨_, cloneOfVm_eq_ok.mpr
            ⟨source, memory, hfound, howner, hoff, hguid, hmemory, rfl⟩, rfl⟩⟩⟩

/-- The placeholder, its lock, its task and its request. -/
lemma returnsWhen_provision (requestedBy : String) (plan : Plan) :
    ∃ t, ReturnsWhen (plan.provision env requestedBy {}) w
        ((w.db.addVm (plan.row env w)).Consistent ∧ (plan.db env w requestedBy).Consistent ∧
          w.brokerUp = true) (plan.row env w, plan.task env w requestedBy) t ∧
      t.db = plan.db env w requestedBy ∧ t.nextId = w.nextId + 2 ∧ t.now = w.now := by
  have hid : newId env (plan.added env w) = (.ok (env.uuid (w.nextId + 1)),
      { plan.added env w with nextId := w.nextId + 2 }) := rfl
  set w₁ : World := { plan.added env w with nextId := w.nextId + 2 } with hw₁
  -- the lock is taken or held: the rest is the same
  obtain ⟨taken, cache, hacquire⟩ : ∃ taken cache,
      acquireVmLock env (plan.row env w).id (env.uuid (w.nextId + 1)) plan.kind requestedBy w₁ =
        (.ok taken, { w₁ with cache := cache }) := by
    rcases hlock : Expiring.get w₁.cache.vmLocks (plan.row env w).id with _ | lock
    · exact ⟨true, _, acquireVmLock_free hlock⟩
    · exact ⟨false, _, acquireVmLock_held hlock⟩
  refine ⟨_, returnsWhen_congr Plan.provision_run <| ReturnsWhen.congr (returnsWhen_bind
    returnsWhen_flush <| returnsWhen_bind (returnsWhen_of_ok hid) <| returnsWhen_bind
      (returnsWhen_of_ok hacquire) <| returnsWhen_bind (returnsWhen_of_ok rfl) <| returnsWhen_bind
        (returnsWhen_of_ok rfl) <| returnsWhen_bind returnsWhen_flush <| returnsWhen_bind
          (returnsWhen_publishRequest _ _) (returnsWhen_of_ok rfl)) ?_, rfl, rfl, rfl⟩
  simp only [true_and, and_true]
  exact Iff.rfl

/-- A clone behind its checks, and its event. -/
lemma completes_provision_iff (plan : Plan) :
    Completes (plan.provision env user.email {} >>= fun made => Prog.read >>= fun u =>
        record env (some user) "vm.clone" made.1.ref (some made.2) (cloneDetails body u.db)) w ↔
      w.brokerUp = true ∧ (w.db.addVm (plan.row env w)).Consistent ∧
        (plan.db env w user.email).Consistent ∧ (clonedDb env w user body plan).Consistent := by
  obtain ⟨t, hruns, hdb, hnext, hnow⟩ := @returnsWhen_provision env w user.email plan
  rw [completes_bind_of_returns hruns, completes_congr (Prog.read_bind_run _ t),
    completes_record_iff, hdb, hnext, hnow, clonedDb]
  tauto

/-- **A clone of a VM commits** exactly when it passes. -/
theorem completes_cloneVm_iff (hsource : body.source = .vm sourceVmId) :
    Completes (cloneVm env user body) w ↔ ClonePasses env w user body sourceVmId := by
  have hrun : cloneVm env user body w = (M.ofOption (notFound "Host") (w.db.host body.hostId) >>=
      fun host => clonePlan env {} body host >>= fun plan =>
        plan.provision env user.email {} >>= fun made => Prog.read >>= fun u =>
          record env (some user) "vm.clone" made.1.ref (some made.2)
            (cloneDetails body u.db)) w := by
    unfold cloneVm requestVmClone requestVmCloneOver clonePlan Plan.provision
    rw [Prog.read_bind_run]
    simp only [bind_assoc, pure_bind]
    rfl
  rw [completes_congr hrun, completes_bind_of_checks (ofOption_state _ _ _)]
  unfold ClonePasses
  refine exists_congr fun host => ?_
  rw [completes_bind_of_checks (clonePlan_state body host w)]
  constructor
  · rintro ⟨hhost, plan, hplan, hrest⟩
    obtain ⟨source, memory, honline, hstorage, hfound, howner, hoff, hguid, hmemory, rfl⟩ :=
      (clonePlan_eq_ok hsource).mp hplan
    refine ⟨source, memory, ⟨ofOption_eq_ok.mp hhost, honline, hstorage, hfound, howner, hoff,
      hguid, hmemory⟩, (completes_provision_iff _).mp hrest⟩
  · rintro ⟨source, memory, hchecks, hpass⟩
    refine ⟨ofOption_eq_ok.mpr hchecks.target, sourcePlan env body host source memory,
      (clonePlan_eq_ok hsource).mpr ⟨source, memory, hchecks.online, hchecks.storage,
        hchecks.found, hchecks.owner, hchecks.off, hchecks.reported, hchecks.sized, rfl⟩,
      (completes_provision_iff _).mpr hpass⟩

end Clones

end OpenVCenter
