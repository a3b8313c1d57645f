import OpenVCenter.TerminalResponse

set_option relaxedAutoImplicit false
set_option autoImplicit false

/-!
# Responses that fail their task

A response that ends its task without success drops the placeholder of a create or clone, rolls
back the optimistic state of a power action, and frees the lock of the VM. Nothing an agent
attaches to it is read.

## Main definitions

* `OpenVCenter.failedVms`, `OpenVCenter.failedStates` — the VM rows and the overlays after it.

## Main results

* `OpenVCenter.revertState_eq` — the rollback of an optimistic state.
* `OpenVCenter.step_response_failed` — the committed state after such a response, once its
  lifecycle change lands.
-/

namespace OpenVCenter

open Effect

variable {env : Env} {w : World} {hostId : String} {resp : AgentResponse} {task : Task}

/-- The VM rows after a task has failed. -/
def failedVms (db : Db) (task : Task) : List Vm :=
  if task.kind.makesPlaceholder then
    match db.vm task.targetId with
    | none => db.vms
    | some placeholder => (db.deleteVm placeholder.id).vms
  else
    match failedStateRevert task.kind, transitionalState task.kind, db.vm task.targetId with
    | some revert, some transitional, some vm =>
      if task.targetType = .vm ∧ vm.state.isStr transitional then
        (db.storeVm { vm with state := .str revert }).vms
      else db.vms
    | _, _, _ => db.vms

/-- The state overlays after a task has failed. -/
def failedStates (env : Env) (w : World) (task : Task) : Expiring.Keyspace String Time String :=
  if task.kind.makesPlaceholder then
    match w.db.vm task.targetId with
    | none => w.cache.vmStates
    | some placeholder => Expiring.erase w.cache.vmStates placeholder.id
  else
    match failedStateRevert task.kind, transitionalState task.kind, w.db.vm task.targetId with
    | some revert, some transitional, some vm =>
      if task.targetType = .vm ∧ vm.state.isStr transitional then
        Expiring.put w.cache.vmStates vm.id revert (w.now + seconds env.vmStateTtlSeconds)
      else w.cache.vmStates
    | _, _, _ => w.cache.vmStates

/-- A state to revert to fits its row. -/
lemma reverted_bindable {vm : Vm} {revert : String} (h : vm.bindable = true)
    (hr : Column.varchar 16 (.str revert) = true) :
    { vm with state := .str revert }.bindable = true := by
  simp only [Vm.bindable, Bool.and_eq_true] at h ⊢
  simp only [h, hr, and_self]

/-- It fits its column. -/
lemma failedStateRevert_fits {kind : TaskKind} {revert : String}
    (h : failedStateRevert kind = some revert) : Column.varchar 16 (.str revert) = true := by
  cases kind <;> cases h <;> decide

/-- A row whose state is rolled back is still a row of its table. -/
lemma storeVm_reverted_consistent {db : Db} {vm : Vm} {id revert : String} (hc : db.Consistent)
    (hvm : db.vm id = some vm) (hr : Column.varchar 16 (.str revert) = true) :
    (db.storeVm { vm with state := .str revert }).Consistent := by
  obtain ⟨hmem, -⟩ := hc.vm_eq_some.mp hvm
  exact hc.storeVm (hc.vm_eq_some.mpr ⟨hmem, rfl⟩) rfl rfl rfl rfl
    (reverted_bindable (hc.vm_bindable hmem) hr)

/-- A placeholder is dropped with its row. -/
lemma dropPlaceholder_run (placeholder : Vm) :
    dropPlaceholder placeholder w =
      (.ok (), { w with
        db := w.db.deleteVm placeholder.id
        cache := { w.cache with
          vmStates := Expiring.erase w.cache.vmStates placeholder.id } }) := rfl

/-- A kind with an optimistic state has another one to fall back to. -/
lemma revert_of_transitional {kind : TaskKind} {transitional : String}
    (h : transitionalState kind = some transitional) :
    ∃ revert, failedStateRevert kind = some revert ∧ revert ≠ transitional := by
  cases kind <;> cases h <;> exact ⟨_, rfl, by decide⟩

/-- The state after the rollback of an optimistic state: one row and its overlay are rewritten, or
nothing is. -/
def revertedWorld (env : Env) (task : Task) (w : World) : World :=
  match failedStateRevert task.kind, transitionalState task.kind, w.db.vm task.targetId with
  | some revert, some transitional, some vm =>
    if task.targetType = .vm ∧ vm.state.isStr transitional then
      { w with
        db := w.db.storeVm { vm with state := .str revert }
        cache := { w.cache with
          vmStates := Expiring.put w.cache.vmStates vm.id revert
            (w.now + seconds env.vmStateTtlSeconds) } }
    else w
  | _, _, _ => w

/-- The rollback of an optimistic state returns. -/
theorem revertState_eq : revertState env task w = (.ok (), revertedWorld env task w) := by
  unfold revertState revertedWorld
  rcases failedStateRevert task.kind with _ | revert
  · rfl
  rcases transitionalState task.kind with _ | transitional
  · rfl
  dsimp only
  by_cases htype : task.targetType = .vm
  · rw [if_pos htype, Prog.read_bind_run]
    rcases w.db.vm task.targetId with _ | vm
    · rfl
    · dsimp only
      by_cases hstate : vm.state.isStr transitional = true
      · rw [if_pos hstate, if_pos ⟨htype, hstate⟩]
        rfl
      · rw [if_neg hstate, if_neg fun h => hstate h.2]
        rfl
  · rw [if_neg htype]
    rcases w.db.vm task.targetId with _ | vm
    · rfl
    · dsimp only
      rw [if_neg fun h => htype h.1]
      rfl

/-- A failure that finds no optimistic state of its kind changes nothing. -/
lemma revertState_idle (h : ∀ vm, w.db.vm task.targetId = some vm →
    ∀ transitional ∈ transitionalState task.kind, task.targetType = .vm →
      vm.state.isStr transitional = false) :
    revertState env task w = (.ok (), w) := by
  rw [revertState_eq]
  unfold revertedWorld
  split
  · rename_i revert transitional vm _ htransitional hvm
    rw [if_neg]
    rintro ⟨htype, hstate⟩
    rw [h vm hvm transitional htransitional htype] at hstate
    cases hstate
  · rfl

/-- A reverted state keeps the constraints. -/
lemma revertedWorld_consistent (hc : w.db.Consistent) :
    (revertedWorld env task w).db.Consistent := by
  unfold revertedWorld
  split
  · rename_i revert transitional vm hrevert _ hvm
    split_ifs
    · exact storeVm_reverted_consistent hc hvm (failedStateRevert_fits hrevert)
    · exact hc
  · exact hc

/-- The rollback of an optimistic state goes through. -/
lemma revertState_run (hc : w.db.Consistent) (hk : task.kind.makesPlaceholder = false) :
    ∃ t, revertState env task w = (.ok (), t) ∧ t.db.Consistent ∧
      t.db.vms = failedVms w.db task ∧ t.cache.vmStates = failedStates env w task := by
  refine ⟨_, revertState_eq, revertedWorld_consistent hc, ?_, ?_⟩
  · unfold revertedWorld failedVms
    rw [hk, if_neg Bool.false_ne_true]
    rcases failedStateRevert task.kind with _ | revert
    · rfl
    rcases transitionalState task.kind with _ | transitional
    · rfl
    rcases w.db.vm task.targetId with _ | vm
    · rfl
    · dsimp only
      split_ifs <;> rfl
  · unfold revertedWorld failedStates
    rw [hk, if_neg Bool.false_ne_true]
    rcases failedStateRevert task.kind with _ | revert
    · rfl
    rcases transitionalState task.kind with _ | transitional
    · rfl
    rcases w.db.vm task.targetId with _ | vm
    · rfl
    · dsimp only
      split_ifs <;> rfl

/-- The refresh of the VM rows goes through when the task has failed. -/
theorem applyResponseState_failed (env : Env) (hostId : String) (resp : AgentResponse)
    (hc : w.db.Consistent) (hf : task.status = .failed) :
    ∃ t, applyResponseState env hostId resp task w = (.ok (), t) ∧ t.db.Consistent ∧
      t.db.vms = failedVms w.db task ∧ t.cache.vmStates = failedStates env w task := by
  unfold applyResponseState
  cases hk : task.kind.makesPlaceholder with
  | true =>
    rw [if_pos rfl, Prog.read_bind_run]
    rcases hvm : w.db.vm task.targetId with _ | placeholder
    · exact ⟨w, rfl, hc, by simp [failedVms, hk, hvm], by simp [failedStates, hk, hvm]⟩
    · simp only [hf, reduceCtorEq, if_false]
      exact ⟨_, dropPlaceholder_run placeholder, hc.deleteVm _, by simp [failedVms, hk, hvm],
        by simp [failedStates, hk, hvm]⟩
  | false =>
    simp only [hf, reduceCtorEq, and_false, if_false, if_true, Bool.false_eq_true]
    exact revertState_run hc hk

/-- The first two statements of the best-effort part have nothing to do for a failed task. -/
lemma applyBestEffort_failed (hc : w.db.Consistent) (hf : task.status = .failed) :
    applyBestEffort env hostId resp task w =
      Prog.attempt (savepoint (applyResponseState env hostId resp task)) w := by
  have hhost : Prog.attempt (savepoint (applyHostActionResponse env task resp)) w =
      (.ok ⟨⟩, w) := by
    have hpure : applyHostActionResponse env task resp = pure () := by
      unfold applyHostActionResponse
      simp [hf]
    rw [hpure, Prog.attempt_run, savepoint_eq_ok.mpr ⟨Prog.pure_run _ _, hc⟩]
  unfold applyBestEffort
  have hfirst : (if task.targetType = .host then
      Prog.attempt (savepoint (applyHostActionResponse env task resp)) else pure ()) w =
      (.ok ⟨⟩, w) := by
    split_ifs
    · exact hhost
    · rfl
  rw [Prog.bind_run_ok hfirst]
  rcases resp.template with _ | item
  · rfl
  · simp [hf]

/-- The state after the refresh of a failed task. -/
theorem applyRefresh_failed (env : Env) (hostId : String) (resp : AgentResponse)
    (hc : w.db.Consistent) (hf : task.status = .failed) :
    ∃ t, applyRefresh env hostId resp task w = (.ok (), t) ∧ t.db.Consistent ∧
      t.db.tasks = w.db.tasks ∧ t.db.auditEvents = w.db.auditEvents ∧
      t.db.vms = failedVms w.db task ∧
      t.cache.vmLocks = (if task.targetType = .vm then releaseLock task.targetId task.id w.cache
        else w.cache).vmLocks ∧ t.cache.vmStates = failedStates env w task := by
  have hstamp : stampAgentVersion env hostId resp task w = (.ok (), w) := by
    unfold stampAgentVersion
    simp [hf]
  obtain ⟨t, ht, hct, hvms, hstates⟩ := applyResponseState_failed env hostId resp hc hf
  have hbest : applyBestEffort env hostId resp task w = (.ok ⟨⟩, t) := by
    rw [applyBestEffort_failed hc hf, Prog.attempt_run, savepoint_eq_ok.mpr ⟨ht, hct⟩]
  obtain ⟨htasks, hevents⟩ := applyBestEffort_tasks env hostId resp task w
  have hlocks : Keeps (Frame.same fun w => w.cache.vmLocks)
      (applyBestEffort env hostId resp task) :=
    keeps_applyBestEffort (fun _ _ h => h) (fun _ _ _ => rfl) (fun _ _ _ => rfl) (fun _ _ => rfl)
      (keeps_applyResponseState (fun _ _ => rfl) (fun _ _ => rfl) (fun _ _ => rfl)
        (fun _ _ _ _ => rfl) hostId resp)
  have hlocks := hlocks w
  rw [hbest] at htasks hevents hlocks
  have hrun : applyRefresh env hostId resp task w =
      (if task.targetType = .vm then releaseVmLock task.targetId task.id else pure ()) t := by
    unfold applyRefresh
    rw [Prog.bind_run_ok hstamp, Prog.bind_run_ok hbest]
  rw [hrun]
  split_ifs
  · refine ⟨_, rfl, hct, htasks, hevents, hvms, ?_, (releaseLock_vmStates _ _ _).trans hstates⟩
    funext x
    have hsame : t.cache.vmLocks = w.cache.vmLocks := hlocks
    simp only [releaseVmLock_locks, hsame]
  · exact ⟨_, rfl, hct, htasks, hevents, hvms, hlocks, hstates⟩

/-- The committed state after a response that ends its task without success and lands. -/
theorem step_response_failed (s : Committed)
    (h : s.world.db.taskOfHost hostId resp.id = some task)
    (hp : isProgress resp task.status = false) (hfail : resp.status ≠ "succeeded")
    (hl : Lands env s.world.now resp) :
    let after := (System.step env s (.response hostId resp)).world
    after.db.tasks = (lifecycleDb env s.world.now resp.stripped task s.world.db).tasks ∧
    after.db.auditEvents =
      (lifecycleDb env s.world.now resp.stripped task s.world.db).auditEvents ∧
    after.db.vms = failedVms s.world.db task ∧
    after.cache.vmLocks = (if task.targetType = .vm then
      releaseLock task.targetId task.id s.world.cache else s.world.cache).vmLocks ∧
    after.cache.vmStates = failedStates env s.world task := by
  have hc := s.consistent
  have hc₁ : (lifecycleDb env s.world.now resp.stripped task s.world.db).Consistent :=
    (lifecycleDb_consistent_iff hc (task_of_taskOfHost h)).mpr hl.2
  have hstatus : (endedTask env s.world.now resp.stripped task).status = .failed :=
    if_neg hfail
  obtain ⟨t, ht, hct, htasks, hevents, hvms, hlocks, hstates⟩ :=
    applyRefresh_failed (w := { atStart s.world with
      db := lifecycleDb env s.world.now resp.stripped task s.world.db }) env hostId resp.stripped
      hc₁ hstatus
  have hlanded := applyResponse_landed (w := atStart s.world) hc h hp hl
  have hstep : (System.step env s (.response hostId resp)).world = t := by
    rw [step_response, sessionScope, savepoint_eq_ok.mpr ⟨hlanded.trans ht, hct⟩]
  rw [hstep]
  exact ⟨htasks, hevents, hvms, hlocks, hstates⟩

end OpenVCenter
