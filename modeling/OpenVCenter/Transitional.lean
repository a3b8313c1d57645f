import OpenVCenter.AuditFrame
import OpenVCenter.LateProgress
import OpenVCenter.MutualExclusion

set_option relaxedAutoImplicit false
set_option autoImplicit false

/-!
# Optimistic states

A power action or a delete stamps a transitional state on its VM before the agent has answered.
Three tables say what is stamped and what takes it back: `ACTION_MAP`, and the two rollback tables
of the worker. A delete is in the first only, and a sweep takes nothing back. This file says after
which failed or timed-out tasks their VM does not show the stamp any more.

## Main definitions

* `OpenVCenter.stampedState` — the state a kind of task stamps.
* `OpenVCenter.NotShown` — neither the row nor the overlay of a VM shows a state.
* `OpenVCenter.Cleared` — after a step, no task that it has failed or timed out shows its stamp.
* `OpenVCenter.TakesBack` — what a step has to find for that.

## Main results

* `OpenVCenter.cleared_iff` — one step.
* `OpenVCenter.run_cleared_iff` — every step of a run.
-/

namespace OpenVCenter

open Effect

variable {env : Env} {w : World} {hostId : String} {resp : AgentResponse} {task : Task} {db : Db}

/-! ## What is stamped, and what is taken back -/

/-- The optimistic state of a kind of task. -/
def stampedState : TaskKind → Option String
  | .vm_start => some "Starting"
  | .vm_stop => some "Stopping"
  | .vm_shutdown => some "Stopping"
  | .vm_restart => some "Restarting"
  | .vm_pause => some "Pausing"
  | .vm_delete => some "Deleting"
  | _ => none

/-- The worker knows the stamp of every kind but a delete. -/
lemma transitionalState_eq {kind : TaskKind} :
    transitionalState kind = if kind = .vm_delete then none else stampedState kind := by
  cases kind <;> rfl

/-- A kind that stamps a state makes no placeholder. -/
lemma stamped_no_placeholder {kind : TaskKind} {st : String} (h : stampedState kind = some st) :
    kind.makesPlaceholder = false := by
  cases kind <;> first | rfl | cases h

/-- Neither the row nor the overlay of the VM shows the state. -/
def NotShown (w : World) (vmId st : String) : Prop :=
  (∀ v ∈ w.db.vms, v.id = vmId → v.state.isStr st = false) ∧
    Expiring.get w.cache.vmStates vmId ≠ some st

/-- The row of the VM shows the state. -/
def RowShows (db : Db) (vmId st : String) : Prop := ∃ v ∈ db.vms, v.id = vmId ∧ v.state.isStr st = true

/-! ## Failed tasks -/

/-- A row that shows the stamp of a power action is rolled back, with its overlay. -/
lemma failed_of_rowShows (hc : w.db.Consistent) {st : String} (hst : stampedState task.kind = some st)
    (hdel : task.kind ≠ .vm_delete) (htype : task.targetType = .vm)
    (hshow : RowShows w.db task.targetId st) :
    ∃ revert vm, revert ≠ st ∧ vm ∈ w.db.vms ∧ vm.id = task.targetId ∧
      failedVms w.db task = (w.db.storeVm { vm with state := .str revert }).vms ∧
      failedStates env w task =
        Expiring.put w.cache.vmStates vm.id revert (w.now + seconds env.vmStateTtlSeconds) := by
  obtain ⟨vm, hmem, hid, hstate⟩ := hshow
  have hvm : w.db.vm task.targetId = some vm := hc.vm_eq_some.mpr ⟨hmem, hid⟩
  have hk := stamped_no_placeholder hst
  have htrans : transitionalState task.kind = some st := by
    rw [transitionalState_eq, if_neg hdel, hst]
  have hsome := failedStateRevert_isSome task.kind
  rw [htrans] at hsome
  obtain ⟨revert, hrevert⟩ := Option.isSome_iff_exists.mp hsome
  refine ⟨revert, vm, failedStateRevert_ne hrevert htrans, hmem, hid, ?_, ?_⟩
  · simp [failedVms, hk, hrevert, htrans, hvm, htype, hstate]
  · simp [failedStates, hk, hrevert, htrans, hvm, htype, hstate]

/-- Otherwise a failed task leaves rows and overlays as they are. -/
lemma failed_of_not_rowShows (hc : w.db.Consistent) {st : String}
    (hst : stampedState task.kind = some st)
    (h : task.kind = .vm_delete ∨ ¬ RowShows w.db task.targetId st) :
    failedVms w.db task = w.db.vms ∧ failedStates env w task = w.cache.vmStates := by
  have hk := stamped_no_placeholder hst
  unfold failedVms failedStates
  rw [hk]
  rcases hrevert : failedStateRevert task.kind with _ | revert
  · exact ⟨rfl, rfl⟩
  rcases htrans : transitionalState task.kind with _ | transitional
  · exact ⟨rfl, rfl⟩
  rcases hvm : w.db.vm task.targetId with _ | vm
  · exact ⟨rfl, rfl⟩
  have heq : task.kind ≠ .vm_delete ∧ transitional = st := by
    rw [transitionalState_eq] at htrans
    split_ifs at htrans with hdel
    exact ⟨hdel, Option.some.inj (htrans.symm.trans hst)⟩
  obtain ⟨hmem, hid⟩ := hc.vm_eq_some.mp hvm
  have hnot : ¬ (task.targetType = .vm ∧ vm.state.isStr transitional = true) := by
    rintro ⟨-, hstate⟩
    rcases h with hdel | hnot
    · exact heq.1 hdel
    · exact hnot ⟨vm, hmem, hid, heq.2 ▸ hstate⟩
  simp [hnot]

/-- After a failed task the stamp is gone: it was not shown, or it was one the worker knows, and the
row showed it. -/
theorem notShown_failed_iff {after : World} (hc : w.db.Consistent) {st : String}
    (hst : stampedState task.kind = some st) (htype : task.targetType = .vm)
    (hvms : after.db.vms = failedVms w.db task)
    (hstates : after.cache.vmStates = failedStates env w task) :
    NotShown after task.targetId st ↔
      NotShown w task.targetId st ∨ (task.kind ≠ .vm_delete ∧ RowShows w.db task.targetId st) := by
  by_cases hpower : task.kind ≠ .vm_delete ∧ RowShows w.db task.targetId st
  · refine iff_of_true ?_ (Or.inr hpower)
    obtain ⟨revert, vm, hne, hmem, hid, hrows, hoverlay⟩ :=
      @failed_of_rowShows env _ _ hc _ hst hpower.1 htype hpower.2
    refine ⟨fun v hv hvid => ?_, ?_⟩
    · rw [hvms, hrows] at hv
      rcases Table.mem_store.mp hv with ⟨-, hvne⟩ | ⟨rfl, -⟩
      · exact absurd (hvid.trans hid.symm) hvne
      · simpa [Json.isStr] using hne
    · rw [hstates, hoverlay, Expiring.get_put, if_pos hid.symm]
      simpa using hne
  · have hkept : task.kind = .vm_delete ∨ ¬ RowShows w.db task.targetId st := by
      by_cases hdel : task.kind = .vm_delete
      · exact Or.inl hdel
      · exact Or.inr fun hshow => hpower ⟨hdel, hshow⟩
    obtain ⟨hrows, hoverlay⟩ := @failed_of_not_rowShows env _ _ hc _ hst hkept
    have hsame : NotShown after task.targetId st ↔ NotShown w task.targetId st := by
      unfold NotShown
      rw [hvms, hrows, hstates, hoverlay]
    rw [hsame]
    simp [hpower]

/-! ## One step -/

/-- The step has failed the task, or timed it out. -/
def EndsFailed (task : Task) (after : Db) : Prop :=
  ∃ t ∈ after.tasks, t.id = task.id ∧ (t.status = .failed ∨ t.status = .timeout) ∧
    t.status ≠ task.status

/-- After the step no VM shows the stamp of a task that the step has failed or timed out. -/
def Cleared (env : Env) (s : Committed) (e : Event) : Prop :=
  ∀ task ∈ s.world.db.tasks, ∀ st, stampedState task.kind = some st → task.targetType = .vm →
    EndsFailed task (System.step env s e).world.db →
    NotShown (System.step env s e).world task.targetId st

/-- The response lands, and fails a task that has not failed yet. -/
structure FailsTask (env : Env) (s : Committed) (hostId : String) (resp : AgentResponse)
    (task : Task) : Prop where
  found : s.world.db.taskOfHost hostId resp.id = some task
  terminal : isProgress resp task.status = false
  unsuccessful : resp.status ≠ "succeeded"
  was : task.status ≠ .failed
  lands : Lands env s.world.now resp

/-- What a step has to find. A failing response: the stamp is not shown, or it is that of a power
action, and the row shows it. A sweep: no task it times out has its stamp shown, but on a row that
goes. -/
structure TakesBack (env : Env) (s : Committed) (e : Event) : Prop where
  response : ∀ hostId resp task st, e = .response hostId resp → FailsTask env s hostId resp task →
    stampedState task.kind = some st → task.targetType = .vm →
    NotShown s.world task.targetId st ∨
      (task.kind ≠ .vm_delete ∧ RowShows s.world.db task.targetId st)
  sweep : ∀ task ∈ staleTasks env s.world.now s.world.db, ∀ st, e = .sweep → SweepCompletes env s →
    stampedState task.kind = some st → task.targetType = .vm →
    (∀ v ∈ s.world.db.vms, v.id = task.targetId →
      isOrphan (timedOutDb env s.world.now s.world.db) v = false → v.state.isStr st = false) ∧
    Expiring.get s.world.cache.vmStates task.targetId ≠ some st

/-- The rows, the overlays and the tasks after a sweep that completes. -/
lemma step_sweep_completed {s : Committed} (h : SweepCompletes env s) :
    let after := (System.step env s .sweep).world
    after.db.vms = Table.deleteWhere (isOrphan (timedOutDb env s.world.now s.world.db))
      s.world.db.vms ∧
    after.cache.vmStates = s.world.cache.vmStates ∧
    after.db.tasks = (timedOutDb env s.world.now s.world.db).tasks := by
  intro after
  obtain ⟨⟨⟩, t₁, h₁, h₂⟩ := Prog.bind_eq_ok.mp h.run
  have hafter : { t₁ with db := t₁.db.deleteVms (isOrphan t₁.db) } = after := congrArg Prod.snd h₂
  have hframe : (Frame.same fun w => (w.db.vms, w.cache.vmStates, w.db.tasks)).rel
      { atStart s.world with db := timedOutDb env s.world.now s.world.db } t₁ :=
    timeOutStaleTasks_eq_ok (w := atStart s.world)
      (fun _ _ _ => by simp [Frame.same]) h₁
  simp only [Frame.same, Prod.mk.injEq] at hframe
  obtain ⟨hvms, hstates, htasks⟩ := hframe
  have horphan : isOrphan t₁.db = isOrphan (timedOutDb env s.world.now s.world.db) := by
    funext v
    unfold isOrphan
    rw [htasks]
  rw [← hafter]
  refine ⟨?_, hstates, htasks⟩
  change Table.deleteWhere (isOrphan t₁.db) t₁.db.vms = _
  rw [horphan, hvms]
  rfl

/-- A sweep that does not complete leaves the tables alone. -/
lemma step_sweep_not_completed {s : Committed} (h : ¬ SweepCompletes env s) :
    (System.step env s .sweep).world.db = s.world.db := by
  have hstep : (System.step env s .sweep).world =
      (savepoint (sweepStaleTasks env) (atStart s.world)).2 := rfl
  unfold SweepCompletes sessionScope at h
  rcases savepoint_cases (sweepStaleTasks env) (atStart s.world) with ⟨⟨⟩, t, -, -, hr⟩ | ⟨e, hr⟩
  · rw [hr] at h
    exact absurd rfl h
  · rw [hstep, hr]
    rfl

/-- Only a failing response and a sweep that completes fail a task or time it out.

**Proof sketch.** By the event. One that ends no tasks keeps each status, and adds tasks that are
queued (`auditGrows_step`). A response changes the status of its own task only, and to `failed` only
if it does not report a success. The sweep times out the stale tasks, if it completes. -/
lemma endsFailed_cases {s : Committed} {e : Event} (hmem : task ∈ s.world.db.tasks)
    (h : EndsFailed task (System.step env s e).world.db) :
    (∃ hostId resp, e = .response hostId resp ∧ FailsTask env s hostId resp task) ∨
    (e = .sweep ∧ SweepCompletes env s ∧ task ∈ staleTasks env s.world.now s.world.db) := by
  have hc := s.consistent
  obtain ⟨t, ht, hid, hstatus, hne⟩ := h
  -- a task that was there before has its old status
  have hold : ∀ t₀ ∈ s.world.db.tasks, t₀.id = t.id → t₀.status = t.status → False := by
    intro t₀ ht₀ hid₀ hs₀
    have hsame : t₀ = task :=
      Table.eq_of_mem_of_key hc.keyed.taskIds ht₀ hmem (hid₀.trans hid)
    exact hne (hsame ▸ hs₀.symm)
  cases hends : e.endsTasks with
  | false =>
    rcases (auditGrows_step env s e hends).tasks t ht with ⟨t₀, ht₀, hid₀, hs₀⟩ | ⟨hq, -⟩
    · exact (hold t₀ ht₀ hid₀ hs₀).elim
    · rw [hq] at hstatus
      rcases hstatus with hstatus | hstatus <;> cases hstatus
  | true =>
    cases e with
    | response hostId resp =>
      rcases step_response_audit env s hostId resp with
        ⟨htasks, -⟩ | ⟨task', hfound, ⟨-, -, htasks⟩ | ⟨hp, hl, -, htasks⟩⟩
      · exact (hold t (htasks ▸ ht) rfl rfl).elim
      · rw [htasks] at ht
        rcases Table.mem_store.mp ht with ⟨ht, -⟩ | ⟨rfl, -⟩
        · exact (hold t ht rfl rfl).elim
        · rcases hstatus with hstatus | hstatus <;> cases hstatus
      · rw [htasks] at ht
        rcases Table.mem_store.mp ht with ⟨ht, -⟩ | ⟨rfl, -⟩
        · exact (hold t ht rfl rfl).elim
        · obtain ⟨hmem', -⟩ := hc.task_eq_some.mp (task_of_taskOfHost hfound)
          obtain rfl : task' = task := Table.eq_of_mem_of_key hc.keyed.taskIds hmem' hmem hid
          have hfailed : terminalStatus resp = .failed := by
            unfold terminalStatus
            rw [if_neg]
            intro hsucc
            have hsucceeded : terminalStatus resp = .succeeded := terminalStatus_eq_succeeded.mpr hsucc
            have hended : (endedTask env s.world.now resp.stripped task').status =
              terminalStatus resp := rfl
            rw [hended, hsucceeded] at hstatus
            rcases hstatus with hstatus | hstatus <;> cases hstatus
          refine Or.inl ⟨hostId, resp, rfl, hfound, hp, ?_, ?_, hl⟩
          · intro hsucc
            rw [terminalStatus_eq_succeeded.mpr hsucc] at hfailed
            cases hfailed
          · intro hwas
            exact hne (hfailed.trans hwas.symm)
    | sweep =>
      by_cases hcomp : SweepCompletes env s
      · obtain ⟨-, -, htasks⟩ := step_sweep_completed hcomp
        rw [htasks] at ht
        rcases Table.mem_updateWhere.mp ht with ⟨ht, -⟩ | ⟨y, hy, hin, rfl⟩
        · exact (hold t ht rfl rfl).elim
        · obtain rfl : y = task := Table.eq_of_mem_of_key hc.keyed.taskIds hy hmem hid
          obtain ⟨x, hx, hxid⟩ := List.mem_map.mp (of_decide_eq_true hin)
          have hxmem : x ∈ s.world.db.tasks := (List.mem_filter.mp (List.mem_filter.mp hx).1).1
          obtain rfl : x = y := Table.eq_of_mem_of_key hc.keyed.taskIds hxmem hy hxid
          exact Or.inr ⟨rfl, hcomp, hx⟩
      · rw [step_sweep_not_completed hcomp] at ht
        exact (hold t ht rfl rfl).elim
    | removeHost user hostId =>
      rcases step_removeHost_audit env s user hostId with ⟨htasks, -⟩ | ⟨-, -, -, htasks, -⟩
      · exact (hold t (htasks ▸ ht) rfl rfl).elim
      · rw [htasks] at ht
        exact (hold t (Table.mem_deleteWhere.mp ht).1 rfl rfl).elim
    | _ => cases hends

/-- Both ends do fail their task. -/
lemma FailsTask.ends {s : Committed} (h : FailsTask env s hostId resp task) :
    task ∈ s.world.db.tasks ∧
      EndsFailed task (System.step env s (.response hostId resp)).world.db := by
  obtain ⟨htasks, -, -, -, -⟩ := step_response_failed s h.found h.terminal h.unsuccessful h.lands
  obtain ⟨hmem, -⟩ := s.consistent.task_eq_some.mp (task_of_taskOfHost h.found)
  have hstatus : (endedTask env s.world.now resp.stripped task).status = .failed :=
    if_neg h.unsuccessful
  refine ⟨hmem, endedTask env s.world.now resp.stripped task, ?_, rfl, Or.inl hstatus, ?_⟩
  · rw [htasks]
    exact Table.mem_store.mpr (Or.inr ⟨rfl, task, hmem, rfl⟩)
  · rw [hstatus]
    exact h.was.symm

/-- A sweep that completes ends the stale tasks as failed. -/
lemma stale_ends {s : Committed} (hcomp : SweepCompletes env s)
    (hstale : task ∈ staleTasks env s.world.now s.world.db) :
    task ∈ s.world.db.tasks ∧ EndsFailed task (System.step env s .sweep).world.db := by
  obtain ⟨hfilter, -⟩ := List.mem_filter.mp hstale
  obtain ⟨hmem, hcond⟩ := List.mem_filter.mp hfilter
  simp only [Bool.and_eq_true, Bool.not_eq_true', decide_eq_true_eq] at hcond
  obtain ⟨-, -, htasks⟩ := step_sweep_completed hcomp
  refine ⟨hmem, timedOut s.world.now task, ?_, rfl, Or.inr rfl, fun heq => ?_⟩
  · rw [htasks]
    refine Table.mem_updateWhere.mpr (Or.inr ⟨task, hmem, ?_, rfl⟩)
    exact decide_eq_true (List.mem_map_of_mem hstale)
  · rw [← heq] at hcond
    cases hcond.1

/-- A step clears the stamps of the tasks it fails or times out exactly when it finds what it has to
find. -/
theorem cleared_iff (s : Committed) (e : Event) : Cleared env s e ↔ TakesBack env s e := by
  have hc := s.consistent
  constructor
  · intro h
    refine ⟨?_, ?_⟩
    · rintro hostId resp task st rfl hfails hst htype
      obtain ⟨hmem, hends⟩ := hfails.ends
      obtain ⟨-, -, hvms, -, hstates⟩ :=
        step_response_failed s hfails.found hfails.terminal hfails.unsuccessful hfails.lands
      exact (notShown_failed_iff hc hst htype hvms hstates).mp (h task hmem st hst htype hends)
    · rintro task hstale st rfl hcomp hst htype
      obtain ⟨hmem, hends⟩ := stale_ends hcomp hstale
      obtain ⟨hvms, hstates, -⟩ := step_sweep_completed hcomp
      obtain ⟨hrows, hoverlay⟩ := h task hmem st hst htype hends
      refine ⟨fun v hv hid horphan => hrows v ?_ hid, hstates ▸ hoverlay⟩
      rw [hvms]
      exact Table.mem_deleteWhere.mpr ⟨hv, horphan⟩
  · intro h task hmem st hst htype hends
    rcases endsFailed_cases hmem hends with ⟨hostId, resp, rfl, hfails⟩ | ⟨rfl, hcomp, hstale⟩
    · obtain ⟨-, -, hvms, -, hstates⟩ :=
        step_response_failed s hfails.found hfails.terminal hfails.unsuccessful hfails.lands
      exact (notShown_failed_iff hc hst htype hvms hstates).mpr
        (h.response hostId resp task st rfl hfails hst htype)
    · obtain ⟨hvms, hstates, -⟩ := step_sweep_completed hcomp
      obtain ⟨hrows, hoverlay⟩ := h.sweep task hstale st rfl hcomp hst htype
      refine ⟨fun v hv hid => ?_, hstates.symm ▸ hoverlay⟩
      rw [hvms] at hv
      obtain ⟨hv, horphan⟩ := Table.mem_deleteWhere.mp hv
      exact hrows v hv hid horphan

/-! ## Runs -/

/-- In a run, no VM shows the stamp of a task after the step that fails it or times it out, exactly
when every step finds what it has to find. -/
theorem run_cleared_iff (env : Env) (s : Committed) (es : List Event) :
    Machine.AllSteps (System.step env) (Cleared env) s es ↔
      Machine.AllSteps (System.step env) (TakesBack env) s es :=
  Machine.AllSteps.congr (I := fun _ => True) (fun _ _ _ _ => trivial)
    (fun s e _ => cleared_iff s e) trivial

/-- The VM `"g"` is reported, then its delete is queued. -/
@[irreducible] def Demo.deleteQueued : Committed :=
  System.run Demo.settings Demo.start
    [.vmInventory "h" (Demo.snapshot ["g"]), .deleteVm 0 Demo.user "" false]

/-- The agent could not delete the VM. -/
def Demo.deleteFailed : AgentResponse := { id := "x", function := "vm_delete", status := "failed" }

/-- Not every failed action is taken back: a delete that fails leaves its VM in the state
`"Deleting"`. -/
theorem cleared_counterexample :
    ¬ ∀ (env : Env) (s : Committed) (e : Event), System.Reachable env s → Cleared env s e := by
  intro h
  have hreach : System.Reachable Demo.settings Demo.deleteQueued := by
    unfold Demo.deleteQueued
    exact ⟨Demo.start, _, Demo.start_initial, rfl⟩
  have htask : ∃ task ∈ Demo.deleteQueued.world.db.tasks, task.kind = .vm_delete ∧
      task.targetType = .vm ∧ task.id = "x" ∧ task.targetId = "" ∧ task.status = .queued := by
    decide +kernel
  have hended : ∃ t ∈ (System.step Demo.settings Demo.deleteQueued
      (.response "h" Demo.deleteFailed)).world.db.tasks, t.id = "x" ∧ t.status = .failed := by
    decide +kernel
  have hshown : ∃ v ∈ (System.step Demo.settings Demo.deleteQueued
      (.response "h" Demo.deleteFailed)).world.db.vms, v.id = "" ∧
        v.state.isStr "Deleting" = true := by decide +kernel
  obtain ⟨task, hmem, hkind, htype, hid, htarget, hstatus⟩ := htask
  obtain ⟨t, ht, htid, hfailed⟩ := hended
  obtain ⟨v, hv, hvid, hstate⟩ := hshown
  have hnot := (h Demo.settings Demo.deleteQueued _ hreach task hmem "Deleting"
    (by rw [hkind]; rfl) htype ⟨t, ht, htid.trans hid.symm, Or.inl hfailed, ?_⟩).1 v hv
    (hvid.trans htarget.symm)
  · rw [hnot] at hstate
    cases hstate
  · rw [hfailed, hstatus]
    decide

end OpenVCenter
