import OpenVCenter.FailedResponse
import OpenVCenter.WorkerFrames

set_option relaxedAutoImplicit false
set_option autoImplicit false

/-!
# Placeholders and real rows

The row of a create or clone is a placeholder until it carries a GUID. Two paths drop
placeholders: the response that fails the task drops whatever row the task has, the timeout
sweep only a row without a GUID. This file says which rows a response and a sweep can take away,
and when none of them is a real VM.

## Main definitions

* `OpenVCenter.rowsKept` — the frame of programs that take no row away.
* `OpenVCenter.GuidKept` — a response or a sweep takes a row with a GUID away only through a
  succeeded delete of it.

## Main results

* `OpenVCenter.step_response_rows` — a response takes at most the row of its task's target away.
* `OpenVCenter.step_sweep_rows` — a sweep takes no row with a GUID away.
* `OpenVCenter.run_guidKept_iff` — the runs in which no real VM is lost.
-/

namespace OpenVCenter

open Effect

variable {env : Env} {w : World} {hostId : String} {resp : AgentResponse} {task : Task} {db : Db}

/-! ## The frame of the rows -/

/-- The keys of the VM rows. -/
def Db.vmIds (db : Db) : List String := db.vms.map Vm.id

/-- No row whose key satisfies `P` is taken away. -/
def rowsKept (P : String → Prop) : Frame World where
  rel w t := ∀ id, P id → id ∈ w.db.vmIds → id ∈ t.db.vmIds
  refl _ _ _ h := h
  trans h h' id hP hid := h' id hP (h id hP hid)

/-- A rollback brings the rows back. -/
lemma rowsKept_rollback {P : String → Prop} (s t : World) : (rowsKept P).rel s (rollback s t) :=
  fun _ _ h => h

/-- A store adds no row and takes none. -/
lemma vmIds_storeVm (v : Vm) : (db.storeVm v).vmIds = db.vmIds := Table.map_key_store

/-- The rows after a removal. -/
lemma mem_vmIds_deleteVm {id x : String} :
    x ∈ (db.deleteVm id).vmIds ↔ x ∈ db.vmIds ∧ x ≠ id := by
  simp only [Db.vmIds, Db.deleteVm, Db.deleteVms, List.mem_map, Table.mem_deleteWhere,
    decide_eq_false_iff_not]
  constructor
  · rintro ⟨v, ⟨hv, hne⟩, rfl⟩
    exact ⟨⟨v, hv, rfl⟩, hne⟩
  · rintro ⟨⟨v, hv, rfl⟩, hne⟩
    exact ⟨v, ⟨hv, hne⟩, rfl⟩

/-! ## Responses -/

/-- The refresh behind the lifecycle change takes at most the target of its task away. -/
lemma rowsKept_applyRefresh (hostId : String) (resp : AgentResponse) (task : Task) :
    Keeps (rowsKept fun id => task.RemovesTarget → id ≠ task.targetId)
      (applyRefresh env hostId resp task) := by
  refine keeps_applyRefresh (fun s t _ => rowsKept_rollback s t) (fun _ _ _ _ _ h => h)
    (fun _ _ _ _ _ h => h) (fun _ _ _ _ h => h) ?_ fun _ _ _ h => h
  refine keeps_applyResponseState (fun _ _ _ _ h => h) (fun w v id _ h => ?_)
    (fun hrem w id hP h => ?_) (fun _ _ _ _ _ _ h => h) hostId resp
  · change id ∈ (w.db.storeVm v).vmIds
    rw [vmIds_storeVm]
    exact h
  · exact mem_vmIds_deleteVm.mpr ⟨h, hP hrem⟩

/-- A response that ends no task, or does not land, leaves the rows as they are. -/
lemma step_response_vms (s : Committed)
    (h : ∀ task, s.world.db.taskOfHost hostId resp.id = some task →
      isProgress resp task.status = false → ¬ Lands env s.world.now resp) :
    (System.step env s (.response hostId resp)).world.db.vms = s.world.db.vms := by
  have hsame : (applyResponse env hostId resp (atStart s.world)).2.db.vms = s.world.db.vms ∨
      ∃ e t, applyResponse env hostId resp (atStart s.world) = (.error e, t) := by
    rcases hfound : s.world.db.taskOfHost hostId resp.id with _ | task
    · exact Or.inl (by rw [applyResponse_unknown (w := atStart s.world) hfound]; rfl)
    · cases hp : isProgress resp task.status with
      | true =>
        by_cases hs : resp.strippable = true
        · exact Or.inl (by rw [applyResponse_progress (w := atStart s.world) hfound hp hs]; rfl)
        · exact Or.inr ⟨_, _, applyResponse_not_strippable (w := atStart s.world) hfound hs⟩
      | false =>
        obtain ⟨e, db, ht⟩ := applyResponse_not_landed (w := atStart s.world) s.consistent
          hfound hp (h task hfound hp)
        exact Or.inr ⟨e, _, ht⟩
  rw [step_response, sessionScope]
  rcases savepoint_cases (applyResponse env hostId resp) (atStart s.world) with
    ⟨⟨⟩, t, hm, -, hr⟩ | ⟨e, hr⟩
  · rw [hr]
    rcases hsame with hsame | ⟨e, t', ht⟩
    · rwa [hm] at hsame
    · rw [hm] at ht; cases ht
  · rw [hr]; rfl

/-- A response that lands takes at most the target of its task away. -/
theorem step_response_rows (s : Committed)
    (h : s.world.db.taskOfHost hostId resp.id = some task)
    (hp : isProgress resp task.status = false) (hl : Lands env s.world.now resp) {id : String}
    (hid : id ∈ s.world.db.vmIds)
    (hkept : (endedTask env s.world.now resp.stripped task).RemovesTarget → id ≠ task.targetId) :
    id ∈ (System.step env s (.response hostId resp)).world.db.vmIds := by
  have hrun : (rowsKept fun id =>
      (endedTask env s.world.now resp.stripped task).RemovesTarget → id ≠ task.targetId).rel
      (atStart s.world) (applyResponse env hostId resp (atStart s.world)).2 := by
    rw [applyResponse_landed (w := atStart s.world) s.consistent h hp hl]
    intro x hx hin
    exact rowsKept_applyRefresh hostId resp.stripped
      (endedTask env s.world.now resp.stripped task) _ x hx hin
  rw [step_response, sessionScope]
  exact rel_savepoint (fun s t _ => rowsKept_rollback s t) hrun id hkept hid

/-! ## Sweeps -/

/-- A sweep takes no row with a GUID away. -/
theorem step_sweep_rows (s : Committed) {v : Vm} (hv : v ∈ s.world.db.vms)
    (hguid : v.vmUuid.isSome = true) : v ∈ (System.step env s .sweep).world.db.vms := by
  have hkeeps : Keeps (Frame.same fun w => w.db.vms) (timeOutStaleTasks env) :=
    keeps_timeOutStaleTasks (fun _ _ => rfl) (fun _ _ => rfl) fun _ _ _ => rfl
  have hstep : (System.step env s .sweep).world =
      (savepoint (sweepStaleTasks env) (atStart s.world)).2 := rfl
  rw [hstep]
  rcases savepoint_cases (sweepStaleTasks env) (atStart s.world) with ⟨⟨⟩, t, hm, -, hr⟩ | ⟨e, hr⟩
  · rw [hr]
    obtain ⟨⟨⟩, t₁, h₁, h₂⟩ := Prog.bind_eq_ok.mp hm
    have hvms : t₁.db.vms = s.world.db.vms := by
      have := hkeeps (atStart s.world)
      rwa [h₁] at this
    obtain rfl : { t₁ with db := t₁.db.deleteVms (isOrphan t₁.db) } = t := congrArg Prod.snd h₂
    refine Table.mem_deleteWhere.mpr ⟨hvms ▸ hv, ?_⟩
    obtain ⟨u, hu⟩ := Option.isSome_iff_exists.mp hguid
    simp [isOrphan, hu]
  · rw [hr]
    exact hv

/-! ## Runs -/

/-- The response is the success of a delete of the row. -/
def DeleteSucceeds (db : Db) (hostId : String) (resp : AgentResponse) (id : String) : Prop :=
  ∃ task, db.taskOfHost hostId resp.id = some task ∧ task.kind = .vm_delete ∧
    task.targetId = id ∧ resp.status = "succeeded"

/-- A response or a sweep takes a row with a GUID away only through a succeeded delete of it. -/
structure GuidKept (env : Env) (s : Committed) (e : Event) : Prop where
  response : ∀ hostId resp, e = .response hostId resp → ∀ v ∈ s.world.db.vms,
    v.vmUuid.isSome = true → v.id ∈ (System.step env s e).world.db.vmIds ∨
      DeleteSucceeds s.world.db hostId resp v.id
  sweep : e = .sweep → ∀ v ∈ s.world.db.vms, v.vmUuid.isSome = true →
    v.id ∈ (System.step env s e).world.db.vmIds

/-- If the event is the failing end of a create or clone, and lands, the row of its target, if it
is there, has no GUID. -/
def GuidAdmitted (env : Env) (s : Committed) (e : Event) : Prop :=
  ∀ hostId resp task, e = .response hostId resp →
    s.world.db.taskOfHost hostId resp.id = some task → task.kind.makesPlaceholder = true →
    isProgress resp task.status = false → resp.status ≠ "succeeded" →
    Lands env s.world.now resp → ∀ vm ∈ s.world.db.vm task.targetId, vm.vmUuid = none

/-- A task that has ended removes its VM if it failed to make it, or has deleted it. -/
lemma removesTarget_endedTask {now : Time} :
    (endedTask env now resp.stripped task).RemovesTarget ↔
      (task.kind.makesPlaceholder = true ∧ resp.status ≠ "succeeded") ∨
      (task.kind = .vm_delete ∧ resp.status = "succeeded") := by
  have hiff : (endedTask env now resp.stripped task).status = .succeeded ↔
      resp.status = "succeeded" := terminalStatus_eq_succeeded
  unfold Task.RemovesTarget
  rw [Ne, hiff]
  rfl

/-- What a failing create or clone leaves of the row of its target. -/
lemma failedVms_placeholder (hk : task.kind.makesPlaceholder = true) {vm : Vm}
    (hvm : db.vm task.targetId = some vm) : failedVms db task = (db.deleteVm vm.id).vms := by
  simp [failedVms, hk, hvm]

/-- A step loses no real VM exactly when no failing create or clone finds a GUID on its row. -/
theorem guidKept_iff (s : Committed) (e : Event) : GuidKept env s e ↔ GuidAdmitted env s e := by
  have hc := s.consistent
  constructor
  · rintro hkept hostId resp task rfl hfound hk hp hfail hl vm hvm
    by_contra hguid
    have hsome : vm.vmUuid.isSome = true := Option.isSome_iff_ne_none.mpr hguid
    obtain ⟨hmem, hid⟩ := hc.vm_eq_some.mp hvm
    rcases hkept.response hostId resp rfl vm hmem hsome with hin | ⟨t, ht, hdel, -, -⟩
    · obtain ⟨-, -, hvms, -⟩ := step_response_failed s hfound hp hfail hl
      rw [Db.vmIds, hvms, failedVms_placeholder hk hvm] at hin
      exact (mem_vmIds_deleteVm.mp hin).2 rfl
    · rw [hfound] at ht
      cases ht
      rw [hdel] at hk
      cases hk
  · intro hadm
    refine ⟨?_, ?_⟩
    · rintro hostId resp rfl v hv hguid
      have hid : v.id ∈ s.world.db.vmIds := List.mem_map_of_mem hv
      by_cases hend : ∃ task, s.world.db.taskOfHost hostId resp.id = some task ∧
          isProgress resp task.status = false ∧ Lands env s.world.now resp
      · obtain ⟨task, hfound, hp, hl⟩ := hend
        by_cases hdel : task.kind = .vm_delete ∧ resp.status = "succeeded" ∧ task.targetId = v.id
        · exact Or.inr ⟨task, hfound, hdel.1, hdel.2.2, hdel.2.1⟩
        · refine Or.inl (step_response_rows s hfound hp hl hid fun hrem htarget => ?_)
          rcases removesTarget_endedTask.mp hrem with ⟨hk, hfail⟩ | ⟨hk, hsucc⟩
          · -- the row of a failing create is this one, and it carries a GUID
            have hvm : s.world.db.vm task.targetId = some v :=
              hc.vm_eq_some.mpr ⟨hv, htarget⟩
            have hnone := hadm hostId resp task rfl hfound hk hp hfail hl v hvm
            rw [hnone] at hguid
            cases hguid
          · exact hdel ⟨hk, hsucc, htarget.symm⟩
      · refine Or.inl ?_
        rw [Db.vmIds, step_response_vms s fun task hfound hp hl => hend ⟨task, hfound, hp, hl⟩]
        exact hid
    · rintro rfl v hv hguid
      exact List.mem_map_of_mem (step_sweep_rows s hv hguid)

/-- The responses and sweeps of a run lose no real VM but by its succeeded delete exactly when no
failing create or clone of the run finds a GUID on its row. -/
theorem run_guidKept_iff (env : Env) (s : Committed) (es : List Event) :
    Machine.AllSteps (System.step env) (GuidKept env) s es ↔
      Machine.AllSteps (System.step env) (GuidAdmitted env) s es :=
  Machine.AllSteps.congr (I := fun _ => True) (fun _ _ _ _ => trivial)
    (fun s e _ => guidKept_iff s e) trivial

/-- The create of a VM, ended with success: the VM `""` carries the GUID `"g"`. -/
@[irreducible] def Demo.created : Committed :=
  System.run Demo.settings Demo.start
    [.createVm 0 Demo.user { name := "vm", hostId := "h" },
      .response "h" { id := "x", function := "vm_create", status := "succeeded", vmId := some "g" }]

/-- A redelivered progress message of the create. -/
def Demo.createProgress : AgentResponse :=
  { id := "x", function := "vm_create", status := "running" }

/-- Not every response keeps the real VMs: a late progress message of a create that has succeeded
takes the new VM away. -/
theorem guidKept_counterexample :
    ¬ ∀ (env : Env) (s : Committed) (e : Event), System.Reachable env s → GuidKept env s e := by
  intro h
  have hreach : System.Reachable Demo.settings Demo.created := by
    unfold Demo.created
    exact ⟨Demo.start, _, Demo.start_initial, rfl⟩
  have hrow : ∃ v ∈ Demo.created.world.db.vms, v.vmUuid = some "g" := by decide +kernel
  have hgone : (System.step Demo.settings Demo.created
      (.response "h" Demo.createProgress)).world.db.vmIds = [] := by decide +kernel
  have hkind : ∀ t ∈ Demo.created.world.db.taskOfHost "h" Demo.createProgress.id,
      t.kind = .vm_create := by decide +kernel
  obtain ⟨v, hv, hguid⟩ := hrow
  rcases (h Demo.settings Demo.created _ hreach).response "h" Demo.createProgress rfl v hv
    (by rw [hguid]; rfl) with hin | ⟨task, hfound, hdel, -⟩
  · rw [hgone] at hin
    cases hin
  · rw [hkind task hfound] at hdel
    cases hdel

end OpenVCenter
