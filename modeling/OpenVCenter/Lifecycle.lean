import OpenVCenter.Integrity
import OpenVCenter.System

set_option relaxedAutoImplicit false
set_option autoImplicit false

/-!
# The lifecycle of a task

What `apply_response` does to the task before its first savepoint, and when that part goes
through: the agent's objects are touched while thumbnails are stripped, the envelope and the
task are written while the lifecycle change is flushed.

## Main definitions

* `OpenVCenter.AgentResponse.strippable`, `OpenVCenter.storable`, `OpenVCenter.Lands` — a response
  whose lifecycle change goes through.
* `OpenVCenter.lifecycleDb` — the database after it.

## Main results

* `OpenVCenter.applyLifecycle_terminal` — the first part of the handler for a response that ends
  its task.
-/

namespace OpenVCenter

open Effect

/-! ## Stripping thumbnails -/

/-- A value that can be iterated. -/
def Json.isIterable : Json → Bool
  | .arr _ | .str _ | .obj _ => true
  | _ => false

/-- The object's `vms` is false or can be iterated. -/
def hasIterableVms (src : Dict) : Bool := ((src.get "vms").orElse (.arr [])).isIterable

/-- Neither of the agent's objects makes `_strip_response_thumbnails` raise. -/
def AgentResponse.strippable (resp : AgentResponse) : Bool :=
  resp.vmStatus.all hasIterableVms && resp.result.asDict?.all hasIterableVms

/-- The response without its thumbnails. -/
def AgentResponse.stripped (resp : AgentResponse) : AgentResponse :=
  { resp with
    vmStatus := resp.vmStatus.map dropThumbnails
    result := match resp.result with
      | .object d => .object (dropThumbnails d)
      | r => r }

/-- Stripping keeps the status. -/
@[simp] lemma stripped_status (resp : AgentResponse) : resp.stripped.status = resp.status := rfl

/-- It keeps the identifier. -/
@[simp] lemma stripped_id (resp : AgentResponse) : resp.stripped.id = resp.id := rfl

/-- It keeps the error. -/
@[simp] lemma stripped_error (resp : AgentResponse) : resp.stripped.error = resp.error := rfl

/-- It keeps the time of the end. -/
@[simp] lemma stripped_finishedAt (resp : AgentResponse) :
    resp.stripped.finishedAt = resp.finishedAt := rfl

/-- It keeps a result that is a text. -/
@[simp] lemma stripped_asText (resp : AgentResponse) :
    resp.stripped.result.asText? = resp.result.asText? := by
  cases h : resp.result <;> simp [AgentResponse.stripped, h, ResponseResult.asText?]

/-- Stripping changes no field of a result but `thumbnail` and `vms`. -/
lemma resultField_stripped (resp : AgentResponse) {key : String} (ht : key ≠ "thumbnail")
    (hv : key ≠ "vms") : resultField resp.stripped key = resultField resp key := by
  cases h : resp.result with
  | none => simp [resultField, AgentResponse.stripped, h]
  | text t => simp [resultField, AgentResponse.stripped, h]
  | object d =>
    simp only [resultField, AgentResponse.stripped, h, dropThumbnails]
    rw [Dict.get_map_of_ne _ hv, Dict.get_erase_of_ne ht]

/-- An iterable value is iterated. -/
lemma iterate_of_isIterable {v : Json} (h : v.isIterable = true) : ∃ l, v.iterate = .ok l := by
  cases v <;> simp_all [Json.isIterable, Json.iterate]

/-- Any other raises. -/
lemma iterate_of_not_isIterable {v : Json} (h : v.isIterable = false) :
    v.iterate = .error .typeError := by
  cases v <;> simp_all [Json.isIterable, Json.iterate]

/-- What is stripped where `vms` can be iterated. -/
lemma stripThumbnails_of_iterable {src : Dict} (h : hasIterableVms src = true) :
    stripThumbnails src = .ok (dropThumbnails src) := by
  unfold stripThumbnails
  rw [Dict.get_erase_of_ne (by decide)]
  obtain ⟨l, hl⟩ := iterate_of_isIterable h
  rw [hl]; rfl

/-- Where it cannot, stripping raises. -/
lemma stripThumbnails_of_not_iterable {src : Dict} (h : hasIterableVms src = false) :
    stripThumbnails src = .error .typeError := by
  unfold stripThumbnails
  rw [Dict.get_erase_of_ne (by decide), iterate_of_not_isIterable h]; rfl

/-- What is stripped of `vm_status`. -/
lemma stripVmStatus_eq (vmStatus : Option Dict) :
    stripVmStatus vmStatus =
      if vmStatus.all hasIterableVms then .ok (vmStatus.map dropThumbnails)
      else .error .typeError := by
  rcases vmStatus with _ | d
  · rfl
  · cases hd : hasIterableVms d with
    | true => simp [stripVmStatus, hd, stripThumbnails_of_iterable hd]
    | false => simp [stripVmStatus, hd, stripThumbnails_of_not_iterable hd]

/-- What is stripped of `result`. -/
lemma stripResult_eq (resp : AgentResponse) :
    stripResult resp.result =
      if resp.result.asDict?.all hasIterableVms then .ok resp.stripped.result
      else .error .typeError := by
  rcases h : resp.result with _ | t | d
  · simp [AgentResponse.stripped, h, ResponseResult.asDict?, stripResult, pure, Except.pure]
  · simp [AgentResponse.stripped, h, ResponseResult.asDict?, stripResult, pure, Except.pure]
  · cases hd : hasIterableVms d with
    | true =>
      simp [AgentResponse.stripped, h, ResponseResult.asDict?, hd, stripResult,
        stripThumbnails_of_iterable hd]
    | false =>
      simp [ResponseResult.asDict?, hd, stripResult, stripThumbnails_of_not_iterable hd]

/-- Stripping the thumbnails goes through exactly when both objects allow it. -/
theorem stripResponseThumbnails_eq (resp : AgentResponse) :
    stripResponseThumbnails resp =
      if resp.strippable then .ok resp.stripped else .error .typeError := by
  unfold stripResponseThumbnails
  rw [stripVmStatus_eq, stripResult_eq, AgentResponse.strippable]
  cases resp.vmStatus.all hasIterableVms <;> cases resp.result.asDict?.all hasIterableVms <;> rfl

/-! ## The lifecycle change -/

variable (env : Env)

/-- The task a response ends, as it is stored. -/
def endedTask (now : Time) (resp : AgentResponse) (task : Task) : Task :=
  finishTask env now resp { task with responsePayload := resp.modelDump }

/-- The values a response writes on its task fit their columns. -/
def storable (now : Time) (resp : AgentResponse) : Bool :=
  Column.jsonb resp.modelDump && Column.timestamp (terminalTime env now resp) &&
  Column.opt Column.isText resp.result.asText? && Column.opt Column.isText (terminalError env resp)

/-- The lifecycle change of a response goes through: its thumbnails can be stripped, and what is
left can be stored. -/
def Lands (now : Time) (resp : AgentResponse) : Prop :=
  resp.strippable = true ∧ storable env now resp.stripped = true

/-- Whether a response lands can be decided. -/
instance (now : Time) (resp : AgentResponse) : Decidable (Lands env now resp) :=
  inferInstanceAs (Decidable (_ ∧ _))

/-- The database after the lifecycle change. -/
def lifecycleDb (now : Time) (resp : AgentResponse) (task : Task) (db : Db) : Db :=
  { db with
    tasks := Table.store Task.id (endedTask env now resp task) db.tasks
    auditEvents := settleEvents [task.id] (terminalStatus resp).outcome (terminalError env resp)
      db.auditEvents }

variable {env} {now : Time} {resp : AgentResponse} {task : Task} {db : Db} {w : World}

/-- Of an ended task, only what the response wrote can fail to fit. -/
lemma endedTask_bindable (h : task.bindable = true) :
    (endedTask env now resp task).bindable = storable env now resp := by
  have hp : Column.opt (Column.fitsInt 4)
      (if terminalStatus resp = .succeeded then some 100 else task.progress) = true := by
    simp only [Task.bindable, Bool.and_eq_true] at h
    split_ifs
    · decide
    · exact h.1.1.1.1.1.1.1.1.2
  simp only [Task.bindable, Bool.and_eq_true] at h
  obtain ⟨⟨⟨⟨⟨⟨⟨⟨⟨⟨hname, hby⟩, -⟩, -⟩, hcreated⟩, hstarted⟩, -⟩, -⟩, -⟩, hreq⟩, -⟩ := h
  simp only [Task.bindable, endedTask, finishTask, hname, hby, hp, hcreated, hstarted, hreq,
    storable, Column.opt_none, Column.opt_some, Bool.true_and, Bool.and_true]
  cases Column.jsonb resp.modelDump <;> simp

/-- Settling keeps the identifiers of the events. -/
lemma settleEvents_ids {ids : List String} {outcome : AuditOutcome} {error : Option String}
    {events : List AuditEvent} :
    (settleEvents ids outcome error events).map AuditEvent.id = events.map AuditEvent.id :=
  Table.map_key_updateWhere fun _ => rfl

/-- A settled event fits its columns when the error does. -/
lemma settled_bindable {ids : List String} {outcome : AuditOutcome} {error : Option String}
    {events : List AuditEvent} (h : ∀ e ∈ events, e.bindable = true)
    (herr : Column.opt Column.isText error = true) :
    ∀ e ∈ settleEvents ids outcome error events, e.bindable = true := by
  intro e he
  rcases mem_settled.mp he with ⟨he, -⟩ | ⟨p, hp, -, rfl⟩
  · exact h e he
  · have hb := h p hp
    simp only [AuditEvent.bindable, Bool.and_eq_true] at hb ⊢
    exact ⟨⟨hb.1.1, herr⟩, hb.2⟩

/-- The lifecycle change passes exactly when what the response writes can be stored. -/
theorem lifecycleDb_consistent_iff (h : db.Consistent) (ht : db.task task.id = some task) :
    (lifecycleDb env now resp task db).Consistent ↔ storable env now resp = true := by
  have hstore := h.storeTask_iff (t := endedTask env now resp task) ht rfl
  rw [endedTask_bindable (h.task_bindable (h.task_eq_some.mp ht).1)] at hstore
  rw [← hstore]
  constructor
  · intro hc
    refine h.with_tasks hc.keyed.taskIds hc.keyed.taskHost fun t htm => ?_
    exact hc.task_bindable htm
  · intro hc
    have herr : Column.opt Column.isText (terminalError env resp) = true := by
      have := hstore.mp hc
      simp only [storable, Bool.and_eq_true] at this
      exact this.2
    refine hc.with_auditEvents ?_ (settled_bindable (fun e he => h.auditEvent_bindable he) herr)
    rw [settleEvents_ids]
    exact h.keyed.auditIds

/-- Progress is progress once stripped. -/
@[simp] lemma isProgress_stripped (status : TaskStatus) :
    isProgress resp.stripped status = isProgress resp status := rfl

/-- The first part of the handler for a progress message. -/
lemma applyLifecycle_progress (hp : isProgress resp task.status = true)
    (hs : resp.strippable = true) :
    applyLifecycle env resp task w =
      (.ok none, { w with db := w.db.storeTask (progressTask w.now resp.stripped
        { task with responsePayload := resp.stripped.modelDump }) }) := by
  unfold applyLifecycle
  rw [stripResponseThumbnails_eq, if_pos hs]
  simp only [Prog.read_bind_run, Prog.ofExcept_ok, Prog.pure_bind_run, isProgress_stripped, hp,
    if_true]
  rfl

/-- The first part of the handler, once the thumbnails are stripped. -/
lemma applyLifecycle_run (hp : isProgress resp task.status = false)
    (hs : resp.strippable = true) :
    applyLifecycle env resp task w =
      (do
        flush
        flush
        pure (some (resp.stripped, endedTask env w.now resp.stripped task)) :
          M (Option (AgentResponse × Task)))
      { w with db := lifecycleDb env w.now resp.stripped task w.db } := by
  unfold applyLifecycle
  rw [stripResponseThumbnails_eq, if_pos hs]
  simp only [Prog.read_bind_run, Prog.ofExcept_ok, Prog.pure_bind_run, isProgress_stripped, hp,
    Bool.false_eq_true, if_false]
  rfl

/-- A response that ends its task and lands: the lifecycle change is flushed. -/
theorem applyLifecycle_terminal (hc : w.db.Consistent) (ht : w.db.task task.id = some task)
    (hp : isProgress resp task.status = false) (hl : Lands env w.now resp) :
    applyLifecycle env resp task w =
      (.ok (some (resp.stripped, endedTask env w.now resp.stripped task)),
        { w with db := lifecycleDb env w.now resp.stripped task w.db }) := by
  have hcons : (lifecycleDb env w.now resp.stripped task w.db).Consistent :=
    (lifecycleDb_consistent_iff hc ht).mpr hl.2
  rw [applyLifecycle_run hp hl.1, Prog.bind_run_ok (flush_of_consistent hcons),
    Prog.bind_run_ok (flush_of_consistent hcons)]
  rfl

/-- A response that ends its task and does not land raises, and has touched nothing but the
database. -/
theorem applyLifecycle_raises (hc : w.db.Consistent) (ht : w.db.task task.id = some task)
    (hp : isProgress resp task.status = false) (hl : ¬ Lands env w.now resp) :
    ∃ e db, applyLifecycle env resp task w = (.error e, { w with db := db }) := by
  by_cases hs : resp.strippable = true
  · have hcons : ¬ (lifecycleDb env w.now resp.stripped task w.db).Consistent := fun h =>
      hl ⟨hs, (lifecycleDb_consistent_iff hc ht).mp h⟩
    rw [applyLifecycle_run hp hs]
    rw [Prog.bind_run, flush_run, if_neg hcons]
    exact ⟨_, _, rfl⟩
  · refine ⟨.typeError, w.db, ?_⟩
    unfold applyLifecycle
    rw [stripResponseThumbnails_eq, if_neg hs]
    rfl

end OpenVCenter
