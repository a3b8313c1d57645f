import OpenVCenter.ResponseFrames

set_option relaxedAutoImplicit false
set_option autoImplicit false

/-!
# Responses that end a task

A response that is no progress message ends its task. What the agent attached to it may be any
JSON; this file says exactly which responses leave the task committed in its terminal status.

## Main definitions

* `OpenVCenter.StampFits` — the version an agent upgrade reports fits its column.
* `OpenVCenter.Settled` — the task is in the status of the response and has no pending event.

## Main results

* `OpenVCenter.applyResponse_landed`, `OpenVCenter.response_rejected` — the handler by the fate of
  the lifecycle change.
* `OpenVCenter.envelope_settles_iff` — a terminal envelope settles its task exactly when its
  lifecycle change lands and the version it stamps, if any, fits.
-/

namespace OpenVCenter

open Effect

variable {env : Env} {w : World} {hostId : String} {resp : AgentResponse} {task : Task}

/-- A task of the host is found. -/
theorem taskOfHost_eq_some {db : Db} {id : String} :
    db.taskOfHost hostId id = some task ↔ db.task id = some task ∧ task.hostId = hostId := by
  simp [Db.taskOfHost, Option.filter_eq_some_iff]

/-- It is found under its identifier. -/
lemma task_of_taskOfHost {db : Db} {id : String} (h : db.taskOfHost hostId id = some task) :
    db.task task.id = some task := by
  obtain ⟨ht, -⟩ := taskOfHost_eq_some.mp h
  rwa [Table.key_of_lookup ht]

/-! ## The handler by the fate of the lifecycle change -/

/-- A response to no task of the host does nothing. -/
lemma applyResponse_unknown (h : w.db.taskOfHost hostId resp.id = none) :
    applyResponse env hostId resp w = (.ok (), w) := by
  unfold applyResponse
  rw [Prog.read_bind_run, h]
  rfl

/-- A progress message updates its task. -/
lemma applyResponse_progress (h : w.db.taskOfHost hostId resp.id = some task)
    (hp : isProgress resp task.status = true) (hs : resp.strippable = true) :
    applyResponse env hostId resp w =
      (.ok (), { w with db := w.db.storeTask (progressTask w.now resp.stripped
        { task with responsePayload := resp.stripped.modelDump }) }) := by
  unfold applyResponse
  rw [Prog.read_bind_run, h]
  dsimp only
  rw [Prog.bind_run_ok (applyLifecycle_progress hp hs)]
  rfl

/-- A response whose objects cannot be stripped raises before it changes anything. -/
lemma applyResponse_not_strippable (h : w.db.taskOfHost hostId resp.id = some task)
    (hs : ¬ resp.strippable = true) :
    applyResponse env hostId resp w = (.error .typeError, w) := by
  unfold applyResponse
  rw [Prog.read_bind_run, h]
  unfold applyLifecycle
  rw [stripResponseThumbnails_eq, if_neg hs]
  rfl

/-- A response that ends its task and lands goes on to the refresh. -/
theorem applyResponse_landed (hc : w.db.Consistent)
    (h : w.db.taskOfHost hostId resp.id = some task) (hp : isProgress resp task.status = false)
    (hl : Lands env w.now resp) :
    applyResponse env hostId resp w =
      applyRefresh env hostId resp.stripped (endedTask env w.now resp.stripped task)
        { w with db := lifecycleDb env w.now resp.stripped task w.db } := by
  unfold applyResponse
  rw [Prog.read_bind_run, h]
  dsimp only
  rw [Prog.bind_run_ok (applyLifecycle_terminal hc (task_of_taskOfHost h) hp hl)]

/-- A response that ends its task and does not land raises, and has touched nothing but the
database. -/
theorem applyResponse_not_landed (hc : w.db.Consistent)
    (h : w.db.taskOfHost hostId resp.id = some task) (hp : isProgress resp task.status = false)
    (hl : ¬ Lands env w.now resp) :
    ∃ e db, applyResponse env hostId resp w = (.error e, { w with db := db }) := by
  obtain ⟨e, db, ht⟩ := applyLifecycle_raises hc (task_of_taskOfHost h) hp hl
  refine ⟨e, db, ?_⟩
  unfold applyResponse
  rw [Prog.read_bind_run, h]
  dsimp only
  rw [Prog.bind_run_error ht]

/-- The state a response is handled in: its transaction starts now. -/
def atStart (w : World) : World := { w with txStart := w.now - (0 : ℕ) }

/-- What a response does in the system. -/
lemma step_response (s : Committed) :
    (System.step env s (.response hostId resp)).world =
      (sessionScope (applyResponse env hostId resp) (atStart s.world)).2 := rfl

/-- A response that does not land changes nothing. -/
theorem response_rejected (s : Committed)
    (h : s.world.db.taskOfHost hostId resp.id = some task)
    (hp : isProgress resp task.status = false) (hl : ¬ Lands env s.world.now resp) :
    (System.step env s (.response hostId resp)).world = atStart s.world := by
  obtain ⟨e, db, ht⟩ := applyResponse_not_landed (w := atStart s.world) s.consistent h hp hl
  rw [step_response, sessionScope, savepoint_of_raise ht]
  rfl

/-! ## The version of an agent upgrade -/

/-- The version a successful agent upgrade reports, if any, fits `hosts.agent_version`. -/
def StampFits (env : Env) (db : Db) (hostId : String) (resp : AgentResponse) (task : Task) : Prop :=
  task.kind = .host_update_agent → resp.status = "succeeded" →
    (resultField resp "version").truthy = true → (db.host hostId).isSome = true →
    Column.fits 64 (env.py.str (resultField resp "version")) = true

/-- A task succeeds exactly if the response says so. -/
lemma terminalStatus_eq_succeeded : terminalStatus resp = .succeeded ↔ resp.status = "succeeded" := by
  unfold terminalStatus
  split_ifs with h <;> simp [h]

/-- The status is terminal. -/
lemma terminalStatus_isTerminal : (terminalStatus resp).isTerminal = true := by
  unfold terminalStatus
  split_ifs <;> rfl

/-- The version fits its column. -/
lemma stamped_bindable {host : Host} (h : host.bindable = true) (version : String) :
    { host with agentVersion := .str version }.bindable = Column.fits 64 version := by
  simp only [Host.bindable, Bool.and_eq_true] at h ⊢
  obtain ⟨⟨⟨⟨⟨⟨⟨⟨⟨h₁, h₂⟩, h₃⟩, h₄⟩, h₅⟩, -⟩, h₇⟩, h₈⟩, h₉⟩, h₁₀⟩ := h
  simp only [h₁, h₂, h₃, h₄, h₅, h₇, h₈, h₉, h₁₀, Bool.true_and, Bool.and_true]
  rfl

/-- The stamp is a flushed write of the host's version, or nothing. -/
lemma stampAgentVersion_run (hstatus : task.status = terminalStatus resp) :
    stampAgentVersion env hostId resp task w =
      if task.kind = .host_update_agent ∧ resp.status = "succeeded" ∧
          (resultField resp "version").truthy = true then
        match w.db.host hostId with
        | none => (.ok (), w)
        | some host =>
          flush { w with
            db := w.db.storeHost
              { host with agentVersion := .str (env.py.str (resultField resp "version")) } }
      else (.ok (), w) := by
  have hcond : (task.kind = .host_update_agent ∧ task.status = .succeeded ∧
      (resultField resp "version").truthy = true) ↔ task.kind = .host_update_agent ∧
      resp.status = "succeeded" ∧ (resultField resp "version").truthy = true := by
    rw [hstatus, terminalStatus_eq_succeeded]
  unfold stampAgentVersion
  split_ifs with h h' h'
  · rw [Prog.read_bind_run]
    cases w.db.host hostId with
    | none => rfl
    | some host => rfl
  · exact absurd (hcond.mp h) h'
  · exact absurd (hcond.mpr h') h
  · rfl

/-- The stamp goes through exactly when the version fits. -/
theorem stampAgentVersion_returns_iff (hc : w.db.Consistent)
    (hstatus : task.status = terminalStatus resp) :
    (∃ t, stampAgentVersion env hostId resp task w = (.ok (), t)) ↔
      StampFits env w.db hostId resp task := by
  rw [stampAgentVersion_run hstatus]
  by_cases hcond : task.kind = .host_update_agent ∧ resp.status = "succeeded" ∧
      (resultField resp "version").truthy = true
  · rw [if_pos hcond]
    obtain ⟨hkind, hsucc, htruthy⟩ := hcond
    rcases hhost : w.db.host hostId with _ | host
    · simp [StampFits, hhost]
    · obtain ⟨hmem, hid⟩ := hc.host_eq_some.mp hhost
      set stamped : Host :=
        { host with agentVersion := .str (env.py.str (resultField resp "version")) } with hst
      have hlookup : w.db.host stamped.id = some host := hc.host_eq_some.mpr ⟨hmem, rfl⟩
      have hiff := hc.storeHost_iff hlookup rfl rfl
      rw [hst, stamped_bindable (hc.host_bindable hmem)] at hiff
      have hfits : StampFits env w.db hostId resp task ↔
          Column.fits 64 (env.py.str (resultField resp "version")) = true := by
        simp [StampFits, hkind, hsucc, htruthy, hhost]
      rw [hfits, ← hiff]
      constructor
      · rintro ⟨t, ht⟩
        exact (flush_eq_ok.mp ht).1
      · intro h
        exact ⟨_, flush_of_consistent h⟩
  · rw [if_neg hcond]
    constructor
    · intro _ hkind hsucc htruthy
      exact absurd ⟨hkind, hsucc, htruthy⟩ hcond
    · exact fun _ => ⟨w, rfl⟩

/-- A version that is stamped keeps the constraints. -/
lemma stampAgentVersion_consistent {t : World} (hc : w.db.Consistent)
    (hstatus : task.status = terminalStatus resp)
    (h : stampAgentVersion env hostId resp task w = (.ok (), t)) : t.db.Consistent := by
  rw [stampAgentVersion_run hstatus] at h
  split_ifs at h with hcond
  · cases hhost : w.db.host hostId with
    | none =>
      rw [hhost] at h
      obtain rfl : w = t := congrArg Prod.snd h
      exact hc
    | some host =>
      rw [hhost] at h
      obtain ⟨hcons, rfl⟩ := flush_eq_ok.mp h
      exact hcons
  · obtain rfl : w = t := congrArg Prod.snd h
    exact hc

/-! ## The end of the task -/

/-- Between the states before and after a response: its task took the terminal status that the
response gives, and the audit events that were waiting for the task took its outcome. -/
structure Settled (given : TaskStatus) (task : Task) (before after : Db) : Prop where
  status : ∃ t ∈ after.tasks, t.id = task.id ∧ t.status = given
  outcome : ∀ e ∈ before.auditEvents, e.taskId = some task.id → e.outcome = .pending →
    ∃ e' ∈ after.auditEvents, e'.id = e.id ∧ e'.outcome = given.outcome
  none_pending : ∀ e ∈ after.auditEvents, e.taskId = some task.id → e.outcome ≠ .pending

/-- A response that ends its task settles its events. -/
lemma outcome_ne_pending : (terminalStatus resp).outcome ≠ .pending := by
  unfold terminalStatus
  split_ifs <;> simp [TaskStatus.outcome]

/-- The lifecycle change settles the task. -/
lemma settled_lifecycleDb {now : Time} {db after : Db} (hc : db.Consistent)
    (ht : db.task task.id = some task)
    (htasks : after.tasks = (lifecycleDb env now resp.stripped task db).tasks)
    (hevents : after.auditEvents = (lifecycleDb env now resp.stripped task db).auditEvents) :
    Settled (terminalStatus resp) task db after where
  status := by
    obtain ⟨hmem, -⟩ := hc.task_eq_some.mp ht
    refine ⟨endedTask env now resp.stripped task, ?_, rfl, rfl⟩
    rw [htasks]
    exact Table.mem_store.mpr (Or.inr ⟨rfl, task, hmem, rfl⟩)
  outcome := by
    intro e he hid hpending
    rw [hevents]
    refine ⟨_, mem_settled.mpr (Or.inr ⟨e, he, ⟨hpending, task.id, hid, ?_⟩, rfl⟩), rfl, rfl⟩
    exact List.mem_singleton_self _
  none_pending := by
    intro e he hid
    rw [hevents] at he
    rcases mem_settled.mp he with ⟨-, hnot⟩ | ⟨p, -, -, rfl⟩
    · exact fun hp => hnot ⟨hp, task.id, hid, List.mem_singleton_self _⟩
    · exact outcome_ne_pending

/-- Behind the lifecycle change only the stamp can raise; the rest leaves the tasks and the
events as they are, a consistent database, and ends with the release of the lock. -/
theorem applyRefresh_cases {F : Frame World} (hc : w.db.Consistent)
    (hstatus : task.status = terminalStatus resp)
    (hstamp : Keeps F (stampAgentVersion env hostId resp task))
    (hbest : Keeps F (applyBestEffort env hostId resp task)) :
    (∃ e t, applyRefresh env hostId resp task w = (.error e, t) ∧ F.rel w t ∧
      ¬ StampFits env w.db hostId resp task) ∨
    ∃ t, F.rel w t ∧ t.db.Consistent ∧ t.db.tasks = w.db.tasks ∧
      t.db.auditEvents = w.db.auditEvents ∧ StampFits env w.db hostId resp task ∧
      applyRefresh env hostId resp task w =
        (.ok (), if task.targetType = .vm then
          { t with cache := releaseLock task.targetId task.id t.cache } else t) := by
  have hsame : Keeps (Frame.same fun w => (w.db.tasks, w.db.auditEvents))
      (stampAgentVersion env hostId resp task) := keeps_stampAgentVersion (fun _ _ _ => rfl) _ _ _
  have hframe := hstamp w
  have hsame := hsame w
  rcases h₁ : stampAgentVersion env hostId resp task w with ⟨e | ⟨⟩, t₁⟩
  · rw [h₁] at hframe
    refine Or.inl ⟨e, t₁, Prog.bind_run_error h₁, hframe, fun hfits => ?_⟩
    obtain ⟨t, ht⟩ := (stampAgentVersion_returns_iff hc hstatus).mpr hfits
    rw [h₁] at ht
    cases ht
  · rw [h₁] at hframe hsame
    obtain ⟨htasks₁, hevents₁⟩ := Prod.mk.inj hsame
    have hc₁ := stampAgentVersion_consistent hc hstatus h₁
    obtain ⟨⟨⟩, h₂⟩ := applyBestEffort_returns env hostId resp task t₁
    obtain ⟨htasks₂, hevents₂⟩ := applyBestEffort_tasks env hostId resp task t₁
    refine Or.inr ⟨(applyBestEffort env hostId resp task t₁).2, F.trans hframe (hbest t₁),
      applyBestEffort_consistent env hostId resp task hc₁, htasks₂.trans htasks₁,
      hevents₂.trans hevents₁, (stampAgentVersion_returns_iff hc hstatus).mp ⟨t₁, h₁⟩, ?_⟩
    unfold applyRefresh
    rw [Prog.bind_run_ok h₁, Prog.bind_run_ok h₂]
    split_ifs <;> rfl

/-- When the version fits, the refresh returns. -/
theorem applyRefresh_returns (hc : w.db.Consistent) (hstatus : task.status = terminalStatus resp)
    (hfits : StampFits env w.db hostId resp task) :
    ∃ t, applyRefresh env hostId resp task w = (.ok (), t) ∧ t.db.Consistent ∧
      t.db.tasks = w.db.tasks ∧ t.db.auditEvents = w.db.auditEvents := by
  rcases applyRefresh_cases (F := Frame.same fun _ => ()) hc hstatus (fun _ => rfl) fun _ => rfl with
    ⟨-, -, -, -, hnot⟩ | ⟨t, -, hct, htasks, hevents, -, hrun⟩
  · exact absurd hfits hnot
  · refine ⟨_, hrun, ?_⟩
    split_ifs
    · exact ⟨hct, htasks, hevents⟩
    · exact ⟨hct, htasks, hevents⟩

/-- A version that does not fit raises. -/
lemma applyRefresh_raises (hc : w.db.Consistent) (hstatus : task.status = terminalStatus resp)
    (hfits : ¬ StampFits env w.db hostId resp task) :
    ∃ e t, applyRefresh env hostId resp task w = (.error e, t) := by
  rcases h : stampAgentVersion env hostId resp task w with ⟨e | ⟨⟩, t⟩
  · exact ⟨e, t, Prog.bind_run_error h⟩
  · exact absurd ((stampAgentVersion_returns_iff hc hstatus).mp ⟨t, h⟩) hfits

/-- Stripping the thumbnails does not change whether the stamp fits. -/
lemma stampFits_stripped {db : Db} {now : Time} :
    StampFits env (lifecycleDb env now resp.stripped task db) hostId resp.stripped
      (endedTask env now resp.stripped task) ↔ StampFits env db hostId resp task := by
  unfold StampFits
  rw [resultField_stripped resp (by decide) (by decide)]
  rfl

/-- No response settles an active task whose rows are left as they were. -/
lemma not_settled_of_same {s : Committed} {given : TaskStatus} {after : Db}
    (htask : s.world.db.task task.id = some task) (hactive : task.status.isTerminal = false)
    (hgiven : given.isTerminal = true) (hsame : after = s.world.db) :
    ¬ Settled given task s.world.db after := by
  rintro ⟨⟨t, hmem, hid, hstatus⟩, -, -⟩
  rw [hsame] at hmem
  obtain ⟨htm, -⟩ := s.consistent.task_eq_some.mp htask
  rw [Table.eq_of_mem_of_key s.consistent.keyed.taskIds hmem htm hid] at hstatus
  rw [hstatus, hgiven] at hactive
  cases hactive

/-- A terminal envelope leaves its active task committed in its terminal status, its audit events
settled, exactly when its lifecycle change lands and the version it stamps, if any, fits. -/
theorem envelope_settles_iff (s : Committed)
    (h : s.world.db.taskOfHost hostId resp.id = some task)
    (hactive : task.status.isTerminal = false) (hterminal : resp.status ≠ "running") :
    Settled (terminalStatus resp) task s.world.db
        (System.step env s (.response hostId resp)).world.db ↔
      Lands env s.world.now resp ∧ StampFits env s.world.db hostId resp task := by
  have hp : isProgress resp task.status = false := by simp [isProgress, hterminal]
  have hc := s.consistent
  have htask := task_of_taskOfHost h
  -- a rolled-back response leaves the task active
  have hrolled : ∀ e t, applyResponse env hostId resp (atStart s.world) = (.error e, t) →
      ¬ Settled (terminalStatus resp) task s.world.db
        (System.step env s (.response hostId resp)).world.db := by
    intro e t ht
    refine not_settled_of_same htask hactive terminalStatus_isTerminal ?_
    rw [step_response, sessionScope, savepoint_of_raise ht]
    rfl
  by_cases hl : Lands env s.world.now resp
  · have hlanded := applyResponse_landed (w := atStart s.world) hc h hp hl
    have hc₁ : (lifecycleDb env s.world.now resp.stripped task s.world.db).Consistent :=
      (lifecycleDb_consistent_iff hc htask).mpr hl.2
    by_cases hfits : StampFits env s.world.db hostId resp task
    · obtain ⟨t, ht, hct, htasks, hevents⟩ :=
        applyRefresh_returns (w := { atStart s.world with db := _ }) hc₁ rfl
          (stampFits_stripped.mpr hfits)
      have hstep : (System.step env s (.response hostId resp)).world = t := by
        rw [step_response, sessionScope, savepoint_eq_ok.mpr ⟨hlanded.trans ht, hct⟩]
      rw [hstep]
      exact iff_of_true (settled_lifecycleDb hc htask htasks hevents) ⟨hl, hfits⟩
    · obtain ⟨e, t, ht⟩ :=
        applyRefresh_raises (w := { atStart s.world with db := _ }) hc₁ rfl
          (mt stampFits_stripped.mp hfits)
      exact iff_of_false (hrolled e t (hlanded.trans ht)) fun h => hfits h.2
  · obtain ⟨e, db, ht⟩ := applyResponse_not_landed (w := atStart s.world) hc h hp hl
    exact iff_of_false (hrolled e _ ht) fun h => hl h.1

end OpenVCenter
