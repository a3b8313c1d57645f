import OpenVCenter.AuditFrame

set_option relaxedAutoImplicit false
set_option autoImplicit false

/-!
# The audit trail

A pending event waits for its task: the task is there, queued or running. Once the task has ended,
the event has the outcome of the status the task first ended with; a later end of the same task
changes the task, not the event.

## Main definitions

* `OpenVCenter.Awaited` — every pending event waits for an active task.
* `OpenVCenter.Logged` — a committed state, and the status each task first ended with.
* `OpenVCenter.Faithful` — the invariant behind the outcomes.
* `OpenVCenter.EndsOnce` — a response ends no task again with another status.

## Main results

* `OpenVCenter.pending_event_waits` — in every reachable state, a pending event refers to a task
  that is queued or running.
* `OpenVCenter.event_outcome_first_end` — in every run, the outcome of an event is that of the
  first end of its task; it is that of the task while no response ends it again.
-/

namespace OpenVCenter

open Effect

variable {env : Env} {w : World} {hostId : String} {resp : AgentResponse} {task : Task} {db : Db}

/-! ## Pending events -/

/-- Every pending event waits for a task that is queued or running. -/
def Awaited (db : Db) : Prop :=
  ∀ e ∈ db.auditEvents, e.outcome = .pending →
    ∃ t ∈ db.tasks, e.taskId = some t.id ∧ t.status.isTerminal = false

/-- A trail that grows is awaited on. -/
lemma AuditGrows.awaited {w' : World} (hg : AuditGrows env w w') (h : Awaited w.db) :
    Awaited w'.db := by
  intro e he hpending
  rcases hg.events e he with he | ⟨-, hnot⟩ | ⟨-, t, ht, hid, hq⟩
  · obtain ⟨t, ht, hid, hactive⟩ := h e he hpending
    obtain ⟨t', ht', hid', hs'⟩ := hg.kept t ht
    refine ⟨t', ht', by rw [hid, hid'], ?_⟩
    rcases hs' with hq | hs'
    · rw [hq]; rfl
    · rw [hs']; exact hactive
  · exact absurd hpending hnot
  · exact ⟨t, ht, hid, by rw [hq]; rfl⟩

/-- An event that is still pending after a settlement was pending, of none of the tasks. -/
lemma pending_of_settled {ids : List String} {outcome : AuditOutcome} {error : Option String}
    {events : List AuditEvent} {e : AuditEvent} (hout : outcome ≠ .pending)
    (he : e ∈ settleEvents ids outcome error events) (hpending : e.outcome = .pending) :
    e ∈ events ∧ ∀ t ∈ e.taskId, t ∉ ids := by
  rcases mem_settled.mp he with ⟨he, hnot⟩ | ⟨p, -, -, rfl⟩
  · exact ⟨he, fun t ht hmem => hnot ⟨hpending, t, ht, hmem⟩⟩
  · exact absurd hpending hout

/-- The end of a task settles its pending events. -/
lemma awaited_lifecycleDb {now : Time} (h : Awaited db) :
    Awaited (lifecycleDb env now resp task db) := by
  intro e he hpending
  obtain ⟨he, hnot⟩ := pending_of_settled outcome_ne_pending he hpending
  obtain ⟨t, ht, hid, hactive⟩ := h e he hpending
  have hne : t.id ≠ task.id := fun heq => hnot t.id hid (by simp [heq])
  exact ⟨t, Table.mem_store.mpr (Or.inl ⟨ht, hne⟩), hid, hactive⟩

/-- A task whose progress is noted stays active. -/
lemma awaited_progress {now : Time} {payload : Json} {events : List AuditEvent} {tasks : List Task}
    (h : Awaited db) (htasks : tasks = (db.storeTask
      (progressTask now resp { task with responsePayload := payload })).tasks)
    (hevents : events = db.auditEvents) :
    Awaited { db with tasks := tasks, auditEvents := events } := by
  subst htasks hevents
  intro e he hpending
  obtain ⟨t, ht, hid, hactive⟩ := h e he hpending
  by_cases heq : t.id = task.id
  · exact ⟨_, Table.mem_store.mpr (Or.inr ⟨rfl, t, ht, heq⟩), hid.trans (congrArg some heq), rfl⟩
  · exact ⟨t, Table.mem_store.mpr (Or.inl ⟨ht, heq⟩), hid, hactive⟩

/-- A sweep settles the pending events of the tasks it times out. -/
lemma awaited_timedOutDb {now : Time} (h : Awaited db) : Awaited (timedOutDb env now db) := by
  intro e he hpending
  obtain ⟨he, hnot⟩ := pending_of_settled (by decide) he hpending
  obtain ⟨t, ht, hid, hactive⟩ := h e he hpending
  exact ⟨t, Table.mem_updateWhere.mpr (Or.inl ⟨ht, by simpa using hnot t.id hid⟩), hid, hactive⟩

/-- Only tasks and events matter. -/
lemma awaited_congr {db' : Db} (h : Awaited db) (htasks : db'.tasks = db.tasks)
    (hevents : db'.auditEvents = db.auditEvents) : Awaited db' := by
  unfold Awaited at h ⊢
  rw [htasks, hevents]
  exact h

/-- No step leaves an event pending without its task. -/
theorem awaited_step (s : Committed) (e : Event) (h : Awaited s.world.db) :
    Awaited (System.step env s e).world.db := by
  cases hends : e.endsTasks with
  | false => exact (auditGrows_step env s e hends).awaited h
  | true =>
    cases e with
    | response hostId resp =>
      rcases step_response_audit env s hostId resp with ⟨htasks, hevents⟩ | ⟨task, -, hend⟩
      · exact awaited_congr h htasks hevents
      · rcases hend with ⟨-, hevents, htasks⟩ | ⟨-, -, hevents, htasks⟩
        · exact awaited_congr (awaited_progress h rfl rfl) htasks hevents
        · exact awaited_congr (awaited_lifecycleDb h) htasks hevents
    | sweep =>
      rcases step_sweep_audit env s with ⟨htasks, hevents⟩ | ⟨htasks, hevents⟩
      · exact awaited_congr h htasks hevents
      · exact awaited_congr (awaited_timedOutDb h) htasks hevents
    | removeHost user hostId =>
      rcases step_removeHost_audit env s user hostId with
        ⟨htasks, hevents⟩ | ⟨removed, -, hsettled, htasks, hevents⟩
      · exact awaited_congr h htasks hevents
      · intro e he hpending
        rw [hevents] at he
        obtain ⟨he, hnot⟩ := pending_of_settled (by decide) he hpending
        rcases List.mem_append.mp he with he | he
        · obtain ⟨t, ht, hid, hactive⟩ := h e he hpending
          refine ⟨t, ?_, hid, hactive⟩
          rw [htasks]
          refine Table.mem_deleteWhere.mpr ⟨ht, ?_⟩
          -- an active task of the host would have had the event settled
          by_contra hhost
          refine hnot t.id hid (List.mem_map_of_mem (List.mem_filter.mpr ⟨ht, ?_⟩))
          simp only [Bool.not_eq_false, decide_eq_true_eq] at hhost
          simp [hhost, hactive]
        · rw [List.mem_singleton.mp he] at hpending
          exact absurd hpending hsettled
    | _ => cases hends

/-- In every reachable state, an audit event with outcome `pending` refers to a task that is there,
queued or running. -/
theorem pending_event_waits (env : Env) (s : Committed) (h : System.Reachable env s) :
    ∀ e ∈ s.world.db.auditEvents, e.outcome = .pending →
      ∃ t ∈ s.world.db.tasks, e.taskId = some t.id ∧ (t.status = .queued ∨ t.status = .running) := by
  have hawaited : Awaited s.world.db := by
    refine h.invariant (I := fun s => Awaited s.world.db) (fun s₀ h₀ e he => ?_)
      fun s e => awaited_step s e
    rw [h₀.auditEvents] at he
    cases he
  intro e he hpending
  obtain ⟨t, ht, hid, hactive⟩ := hawaited e he hpending
  refine ⟨t, ht, hid, ?_⟩
  cases hstatus : t.status <;> simp_all [TaskStatus.isTerminal]

/-- The event of a queued start waits for it. -/
theorem pending_event_waits_start :
    ∃ e ∈ Demo.startQueued.world.db.auditEvents, e.outcome = .pending ∧
      ∃ t ∈ Demo.startQueued.world.db.tasks, e.taskId = some t.id ∧
        (t.status = .queued ∨ t.status = .running) := by
  have hpending : ∃ e ∈ Demo.startQueued.world.db.auditEvents, e.outcome = .pending := by
    decide +kernel
  obtain ⟨e, he, hpending⟩ := hpending
  exact ⟨e, he, hpending, pending_event_waits Demo.settings Demo.startQueued
    Demo.startQueued_reachable e he hpending⟩

/-! ## First ends -/

/-- The status of a task that has ended. -/
def endedStatus (db : Db) (id : String) : Option TaskStatus :=
  (db.task id).bind fun t => if t.status.isTerminal then some t.status else none

/-- A committed state, and the status each task first ended with. -/
structure Logged where
  state : Committed
  first : String → Option TaskStatus

/-- One step; the first end of each task is noted. -/
def Logged.step (env : Env) (l : Logged) (e : Event) : Logged where
  state := System.step env l.state e
  first id := (l.first id).or (endedStatus (System.step env l.state e).world.db id)

/-- The tasks, the events and the first ends are under drawn identifiers; the events of an active
task are pending, those of an ended one have the outcome of its first end. -/
structure Faithful (env : Env) (l : Logged) : Prop where
  tasks : ∀ t ∈ l.state.world.db.tasks, Drawn env l.state.world t.id
  events : ∀ e ∈ l.state.world.db.auditEvents, ∀ id ∈ e.taskId, Drawn env l.state.world id
  first : ∀ id, l.first id ≠ none → Drawn env l.state.world id
  active : ∀ t ∈ l.state.world.db.tasks, t.status.isTerminal = false → l.first t.id = none ∧
    ∀ e ∈ l.state.world.db.auditEvents, e.taskId = some t.id → e.outcome = .pending
  ended : ∀ t ∈ l.state.world.db.tasks, t.status.isTerminal = true →
    ∃ st, l.first t.id = some st ∧ st.isTerminal = true ∧
      ∀ e ∈ l.state.world.db.auditEvents, e.taskId = some t.id → e.outcome = st.outcome

/-- A task that has ended has an outcome. -/
lemma outcome_of_terminal {st : TaskStatus} (h : st.isTerminal = true) : st.outcome ≠ .pending := by
  cases st <;> first | decide | cases h

section Steps

variable {l : Logged} {e : Event}

/-- The status in which a task of the tables has ended. -/
lemma endedStatus_of_mem (s : Committed) {t : Task} (ht : t ∈ s.world.db.tasks) :
    endedStatus s.world.db t.id = if t.status.isTerminal then some t.status else none := by
  have hlookup : s.world.db.task t.id = some t := s.consistent.task_eq_some.mpr ⟨ht, rfl⟩
  simp [endedStatus, hlookup]

/-- A first end stays the first. -/
lemma first_step_of_some {id : String} {st : TaskStatus} (h : l.first id = some st) :
    (l.step env e).first id = some st := by
  simp [Logged.step, h]

/-- The first end of a task that had not ended is that of this step. -/
lemma first_step_of_none {t : Task} (h : l.first t.id = none)
    (ht : t ∈ (l.step env e).state.world.db.tasks) :
    (l.step env e).first t.id = if t.status.isTerminal then some t.status else none := by
  have hended := endedStatus_of_mem (l.step env e).state ht
  simp only [Logged.step, h, Option.none_or]
  exact hended

/-- After a step the first ends are under drawn identifiers. -/
lemma first_step_drawn (h : Faithful env l)
    (htasks : ∀ t ∈ (l.step env e).state.world.db.tasks, Drawn env (l.step env e).state.world t.id)
    (id : String) (hid : (l.step env e).first id ≠ none) :
    Drawn env (l.step env e).state.world id := by
  rcases hfirst : l.first id with _ | st
  · simp only [Logged.step, hfirst, Option.none_or, endedStatus] at hid
    rcases hlookup : (System.step env l.state e).world.db.task id with _ | t
    · rw [hlookup] at hid
      exact absurd rfl hid
    · obtain ⟨hmem, rfl⟩ := (System.step env l.state e).consistent.task_eq_some.mp hlookup
      exact htasks t hmem
  · exact (h.first id (by rw [hfirst]; exact Option.some_ne_none st)).mono (nextId_le_step env _ e)

/-- A step that leaves the tasks as they are, and records events that wait.

**Proof sketch.** Clause by clause. A task that is there keeps its status, so its first end stays; a
new one is queued under a new identifier, of which no event speaks yet. New events wait, or belong
to no task. -/
lemma faithful_of_grows (h : Faithful env l)
    (hg : AuditGrows env l.state.world (l.step env e).state.world) :
    Faithful env (l.step env e) := by
  have hc := (l.step env e).state.consistent
  have htasks : ∀ t ∈ (l.step env e).state.world.db.tasks,
      Drawn env (l.step env e).state.world t.id := by
    intro t ht
    rcases hg.tasks t ht with ⟨t₀, ht₀, hid, -⟩ | ⟨-, hdrawn, -⟩
    · rw [← hid]
      exact (h.tasks t₀ ht₀).mono hg.drawn
    · exact hdrawn
  refine ⟨htasks, fun x hx id hid => ?_, first_step_drawn h htasks, fun t ht hactive => ?_,
    fun t ht hterminal => ?_⟩
  · rcases hg.events x hx with hx | ⟨hnone, -⟩ | ⟨-, t, ht, htid, -⟩
    · exact (h.events x hx id hid).mono hg.drawn
    · rw [hnone] at hid; cases hid
    · rw [htid] at hid
      cases hid
      exact htasks t ht
  · rcases hg.tasks t ht with ⟨t₀, ht₀, hid, hs⟩ | ⟨-, -, hfresh⟩
    · obtain ⟨hfirst, hpending⟩ := h.active t₀ ht₀ (hs ▸ hactive)
      rw [hid] at hfirst hpending
      refine ⟨?_, fun x hx hxid => ?_⟩
      · rw [first_step_of_none hfirst ht, hactive]; rfl
      · rcases hg.events x hx with hx | ⟨hnone, -⟩ | ⟨hp, -⟩
        · exact hpending x hx hxid
        · rw [hnone] at hxid; cases hxid
        · exact hp
    · have hfirst : l.first t.id = none := by
        by_contra hne
        exact hfresh (h.first t.id hne)
      refine ⟨?_, fun x hx hxid => ?_⟩
      · rw [first_step_of_none hfirst ht, hactive]; rfl
      · rcases hg.events x hx with hx | ⟨hnone, -⟩ | ⟨hp, -⟩
        · exact absurd (h.events x hx t.id hxid) hfresh
        · rw [hnone] at hxid; cases hxid
        · exact hp
  · rcases hg.tasks t ht with ⟨t₀, ht₀, hid, hs⟩ | ⟨hq, -⟩
    · obtain ⟨st, hfirst, hst, hout⟩ := h.ended t₀ ht₀ (hs ▸ hterminal)
      rw [hid] at hfirst hout
      refine ⟨st, first_step_of_some hfirst, hst, fun x hx hxid => ?_⟩
      rcases hg.events x hx with hx | ⟨hnone, -⟩ | ⟨-, t₁, ht₁, hid₁, hq⟩
      · exact hout x hx hxid
      · rw [hnone] at hxid; cases hxid
      · -- the event waits for a queued task of this key, which is this one
        rw [hid₁] at hxid
        have hsame : t₁ = t := Table.eq_of_mem_of_key hc.keyed.taskIds ht₁ ht (Option.some.inj hxid)
        rw [hsame] at hq
        rw [hq] at hterminal
        cases hterminal
    · rw [hq] at hterminal
      cases hterminal

/-- A step that notes the progress of an active task. -/
lemma faithful_of_progress (h : Faithful env l) {now : Time} {payload : Json}
    (hfound : l.state.world.db.taskOfHost hostId resp.id = some task)
    (hp : isProgress resp task.status = true)
    (hevents : (l.step env e).state.world.db.auditEvents = l.state.world.db.auditEvents)
    (htasks : (l.step env e).state.world.db.tasks = (l.state.world.db.storeTask
      (progressTask now resp.stripped { task with responsePayload := payload })).tasks) :
    Faithful env (l.step env e) := by
  have hnext : l.state.world.nextId ≤ (l.step env e).state.world.nextId := nextId_le_step env _ e
  obtain ⟨hmem, -⟩ := l.state.consistent.task_eq_some.mp (task_of_taskOfHost hfound)
  have hwas : task.status.isTerminal = false := by
    simp only [isProgress, Bool.and_eq_true, Bool.not_eq_true'] at hp
    exact hp.2
  -- every task was one of the same key, that had ended if it has
  have hold : ∀ t ∈ (l.step env e).state.world.db.tasks, ∃ t₀ ∈ l.state.world.db.tasks,
      t₀.id = t.id ∧ t₀.status.isTerminal = t.status.isTerminal := by
    intro t ht
    rw [htasks] at ht
    rcases Table.mem_store.mp ht with ⟨ht, -⟩ | ⟨rfl, -⟩
    · exact ⟨t, ht, rfl, rfl⟩
    · exact ⟨task, hmem, rfl, hwas⟩
  have hdrawn : ∀ t ∈ (l.step env e).state.world.db.tasks,
      Drawn env (l.step env e).state.world t.id := by
    intro t ht
    obtain ⟨t₀, ht₀, hid, -⟩ := hold t ht
    rw [← hid]
    exact (h.tasks t₀ ht₀).mono hnext
  refine ⟨hdrawn, fun x hx id hid => ?_, first_step_drawn h hdrawn, fun t ht hactive => ?_,
    fun t ht hterminal => ?_⟩
  · exact (h.events x (hevents ▸ hx) id hid).mono hnext
  · obtain ⟨t₀, ht₀, hid, hsame⟩ := hold t ht
    obtain ⟨hfirst, hpending⟩ := h.active t₀ ht₀ (hsame.trans hactive)
    rw [hid] at hfirst hpending
    exact ⟨by rw [first_step_of_none hfirst ht, hactive]; rfl, fun x hx => hpending x (hevents ▸ hx)⟩
  · obtain ⟨t₀, ht₀, hid, hsame⟩ := hold t ht
    obtain ⟨st, hfirst, hst, hout⟩ := h.ended t₀ ht₀ (hsame.trans hterminal)
    rw [hid] at hfirst hout
    exact ⟨st, first_step_of_some hfirst, hst, fun x hx => hout x (hevents ▸ hx)⟩

/-! ### Settlements -/

/-- A settlement leaves the events of other tasks as they are. -/
lemma settled_other {ids : List String} {outcome : AuditOutcome} {error : Option String}
    {events : List AuditEvent} {x : AuditEvent} {id : String}
    (hx : x ∈ settleEvents ids outcome error events) (hid : x.taskId = some id) (hnot : id ∉ ids) :
    x ∈ events := by
  rcases mem_settled.mp hx with ⟨hx, -⟩ | ⟨p, -, ⟨-, t, ht, hmem⟩, rfl⟩
  · exact hx
  · have hp : p.taskId = some id := hid
    rw [hp] at ht
    cases ht
    exact absurd hmem hnot

/-- An event of a settled task was settled before, or is settled now. -/
lemma settled_own {ids : List String} {outcome : AuditOutcome} {error : Option String}
    {events : List AuditEvent} {x : AuditEvent} {id : String}
    (hx : x ∈ settleEvents ids outcome error events) (hid : x.taskId = some id) (hmem : id ∈ ids) :
    (x ∈ events ∧ x.outcome ≠ .pending) ∨
      x.outcome = outcome ∧ ∃ p ∈ events, p.taskId = some id ∧ p.outcome = .pending := by
  rcases mem_settled.mp hx with ⟨hx, hnot⟩ | ⟨p, hp, ⟨hpending, -⟩, rfl⟩
  · exact Or.inl ⟨hx, fun hpending => hnot ⟨hpending, id, hid, hmem⟩⟩
  · exact Or.inr ⟨rfl, p, hp, hid, hpending⟩

/-- A step that settles the events of the tasks `ids`: the other tasks stay or go, those of `ids`
that stay have ended, with the outcome if they were active.

**Proof sketch.** Clause by clause. What is new among the events belongs to no task. A task that
stays outside `ids` keeps its events and its first end. One of `ids` that was active ends now for
the first time, with the outcome that its events get; one that had ended keeps its first end, and
its events, settled then, are left alone. -/
lemma faithful_of_settled (h : Faithful env l) {ids : List String} {outcome : AuditOutcome}
    {error : Option String} {events : List AuditEvent}
    (hevents : (l.step env e).state.world.db.auditEvents = settleEvents ids outcome error events)
    (hold : ∀ x ∈ events, x.taskId = none ∨ x ∈ l.state.world.db.auditEvents)
    (htasks : ∀ t ∈ (l.step env e).state.world.db.tasks,
      (t ∈ l.state.world.db.tasks ∧ t.id ∉ ids) ∨
      (t.id ∈ ids ∧ t.status.isTerminal = true ∧ ∃ t₀ ∈ l.state.world.db.tasks, t₀.id = t.id ∧
        (t₀.status.isTerminal = false → t.status.outcome = outcome))) :
    Faithful env (l.step env e) := by
  have hnext : l.state.world.nextId ≤ (l.step env e).state.world.nextId := nextId_le_step env _ e
  have hdrawn : ∀ t ∈ (l.step env e).state.world.db.tasks,
      Drawn env (l.step env e).state.world t.id := by
    intro t ht
    rcases htasks t ht with ⟨ht, -⟩ | ⟨-, -, t₀, ht₀, hid, -⟩
    · exact (h.tasks t ht).mono hnext
    · rw [← hid]
      exact (h.tasks t₀ ht₀).mono hnext
  have hlinked : ∀ x ∈ events, ∀ id, x.taskId = some id → x ∈ l.state.world.db.auditEvents := by
    intro x hx id hid
    rcases hold x hx with hnone | hx
    · rw [hnone] at hid; cases hid
    · exact hx
  refine ⟨hdrawn, fun x hx id hid => ?_, first_step_drawn h hdrawn, fun t ht hactive => ?_,
    fun t ht hterminal => ?_⟩
  · rw [hevents] at hx
    rcases mem_settled.mp hx with ⟨hx, -⟩ | ⟨p, hp, -, rfl⟩
    · exact (h.events x (hlinked x hx id hid) id hid).mono hnext
    · exact (h.events p (hlinked p hp id hid) id hid).mono hnext
  · rcases htasks t ht with ⟨hmem, hnot⟩ | ⟨-, hterminal, -⟩
    · obtain ⟨hfirst, hpending⟩ := h.active t hmem hactive
      refine ⟨by rw [first_step_of_none hfirst ht, hactive]; rfl, fun x hx hxid => ?_⟩
      rw [hevents] at hx
      have hx := settled_other hx hxid hnot
      exact hpending x (hlinked x hx t.id hxid) hxid
    · rw [hactive] at hterminal
      cases hterminal
  · rcases htasks t ht with ⟨hmem, hnot⟩ | ⟨hin, -, t₀, ht₀, hid, hout⟩
    · obtain ⟨st, hfirst, hst, hsame⟩ := h.ended t hmem hterminal
      refine ⟨st, first_step_of_some hfirst, hst, fun x hx hxid => ?_⟩
      rw [hevents] at hx
      have hx := settled_other hx hxid hnot
      exact hsame x (hlinked x hx t.id hxid) hxid
    · cases hwas : t₀.status.isTerminal with
      | false =>
        obtain ⟨hfirst, hpending⟩ := h.active t₀ ht₀ hwas
        rw [hid] at hfirst hpending
        refine ⟨t.status, by rw [first_step_of_none hfirst ht, hterminal]; rfl, hterminal,
          fun x hx hxid => ?_⟩
        rw [hevents] at hx
        rcases settled_own hx hxid hin with ⟨hx, hnot⟩ | ⟨hx, -⟩
        · exact absurd (hpending x (hlinked x hx t.id hxid) hxid) hnot
        · exact hx.trans (hout hwas).symm
      | true =>
        obtain ⟨st, hfirst, hst, hsame⟩ := h.ended t₀ ht₀ hwas
        rw [hid] at hfirst hsame
        refine ⟨st, first_step_of_some hfirst, hst, fun x hx hxid => ?_⟩
        rw [hevents] at hx
        rcases settled_own hx hxid hin with ⟨hx, -⟩ | ⟨-, p, hp, hpid, hpending⟩
        · exact hsame x (hlinked x hx t.id hxid) hxid
        · -- no event of an ended task is pending
          have hpout := hsame p (hlinked p hp t.id hpid) hpid
          rw [hpending] at hpout
          exact absurd hpout.symm (outcome_of_terminal hst)

/-- A task a sweep finds stale was active. -/
lemma active_of_stale {now : Time} {t : Task} (hc : db.Consistent) (ht : t ∈ db.tasks)
    (hid : t.id ∈ (staleTasks env now db).map Task.id) : t.status.isTerminal = false := by
  obtain ⟨x, hx, hxid⟩ := List.mem_map.mp hid
  obtain ⟨hx, -⟩ := List.mem_filter.mp hx
  obtain ⟨hmem, hcond⟩ := List.mem_filter.mp hx
  have hsame : x = t := Table.eq_of_mem_of_key hc.keyed.taskIds hmem ht hxid
  simp only [Bool.and_eq_true, Bool.not_eq_true', decide_eq_true_eq] at hcond
  rw [← hsame]
  exact hcond.1

/-- Every step keeps the events faithful to the first ends.

**Proof sketch.** A step that ends no task only adds. The three that do, a response, a sweep and the
removal of a host, settle the events of the tasks they end, and each task that has ended by then was
in the list or had ended before. -/
theorem faithful_step (h : Faithful env l) (e : Event) : Faithful env (l.step env e) := by
  have hc := l.state.consistent
  have hnext : l.state.world.nextId ≤ (l.step env e).state.world.nextId := nextId_le_step env _ e
  cases hends : e.endsTasks with
  | false => exact faithful_of_grows h (auditGrows_step env l.state e hends)
  | true =>
    cases e with
    | response hostId resp =>
      rcases step_response_audit env l.state hostId resp with
        ⟨htasks, hevents⟩ | ⟨task, hfound, ⟨hp, hevents, htasks⟩ | ⟨-, -, hevents, htasks⟩⟩
      · exact faithful_of_grows h (.of_same hnext htasks hevents)
      · exact faithful_of_progress h hfound hp hevents htasks
      · obtain ⟨hmem, -⟩ := hc.task_eq_some.mp (task_of_taskOfHost hfound)
        refine faithful_of_settled h hevents (fun x hx => Or.inr hx) fun t ht => ?_
        change t ∈ (System.step env l.state (.response hostId resp)).world.db.tasks at ht
        rw [htasks] at ht
        rcases Table.mem_store.mp ht with ⟨ht, hne⟩ | ⟨rfl, -⟩
        · exact Or.inl ⟨ht, fun hin => hne (List.mem_singleton.mp hin)⟩
        · exact Or.inr ⟨List.mem_singleton_self _, terminalStatus_isTerminal, task, hmem, rfl,
            fun _ => rfl⟩
    | sweep =>
      rcases step_sweep_audit env l.state with ⟨htasks, hevents⟩ | ⟨htasks, hevents⟩
      · exact faithful_of_grows h (.of_same hnext htasks hevents)
      · refine faithful_of_settled h hevents (fun x hx => Or.inr hx) fun t ht => ?_
        change t ∈ (System.step env l.state .sweep).world.db.tasks at ht
        rw [htasks] at ht
        rcases Table.mem_updateWhere.mp ht with ⟨ht, hnot⟩ | ⟨y, hy, hin, rfl⟩
        · exact Or.inl ⟨ht, of_decide_eq_false hnot⟩
        · exact Or.inr ⟨of_decide_eq_true hin, rfl, y, hy, rfl, fun _ => rfl⟩
    | removeHost user hostId =>
      rcases step_removeHost_audit env l.state user hostId with
        ⟨htasks, hevents⟩ | ⟨removed, hnone, -, htasks, hevents⟩
      · exact faithful_of_grows h (.of_same hnext htasks hevents)
      · refine faithful_of_settled h hevents (fun x hx => ?_) fun t ht => ?_
        · rcases List.mem_append.mp hx with hx | hx
          · exact Or.inr hx
          · rw [List.mem_singleton.mp hx]
            exact Or.inl hnone
        · change t ∈ (System.step env l.state (.removeHost user hostId)).world.db.tasks at ht
          rw [htasks] at ht
          obtain ⟨ht, hhost⟩ := Table.mem_deleteWhere.mp ht
          refine Or.inl ⟨ht, fun hin => ?_⟩
          obtain ⟨x, hx, hxid⟩ := List.mem_map.mp hin
          obtain ⟨hmem, hcond⟩ := List.mem_filter.mp hx
          have hsame : x = t := Table.eq_of_mem_of_key hc.keyed.taskIds hmem ht hxid
          rw [hsame, hhost] at hcond
          cases hcond
    | _ => cases hends

end Steps

/-! ## Runs -/

/-- A response for a task that has ended, if it lands, ends it with the status it has. -/
def EndsOnce (env : Env) (l : Logged) (e : Event) : Prop :=
  ∀ hostId resp task, e = .response hostId resp →
    l.state.world.db.taskOfHost hostId resp.id = some task → task.status.isTerminal = true →
    Lands env l.state.world.now resp → terminalStatus resp = task.status

/-- The first end of each ended task is the one it shows. -/
def Current (l : Logged) : Prop :=
  ∀ t ∈ l.state.world.db.tasks, t.status.isTerminal = true → l.first t.id = some t.status

/-- While no response ends a task again with another status, each task shows its first end.

**Proof sketch.** Every task that has ended after the step had ended with that status before, or was
active. By the event: only a response and a sweep give a task its end, the sweep to open tasks only,
and a response to a task that has ended gives it the same status by assumption. -/
theorem current_step {l : Logged} (hf : Faithful env l) (h : Current l) (e : Event)
    (honce : EndsOnce env l e) : Current (l.step env e) := by
  have hc := l.state.consistent
  -- the two ways a task that has ended may be there: it had ended so, or it was active
  have hnew : ∀ t ∈ (l.step env e).state.world.db.tasks, t.status.isTerminal = true →
      (∃ t₀ ∈ l.state.world.db.tasks, t₀.id = t.id ∧
        (t₀.status = t.status ∨ t₀.status.isTerminal = false)) →
      (l.step env e).first t.id = some t.status := by
    rintro t ht hterminal ⟨t₀, ht₀, hid, hs | hactive⟩
    · have hfirst := h t₀ ht₀ (hs ▸ hterminal)
      rw [hid, hs] at hfirst
      exact first_step_of_some hfirst
    · obtain ⟨hfirst, -⟩ := hf.active t₀ ht₀ hactive
      rw [hid] at hfirst
      rw [first_step_of_none hfirst ht, hterminal]
      rfl
  intro t ht hterminal
  refine hnew t ht hterminal ?_
  change t ∈ (System.step env l.state e).world.db.tasks at ht
  cases hends : e.endsTasks with
  | false =>
    rcases (auditGrows_step env l.state e hends).tasks t ht with ⟨t₀, ht₀, hid, hs⟩ | ⟨hq, -⟩
    · exact ⟨t₀, ht₀, hid, Or.inl hs⟩
    · rw [hq] at hterminal
      cases hterminal
  | true =>
    cases e with
    | response hostId resp =>
      rcases step_response_audit env l.state hostId resp with
        ⟨htasks, -⟩ | ⟨task, hfound, ⟨-, -, htasks⟩ | ⟨hp, hl, -, htasks⟩⟩
      · exact ⟨t, htasks ▸ ht, rfl, Or.inl rfl⟩
      · rw [htasks] at ht
        rcases Table.mem_store.mp ht with ⟨ht, -⟩ | ⟨rfl, -⟩
        · exact ⟨t, ht, rfl, Or.inl rfl⟩
        · cases hterminal
      · rw [htasks] at ht
        obtain ⟨hmem, -⟩ := hc.task_eq_some.mp (task_of_taskOfHost hfound)
        rcases Table.mem_store.mp ht with ⟨ht, -⟩ | ⟨rfl, -⟩
        · exact ⟨t, ht, rfl, Or.inl rfl⟩
        · refine ⟨task, hmem, rfl, ?_⟩
          cases hwas : task.status.isTerminal with
          | false => exact Or.inr rfl
          | true => exact Or.inl (honce hostId resp task rfl hfound hwas hl).symm
    | sweep =>
      rcases step_sweep_audit env l.state with ⟨htasks, -⟩ | ⟨htasks, -⟩
      · exact ⟨t, htasks ▸ ht, rfl, Or.inl rfl⟩
      · rw [htasks] at ht
        rcases Table.mem_updateWhere.mp ht with ⟨ht, -⟩ | ⟨y, hy, hin, rfl⟩
        · exact ⟨t, ht, rfl, Or.inl rfl⟩
        · exact ⟨y, hy, rfl, Or.inr (active_of_stale hc hy (of_decide_eq_true hin))⟩
    | removeHost user hostId =>
      rcases step_removeHost_audit env l.state user hostId with ⟨htasks, -⟩ | ⟨-, -, -, htasks, -⟩
      · exact ⟨t, htasks ▸ ht, rfl, Or.inl rfl⟩
      · rw [htasks] at ht
        exact ⟨t, (Table.mem_deleteWhere.mp ht).1, rfl, Or.inl rfl⟩
    | _ => cases hends

/-- The start of a log. -/
def Logged.start (s : Committed) : Logged := ⟨s, fun _ => none⟩

/-- At the start the trail is faithful. -/
lemma faithful_start {s : Committed} (h : System.Initial s) : Faithful env (.start s) where
  tasks t ht := by
    change t ∈ s.world.db.tasks at ht
    rw [h.tasks] at ht
    cases ht
  events x hx := by
    change x ∈ s.world.db.auditEvents at hx
    rw [h.auditEvents] at hx
    cases hx
  first id hid := absurd rfl hid
  active t ht := by
    change t ∈ s.world.db.tasks at ht
    rw [h.tasks] at ht
    cases ht
  ended t ht := by
    change t ∈ s.world.db.tasks at ht
    rw [h.tasks] at ht
    cases ht

/-- In every run, an event linked to a task that is there and has ended has the outcome of the
status its task first ended with; and while no response ends a task again with another status,
that is the status the task shows. -/
theorem event_outcome_first_end (env : Env) (s : Committed) (es : List Event)
    (hinit : System.Initial s) :
    let l := Machine.run (Logged.step env) (.start s) es
    ∀ e ∈ l.state.world.db.auditEvents, ∀ t ∈ l.state.world.db.tasks, e.taskId = some t.id →
      t.status.isTerminal = true →
      (∃ st, l.first t.id = some st ∧ e.outcome = st.outcome) ∧
      (Machine.AllSteps (Logged.step env) (EndsOnce env) (.start s) es →
        e.outcome = t.status.outcome) := by
  intro l e he t ht hlink hterminal
  have hfaithful : Faithful env l :=
    Machine.run_invariant (fun _ e h => faithful_step h e) (faithful_start hinit)
  obtain ⟨st, hfirst, -, hout⟩ := hfaithful.ended t ht hterminal
  refine ⟨⟨st, hfirst, hout e he hlink⟩, fun honce => ?_⟩
  have hboth : Faithful env l ∧ Current l := by
    refine honce.invariant (I := fun l => Faithful env l ∧ Current l)
      (fun l e h ho => ⟨faithful_step h.1 e, current_step h.1 h.2 e ho⟩) ⟨faithful_start hinit, ?_⟩
    intro x hx
    change x ∈ s.world.db.tasks at hx
    rw [hinit.tasks] at hx
    cases hx
  rw [hboth.2 t ht hterminal] at hfirst
  cases hfirst
  exact hout e he hlink

/-- The events of a start that succeeds. -/
def Demo.startEvents : List Event :=
  [.vmInventory "h" (Demo.snapshot ["g"]), .vmAction 0 Demo.user "" .start [],
    .response "h" Demo.started]

/-- A start that succeeds, and its event. -/
@[irreducible] def Demo.loggedEnd : Logged :=
  Machine.run (Logged.step Demo.settings) (.start Demo.start) Demo.startEvents

/-- The event of a start that succeeds says so. -/
theorem event_outcome_first_end_start :
    ∃ e ∈ Demo.loggedEnd.state.world.db.auditEvents, ∃ t ∈ Demo.loggedEnd.state.world.db.tasks,
      e.taskId = some t.id ∧ (∃ st, Demo.loggedEnd.first t.id = some st ∧ e.outcome = st.outcome) ∧
      e.outcome = t.status.outcome := by
  have hended : ∃ e ∈ Demo.loggedEnd.state.world.db.auditEvents,
      ∃ t ∈ Demo.loggedEnd.state.world.db.tasks, e.taskId = some t.id ∧
        t.status.isTerminal = true := by decide +kernel
  have hqueued : ∀ t ∈ (System.run Demo.settings Demo.start
      [.vmInventory "h" (Demo.snapshot ["g"]), .vmAction 0 Demo.user "" .start []]).world.db.taskOfHost
        "h" Demo.started.id, t.status.isTerminal = false := by decide +kernel
  have honce : Machine.AllSteps (Logged.step Demo.settings) (EndsOnce Demo.settings)
      (.start Demo.start) Demo.startEvents := by
    unfold Demo.startEvents
    refine ⟨fun _ _ _ he => Event.noConfusion he, fun _ _ _ he => Event.noConfusion he, ?_, trivial⟩
    intro hostId resp task he hfound hterminal
    cases he
    rw [hqueued task hfound] at hterminal
    cases hterminal
  obtain ⟨e, he, t, ht, hlink, hterminal⟩ := hended
  refine ⟨e, he, t, ht, hlink, ?_⟩
  unfold Demo.loggedEnd at he ht ⊢
  obtain ⟨hfirst, hcurrent⟩ := event_outcome_first_end Demo.settings Demo.start Demo.startEvents
    Demo.start_initial e he t ht hlink hterminal
  exact ⟨hfirst, hcurrent honce⟩

/-- The start of a VM times out; then the agent reports that it has succeeded. -/
@[irreducible] def Demo.lateEnd : Committed :=
  System.run Demo.settings Demo.startQueued [.tick 301000000, .sweep, .response "h" Demo.started]

/-- The outcome of an event is not always that of its task: a start that timed out and then
succeeded has an event that says it timed out. -/
theorem event_outcome_counterexample :
    ¬ ∀ (env : Env) (s : Committed), System.Reachable env s → ∀ e ∈ s.world.db.auditEvents,
      ∀ t ∈ s.world.db.tasks, e.taskId = some t.id → t.status.isTerminal = true →
      e.outcome = t.status.outcome := by
  intro h
  have hreach : System.Reachable Demo.settings Demo.lateEnd := by
    unfold Demo.lateEnd
    exact ((Demo.startQueued_reachable.step _).step _).step _
  have hdiffer : ∃ e ∈ Demo.lateEnd.world.db.auditEvents, ∃ t ∈ Demo.lateEnd.world.db.tasks,
      e.taskId = some t.id ∧ t.status = .succeeded ∧ e.outcome = .timeout := by decide +kernel
  obtain ⟨e, he, t, ht, hlink, hstatus, hout⟩ := hdiffer
  have hsame := h Demo.settings Demo.lateEnd hreach e he t ht hlink (by rw [hstatus]; rfl)
  rw [hstatus, hout] at hsame
  cases hsame

end OpenVCenter
