import OpenVCenter.AuditFrame

set_option relaxedAutoImplicit false
set_option autoImplicit false

/-!
# Two requests for one host

`request_host_action` and `request_agent_upgrade` look for an active task of the host in what is
committed when they check, and insert theirs when their route commits. Nothing keeps a second
request from checking in between.

## Main definitions

* `OpenVCenter.HostTaskRace.Request`, `OpenVCenter.HostTaskRace.Flight` — a request, and what is left
  of its route once it has checked.
* `OpenVCenter.HostTaskRace.step` — any number of requests in flight, with responses, sweeps and
  removals of hosts.
* `OpenVCenter.HostTaskRace.Guarded` — at most one active task of either guard per host.
* `OpenVCenter.HostTaskRace.Unopposed` — the guard of a request still passes when it commits.

## Main results

* `OpenVCenter.HostTaskRace.Request.handler_run` — a request that is not interrupted is its route.
* `OpenVCenter.HostTaskRace.Flight.finish_tasks` — the tasks after a commit.
* `OpenVCenter.HostTaskRace.guarded_iff_unopposed` — **every host has at most one active task of
  either guard**, in every state of a run, exactly when every request of the run that commits is
  unopposed.
-/

namespace OpenVCenter

namespace HostTaskRace

open Effect

variable (env : Env)

/-! ## The two halves of a route -/

/-- A request for a host. -/
inductive Request where
  | hostAction (user : User) (hostId : String) (action : HostAction)
  | agentUpgrade (user : User) (hostId version checksum : String) (url : Option String)

/-- The route of a request. -/
def Request.handler : Request → M Unit
  | .hostAction user hostId action => OpenVCenter.hostAction env user hostId action
  | .agentUpgrade user hostId version checksum url =>
    updateHostAgent env user hostId version checksum url

/-- A request that has checked: the host as it was read, the kind and the params of its task, and the
action and details of its audit event, if it has one. Its transaction has started with the check. -/
structure Flight where
  host : Host
  kind : TaskKind
  params : Dict
  user : User
  audit : Option (String × Json)
  txStart : Time

/-- The first half: the reads and checks. -/
def Request.check (now : Time) (db : Db) : Request → Except Raised Flight
  | .hostAction user hostId action =>
    match db.host hostId with
    | none => .error (notFound "Host")
    | some host => do
      checkHostAction env now db host action
      pure {
        host, kind := action.kind, params := [], user, txStart := now
        audit := if action.isReadOnly then none else some ("host." ++ action.kind.name, .null) }
  | .agentUpgrade user hostId version checksum url =>
    match db.host hostId with
    | none => .error (notFound "Host")
    | some host => do
      let params ← checkAgentUpgrade env now db host version checksum url
      pure {
        host, kind := .host_update_agent, params, user, txStart := now
        audit := some ("host.update_agent", .obj [("version", .str version)]) }

/-- The second half: insert the task, publish its request, and record the event. -/
def Flight.finish (f : Flight) : M Unit := do
  let task ← queueHostTask env f.host f.kind f.params f.user.email
  match f.audit with
  | some (action, details) => record env (some f.user) action f.host.ref (some task) details
  | none => pure ()

/-- **A request that is not interrupted is its route.** -/
theorem Request.handler_run (r : Request) (w : World) : r.handler env w =
    match r.check env w.now w.db with
    | .ok f => f.finish env w
    | .error e => (.error e, w) := by
  cases r with
  | hostAction user hostId action =>
    simp only [Request.handler, OpenVCenter.hostAction, Request.check, Prog.read_bind_run]
    rcases w.db.host hostId with _ | host
    · rfl
    · simp only [M.ofOption, Prog.pure_bind_run]
      rw [Prog.bind_run, requestHostAction_run]
      rcases checkHostAction env w.now w.db host action with e | ⟨⟩
      · rfl
      · rcases action.isReadOnly with _ | _ <;> rfl
  | agentUpgrade user hostId version checksum url =>
    simp only [Request.handler, updateHostAgent, Request.check, Prog.read_bind_run]
    rcases w.db.host hostId with _ | host
    · rfl
    · simp only [M.ofOption, Prog.pure_bind_run]
      rw [Prog.bind_run, requestAgentUpgrade_run]
      rcases checkAgentUpgrade env w.now w.db host version checksum url with e | params
      · rfl
      · rfl

/-! ## A commit -/

section Finish

variable {env} {f : Flight} {w : World}

variable (env) in
/-- The task a flight inserts. -/
def Flight.task (f : Flight) (w : World) : Task :=
  let task := hostTask (env.uuid w.nextId) f.kind f.host f.user.email w.txStart
  { task with requestPayload := (agentRequest env w.now task f.params).modelDump }

variable (env) in
/-- The tables with the task of a flight. -/
def Flight.withTask (f : Flight) (w : World) : Db := w.db.addTask (f.task env w)

variable (env) in
/-- The tables with the task and the audit event of a flight. -/
def Flight.withEvent (f : Flight) (w : World) : Db :=
  match f.audit with
  | some (action, details) =>
    { f.withTask env w with
      auditEvents := w.db.auditEvents ++ [auditEvent (env.uuid (w.nextId + 1)) w.now (some f.user)
        action f.host.ref (some (f.task env w)) details] }
  | none => f.withTask env w

variable (env) in
/-- The flight goes through: its rows fit, and its request can be published. -/
def Flight.Lands (f : Flight) (w : World) : Prop :=
  (f.withTask env w).Consistent ∧ w.brokerUp = true ∧ (f.withEvent env w).Consistent

/-- Whether a flight lands can be decided. -/
instance : Decidable (f.Lands env w) := inferInstanceAs (Decidable (_ ∧ _ ∧ _))

variable (env) in
/-- The state in which a flight is flushed. -/
private def Flight.inserted (f : Flight) (w : World) : World :=
  { w with nextId := w.nextId + 1, db := f.withTask env w }

/-- `_queue` flushes, publishes and returns the task. -/
private lemma Flight.queue_run : queueHostTask env f.host f.kind f.params f.user.email w =
    (flush >>= fun _ => publishRequest f.host.shortId
      (agentRequest env w.now (hostTask (env.uuid w.nextId) f.kind f.host f.user.email w.txStart)
        f.params) >>= fun _ => pure (f.task env w)) (f.inserted env w) := rfl

/-- A flight that is published goes on with its event. -/
private lemma Flight.finish_published (hc : (f.withTask env w).Consistent)
    (hup : w.brokerUp = true) : ∃ published, f.finish env w =
      (match f.audit with
        | some (action, details) =>
          record env (some f.user) action f.host.ref (some (f.task env w)) details
        | none => pure ()) { f.inserted env w with published := published } := by
  have hflush : flush (f.inserted env w) = (.ok (), f.inserted env w) := flush_of_consistent hc
  unfold Flight.finish
  rw [Prog.bind_run, Flight.queue_run, Prog.bind_run_ok hflush,
    Prog.bind_run_ok (publishRequest_up (w := f.inserted env w) hup)]
  exact ⟨_, rfl⟩

/-- A flight that does not land raises. -/
private lemma Flight.finish_raises (h : ¬ ((f.withTask env w).Consistent ∧ w.brokerUp = true)) :
    ∃ e t, f.finish env w = (.error e, t) := by
  unfold Flight.finish
  rw [Prog.bind_run, Flight.queue_run]
  by_cases hc : (f.withTask env w).Consistent
  · have hflush : flush (f.inserted env w) = (.ok (), f.inserted env w) := flush_of_consistent hc
    have hdown : ¬ (f.inserted env w).brokerUp = true := fun hup => h ⟨hc, hup⟩
    rw [Prog.bind_run_ok hflush, Prog.bind_run_error (publishRequest_down hdown)]
    exact ⟨_, _, rfl⟩
  · obtain ⟨e, hflush⟩ := flush_of_inconsistent (w := f.inserted env w) hc
    rw [Prog.bind_run_error hflush]
    exact ⟨_, _, rfl⟩

/-- The tables after a commit, or after the rollback. -/
theorem Flight.finish_db : (sessionScope (f.finish env) w).2.db =
    if f.Lands env w then f.withEvent env w else w.db := by
  have hraise : (∃ e t, f.finish env w = (.error e, t)) →
      (sessionScope (f.finish env) w).2.db = w.db := by
    rintro ⟨e, t, h⟩
    rw [sessionScope, savepoint_of_raise h]
    rfl
  by_cases h : (f.withTask env w).Consistent ∧ w.brokerUp = true
  · obtain ⟨published, hrun⟩ := Flight.finish_published h.1 h.2
    rcases haudit : f.audit with _ | ⟨action, details⟩
    · have hevent : f.withEvent env w = f.withTask env w := by
        unfold Flight.withEvent
        rw [haudit]
      rw [if_pos ⟨h.1, h.2, hevent ▸ h.1⟩, hevent]
      rw [haudit] at hrun
      rw [sessionScope, savepoint_eq_ok.mpr ⟨hrun, h.1⟩]
      rfl
    · have hevent : f.withEvent env w = { f.withTask env w with
          auditEvents := w.db.auditEvents ++ [auditEvent (env.uuid (w.nextId + 1)) w.now
            (some f.user) action f.host.ref (some (f.task env w)) details] } := by
        unfold Flight.withEvent
        rw [haudit]
      rw [haudit] at hrun
      have hrecord : f.finish env w = flush { f.inserted env w with
          published := published, nextId := w.nextId + 2, db := f.withEvent env w } := by
        rw [hrun, hevent]
        rfl
      by_cases hc : (f.withEvent env w).Consistent
      · rw [if_pos ⟨h.1, h.2, hc⟩, sessionScope,
          savepoint_eq_ok.mpr ⟨hrecord.trans (flush_of_consistent hc), hc⟩]
      · obtain ⟨e, hflush⟩ := flush_of_inconsistent (w := { f.inserted env w with
          published := published, nextId := w.nextId + 2, db := f.withEvent env w }) hc
        rw [if_neg fun hl => hc hl.2.2]
        exact hraise ⟨e, _, hrecord.trans hflush⟩
  · rw [if_neg fun hl => h ⟨hl.1, hl.2.1⟩]
    exact hraise (Flight.finish_raises h)

/-- **The tasks after a commit**: the task of the flight is new, or nothing is. -/
theorem Flight.finish_tasks : (sessionScope (f.finish env) w).2.db.tasks =
    if f.Lands env w then w.db.tasks ++ [f.task env w] else w.db.tasks := by
  rw [finish_db]
  split_ifs
  · unfold Flight.withEvent
    split
    · rfl
    · rfl
  · rfl

end Finish

/-! ## Requests in flight -/

/-- The committed state, and the requests that have checked. -/
structure State where
  state : Committed
  flights : List Flight := []

/-- A request checks, or one that has checked commits; a response ends or advances a task, a sweep
times tasks out, a host is removed, and time passes. -/
inductive Event where
  | check (r : Request)
  | commit (i : ℕ)
  | response (hostId : String) (resp : AgentResponse)
  | sweep
  | removeHost (user : User) (hostId : String)
  | tick (elapsed : ℕ)

/-- The state a flight runs in: its transaction has started with its check. -/
def Flight.started (f : Flight) (w : World) : World := { w with txStart := f.txStart }

/-- One step. A request that raises is not in flight. -/
def step (s : State) : Event → State
  | .check r =>
    match r.check env s.state.world.now s.state.world.db with
    | .ok f => { s with flights := s.flights ++ [f] }
    | .error _ => s
  | .commit i =>
    match s.flights[i]? with
    | some f =>
      { state :=
          { world := (sessionScope (f.finish env) (f.started s.state.world)).2
            consistent := savepoint_consistent s.state.consistent }
        flights := s.flights.eraseIdx i }
    | none => s
  | .response hostId resp => { s with state := System.step env s.state (.response hostId resp) }
  | .sweep => { s with state := System.step env s.state .sweep }
  | .removeHost user hostId => { s with state := System.step env s.state (.removeHost user hostId) }
  | .tick elapsed => { s with state := System.step env s.state (.tick elapsed) }

/-! ## The guards -/

/-- No host has two active tasks that satisfy `p`. -/
def OnePerHost (p : Task → Bool) (db : Db) : Prop :=
  ∀ t ∈ db.tasks, ∀ u ∈ db.tasks, p t = true → p u = true → t.status.isTerminal = false →
    u.status.isTerminal = false → t.hostId = u.hostId → t.id = u.id

/-- **Every host has at most one active disruptive action, and at most one active upgrade.** -/
structure Guarded (db : Db) : Prop where
  disruptive : OnePerHost Task.isDisruptive db
  upgrade : OnePerHost Task.isAgentUpgrade db

/-- Whether a host has one such task can be decided. -/
instance (p : Task → Bool) (db : Db) : Decidable (OnePerHost p db) := by
  unfold OnePerHost
  infer_instance

/-- Whether the guards hold can be decided. -/
instance (db : Db) : Decidable (Guarded db) :=
  decidable_of_iff (OnePerHost Task.isDisruptive db ∧ OnePerHost Task.isAgentUpgrade db)
    ⟨fun ⟨a, b⟩ => ⟨a, b⟩, fun ⟨a, b⟩ => ⟨a, b⟩⟩

/-- The query of the flight's own guard finds no task. -/
def Flight.Free (f : Flight) (db : Db) : Prop :=
  (f.kind.isDisruptive = true → activeHostTasks db f.host.id Task.isDisruptive = []) ∧
    (f.kind = .host_update_agent → activeHostTasks db f.host.id Task.isAgentUpgrade = [])

/-- Whether a flight finds its host free can be decided. -/
instance (f : Flight) (db : Db) : Decidable (f.Free db) :=
  inferInstanceAs (Decidable ((_ → _ = []) ∧ (_ → _ = [])))

/-- A flight that the step commits finds its guard free among the tasks committed by now. -/
def Unopposed (s : State) (e : Event) : Prop :=
  ∀ i f, e = .commit i → s.flights[i]? = some f → f.Lands env (f.started s.state.world) →
    f.Free s.state.world.db

section Guards

variable {env} {db db' : Db} {p : Task → Bool} {f : Flight} {w : World} {s : State}

/-- The task is the same task for the guards, no further in its life. -/
structure Continues (before after : Task) : Prop where
  id : before.id = after.id
  hostId : before.hostId = after.hostId
  disruptive : before.isDisruptive = after.isDisruptive
  upgrade : before.isAgentUpgrade = after.isAgentUpgrade
  active : after.status.isTerminal = false → before.status.isTerminal = false

/-- A task continues itself. -/
lemma Continues.refl (t : Task) : Continues t t := ⟨rfl, rfl, rfl, rfl, fun h => h⟩

/-- Tasks that continue earlier ones break no guard. -/
lemma Guarded.of_continues (h : Guarded db)
    (htasks : ∀ t ∈ db'.tasks, ∃ t₀ ∈ db.tasks, Continues t₀ t) : Guarded db' where
  disruptive t ht u hu hpt hpu hat hau hhost := by
    obtain ⟨t₀, ht₀, hct⟩ := htasks t ht
    obtain ⟨u₀, hu₀, hcu⟩ := htasks u hu
    rw [← hct.id, ← hcu.id]
    exact h.disruptive t₀ ht₀ u₀ hu₀ (hct.disruptive.trans hpt) (hcu.disruptive.trans hpu)
      (hct.active hat) (hcu.active hau) (hct.hostId.trans (hhost.trans hcu.hostId.symm))
  upgrade t ht u hu hpt hpu hat hau hhost := by
    obtain ⟨t₀, ht₀, hct⟩ := htasks t ht
    obtain ⟨u₀, hu₀, hcu⟩ := htasks u hu
    rw [← hct.id, ← hcu.id]
    exact h.upgrade t₀ ht₀ u₀ hu₀ (hct.upgrade.trans hpt) (hcu.upgrade.trans hpu)
      (hct.active hat) (hcu.active hau) (hct.hostId.trans (hhost.trans hcu.hostId.symm))

/-- The active tasks of a host. -/
lemma mem_activeHostTasks {hostId : String} {t : Task} : t ∈ activeHostTasks db hostId p ↔
    t ∈ db.tasks ∧ t.hostId = hostId ∧ p t = true ∧ t.status.isTerminal = false := by
  unfold activeHostTasks
  simp only [List.mem_filter, Bool.and_eq_true, decide_eq_true_eq, Bool.not_eq_true', and_assoc]

/-- **A new active task keeps a guard** exactly when the guard is not its own, or found nothing. -/
lemma onePerHost_append {new : Task} (hactive : new.status.isTerminal = false)
    (hfresh : ∀ t ∈ db.tasks, t.id ≠ new.id) (htasks : db'.tasks = db.tasks ++ [new]) :
    OnePerHost p db' ↔
      OnePerHost p db ∧ (p new = true → activeHostTasks db new.hostId p = []) := by
  have hmem : ∀ t, t ∈ db'.tasks ↔ t ∈ db.tasks ∨ t = new := fun t => by
    rw [htasks, List.mem_append, List.mem_singleton]
  constructor
  · intro h
    refine ⟨fun t ht u hu => h t ((hmem t).mpr (Or.inl ht)) u ((hmem u).mpr (Or.inl hu)), ?_⟩
    intro hp
    refine List.eq_nil_iff_forall_not_mem.mpr fun t ht => ?_
    obtain ⟨ht, hhost, hpt, hat⟩ := mem_activeHostTasks.mp ht
    exact hfresh t ht (h t ((hmem t).mpr (Or.inl ht)) new ((hmem new).mpr (Or.inr rfl)) hpt hp hat
      hactive hhost)
  · rintro ⟨h, hfree⟩ t ht u hu hpt hpu hat hau hhost
    rcases (hmem t).mp ht with ht | rfl
    · rcases (hmem u).mp hu with hu | rfl
      · exact h t ht u hu hpt hpu hat hau hhost
      · have hin : t ∈ activeHostTasks db u.hostId p := mem_activeHostTasks.mpr ⟨ht, hhost, hpt, hat⟩
        rw [hfree hpu] at hin
        cases hin
    · rcases (hmem u).mp hu with hu | rfl
      · have hin : u ∈ activeHostTasks db t.hostId p :=
          mem_activeHostTasks.mpr ⟨hu, hhost.symm, hpu, hau⟩
        rw [hfree hpt] at hin
        cases hin
      · rfl

/-- A commit keeps the guards exactly when its own finds nothing. -/
lemma guarded_finish (h : Guarded w.db) :
    Guarded (sessionScope (f.finish env) w).2.db ↔ (f.Lands env w → f.Free w.db) := by
  have htasks := @Flight.finish_tasks env f w
  split_ifs at htasks with hl
  · have hfresh : ∀ t ∈ w.db.tasks, t.id ≠ (f.task env w).id :=
      (Table.nodup_keys_append.mp hl.1.keyed.taskIds).2
    have hdisruptive := onePerHost_append (p := Task.isDisruptive) rfl hfresh htasks
    have hupgrade := onePerHost_append (p := Task.isAgentUpgrade) rfl hfresh htasks
    have hown : (f.task env w).isDisruptive = f.kind.isDisruptive := rfl
    have hown' : (f.task env w).isAgentUpgrade = true ↔ f.kind = .host_update_agent :=
      decide_eq_true_iff
    rw [hown] at hdisruptive
    rw [hown'] at hupgrade
    constructor
    · exact fun hg _ => ⟨(hdisruptive.mp hg.disruptive).2, (hupgrade.mp hg.upgrade).2⟩
    · exact fun hfree => ⟨hdisruptive.mpr ⟨h.disruptive, (hfree hl).1⟩,
        hupgrade.mpr ⟨h.upgrade, (hfree hl).2⟩⟩
  · refine iff_of_true ?_ fun hlands => absurd hlands hl
    exact h.of_continues fun t ht => ⟨t, htasks ▸ ht, .refl t⟩

/-- A response keeps the guards: a task that has ended does not run again. -/
lemma guarded_response (h : Guarded s.state.world.db) (hostId : String) (resp : AgentResponse) :
    Guarded (System.step env s.state (.response hostId resp)).world.db := by
  have hc := s.state.consistent
  rcases step_response_audit env s.state hostId resp with
    ⟨htasks, -⟩ | ⟨task, hfound, ⟨hp, -, htasks⟩ | ⟨-, -, -, htasks⟩⟩
  · exact h.of_continues fun t ht => ⟨t, htasks ▸ ht, .refl t⟩
  · obtain ⟨hmem, -⟩ := hc.task_eq_some.mp (task_of_taskOfHost hfound)
    refine h.of_continues fun t ht => ?_
    rw [htasks] at ht
    rcases Table.mem_store.mp ht with ⟨ht, -⟩ | ⟨rfl, -⟩
    · exact ⟨t, ht, .refl t⟩
    · refine ⟨task, hmem, rfl, rfl, rfl, rfl, fun _ => ?_⟩
      simp only [isProgress, Bool.and_eq_true, Bool.not_eq_true'] at hp
      exact hp.2
  · obtain ⟨hmem, -⟩ := hc.task_eq_some.mp (task_of_taskOfHost hfound)
    refine h.of_continues fun t ht => ?_
    rw [htasks] at ht
    rcases Table.mem_store.mp ht with ⟨ht, -⟩ | ⟨rfl, -⟩
    · exact ⟨t, ht, .refl t⟩
    · refine ⟨task, hmem, rfl, rfl, rfl, rfl, fun hactive => ?_⟩
      have hended : (endedTask env s.state.world.now resp.stripped task).status.isTerminal = true :=
        terminalStatus_isTerminal
      rw [hactive] at hended
      cases hended

/-- A sweep keeps the guards. -/
lemma guarded_sweep (h : Guarded s.state.world.db) :
    Guarded (System.step env s.state .sweep).world.db := by
  rcases step_sweep_audit env s.state with ⟨htasks, -⟩ | ⟨htasks, -⟩
  · exact h.of_continues fun t ht => ⟨t, htasks ▸ ht, .refl t⟩
  · refine h.of_continues fun t ht => ?_
    rw [htasks] at ht
    rcases Table.mem_updateWhere.mp ht with ⟨ht, -⟩ | ⟨t₀, ht₀, -, rfl⟩
    · exact ⟨t, ht, .refl t⟩
    · exact ⟨t₀, ht₀, rfl, rfl, rfl, rfl, nofun⟩

/-- So does the removal of a host. -/
lemma guarded_removeHost (h : Guarded s.state.world.db) (user : User) (hostId : String) :
    Guarded (System.step env s.state (.removeHost user hostId)).world.db := by
  rcases step_removeHost_audit env s.state user hostId with ⟨htasks, -⟩ | ⟨-, -, -, htasks, -⟩
  · exact h.of_continues fun t ht => ⟨t, htasks ▸ ht, .refl t⟩
  · refine h.of_continues fun t ht => ?_
    rw [htasks] at ht
    exact ⟨t, (Table.mem_deleteWhere.mp ht).1, .refl t⟩

/-- **A step keeps the guards** exactly when the request it commits, if any, is unopposed. -/
theorem step_guarded (h : Guarded s.state.world.db) (e : Event) :
    Guarded (step env s e).state.world.db ↔ Unopposed env s e := by
  have hother : Guarded (step env s e).state.world.db → (∀ i, e ≠ .commit i) →
      (Guarded (step env s e).state.world.db ↔ Unopposed env s e) :=
    fun hg hne => iff_of_true hg fun i f he => absurd he (hne i)
  cases e with
  | check r =>
    refine hother ?_ nofun
    dsimp only [step]
    split
    · exact h
    · exact h
  | commit i =>
    dsimp only [step]
    rcases hf : s.flights[i]? with _ | f
    · refine iff_of_true h fun i' f he hsome => ?_
      cases he
      rw [hf] at hsome
      cases hsome
    · refine (guarded_finish (w := f.started s.state.world) h).trans ?_
      constructor
      · intro hfree i' f' he hsome
        cases he
        obtain rfl : f = f' := Option.some.inj (hf.symm.trans hsome)
        exact hfree
      · exact fun hfree => hfree i f rfl hf
  | response hostId resp => exact hother (guarded_response h hostId resp) nofun
  | sweep => exact hother (guarded_sweep h) nofun
  | removeHost user hostId => exact hother (guarded_removeHost h user hostId) nofun
  | tick elapsed => exact hother h nofun

end Guards

/-- **Every host has at most one active task of either guard**, in every state of a run, exactly
when every request of the run that commits is unopposed; and then it is so at the end. -/
theorem guarded_iff_unopposed (env : Env) (s : Committed) (es : List Event)
    (h : Guarded s.world.db) :
    (Machine.AllSteps (step env) (fun t e => Guarded (step env t e).state.world.db) ⟨s, []⟩ es ↔
      Machine.AllSteps (step env) (Unopposed env) ⟨s, []⟩ es) ∧
    (Machine.AllSteps (step env) (Unopposed env) ⟨s, []⟩ es →
      Guarded (Machine.run (step env) ⟨s, []⟩ es).state.world.db) := by
  have hkeep : ∀ (t : State) e, Guarded t.state.world.db → Unopposed env t e →
      Guarded (step env t e).state.world.db := fun t e ht => (step_guarded ht e).mpr
  constructor
  · exact (Machine.AllSteps.congr (I := fun t => Guarded t.state.world.db) hkeep
      (fun t e ht => (step_guarded ht e).symm) h).symm
  · exact fun hall => hall.invariant (I := fun t => Guarded t.state.world.db) hkeep h

/-! ## A drain on a restart -/

namespace Demo

/-- The host is a node of a cluster, and its agent has reported. -/
def clustered : Committed where
  world :=
    { OpenVCenter.Demo.start.world with
      db :=
        { clusters := [{ id := "c", name := "cluster" }]
          hosts := [{ OpenVCenter.Demo.host with clusterId := some "c" }] } }
  consistent := by decide +kernel

end Demo

/-- A drain and a restart that check before either commits are both queued; so are two upgrades. -/
theorem guarded_iff_unopposed_counterexample :
    Guarded Demo.clustered.world.db ∧
    (let s := Machine.run (step OpenVCenter.Demo.settings) ⟨Demo.clustered, []⟩
      [.check (.hostAction OpenVCenter.Demo.user "h" .suspend_drain),
        .check (.hostAction OpenVCenter.Demo.user "h" .restart), .commit 0, .commit 0]
    s.flights.isEmpty ∧ s.state.world.db.tasks.map Task.kind = [.suspend_drain, .restart] ∧
      ¬ OnePerHost Task.isDisruptive s.state.world.db) ∧
    (let s := Machine.run (step OpenVCenter.Demo.settings) ⟨Demo.clustered, []⟩
      [.check (.agentUpgrade OpenVCenter.Demo.user "h" "2" "sum" (some "url")),
        .check (.agentUpgrade OpenVCenter.Demo.user "h" "2" "sum" (some "url")), .commit 0, .commit 0]
    s.flights.isEmpty ∧ ¬ OnePerHost Task.isAgentUpgrade s.state.world.db) := by
  decide +kernel

/-- The restart that checks after the drain is queued is refused. -/
theorem guarded_iff_unopposed_serial :
    Guarded (Machine.run (step OpenVCenter.Demo.settings) ⟨Demo.clustered, []⟩
      [.check (.hostAction OpenVCenter.Demo.user "h" .suspend_drain), .commit 0,
        .check (.hostAction OpenVCenter.Demo.user "h" .restart)]).state.world.db := by
  refine (guarded_iff_unopposed OpenVCenter.Demo.settings Demo.clustered _ (by decide +kernel)).2 ?_
  refine ⟨fun _ _ he => (nomatch he), ?_⟩
  generalize hs : step OpenVCenter.Demo.settings ⟨Demo.clustered, []⟩
    (.check (.hostAction OpenVCenter.Demo.user "h" .suspend_drain)) = s
  have hfree : ∀ f ∈ s.flights, f.Free s.state.world.db := by
    subst hs
    decide +kernel
  exact ⟨fun i f _ hf _ => hfree f (List.mem_of_getElem? hf), fun _ _ he => (nomatch he), trivial⟩

end HostTaskRace

end OpenVCenter
