import OpenVCenter.Foundations.Machine
import OpenVCenter.System

set_option relaxedAutoImplicit false
set_option autoImplicit false

/-!
# A rollout that fails half way

`rollout_agent_binary` publishes the request of each host as it comes to it, and commits the tasks
of all hosts at the end. It goes on after an `ApiError`; anything else that is raised leaves the
loop, and rolls the tasks back.

## Main definitions

* `OpenVCenter.Rollout.Stage`, `OpenVCenter.Rollout.Faults` — where something may be raised, and what
  is.
* `OpenVCenter.Rollout.rollout` — the route under the faults.
* `OpenVCenter.Rollout.outcome` — what becomes of a host, read off the faults and its checks.

## Main results

* `OpenVCenter.Rollout.exists_faults` — the route is the rollout under some faults.
* `OpenVCenter.Rollout.sent_iff_committed_iff` — **the hosts that were sent a request are the hosts
  with a committed task** exactly when nothing is raised, or before any host is sent its request.

## Design

What a step raises is given by the faults: a flush that finds a row it cannot store, a broker that
is down, a connection that is lost. A message may be in the queue when its publisher raises, since
`publish_request` closes its channel after the message.
-/

namespace OpenVCenter

namespace Rollout

open Effect

variable (env : Env)

/-! ## Faults -/

/-- The steps of an iteration, past its skips, that may raise what is no `ApiError`. -/
inductive Stage where
  | query | downloadUrl | flush | publish | close | record | taskOut
  deriving DecidableEq

/-- What each step of the iteration of a host raises, by the host's key, and what the commit
raises. -/
structure Faults where
  raised : String → Stage → Option Raised
  commit : Option Raised
  notApiError : ∀ hostId stage e, raised hostId stage ≠ some (.apiError e)

/-- Raise the fault of a step, if it has one. -/
def faulty : Option Raised → M Unit
  | some e => Prog.raise e
  | none => pure ()

section Program

variable (faults : Faults) (user : User) (version checksum : String) (url : Option String)

/-- The rest of an iteration once the host has passed its checks: the task, its request, and its
audit event. -/
def send (host : Host) (params : Dict) : M Unit := do
  let taskId ← newId env
  let w ← Prog.read
  let task := hostTask taskId .host_update_agent host user.email w.txStart
  let request := agentRequest env w.now task params
  let task := { task with requestPayload := request.modelDump }
  modifyDb fun db => db.addTask task
  faulty (faults.raised host.id .flush)
  faulty (faults.raised host.id .publish)
  Prog.modify fun w => { w with published := w.published ++ [(host.shortId, request)] }
  faulty (faults.raised host.id .close)
  let eventId ← newId env
  modifyDb fun db => { db with
    auditEvents := db.auditEvents ++ [auditEvent eventId w.now (some user) "host.update_agent" host.ref
      (some task) (.obj [("version", .str version), ("rollout", .bool true)])] }
  faulty (faults.raised host.id .record)
  faulty (faults.raised host.id .taskOut)

/-- The look for an active upgrade, and for a URL once there is none. -/
def look (db : Db) (host : Host) : M Unit := do
  faulty (faults.raised host.id .query)
  if (activeHostTasks db host.id Task.isAgentUpgrade).isEmpty then
    faulty (faults.raised host.id .downloadUrl)
  else pure ()

/-- The body of the loop. -/
def iteration (host : Host) : M Unit := do
  let w ← Prog.read
  if agentConnected env w.now host = false ∨ host.agentVersion.isStr version = true then pure ()
  else skipApiError do
    look faults w.db host
    let params ← Prog.ofExcept (checkAgentUpgrade env w.now w.db host version checksum url)
    send env faults user version host params

/-- The loop. -/
def loop (hosts : List Host) : M Unit :=
  hosts.foldlM (fun _ host => iteration env faults user version checksum url host) ()

/-- **The rollout**: the loop, and the commit. -/
def rollout (hosts : List Host) : M Unit :=
  Prog.transact rollback (faulty faults.commit) (loop env faults user version checksum url hosts)

end Program

/-! ## What becomes of a host -/

/-- A host is skipped, its iteration raises before its request is published or after, or it goes
through. -/
inductive Outcome where
  | skipped | raisesUnsent | raisesSent | sent
  deriving DecidableEq

/-- One of the steps raises. -/
def Faults.hits (faults : Faults) (hostId : String) (stages : List Stage) : Bool :=
  stages.any fun stage => (faults.raised hostId stage).isSome

/-- The look raises. -/
def Faults.hitsLook (faults : Faults) (db : Db) (hostId : String) : Bool :=
  faults.hits hostId [.query] ||
    (activeHostTasks db hostId Task.isAgentUpgrade).isEmpty && faults.hits hostId [.downloadUrl]

/-- The outcome of a host, by its checks and faults. -/
def outcome (faults : Faults) (version checksum : String) (url : Option String) (now : Time) (db : Db)
    (host : Host) : Outcome :=
  if agentConnected env now host = false ∨ host.agentVersion.isStr version = true then .skipped
  else if faults.hitsLook db host.id then .raisesUnsent
  else
    match checkAgentUpgrade env now db host version checksum url with
    | .error (.apiError _) => .skipped
    | .error _ => .raisesUnsent
    | .ok _ =>
      if faults.hits host.id [.flush, .publish] then .raisesUnsent
      else if faults.hits host.id [.close, .record, .taskOut] then .raisesSent
      else .sent

section Iteration

variable {env} {faults : Faults} {user : User} {version checksum : String} {url : Option String}
  {host : Host} {params : Dict} {w t : World}

/-- What an iteration that goes on does: it queues an upgrade of the host. -/
structure Sends (host : Host) (w t : World) : Prop where
  now : t.now = w.now
  tasks : ∃ task : Task, t.db.tasks = w.db.tasks ++ [task] ∧ task.hostId = host.id ∧
    task.kind = .host_update_agent
  published : ∃ request : AgentRequest, t.published = w.published ++ [(host.shortId, request)] ∧
    request.function = "host_update_agent"

variable (env) in
/-- The state in which the request is in the queue. -/
def published (user : User) (host : Host) (params : Dict) (w : World) : World :=
  let task := hostTask (env.uuid w.nextId) .host_update_agent host user.email w.txStart
  let request := agentRequest env w.now task params
  { w with
    nextId := w.nextId + 1
    db := w.db.addTask { task with requestPayload := request.modelDump }
    published := w.published ++ [(host.shortId, request)] }

variable (env) in
/-- The state in which the event is recorded. -/
def recorded (user : User) (version : String) (host : Host) (params : Dict) (w : World) :
    World :=
  let w₁ := published env user host params w
  let task := hostTask (env.uuid w.nextId) .host_update_agent host user.email w.txStart
  let request := agentRequest env w.now task params
  { w₁ with
    nextId := w.nextId + 2
    db := { w₁.db with
      auditEvents := w.db.auditEvents ++ [auditEvent (env.uuid (w.nextId + 1)) w.now (some user)
        "host.update_agent" host.ref (some { task with requestPayload := request.modelDump })
        (.obj [("version", .str version), ("rollout", .bool true)])] } }

/-- A publication sends to its host. -/
private lemma sends_published : Sends host w (published env user host params w) :=
  ⟨rfl, ⟨_, rfl, rfl, rfl⟩, _, rfl, rfl⟩

/-- So does one that is recorded. -/
private lemma sends_recorded : Sends host w (recorded env user version host params w) :=
  ⟨rfl, ⟨_, rfl, rfl, rfl⟩, _, rfl, rfl⟩

/-- A host that has passed its checks: its request is published unless a step before it raises. -/
lemma send_cases (faults : Faults) (user : User) (version : String) (host : Host) (params : Dict)
    (w : World) :
    (faults.hits host.id [.flush, .publish] = true ∧
      ∃ e t, send env faults user version host params w = (.error e, t) ∧ (∀ a, e ≠ .apiError a) ∧
        t.published = w.published) ∨
    (faults.hits host.id [.flush, .publish] = false ∧
      ∃ t, Sends host w t ∧
        ((faults.hits host.id [.close, .record, .taskOut] = true ∧
          ∃ e, send env faults user version host params w = (.error e, t) ∧ ∀ a, e ≠ .apiError a) ∨
        (faults.hits host.id [.close, .record, .taskOut] = false ∧
          send env faults user version host params w = (.ok (), t)))) := by
  have hapi : ∀ {stage e}, faults.raised host.id stage = some e → ∀ a, e ≠ .apiError a := by
    rintro stage e h a rfl
    exact faults.notApiError _ _ _ h
  unfold send
  rcases hflush : faults.raised host.id .flush with _ | e
  · rcases hpublish : faults.raised host.id .publish with _ | e
    · refine Or.inr ⟨by simp [Faults.hits, hflush, hpublish], ?_⟩
      rcases hclose : faults.raised host.id .close with _ | e
      · refine ⟨recorded env user version host params w, sends_recorded, ?_⟩
        rcases hrecord : faults.raised host.id .record with _ | e
        · rcases hout : faults.raised host.id .taskOut with _ | e
          · exact Or.inr ⟨by simp [Faults.hits, hclose, hrecord, hout], rfl⟩
          · exact Or.inl ⟨by simp [Faults.hits, hout], e, rfl, hapi hout⟩
        · exact Or.inl ⟨by simp [Faults.hits, hrecord], e, rfl, hapi hrecord⟩
      · exact ⟨published env user host params w, sends_published,
          Or.inl ⟨by simp [Faults.hits, hclose], e, rfl, hapi hclose⟩⟩
    · exact Or.inl ⟨by simp [Faults.hits, hpublish], e, _, rfl, hapi hpublish, rfl⟩
  · exact Or.inl ⟨by simp [Faults.hits, hflush], e, _, rfl, hapi hflush, rfl⟩

variable (env) in
/-- What an iteration does, by its outcome. -/
def Does (o : Outcome) (host : Host) (w : World) : Except Raised Unit × World → Prop
  | (r, t) =>
    match o with
    | .skipped => r = .ok () ∧ t = w
    | .raisesUnsent => (∃ e, r = .error e) ∧ t.published = w.published
    | .raisesSent => (∃ e, r = .error e) ∧ Sends host w t
    | .sent => r = .ok () ∧ Sends host w t

/-- Errors that are none of the API pass through. -/
lemma skipApiError_error {m : M Unit} {e : Raised} (h : m w = (.error e, t))
    (he : ∀ a, e ≠ .apiError a) : skipApiError m w = (.error e, t) := by
  unfold skipApiError
  rw [h]
  cases e with
  | apiError a => exact absurd rfl (he a)
  | _ => rfl

/-- What returns goes through. -/
lemma skipApiError_ok {m : M Unit} (h : m w = (.ok (), t)) : skipApiError m w = (.ok (), t) := by
  unfold skipApiError
  rw [h]

/-- A look at a host fails by the fault, or passes. -/
private lemma look_cases (faults : Faults) (host : Host) (db : Db) (w : World) :
    (faults.hitsLook db host.id = true ∧
      ∃ e, look faults db host w = (.error e, w) ∧ ∀ a, e ≠ .apiError a) ∨
    (faults.hitsLook db host.id = false ∧ look faults db host w = (.ok (), w)) := by
  have hapi : ∀ {stage e}, faults.raised host.id stage = some e → ∀ a, e ≠ .apiError a := by
    rintro stage e h a rfl
    exact faults.notApiError _ _ _ h
  unfold look Faults.hitsLook
  rcases hquery : faults.raised host.id .query with _ | e
  · rcases (activeHostTasks db host.id Task.isAgentUpgrade).isEmpty with _ | _
    · exact Or.inr ⟨by simp [Faults.hits, hquery], rfl⟩
    · rcases hurl : faults.raised host.id .downloadUrl with _ | e
      · exact Or.inr ⟨by simp [Faults.hits, hquery, hurl], rfl⟩
      · exact Or.inl ⟨by simp [Faults.hits, hurl], e, rfl, hapi hurl⟩
  · exact Or.inl ⟨by simp [Faults.hits, hquery], e, rfl, hapi hquery⟩

/-- **An iteration does what its outcome says.** -/
theorem iteration_does (faults : Faults) (user : User) (version checksum : String)
    (url : Option String) (host : Host) (w : World) :
    Does (outcome env faults version checksum url w.now w.db host) host w
      (iteration env faults user version checksum url host w) := by
  unfold iteration outcome
  rw [Prog.read_bind_run]
  by_cases hskip : agentConnected env w.now host = false ∨ host.agentVersion.isStr version = true
  · rw [if_pos hskip, if_pos hskip]
    exact ⟨rfl, rfl⟩
  rw [if_neg hskip, if_neg hskip]
  rcases look_cases faults host w.db w with ⟨hhit, e, hlook, hapi⟩ | ⟨hmiss, hlook⟩
  · rw [if_pos hhit, skipApiError_error (Prog.bind_run_error hlook) hapi]
    exact ⟨⟨e, rfl⟩, rfl⟩
  rw [if_neg (by rw [hmiss]; decide)]
  unfold skipApiError
  rw [Prog.bind_run_ok hlook]
  rcases checkAgentUpgrade env w.now w.db host version checksum url with e | params
  · cases e with
    | apiError a => exact ⟨rfl, rfl⟩
    | _ => exact ⟨⟨_, rfl⟩, rfl⟩
  change Does _ host w (skipApiError (send env faults user version host params) w)
  rcases send_cases faults user version host params w with
    ⟨hhit, e, t, hsend, hapi, hsame⟩ | ⟨hmiss, t, hsends, ⟨hhit, e, hsend, hapi⟩ | ⟨hmiss', hsend⟩⟩
  · rw [skipApiError_error hsend hapi]
    simp only [hhit, if_true]
    exact ⟨⟨e, rfl⟩, hsame⟩
  · rw [skipApiError_error hsend hapi]
    simp only [hmiss, Bool.false_eq_true, if_false, hhit, if_true]
    exact ⟨⟨e, rfl⟩, hsends⟩
  · rw [skipApiError_ok hsend]
    simp only [hmiss, hmiss', Bool.false_eq_true, if_false]
    exact ⟨rfl, hsends⟩

/-- A host that is sent its request changes the outcome of no other host. -/
lemma outcome_of_sends {other : Host} (h : Sends host w t) (hne : other.id ≠ host.id) :
    outcome env faults version checksum url t.now t.db other =
      outcome env faults version checksum url w.now w.db other := by
  obtain ⟨task, htasks, hhost, -⟩ := h.tasks
  have hactive : activeHostTasks t.db other.id Task.isAgentUpgrade =
      activeHostTasks w.db other.id Task.isAgentUpgrade := by
    unfold activeHostTasks
    rw [htasks, List.filter_append, List.filter_singleton, hhost,
      decide_eq_false (Ne.symm hne)]
    simp
  unfold outcome Faults.hitsLook checkAgentUpgrade
  rw [h.now, hactive]

end Iteration

/-! ## The loop -/

/-- The hosts that are sent a request, until one raises. -/
def sentHosts (o : Host → Outcome) : List Host → List Host
  | [] => []
  | host :: hosts =>
    match o host with
    | .skipped => sentHosts o hosts
    | .raisesUnsent => []
    | .raisesSent => [host]
    | .sent => host :: sentHosts o hosts

section Loop

variable {o : Host → Outcome} {hosts : List Host} {w t : World}

/-- The hosts that are sent to are among the hosts. -/
lemma sentHosts_subset : ∀ h ∈ sentHosts o hosts, h ∈ hosts := by
  induction hosts with
  | nil => exact nofun
  | cons host hosts ih =>
    intro h hh
    unfold sentHosts at hh
    split at hh
    · exact List.mem_cons_of_mem _ (ih h hh)
    · cases hh
    · exact List.mem_singleton.mp hh ▸ List.mem_cons_self
    · rcases List.mem_cons.mp hh with rfl | hh
      · exact List.mem_cons_self
      · exact List.mem_cons_of_mem _ (ih h hh)

/-- The first host that is not skipped raises before its request is published. -/
def RaisesFirst (o : Host → Outcome) (hosts : List Host) : Prop :=
  ∃ pre host post, hosts = pre ++ host :: post ∧ (∀ h ∈ pre, o h = .skipped) ∧
    o host = .raisesUnsent

/-- **No host is sent a request** exactly when every host is skipped, or the first that is not
raises before its request is published. -/
lemma sentHosts_eq_nil :
    sentHosts o hosts = [] ↔ (∀ h ∈ hosts, o h = .skipped) ∨ RaisesFirst o hosts := by
  induction hosts with
  | nil => exact iff_of_true rfl (Or.inl nofun)
  | cons host hosts ih =>
    have hnext : RaisesFirst o (host :: hosts) ↔
        o host = .raisesUnsent ∨ o host = .skipped ∧ RaisesFirst o hosts := by
      constructor
      · rintro ⟨_ | ⟨h, pre⟩, first, post, heq, hpre, hfirst⟩
        · obtain ⟨rfl, -⟩ := List.cons.inj heq
          exact Or.inl hfirst
        · obtain ⟨rfl, rfl⟩ := List.cons.inj heq
          exact Or.inr ⟨hpre host List.mem_cons_self, pre, first, post, rfl,
            fun x hx => hpre x (List.mem_cons_of_mem _ hx), hfirst⟩
      · rintro (hhost | ⟨hhost, pre, first, post, rfl, hpre, hfirst⟩)
        · exact ⟨[], host, hosts, rfl, nofun, hhost⟩
        · refine ⟨host :: pre, first, post, rfl, fun x hx => ?_, hfirst⟩
          rcases List.mem_cons.mp hx with rfl | hx
          · exact hhost
          · exact hpre x hx
    rw [hnext, List.forall_mem_cons]
    unfold sentHosts
    rcases hhost : o host with _ | _ | _ | _
    · simp [ih]
    · simp
    · simp
    · simp

/-- A run of the loop: the requests of the hosts that are sent one, and either their tasks or a
raise. -/
structure Ran (o : Host → Outcome) (hosts : List Host) (w : World) (r : Except Raised Unit)
    (t : World) : Prop where
  published : ∃ requests : List (String × AgentRequest), t.published = w.published ++ requests ∧
    requests.map Prod.fst = (sentHosts o hosts).map Host.shortId ∧
    ∀ m ∈ requests, m.2.function = "host_update_agent"
  ends : ((∀ h ∈ hosts, o h = .skipped ∨ o h = .sent) ∧ r = .ok () ∧
      ∃ tasks : List Task, t.db.tasks = w.db.tasks ++ tasks ∧
        tasks.map Task.hostId = (sentHosts o hosts).map Host.id ∧
        ∀ task ∈ tasks, task.kind = .host_update_agent) ∨
    (¬ (∀ h ∈ hosts, o h = .skipped ∨ o h = .sent) ∧ ∃ e, r = .error e)

/-- A host that is skipped first. -/
lemma ran_skipped {host : Host} {r : Except Raised Unit} (ho : o host = .skipped)
    (h : Ran o hosts w r t) : Ran o (host :: hosts) w r t := by
  have hsent : sentHosts o (host :: hosts) = sentHosts o hosts := by
    rw [sentHosts, ho]
  have hall : (∀ h ∈ host :: hosts, o h = .skipped ∨ o h = .sent) ↔
      ∀ h ∈ hosts, o h = .skipped ∨ o h = .sent := by
    rw [List.forall_mem_cons]
    exact and_iff_right (Or.inl ho)
  exact ⟨hsent.symm ▸ h.published, by rw [hall, hsent]; exact h.ends⟩

/-- A host that is sent to first. -/
lemma ran_sent {host : Host} {r : Except Raised Unit} {w₁ : World} (ho : o host = .sent)
    (hsends : Sends host w w₁) (h : Ran o hosts w₁ r t) : Ran o (host :: hosts) w r t := by
  have hsent : sentHosts o (host :: hosts) = host :: sentHosts o hosts := by
    rw [sentHosts, ho]
  have hall : (∀ h ∈ host :: hosts, o h = .skipped ∨ o h = .sent) ↔
      ∀ h ∈ hosts, o h = .skipped ∨ o h = .sent := by
    rw [List.forall_mem_cons]
    exact and_iff_right (Or.inr ho)
  obtain ⟨request, hpub, hfun⟩ := hsends.published
  obtain ⟨task, htasks, hhost, hkind⟩ := hsends.tasks
  obtain ⟨requests, hpub', hids, hfuns⟩ := h.published
  refine ⟨⟨(host.shortId, request) :: requests, ?_, ?_, ?_⟩, ?_⟩
  · rw [hpub', hpub, List.append_assoc]
    rfl
  · rw [hsent, List.map_cons, List.map_cons, hids]
  · exact List.forall_mem_cons.mpr ⟨hfun, hfuns⟩
  · rw [hall, hsent]
    rcases h.ends with ⟨hok, hr, tasks, htasks', hhosts, hkinds⟩ | hraise
    · refine Or.inl ⟨hok, hr, task :: tasks, ?_, ?_, List.forall_mem_cons.mpr ⟨hkind, hkinds⟩⟩
      · rw [htasks', htasks, List.append_assoc]
        rfl
      · rw [List.map_cons, List.map_cons, hhosts, hhost]
    · exact Or.inr hraise

/-- **A run of the loop**, by the outcomes of its hosts at its start.

**Proof sketch.** Induction on the hosts, with one iteration (`iteration_does`) in front. An
iteration that raises ends the loop. One that skips its host changes nothing, and one that sends
adds a message and a task of its host only, so the outcomes of the others stay what they were at the
start. -/
theorem loop_ran (env : Env) (faults : Faults) (user : User) (version checksum : String)
    (url : Option String) (hnodup : (hosts.map Host.id).Nodup)
    (ho : ∀ h ∈ hosts, outcome env faults version checksum url w.now w.db h = o h) :
    Ran o hosts w (loop env faults user version checksum url hosts w).1
      (loop env faults user version checksum url hosts w).2 := by
  induction hosts generalizing w with
  | nil =>
    have hnil : loop env faults user version checksum url [] w = (.ok (), w) := rfl
    rw [hnil]
    refine ⟨⟨[], (List.append_nil _).symm, rfl, fun m hm => ?_⟩,
      Or.inl ⟨fun h hh => ?_, rfl, [], (List.append_nil _).symm, rfl, fun t ht => ?_⟩⟩
    · cases hm
    · cases hh
    · cases ht
  | cons host hosts ih =>
    rw [List.map_cons, List.nodup_cons] at hnodup
    obtain ⟨hhead, htail⟩ := List.forall_mem_cons.mp ho
    have hdoes := @iteration_does env faults user version checksum url host w
    rw [hhead] at hdoes
    have hloop : loop env faults user version checksum url (host :: hosts) w =
        (iteration env faults user version checksum url host >>= fun _ =>
          loop env faults user version checksum url hosts) w := by
      unfold loop
      rw [List.foldlM_cons]
    rcases hrun : iteration env faults user version checksum url host w with ⟨r, w₁⟩
    rw [hrun] at hdoes
    have hraise : ∀ e, r = .error e → ¬ (o host = .skipped ∨ o host = .sent) →
        (∃ requests : List (String × AgentRequest), w₁.published = w.published ++ requests ∧
          requests.map Prod.fst = (sentHosts o (host :: hosts)).map Host.shortId ∧
          ∀ m ∈ requests, m.2.function = "host_update_agent") →
        Ran o (host :: hosts) w (loop env faults user version checksum url (host :: hosts) w).1
          (loop env faults user version checksum url (host :: hosts) w).2 := by
      rintro e rfl hne hpublished
      rw [hloop, Prog.bind_run_error hrun]
      exact ⟨hpublished, Or.inr ⟨fun hall => hne (hall host List.mem_cons_self), e, rfl⟩⟩
    rcases hout : o host with _ | _ | _ | _
    · rw [hout] at hdoes
      obtain ⟨rfl, rfl⟩ := hdoes
      rw [hloop, Prog.bind_run_ok hrun]
      exact ran_skipped hout (ih hnodup.2 htail)
    · rw [hout] at hdoes
      obtain ⟨⟨e, he⟩, hsame⟩ := hdoes
      refine hraise e he (by simp [hout]) ⟨[], ?_, ?_, nofun⟩
      · rw [hsame, List.append_nil]
      · rw [sentHosts, hout]
        rfl
    · rw [hout] at hdoes
      obtain ⟨⟨e, he⟩, hsends⟩ := hdoes
      obtain ⟨request, hpub, hfun⟩ := hsends.published
      refine hraise e he (by simp [hout]) ⟨[(host.shortId, request)], hpub, ?_, ?_⟩
      · rw [sentHosts, hout]
        rfl
      · exact List.forall_mem_singleton.mpr hfun
    · rw [hout] at hdoes
      obtain ⟨rfl, hsends⟩ := hdoes
      rw [hloop, Prog.bind_run_ok hrun]
      refine ran_sent hout hsends (ih hnodup.2 fun h hh => ?_)
      have hne : h.id ≠ host.id := fun heq => hnodup.1 (heq ▸ List.mem_map_of_mem hh)
      rw [outcome_of_sends hsends hne]
      exact htail h hh

end Loop

/-! ## The route -/

/-- What a program raises from a state. -/
def raisedBy (m : M Unit) (w : World) : Option Raised :=
  match (m w).1 with
  | .ok _ => none
  | .error e => some e

/-- The faults of a host whose flushes and broker are those of the state its iteration starts in. -/
def ownFaults (user : User) (version : String) (params : Dict) (w : World) (host : Host) :
    Stage → Option Raised
  | .flush => raisedBy flush { published env user host params w with published := w.published }
  | .publish => if w.brokerUp then none else some .connectionError
  | .record => raisedBy flush (recorded env user version host params w)
  | _ => none

/-- A flush raises no error of the API. -/
lemma raisedBy_flush_ne (w : World) (a : ApiError) : raisedBy flush w ≠ some (.apiError a) := by
  unfold raisedBy
  rw [flush_run]
  split_ifs <;> simp

/-- Neither does a fault of the database or of the broker. -/
lemma ownFaults_ne (user : User) (version : String) (params : Dict) (w : World) (host : Host)
    (stage : Stage) (a : ApiError) :
    ownFaults env user version params w host stage ≠ some (.apiError a) := by
  cases stage with
  | flush => exact raisedBy_flush_ne _ a
  | record => exact raisedBy_flush_ne _ a
  | publish =>
    unfold ownFaults
    split_ifs <;> simp
  | _ => exact nofun

section Route

variable {env} {faults : Faults} {user : User} {version checksum : String} {url : Option String}
  {host : Host} {params : Dict} {w : World}

/-- The service and the audit event of a host that has passed its checks.

**Proof sketch.** Both sides pass the same stages in the same order: flush, publish, close and
record. At each the fault is the one the world raises, so a stage that fails ends both with one
error. -/
lemma queue_eq_send
    (hown : ∀ stage, faults.raised host.id stage = ownFaults env user version params w host stage) :
    (queueHostTask env host .host_update_agent params user.email >>= fun task =>
      record env (some user) "host.update_agent" host.ref (some task)
        (.obj [("version", .str version), ("rollout", .bool true)])) w =
      send env faults user version host params w := by
  set w₁ : World := { published env user host params w with published := w.published } with hw₁
  have hflush : faults.raised host.id .flush = raisedBy flush w₁ := hown .flush
  have hpublish : faults.raised host.id .publish =
      if w.brokerUp then none else some .connectionError := hown .publish
  have hclose : faults.raised host.id .close = none := hown .close
  have hrecord : faults.raised host.id .record =
      raisedBy flush (recorded env user version host params w) := hown .record
  have hout : faults.raised host.id .taskOut = none := hown .taskOut
  have hqueue : queueHostTask env host .host_update_agent params user.email w =
      (flush >>= fun _ => publishRequest host.shortId (agentRequest env w.now
        (hostTask (env.uuid w.nextId) .host_update_agent host user.email w.txStart) params) >>=
        fun _ => pure { hostTask (env.uuid w.nextId) .host_update_agent host user.email w.txStart with
          requestPayload := (agentRequest env w.now (hostTask (env.uuid w.nextId) .host_update_agent
            host user.email w.txStart) params).modelDump }) w₁ := rfl
  unfold send raisedBy at *
  rw [Prog.bind_run, hqueue]
  by_cases hc : w₁.db.Consistent
  · have hok : flush w₁ = (.ok (), w₁) := flush_of_consistent hc
    rw [hok] at hflush
    rw [Prog.bind_run_ok hok, hflush, hclose, hout]
    by_cases hup : w.brokerUp = true
    · rw [if_pos hup] at hpublish
      rw [Prog.bind_run_ok (publishRequest_up (w := w₁) hup), hpublish]
      change flush (recorded env user version host params w) = _
      by_cases hc' : (recorded env user version host params w).db.Consistent
      · rw [flush_of_consistent hc'] at hrecord ⊢
        rw [hrecord]
        rfl
      · obtain ⟨e, he⟩ := flush_of_inconsistent hc'
        rw [he] at hrecord ⊢
        rw [hrecord]
        rfl
    · rw [if_neg hup] at hpublish
      rw [Prog.bind_run_error (publishRequest_down (w := w₁) hup), hpublish]
      rfl
  · obtain ⟨e, he⟩ := flush_of_inconsistent hc
    rw [he] at hflush
    rw [Prog.bind_run_error he, hflush]
    rfl

/-- The params of a host that passes its checks. -/
private def paramsOf (env : Env) (version checksum : String) (url : Option String) (w : World)
    (host : Host) : Dict :=
  match checkAgentUpgrade env w.now w.db host version checksum url with
  | .ok params => params
  | .error _ => []

/-- The body of the loop of the route is an iteration. -/
lemma rolloutHost_eq_iteration
    (hown : ∀ stage, faults.raised host.id stage =
      ownFaults env user version (paramsOf env version checksum url w host) w host stage) :
    rolloutHost env user version checksum url host w =
      iteration env faults user version checksum url host w := by
  unfold rolloutHost iteration
  rw [Prog.read_bind_run, Prog.read_bind_run]
  split_ifs
  · rfl
  · have hlook : look faults w.db host w = (.ok (), w) := by
      have hquery : faults.raised host.id .query = none := hown .query
      have hurl : faults.raised host.id .downloadUrl = none := hown .downloadUrl
      unfold look
      rw [hquery, hurl]
      split_ifs <;> rfl
    unfold skipApiError
    rw [Prog.bind_run_ok hlook, Prog.bind_run, requestAgentUpgrade_run]
    unfold paramsOf at hown
    rcases hcheck : checkAgentUpgrade env w.now w.db host version checksum url with e | params
    · rfl
    · rw [hcheck] at hown
      have hsend := @queue_eq_send env faults user version host params w hown
      rw [Prog.bind_run] at hsend
      dsimp only
      rw [hsend]
      rfl

/-- The loop asks for the faults of its own hosts. -/
lemma loop_congr {faults' : Faults} {hosts : List Host}
    (h : ∀ host ∈ hosts, faults.raised host.id = faults'.raised host.id) :
    loop env faults user version checksum url hosts w =
      loop env faults' user version checksum url hosts w := by
  unfold loop
  induction hosts generalizing w with
  | nil => rfl
  | cons host hosts ih =>
    obtain ⟨hhead, htail⟩ := List.forall_mem_cons.mp h
    have hsame : iteration env faults user version checksum url host =
        iteration env faults' user version checksum url host := by
      unfold iteration look send
      rw [hhead]
    rw [List.foldlM_cons, List.foldlM_cons, hsame, Prog.bind_run, Prog.bind_run]
    rcases iteration env faults' user version checksum url host w with ⟨⟨e⟩ | ⟨⟩, t⟩
    · rfl
    · exact ih htail

/-- Every run is one with the faults it meets. -/
lemma exists_faults_loop (env : Env) (user : User) (version checksum : String) (url : Option String)
    (w : World) {hosts : List Host} (hnodup : (hosts.map Host.id).Nodup) :
    ∃ faults : Faults, hosts.foldlM (fun _ host => rolloutHost env user version checksum url host) () w =
      loop env faults user version checksum url hosts w := by
  induction hosts generalizing w with
  | nil => exact ⟨⟨fun _ _ => none, none, nofun⟩, rfl⟩
  | cons host hosts ih =>
    rw [List.map_cons, List.nodup_cons] at hnodup
    set own := ownFaults env user version (paramsOf env version checksum url w host) w host
    obtain ⟨rest, hrest⟩ := ih (rolloutHost env user version checksum url host w).2 hnodup.2
    set faults : Faults :=
      { raised := fun id => if id = host.id then own else rest.raised id
        commit := none
        notApiError := fun id stage a => by
          split_ifs
          · exact ownFaults_ne env user version _ w host stage a
          · exact rest.notApiError id stage a } with hfaults
    have hown : faults.raised host.id = own := if_pos rfl
    have hhead : rolloutHost env user version checksum url host w =
        iteration env faults user version checksum url host w :=
      rolloutHost_eq_iteration fun stage => by rw [hown]
    have htail : ∀ h ∈ hosts, rest.raised h.id = faults.raised h.id := fun h hh =>
      (if_neg fun heq : h.id = host.id => hnodup.1 (heq ▸ List.mem_map_of_mem hh)).symm
    refine ⟨faults, ?_⟩
    unfold loop at hrest ⊢
    rw [List.foldlM_cons, List.foldlM_cons, Prog.bind_run, Prog.bind_run, ← hhead]
    rcases hrun : rolloutHost env user version checksum url host w with ⟨⟨e⟩ | ⟨⟩, t⟩
    · rfl
    · rw [hrun] at hrest
      exact hrest.trans (loop_congr htail)

/-- The loop of the route, committed, is the rollout under some faults: those of its flushes, its
broker and its commit. -/
lemma exists_faults_hosts (env : Env) (user : User) (version checksum : String) (url : Option String)
    (w : World) {hosts : List Host} (hnodup : (hosts.map Host.id).Nodup) :
    ∃ faults : Faults, sessionScope
        (hosts.foldlM (fun _ host => rolloutHost env user version checksum url host) ()) w =
      rollout env faults user version checksum url hosts w := by
  obtain ⟨faults, hloop⟩ := exists_faults_loop env user version checksum url w hnodup
  set t := (loop env faults user version checksum url hosts w).2
  refine ⟨⟨faults.raised, raisedBy flush t, faults.notApiError⟩, ?_⟩
  have hsame : loop env ⟨faults.raised, raisedBy flush t, faults.notApiError⟩ user version checksum
      url hosts w = loop env faults user version checksum url hosts w := loop_congr fun _ _ => rfl
  unfold sessionScope savepoint rollout Prog.transact Prog.bind
  rw [hloop, hsame]
  rcases hrun : loop env faults user version checksum url hosts w with ⟨⟨e⟩ | ⟨⟩, t'⟩
  · rfl
  · have ht : t = t' := congrArg Prod.snd hrun
    dsimp only
    unfold raisedBy
    rw [ht]
    by_cases hc : t'.db.Consistent
    · rw [flush_of_consistent hc]
      rfl
    · obtain ⟨e, he⟩ := flush_of_inconsistent hc
      rw [he]
      rfl

/-- **The route is the rollout under some faults**, to distinct hosts of the database. -/
theorem exists_faults (env : Env) (user : User) (hostIds : List String)
    (hypervisor version checksum : String) (url : Option String) (w : World)
    (hc : w.db.Consistent) :
    ∃ (faults : Faults) (hosts : List Host), (∀ h ∈ hosts, h ∈ w.db.hosts) ∧
      (hosts.map Host.id).Nodup ∧
      sessionScope (rolloutAgentBinary env user hostIds hypervisor version checksum url) w =
        rollout env faults user version checksum url hosts w := by
  set hosts := w.db.hosts.filter fun h =>
    h.hypervisor.isStr hypervisor && (hostIds.isEmpty || decide (h.id ∈ hostIds))
  have hsub : hosts.Sublist w.db.hosts := List.filter_sublist
  have hnodup : (hosts.map Host.id).Nodup := hc.keyed.hostIds.sublist (hsub.map _)
  obtain ⟨faults, hrun⟩ := exists_faults_hosts env user version checksum url w hnodup
  refine ⟨faults, hosts, fun h hh => hsub.subset hh, hnodup, ?_⟩
  rw [← hrun]
  exact savepoint_congr (by unfold rolloutAgentBinary; rw [Prog.read_bind_run])

end Route

/-! ## Requests and tasks -/

/-- The host was sent a `host_update_agent` request between the two states. -/
def Sent (before after : World) (host : Host) : Prop :=
  ∃ m ∈ after.published.drop before.published.length, m.1 = host.shortId ∧
    m.2.function = "host_update_agent"

/-- A `host_update_agent` task of the host was committed between the two states. -/
def Tasked (before after : World) (host : Host) : Prop :=
  ∃ task ∈ after.db.tasks.drop before.db.tasks.length, task.hostId = host.id ∧
    task.kind = .host_update_agent

section Main

variable {o : Host → Outcome} {hosts : List Host} {host : Host} {w t : World}

/-- A short identifier names one host. -/
private lemma eq_of_shortId (hc : w.db.Consistent) {a b : Host} (ha : a ∈ w.db.hosts)
    (hb : b ∈ w.db.hosts) (h : a.shortId = b.shortId) : a = b :=
  List.inj_on_of_nodup_map hc.keyed.hostShortIds ha hb h

/-- A message goes to a host exactly if the outcome says so. -/
lemma Ran.sent_iff {r : Except Raised Unit} (h : Ran o hosts w r t) (hc : w.db.Consistent)
    (hhosts : ∀ h ∈ hosts, h ∈ w.db.hosts) (hmem : host ∈ hosts) :
    Sent w t host ↔ host ∈ sentHosts o hosts := by
  obtain ⟨requests, hpub, hids, hfuns⟩ := h.published
  unfold Sent
  rw [hpub, List.drop_left]
  constructor
  · rintro ⟨m, hm, hid, -⟩
    have hin : m.1 ∈ (sentHosts o hosts).map Host.shortId := hids ▸ List.mem_map_of_mem hm
    obtain ⟨h', hh', heq⟩ := List.mem_map.mp hin
    have hsame : h' = host := eq_of_shortId hc (hhosts h' (sentHosts_subset h' hh'))
      (hhosts host hmem) (heq.trans hid)
    exact hsame ▸ hh'
  · intro hin
    have hid : host.shortId ∈ requests.map Prod.fst := hids ▸ List.mem_map_of_mem hin
    obtain ⟨m, hm, heq⟩ := List.mem_map.mp hid
    exact ⟨m, hm, heq, hfuns m hm⟩

/-- **The hosts that were sent a `host_update_agent` request are the hosts with a committed task**
exactly when nothing but an `ApiError` is raised, every host is skipped, or the first host that is
not raises before its request is published.

**Proof sketch.** Run the loop (`loop_ran`): it ends after all hosts, or raises at the first that is
neither skipped nor sent. If it raises, or the commit fails, all tasks are rolled back, and the two
sets agree exactly if nothing was sent. Else the tasks are those of the hosts that were sent to. -/
theorem sent_iff_committed_iff (env : Env) (faults : Faults) (user : User)
    (version checksum : String) (url : Option String) (w : World) (hosts : List Host)
    (hc : w.db.Consistent) (hhosts : ∀ h ∈ hosts, h ∈ w.db.hosts)
    (hnodup : (hosts.map Host.id).Nodup) :
    let o := outcome env faults version checksum url w.now w.db
    let after := (rollout env faults user version checksum url hosts w).2
    (∀ h ∈ hosts, Sent w after h ↔ Tasked w after h) ↔
      ((∀ h ∈ hosts, o h = .skipped ∨ o h = .sent) ∧ faults.commit = none) ∨
      (∀ h ∈ hosts, o h = .skipped) ∨ RaisesFirst o hosts := by
  intro o after
  rw [← sentHosts_eq_nil]
  have hran : Ran o hosts w (loop env faults user version checksum url hosts w).1
      (loop env faults user version checksum url hosts w).2 :=
    loop_ran env faults user version checksum url hnodup fun _ _ => rfl
  rcases hrun : loop env faults user version checksum url hosts w with ⟨r, t⟩
  rw [hrun] at hran
  have hsent : ∀ h ∈ hosts, Sent w t h ↔ h ∈ sentHosts o hosts := fun h hh =>
    hran.sent_iff hc hhosts hh
  -- what is rolled back leaves requests without tasks
  have hrolled : (∃ e, rollout env faults user version checksum url hosts w =
        (.error e, rollback w t)) →
      ¬ ((∀ h ∈ hosts, o h = .skipped ∨ o h = .sent) ∧ faults.commit = none) →
      ((∀ h ∈ hosts, Sent w after h ↔ Tasked w after h) ↔
        ((∀ h ∈ hosts, o h = .skipped ∨ o h = .sent) ∧ faults.commit = none) ∨
        sentHosts o hosts = []) := by
    rintro ⟨e, hr⟩ hnot
    have hafter : after = rollback w t := congrArg Prod.snd hr
    have hnone : ∀ h, ¬ Tasked w after h := by
      rintro h ⟨task, htask, -⟩
      rw [hafter] at htask
      change task ∈ w.db.tasks.drop w.db.tasks.length at htask
      rw [List.drop_length] at htask
      cases htask
    rw [or_iff_right hnot, List.eq_nil_iff_forall_not_mem]
    constructor
    · intro h x hx
      have hx' := sentHosts_subset x hx
      refine hnone x ((h x hx').mp ?_)
      rw [hafter]
      exact (hsent x hx').mpr hx
    · intro h x hx
      refine iff_of_false (fun hs => h x ((hsent x hx).mp ?_)) (hnone x)
      rw [hafter] at hs
      exact hs
  rcases hran.ends with ⟨hall, rfl, tasks, htasks, hids, hkinds⟩ | ⟨hraise, e, rfl⟩
  · rcases hcommit : faults.commit with _ | e
    · have hafter : after = t := by
        have hr : rollout env faults user version checksum url hosts w = (.ok (), t) := by
          unfold rollout
          exact Prog.transact_eq_ok.mpr ⟨t, hrun, by rw [hcommit]; rfl⟩
        exact congrArg Prod.snd hr
      refine iff_of_true (fun h hh => ?_) (Or.inl ⟨hall, rfl⟩)
      rw [hafter, hsent h hh]
      unfold Tasked
      rw [htasks, List.drop_left]
      constructor
      · intro hin
        have hid : h.id ∈ tasks.map Task.hostId := hids ▸ List.mem_map_of_mem hin
        obtain ⟨task, htask, heq⟩ := List.mem_map.mp hid
        exact ⟨task, htask, heq, hkinds task htask⟩
      · rintro ⟨task, htask, heq, -⟩
        have hid : task.hostId ∈ (sentHosts o hosts).map Host.id := hids ▸ List.mem_map_of_mem htask
        obtain ⟨h', hh', heq'⟩ := List.mem_map.mp hid
        have hsame : h' = h := List.inj_on_of_nodup_map hnodup (sentHosts_subset h' hh') hh
          (heq'.trans heq)
        exact hsame ▸ hh'
    · rw [← hcommit]
      refine hrolled ⟨e, ?_⟩ fun h => by simp [hcommit] at h
      unfold rollout Prog.transact Prog.bind
      simp only [hrun, hcommit]
      rfl
  · exact hrolled ⟨e, Prog.transact_of_raise hrun⟩ fun h => hraise h.1

end Main

/-- Whether a message went to a host can be decided. -/
instance (before after : World) (host : Host) : Decidable (Sent before after host) :=
  inferInstanceAs (Decidable (∃ m ∈ _, _ ∧ _))

/-- Whether it has a task can be decided. -/
instance (before after : World) (host : Host) : Decidable (Tasked before after host) :=
  inferInstanceAs (Decidable (∃ task ∈ _, _ ∧ _))

namespace Demo

/-- Two hosts. -/
def hosts : List Host :=
  [OpenVCenter.Demo.host, { OpenVCenter.Demo.host with id := "h2", shortId := "s2" }]

/-- Their deployment. -/
def world : World := { OpenVCenter.Demo.start.world with db := { hosts := hosts } }

/-- The broker is lost when the second host is sent its request. -/
def lost : Faults where
  raised id stage := if id = "h2" ∧ stage = .publish then some .connectionError else none
  commit := none
  notApiError id stage a := by split_ifs <;> simp

/-- The same when the first host is sent its request. -/
def lostFirst : Faults where
  raised id stage := if id = "h" ∧ stage = .publish then some .connectionError else none
  commit := none
  notApiError id stage a := by split_ifs <;> simp

end Demo

/-- The broker is lost at the second host: the first one upgrades without a task. -/
theorem sent_iff_committed_iff_counterexample :
    let after := (rollout OpenVCenter.Demo.settings Demo.lost OpenVCenter.Demo.user "2" "sum"
      (some "url") Demo.hosts Demo.world).2
    Sent Demo.world after OpenVCenter.Demo.host ∧ ¬ Tasked Demo.world after OpenVCenter.Demo.host := by
  decide +kernel

/-- The broker is lost at the first host: it is sent no request, and has no task. -/
theorem sent_iff_committed_iff_first :
    let after := (rollout OpenVCenter.Demo.settings Demo.lostFirst OpenVCenter.Demo.user "2" "sum"
      (some "url") Demo.hosts Demo.world).2
    Sent Demo.world after OpenVCenter.Demo.host ↔ Tasked Demo.world after OpenVCenter.Demo.host :=
  (sent_iff_committed_iff OpenVCenter.Demo.settings Demo.lostFirst OpenVCenter.Demo.user "2" "sum"
    (some "url") Demo.world Demo.hosts (by decide +kernel) (fun _ h => h) (by decide +kernel)).mpr
    (Or.inr (Or.inr ⟨[], _, _, rfl, nofun, by decide +kernel⟩)) OpenVCenter.Demo.host
    (List.mem_cons_self)

end Rollout

end OpenVCenter
