import OpenVCenter.Foundations.Machine
import OpenVCenter.HostActions
import OpenVCenter.HostInventory
import OpenVCenter.Provision
import OpenVCenter.VmInventory

set_option relaxedAutoImplicit false
set_option autoImplicit false

/-!
# The system

The API and the worker as one machine whose steps are whole handlers: a request, a message, a
timeout sweep (`worker/main.py`), or the passage of time.

## Main definitions

* `OpenVCenter.sweepStaleTasks` — one timeout sweep.
* `OpenVCenter.Event`, `OpenVCenter.Event.handler` — what can happen.
* `OpenVCenter.Committed`, `OpenVCenter.System.step` — the committed states, and the step.
* `OpenVCenter.Demo.settings`, `OpenVCenter.Demo.start` — a deployment of one host.

## Main results

* `OpenVCenter.System.step` keeps the constraints of the database, whatever the event: a handler
  that raises is rolled back.

## Design

The cache, the broker and the identifiers are not transactional: what a rolled-back handler did
to them stays.
-/

namespace OpenVCenter

open Effect

variable (env : Env)

/-! ## The timeout sweep -/

/-- The tasks a sweep finds past their deadline: past the shortest one in SQL, then past that of
their own kind. -/
def staleTasks (now : Time) (db : Db) : List Task :=
  (db.tasks.filter fun t =>
    !t.status.isTerminal && decide (t.createdAt < now - seconds env.taskTimeoutSeconds)).filter
  fun t => decide (t.createdAt < now - seconds (taskTimeoutSeconds env t.kind))

/-- The error of a task that timed out. -/
def timeoutError : String := "Agent did not respond in time"

/-- The task after a sweep that found it stale. -/
def timedOut (now : Time) (task : Task) : Task :=
  { task with status := .timeout, finishedAt := some now, error := some timeoutError }

/-- A placeholder whose create or clone ended without success. -/
def isOrphan (db : Db) (vm : Vm) : Bool :=
  vm.vmUuid.isNone && db.tasks.any fun t =>
    decide (t.targetId = vm.id) && t.kind.makesPlaceholder &&
    decide (t.status = .timeout ∨ t.status = .failed)

/-- The first half of `_sweep_stale_tasks`. -/
def timeOutStaleTasks : M Unit := do
  let w ← Prog.read
  let stale := staleTasks env w.now w.db
  if stale.isEmpty then pure ()
  else do
    let staleIds := stale.map Task.id
    modifyDb fun db => { db with
      tasks := Table.updateWhere (fun t => decide (t.id ∈ staleIds)) (timedOut w.now) db.tasks }
    flush
    settleTaskEvents staleIds .timeout (some timeoutError)
    stale.foldlM (fun _ t =>
      if t.targetType = .vm then releaseVmLock t.targetId t.id else pure ()) ()

/-- `_sweep_stale_tasks`. -/
def sweepStaleTasks : M Unit := do
  timeOutStaleTasks env
  modifyDb fun db => db.deleteVms (isOrphan db)

/-! ## Events -/

/-- What can happen. A request starts its transaction `lag` microseconds before it runs. -/
inductive Event where
  | vmAction (lag : ℕ) (user : User) (vmId : String) (action : VmAction) (params : Dict)
  | deleteVm (lag : ℕ) (user : User) (vmId : String) (removeFiles : Bool)
  | createVm (lag : ℕ) (user : User) (body : VmCreate)
  | cloneVm (lag : ℕ) (user : User) (body : VmClone)
  | forgetVm (user : User) (vmId : String)
  | releaseLock (user : User) (vmId : String)
  | hostAction (lag : ℕ) (user : User) (hostId : String) (action : HostAction)
  | agentUpgrade (lag : ℕ) (user : User) (hostId version checksum : String) (url : Option String)
  | agentRollout (lag : ℕ) (user : User) (hostIds : List String)
      (hypervisor version checksum : String) (url : Option String)
  | removeHost (user : User) (hostId : String)
  | response (hostId : String) (resp : AgentResponse)
  | vmInventory (hostId : String) (payload : Json)
  | agentStatus (hostId : String) (payload : Json)
  | hostInventory (hostId : String) (payload : Json)
  | templateInventory (hostId : String) (payload : Json)
  | isoInventory (hostId : String) (payload : Json)
  | hostMetrics (hostId : String) (payload : Json)
  | vmMetrics (hostId : String) (payload : Json)
  | sweep
  | tick (elapsed : ℕ)
  | broker (up : Bool)

/-- The handler of an event; time and the broker have none. -/
def Event.handler : Event → Option (M Unit)
  | .vmAction _ user vmId action params => some (OpenVCenter.vmAction env user vmId action params)
  | .deleteVm _ user vmId removeFiles => some (OpenVCenter.deleteVm env user vmId removeFiles)
  | .createVm _ user body => some (OpenVCenter.createVm env user body)
  | .cloneVm _ user body => some (OpenVCenter.cloneVm env user body)
  | .forgetVm user vmId => some (OpenVCenter.forgetVm env user vmId)
  | .releaseLock user vmId => some (releaseVmLockRoute env user vmId)
  | .hostAction _ user hostId action => some (OpenVCenter.hostAction env user hostId action)
  | .agentUpgrade _ user hostId version checksum url =>
    some (updateHostAgent env user hostId version checksum url)
  | .agentRollout _ user hostIds hypervisor version checksum url =>
    some (rolloutAgentBinary env user hostIds hypervisor version checksum url)
  | .removeHost user hostId => some (OpenVCenter.removeHost env user hostId)
  | .response hostId resp => some (applyResponse env hostId resp)
  | .vmInventory hostId payload => some (applyVmInventory env hostId payload)
  | .agentStatus hostId payload => some (applyAgentStatus env hostId payload)
  | .hostInventory hostId payload => some (applyHostInventory env hostId payload)
  | .templateInventory hostId payload => some (applyTemplateInventory env hostId payload)
  | .isoInventory hostId payload => some (applyIsoInventory env hostId payload)
  | .hostMetrics hostId payload => some (applyHostMetrics env hostId payload)
  | .vmMetrics hostId payload => some (applyVmMetrics env hostId payload)
  | .sweep => some (sweepStaleTasks env)
  | .tick _ => none
  | .broker _ => none

/-- How long ago the transaction of an event started. -/
def Event.lag : Event → ℕ
  | .vmAction lag _ _ _ _ => lag
  | .deleteVm lag _ _ _ => lag
  | .createVm lag _ _ => lag
  | .cloneVm lag _ _ => lag
  | .hostAction lag _ _ _ => lag
  | .agentUpgrade lag _ _ _ _ _ => lag
  | .agentRollout lag _ _ _ _ _ _ => lag
  | _ => 0

/-- The cache after the passage of time. -/
def Cache.expire (now : Time) (c : Cache) : Cache where
  vmStates := Expiring.expire c.vmStates now
  vmLocks := Expiring.expire c.vmLocks now
  tombstones := Expiring.expire c.tombstones now

/-- One step, from a state whose database may be anything. -/
def World.step (w : World) (e : Event) : World :=
  match e.handler env with
  | some m => (sessionScope m { w with txStart := w.now - e.lag }).2
  | none =>
    match e with
    | .tick elapsed =>
      { w with now := w.now + elapsed, cache := w.cache.expire (w.now + elapsed) }
    | .broker up => { w with brokerUp := up }
    | _ => w

/-! ## Committed states -/

/-- A state between handlers: its database meets the constraints. -/
structure Committed where
  world : World
  consistent : world.db.Consistent

namespace System

/-- One step of the system. -/
def step (s : Committed) (e : Event) : Committed where
  world := s.world.step env e
  consistent := by
    unfold World.step
    split
    · exact savepoint_consistent s.consistent
    · split <;> exact s.consistent

/-- The state after a run. -/
abbrev run (s : Committed) (es : List Event) : Committed := Machine.run (step env) s es

/-- A state with nothing in it but hosts, clusters, folders and templates. -/
structure Initial (s : Committed) : Prop where
  vms : s.world.db.vms = []
  tasks : s.world.db.tasks = []
  auditEvents : s.world.db.auditEvents = []
  cache : s.world.cache = {}

/-- The states a run reaches. -/
def Reachable (s : Committed) : Prop := ∃ s₀ es, Initial s₀ ∧ run env s₀ es = s

variable {env}

/-- What an event does to the world. -/
@[simp] theorem step_world (s : Committed) (e : Event) :
    (step env s e).world = s.world.step env e := rfl

/-- A step of an event with a handler runs it in a transaction. -/
theorem step_handler {s : Committed} {e : Event} {m : M Unit} (h : e.handler env = some m) :
    (step env s e).world = (sessionScope m { s.world with txStart := s.world.now - e.lag }).2 := by
  rw [step_world, World.step.eq_def, h]

/-- What follows a reachable state is reachable. -/
theorem Reachable.step {s : Committed} (h : Reachable env s) (e : Event) :
    Reachable env (step env s e) := by
  obtain ⟨s₀, es, h₀, rfl⟩ := h
  exact ⟨s₀, es ++ [e], h₀, Machine.run_append⟩

/-- What holds initially and is kept by every step holds in every reachable state. -/
theorem Reachable.invariant {I : Committed → Prop} (hinit : ∀ s, Initial s → I s)
    (hstep : ∀ s e, I s → I (System.step env s e)) {s : Committed} (h : Reachable env s) : I s := by
  obtain ⟨s₀, es, h₀, rfl⟩ := h
  exact Machine.run_invariant hstep (hinit s₀ h₀)

end System

/-! ## A deployment of one host

The environment and the first state of the concrete runs below. -/

namespace Demo

/-- A standard library that is right on the values of these runs: plain ASCII texts, no date but
the origin. -/
def py : PyStd where
  isSpace c := c.isWhitespace
  upper s := String.ofList (s.toList.map Char.toUpper)
  repr _ := "[]"
  parseFloat _ := none
  parseInt _ := none
  fromisoformat _ := none
  isoformat _ := "1970-01-01T00:00:00+00:00"
  b64decode _ := none

/-- The defaults of `config.py`; the identifiers are the unary numbers. -/
def settings : Env where
  py := py
  taskTimeoutSeconds := 300
  vmStateTtlSeconds := 3600
  agentOfflineAfterSeconds := 120
  metricsRetentionSeconds := 3600
  uuid n := String.ofList (List.replicate n 'x')
  taskTimeout_pos := by decide
  vmStateTtl_pos := by decide
  uuid_injective := fun a b h => by simpa using congrArg String.length h

/-- The host. -/
def host : Host := { id := "h", shortId := "s", name := "host", agentLastSeen := some 0 }

/-- The first state. -/
def start : Committed where
  world := { now := 0, txStart := 0, db := { hosts := [host] } }
  consistent := by decide

/-- The example starts in an initial state. -/
theorem start_initial : System.Initial start := ⟨rfl, rfl, rfl, rfl⟩

/-- A snapshot that lists the VMs of the given GUIDs, all off. -/
def snapshot (guids : List String) : Json :=
  .obj [("vms", .arr (guids.map fun g =>
    .obj [("id", .str g), ("name", .str "vm"), ("state", .str "Off")]))]

/-- A user. -/
def user : User := ⟨"user@example.test", none⟩

/-- The VM `"g"` is reported, then started: the task `"x"` of the VM `""` is queued. -/
@[irreducible] def startQueued : Committed :=
  System.run settings start [.vmInventory "h" (snapshot ["g"]), .vmAction 0 user "" .start []]

/-- Its task is queued in a state that can be reached. -/
theorem startQueued_reachable : System.Reachable settings startQueued := by
  unfold startQueued
  exact ⟨start, _, start_initial, rfl⟩

example : startQueued.world.db.tasks.map (fun t => (t.id, t.status, t.targetId)) =
    [("x", .queued, "")] := by decide +kernel

/-- The agent's end of the start. -/
def started : AgentResponse := { id := "x", function := "vm_start", status := "succeeded" }

end Demo

end OpenVCenter
