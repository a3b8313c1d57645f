import OpenVCenter.Foundations.Effect
import OpenVCenter.Foundations.Expiring
import OpenVCenter.Database
import OpenVCenter.Protocol

set_option relaxedAutoImplicit false
set_option autoImplicit false

/-!
# Sessions

What a handler runs in: the database session, the Valkey cache, the broker, the clock and the
supply of fresh identifiers.

## Main definitions

* `OpenVCenter.Env` — the standard library, the settings and the supply of identifiers.
* `OpenVCenter.Cache` — the keyspaces `vm:state:*`, `vm:lock:*` and `vm:deleted:*`.
* `OpenVCenter.World`, `OpenVCenter.M` — the state of a handler, and handlers.
* `OpenVCenter.flush`, `OpenVCenter.savepoint`, `OpenVCenter.sessionScope`.
* `OpenVCenter.Call`, `OpenVCenter.Call.through` — a call that may fail before or after its effect.

## Main results

* `OpenVCenter.savepoint_consistent` — a savepoint leaves a consistent database behind when it
  starts on one, whatever happens inside.

## Design

A raise rolls the database back to the start of the savepoint or of the session; writes to the
cache, publishes and identifiers drawn stay (`db.py`: `session_scope`, `get_session`).
-/

namespace OpenVCenter

/-- What a handler does not change: the standard library, the settings of `config.py` and the
supply of fresh identifiers (`ids.new_id`). -/
structure Env where
  py : PyStd
  taskTimeoutSeconds : ℤ
  vmStateTtlSeconds : ℤ
  agentOfflineAfterSeconds : ℤ
  metricsRetentionSeconds : ℤ
  uuid : ℕ → String
  taskTimeout_pos : 0 < taskTimeoutSeconds
  vmStateTtl_pos : 0 < vmStateTtlSeconds
  uuid_injective : Function.Injective uuid

/-- The value of a `vm:lock:<vm>` key. -/
structure Lock where
  taskId : String
  kind : TaskKind
  requestedBy : String
  acquiredAt : Time

/-- The three keyspaces of `cache.py` the handlers use. A tombstone is keyed by host and GUID. -/
structure Cache where
  vmStates : Expiring.Keyspace String Time String := Expiring.empty
  vmLocks : Expiring.Keyspace String Time Lock := Expiring.empty
  tombstones : Expiring.Keyspace (String × String) Time Time := Expiring.empty

/-- The state of a handler. `txStart` is PostgreSQL's `now()`, the start of the transaction;
`published` is what the requests queues have been sent, under the host's short id. -/
structure World where
  now : Time
  txStart : Time
  db : Db
  cache : Cache := {}
  nextId : ℕ := 0
  brokerUp : Bool := true
  published : List (String × AgentRequest) := []

/-- Handlers. -/
abbrev M (α : Type) := Effect.Prog World Raised α

open Effect

/-- Raise `e` unless `x` has a value. -/
def M.ofOption {α : Type} (e : Raised) : Option α → M α
  | some a => pure a
  | none => Prog.raise e

/-- Change the database. -/
def modifyDb (f : Db → Db) : M Unit := Prog.modify fun w => { w with db := f w.db }

/-- Change the cache. -/
def modifyCache (f : Cache → Cache) : M Unit := Prog.modify fun w => { w with cache := f w.cache }

/-- `ids.new_id()`. -/
def newId (env : Env) : M String := fun w =>
  (.ok (env.uuid w.nextId), { w with nextId := w.nextId + 1 })

/-- `db.flush()`, and the flush before a query or a commit. -/
def flush : M Unit := do
  let w ← Prog.read
  if !w.db.fits then Prog.raise .dataError
  else if w.db.Keyed then pure () else Prog.raise .integrityError

/-- How a call to Valkey, the database or the broker ends for its caller. -/
inductive Call where
  /-- the answer arrives -/
  | answered
  /-- the call is carried out and its answer is lost -/
  | lost
  /-- the call is not carried out -/
  | refused
  deriving DecidableEq

/-- A call that may fail: what raises is the client of the service that is called. -/
def Call.through {α : Type} (call : Call) (m : M α) : M α :=
  match call with
  | .answered => m
  | .lost => do
    let _ ← m
    Prog.raise .connectionError
  | .refused => Prog.raise .connectionError

/-- What a rollback from `new` to `old` restores. -/
def rollback (old new : World) : World := { new with db := old.db }

/-- `async with db.begin_nested()`. -/
def savepoint {α : Type} (m : M α) : M α := Prog.transact rollback flush m

/-- `async with session_scope()`: committed when `m` returns, rolled back when it raises. -/
def sessionScope {α : Type} (m : M α) : M α := savepoint m

/-- `messaging/publisher.py`. -/
def publishRequest (hostRef : String) (req : AgentRequest) : M Unit := do
  let w ← Prog.read
  if w.brokerUp then Prog.modify fun w => { w with published := w.published ++ [(hostRef, req)] }
  else Prog.raise .connectionError

/-- A publication with the broker up. -/
theorem publishRequest_up {hostRef : String} {req : AgentRequest} {w : World}
    (h : w.brokerUp = true) : publishRequest hostRef req w =
      (.ok (), { w with published := w.published ++ [(hostRef, req)] }) := by
  unfold publishRequest
  rw [Prog.read_bind_run, if_pos h]
  rfl

/-- A publication with the broker down. -/
theorem publishRequest_down {hostRef : String} {req : AgentRequest} {w : World}
    (h : ¬ w.brokerUp = true) : publishRequest hostRef req w = (.error .connectionError, w) := by
  unfold publishRequest
  rw [Prog.read_bind_run, if_neg h]
  rfl

/-- A string field that is neither None nor empty. -/
def nonEmpty : Option String → Option String
  | some s => if s.isEmpty then none else some s
  | none => none

/-! ## Identifiers -/

/-- The identifier has been drawn. -/
def Drawn (env : Env) (w : World) (id : String) : Prop := ∃ k < w.nextId, id = env.uuid k

/-- An identifier stays drawn. -/
lemma Drawn.mono {env : Env} {w w' : World} {id : String} (h : Drawn env w id)
    (hle : w.nextId ≤ w'.nextId) : Drawn env w' id := by
  obtain ⟨k, hk, rfl⟩ := h
  exact ⟨k, hk.trans_le hle, rfl⟩

/-- The next identifier has not been drawn. -/
lemma not_drawn_next (env : Env) (w : World) : ¬ Drawn env w (env.uuid w.nextId) := by
  rintro ⟨k, hk, heq⟩
  exact absurd (env.uuid_injective heq) (by omega)

/-! ## Flush and rollback -/

/-- What a flush returns. -/
theorem flush_run (w : World) : flush w =
    if w.db.Consistent then (.ok (), w)
    else (.error (if w.db.fits then .integrityError else .dataError), w) := by
  unfold flush
  rw [Prog.read_bind_run]
  by_cases hf : w.db.fits = true
  · by_cases hk : w.db.Keyed
    · have hc : w.db.Consistent := ⟨hf, hk⟩
      simp [hf, hk, hc]
    · have hc : ¬ w.db.Consistent := fun h => hk h.keyed
      simp [hf, hk, hc]
  · have hc : ¬ w.db.Consistent := fun h => hf h.fits
    simp only [Bool.not_eq_true] at hf
    simp [hf, hc]

/-- A flush of consistent tables. -/
theorem flush_of_consistent {w : World} (h : w.db.Consistent) : flush w = (.ok (), w) := by
  rw [flush_run, if_pos h]

/-- A flush of any other raises. -/
theorem flush_of_inconsistent {w : World} (h : ¬ w.db.Consistent) :
    ∃ e, flush w = (.error e, w) := by
  rw [flush_run, if_neg h]
  exact ⟨_, rfl⟩

/-- Where a flush returns. -/
theorem flush_eq_ok {w t : World} : flush w = (.ok (), t) ↔ w.db.Consistent ∧ t = w := by
  rw [flush_run]
  by_cases h : w.db.Consistent
  · simp [h, eq_comm]
  · simp [h]

/-- It leaves the state alone. -/
@[simp] theorem flush_state (w : World) : (flush w).2 = w := by
  rw [flush_run]
  by_cases h : w.db.Consistent
  · rw [if_pos h]
  · rw [if_neg h]

/-- So it keeps every frame. -/
theorem keeps_flush {F : Frame World} : Keeps F flush := fun w => by
  rw [flush_state]; exact F.refl w

section Savepoint

variable {α : Type} {m : M α} {s t : World} {a : α}

/-- A savepoint that returns did what its body did, and left a consistent database. -/
theorem savepoint_eq_ok : savepoint m s = (.ok a, t) ↔ m s = (.ok a, t) ∧ t.db.Consistent := by
  unfold savepoint
  rw [Prog.transact_eq_ok]
  constructor
  · rintro ⟨s', hm, hf⟩
    obtain ⟨hc, rfl⟩ := flush_eq_ok.mp hf
    exact ⟨hm, hc⟩
  · rintro ⟨hm, hc⟩
    exact ⟨t, hm, flush_of_consistent hc⟩

/-- A savepoint either keeps all of its body's work or rolls the database back. -/
theorem savepoint_cases (m : M α) (s : World) :
    (∃ a t, m s = (.ok a, t) ∧ t.db.Consistent ∧ savepoint m s = (.ok a, t)) ∨
      ∃ e, savepoint m s = (.error e, rollback s (m s).2) := by
  rcases Prog.transact_cases flush_state m s with ⟨a, t, hm, hf, h⟩ | h
  · exact Or.inl ⟨a, t, hm, (flush_eq_ok.mp hf).1, h⟩
  · exact Or.inr h

/-- A savepoint that raises is rolled back. -/
theorem savepoint_of_raise {e : Raised} (h : m s = (.error e, t)) :
    savepoint m s = (.error e, rollback s t) := Prog.transact_of_raise h

/-- A savepoint depends on the run of its body only. -/
theorem savepoint_congr {m' : M α} (h : m s = m' s) : savepoint m s = savepoint m' s := by
  simp only [savepoint, Prog.transact, Prog.bind, h]

/-- A savepoint whose body leaves the constraints broken is rolled back. -/
theorem savepoint_of_inconsistent (h : m s = (.ok a, t)) (hc : ¬ t.db.Consistent) :
    ∃ e, savepoint m s = (.error e, rollback s t) := by
  rcases savepoint_cases m s with ⟨a', t', hm, hc', -⟩ | ⟨e, hr⟩
  · rw [h] at hm
    cases hm
    exact absurd hc' hc
  · rw [h] at hr
    exact ⟨e, hr⟩

/-- A savepoint that starts on a consistent database leaves one. -/
theorem savepoint_consistent (h : s.db.Consistent) : (savepoint m s).2.db.Consistent := by
  rcases savepoint_cases m s with ⟨a, t, -, hc, hr⟩ | ⟨e, hr⟩
  · rw [hr]; exact hc
  · rw [hr]; exact h

end Savepoint

/-! ## Queries -/

namespace Db

/-- `db.get(Host, id)`. -/
def host (db : Db) (id : String) : Option Host := Table.lookup Host.id id db.hosts

/-- `db.get(Vm, id)`. -/
def vm (db : Db) (id : String) : Option Vm := Table.lookup Vm.id id db.vms

/-- `db.get(Task, id)`. -/
def task (db : Db) (id : String) : Option Task := Table.lookup Task.id id db.tasks

/-- `db.get(Template, id)`. -/
def template (db : Db) (id : String) : Option Template := Table.lookup Template.id id db.templates

/-- Write a changed row of `vms`. -/
def storeVm (db : Db) (v : Vm) : Db := { db with vms := Table.store Vm.id v db.vms }

/-- Write a changed row of `tasks`. -/
def storeTask (db : Db) (t : Task) : Db := { db with tasks := Table.store Task.id t db.tasks }

/-- Write a changed row of `hosts`. -/
def storeHost (db : Db) (h : Host) : Db := { db with hosts := Table.store Host.id h db.hosts }

/-- `db.add(vm)`. -/
def addVm (db : Db) (v : Vm) : Db := { db with vms := db.vms ++ [v] }

/-- `db.add(task)`. -/
def addTask (db : Db) (t : Task) : Db := { db with tasks := db.tasks ++ [t] }

/-- `delete(Vm)` of the rows that satisfy `p`; thumbnails and samples go with their VM. -/
def deleteVms (db : Db) (p : Vm → Bool) : Db :=
  { db with
    vms := Table.deleteWhere p db.vms
    thumbnails := db.thumbnails.filter fun t =>
      decide (t.vmId ∈ (Table.deleteWhere p db.vms).map Vm.id)
    vmMetrics := db.vmMetrics.filter fun m =>
      decide (m.vmId ∈ (Table.deleteWhere p db.vms).map Vm.id) }

/-- `delete(Vm).where(Vm.id == id)`, also `db.delete(vm)`. -/
def deleteVm (db : Db) (id : String) : Db := db.deleteVms fun v => decide (v.id = id)

end Db

end OpenVCenter
