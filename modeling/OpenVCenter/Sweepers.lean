import OpenVCenter.Foundations.Forever
import OpenVCenter.System
import OpenVCenter.WorkerFrames

set_option relaxedAutoImplicit false
set_option autoImplicit false

/-!
# The sweepers of the worker

The three tasks that `run` of `worker/main.py` starts beside the consumers: each repeats a pass and
a sleep for ever. The rest of the system goes on while a sweeper sleeps. A pass may fail, and its
session is rolled back; two of the sweepers catch what it raises.

## Main definitions

* `OpenVCenter.Sweeper`, `OpenVCenter.Sweeper.pass` — the sweepers, and a pass of each.
* `OpenVCenter.Sweeper.reached` — how far a pass has come when it fails.
* `OpenVCenter.Round` — what happens in one round of a sweeper.
* `OpenVCenter.Sweeper.task` — a sweeper after some rounds.
* `OpenVCenter.Survives` — it is still running, and reaches its next pass.

## Main results

* `OpenVCenter.sweepMetrics_run` — a pass of the metrics sweeper leaves no old sample.
* `OpenVCenter.reached_of_pass` — where a pass may fail.
* `OpenVCenter.survives_iff` — **which failures a sweeper survives**: any, but for the metrics
  sweeper, which survives none.
-/

namespace OpenVCenter

open Effect

variable (env : Env)

/-! ## Passes -/

/-- `_timeout_sweeper`, `_metrics_retention_sweeper`, `_audit_retention_sweeper`. -/
inductive Sweeper where
  | timeout | metrics | audit
  deriving DecidableEq

/-- The body of `_metrics_retention_sweeper` in its session. -/
def sweepMetrics : M Unit := do
  let w ← Prog.read
  let cutoff := metricsCutoff env w.now
  modifyDb fun db => { db with
    hostMetrics := Table.deleteWhere (fun m => decide (m.ts < cutoff)) db.hostMetrics }
  modifyDb fun db => { db with
    vmMetrics := Table.deleteWhere (fun m => decide (m.ts < cutoff)) db.vmMetrics }

/-- `prune_events`, for a positive number of days. -/
def pruneEvents (retentionDays : ℤ) : M Unit := do
  let w ← Prog.read
  if retentionDays ≤ 0 then pure ()
  else
    modifyDb fun db => { db with
      auditEvents := Table.deleteWhere
        (fun e => decide (e.occurredAt < w.now - seconds (retentionDays * 86400))) db.auditEvents }

namespace Sweeper

/-- What a pass does in its session. -/
def pass (retentionDays : ℤ) : Sweeper → M Unit
  | timeout => sweepStaleTasks env
  | metrics => sweepMetrics env
  | audit => pruneEvents retentionDays

/-- The seconds between two passes. -/
def interval : Sweeper → ℕ
  | timeout => 30
  | metrics => 300
  | audit => 3600

end Sweeper

/-! ## Rounds -/

/-- What a pass raises: an exception of a handler, of the database or of the cache. -/
inductive SweepError where
  | raised (e : Raised)
  | database
  | cache

/-- An exception in a pass, once it has been through some of the stale tasks: through none if it
comes first, and through all if it comes from the commit. -/
structure PassFault where
  error : SweepError
  freed : ℕ

/-- A round: what the rest of the system does while the sweeper sleeps, and what its pass meets. -/
structure Round where
  events : List Event
  fault : Option PassFault

/-- The system, and the passes that a sweeper has begun. -/
structure SweeperState where
  state : Committed
  passes : ℕ

/-- `await asyncio.sleep(interval)`, while the rest goes on. -/
def sleep (interval : ℕ) (events : List Event) : Prog SweeperState SweepError Unit :=
  Prog.modify fun s =>
    { s with state := System.run env s.state (.tick (interval * 1000000) :: events) }

/-- The cache without the locks of some tasks. -/
def Cache.freeLocks (c : Cache) (tasks : List Task) : Cache :=
  tasks.foldl (fun c t => if t.targetType = .vm then releaseLock t.targetId t.id c else c) c

namespace Sweeper

/-- What a rollback does not undo of a pass that is through some of the stale tasks: their locks are
freed. The other sweepers write to the database only. -/
def reached (freed : ℕ) (w : World) : Sweeper → World
  | timeout => { w with cache := w.cache.freeLocks ((staleTasks env w.now w.db).take freed) }
  | metrics | audit => w

end Sweeper

/-- `async with session_scope() as db`, for a pass. -/
def runPass (retentionDays : ℤ) (sweeper : Sweeper) (fault : Option PassFault) :
    Prog SweeperState SweepError Unit := fun s =>
  let began := s.passes + 1
  match fault with
  | none =>
    let m := sweeper.pass env retentionDays
    let after : Committed :=
      ⟨(sessionScope m s.state.world).2, savepoint_consistent s.state.consistent⟩
    match (sessionScope m s.state.world).1 with
    | .ok () => (.ok (), ⟨after, began⟩)
    | .error e => (.error (.raised e), ⟨after, began⟩)
  | some f =>
    let reached := sweeper.reached env f.freed s.state.world
    (.error f.error, ⟨⟨rollback s.state.world reached, s.state.consistent⟩, began⟩)

namespace Sweeper

/-- The body of the loop. The metrics sweeper has no `try`; the audit sweeper sleeps last. -/
def body (retentionDays : ℤ) (sweeper : Sweeper) (r : Round) : Prog SweeperState SweepError Unit :=
  let pass := runPass env retentionDays sweeper r.fault
  let sleep := sleep env sweeper.interval r.events
  match sweeper with
  | timeout => do
    sleep
    Prog.catching (fun _ => true) pass
  | metrics => do
    sleep
    pass
  | audit => do
    Prog.catching (fun _ => true) pass
    sleep

/-- The task after some rounds. The audit sweeper returns at once when events are kept forever. -/
def task (retentionDays : ℤ) (sweeper : Sweeper) (rounds : List Round) (s : SweeperState) :
    Status SweepError × SweeperState :=
  if sweeper = audit ∧ retentionDays ≤ 0 then (.returned, s)
  else forever (sweeper.body env retentionDays) rounds s

end Sweeper

/-- The sweeper is still running after the rounds, and the next round begins one more pass. -/
def Survives (retentionDays : ℤ) (sweeper : Sweeper) (rounds : List Round) (s : SweeperState) : Prop :=
  (sweeper.task env retentionDays rounds s).1 = .running ∧
  ∀ next : Round, (sweeper.task env retentionDays (rounds ++ [next]) s).2.passes =
    s.passes + rounds.length + 1

/-! ## What a pass does -/

section Runs

variable {env} {w : World} {s : SweeperState}

/-- The database without the samples from before an instant. -/
def Db.withoutSamplesBefore (cutoff : Time) (db : Db) : Db :=
  { db with
    hostMetrics := db.hostMetrics.filter fun m => decide (cutoff ≤ m.ts)
    vmMetrics := db.vmMetrics.filter fun m => decide (cutoff ≤ m.ts) }

/-- Deleting samples keeps the constraints. -/
lemma Db.Consistent.withoutSamplesBefore {db : Db} (h : db.Consistent) (cutoff : Time) :
    (db.withoutSamplesBefore cutoff).Consistent := by
  have hhost : ∀ m ∈ (db.withoutSamplesBefore cutoff).hostMetrics, m ∈ db.hostMetrics :=
    fun m hm => List.mem_of_mem_filter hm
  have hvm : ∀ m ∈ (db.withoutSamplesBefore cutoff).vmMetrics, m ∈ db.vmMetrics :=
    fun m hm => List.mem_of_mem_filter hm
  obtain ⟨hbound, hhosts, hvms, hthumbs, htasks, hevents, htemplates, hisos, hms, hvs⟩ :=
    Db.fits_iff.mp h.fits
  refine ⟨Db.fits_iff.mpr ⟨hbound, hhosts, hvms, hthumbs, htasks, hevents, htemplates, hisos,
    fun m hm => hms m (hhost m hm), fun m hm => hvs m (hvm m hm)⟩, ?_⟩
  exact { h.keyed with
    hostMetricHost := fun m hm => h.keyed.hostMetricHost m (hhost m hm)
    vmMetricVm := fun m hm => h.keyed.vmMetricVm m (hvm m hm) }

/-- **A pass of the metrics sweeper** leaves no sample from before the cutoff, and changes nothing
else. -/
theorem sweepMetrics_run (h : w.db.Consistent) : sessionScope (sweepMetrics env) w =
    (.ok (), { w with db := w.db.withoutSamplesBefore (metricsCutoff env w.now) }) := by
  refine savepoint_eq_ok.mpr ⟨?_, h.withoutSamplesBefore _⟩
  have hfilter : ∀ {α : Type} (ts : α → Time) (rows : List α),
      Table.deleteWhere (fun m => decide (ts m < metricsCutoff env w.now)) rows =
        rows.filter fun m => decide (metricsCutoff env w.now ≤ ts m) := by
    intro α ts rows
    refine List.filter_congr fun m _ => ?_
    rw [Bool.eq_iff_iff]
    simp
  unfold sweepMetrics Db.withoutSamplesBefore
  simp only [modifyDb, Prog.read_bind_run, Prog.modify_bind_run, Prog.modify_run, hfilter]

/-- Nothing is freed for no tasks. -/
@[simp] lemma freeLocks_nil (c : Cache) : c.freeLocks [] = c := rfl

/-- The locks of tasks are freed one after another. -/
@[simp] lemma freeLocks_cons (c : Cache) (t : Task) (tasks : List Task) :
    c.freeLocks (t :: tasks) =
      (if t.targetType = .vm then releaseLock t.targetId t.id c else c).freeLocks tasks := rfl

/-- The lock of a stale task is freed in the cache alone. -/
lemma freeLocks_run (tasks : List Task) (w : World) :
    tasks.foldlM (fun _ t => if t.targetType = .vm then releaseVmLock t.targetId t.id else pure ())
      () w = (.ok (), { w with cache := w.cache.freeLocks tasks }) := by
  induction tasks generalizing w with
  | nil => rfl
  | cons t tasks ih =>
    rw [List.foldlM_cons]
    by_cases hvm : t.targetType = .vm
    · have hone : releaseVmLock t.targetId t.id w =
          (.ok (), { w with cache := releaseLock t.targetId t.id w.cache }) := rfl
      rw [if_pos hvm, Prog.bind_run_ok hone, ih, freeLocks_cons, if_pos hvm]
    · rw [if_neg hvm, pure_bind, ih, freeLocks_cons, if_neg hvm]

/-- **Where a pass may fail**: one that goes through has come to the cache that is reached at its
last stale task.

**Proof sketch.** Neither prune touches the cache. The timeout sweep has settled its tasks and freed
their locks, all of them since the bound is not below their number, and cancelling the orphans
leaves the cache. -/
theorem reached_of_pass {retentionDays : ℤ} {sweeper : Sweeper} {t : World}
    (h : sweeper.pass env retentionDays w = (.ok (), t)) {freed : ℕ}
    (hfreed : (staleTasks env w.now w.db).length ≤ freed) :
    (sweeper.reached env freed w).cache = t.cache := by
  cases sweeper with
  | metrics =>
    cases h
    rfl
  | audit =>
    have hrun : pruneEvents retentionDays w = (.ok (), t) := h
    unfold pruneEvents at hrun
    rw [Prog.read_bind_run] at hrun
    split_ifs at hrun
    · cases hrun
      rfl
    · cases hrun
      rfl
  | timeout =>
    obtain ⟨⟨⟩, w₁, hstale, horphans⟩ := Prog.bind_eq_ok.mp h
    have hcache : t.cache = w₁.cache := by
      cases horphans
      rfl
    rw [hcache]
    show w.cache.freeLocks ((staleTasks env w.now w.db).take freed) = w₁.cache
    rw [List.take_of_length_le hfreed]
    unfold timeOutStaleTasks at hstale
    rw [Prog.read_bind_run] at hstale
    dsimp only at hstale
    split_ifs at hstale with hnone
    · rw [List.isEmpty_iff.mp hnone]
      cases hstale
      rfl
    · rw [modifyDb, Prog.modify_bind_run] at hstale
      obtain ⟨⟨⟩, w₂, hflush, hsettle⟩ := Prog.bind_eq_ok.mp hstale
      obtain ⟨-, rfl⟩ := flush_eq_ok.mp hflush
      obtain ⟨⟨⟩, w₃, hevents, hlocks⟩ := Prog.bind_eq_ok.mp hsettle
      rw [freeLocks_run] at hlocks
      obtain rfl := (Prod.mk.inj hlocks).2
      obtain rfl := settleTaskEvents_eq_ok hevents
      rfl

/-- Every pass counts. -/
lemma runPass_passes (retentionDays : ℤ) (sweeper : Sweeper) (fault : Option PassFault)
    (s : SweeperState) : (runPass env retentionDays sweeper fault s).2.passes = s.passes + 1 := by
  unfold runPass
  rcases fault with _ | f
  · dsimp only
    rcases (sessionScope (sweeper.pass env retentionDays) s.state.world).1 with e | ⟨⟩ <;> rfl
  · rfl

/-- A pass that meets a fault raises it. -/
lemma runPass_fault (retentionDays : ℤ) (sweeper : Sweeper) (f : PassFault) (s : SweeperState) :
    ∃ t, runPass env retentionDays sweeper (some f) s = (.error f.error, t) := ⟨_, rfl⟩

variable (env) in
/-- A pass of the metrics sweeper that meets no exception raises none. -/
lemma runPass_metrics (retentionDays : ℤ) (s : SweeperState) :
    ∃ t, runPass env retentionDays .metrics none s = (.ok (), t) := by
  have hok : (sessionScope (Sweeper.metrics.pass env retentionDays) s.state.world).1 = .ok () :=
    congrArg Prod.fst (sweepMetrics_run s.state.consistent)
  unfold runPass
  dsimp only
  rw [hok]
  exact ⟨_, rfl⟩

/-- Catching changes no state. -/
lemma catching_snd {σ ε : Type} {p : ε → Bool} (m : Prog σ ε Unit) (s : σ) :
    (Prog.catching p m s).2 = (m s).2 := by
  unfold Prog.catching
  rcases m s with ⟨e | ⟨⟩, t⟩ <;> rfl

variable (env) in
/-- Every round begins one pass. -/
lemma body_passes (retentionDays : ℤ) (sweeper : Sweeper) (r : Round) (s : SweeperState) :
    (sweeper.body env retentionDays r s).2.passes = s.passes + 1 := by
  have hcaught : ∀ sweeper s, (Prog.catching (fun _ => true)
      (runPass env retentionDays sweeper r.fault) s).2.passes = s.passes + 1 := by
    intro sweeper s
    rw [catching_snd, runPass_passes]
  cases sweeper with
  | timeout => exact hcaught _ _
  | metrics => exact runPass_passes _ _ r.fault _
  | audit =>
    obtain ⟨⟨⟩, hpass⟩ :=
      returns_catching (runPass env retentionDays .audit r.fault) s
    have hbody : Sweeper.audit.body env retentionDays r s =
        sleep env Sweeper.audit.interval r.events _ := Prog.bind_run_ok hpass
    rw [hbody]
    exact hcaught _ s

/-- The two sweepers with a `try` do not raise. -/
lemma returns_body (retentionDays : ℤ) {sweeper : Sweeper} (h : sweeper ≠ .metrics) (r : Round) :
    Returns (sweeper.body env retentionDays r) := by
  cases sweeper with
  | timeout => exact returns_bind (returns_modify _) fun _ => returns_catching _
  | metrics => exact absurd rfl h
  | audit => exact returns_bind (returns_catching _) fun _ => returns_modify _

/-- A sweeper that is running reaches its next pass. -/
lemma survives_of_running {retentionDays : ℤ} (hdays : 0 < retentionDays) {sweeper : Sweeper}
    {rounds : List Round} (h : (forever (sweeper.body env retentionDays) rounds s).1 = .running) :
    Survives env retentionDays sweeper rounds s := by
  have htask : ∀ rounds, sweeper.task env retentionDays rounds s =
      forever (sweeper.body env retentionDays) rounds s :=
    fun rounds => if_neg fun hoff => absurd hoff.2 (by omega)
  refine ⟨by rw [htask, h], fun next => ?_⟩
  have hrunning : forever (sweeper.body env retentionDays) rounds s =
      (.running, (forever (sweeper.body env retentionDays) rounds s).2) := Prod.ext h rfl
  have hcount := forever_count SweeperState.passes (body_passes env retentionDays sweeper) hrunning
  have hnext := body_passes env retentionDays sweeper next
    (forever (sweeper.body env retentionDays) rounds s).2
  rw [htask, forever_append hrunning, ← hcount, ← hnext]
  rcases hbody : sweeper.body env retentionDays next
    (forever (sweeper.body env retentionDays) rounds s).2 with ⟨e | ⟨⟩, t⟩
  · rw [forever_cons_of_error hbody]
  · rw [forever_cons_of_ok hbody]
    rfl

end Runs

/-- **Which failures a sweeper survives**, whatever the rest of the system does: the timeout sweeper
and the audit sweeper all of them, the metrics sweeper none. -/
theorem survives_iff {retentionDays : ℤ} (hdays : 0 < retentionDays) (sweeper : Sweeper)
    (rounds : List Round) (s : SweeperState) : Survives env retentionDays sweeper rounds s ↔
      (sweeper = .metrics → ∀ r ∈ rounds, r.fault = none) := by
  have htask : sweeper.task env retentionDays rounds s =
      forever (sweeper.body env retentionDays) rounds s :=
    if_neg fun hoff => absurd hoff.2 (by omega)
  by_cases hmetrics : sweeper = .metrics
  · subst hmetrics
    have hiff : (forever (Sweeper.metrics.body env retentionDays) rounds s).1 = .running ↔
        ∀ r ∈ rounds, r.fault = none := by
      refine forever_running_iff (fun r s hr => ?_) fun r s hr => ?_
      · obtain ⟨t, ht⟩ := runPass_metrics env retentionDays
          ((sleep env Sweeper.metrics.interval r.events s).2)
        refine ⟨t, ?_⟩
        rw [← hr] at ht
        exact ht
      · obtain ⟨f, hf⟩ := Option.ne_none_iff_exists'.mp hr
        obtain ⟨t, ht⟩ := @runPass_fault env retentionDays .metrics f
          ((sleep env Sweeper.metrics.interval r.events s).2)
        refine ⟨f.error, t, ?_⟩
        rw [← hf] at ht
        exact ht
    constructor
    · intro h _
      exact hiff.mp (by rw [← htask]; exact h.1)
    · intro h
      exact survives_of_running hdays (hiff.mpr (h rfl))
  · constructor
    · exact fun _ h => absurd h hmetrics
    · intro _
      refine survives_of_running hdays ?_
      rw [forever_of_returns (returns_body retentionDays hmetrics)]

/-- The audit sweeper lives through a failure of the database. -/
theorem survives_iff_audit :
    Survives Demo.settings 365 .audit [⟨[], some ⟨.database, 0⟩⟩, ⟨[], none⟩]
      ⟨Demo.start, 0⟩ :=
  (survives_iff Demo.settings (by decide) .audit _ _).mpr fun h => nomatch h

/-- One failure of the database ends the metrics sweeper. -/
theorem survives_counterexample :
    ¬ Survives Demo.settings 365 .metrics [⟨[], some ⟨.database, 0⟩⟩] ⟨Demo.start, 0⟩ := by
  rintro ⟨h, -⟩
  exact absurd h (by simp [Sweeper.task, Sweeper.body, forever, Prog.bind_run, sleep, runPass])

end OpenVCenter
