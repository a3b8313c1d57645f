import Mathlib.Tactic.Linarith
import OpenVCenter.FailedResponse
import OpenVCenter.RequestFrames

set_option relaxedAutoImplicit false
set_option autoImplicit false

/-!
# Mutual exclusion on a VM

At most one task of a VM is active among the kinds that take its lock, and while it is, the lock
names it. The lock has a lifetime, the deadline of its task and a minute; that it outlives the
task rests on the timeout sweeps, which end a task that is past its deadline.

## Main definitions

* `OpenVCenter.Swept` — a committed state with the instant of the last sweep.
* `OpenVCenter.Exclusive` — the timed invariant.
* `OpenVCenter.Swept.Admitted` — no lock is freed by force, sweeps complete, and time does not pass
  a minute beyond the last one.

## Main results

* `OpenVCenter.exclusive_quiet`, `OpenVCenter.exclusive_response`, `OpenVCenter.exclusive_sweep`,
  `OpenVCenter.exclusive_tick` — each step keeps the invariant.
* `OpenVCenter.vm_lock_exclusive` — mutual exclusion in every reachable state.
-/

namespace OpenVCenter

open Effect

variable {env : Env} {w : World} {hostId : String} {resp : AgentResponse} {task : Task} {last : Time}

/-! ## The invariant -/

/-- The lock of the task's VM names the task, and expires no earlier than a minute after the
task's deadline and a minute after the last sweep. -/
def Guarded (env : Env) (last : Time) (w : World) (t : Task) : Prop :=
  ∃ e, w.cache.vmLocks t.targetId = some e ∧ e.value.taskId = t.id ∧
    t.createdAt + seconds (lockTtl env t.kind) ≤ e.expiresAt ∧ last + seconds 60 ≤ e.expiresAt

/-- Every active task of a kind that takes the lock has it. -/
structure Exclusive (env : Env) (last : Time) (w : World) : Prop where
  swept : last ≤ w.now
  rows : ∀ v ∈ w.db.vms, Drawn env w v.id
  locks : ∀ id, w.cache.vmLocks id ≠ none → Drawn env w id
  guarded : ∀ t ∈ w.db.tasks, t.kind.takesVmLock = true → t.status.isTerminal = false →
    Guarded env last w t

/-- An exclusive state is ready for a transaction. -/
lemma Exclusive.ready (h : Exclusive env last w) {start : Time} (hs : start ≤ w.now) :
    Ready env { w with txStart := start } := ⟨hs, h.rows, h.locks⟩

/-- A lock is kept for a minute at least. -/
lemma lockTtl_ge (kind : TaskKind) : seconds 60 ≤ seconds (lockTtl env kind) := by
  have hpos := taskTimeout_pos env kind
  unfold lockTtl seconds
  omega

/-- A step in the frame of the locks keeps the invariant. -/
lemma Exclusive.of_grows {w' : World} (h : Exclusive env last w) (hready : Ready env w')
    (hg : Grows env w w') : Exclusive env last w' where
  swept := by rw [hg.now]; exact h.swept
  rows := hready.rows
  locks := hready.locks
  guarded := by
    intro t ht hk hactive
    rcases hg.tasks t ht with ⟨t₀, ht₀, hsame⟩ | hholds
    · obtain ⟨e, he, hid, hdeadline, hlast⟩ :=
        h.guarded t₀ ht₀ (hsame.kind ▸ hk) (hsame.active hactive)
      refine ⟨e, ?_, hid.trans hsame.id, ?_, hlast⟩
      · rw [← hsame.targetId]; exact hg.locks _ _ he
      · rw [← hsame.createdAt, ← hsame.kind]; exact hdeadline
    · obtain ⟨e, he, hid, hexp, hcreated⟩ := hholds hk
      have hnow : w'.now = w.now := hg.now
      have hswept := h.swept
      have httl : seconds 60 ≤ seconds (lockTtl env t.kind) := lockTtl_ge t.kind
      refine ⟨e, he, hid, ?_, ?_⟩
      · linarith
      · linarith

/-! ## Quiet steps -/

/-- A transaction begins in a state that is ready. -/
lemma atStart_ready (s : Committed) (h : Exclusive env last s.world) :
    Ready env (atStart s.world) := h.ready (by simp)

/-- A request, a snapshot or a heartbeat keeps the invariant. -/
theorem exclusive_quiet {s : Committed} {e : Event} (h : Exclusive env last s.world)
    (he : e.IsQuiet = true) : Exclusive env last (System.step env s e).world := by
  have hstart : Ready env { s.world with txStart := s.world.now - e.lag } := h.ready (by simp)
  obtain ⟨hready, hgrows⟩ := lockFrame_step env s e he hstart
  have h₀ : Exclusive env last { s.world with txStart := s.world.now - e.lag } :=
    ⟨h.swept, h.rows, h.locks, h.guarded⟩
  exact h₀.of_grows hready hgrows

/-! ## Responses -/

/-- A response keeps its task the same task. -/
lemma sameTask_progress {now : Time} {payload : Json} (h : isProgress resp task.status = true) :
    SameTask task (progressTask now resp { task with responsePayload := payload }) := by
  refine ⟨rfl, rfl, rfl, rfl, fun _ => ?_⟩
  simp only [isProgress, Bool.and_eq_true, Bool.not_eq_true'] at h
  exact h.2

/-- The tables of a response keep the locks safe. -/
lemma lockFrame_lifecycle {now : Time} (h : task ∈ w.db.tasks) :
    (lockFrame env).rel w { w with db := lifecycleDb env now resp task w.db } := by
  have hended : SameTask task (endedTask env now resp task) := by
    refine ⟨rfl, rfl, rfl, rfl, fun hactive => ?_⟩
    have hterminal : (endedTask env now resp task).status.isTerminal = true :=
      terminalStatus_isTerminal
    rw [hactive] at hterminal
    cases hterminal
  refine (lockFrame env).trans (lockFrame_storeTask (Or.inl ⟨task, h, hended⟩)) ?_
  exact lockFrame_rows rfl rfl le_rfl rfl rfl rfl

/-- So do its best efforts. -/
lemma lockFrame_applyBestEffort (hostId : String) (resp : AgentResponse) (task : Task) :
    Keeps (lockFrame env) (applyBestEffort env hostId resp task) :=
  keeps_applyBestEffort lockFrame_rollback lockFrame_nextId
    (fun _ _ _ => lockFrame_rows rfl rfl le_rfl rfl rfl rfl)
    (fun _ _ => lockFrame_rows rfl rfl le_rfl rfl rfl rfl)
    (keeps_applyResponseState (fun _ _ => lockFrame_rows rfl rfl le_rfl rfl rfl rfl)
      lockFrame_storeVm (fun _ w => lockFrame_deleteVms w _)
      (fun _ _ _ _ => lockFrame_rows rfl rfl le_rfl rfl rfl rfl) hostId resp)

/-- A response stays in the frame of the locks, but for the lock it frees last when it ends its
task.

**Proof sketch.** By the branches of the handler. All but the last step of the refresh are in the
frame, and the last releases the lock of the task, if it is one for a VM. -/
theorem step_response_locks (env : Env) (s : Committed) (hostId : String) (resp : AgentResponse) :
    (lockFrame env).rel (atStart s.world) (System.step env s (.response hostId resp)).world ∨
    ∃ task t, s.world.db.taskOfHost hostId resp.id = some task ∧
      (lockFrame env).rel (atStart s.world) t ∧
      t.db.tasks = (lifecycleDb env s.world.now resp.stripped task s.world.db).tasks ∧
      (System.step env s (.response hostId resp)).world =
        { t with cache := releaseLock task.targetId task.id t.cache } := by
  have hc := s.consistent
  have hquiet : (lockFrame env).rel (atStart s.world)
      (applyResponse env hostId resp (atStart s.world)).2 →
      (lockFrame env).rel (atStart s.world) (System.step env s (.response hostId resp)).world :=
    fun h => rel_savepoint lockFrame_rollback h
  rcases hfound : s.world.db.taskOfHost hostId resp.id with _ | task
  · refine Or.inl (hquiet ?_)
    rw [applyResponse_unknown (w := atStart s.world) hfound]
    exact (lockFrame env).refl _
  have htask := task_of_taskOfHost hfound
  have hmem : task ∈ s.world.db.tasks := (hc.task_eq_some.mp htask).1
  cases hp : isProgress resp task.status with
  | true =>
    refine Or.inl (hquiet ?_)
    by_cases hs : resp.strippable = true
    · rw [applyResponse_progress (w := atStart s.world) hfound hp hs]
      exact lockFrame_storeTask (Or.inl ⟨task, hmem, sameTask_progress hp⟩)
    · rw [applyResponse_not_strippable (w := atStart s.world) hfound hs]
      exact (lockFrame env).refl _
  | false =>
    by_cases hl : Lands env s.world.now resp
    · have hc₁ : (lifecycleDb env s.world.now resp.stripped task s.world.db).Consistent :=
        (lifecycleDb_consistent_iff hc htask).mpr hl.2
      set ended : Task := endedTask env s.world.now resp.stripped task with hended
      set w₁ : World := { atStart s.world with
        db := lifecycleDb env s.world.now resp.stripped task s.world.db }
      have hlanded : applyResponse env hostId resp (atStart s.world) =
          applyRefresh env hostId resp.stripped ended w₁ :=
        applyResponse_landed (w := atStart s.world) hc hfound hp hl
      have hfirst : (lockFrame env).rel (atStart s.world) w₁ := lockFrame_lifecycle hmem
      have hstamp : Keeps (lockFrame env) (stampAgentVersion env hostId resp.stripped ended) :=
        keeps_stampAgentVersion (fun _ _ _ => lockFrame_rows rfl rfl le_rfl rfl rfl rfl) _ _ _
      rcases applyRefresh_cases (w := w₁) hc₁ rfl hstamp (lockFrame_applyBestEffort _ _ _) with
        ⟨e, t, ht, hrel, -⟩ | ⟨t, hrel, hct, htasks, -, -, ht⟩
      · refine Or.inl (hquiet ?_)
        rw [hlanded, ht]
        exact (lockFrame env).trans hfirst hrel
      · have hstep : ∀ t', applyResponse env hostId resp (atStart s.world) = (.ok (), t') →
            t'.db = t.db → (System.step env s (.response hostId resp)).world = t' := by
          intro t' ht' hdb
          rw [step_response, sessionScope, savepoint_eq_ok.mpr ⟨ht', hdb ▸ hct⟩]
        by_cases htype : ended.targetType = .vm
        · refine Or.inr ⟨task, t, rfl, (lockFrame env).trans hfirst hrel, htasks, ?_⟩
          refine hstep _ (hlanded.trans (ht.trans ?_)) rfl
          rw [if_pos htype]
          rfl
        · refine Or.inl ?_
          rw [hstep t (hlanded.trans (ht.trans (by rw [if_neg htype]))) rfl]
          exact (lockFrame env).trans hfirst hrel
    · refine Or.inl ?_
      rw [response_rejected s hfound hp hl]
      exact (lockFrame env).refl _

/-- A response keeps the invariant: the lock it frees is that of the task it has just ended. -/
theorem exclusive_response {s : Committed} (h : Exclusive env last s.world) :
    Exclusive env last (System.step env s (.response hostId resp)).world := by
  have hready := atStart_ready s h
  have h₀ : Exclusive env last (atStart s.world) := ⟨h.swept, h.rows, h.locks, h.guarded⟩
  rcases step_response_locks env s hostId resp with
    hrel | ⟨task, t, -, hrel, htasks, hstep⟩
  · obtain ⟨hready', hgrows⟩ := hrel hready
    exact h₀.of_grows hready' hgrows
  · obtain ⟨hready', hgrows⟩ := hrel hready
    have ht := h₀.of_grows hready' hgrows
    rw [hstep]
    refine ⟨ht.swept, ht.rows, fun id hid => ht.locks id fun hnone => hid ?_, ?_⟩
    · change (releaseLock task.targetId task.id t.cache).vmLocks id = none
      rw [releaseVmLock_locks, hnone, ite_self]
    · intro x hx hk hactive
      obtain ⟨e, he, hid, hdeadline, hlast⟩ := ht.guarded x hx hk hactive
      refine ⟨e, ?_, hid, hdeadline, hlast⟩
      change (releaseLock task.targetId task.id t.cache).vmLocks x.targetId = some e
      rw [releaseVmLock_locks, if_neg, he]
      -- the freed lock names the ended task, and no active task has its identifier
      rintro ⟨htarget, lock, hlock, hltask⟩
      have hget : Expiring.get t.cache.vmLocks x.targetId = some e.value :=
        Expiring.get_eq_some.mpr ⟨e.expiresAt, he⟩
      rw [← htarget, hget] at hlock
      obtain rfl : e.value = lock := by simpa using hlock
      change x ∈ t.db.tasks at hx
      rw [htasks] at hx
      rcases Table.mem_store.mp hx with ⟨-, hne⟩ | ⟨rfl, -⟩
      · exact hne (hid.symm.trans hltask)
      · rw [show (endedTask env s.world.now resp.stripped task).status.isTerminal = true from
          terminalStatus_isTerminal] at hactive
        cases hactive

/-! ## Sweeps -/

/-- What a sweep that times out the tasks `ids` does besides: it frees locks that name them. -/
def sweepFrame (ids : List String) : Frame World where
  rel w t := t.now = w.now ∧ t.nextId = w.nextId ∧ t.db.vms = w.db.vms ∧
    (∀ x e, w.cache.vmLocks x = some e → e.value.taskId ∉ ids → t.cache.vmLocks x = some e) ∧
    ∀ x, t.cache.vmLocks x ≠ none → w.cache.vmLocks x ≠ none
  refl _ := ⟨rfl, rfl, rfl, fun _ _ h _ => h, fun _ h => h⟩
  trans := by
    rintro a b c ⟨h₁, h₂, h₃, h₄, h₅⟩ ⟨k₁, k₂, k₃, k₄, k₅⟩
    exact ⟨k₁.trans h₁, k₂.trans h₂, k₃.trans h₃, fun x e he hid => k₄ x e (h₄ x e he hid) hid,
      fun x hx => h₅ x (k₅ x hx)⟩

/-- The sweep releases the locks of the tasks it has timed out. -/
lemma sweepFrame_release {ids : List String} {vmId taskId : String} (h : taskId ∈ ids) (w : World) :
    (sweepFrame ids).rel w { w with cache := releaseLock vmId taskId w.cache } := by
  refine ⟨rfl, rfl, rfl, fun x e he hid => ?_, fun x hx hnone => hx ?_⟩
  · change (releaseLock vmId taskId w.cache).vmLocks x = some e
    rw [releaseVmLock_locks, if_neg, he]
    rintro ⟨rfl, lock, hlock, rfl⟩
    have hget : Expiring.get w.cache.vmLocks x = some e.value :=
      Expiring.get_eq_some.mpr ⟨e.expiresAt, he⟩
    rw [hget] at hlock
    obtain rfl : e.value = lock := by simpa using hlock
    exact hid h
  · change (releaseLock vmId taskId w.cache).vmLocks x = none
    rw [releaseVmLock_locks, hnone, ite_self]

/-- The first half of a sweep that completes: the stale tasks, and no others, have timed out. -/
theorem timeOutStaleTasks_ok {t : World} (h : timeOutStaleTasks env w = (.ok (), t)) :
    let ids := (staleTasks env w.now w.db).map Task.id
    (sweepFrame ids).rel w t ∧
      t.db.tasks = Table.updateWhere (fun t => decide (t.id ∈ ids)) (timedOut w.now) w.db.tasks := by
  intro ids
  have hlocks : (sweepFrame ids).rel { w with db := timedOutDb env w.now w.db } t :=
    timeOutStaleTasks_eq_ok
      (fun x hx w => sweepFrame_release (List.mem_map_of_mem hx) w) h
  have htasks : (Frame.same fun w => w.db.tasks).rel { w with db := timedOutDb env w.now w.db } t :=
    timeOutStaleTasks_eq_ok (fun _ _ _ => rfl) h
  have hstart : (sweepFrame ids).rel w { w with db := timedOutDb env w.now w.db } :=
    ⟨rfl, rfl, rfl, fun _ _ h _ => h, fun _ h => h⟩
  exact ⟨(sweepFrame ids).trans hstart hlocks, htasks⟩

/-- A task a sweep leaves active is not past its deadline. -/
lemma deadline_of_not_stale {db : Db} {now : Time} {t : Task} (ht : t ∈ db.tasks)
    (hactive : t.status.isTerminal = false) (hstale : t ∉ staleTasks env now db) :
    now ≤ t.createdAt + seconds (taskTimeoutSeconds env t.kind) := by
  by_contra hlate
  have hpast : t.createdAt < now - seconds (taskTimeoutSeconds env t.kind) := by linarith
  have hdefault : seconds env.taskTimeoutSeconds ≤ seconds (taskTimeoutSeconds env t.kind) := by
    have hle := default_le_taskTimeout env t.kind
    unfold seconds
    omega
  refine hstale ?_
  simp only [staleTasks, List.mem_filter, ht, hactive, true_and, Bool.not_false, Bool.true_and,
    decide_eq_true_eq]
  exact ⟨by linarith, hpast⟩

/-- The sweep completes: its handler returns, and its transaction commits. -/
def SweepCompletes (env : Env) (s : Committed) : Prop :=
  (sessionScope (sweepStaleTasks env) (atStart s.world)).1.isOk = true

/-- What a sweep that completes does in the system. -/
lemma SweepCompletes.run {s : Committed} (h : SweepCompletes env s) :
    sweepStaleTasks env (atStart s.world) = (.ok (), (System.step env s .sweep).world) := by
  have hstep : (System.step env s .sweep).world =
      (savepoint (sweepStaleTasks env) (atStart s.world)).2 := rfl
  rw [hstep]
  unfold SweepCompletes sessionScope at h
  rcases savepoint_cases (sweepStaleTasks env) (atStart s.world) with ⟨⟨⟩, t, hm, -, hr⟩ | ⟨e, hr⟩
  · rw [hr]
    exact hm
  · rw [hr] at h
    cases h

/-- A sweep that completes keeps the invariant, and starts a new minute. -/
theorem exclusive_sweep {s : Committed} (h : Exclusive env last s.world)
    (hcompletes : SweepCompletes env s) :
    Exclusive env s.world.now (System.step env s .sweep).world := by
  obtain ⟨⟨⟩, t₁, h₁, h₂⟩ := Prog.bind_eq_ok.mp hcompletes.run
  have hstep : { t₁ with db := t₁.db.deleteVms (isOrphan t₁.db) } =
      (System.step env s .sweep).world := congrArg Prod.snd h₂
  obtain ⟨⟨hnow, hnext, hvms, hkept, hkeys⟩, htasks⟩ := timeOutStaleTasks_ok h₁
  rw [← hstep]
  have hdrawn : ∀ id, Drawn env s.world id → Drawn env t₁ id := fun id hd =>
    hd.mono (le_of_eq hnext.symm)
  refine ⟨le_of_eq hnow.symm, fun v hv => ?_, fun id hid => hdrawn id (h.locks id (hkeys id hid)), ?_⟩
  · have hmem : v ∈ t₁.db.vms := (Table.deleteWhere_sublist _ _).subset hv
    rw [hvms] at hmem
    exact hdrawn v.id (h.rows v hmem)
  · intro x hx hk hactive
    change x ∈ t₁.db.tasks at hx
    rw [htasks] at hx
    rcases Table.mem_updateWhere.mp hx with ⟨hx, hid⟩ | ⟨y, -, -, rfl⟩
    · obtain ⟨e, he, heid, hdeadline, -⟩ := h.guarded x hx hk hactive
      have hnot : x.id ∉ (staleTasks env s.world.now s.world.db).map Task.id :=
        of_decide_eq_false hid
      refine ⟨e, hkept _ e he (by rw [heid]; exact hnot), heid, hdeadline, ?_⟩
      have hlive : s.world.now ≤ x.createdAt + seconds (taskTimeoutSeconds env x.kind) :=
        deadline_of_not_stale hx hactive fun hmem => hnot (List.mem_map_of_mem hmem)
      have httl : seconds (lockTtl env x.kind) =
          seconds (taskTimeoutSeconds env x.kind) + seconds 60 := by
        unfold lockTtl seconds
        ring
      linarith
    · cases hactive

/-! ## Time -/

/-- Time that does not pass a minute beyond the last sweep keeps the invariant: no lock of an
active task is due. -/
theorem exclusive_tick {s : Committed} {elapsed : ℕ} (h : Exclusive env last s.world)
    (hperiod : s.world.now + elapsed < last + seconds 60) :
    Exclusive env last (System.step env s (.tick elapsed)).world := by
  have hstep : (System.step env s (.tick elapsed)).world =
      { s.world with now := s.world.now + elapsed
                     cache := s.world.cache.expire (s.world.now + elapsed) } := rfl
  rw [hstep]
  refine ⟨?_, h.rows, fun id hid => h.locks id fun hnone => hid ?_, ?_⟩
  · have hswept := h.swept
    change last ≤ s.world.now + elapsed
    linarith [Int.natCast_nonneg elapsed]
  · simp [Cache.expire, Expiring.expire, hnone]
  · intro t ht hk hactive
    obtain ⟨e, he, hid, hdeadline, hlast⟩ := h.guarded t ht hk hactive
    exact ⟨e, Expiring.expire_eq_some.mpr ⟨he, lt_of_lt_of_le hperiod hlast⟩, hid, hdeadline, hlast⟩

/-! ## Runs -/

/-- A committed state, and the instant of the last sweep that completed. -/
structure Swept where
  state : Committed
  lastSweep : Time

namespace Swept

/-- One step; a sweep is noted. -/
def step (env : Env) (s : Swept) (e : Event) : Swept where
  state := System.step env s.state e
  lastSweep := match e with
    | .sweep => s.state.world.now
    | _ => s.lastSweep

/-- No lock is freed by force, a sweep completes, and time stays within a minute of the last
sweep. -/
def Admitted (env : Env) (s : Swept) : Event → Prop
  | .forgetVm _ _ => False
  | .releaseLock _ _ => False
  | .sweep => SweepCompletes env s.state
  | .tick elapsed => s.state.world.now + elapsed < s.lastSweep + seconds 60
  | _ => True

end Swept

/-- An admitted step keeps the invariant. -/
theorem exclusive_step (s : Swept) (e : Event)
    (h : Exclusive env s.lastSweep s.state.world) (ha : s.Admitted env e) :
    Exclusive env (s.step env e).lastSweep (s.step env e).state.world := by
  cases e with
  | forgetVm => exact absurd ha id
  | releaseLock => exact absurd ha id
  | response hostId resp => exact exclusive_response h
  | sweep => exact exclusive_sweep h ha
  | tick elapsed => exact exclusive_tick h ha
  | broker up => exact ⟨h.swept, h.rows, h.locks, h.guarded⟩
  | vmAction => exact exclusive_quiet h rfl
  | deleteVm => exact exclusive_quiet h rfl
  | createVm => exact exclusive_quiet h rfl
  | cloneVm => exact exclusive_quiet h rfl
  | hostAction => exact exclusive_quiet h rfl
  | agentUpgrade => exact exclusive_quiet h rfl
  | removeHost => exact exclusive_quiet h rfl
  | vmInventory => exact exclusive_quiet h rfl
  | agentStatus => exact exclusive_quiet h rfl
  | agentRollout => exact exclusive_quiet h rfl
  | hostInventory => exact exclusive_quiet h rfl
  | templateInventory => exact exclusive_quiet h rfl
  | isoInventory => exact exclusive_quiet h rfl
  | hostMetrics => exact exclusive_quiet h rfl
  | vmMetrics => exact exclusive_quiet h rfl

/-- At the start no lock is held. -/
lemma exclusive_initial {s : Committed} (h : System.Initial s) :
    Exclusive env s.world.now s.world where
  swept := le_rfl
  rows := by rw [h.vms]; exact fun _ hv => by cases hv
  locks := by rw [h.cache]; exact fun _ hid => absurd rfl hid
  guarded := by rw [h.tasks]; exact fun _ ht => by cases ht

/-- Two active tasks whose lock is the same are the same. -/
lemma Exclusive.unique (h : Exclusive env last w) (hc : w.db.Consistent) {t₁ t₂ : Task}
    (h₁ : t₁ ∈ w.db.tasks) (h₂ : t₂ ∈ w.db.tasks) (k₁ : t₁.kind.takesVmLock = true)
    (k₂ : t₂.kind.takesVmLock = true) (a₁ : t₁.status.isTerminal = false)
    (a₂ : t₂.status.isTerminal = false) (htarget : t₁.targetId = t₂.targetId) : t₁ = t₂ := by
  obtain ⟨e₁, he₁, hid₁, -, -⟩ := h.guarded t₁ h₁ k₁ a₁
  obtain ⟨e₂, he₂, hid₂, -, -⟩ := h.guarded t₂ h₂ k₂ a₂
  rw [htarget, he₂] at he₁
  obtain rfl : e₂ = e₁ := Option.some.inj he₁
  exact Table.eq_of_mem_of_key hc.keyed.taskIds h₁ h₂ (hid₁.symm.trans hid₂)

/-- In every state a run reaches while sweeps complete less than a minute apart and no lock is
freed by force: each VM is the target of at most one active task of a kind that takes its lock;
while there is one, the lock exists and names it; and a release for one task frees no lock of
another. -/
theorem vm_lock_exclusive (env : Env) (s : Committed) (es : List Event)
    (hinit : System.Initial s)
    (hrun : Machine.AllSteps (Swept.step env) (Swept.Admitted env) ⟨s, s.world.now⟩ es) :
    let w := (Machine.run (Swept.step env) ⟨s, s.world.now⟩ es).state.world
    (∀ t₁ ∈ w.db.tasks, ∀ t₂ ∈ w.db.tasks, t₁.kind.takesVmLock = true →
      t₂.kind.takesVmLock = true → t₁.status.isTerminal = false → t₂.status.isTerminal = false →
      t₁.targetId = t₂.targetId → t₁ = t₂) ∧
    (∀ t ∈ w.db.tasks, t.kind.takesVmLock = true → t.status.isTerminal = false →
      ∃ lock, Expiring.get w.cache.vmLocks t.targetId = some lock ∧ lock.taskId = t.id) ∧
    ∀ vmId taskId x lock, Expiring.get w.cache.vmLocks x = some lock → lock.taskId ≠ taskId →
      Expiring.get (releaseLock vmId taskId w.cache).vmLocks x = some lock := by
  intro w
  have hinv : Exclusive env (Machine.run (Swept.step env) ⟨s, s.world.now⟩ es).lastSweep w :=
    hrun.invariant (I := fun s => Exclusive env s.lastSweep s.state.world)
      (fun s e h ha => exclusive_step s e h ha) (exclusive_initial hinit)
  refine ⟨?_, ?_, ?_⟩
  · intro t₁ h₁ t₂ h₂ k₁ k₂ a₁ a₂ htarget
    exact hinv.unique (Machine.run (Swept.step env) ⟨s, s.world.now⟩ es).state.consistent
      h₁ h₂ k₁ k₂ a₁ a₂ htarget
  · intro t ht hk hactive
    obtain ⟨e, he, hid, -, -⟩ := hinv.guarded t ht hk hactive
    exact ⟨e.value, Expiring.get_eq_some.mpr ⟨e.expiresAt, he⟩, hid⟩
  · intro vmId taskId x lock hlock hne
    obtain ⟨t, ht⟩ := Expiring.get_eq_some.mp hlock
    refine Expiring.get_eq_some.mpr ⟨t, ?_⟩
    rw [releaseVmLock_locks, if_neg, ht]
    rintro ⟨rfl, held, hheld, hid⟩
    rw [hlock] at hheld
    obtain rfl : lock = held := by simpa using hheld
    exact hne hid

/-- The VM `"g"` is reported and started. -/
@[irreducible] def Demo.sweptStart : Swept :=
  Machine.run (Swept.step Demo.settings) ⟨Demo.start, Demo.start.world.now⟩
    [.vmInventory "h" (Demo.snapshot ["g"]), .vmAction 0 Demo.user "" .start []]

/-- Half a minute later a sweep runs. -/
@[irreducible] def Demo.sweptLater : Swept :=
  Machine.run (Swept.step Demo.settings) Demo.sweptStart [.tick 30000000, .sweep]

/-- A start is queued; half a minute later a sweep runs, and the lock still names the task. -/
theorem vm_lock_exclusive_started :
    ∃ t ∈ Demo.sweptLater.state.world.db.tasks, ∃ lock,
      Expiring.get Demo.sweptLater.state.world.cache.vmLocks t.targetId = some lock ∧
      lock.taskId = t.id := by
  have htick : Demo.sweptStart.state.world.now + (30000000 : ℕ) <
      Demo.sweptStart.lastSweep + seconds 60 := by
    change (_ : ℤ) < _
    decide +kernel
  have hsweep : SweepCompletes Demo.settings
      (Swept.step Demo.settings Demo.sweptStart (.tick 30000000)).state := by
    unfold SweepCompletes
    decide +kernel
  have hactive : ∃ t ∈ Demo.sweptLater.state.world.db.tasks,
      t.kind.takesVmLock = true ∧ t.status.isTerminal = false := by decide +kernel
  obtain ⟨t, ht, hk, ha⟩ := hactive
  have hlater : Machine.AllSteps (Swept.step Demo.settings) (Swept.Admitted Demo.settings)
      Demo.sweptStart [.tick 30000000, .sweep] := ⟨htick, hsweep, trivial⟩
  unfold Demo.sweptLater at ht ⊢
  unfold Demo.sweptStart at ht hlater ⊢
  rw [← Machine.run_append] at ht ⊢
  have hfirst : Machine.AllSteps (Swept.step Demo.settings) (Swept.Admitted Demo.settings)
      ⟨Demo.start, Demo.start.world.now⟩
      [.vmInventory "h" (Demo.snapshot ["g"]), .vmAction 0 Demo.user "" .start []] :=
    ⟨trivial, trivial, trivial⟩
  obtain ⟨-, hnamed, -⟩ := vm_lock_exclusive Demo.settings Demo.start _ Demo.start_initial
    (Machine.allSteps_append.mpr ⟨hfirst, hlater⟩)
  exact ⟨t, ht, hnamed t ht hk ha⟩
end OpenVCenter
