import OpenVCenter.AcceptedRequests
import OpenVCenter.AuditFrame
import OpenVCenter.Overlay

set_option relaxedAutoImplicit false
set_option autoImplicit false

/-!
# Overlays along a run

The overlay of a VM is the state of its row, as long as nothing that is rolled back has written an
overlay: the cache is not rolled back with the database.

## Main definitions

* `OpenVCenter.Coherent` — every overlay is the state of its row.
* `OpenVCenter.Strands` — a transaction is rolled back behind an overlay it has written.
* `OpenVCenter.Move` — an event, or a handler that fails where it raises nothing of its own.

## Main results

* `OpenVCenter.savepoint_coherent_iff` — a transaction ends coherent exactly when it strands no
  overlay.
* `OpenVCenter.run_coherent_iff` — the same for the runs of the system.
-/

namespace OpenVCenter

open Effect

variable {env : Env} {w t : World} {hostId : String} {resp : AgentResponse} {task : Task} {α : Type}

/-! ## Coherence -/

/-- The overlay of every VM is absent, or the state of its row. -/
def Coherent (w : World) : Prop :=
  ∀ v ∈ w.db.vms, ∀ state, Expiring.get w.cache.vmStates v.id = some state → v.state = .str state

/-- Overlays that are left when the rows of `w` are kept: one is new, and not the state of its
row. -/
def StaleOverlay (w : World) (left : Expiring.Keyspace String Time String) : Prop :=
  ∃ v ∈ w.db.vms, ∃ state, Expiring.get left v.id = some state ∧
    Expiring.get w.cache.vmStates v.id ≠ some state ∧ v.state ≠ .str state

/-- The transaction is rolled back behind the write of an overlay that no row shows. -/
def Strands (m : M α) (w : World) : Prop :=
  ¬ Completes m w ∧ StaleOverlay w (m w).2.cache.vmStates

/-- The state of a row that fits its columns is a text. -/
lemma state_of_bindable {vm : Vm} (h : vm.bindable = true) : ∃ state, vm.state = .str state := by
  simp only [Vm.bindable, Bool.and_eq_true] at h
  rcases hstate : vm.state with _ | _ | _ | _ | s | _ | _
  case str => exact ⟨s, rfl⟩
  all_goals simp [hstate, Column.varchar] at h

/-- The state of a stored row is a text. -/
lemma state_eq_str {db : Db} (hc : db.Consistent) {vm : Vm} (hmem : vm ∈ db.vms) :
    ∃ state, vm.state = .str state := state_of_bindable (hc.vm_bindable hmem)

/-- Overlays are coherent when each shows the text of the state of its row. -/
lemma coherent_iff (hc : w.db.Consistent) : Coherent w ↔ ∀ v ∈ w.db.vms, ∀ text,
    Expiring.get w.cache.vmStates v.id = some text → encodeValue env v.state = some text := by
  refine forall₂_congr fun v hv => forall₂_congr fun text _ => ?_
  obtain ⟨s, hs⟩ := state_eq_str hc hv
  rw [hs]
  simp [encodeValue]

/-- Overlays of the rows alone are coherent. -/
lemma Overlaid.coherent (h : Overlaid env w) (hc : w.db.Consistent) : Coherent w :=
  (coherent_iff hc).mpr h.shown

/-- Coherent overlays under drawn keys are those of the rows. -/
lemma DrawnKeys.overlaid (h : DrawnKeys env w) (hc : w.db.Consistent) (hw : Coherent w) :
    Overlaid env w := ⟨h, (coherent_iff hc).mp hw⟩

/-- A transaction that starts with the overlays in order ends coherent exactly when it strands none:
a return writes rows and overlays together, a rollback takes only the rows back. -/
theorem savepoint_coherent_iff {m : M α} (hw : Overlaid env w) (hc : w.db.Consistent)
    (hm : EndsOverlaid env m w) (hnext : w.nextId ≤ (savepoint m w).2.nextId) :
    DrawnKeys env (savepoint m w).2 ∧ (Coherent (savepoint m w).2 ↔ ¬ Strands m w) := by
  rcases savepoint_cases m w with ⟨a, t, hrun, hct, hs⟩ | ⟨e, hs⟩
  · have ht : Overlaid env t := (ends_of_ok hrun).mp hm
    rw [hs]
    exact ⟨ht.toDrawnKeys, iff_of_true (ht.coherent hct) fun h => h.1 ⟨a, t, hrun, hct⟩⟩
  · have hkeys : DrawnKeys env (m w).2 := by
      unfold EndsOverlaid EndsIn Ends at hm
      rcases hrun : m w with ⟨e' | a, t⟩
      · rw [hrun] at hm
        exact hm
      · rw [hrun] at hm
        exact hm.toDrawnKeys
    rw [hs] at hnext ⊢
    refine ⟨⟨fun v hv => (hw.rows v hv).mono hnext, hkeys.overlays⟩, ?_⟩
    have hnot : ¬ Completes m w := by
      rintro ⟨a, t, hrun, hct⟩
      rw [savepoint_eq_ok.mpr ⟨hrun, hct⟩] at hs
      cases hs
    have hbefore := hw.coherent hc
    constructor
    · rintro hcoh ⟨-, v, hv, state, hleft, -, hne⟩
      exact hne (hcoh v hv state hleft)
    · intro hstrands v hv state hleft
      by_contra hne
      refine hstrands ⟨hnot, v, hv, state, hleft, fun hold => ?_, hne⟩
      exact hne (hbefore v hv state hold)

/-! ## Responses -/

/-- The state the VM part of a refresh starts in. -/
def vmStageStart (env : Env) (hostId : String) (resp : AgentResponse) (task : Task) (w : World) :
    World :=
  (templateStage env resp task
    (hostStage env resp task (stampAgentVersion env hostId resp task w).2).2).2

/-- A response ends its task, and the savepoint around its VM part strands an overlay. -/
def RefreshStrands (env : Env) (w : World) (hostId : String) (resp : AgentResponse) : Prop :=
  ∃ task ∈ w.db.taskOfHost hostId resp.id, isProgress resp task.status = false ∧
    Lands env w.now resp ∧ StampFits env w.db hostId resp task ∧
    let ended := endedTask env w.now resp.stripped task
    Strands (applyResponseState env hostId resp.stripped ended)
      (vmStageStart env hostId resp.stripped ended (endedWorld env w resp task))

/-- A rollback leaves the overlays of the rows. -/
lemma overlayFrame_rollback (s t : World) (h : overlayFrame.rel s t) :
    overlayFrame.rel s (rollback s t) := ⟨rfl, h.2⟩

/-- The stamp of the agent's version writes no overlay. -/
lemma overlayFrame_stampAgentVersion :
    Keeps overlayFrame (stampAgentVersion env hostId resp task) :=
  keeps_stampAgentVersion (F := overlayFrame) (fun _ _ _ => ⟨rfl, rfl, le_rfl⟩) _ _ _

/-- Nor does the host stage of a response. -/
lemma overlayFrame_hostStage : Keeps overlayFrame (hostStage env resp task) := by
  unfold hostStage
  split
  · exact keeps_attempt (keeps_savepoint overlayFrame_rollback
      (keeps_applyHostActionResponse (F := overlayFrame) (fun _ _ _ => ⟨rfl, rfl, le_rfl⟩) _ _))
  · exact keeps_pure _

/-- Nor does its template stage. -/
lemma overlayFrame_templateStage : Keeps overlayFrame (templateStage env resp task) := by
  unfold templateStage
  split
  · split
    · exact keeps_attempt (keeps_savepoint overlayFrame_rollback
        (keeps_upsertTemplate (F := overlayFrame) overlayFrame_nextId
          (fun _ _ => ⟨rfl, rfl, le_rfl⟩) _ _))
    · exact keeps_pure _
  · exact keeps_pure _

/-- The refresh of a response whose stamp fits ends in its VM part, but for the lock. -/
lemma applyRefresh_vmStage (hc : w.db.Consistent) (hstatus : task.status = terminalStatus resp)
    (hfits : StampFits env w.db hostId resp task) :
    let start := vmStageStart env hostId resp task w
    let u := (savepoint (applyResponseState env hostId resp task) start).2
    start.db.Consistent ∧ overlayFrame.rel w start ∧
      ∃ t, applyRefresh env hostId resp task w = (.ok (), t) ∧ t.db = u.db ∧
        t.cache.vmStates = u.cache.vmStates ∧ t.nextId = u.nextId := by
  obtain ⟨t, ht⟩ := (stampAgentVersion_returns_iff hc hstatus).mpr hfits
  have hct := stampAgentVersion_consistent hc hstatus ht
  have hstamp := @overlayFrame_stampAgentVersion env hostId resp task w
  unfold vmStageStart
  rw [ht] at hstamp ⊢
  refine ⟨templateStage_consistent (hostStage_consistent hct), ?_, ?_⟩
  · exact overlayFrame.trans hstamp (overlayFrame.trans (overlayFrame_hostStage t)
      (overlayFrame_templateStage _))
  · unfold applyRefresh
    rw [Prog.bind_run_ok ht, Prog.bind_run_ok applyBestEffort_stages]
    unfold vmStage
    rw [Prog.attempt_run]
    split_ifs
    · exact ⟨_, rfl, rfl, releaseLock_vmStates _ _ _, rfl⟩
    · exact ⟨_, rfl, rfl, rfl, rfl⟩

/-- The response of a step that leaves rows and overlays alone. -/
lemma quiet_coherent_iff {P : Prop} (hw : Overlaid env w) (hf : overlayFrame.rel w t)
    (hct : t.db.Consistent) (hP : ¬ P) : DrawnKeys env t ∧ (Coherent t ↔ ¬ P) :=
  ⟨(hw.frame hf).toDrawnKeys, iff_of_true ((hw.frame hf).coherent hct) hP⟩

/-- A response ends coherent exactly when its refresh strands no overlay.

**Proof sketch.** By the branches of the handler. A response to no task, a progress message, one
that does not land and one whose version does not fit leave rows and overlays alone
(`quiet_coherent_iff`), and strand nothing. Of one that lands only the VM part of the refresh writes
overlays; it stands in a savepoint, which `savepoint_coherent_iff` treats. -/
theorem response_coherent_iff {s : Committed} (hw : Overlaid env s.world) :
    let after := (System.step env s (.response hostId resp)).world
    DrawnKeys env after ∧ (Coherent after ↔ ¬ RefreshStrands env s.world hostId resp) := by
  intro after
  have hc : (atStart s.world).db.Consistent := s.consistent
  have hafter : after = (savepoint (applyResponse env hostId resp) (atStart s.world)).2 := rfl
  have hca : after.db.Consistent := (System.step env s (.response hostId resp)).consistent
  rcases h : s.world.db.taskOfHost hostId resp.id with _ | task
  · rw [savepoint_eq_ok.mpr ⟨applyResponse_unknown (w := atStart s.world) h, hc⟩] at hafter
    refine quiet_coherent_iff hw (hafter ▸ ⟨rfl, rfl, le_rfl⟩) hca ?_
    rintro ⟨task, ht, -⟩
    rw [h] at ht
    cases ht
  have htask := task_of_taskOfHost h
  by_cases hp : isProgress resp task.status = true
  · refine quiet_coherent_iff hw ?_ hca ?_
    · rw [hafter]
      refine rel_savepoint (F := overlayFrame) overlayFrame_rollback ?_
      by_cases hs : resp.strippable = true
      · rw [applyResponse_progress (w := atStart s.world) h hp hs]
        exact ⟨rfl, rfl, le_rfl⟩
      · rw [applyResponse_not_strippable (w := atStart s.world) h hs]
        exact ⟨rfl, rfl, le_rfl⟩
    · rintro ⟨task', ht', hp', -⟩
      rw [h] at ht'
      cases ht'
      rw [hp] at hp'
      cases hp'
  simp only [Bool.not_eq_true] at hp
  by_cases hl : Lands env s.world.now resp
  · have hce : (endedWorld env s.world resp task).db.Consistent :=
      (lifecycleDb_consistent_iff hc htask).mpr hl.2
    have hstatus : (endedTask env s.world.now resp.stripped task).status =
      terminalStatus resp.stripped := rfl
    have hrun := applyResponse_landed (w := atStart s.world) hc h hp hl
    by_cases hfits : StampFits env s.world.db hostId resp task
    · have hfits' : StampFits env (endedWorld env s.world resp task).db hostId resp.stripped
          (endedTask env s.world.now resp.stripped task) := stampFits_stripped.mpr hfits
      obtain ⟨hstart, hframe, t, ht, hdb, hstates, hnext⟩ := applyRefresh_vmStage hce hstatus hfits'
      obtain ⟨u, hu, hcu, -⟩ := applyRefresh_returns hce hstatus hfits'
      obtain rfl : u = t := congrArg Prod.snd (hu.symm.trans ht)
      have hend : after = u := by
        rw [hafter, savepoint_eq_ok.mpr ⟨hrun.trans hu, hcu⟩]
      have hws := (hw.frame (t := endedWorld env s.world resp task) ⟨rfl, rfl, le_rfl⟩).frame hframe
      have hdrawn : Keeps drawnFrame (applyResponseState env hostId resp.stripped
          (endedTask env s.world.now resp.stripped task)) :=
        keeps_applyResponseState (F := drawnFrame) (fun _ _ => le_rfl) (fun _ _ => le_rfl)
          (fun _ _ => le_rfl) (fun _ _ _ _ => le_rfl) hostId resp.stripped
      obtain ⟨hkeys, hiff⟩ := savepoint_coherent_iff hws hstart
        (endsOverlaid_applyResponseState hws)
        (keeps_savepoint (F := drawnFrame) (fun _ _ h => h) hdrawn _)
      rw [hend]
      refine ⟨hkeys.shrink (shrink_of_overlayFrame ⟨congrArg Db.vms hdb, hstates, hnext.ge⟩), ?_⟩
      unfold Coherent at hiff ⊢
      rw [hdb, hstates, hiff]
      refine not_congr ⟨fun hs => ⟨task, h, hp, hl, hfits, hs⟩, ?_⟩
      rintro ⟨task', ht', -, -, -, hs⟩
      rw [h] at ht'
      cases ht'
      exact hs
    · refine quiet_coherent_iff hw ?_ hca ?_
      · have hstamp := @overlayFrame_stampAgentVersion env hostId resp.stripped
          (endedTask env s.world.now resp.stripped task) (endedWorld env s.world resp task)
        rcases hst : stampAgentVersion env hostId resp.stripped
          (endedTask env s.world.now resp.stripped task) (endedWorld env s.world resp task) with
          ⟨e | ⟨⟩, t⟩
        · rw [hst] at hstamp
          have hraise : applyResponse env hostId resp (atStart s.world) = (.error e, t) :=
            hrun.trans (Prog.bind_run_error hst)
          rw [hafter, savepoint_of_raise hraise]
          exact ⟨rfl, hstamp.2⟩
        · exact absurd (stampFits_stripped.mp
            ((stampAgentVersion_returns_iff hce hstatus).mp ⟨t, hst⟩)) hfits
      · rintro ⟨task', ht', -, -, hfits', -⟩
        rw [h] at ht'
        cases ht'
        exact hfits hfits'
  · have hsame := response_rejected s h hp hl
    refine quiet_coherent_iff hw (show overlayFrame.rel s.world after from ?_) hca ?_
    · rw [show after = atStart s.world from hsame]
      exact ⟨rfl, rfl, le_rfl⟩
    · rintro ⟨task', -, -, hl', -⟩
      exact hl hl'

/-! ## Moves -/

/-- A call that writes an overlay. -/
inductive OverlayCall where
  /-- `set_vm_state`, with the instant its key expires at. -/
  | set (vmId state : String) (expires : Time)
  /-- `clear_vm_state`. -/
  | clear (vmId : String)

/-- The VM a call is about. -/
def OverlayCall.vmId : OverlayCall → String
  | .set vmId _ _ => vmId
  | .clear vmId => vmId

/-- The overlays after a call. -/
def OverlayCall.apply (states : Expiring.Keyspace String Time String) :
    OverlayCall → Expiring.Keyspace String Time String
  | .set vmId state expires => Expiring.put states vmId state expires
  | .clear vmId => Expiring.erase states vmId

/-- What the system does next. -/
inductive Move where
  /-- An event, whose handler runs to its end or raises. -/
  | handled (e : Event)
  /-- A handler fails where it raises nothing of its own: its process dies, or a connection does.
  `calls` are the calls on the overlays it had carried out; `left` is what else it leaves, but for
  its VM rows, which are rolled back. -/
  | interrupted (calls : List OverlayCall) (left : World)

/-- The overlays after calls on VMs that have a row. Overlays of rows that were rolled back are out of
reach, and left out. -/
def World.overlaysAfter (w : World) (calls : List OverlayCall) :
    Expiring.Keyspace String Time String :=
  (calls.filter fun call => decide (call.vmId ∈ w.db.vms.map Vm.id)).foldl OverlayCall.apply
    w.cache.vmStates

/-- The state after a handler that has failed: the VM rows as they were, under the overlays the
failure left. -/
def World.interrupt (w : World) (calls : List OverlayCall) (left : World) : World :=
  { left with
    db := { left.db with vms := w.db.vms }
    nextId := max w.nextId left.nextId
    cache := { left.cache with vmStates := w.overlaysAfter calls } }

/-- One move. -/
def Move.step (env : Env) (s : Committed) : Move → Committed
  | .handled e => System.step env s e
  | .interrupted calls left =>
    if h : (s.world.interrupt calls left).db.Consistent then ⟨s.world.interrupt calls left, h⟩ else s

/-- The move strands an overlay: a transaction of it is rolled back behind the write of one that no
row shows. -/
def Move.Strands (env : Env) (s : Committed) : Move → Prop
  | .handled (.response hostId resp) => RefreshStrands env s.world hostId resp
  | .handled e => ∃ m, e.handler env = some m ∧
    OpenVCenter.Strands m { s.world with txStart := s.world.now - e.lag }
  | .interrupted calls left => (s.world.interrupt calls left).db.Consistent ∧
    StaleOverlay s.world (s.world.overlaysAfter calls)

/-- A call leaves the overlays of other VMs alone. -/
lemma apply_of_ne {states : Expiring.Keyspace String Time String} {call : OverlayCall} {id : String}
    (h : id ≠ call.vmId) : OverlayCall.apply states call id = states id := by
  cases call with
  | set vmId state expires => exact Expiring.put_of_ne h
  | clear vmId => exact Expiring.erase_of_ne h

/-- Calls on other VMs leave an overlay alone. -/
lemma foldl_apply_of_ne {states : Expiring.Keyspace String Time String}
    {calls : List OverlayCall} {id : String} (h : ∀ call ∈ calls, id ≠ call.vmId) :
    calls.foldl OverlayCall.apply states id = states id := by
  induction calls generalizing states with
  | nil => rfl
  | cons call calls ih =>
    obtain ⟨hcall, hcalls⟩ := List.forall_mem_cons.mp h
    exact (ih hcalls).trans (apply_of_ne hcall)

/-- The overlay of a VM without a row is left alone. -/
lemma overlaysAfter_of_notMem {id : String} (h : id ∉ w.db.vms.map Vm.id)
    (calls : List OverlayCall) : w.overlaysAfter calls id = w.cache.vmStates id := by
  refine foldl_apply_of_ne fun call hcall heq => h ?_
  rw [heq]
  exact of_decide_eq_true (List.mem_filter.mp hcall).2

/-- The states after an interrupted handler. -/
lemma interrupted_coherent_iff {s : Committed} (hw : Overlaid env s.world)
    (calls : List OverlayCall) (left : World) :
    let after := (Move.step env s (.interrupted calls left)).world
    DrawnKeys env after ∧
      (Coherent after ↔ ¬ (Move.interrupted calls left).Strands env s) := by
  intro after
  have hbefore := hw.coherent s.consistent
  by_cases hc : (s.world.interrupt calls left).db.Consistent
  · have hafter : after = s.world.interrupt calls left := by
      simp only [after, Move.step, hc, dif_pos]
    rw [hafter]
    have hnext : s.world.nextId ≤ (s.world.interrupt calls left).nextId := le_max_left _ _
    refine ⟨⟨fun v hv => (hw.rows v hv).mono hnext, fun id hne => ?_⟩, ?_⟩
    · by_cases hmem : id ∈ s.world.db.vms.map Vm.id
      · obtain ⟨v, hv, rfl⟩ := List.mem_map.mp hmem
        exact (hw.rows v hv).mono hnext
      · exact (hw.overlays id fun hnone =>
          hne ((overlaysAfter_of_notMem hmem calls).trans hnone)).mono hnext
    · constructor
      · rintro hcoh ⟨-, v, hv, state, hleft, -, hne⟩
        exact hne (hcoh v hv state hleft)
      · intro hstrands v hv state hleft
        by_contra hne
        refine hstrands ⟨hc, v, hv, state, hleft, fun hold => ?_, hne⟩
        exact hne (hbefore v hv state hold)
  · have hafter : after = s.world := by
      simp only [after, Move.step, hc, dif_neg, not_false_eq_true]
    rw [hafter]
    exact ⟨hw.toDrawnKeys, iff_of_true hbefore fun h => hc h.1⟩

/-- Time drops overlays; the broker has none. -/
lemma shrink_of_no_handler {s : Committed} {e : Event} (h : e.handler env = none) :
    shrinkFrame.rel s.world (System.step env s e).world := by
  cases e with
  | tick elapsed =>
    refine ⟨fun v hv => ⟨v, hv, rfl, rfl⟩, fun id x hx => ?_, le_rfl⟩
    exact (Expiring.expire_eq_some.mp
      (show Expiring.expire s.world.cache.vmStates (s.world.now + elapsed) id = some x from hx)).1
  | broker up => exact shrinkFrame.refl s.world
  | _ => cases h

/-- A move that starts with the overlays in order ends coherent exactly when it strands none. -/
theorem move_coherent_iff {s : Committed} (hw : Overlaid env s.world) (m : Move) :
    DrawnKeys env (m.step env s).world ∧ (Coherent (m.step env s).world ↔ ¬ m.Strands env s) := by
  cases m with
  | interrupted calls left => exact interrupted_coherent_iff hw calls left
  | handled e =>
    by_cases hresp : ∃ hostId resp, e = .response hostId resp
    · obtain ⟨hostId, resp, rfl⟩ := hresp
      exact response_coherent_iff hw
    have hne : ∀ hostId resp, e ≠ .response hostId resp := fun hostId resp h =>
      hresp ⟨hostId, resp, h⟩
    have hstrands : (Move.handled e).Strands env s ↔ ∃ m, e.handler env = some m ∧
        OpenVCenter.Strands m { s.world with txStart := s.world.now - e.lag } := by
      cases e with
      | response hostId resp => exact absurd rfl (hne hostId resp)
      | _ => exact Iff.rfl
    rw [hstrands]
    rcases hm : e.handler env with _ | m
    · have hafter := hw.shrink (shrink_of_no_handler hm)
      refine ⟨hafter.toDrawnKeys, iff_of_true (hafter.coherent ?_) fun ⟨m, hm', _⟩ => nomatch hm'⟩
      exact (System.step env s e).consistent
    · have hstep := System.step_handler (s := s) hm
      have hnext := nextId_le_step env s e
      rw [hstep] at hnext
      have hstart : Overlaid env { s.world with txStart := s.world.now - e.lag } :=
        hw.frame ⟨rfl, rfl, le_rfl⟩
      obtain ⟨hkeys, hiff⟩ := savepoint_coherent_iff hstart s.consistent
        (endsOverlaid_handler hm hne hstart s.consistent) hnext
      rw [show (Move.step env s (.handled e)).world = _ from hstep]
      refine ⟨hkeys, hiff.trans (not_congr ⟨fun h => ⟨m, rfl, h⟩, ?_⟩)⟩
      rintro ⟨m', hm', h⟩
      cases hm'
      exact h

/-! ## Runs -/

/-- A system starts without overlays. -/
lemma overlaid_initial {s : Committed} (h : System.Initial s) : Overlaid env s.world where
  rows v hv := by
    rw [h.vms] at hv
    cases hv
  overlays id hne := by
    rw [h.cache] at hne
    exact absurd rfl hne
  shown v hv := by
    rw [h.vms] at hv
    cases hv

/-- **In a run, every overlay is the state of its row after every move**, exactly when no move is
rolled back behind the write of an overlay. -/
theorem run_coherent_iff (env : Env) (s : Committed) (ms : List Move) (h : System.Initial s) :
    Machine.AllSteps (Move.step env) (fun s m => Coherent (m.step env s).world) s ms ↔
      Machine.AllSteps (Move.step env) (fun s m => ¬ m.Strands env s) s ms := by
  refine Machine.AllSteps.congr (I := fun s => Overlaid env s.world) (fun s m hw hcoh => ?_)
    (fun s m hw => (move_coherent_iff hw m).2) (overlaid_initial h)
  exact (move_coherent_iff hw m).1.overlaid (m.step env s).consistent hcoh

end OpenVCenter
