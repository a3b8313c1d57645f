import OpenVCenter.OverlayRuns

set_option relaxedAutoImplicit false
set_option autoImplicit false

/-!
# Requests that keep the overlays in order

A transaction strands an overlay when it writes one that no row shows and is rolled back. What a
request says, and the state it finds, tell when this cannot be: nothing fails behind the write, or
the state that is written is that of the row.

## Main definitions

* `OpenVCenter.Truthful` — the overlays of the rows of a state, seen from that state.
* `OpenVCenter.Settles` — a program that goes through, or leaves the overlays truthful.
* `OpenVCenter.ActionKeeps` — an action that finds its state on the row, or can be sent.

## Main results

* `OpenVCenter.not_strands_iff` — a transaction strands no overlay exactly when it settles.
* `OpenVCenter.settles_vmAction`, `OpenVCenter.settles_deleteVm` — the requests that stamp a state.
-/

namespace OpenVCenter

open Effect

variable {env : Env} {w w₀ t : World} {hostId : String} {α β : Type}

/-! ## Programs that settle -/

/-- Every overlay of a row of `w` is the one it had, or the state of the row. -/
def Truthful (w : World) (left : Expiring.Keyspace String Time String) : Prop :=
  ∀ v ∈ w.db.vms, ∀ state, Expiring.get left v.id = some state →
    Expiring.get w.cache.vmStates v.id = some state ∨ v.state = .str state

/-- Overlays are truthful when none of them is stale. -/
lemma truthful_iff {left : Expiring.Keyspace String Time String} :
    Truthful w left ↔ ¬ StaleOverlay w left := by
  constructor
  · rintro h ⟨v, hv, state, hleft, hnew, hne⟩
    exact (h v hv state hleft).elim hnew hne
  · intro h v hv state hleft
    by_contra hnot
    rw [not_or] at hnot
    exact h ⟨v, hv, state, hleft, hnot.1, hnot.2⟩

/-- The overlays of a state are truthful in it. -/
lemma Truthful.refl (w : World) : Truthful w w.cache.vmStates := fun _ _ _ h => Or.inl h

/-- An overlay that is the state of the row, if there is one. -/
lemma Truthful.put {left : Expiring.Keyspace String Time String} (h : Truthful w left)
    {id state : String} {at_ : Time} (hstate : ∀ v ∈ w.db.vms, v.id = id → v.state = .str state) :
    Truthful w (Expiring.put left id state at_) := by
  intro v hv text htext
  rw [Expiring.get_put] at htext
  split_ifs at htext with hid
  · cases htext
    exact Or.inr (hstate v hv hid)
  · exact h v hv text htext

/-- The frame of what writes no overlay. -/
def fewerStates : Frame World where
  rel w t := ∀ id e, t.cache.vmStates id = some e → w.cache.vmStates id = some e
  refl _ := fun _ _ h => h
  trans h h' := fun id e he => h id e (h' id e he)

/-- Overlays that are dropped leave the rest truthful. -/
lemma Truthful.fewer (h : Truthful w₀ w.cache.vmStates) (hrel : fewerStates.rel w t) :
    Truthful w₀ t.cache.vmStates := by
  intro v hv state hleft
  obtain ⟨at_, he⟩ := Expiring.get_eq_some.mp hleft
  exact h v hv state (Expiring.get_eq_some.mpr ⟨at_, hrel _ _ he⟩)

/-- From `w` on, the program goes through, or it leaves the overlays of the rows of `w₀` truthful. -/
def Settles (w₀ : World) (m : M α) (w : World) : Prop :=
  Completes m w ∨ Truthful w₀ (m w).2.cache.vmStates

/-- A transaction strands no overlay exactly when it settles. -/
theorem not_strands_iff {m : M α} : ¬ Strands m w ↔ Settles w m w := by
  unfold Strands Settles
  rw [not_and_or, not_not, truthful_iff]

/-- A program that writes no overlay. -/
lemma settles_of_fewer {m : M α} (hm : Keeps fewerStates m) (hw : Truthful w₀ w.cache.vmStates) :
    Settles w₀ m w := Or.inr (hw.fewer (hm w))

/-- What goes on from the end of one run goes on from the same end of another. -/
lemma bind_congr_run {m n : M β} (h : m w = n t) (f : β → M α) : (m >>= f) w = (n >>= f) t := by
  rw [Prog.bind_run, h]
  rfl

/-- A program settles with any other of the same run. -/
lemma settles_congr {m n : M α} (h : m w = n t) : Settles w₀ m w ↔ Settles w₀ n t := by
  unfold Settles Completes
  rw [h]

/-- A program that writes no overlay goes first. -/
lemma settles_bind {m : M β} {f : β → M α} (hm : Keeps fewerStates m)
    (hw : Truthful w₀ w.cache.vmStates) (hf : ∀ b t, m w = (.ok b, t) →
      Truthful w₀ t.cache.vmStates → Settles w₀ (f b) t) : Settles w₀ (m >>= f) w := by
  have hleft := hw.fewer (hm w)
  rcases hrun : m w with ⟨e | b, t⟩
  · rw [hrun] at hleft
    refine Or.inr ?_
    rw [Prog.bind_run_error hrun]
    exact hleft
  · rw [hrun] at hleft
    exact (settles_congr (Prog.bind_run_ok hrun)).mpr (hf b t hrun hleft)

/-- A program that leaves the state alone goes first. -/
lemma settles_pass {m : M β} {f : β → M α} (hm : ∀ s, (m s).2 = s)
    (hw : Truthful w₀ w.cache.vmStates) (hf : ∀ b, m w = (.ok b, w) → Settles w₀ (f b) w) :
    Settles w₀ (m >>= f) w := by
  refine settles_bind (fun s => by rw [hm]; exact fewerStates.refl s) hw fun b t hrun _ => ?_
  obtain rfl : t = w := by
    have hsame := hm w
    rwa [hrun] at hsame
  exact hf b hrun

/-- A quiet program writes no overlay. -/
lemma keeps_fewer_of_quiet {m : M α} (h : Keeps quietFrame m) : Keeps fewerStates m := by
  intro s id e he
  rw [← (h s).2.1]
  exact he

/-! ## Requests -/

/-- **An action keeps the overlays**: where it comes to stamp a state on the VM (it has been reported,
its host is online, its lock is free, and the tables take the task and the stamp), the VM is in that
state already, or the broker is up and the tables take the request and the event. -/
def ActionKeeps (env : Env) (w : World) (user : User) (vmId : String) (action : VmAction)
    (params : Dict) (details : Json) : Prop :=
  ∀ vm ∈ w.db.vm vmId, ∀ state ∈ action.function.2, ∀ vmUuid ∈ nonEmpty vm.vmUuid,
    ∀ host ∈ w.db.host vm.hostId, agentConnected env w.now host = true →
      Expiring.get w.cache.vmLocks vm.id = none →
        (actionDb env w user.email vm action).Consistent →
          vm.state.isStr state = true ∨
            w.brokerUp = true ∧ (sentDb env w user vm action vmUuid params details).Consistent

/-- Whether an action keeps the overlays can be decided. -/
instance (env : Env) (w : World) (user : User) (vmId : String) (action : VmAction) (params : Dict)
    (details : Json) : Decidable (ActionKeeps env w user vmId action params details) := by
  unfold ActionKeeps
  infer_instance

section Requests

variable {user : User} {vm : Vm} {action : VmAction} {params : Dict} {details : Json}

/-- An action that stamps a state is queued under the lock, with no check of its own. -/
lemma requestVmAction_of_stamp {state : String} (h : action.function.2 = some state)
    (requestedBy : String) : requestVmAction env vm action requestedBy params =
      queueVmTask env vm action.function.1 params requestedBy (some state) true := by
  have hplain : action ≠ .migrate ∧ action ≠ .move_storage ∧ action.isReadOnly = false := by
    revert h
    cases action <;> simp [VmAction.function, VmAction.isReadOnly]
  obtain ⟨hmigrate, hmove, hread⟩ := hplain
  rw [requestVmAction_answered, if_neg fun hboth => hmigrate hboth.1, if_neg hmove, h, hread]
  rfl

/-- A publication writes no overlay. -/
lemma fewer_publishRequest (hostRef : String) (req : AgentRequest) :
    Keeps fewerStates (publishRequest hostRef req) := keeps_fewer_of_quiet (quiet_publishRequest _ _)

/-- A recording writes no overlay. -/
lemma fewer_record (actor : Option User) (name : String) (target : TargetRef) (task : Option Task)
    (details : Json) : Keeps fewerStates (record env actor name target task details) :=
  keeps_fewer_of_quiet (quiet_record _ _ _ _ _)

/-- An acquisition writes no overlay. -/
lemma fewer_acquireVmLock (vmId taskId : String) (kind : TaskKind) (requestedBy : String) :
    Keeps fewerStates (acquireVmLock env vmId taskId kind requestedBy) :=
  keeps_acquireVmLock (F := fewerStates) (fun _ _ _ _ h => h) _ _ _ _

/-- Freeing a lock where a program raises writes no overlay. -/
lemma settles_releasing_bind {m : M β} {f : β → M α} {vmId taskId : String} {lock : Bool}
    (h : Settles w₀ (m >>= f) w) :
    Settles w₀ (releasingOnRaise vmId taskId lock m >>= f) w := by
  rcases hrun : m w with ⟨e | b, t⟩
  · have hraise := Prog.bind_run_error (f := f) hrun
    rcases h with ⟨a, u, hok, -⟩ | hleft
    · rw [hraise] at hok
      cases hok
    rw [hraise] at hleft
    refine Or.inr ?_
    have hfreed : releasingOnRaise vmId taskId lock m w =
        (.error e, if lock then { t with cache := releaseLock vmId taskId t.cache } else t) := by
      rw [releasingOnRaise_answered, hrun]
    rw [Prog.bind_run_error hfreed]
    cases lock with
    | false => exact hleft
    | true =>
      rw [if_pos rfl, releaseLock_vmStates]
      exact hleft
  · have hkept : releasingOnRaise vmId taskId lock m w = (.ok b, t) :=
      releasingOnRaise_eq_ok.mpr hrun
    have hsame : (releasingOnRaise vmId taskId lock m >>= f) w = (m >>= f) w := by
      rw [Prog.bind_run_ok hkept, Prog.bind_run_ok hrun]
    exact (settles_congr hsame).mpr h

/-- Nor does a program whose lock is freed when it raises. -/
lemma fewer_releasingOnRaise {m : M α} (hm : Keeps fewerStates m) (vmId taskId : String)
    (lock : Bool) : Keeps fewerStates (releasingOnRaise vmId taskId lock m) := by
  intro s
  have hrel := hm s
  rw [releasingOnRaise_answered]
  rcases hrun : m s with ⟨e | a, t⟩
  · rw [hrun] at hrel
    cases lock with
    | false => exact hrel
    | true =>
      intro id x hx
      have hfreed : (releaseLock vmId taskId t.cache).vmStates id = some x := hx
      rw [releaseLock_vmStates] at hfreed
      exact hrel id x hfreed
  · rw [hrun] at hrel
    exact hrel

/-- The guarded part of an action without a stamp writes no overlay. -/
lemma fewer_addVmTask (vm : Vm) (host : Host) (vmUuid taskId : String) (kind : TaskKind)
    (params : Dict) (requestedBy : String) :
    Keeps fewerStates (addVmTask env vm host vmUuid taskId kind params requestedBy none) := by
  refine keeps_bind keeps_read fun w => ?_
  refine keeps_bind (F := fewerStates) (keeps_modify fun _ _ _ h => h) fun _ => ?_
  refine keeps_bind (keeps_pure _) fun _ => keeps_bind keeps_flush fun _ => ?_
  refine keeps_bind (keeps_pure _) fun _ => ?_
  refine keeps_bind (F := fewerStates) (keeps_modify fun _ _ _ h => h) fun _ => ?_
  exact keeps_bind (fewer_publishRequest _ _) fun _ => keeps_pure _

/-- A request is sent while the broker is up. -/
lemma sendVmTask_up {host : Host} {now : Time} {task : Task} (h : w.brokerUp = true) :
    let request := agentRequest env now task params
    let sent := { task with requestPayload := request.modelDump }
    sendVmTask env host now params task w = (.ok sent, { w with
      db := w.db.storeTask sent
      published := w.published ++ [(host.shortId, request)] }) := by
  intro request sent
  unfold sendVmTask
  rw [modifyDb, Prog.modify_bind_run,
    Prog.bind_run_ok (publishRequest_up (w := { w with db := w.db.storeTask sent }) h)]
  rfl

/-- **The guarded part of an action that stamps a state, and its event.** The stamp is flushed before
it is shown: what fails before leaves the overlays, and behind it nothing fails, or the row shows the
state already.

**Proof sketch.** The stamp is flushed first, and a failure there leaves the overlays. Behind it the
state is shown: either the row has that state already, and whatever fails leaves a truthful overlay,
or the broker and the tables take the rest and the request completes. -/
lemma settles_addVmTask {w₁ : World} {state vmUuid : String} (host : Host)
    (hc : w.db.Consistent) (hmem : vm ∈ w.db.vms) (hstamp : action.function.2 = some state)
    (hdb : w₁.db = w.db) (hstart : w₁.txStart = w.txStart) (hnow : w₁.now = w.now)
    (hbroker : w₁.brokerUp = w.brokerUp) (hnext : w₁.nextId = w.nextId + 1)
    (hstates : w₁.cache.vmStates = w.cache.vmStates)
    (hpass : (actionDb env w user.email vm action).Consistent →
      vm.state.isStr state = true ∨
        w.brokerUp = true ∧ (sentDb env w user vm action vmUuid params details).Consistent) :
    Settles w (addVmTask env vm host vmUuid (env.uuid w.nextId) action.function.1 params user.email
        (some state) >>= fun task =>
      record env (some user) ("vm." ++ action.name) vm.ref (some task) details) w₁ := by
  set task := vmTask (env.uuid w.nextId) action.function.1 vm user.email w.txStart with htask
  set w₂ : World := { w₁ with db := actionDb env w user.email vm action } with hw₂
  have htruthful : Truthful w w₂.cache.vmStates := by
    rw [hw₂, hstates]
    exact Truthful.refl w
  have hrun : (addVmTask env vm host vmUuid (env.uuid w.nextId) action.function.1 params user.email
        (some state) >>= fun task =>
      record env (some user) ("vm." ++ action.name) vm.ref (some task) details) w₁ =
    (flush >>= fun _ => setVmState env vm.id (.str state) >>= fun _ =>
      sendVmTask env host w.now (params.set "vm_id" (.str vmUuid)) task >>= fun task =>
        record env (some user) ("vm." ++ action.name) vm.ref (some task) details) w₂ := by
    have hguarded : addVmTask env vm host vmUuid (env.uuid w.nextId) action.function.1 params
        user.email (some state) w₁ = (flush >>= fun _ => setVmState env vm.id (.str state) >>= fun _ =>
          sendVmTask env host w.now (params.set "vm_id" (.str vmUuid)) task) w₂ := by
      rw [hw₂, actionDb, hstamp, htask, ← hdb, ← hstart, ← hnow]
      rfl
    rw [bind_congr_run hguarded, bind_assoc]
    simp only [bind_assoc]
  rw [settles_congr hrun]
  refine settles_bind keeps_flush htruthful fun _ t hflush _ => ?_
  obtain ⟨hct, rfl⟩ := flush_eq_ok.mp hflush
  have hput : setVmState env vm.id (.str state) w₂ = (.ok (), _) :=
    setVmState_eq_ok.mpr ⟨state, rfl, rfl⟩
  rw [settles_congr (Prog.bind_run_ok hput)]
  rcases hpass hct with hquiet | ⟨hup, hsent⟩
  · have hstate : ∀ v ∈ w.db.vms, v.id = vm.id → v.state = .str state := by
      intro v hv hid
      rw [Table.eq_of_mem_of_key hc.keyed.vmIds hv hmem hid]
      exact Json.isStr_iff.mp hquiet
    refine settles_of_fewer ?_ (htruthful.put hstate)
    exact keeps_bind (keeps_fewer_of_quiet (quiet_sendVmTask _ _ _ _)) fun _ => fewer_record _ _ _ _ _
  · refine (settles_congr (Prog.bind_run_ok (sendVmTask_up ?_))).mpr (Or.inl (completes_record_iff.mpr ?_))
    · exact hbroker.trans hup
    · unfold sentDb sentTask at hsent
      rw [← hnext, ← hnow] at hsent
      rw [← hnow]
      exact hsent

/-- An action that stamps nothing writes no overlay. -/
lemma fewer_requestVmAction (h : action.function.2 = none) (requestedBy : String) :
    Keeps fewerStates (requestVmAction env vm action requestedBy params) := by
  have hchecks : ∀ host : Host, Keeps fewerStates (requireHostOnline env host) := fun host =>
    keeps_of_state (requireHostOnline_state host)
  rw [requestVmAction_answered, h]
  split
  · exact keeps_raise _
  · refine keeps_bind ?_ fun _ => ?_
    · split
      · refine keeps_bind (keeps_ofExcept _) fun dest => ?_
        split
        · exact keeps_raise _
        · refine keeps_bind keeps_read fun w => keeps_bind (keeps_ofOption _) fun host => ?_
          exact keeps_of_state (requireVmStorageAllowed_state host _)
      · exact keeps_pure _
    · rw [queueVmTask_answered]
      split
      · exact keeps_raise _
      · refine keeps_bind keeps_read fun w => keeps_bind (keeps_ofOption _) fun host => ?_
        refine keeps_bind (hchecks host) fun _ => ?_
        refine keeps_bind (keeps_newId (F := fewerStates) fun _ _ _ _ _ h => h) fun taskId => ?_
        refine keeps_bind ?_ fun taken => ?_
        · split
          · exact fewer_acquireVmLock _ _ _ _
          · exact keeps_pure _
        · split
          · exact fewer_releasingOnRaise (fewer_addVmTask vm host _ taskId _ params requestedBy) _ _ _
          · exact keeps_bind keeps_read fun _ => keeps_raise _

/-- An action and its event settle when the action keeps the overlays.

**Proof sketch.** An action that stamps no state only removes overlays. One that does is followed
through its checks, none of which touches the overlays, to the lock: a held lock refuses it, and
under a free one the guarded part settles. -/
lemma settles_requestVmAction {vmId : String} (hc : w.db.Consistent)
    (hfound : w.db.vm vmId = some vm)
    (hkeeps : ActionKeeps env w user vmId action params details) :
    Settles w (requestVmAction env vm action user.email params >>= fun task =>
      record env (some user) ("vm." ++ action.name) vm.ref (some task) details) w := by
  have htruthful := Truthful.refl w
  rcases hstamp : action.function.2 with _ | state
  · refine settles_of_fewer ?_ htruthful
    exact keeps_bind (fewer_requestVmAction hstamp _) fun _ => fewer_record _ _ _ _ _
  · rw [requestVmAction_of_stamp hstamp, queueVmTask_answered]
    rcases hguid : nonEmpty vm.vmUuid with _ | vmUuid
    · exact Or.inr htruthful
    simp only [bind_assoc]
    refine (settles_congr (Prog.read_bind_run _ w)).mpr ?_
    refine settles_pass (ofOption_state _ _) htruthful fun host hhost => ?_
    refine settles_pass (requireHostOnline_state host) htruthful fun _ honline => ?_
    have hhost : w.db.host vm.hostId = some host := by
      rcases hget : w.db.host vm.hostId with _ | found
      · rw [hget] at hhost
        cases hhost
      · rw [hget] at hhost
        cases hhost
        rfl
    have honline : agentConnected env w.now host = true := by
      by_contra hoff
      unfold requireHostOnline at honline
      rw [Prog.read_bind_run, if_neg hoff] at honline
      cases honline
    -- the identifier of the task is drawn, and the lock is taken or held
    set w₁ : World := { w with nextId := w.nextId + 1 } with hw₁
    have hid : newId env w = (.ok (env.uuid w.nextId), w₁) := rfl
    rw [settles_congr (Prog.bind_run_ok hid), if_pos trivial]
    rcases hlock : Expiring.get w.cache.vmLocks vm.id with _ | held
    · have hfree : acquireVmLock env vm.id (env.uuid w.nextId) action.function.1 user.email w₁ =
          (.ok true, _) := acquireVmLock_free hlock
      rw [settles_congr (Prog.bind_run_ok hfree), if_pos rfl]
      refine settles_releasing_bind (settles_addVmTask host hc (Table.mem_of_lookup hfound) hstamp
        rfl rfl rfl rfl rfl rfl ?_)
      exact hkeeps vm hfound state hstamp vmUuid hguid host hhost honline hlock
    · have hheld : acquireVmLock env vm.id (env.uuid w.nextId) action.function.1 user.email w₁ =
          (.ok false, w₁) := acquireVmLock_held hlock
      rw [settles_congr (Prog.bind_run_ok hheld)]
      exact Or.inr htruthful

/-- The VM of a route, and a program on it. -/
lemma settles_getVm {vmId : String} {f : Vm → M α}
    (hf : ∀ vm, w.db.vm vmId = some vm → Settles w (f vm) w) :
    Settles w (getVm vmId >>= f) w := by
  have hget : getVm vmId w = M.ofOption (notFound "VM") (w.db.vm vmId) w := rfl
  refine (settles_congr (bind_congr_run hget f)).mpr ?_
  rcases hfound : w.db.vm vmId with _ | vm
  · exact Or.inr (Truthful.refl w)
  · exact hf vm hfound

/-- `POST /vms/{vm_id}/actions/{action}`. -/
theorem settles_vmAction {vmId : String} (hc : w.db.Consistent)
    (hkeeps : action ≠ .delete → ActionKeeps env w user vmId action params (actionDetails params)) :
    Settles w (vmAction env user vmId action params) w := by
  unfold vmAction
  by_cases hdelete : action = .delete
  · rw [if_pos hdelete]
    exact Or.inr (Truthful.refl w)
  rw [if_neg hdelete]
  refine settles_getVm fun vm hfound => ?_
  by_cases hread : action.isReadOnly = true
  · have hstamp : action.function.2 = none := by
      revert hread
      cases action <;> simp [VmAction.isReadOnly, VmAction.function]
    refine settles_of_fewer (keeps_bind (fewer_requestVmAction hstamp _) fun _ => ?_)
      (Truthful.refl w)
    dsimp only
    rw [if_pos hread]
    exact keeps_pure _
  · simp only [if_neg hread]
    exact settles_requestVmAction hc hfound (hkeeps hdelete)

/-- `DELETE /vms/{vm_id}`. -/
theorem settles_deleteVm {vmId : String} {removeFiles : Bool} (hc : w.db.Consistent)
    (hkeeps : ActionKeeps env w user vmId .delete [("remove_files", .bool removeFiles)]
      (deleteDetails removeFiles)) :
    Settles w (deleteVm env user vmId removeFiles) w :=
  settles_getVm fun _ hfound => settles_requestVmAction hc hfound hkeeps

end Requests

end OpenVCenter
