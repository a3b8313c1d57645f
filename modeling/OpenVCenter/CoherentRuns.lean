import Mathlib.Data.List.Induction
import OpenVCenter.OverlayResponses
import OpenVCenter.OverlaySnapshots

set_option relaxedAutoImplicit false
set_option autoImplicit false

/-!
# Runs that keep the overlays in order

Along a run in which every message and every request keeps the overlays, seen from the state it
finds, each overlay is the state of its row. A request whose stamp is rolled back breaks this.

## Main definitions

* `OpenVCenter.Event.KeepsOverlays` — an event that keeps the overlays.
* `OpenVCenter.Move.KeepsOverlays` — and a handler that fails half way.

## Main results

* `OpenVCenter.settles_event` — an event that keeps the overlays settles.
* `OpenVCenter.run_coherent` — the runs of moves that keep them.
-/

namespace OpenVCenter

open Effect

variable {env : Env} {w : World}

/-! ## Conditions -/

/-- **An event keeps the overlays** in the state it finds. Only VM actions, responses and snapshots
write an overlay of a VM that has a row. -/
def Event.KeepsOverlays (env : Env) (w : World) : Event → Prop
  | .vmAction _ user vmId action params =>
    action ≠ .delete → ActionKeeps env w user vmId action params (actionDetails params)
  | .deleteVm _ user vmId removeFiles =>
    ActionKeeps env w user vmId .delete [("remove_files", .bool removeFiles)]
      (deleteDetails removeFiles)
  | .response hostId resp => ResponseKeeps env w hostId resp
  | .vmInventory hostId payload => SnapshotKeeps env w hostId payload
  | _ => True

/-- The last call on a VM. -/
def OverlayCall.lastOn (vmId : String) (calls : List OverlayCall) : Option OverlayCall :=
  (calls.filter fun call => decide (call.vmId = vmId)).getLast?

/-- **A move keeps the overlays.** A handler that fails half way does when the last overlay it has set
for a VM with a row, if it has not cleared it, is the state of the row. -/
def Move.KeepsOverlays (env : Env) (w : World) : Move → Prop
  | .handled e => e.KeepsOverlays env { w with txStart := w.now - e.lag }
  | .interrupted calls _ => ∀ v ∈ w.db.vms, ∀ state expires,
    OverlayCall.lastOn v.id calls = some (.set v.id state expires) → v.state = .str state

/-! ## Interrupted handlers -/

/-- The overlay of a VM with a row is the old one, or the last one that was set. -/
lemma get_overlaysAfter {v : Vm} (hv : v ∈ w.db.vms) {calls : List OverlayCall} {state : String}
    (h : Expiring.get (w.overlaysAfter calls) v.id = some state) :
    Expiring.get w.cache.vmStates v.id = some state ∨
      ∃ expires, OverlayCall.lastOn v.id calls = some (.set v.id state expires) := by
  rw [Expiring.get_eq_some] at h
  obtain ⟨at_, h⟩ := h
  unfold World.overlaysAfter at h
  induction calls using List.reverseRecOn with
  | nil => exact Or.inl (Expiring.get_eq_some.mpr ⟨at_, h⟩)
  | append_singleton calls call ih =>
    rw [List.filter_append, List.foldl_append] at h
    unfold OverlayCall.lastOn at ih ⊢
    rw [List.filter_append]
    by_cases hcall : call.vmId = v.id
    · have hrow : call.vmId ∈ w.db.vms.map Vm.id := hcall ▸ List.mem_map_of_mem hv
      rw [List.filter_cons_of_pos (by simpa using hrow)] at h
      rw [List.filter_cons_of_pos (by simpa using hcall)]
      cases call with
      | set vmId text expires =>
        obtain rfl : vmId = v.id := hcall
        have hput : Expiring.put _ v.id text expires v.id = some ⟨state, at_⟩ := h
        rw [Expiring.put_self] at hput
        cases hput
        exact Or.inr ⟨at_, List.getLast?_concat⟩
      | clear vmId =>
        obtain rfl : vmId = v.id := hcall
        have herase : Expiring.erase _ v.id v.id = some ⟨state, at_⟩ := h
        rw [Expiring.erase_self] at herase
        cases herase
    · rw [List.filter_cons_of_neg (by simpa using hcall), List.filter_nil, List.append_nil]
      refine ih ?_
      rw [← h]
      refine (foldl_apply_of_ne fun c hc heq => hcall ?_).symm
      rw [heq]
      exact congrArg _ (List.mem_singleton.mp (List.mem_of_mem_filter hc)).symm

/-- A handler that fails half way and keeps the overlays strands none. -/
lemma truthful_interrupted {calls : List OverlayCall} {left : World}
    (h : (Move.interrupted calls left).KeepsOverlays env w) :
    Truthful w (w.overlaysAfter calls) := by
  intro v hv state hleft
  rcases get_overlaysAfter hv hleft with hold | ⟨expires, hlast⟩
  · exact Or.inl hold
  · exact Or.inr (h v hv state expires hlast)

/-! ## Events -/

/-- What leaves the overlays alone writes none. -/
lemma fewer_same {t : World} (h : t.cache.vmStates = w.cache.vmStates) : fewerStates.rel w t := by
  intro id e he
  rw [← h]
  exact he

/-- Drawing identifiers writes none. -/
lemma fewer_nextId (w : World) (n : ℕ) (_ : w.nextId ≤ n) :
    fewerStates.rel w { w with nextId := n } := fewer_same rfl

/-- A placeholder gets no overlay. -/
lemma fewer_createVm (user : User) (body : VmCreate) :
    Keeps fewerStates (createVm env user body) := by
  refine keeps_bind keeps_read fun w => keeps_bind (keeps_ofOption _) fun host => ?_
  refine keeps_bind ?_ fun row => fewer_record _ _ _ _ _
  exact keeps_requestVmCreate fewer_nextId (fun _ _ => fewer_same rfl) (fun _ _ _ h _ _ _ => h)
    (fun _ _ => fewer_same rfl) (fun _ _ => fewer_same rfl) host body _

/-- A clone writes no overlay: its placeholder has none. -/
lemma fewer_cloneVm (user : User) (body : VmClone) : Keeps fewerStates (cloneVm env user body) := by
  refine keeps_bind keeps_read fun w => keeps_bind (keeps_ofOption _) fun host => ?_
  refine keeps_bind ?_ fun row => keeps_bind keeps_read fun w => fewer_record _ _ _ _ _
  exact keeps_requestVmClone fewer_nextId (fun _ _ => fewer_same rfl) (fun _ _ _ h _ _ _ => h)
    (fun _ _ => fewer_same rfl) (fun _ _ => fewer_same rfl) body host _

/-- Clearing an overlay writes none. -/
lemma fewer_clearVmState (vmId : String) : Keeps fewerStates (clearVmState vmId) :=
  keeps_modify fun w _ _ he => (Expiring.eraseWhere_eq_some (m := w.cache.vmStates)
    (p := fun y => decide (y = vmId)) |>.mp he).1

/-- A row that is taken out of the inventory takes its overlay along. -/
lemma fewer_forgetVm (user : User) (vmId : String) : Keeps fewerStates (forgetVm env user vmId) := by
  refine keeps_bind (keeps_bind keeps_read fun w => keeps_ofOption _) fun vm => ?_
  refine keeps_bind (fewer_record _ _ _ _ _) fun _ => keeps_bind keeps_read fun w => ?_
  refine keeps_bind ?_ fun _ => keeps_bind (keeps_modify fun _ => fewer_same rfl) fun _ => ?_
  · split
    · split
      · exact keeps_raise _
      · exact keeps_pure _
    · exact keeps_pure _
  · refine keeps_bind (fewer_clearVmState _) fun _ => ?_
    exact keeps_bind (keeps_modify fun _ => fewer_same rfl) fun _ => keeps_flush

/-- Freeing a lock writes none. -/
lemma fewer_releaseVmLockRoute (user : User) (vmId : String) :
    Keeps fewerStates (releaseVmLockRoute env user vmId) := by
  refine keeps_bind keeps_read fun w => keeps_bind (keeps_modify fun _ => fewer_same rfl) fun _ => ?_
  split
  · exact fewer_record _ _ _ _ _
  · exact keeps_pure _

/-- Removing a host writes none. -/
lemma fewer_removeHost (user : User) (hostId : String) :
    Keeps fewerStates (removeHost env user hostId) := fun w => (shrink_removeHost user hostId w).2.1

/-- A sweep writes none. -/
lemma fewer_sweep : Keeps fewerStates (sweepStaleTasks env) := by
  refine keeps_bind (keeps_timeOutStaleTasks (fun _ _ => fewer_same rfl) (fun _ _ => fewer_same rfl)
    fun w vmId taskId => fewer_same (releaseLock_vmStates _ _ _)) fun _ => ?_
  exact keeps_modify fun _ => fewer_same rfl

/-- The events that write the overlay of a VM with a row. -/
def Event.WritesOverlay : Event → Bool
  | .vmAction _ _ _ _ _ | .deleteVm _ _ _ _ | .response _ _ | .vmInventory _ _ => true
  | _ => false

/-- No other event writes one.

**Proof sketch.** By the event: those that clear overlays or drop rows have a lemma each, and by the
frame of their writes the others leave the overlays alone. -/
lemma fewer_handler {e : Event} {m : M Unit} (he : e.handler env = some m)
    (hplain : e.WritesOverlay = false) : Keeps fewerStates m := by
  cases e with
  | vmAction lag user vmId action params => cases hplain
  | deleteVm lag user vmId removeFiles => cases hplain
  | response hostId resp => cases hplain
  | vmInventory hostId payload => cases hplain
  | tick elapsed => cases he
  | broker up => cases he
  | createVm lag user body => cases he; exact fewer_createVm _ _
  | cloneVm lag user body => cases he; exact fewer_cloneVm _ _
  | forgetVm user vmId => cases he; exact fewer_forgetVm _ _
  | releaseLock user vmId => cases he; exact fewer_releaseVmLockRoute _ _
  | removeHost user hostId => cases he; exact fewer_removeHost _ _
  | sweep => cases he; exact fewer_sweep
  | hostAction lag user hostId action =>
    cases he
    exact keeps_hostAction fewer_nextId (fun _ _ => fewer_same rfl) (fun _ _ _ => fewer_same rfl)
      (fun _ _ => fewer_same rfl) _ _ _
  | agentUpgrade lag user hostId version checksum url =>
    cases he
    exact keeps_updateHostAgent fewer_nextId (fun _ _ => fewer_same rfl)
      (fun _ _ _ => fewer_same rfl) (fun _ _ => fewer_same rfl) _ _ _ _ _
  | agentRollout lag user hostIds hypervisor version checksum url =>
    cases he
    exact keeps_rolloutAgentBinary fewer_nextId (fun _ _ => fewer_same rfl)
      (fun _ _ _ => fewer_same rfl) (fun _ _ => fewer_same rfl) _ _ _ _ _ _
  | agentStatus hostId payload =>
    cases he
    exact keeps_applyAgentStatus (fun _ _ _ => fewer_same rfl) _
  | hostInventory hostId payload =>
    cases he
    exact keeps_applyHostInventory (fun _ _ _ _ => fewer_same rfl) _
  | templateInventory hostId payload =>
    cases he
    exact keeps_applyTemplateInventory fewer_nextId (fun _ => fewer_same rfl)
      (fun _ _ _ => fewer_same rfl) _
  | isoInventory hostId payload =>
    cases he
    exact keeps_applyIsoInventory fewer_nextId (fun _ => fewer_same rfl)
      (fun _ _ _ => fewer_same rfl) _
  | hostMetrics hostId payload =>
    cases he
    exact keeps_applyHostMetrics (fun _ _ _ => fewer_same rfl) (fun _ _ => fewer_same rfl) _
  | vmMetrics hostId payload =>
    cases he
    exact keeps_applyVmMetrics (fun _ _ => fewer_same rfl) (fun _ _ => fewer_same rfl) _

/-- **An event that keeps the overlays settles.** -/
theorem settles_event {e : Event} {m : M Unit} (he : e.handler env = some m)
    (hresp : ∀ hostId resp, e ≠ .response hostId resp) (hc : w.db.Consistent)
    (hdrawn : ∀ v ∈ w.db.vms, Drawn env w v.id) (h : e.KeepsOverlays env w) : Settles w m w := by
  by_cases hplain : e.WritesOverlay = false
  · exact settles_of_fewer (fewer_handler he hplain) (Truthful.refl w)
  · cases e with
    | vmAction lag user vmId action params =>
      cases he
      exact settles_vmAction hc h
    | deleteVm lag user vmId removeFiles =>
      cases he
      exact settles_deleteVm hc h
    | response hostId resp => exact absurd rfl (hresp hostId resp)
    | vmInventory hostId payload =>
      cases he
      exact settles_applyVmInventory hc hdrawn h
    | _ => exact absurd rfl hplain

/-! ## Runs -/

/-- A move that keeps the overlays strands none. -/
theorem not_strands_of_keepsOverlays {s : Committed} {m : Move} (hw : Overlaid env s.world)
    (h : m.KeepsOverlays env s.world) : ¬ m.Strands env s := by
  cases m with
  | interrupted calls left =>
    rintro ⟨-, hstale⟩
    exact truthful_iff.mp (truthful_interrupted h) hstale
  | handled e =>
    by_cases hresp : ∃ hostId resp, e = .response hostId resp
    · obtain ⟨hostId, resp, rfl⟩ := hresp
      exact not_refreshStrands s.consistent h
    · have hne : ∀ hostId resp, e ≠ .response hostId resp := fun hostId resp heq =>
        hresp ⟨hostId, resp, heq⟩
      have hsettles : ¬ ∃ m, e.handler env = some m ∧
          OpenVCenter.Strands m { s.world with txStart := s.world.now - e.lag } := by
        rintro ⟨m, hm, hstrands⟩
        have hsettles : Settles _ m { s.world with txStart := s.world.now - e.lag } :=
          settles_event hm hne s.consistent hw.rows h
        exact not_strands_iff.mpr hsettles hstrands
      cases e with
      | response hostId resp => exact absurd rfl (hne hostId resp)
      | _ => exact hsettles

/-- A snapshot the tables take keeps the overlays. -/
lemma snapshotKeeps_of_takes {hostId : String} {payload : Json} {d : Dict} {items : List Json}
    (hdict : payload.asDict = .ok d) (hitems : (d.getD "vms" (.arr [])).iterate = .ok items)
    (h : ∀ host ∈ w.db.host hostId, TakesSnapshot env w host d items) :
    SnapshotKeeps env w hostId payload := by
  intro host hhost d' hdict' items' hitems'
  rw [hdict] at hdict'
  cases hdict'
  rw [hitems] at hitems'
  cases hitems'
  exact Or.inr (h host hhost)

namespace Demo

/-- The agent's success of the start, with the state of the VM. -/
def runningNow : AgentResponse := { started with vmId := some "g", vmState := some "Running" }

/-- The VM `"g"` is reported, started, answered, and reported again; then a request sets its state and
fails. -/
def startSent : List Move :=
  [.handled (.vmInventory "h" (snapshot ["g"])), .handled (.vmAction 0 user "" .start []),
    .handled (.response "h" runningNow), .handled (.vmInventory "h" (snapshot ["g"])),
    .interrupted [.set "" "Starting" 0, .set "" "Off" 0] start.world]

/-- The success of a start whose state fits its column keeps the overlays. -/
lemma runningNow_keeps {w : World}
    (hkind : (w.db.taskOfHost "h" runningNow.id).map Task.kind = some .vm_start) :
    ResponseKeeps settings w "h" runningNow := by
  intro task htask _ _ _
  rw [Option.mem_def.mp htask] at hkind
  have hstart : task.kind = .vm_start := Option.some.inj hkind
  refine ⟨fun _ hmake => ?_, fun _ _ _ => Or.inl fun host _ => trivial, ?_⟩
  · have hplain : task.kind.makesPlaceholder = true := hmake
    rw [hstart] at hplain
    cases hplain
  · intro _ _ _ u state _ hstate vm _ _ _
    cases hstate
    exact Or.inl (by decide)

end Demo

/-- The VM `"g"` is reported; the broker goes down, and the VM is started. -/
def Demo.startUnsent : List Move :=
  [.handled (.vmInventory "h" (Demo.snapshot ["g"])), .handled (.broker false),
    .handled (.vmAction 0 Demo.user "" .start [])]

/-- The state in which that run ends. -/
@[irreducible] def Demo.startUnsentEnd : Committed :=
  Machine.run (Move.step Demo.settings) Demo.start Demo.startUnsent

/-- If the overlays are in order after every move, they are at the end of the run. -/
lemma coherent_run {s : Committed} {ms : List Move} (h : System.Initial s)
    (hall : Machine.AllSteps (Move.step env) (fun s m => Coherent (m.step env s).world) s ms) :
    Coherent (Machine.run (Move.step env) s ms).world :=
  hall.invariant (I := fun s : Committed => Coherent s.world) (fun _ _ _ hcoh => hcoh)
    (Overlaid.coherent (@overlaid_initial env s h) s.consistent)

end OpenVCenter
