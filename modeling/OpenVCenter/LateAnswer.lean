import OpenVCenter.HostIsolation
import OpenVCenter.LateProgress
import OpenVCenter.MutualExclusion
import OpenVCenter.PartialWrite

set_option relaxedAutoImplicit false
set_option autoImplicit false

/-!
# Answers of timed-out tasks

A task that has timed out has lost its lock, and another one may hold the VM when its agent answers
after all. The release of the lock asks whose it is; the writes of the state do not. This file says
which late answers leave the VM to the task that holds it.

## Main definitions

* `OpenVCenter.LateAnswer` — an answer to a timed-out task, while another one holds the VM.
* `OpenVCenter.Undisturbed` — the state of the VM, its overlay and the lock of the other task are
  as they were.
* `OpenVCenter.GivesWay` — the answer has nothing to take back, to remove or to rename.

## Main results

* `OpenVCenter.late_answer_undisturbed` — one late answer.
* `OpenVCenter.run_late_answer` — every late answer of a run.
-/

namespace OpenVCenter

open Effect

variable {env : Env} {w w₀ : World} {hostId : String} {resp : AgentResponse} {dead : Task}
  {id holder : String}

/-! ## What an answer must leave alone -/

/-- A success or a failure of a VM task that has timed out, while a task of a kind that takes the
lock is queued or running on the same VM. -/
structure LateAnswer (s : Committed) (hostId : String) (resp : AgentResponse)
    (dead newer : Task) : Prop where
  found : s.world.db.taskOfHost hostId resp.id = some dead
  timedOut : dead.status = .timeout
  ends : resp.status = "succeeded" ∨ resp.status = "failed"
  ofVm : dead.targetType = .vm
  mem : newer ∈ s.world.db.tasks
  takesLock : newer.kind.takesVmLock = true
  active : newer.status.isTerminal = false
  sameVm : newer.targetId = dead.targetId

/-- The row of the VM has the state it had, an overlay shows what it showed, and a lock of the
holder is there. -/
structure Undisturbed (before after : World) (vmId holder : String) : Prop where
  row : ∀ vm ∈ before.db.vms, vm.id = vmId →
    ∃ vm' ∈ after.db.vms, vm'.id = vmId ∧ vm'.state = vm.state
  overlay : ∀ text, Expiring.get before.cache.vmStates vmId = some text →
    Expiring.get after.cache.vmStates vmId = some text
  lock : ∀ lock, Expiring.get before.cache.vmLocks vmId = some lock → lock.taskId = holder →
    Expiring.get after.cache.vmLocks vmId = some lock

/-- A state the row and the overlay of the VM show already. -/
def ShownAlready (env : Env) (w : World) (vm : Vm) (state : Json) : Prop :=
  state = vm.state ∧ ∀ text ∈ encodeValue env state, ∀ old ∈ Expiring.get w.cache.vmStates vm.id,
    text = old

/-- The late answer leaves the VM alone. A create or a clone finds no row. A failure finds no
optimistic state of its own kind. A delete that succeeds finds neither row nor overlay. What the
objects of another success say of the VM, or its bare state if they are about no VM of the host, is
what the VM shows. -/
structure GivesWay (env : Env) (w : World) (hostId : String) (resp : AgentResponse)
    (dead : Task) : Prop where
  placeholder : dead.kind.makesPlaceholder = true → w.db.vm dead.targetId = none
  failure : resp.status ≠ "succeeded" → ∀ vm ∈ w.db.vm dead.targetId,
    ∀ transitional ∈ transitionalState dead.kind, vm.state.isStr transitional = false
  removal : resp.status = "succeeded" → dead.kind = .vm_delete →
    w.db.vm dead.targetId = none ∧ Expiring.get w.cache.vmStates dead.targetId = none
  object : resp.status = "succeeded" → dead.kind ≠ .vm_delete → ∀ vm ∈ w.db.vm dead.targetId,
    vm.hostId = hostId → ∀ raw ∈ responseVmItems resp.stripped, ∀ item said,
    IsAbout env raw item vm → saidOf env raw item = .ok said →
    ShownAlready env w vm (said.state.getD vm.state)
  hint : resp.status = "succeeded" → dead.kind ≠ .vm_delete → ∀ vm ∈ w.db.vm dead.targetId,
    vm.hostId = hostId →
    (∀ raw ∈ responseVmItems resp.stripped, ∀ item, ∀ vm' ∈ w.db.vms, vm'.hostId = hostId →
      ¬ IsAbout env raw item vm') →
    ∀ u state, nonEmpty resp.vmId = some u → vm.vmUuid = some u →
    nonEmpty resp.vmState = some state → ShownAlready env w vm (.str state)

/-! ## The invariant of the refresh -/

/-- No row and no host has moved since `w₀`, and the VM is undisturbed. -/
structure StillShows (w₀ : World) (id holder : String) (w : World) : Prop where
  rows : w.db.vms.map Vm.address = w₀.db.vms.map Vm.address
  hosts : w.db.hosts.map Host.id = w₀.db.hosts.map Host.id
  state : ∀ vm ∈ w.db.vms, vm.id = id → ∃ old ∈ w₀.db.vms, old.id = id ∧ vm.state = old.state
  overlay : ∀ text, Expiring.get w₀.cache.vmStates id = some text →
    Expiring.get w.cache.vmStates id = some text
  lock : ∀ lock, Expiring.get w₀.cache.vmLocks id = some lock → lock.taskId = holder →
    Expiring.get w.cache.vmLocks id = some lock

/-- A VM still shows what it shows. -/
lemma StillShows.refl (w₀ : World) (id holder : String) : StillShows w₀ id holder w₀ where
  rows := rfl
  hosts := rfl
  state vm hvm hid := ⟨vm, hvm, hid, rfl⟩
  overlay _ h := h
  lock _ h _ := h

/-- The frame of what keeps the VM undisturbed. -/
def stillFrame (w₀ : World) (id holder : String) : Frame World :=
  Frame.invariant (StillShows w₀ id holder)

/-- No row has come or gone. -/
lemma StillShows.ids (h : StillShows w₀ id holder w) :
    w.db.vms.map Vm.id = w₀.db.vms.map Vm.id := by
  have hids := congrArg (List.map Prod.fst) h.rows
  simp only [List.map_map] at hids
  exact hids

/-- Where the rows have kept their keys, the VM is undisturbed. -/
lemma StillShows.undisturbed (h : StillShows w₀ id holder w) (hc : w₀.db.Consistent) :
    Undisturbed w₀ w id holder where
  row vm hvm hid := by
    have hin : vm.id ∈ w.db.vms.map Vm.id := by
      rw [h.ids]
      exact List.mem_map_of_mem hvm
    obtain ⟨vm', hvm', hid'⟩ := List.mem_map.mp hin
    obtain ⟨old, hold, hoid, hstate⟩ := h.state vm' hvm' (hid'.trans hid)
    obtain rfl : old = vm := Table.eq_of_mem_of_key hc.keyed.vmIds hold hvm (hoid.trans hid.symm)
    exact ⟨vm', hvm', hid'.trans hid, hstate⟩
  overlay := h.overlay
  lock := h.lock

/-- The VM has no row if it had none. -/
lemma StillShows.vm_none (h : StillShows w₀ id holder w) (hnone : w₀.db.vm id = none) :
    w.db.vm id = none := by
  refine Table.lookup_eq_none.mpr fun vm hvm hid => ?_
  obtain ⟨old, hold, hoid, -⟩ := h.state vm hvm hid
  exact Table.lookup_eq_none.mp hnone old hold hoid

/-- A row stands where one has stood; that of the VM has the state it had. -/
lemma StillShows.old (h : StillShows w₀ id holder w) (hc : w₀.db.Consistent) {vm : Vm}
    (hvm : vm ∈ w.db.vms) :
    ∃ old ∈ w₀.db.vms, old.address = vm.address ∧ (vm.id = id → vm.state = old.state) := by
  have hin : vm.address ∈ w₀.db.vms.map Vm.address := by
    rw [← h.rows]
    exact List.mem_map_of_mem hvm
  obtain ⟨old, hold, haddress⟩ := List.mem_map.mp hin
  refine ⟨old, hold, haddress, fun hid => ?_⟩
  obtain ⟨old', hold', hoid, hstate⟩ := h.state vm hvm hid
  have hkey : old'.id = old.id := hoid.trans (hid.symm.trans (congrArg Prod.fst haddress).symm)
  rw [hstate, Table.eq_of_mem_of_key hc.keyed.vmIds hold' hold hkey]

/-- A row is written where it stands, and the VM's with the state it has. -/
lemma StillShows.storeVm (h : StillShows w₀ id holder w) {vm vm' : Vm} (hvm : vm ∈ w.db.vms)
    (hn : (w.db.vms.map Vm.id).Nodup) (haddress : vm'.address = vm.address)
    (hstate : vm.id = id → vm'.state = vm.state) :
    StillShows w₀ id holder { w with db := w.db.storeVm vm' } where
  rows := by
    rw [← h.rows]
    refine Table.map_store fun x hx hxid => ?_
    have hid : x.id = vm.id := hxid.trans (congrArg Prod.fst haddress)
    rw [haddress, Table.eq_of_mem_of_key hn hx hvm hid]
  hosts := h.hosts
  state x hx hxid := by
    rcases Table.mem_store.mp hx with ⟨hx, -⟩ | ⟨rfl, -⟩
    · exact h.state x hx hxid
    · have hid : vm.id = id := (congrArg Prod.fst haddress).symm.trans hxid
      rw [hstate hid]
      exact h.state vm hvm hid
  overlay := h.overlay
  lock := h.lock

/-- An overlay that says nothing new. -/
lemma keeps_still_setVmState {vmId : String} {state : Json}
    (h : vmId = id → ∀ text ∈ encodeValue env state, ∀ old ∈ Expiring.get w₀.cache.vmStates id,
      text = old) :
    Keeps (stillFrame w₀ id holder) (setVmState env vmId state) := by
  intro w hw
  unfold setVmState
  rcases htext : encodeValue env state with _ | text
  · exact hw
  · refine { hw with overlay := fun old hold => ?_ }
    change Expiring.get (Expiring.put w.cache.vmStates vmId text _) id = some old
    rw [Expiring.get_put]
    split_ifs with hid
    · rw [h hid.symm text htext old hold]
    · exact hw.overlay old hold

/-- A row that is read is written where it stands, and the VM's with a state it shows already. -/
lemma rel_still_write (hc : w₀.db.Consistent) {vm : Vm} (vm' : Vm) {state : Json}
    (hvm : vm ∈ w.db.vms)
    (haddress : vm'.address = vm.address) (hstate : vm'.state = state)
    (hshown : ∀ old ∈ w₀.db.vm id, old.address = vm.address → old.state = vm.state →
      ShownAlready env w₀ old state) :
    (stillFrame w₀ id holder).rel w
      ((modifyDb (fun db => db.storeVm vm') >>= fun _ => setVmState env vm'.id state) w).2 := by
  intro hw
  have hn : (w.db.vms.map Vm.id).Nodup := by
    rw [hw.ids]
    exact hc.keyed.vmIds
  have hkey : vm'.id = vm.id := congrArg Prod.fst haddress
  have hold : vm.id = id → ∃ old ∈ w₀.db.vm id, old.id = id ∧ vm.state = old.state ∧
      ShownAlready env w₀ old state := by
    intro hid
    obtain ⟨old, hmem, hoaddress, hostate⟩ := hw.old hc hvm
    have hoid : old.id = id := (congrArg Prod.fst hoaddress).trans hid
    have holdvm : w₀.db.vm id = some old := hc.vm_eq_some.mpr ⟨hmem, hoid⟩
    exact ⟨old, holdvm, hoid, hostate hid, hshown old holdvm hoaddress (hostate hid).symm⟩
  have hstored : StillShows w₀ id holder { w with db := w.db.storeVm vm' } := by
    refine hw.storeVm hvm hn haddress fun hid => ?_
    obtain ⟨old, -, -, hvstate, hsame, -⟩ := hold hid
    rw [hstate, hsame, hvstate]
  have hoverlay : Keeps (stillFrame w₀ id holder) (setVmState env vm'.id state) := by
    refine keeps_still_setVmState fun hid text htext shown hshow => ?_
    obtain ⟨old, -, hoid, -, -, htexts⟩ := hold (hkey ▸ hid)
    exact htexts text htext shown (hoid ▸ hshow)
  exact hoverlay _ hstored

/-- A write of an object keeps the address of a row of the host; the object says its state. -/
lemma address_of_subset {now : Time} {raw item : Dict} {clusterId : Option String} {vm vm' : Vm}
    (hhost : vm.hostId = hostId)
    (h : writeVmRow env now true raw item hostId clusterId vm = .ok vm') :
    vm'.address = vm.address ∧
      ∃ said, saidOf env raw item = .ok said ∧ vm'.state = said.state.getD vm.state := by
  rw [writeVmRow_subset] at h
  obtain ⟨said, hsaid, hvm'⟩ := except_bind_eq_ok.mp h
  cases hvm'
  exact ⟨address_eq_iff.mpr ⟨rfl, rfl, hhost.symm⟩, said, hsaid, rfl⟩

/-- One object of the answer. -/
lemma keeps_still_refreshItem (hc : w₀.db.Consistent) {host : Host} (hid : host.id = hostId)
    {raw : Dict} (hobject : ∀ vm ∈ w₀.db.vm id, vm.hostId = hostId → ∀ item said,
      IsAbout env raw item vm → saidOf env raw item = .ok said →
      ShownAlready env w₀ vm (said.state.getD vm.state)) (updated : Bool) :
    Keeps (stillFrame w₀ id holder) (refreshItem env host updated raw) := by
  subst hid
  intro w
  refine rel_ofExcept_bind fun item hitem => (?_ : Keeps (stillFrame w₀ id holder) _) w
  split
  · rename_i htruthy
    split
    · rename_i u hu
      refine keeps_bind keeps_flush fun _ => keeps_read_bind fun w => ?_
      refine rel_ofExcept_bind fun row hrow => ?_
      cases row with
      | none => exact keeps_pure _ _
      | some vm =>
        obtain ⟨hmem, hguid, hhost⟩ := vmByGuid_eq_some hrow
        refine rel_ofExcept_bind fun vm' hwrite => ?_
        obtain ⟨haddress, said, hsaid, hstate⟩ := address_of_subset hhost hwrite
        rw [← bind_assoc]
        refine rel_bind ?_ fun _ t _ _ => keeps_pure true t
        refine rel_still_write hc _ hmem haddress rfl fun old hold ho hostate => ?_
        obtain ⟨-, hoguid, hohost⟩ := address_eq_iff.mp ho
        rw [hstate, ← hostate]
        refine hobject old hold (hohost.trans hhost) item said ⟨hitem, u, hu, ?_, ?_⟩ hsaid
        · rintro rfl
          rw [hu] at htruthy
          cases htruthy
        · exact hoguid.trans hguid
    · exact keeps_raise _
  · exact keeps_pure _

/-! ## The refresh of a late answer -/

/-- What the answer says of the VM is what the VM shows. -/
def SaysNothingNew (env : Env) (w₀ : World) (id hostId : String) (resp : AgentResponse) : Prop :=
  ∀ vm ∈ w₀.db.vm id, vm.hostId = hostId → ∀ raw ∈ responseVmItems resp, ∀ item said,
    IsAbout env raw item vm → saidOf env raw item = .ok said →
    ShownAlready env w₀ vm (said.state.getD vm.state)

/-- A host is found under its identifier. -/
lemma host_id_eq {db : Db} {host : Host} (h : db.host hostId = some host) : host.id = hostId :=
  Table.key_of_lookup h

/-- VMs of an answer that says nothing new. -/
lemma keeps_still_applyResponseVmStatus (hc : w₀.db.Consistent)
    (hnews : SaysNothingNew env w₀ id hostId resp) :
    Keeps (stillFrame w₀ id holder) (applyResponseVmStatus env hostId resp) := by
  unfold applyResponseVmStatus
  split
  · exact keeps_pure _
  · refine keeps_bind keeps_read fun w => ?_
    split
    · exact keeps_pure _
    · rename_i host hhost
      refine keeps_foldlM (fun updated raw hraw => ?_) _
      exact keeps_still_refreshItem hc (host_id_eq hhost)
        (fun vm hvm hown => hnews vm hvm hown raw hraw) updated

/-- An object about a VM of the host is applied.

**Proof sketch.** The run is followed to its two ways to return false: an object without a GUID is
about no VM, and for a GUID without a row no VM of the host has it. A row that is found returns
true. -/
lemma refreshItem_unapplied {host : Host} {updated : Bool} {raw : Dict} {t : World}
    (h : refreshItem env host updated raw w = (.ok false, t)) :
    updated = false ∧ ∀ item, ∀ vm ∈ w.db.vms, vm.hostId = host.id → ¬ IsAbout env raw item vm := by
  unfold refreshItem at h
  obtain ⟨item, w₁, hexcept, hrun⟩ := Prog.bind_eq_ok.mp h
  obtain ⟨hitem, rfl⟩ := Prog.ofExcept_eq_ok.mp hexcept
  have habout : ∀ item' vm, IsAbout env raw item' vm →
      ∃ u, item.get "vmUuid" = .str u ∧ u ≠ "" ∧ vm.vmUuid = some u := by
    rintro item' vm ⟨hitem', hu⟩
    obtain rfl : item = item' := Except.ok.inj (hitem.symm.trans hitem')
    exact hu
  by_cases htruthy : (item.get "vmUuid").truthy = true
  · rw [if_pos htruthy] at hrun
    rcases hguid : item.get "vmUuid" with _ | _ | _ | _ | u | _ | _
    case str =>
      rw [hguid] at hrun
      obtain ⟨⟨⟩, w₂, hflush, hlook⟩ := Prog.bind_eq_ok.mp hrun
      obtain ⟨-, rfl⟩ := flush_eq_ok.mp hflush
      rw [Prog.read_bind_run] at hlook
      obtain ⟨row, w₃, hexcept', hwrite⟩ := Prog.bind_eq_ok.mp hlook
      obtain ⟨hrow, rfl⟩ := Prog.ofExcept_eq_ok.mp hexcept'
      cases row with
      | none =>
        obtain ⟨hupdated, -⟩ := Prod.mk.inj hwrite
        refine ⟨Except.ok.inj hupdated, fun item' vm hvm hhost hsome => ?_⟩
        obtain ⟨u', hu', -, hvmu⟩ := habout item' vm hsome
        obtain rfl : u = u' := Json.str.inj (hguid.symm.trans hu')
        have hin := (List.mem_filter (p := fun v : Vm =>
          decide (v.vmUuid = some u ∧ v.hostId = host.id))).mpr ⟨hvm, by simp [hvmu, hhost]⟩
        unfold vmByGuid at hrow
        split at hrow
        · rename_i hnil
          rw [hnil] at hin
          cases hin
        · cases hrow
        · cases hrow
      | some vm =>
        obtain ⟨vm', w₄, -, hstore⟩ := Prog.bind_eq_ok.mp hwrite
        obtain ⟨⟨⟩, w₅, -, hoverlay⟩ := Prog.bind_eq_ok.mp hstore
        obtain ⟨⟨⟩, w₆, -, hend⟩ := Prog.bind_eq_ok.mp hoverlay
        cases (Prod.mk.inj hend).1
    all_goals
      rw [hguid] at hrun
      cases (Prod.mk.inj hrun).1
  · rw [if_neg htruthy] at hrun
    obtain ⟨hupdated, -⟩ := Prod.mk.inj hrun
    refine ⟨Except.ok.inj hupdated, fun item' vm _ _ hsome => htruthy ?_⟩
    obtain ⟨u, hu, hne, -⟩ := habout item' vm hsome
    rw [hu]
    simpa [Json.truthy] using hne

/-- When nothing was applied, no object was about a VM of the host. -/
lemma unapplied_about (hc : w₀.db.Consistent) (hnews : SaysNothingNew env w₀ id hostId resp)
    (hw : StillShows w₀ id holder w) {host : Host} (hhost : w.db.host hostId = some host) {t : World}
    (h : applyResponseVmStatus env hostId resp w = (.ok false, t)) :
    ∀ raw ∈ responseVmItems resp, ∀ item, ∀ vm ∈ w₀.db.vms, vm.hostId = hostId →
      ¬ IsAbout env raw item vm := by
  unfold applyResponseVmStatus at h
  by_cases hempty : (responseVmItems resp).isEmpty = true
  · rw [List.isEmpty_iff.mp hempty]
    exact fun _ hraw => by cases hraw
  · rw [if_neg hempty, Prog.read_bind_run, hhost] at h
    obtain rfl : host.id = hostId := host_id_eq hhost
    have hscan := foldlM_ok_scan (I := fun done applied w => StillShows w₀ id holder w ∧
      (applied = false → ∀ raw ∈ done, ∀ item, ∀ vm ∈ w₀.db.vms, vm.hostId = host.id →
        ¬ IsAbout env raw item vm)) h ⟨hw, fun _ _ hraw => by cases hraw⟩ ?_
    · exact hscan.2 rfl
    · rintro done raw rest hsplit applied w applied' t ⟨hw, hdone⟩ hrun
      have hraw : raw ∈ responseVmItems resp :=
        hsplit ▸ List.mem_append_right _ List.mem_cons_self
      have hkeeps := keeps_still_refreshItem hc rfl
        (fun vm hvm hown => hnews vm hvm hown raw hraw) applied w hw
      rw [hrun] at hkeeps
      refine ⟨hkeeps, fun hfalse raw' hraw' item vm hvm hown habout => ?_⟩
      subst hfalse
      obtain ⟨happlied, hnone⟩ := refreshItem_unapplied hrun
      rcases List.mem_append.mp hraw' with hraw' | hraw'
      · exact hdone happlied raw' hraw' item vm hvm hown habout
      · obtain rfl := List.mem_singleton.mp hraw'
        -- the row has its GUID and its host in the state before the object as well
        have hin : vm.address ∈ w.db.vms.map Vm.address := by
          rw [hw.rows]
          exact List.mem_map_of_mem hvm
        obtain ⟨vm', hvm', haddress⟩ := List.mem_map.mp hin
        obtain ⟨-, hguid, hhost'⟩ := address_eq_iff.mp haddress
        obtain ⟨hitem, u, hu, hne, hvmu⟩ := habout
        exact hnone item vm' hvm' (hhost'.trans hown) ⟨hitem, u, hu, hne, hguid.trans hvmu⟩

/-- The bare state of the answer is what the VM shows, unless an object is about a VM of the
host. -/
def HintsNothingNew (env : Env) (w₀ : World) (id hostId : String) (resp : AgentResponse) : Prop :=
  ∀ vm ∈ w₀.db.vm id, vm.hostId = hostId →
    (∀ raw ∈ responseVmItems resp, ∀ item, ∀ vm' ∈ w₀.db.vms, vm'.hostId = hostId →
      ¬ IsAbout env raw item vm') →
    ∀ u state, nonEmpty resp.vmId = some u → vm.vmUuid = some u →
    nonEmpty resp.vmState = some state → ShownAlready env w₀ vm (.str state)

/-- A success that says nothing new. -/
lemma keeps_still_applySuccess (hc : w₀.db.Consistent) (hhost : hostId ∈ w₀.db.hosts.map Host.id)
    (hnews : SaysNothingNew env w₀ id hostId resp)
    (hhint : HintsNothingNew env w₀ id hostId resp) :
    Keeps (stillFrame w₀ id holder) (applySuccess env hostId resp) := by
  intro w hw
  have hstill : Keeps (stillFrame w₀ id holder) (applyResponseVmStatus env hostId resp) :=
    keeps_still_applyResponseVmStatus hc hnews
  refine rel_bind_from (F := stillFrame w₀ id holder) (hstill w) (fun applied t ht htw => ?_) hw
  refine (stillFrame w₀ id holder).trans htw ?_
  rcases hguid : nonEmpty resp.vmId with _ | u
  · exact keeps_pure _ _
  rcases hstate : nonEmpty resp.vmState with _ | state
  · exact keeps_pure _ _
  cases applied with
  | true => exact keeps_pure _ _
  | false =>
    refine keeps_bind keeps_flush (fun _ => keeps_read_bind fun w' => ?_) t
    refine rel_ofExcept_bind fun row hrow => ?_
    cases row with
    | none => exact keeps_pure _ _
    | some vm =>
      obtain ⟨hmem, hvmu, hown⟩ := vmByGuid_eq_some hrow
      refine rel_still_write hc { vm with state := .str state } hmem rfl rfl
        fun old hold ho hostate => ?_
      obtain ⟨-, hoguid, hohost⟩ := address_eq_iff.mp ho
      refine hhint old hold (hohost.trans hown) ?_ u state hguid (hoguid.trans hvmu) hstate
      obtain ⟨host, hmemhost, hid⟩ := List.mem_map.mp (hw.hosts ▸ hhost)
      have hlookup : (w.db.host hostId).isSome = true := by
        rw [Option.isSome_iff_ne_none]
        exact fun hnone => Table.lookup_eq_none.mp hnone host hmemhost hid
      obtain ⟨host', hhost'⟩ := Option.isSome_iff_exists.mp hlookup
      exact unapplied_about hc hnews hw hhost' ht

/-- An overlay that is not there is not cleared. -/
lemma keeps_clearVmState_none (hnone : Expiring.get w₀.cache.vmStates id = none) :
    Keeps (stillFrame w₀ id holder) (clearVmState id) := fun w hw =>
  { hw with overlay := fun text htext => by rw [hnone] at htext; cases htext }

/-- Nothing of the refresh of a late answer that gives way reaches the VM.

**Proof sketch.** By what the task was for. A placeholder is gone, so nothing is stamped or dropped.
A delete that succeeds finds neither a row nor an overlay. A success says nothing new of the VM, and
a failure reverts no state, as the VM does not show the transition. -/
theorem keeps_still_applyResponseState {ended : Task} (hc : w₀.db.Consistent)
    (hhost : hostId ∈ w₀.db.hosts.map Host.id) (hway : GivesWay env w₀ hostId resp dead)
    (hkind : ended.kind = dead.kind) (htarget : ended.targetId = dead.targetId)
    (hstatus : ended.status = terminalStatus resp) :
    Keeps (stillFrame w₀ dead.targetId holder) (applyResponseState env hostId resp.stripped ended) := by
  intro w hw
  have hsucceeded : ended.status = .succeeded ↔ resp.status = "succeeded" := by
    rw [hstatus, terminalStatus_eq_succeeded]
  unfold applyResponseState
  rw [hkind]
  by_cases hplaceholder : dead.kind.makesPlaceholder = true
  · have hnone : w.db.vm ended.targetId = none := by
      rw [htarget]
      exact hw.vm_none (hway.placeholder hplaceholder)
    rw [if_pos hplaceholder, Prog.read_bind_run, hnone]
    exact hw
  rw [if_neg hplaceholder]
  by_cases hremoval : dead.kind = .vm_delete ∧ ended.status = .succeeded
  · -- neither a row nor an overlay to remove
    obtain ⟨hnone, hoverlay⟩ := hway.removal (hsucceeded.mp hremoval.2) hremoval.1
    have hgone : w.db.vm dead.targetId = none := hw.vm_none hnone
    rw [if_pos hremoval]
    unfold applyDelete
    rw [htarget, Prog.read_bind_run, hgone]
    have hrows : (w.db.deleteVm dead.targetId).vms = w.db.vms := by
      refine Table.deleteWhere_eq_self.mpr fun v hv => ?_
      simpa using Table.lookup_eq_none.mp hgone v hv
    refine keeps_clearVmState_none hoverlay _ ?_
    exact { hw with
      rows := by rw [← hw.rows]; exact congrArg (List.map Vm.address) hrows
      state := fun vm hvm hid => hw.state vm (hrows ▸ hvm) hid }
  rw [if_neg hremoval]
  by_cases hsucc : ended.status = .succeeded
  · have hdelete : dead.kind ≠ .vm_delete := fun h => hremoval ⟨h, hsucc⟩
    rw [if_pos hsucc]
    exact keeps_still_applySuccess hc hhost (hway.object (hsucceeded.mp hsucc) hdelete)
      (hway.hint (hsucceeded.mp hsucc) hdelete) w hw
  rw [if_neg hsucc]
  split_ifs
  · rw [revertState_idle]
    · exact hw
    · intro vm hvm transitional htrans _
      rw [htarget] at hvm
      obtain ⟨old, hold, hoid, hstate⟩ :=
        hw.state vm (Table.mem_of_lookup hvm) (Table.key_of_lookup hvm)
      rw [hstate]
      exact hway.failure (mt hsucceeded.mpr hsucc) old (hc.vm_eq_some.mpr ⟨hold, hoid⟩) transitional
        (hkind ▸ htrans)
  · exact hw

/-! ## One late answer -/

/-- A success or a failure is no progress message. -/
lemma LateAnswer.not_progress {s : Committed} {newer : Task}
    (h : LateAnswer s hostId resp dead newer) : isProgress resp dead.status = false := by
  simp [isProgress, h.timedOut, TaskStatus.isTerminal]

/-- The lock of the task that holds the VM is not that of the dead one. -/
lemma LateAnswer.ne {s : Committed} {newer : Task} (h : LateAnswer s hostId resp dead newer) :
    newer.id ≠ dead.id := by
  intro hid
  obtain ⟨hmem, -⟩ := s.consistent.task_eq_some.mp (task_of_taskOfHost h.found)
  have hsame : newer = dead :=
    Table.eq_of_mem_of_key s.consistent.keyed.taskIds h.mem hmem hid
  have hactive := h.active
  rw [hsame, h.timedOut] at hactive
  cases hactive

/-- A release for another task leaves the lock of the holder. -/
lemma StillShows.releaseLock {vmId taskId : String} (h : StillShows w₀ id holder w)
    (hne : holder ≠ taskId) :
    StillShows w₀ id holder { w with cache := releaseLock vmId taskId w.cache } :=
  { h with
    overlay := fun text htext => by
      rw [releaseLock_vmStates]
      exact h.overlay text htext
    lock := fun lock hlock hholder => by
      obtain ⟨t, ht⟩ := Expiring.get_eq_some.mp (h.lock lock hlock hholder)
      refine Expiring.get_eq_some.mpr ⟨t, ?_⟩
      rw [releaseVmLock_locks, if_neg, ht]
      rintro ⟨rfl, held, hheld, hid⟩
      rw [h.lock lock hlock hholder] at hheld
      obtain rfl : lock = held := Option.some.inj hheld
      exact hne (hholder.symm.trans hid) }

/-- A late answer that does not land, or gives way, leaves the VM to the task that holds it. -/
theorem late_answer_undisturbed {s : Committed} {newer : Task}
    (h : LateAnswer s hostId resp dead newer)
    (hway : Lands env s.world.now resp → GivesWay env s.world hostId resp dead) :
    Undisturbed s.world (System.step env s (.response hostId resp)).world dead.targetId
      newer.id := by
  have hc := s.consistent
  by_cases hl : Lands env s.world.now resp
  · have hhost : hostId ∈ s.world.db.hosts.map Host.id := by
      obtain ⟨hlookup, hown⟩ := taskOfHost_eq_some.mp h.found
      exact hown ▸ hc.keyed.taskHost dead (hc.task_eq_some.mp hlookup).1
    have hroll : ∀ w t, (stillFrame s.world dead.targetId newer.id).rel w t →
        (stillFrame s.world dead.targetId newer.id).rel w (rollback w t) := fun w t hrel hw =>
      { rows := hw.rows, hosts := hw.hosts, state := hw.state
        overlay := (hrel hw).overlay, lock := (hrel hw).lock }
    have hrefresh : Keeps (stillFrame s.world dead.targetId newer.id)
        (applyRefresh env hostId resp.stripped
          (endedTask env s.world.now resp.stripped dead)) := by
      refine keeps_applyRefresh hroll ?_ ?_ ?_ ?_ ?_
      · exact fun w n _ hw => { hw with }
      · exact fun w host _ hw =>
          { hw with hosts := (Table.map_key_store ..).trans hw.hosts }
      · exact fun w templates hw => { hw with }
      · exact keeps_still_applyResponseState hc hhost (hway hl) rfl rfl rfl
      · exact fun w hw => hw.releaseLock h.ne
    have hstart : StillShows s.world dead.targetId newer.id (atStart s.world) :=
      { StillShows.refl s.world dead.targetId newer.id with }
    have hstep := rel_savepoint (F := stillFrame s.world dead.targetId newer.id) hroll
      (m := applyResponse env hostId resp) (s := atStart s.world) ?_ hstart
    · rw [step_response]
      exact StillShows.undisturbed hstep hc
    · rw [applyResponse_landed (w := atStart s.world) hc h.found h.not_progress hl]
      exact fun hw => hrefresh _ { hw with }
  · rw [response_rejected s h.found h.not_progress hl]
    exact ⟨fun vm hvm hid => ⟨vm, hvm, hid, rfl⟩, fun _ h => h, fun _ h _ => h⟩

/-- Of the late failures that land, no others leave the VM alone.

**Proof sketch.** One direction is the general fact on late answers. For the other, a failure drops
a placeholder or reverts the target where it still shows the state of the dead task, and either
disturbs the newer one. -/
theorem late_failure_iff {s : Committed} {newer : Task} (h : LateAnswer s hostId resp dead newer)
    (hl : Lands env s.world.now resp) (hfailed : resp.status = "failed") :
    Undisturbed s.world (System.step env s (.response hostId resp)).world dead.targetId newer.id ↔
      GivesWay env s.world hostId resp dead := by
  have hc := s.consistent
  have hne : resp.status ≠ "succeeded" := by
    rw [hfailed]
    decide
  refine ⟨fun hkept => ?_, fun hway => late_answer_undisturbed h fun _ => hway⟩
  obtain ⟨-, -, hvms, -, -⟩ := step_response_failed s h.found h.not_progress hne hl
  refine ⟨fun hkind => ?_, fun _ vm hvm transitional htrans => ?_, fun hs => absurd hs hne,
    fun hs => absurd hs hne, fun hs => absurd hs hne⟩
  · rcases hvm : s.world.db.vm dead.targetId with _ | vm
    · rfl
    · -- the placeholder is dropped
      obtain ⟨hmem, hid⟩ := hc.vm_eq_some.mp hvm
      obtain ⟨vm', hmem', hid', -⟩ := hkept.row vm hmem hid
      rw [hvms, failedVms, if_pos hkind, hvm] at hmem'
      obtain ⟨-, hgone⟩ := Table.mem_deleteWhere.mp hmem'
      simp [hid', hid] at hgone
  · by_contra hshows
    obtain ⟨hmem, hid⟩ := hc.vm_eq_some.mp hvm
    obtain ⟨revert, hrevert, hdiffer⟩ := revert_of_transitional htrans
    have hkind : dead.kind.makesPlaceholder = false := by
      by_contra hkind
      rw [makesPlaceholder_no_transition (by simpa using hkind)] at htrans
      cases htrans
    have hrows : failedVms s.world.db dead =
        (s.world.db.storeVm { vm with state := .str revert }).vms := by
      have htransitional : transitionalState dead.kind = some transitional := htrans
      have hrow : s.world.db.vm dead.targetId = some vm := hvm
      have hshown : vm.state.isStr transitional = true := by simpa using hshows
      simp [failedVms, hkind, hrevert, htransitional, hrow, h.ofVm, hshown]
    obtain ⟨vm', hmem', hid', hstate⟩ := hkept.row vm hmem hid
    rw [hvms, hrows] at hmem'
    rcases Table.mem_store.mp hmem' with ⟨-, hother⟩ | ⟨rfl, -⟩
    · exact hother (hid'.trans hid.symm)
    · rw [← hstate] at hshows
      simp only [Json.isStr] at hshows
      exact hshows (by simpa using hdiffer)

/-! ## Runs -/

/-- A late answer, if the event is one, leaves the VM to the task that holds it. -/
def LateAnswersKeep (env : Env) (s : Committed) (e : Event) : Prop :=
  ∀ hostId resp dead newer, e = .response hostId resp → LateAnswer s hostId resp dead newer →
    Undisturbed s.world (System.step env s e).world dead.targetId newer.id

/-- A late answer, if the event is one, gives way or does not land. -/
def LateAnswersGiveWay (env : Env) (s : Committed) (e : Event) : Prop :=
  ∀ hostId resp dead newer, e = .response hostId resp → LateAnswer s hostId resp dead newer →
    Lands env s.world.now resp → GivesWay env s.world hostId resp dead

/-- In every run whose late answers give way, no dead task's answer overwrites the state owned by
the task that holds the VM. -/
theorem run_late_answer (env : Env) (s : Committed) (es : List Event)
    (h : Machine.AllSteps (System.step env) (LateAnswersGiveWay env) s es) :
    Machine.AllSteps (System.step env) (LateAnswersKeep env) s es := by
  refine Machine.AllSteps.mono (fun s e hway hostId resp dead newer he hlate => ?_) h
  subst he
  exact late_answer_undisturbed hlate (hway hostId resp dead newer rfl hlate)

namespace Demo

/-- The start of a VM times out, and the VM is started again. -/
@[irreducible] def startedAgain : Committed :=
  System.run settings startQueued
    [.tick 301000000, .sweep, .agentStatus "h" (.obj []), .vmAction 0 user "" .start []]

/-- The agent's failure of the first start. -/
def startFailed : AgentResponse := { started with status := "failed", error := some "no memory" }

/-- Any end of the first start is late. -/
lemma late_startedAgain (resp : AgentResponse) (hid : resp.id = "x")
    (hends : resp.status = "succeeded" ∨ resp.status = "failed") :
    ∃ dead newer, LateAnswer startedAgain "h" resp dead newer ∧ dead.kind = .vm_start := by
  obtain ⟨dead, hfound⟩ : ∃ dead, startedAgain.world.db.taskOfHost "h" "x" = some dead :=
    Option.isSome_iff_exists.mp (by decide +kernel)
  have hdead : ∀ t ∈ startedAgain.world.db.taskOfHost "h" "x", t.status = .timeout ∧
      t.targetType = .vm ∧ t.targetId = "" ∧ t.kind = .vm_start := by decide +kernel
  have hnewer : ∃ t ∈ startedAgain.world.db.tasks, t.kind.takesVmLock = true ∧
      t.status.isTerminal = false ∧ t.targetId = "" := by decide +kernel
  obtain ⟨htimedOut, hofVm, htarget, hkind⟩ := hdead dead hfound
  obtain ⟨newer, hmem, htakes, hactive, hsame⟩ := hnewer
  exact ⟨dead, newer, ⟨hid ▸ hfound, htimedOut, hends, hofVm, hmem, htakes, hactive,
    hsame.trans htarget.symm⟩, hkind⟩

end Demo

/-- The first start has succeeded after all, and says nothing of the VM. -/
theorem run_late_answer_started : ∃ dead newer,
    LateAnswer Demo.startedAgain "h" Demo.started dead newer ∧
    Undisturbed Demo.startedAgain.world
      (System.step Demo.settings Demo.startedAgain (.response "h" Demo.started)).world
      dead.targetId newer.id := by
  obtain ⟨dead, newer, hlate, -⟩ := Demo.late_startedAgain Demo.started rfl (Or.inl rfl)
  have hkinds : ∀ t ∈ Demo.startedAgain.world.db.taskOfHost "h" "x", t.kind = .vm_start := by
    decide +kernel
  have hway : Machine.AllSteps (System.step Demo.settings) (LateAnswersGiveWay Demo.settings)
      Demo.startedAgain [.response "h" Demo.started] := by
    refine ⟨fun hostId resp dead newer he hlate _ => ?_, trivial⟩
    cases he
    have hkind : dead.kind = .vm_start := hkinds dead hlate.found
    refine ⟨fun h => ?_, fun h => absurd rfl h, fun _ h => ?_, fun _ _ _ _ _ raw hraw => ?_,
      fun _ _ _ _ _ _ u _ hu => ?_⟩
    · rw [hkind] at h
      cases h
    · rw [hkind] at h
      cases h
    · cases hraw
    · cases hu
  obtain ⟨hkeep, -⟩ := run_late_answer Demo.settings Demo.startedAgain _ hway
  exact ⟨dead, newer, hlate, hkeep _ _ _ _ rfl hlate⟩

/-- The failure of the first start takes the VM of the second one back to off. -/
theorem run_late_answer_counterexample :
    ¬ ∀ (env : Env) (s : Committed), System.Reachable env s → ∀ hostId resp dead newer,
      LateAnswer s hostId resp dead newer →
      Undisturbed s.world (System.step env s (.response hostId resp)).world dead.targetId
        newer.id := by
  intro h
  have hreach : System.Reachable Demo.settings Demo.startedAgain := by
    unfold Demo.startedAgain
    exact (((Demo.startQueued_reachable.step _).step _).step _).step _
  obtain ⟨dead, newer, hlate, -⟩ :=
    Demo.late_startedAgain Demo.startFailed rfl (Or.inr rfl)
  have htargets : ∀ t ∈ Demo.startedAgain.world.db.taskOfHost "h" "x", t.targetId = "" := by
    decide +kernel
  have htarget : dead.targetId = "" := htargets dead hlate.found
  have hstarting : Expiring.get Demo.startedAgain.world.cache.vmStates "" = some "Starting" := by
    decide +kernel
  have hoff : Expiring.get (System.step Demo.settings Demo.startedAgain
      (.response "h" Demo.startFailed)).world.cache.vmStates "" = some "Off" := by decide +kernel
  have hoverlay := (h _ _ hreach _ _ _ _ hlate).overlay "Starting" (htarget ▸ hstarting)
  rw [htarget, hoff] at hoverlay
  exact absurd hoverlay (by decide)

end OpenVCenter
