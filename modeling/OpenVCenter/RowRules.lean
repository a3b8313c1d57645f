import OpenVCenter.HostIsolation
import OpenVCenter.RequestWrites

set_option relaxedAutoImplicit false
set_option autoImplicit false

/-!
# Rules for the rows of VMs

What the handlers do to the rows of `vms` and to the state overlays comes down to five writes: a row
goes, a row is added, a row is written over, and then it is shown. An invariant that admits each of
them holds wherever a handler returns.

## Main definitions

* `OpenVCenter.quietFrame`, `OpenVCenter.dropFrame` — a program that writes no row, or only takes
  some away.
* `OpenVCenter.Follows` — what a handler may write over a row.
* `OpenVCenter.RowRule` — `I` admits the five writes where a handler returns, `J` where it raises.

## Main results

* `OpenVCenter.RowRule.applyResponseState`, `OpenVCenter.RowRule.applyVmInventory`,
  `OpenVCenter.RowRule.vmAction` and their like — a handler that returns ends in `I`, one that
  raises in `J`.
-/

namespace OpenVCenter

open Effect

variable {env : Env} {w t : World} {hostId : String} {α : Type}

/-! ## Where rows stand -/

/-- The organization: the clusters, the folders, and where each host stands. -/
def Db.estate (db : Db) : List Cluster × List Folder × List (String × Option String × Json) :=
  (db.clusters, db.folders, db.hosts.map Host.station)

/-- A host as it stands. -/
def Db.Stands (db : Db) (host : Host) : Prop := host.station ∈ db.hosts.map Host.station

/-- A host that is looked up stands in the tables. -/
lemma stands_of_host {db : Db} {id : String} {host : Host} (h : db.host id = some host) :
    db.Stands host := List.mem_map_of_mem (Table.mem_of_lookup h)

/-- Whether a host stands is read off the estate. -/
lemma Db.Stands.congr {db db' : Db} {host : Host} (h : db.Stands host)
    (hestate : db'.estate = db.estate) : db'.Stands host := by
  have hhosts : db'.hosts.map Host.station = db.hosts.map Host.station :=
    congrArg (fun e => e.2.2) hestate
  rwa [Db.Stands, hhosts]

/-- The scope of a host is read off its station and those of the others. -/
lemma inventoryScopeHostIds_eq (db : Db) (host : Host) :
    inventoryScopeHostIds db host = match host.clusterId with
      | none => [host.id]
      | some c => ((db.hosts.map Host.station).filter fun s => decide (s.2.1 = some c)).map
        Prod.fst := by
  unfold inventoryScopeHostIds
  rcases host.clusterId with _ | c
  · rfl
  · simp only [List.filter_map, List.map_map]
    rfl

/-- The scope of a host depends on where the hosts stand. -/
lemma inventoryScopeHostIds_congr {db db' : Db} (hestate : db'.estate = db.estate) (host : Host) :
    inventoryScopeHostIds db' host = inventoryScopeHostIds db host := by
  have hhosts : db'.hosts.map Host.station = db.hosts.map Host.station :=
    congrArg (fun e => e.2.2) hestate
  rw [inventoryScopeHostIds_eq, inventoryScopeHostIds_eq, hhosts]

/-- A host is in its own scope. -/
lemma Db.Stands.mem_scope {db : Db} {host : Host} (h : db.Stands host) :
    host.id ∈ inventoryScopeHostIds db host := by
  rw [inventoryScopeHostIds_eq]
  rcases hc : host.clusterId with _ | c
  · exact List.mem_singleton_self _
  · exact List.mem_map.mpr ⟨host.station, List.mem_filter.mpr ⟨h, by simp [Host.station, hc]⟩, rfl⟩

/-- Where a row stands: its key, its folder and its owner. -/
def Vm.place (vm : Vm) : String × Option String × String × Option String :=
  (vm.id, vm.folderId, vm.hostId, vm.clusterId)

/-- A write of a row sets its owner and leaves the rest of its place. -/
lemma place_of_writeVmRow {now : Time} {isPartial : Bool} {raw item : Dict} {hostId : String}
    {clusterId : Option String} {vm vm' : Vm}
    (h : writeVmRow env now isPartial raw item hostId clusterId vm = .ok vm') :
    vm'.place = (vm.setOwner hostId clusterId).place := by
  have hanchor := writeVmRow_anchor h
  simp only [Vm.anchor, Prod.mk.injEq] at hanchor
  obtain ⟨hid, -, hfolder, -, hhost, hcluster⟩ := hanchor
  exact Prod.ext hid (Prod.ext hfolder (Prod.ext hhost hcluster))

/-- What may be written over a row: one that stands where the row does, or with a host whose scope
the row is in. -/
inductive Follows (db : Db) (vm vm' : Vm) : Prop
  | stays (h : vm'.place = vm.place)
  | moves (host : Host) (hstands : db.Stands host)
      (hscope : vm.hostId ∈ inventoryScopeHostIds db host)
      (h : vm'.place = (vm.setOwner host.id host.clusterId).place)

/-- What is written over a row has its key. -/
lemma Follows.id_eq {db : Db} {vm vm' : Vm} (h : Follows db vm vm') : vm'.id = vm.id := by
  cases h with
  | stays h => exact congrArg Prod.fst h
  | moves host _ _ h => exact congrArg Prod.fst h

/-- A row that is added and written over. -/
lemma storeVm_addVm {db : Db} {raw vm : Vm} (h : raw.id = vm.id) :
    (db.addVm raw).storeVm vm = (db.addVm vm).storeVm vm := by
  simp [Db.addVm, Db.storeVm, Table.store, h]

/-! ## Entries of a scan -/

/-- The rows under the entries of a scan are in the scope of its host. -/
def Scoped (existing : List (String × String)) (db : Db) (host : Host) : Prop :=
  ∀ ref ∈ existing, ∀ v ∈ db.vms, v.id = ref.2 → v.hostId ∈ inventoryScopeHostIds db host

section Scopes

variable {existing : List (String × String)} {db : Db} {host : Host} {vm : Vm} {u : String}

/-- The index that a snapshot starts from is in scope. -/
lemma scoped_existingVms (hn : (db.vms.map Vm.id).Nodup) :
    Scoped (existingVms db (inventoryScopeHostIds db host)) db host := by
  intro ref href v hv hid
  obtain ⟨x, hx, hscope, -, hxid⟩ := mem_existingVms href
  obtain rfl := Table.eq_of_mem_of_key hn hv hx (hid.trans hxid.symm)
  exact hscope

/-- The index stays in scope when a row of the scope is written. -/
lemma Scoped.store (h : Scoped existing db host)
    (hvm : vm.hostId ∈ inventoryScopeHostIds db host) : Scoped existing (db.storeVm vm) host := by
  intro ref href v hv hid
  rcases Table.mem_store.mp hv with ⟨hv, -⟩ | ⟨rfl, -⟩
  · exact h ref href v hv hid
  · exact hvm

/-- The index stays in scope when a new row of the scope is added to both. -/
lemma Scoped.add (h : Scoped existing db host)
    (hvm : vm.hostId ∈ inventoryScopeHostIds db host) (hfresh : ∀ v ∈ db.vms, v.id ≠ vm.id) :
    Scoped (dictSet existing u vm.id) (db.addVm vm) host := by
  intro ref href v hv hid
  rcases List.mem_append.mp hv with hv | hv
  · rcases mem_dictSet href with href | rfl
    · exact h ref href v hv hid
    · exact absurd hid (hfresh v hv)
  · rw [List.mem_singleton.mp hv]
    exact hvm

end Scopes

/-! ## Frames -/

/-- The frame of what leaves the rows, the overlays and the organization alone. -/
def quietFrame : Frame World where
  rel w t := t.db.vms = w.db.vms ∧ t.cache.vmStates = w.cache.vmStates ∧
    t.db.estate = w.db.estate ∧ w.nextId ≤ t.nextId
  refl _ := ⟨rfl, rfl, rfl, le_rfl⟩
  trans h h' := ⟨h'.1.trans h.1, h'.2.1.trans h.2.1, h'.2.2.1.trans h.2.2.1, h.2.2.2.trans h'.2.2.2⟩

/-- The frame of what may take rows and overlays away. -/
def dropFrame : Frame World where
  rel w t := (∀ v ∈ t.db.vms, v ∈ w.db.vms) ∧
    (∀ id e, t.cache.vmStates id = some e → w.cache.vmStates id = some e) ∧
    t.db.estate = w.db.estate ∧ w.nextId ≤ t.nextId
  refl _ := ⟨fun _ hv => hv, fun _ _ he => he, rfl, le_rfl⟩
  trans h h' := ⟨fun v hv => h.1 v (h'.1 v hv), fun id e he => h.2.1 id e (h'.2.1 id e he),
    h'.2.2.1.trans h.2.2.1, h.2.2.2.trans h'.2.2.2⟩

/-- What is quiet drops nothing. -/
lemma drop_of_quiet (h : quietFrame.rel w t) : dropFrame.rel w t :=
  ⟨fun _ hv => h.1 ▸ hv, fun _ _ he => h.2.1 ▸ he, h.2.2⟩

/-- Rows go, and overlays. -/
lemma drop_deleteVms (p : Vm → Bool) {states : Expiring.Keyspace String Time String}
    (h : ∀ id e, states id = some e → w.cache.vmStates id = some e) :
    dropFrame.rel w { w with
      db := w.db.deleteVms p, cache := { w.cache with vmStates := states } } :=
  ⟨fun _ hv => (Table.mem_deleteWhere.mp hv).1, h, rfl, le_rfl⟩

/-- A row goes, and an overlay with it. -/
lemma drop_deleteVm (w : World) (id id' : String) :
    dropFrame.rel w { w with
      db := w.db.deleteVm id
      cache := { w.cache with vmStates := Expiring.erase w.cache.vmStates id' } } :=
  drop_deleteVms _ fun _ _ he => (Expiring.eraseWhere_eq_some (m := w.cache.vmStates)
    (p := fun y => decide (y = id')) |>.mp he).1

/-- Drawing identifiers is quiet. -/
lemma quiet_nextId (w : World) (n : ℕ) (h : w.nextId ≤ n) :
    quietFrame.rel w { w with nextId := n } := ⟨rfl, rfl, rfl, h⟩

/-- A task is queued. -/
lemma quiet_addTask {w₀ : World} {task : Task} (h : quietFrame.rel w₀ w) :
    quietFrame.rel w₀ { w with db := w.db.addTask task } := h

/-- A recording is quiet. -/
lemma quiet_record (actor : Option User) (action : String) (target : TargetRef)
    (task : Option Task) (details : Json) :
    Keeps quietFrame (record env actor action target task details) :=
  keeps_record (F := quietFrame) quiet_nextId (fun _ _ => ⟨rfl, rfl, rfl, le_rfl⟩) _ _ _ _ _

/-- A publication is quiet. -/
lemma quiet_publishRequest (hostRef : String) (req : AgentRequest) :
    Keeps quietFrame (publishRequest hostRef req) :=
  keeps_publishRequest (F := quietFrame) (fun _ _ => ⟨rfl, rfl, rfl, le_rfl⟩) hostRef req

/-- The frame of quiet programs, where no two hosts share a key. -/
def keyedFrame : Frame World := Frame.under (fun w => (w.db.hosts.map Host.id).Nodup) quietFrame

/-- The keys of the hosts are part of the organization. -/
lemma hostIds_congr {db db' : Db} (hestate : db'.estate = db.estate) :
    db'.hosts.map Host.id = db.hosts.map Host.id := by
  have hhosts : db'.hosts.map Host.station = db.hosts.map Host.station :=
    congrArg (fun e => e.2.2) hestate
  have hids : ∀ hosts : List Host, hosts.map Host.id = (hosts.map Host.station).map Prod.fst :=
    fun hosts => by rw [List.map_map]; rfl
  rw [hids, hids, hhosts]

/-- A quiet program keeps the keys. -/
lemma keyed_of_quiet {m : M α} (hm : Keeps quietFrame m) : Keeps keyedFrame m := by
  intro w hn
  refine ⟨?_, hm w⟩
  change ((m w).2.db.hosts.map Host.id).Nodup
  rw [hostIds_congr (hm w).2.2.1]
  exact hn

/-- A host is written over as it stands. -/
lemma keyed_storeHost (w : World) (host : Host) (hrestates : w.db.Restates host) :
    keyedFrame.rel w { w with db := w.db.storeHost host } := by
  obtain ⟨found, hfound, hstation⟩ := hrestates
  intro hn
  obtain ⟨hmem, hid⟩ := (Table.lookup_eq_some hn).mp hfound
  have hhosts : (Table.store Host.id host w.db.hosts).map Host.station =
      w.db.hosts.map Host.station := by
    refine Table.map_store fun x hx hxid => ?_
    obtain rfl := Table.eq_of_mem_of_key hn hx hmem (hxid.trans hid.symm)
    exact hstation
  have hestate : (w.db.storeHost host).estate = w.db.estate :=
    Prod.ext rfl (Prod.ext rfl hhosts)
  refine ⟨?_, rfl, rfl, hestate, le_rfl⟩
  change ((w.db.storeHost host).hosts.map Host.id).Nodup
  rw [hostIds_congr hestate]
  exact hn

/-- A rollback restores the keys. -/
lemma keyed_rollback (s t : World) (h : keyedFrame.rel s t) : keyedFrame.rel s (rollback s t) :=
  fun hn => ⟨hn, rfl, (h hn).2.2.1, rfl, (h hn).2.2.2.2⟩

/-- The part of a VM request behind its optimistic state. -/
def sendVmTask (env : Env) (host : Host) (now : Time) (params : Dict) (task : Task) : M Task := do
  let request := agentRequest env now task params
  let task := { task with requestPayload := request.modelDump }
  modifyDb fun db => db.storeTask task
  publishRequest host.shortId request
  pure task

/-- Sending a task is quiet. -/
lemma quiet_sendVmTask (host : Host) (now : Time) (params : Dict) (task : Task) :
    Keeps quietFrame (sendVmTask env host now params task) := by
  refine keeps_bind (F := quietFrame) (keeps_modify fun _ => ⟨rfl, rfl, rfl, le_rfl⟩) fun _ => ?_
  exact keeps_bind (quiet_publishRequest _ _) fun _ => keeps_pure _

/-! ## Handlers that write no row -/

/-- An action on a host is quiet. -/
lemma quiet_hostAction (user : User) (hostId : String) (action : HostAction) :
    Keeps quietFrame (hostAction env user hostId action) := by
  refine keeps_bind keeps_read fun w => keeps_bind (keeps_ofOption _) fun host => ?_
  refine keeps_bind (keeps_hostRequest quiet_nextId (fun _ _ => ⟨rfl, rfl, rfl, le_rfl⟩)
    (fun _ _ _ hrel _ _ _ => quiet_addTask hrel) host action _) fun task => ?_
  split
  · exact keeps_pure _
  · exact quiet_record _ _ _ _ _

/-- An agent upgrade and its event. -/
lemma quiet_upgrade (host : Host) (user : User) (version checksum : String)
    (url : Option String) (details : Json) :
    Keeps quietFrame (do
      let task ← requestAgentUpgrade env host version checksum url user.email
      record env (some user) "host.update_agent" host.ref (some task) details) :=
  keeps_bind (keeps_upgradeRequest quiet_nextId (fun _ _ => ⟨rfl, rfl, rfl, le_rfl⟩)
    (fun _ _ _ hrel _ _ _ => quiet_addTask hrel) host version checksum url _) fun _ =>
    quiet_record _ _ _ _ _

/-- A rollout is quiet. -/
lemma quiet_rolloutAgentBinary (user : User) (hostIds : List String)
    (hypervisor version checksum : String) (url : Option String) :
    Keeps quietFrame
      (rolloutAgentBinary env user hostIds hypervisor version checksum url) := by
  refine keeps_bind keeps_read fun w => keeps_foldlM (fun _ host _ => ?_) _
  refine keeps_bind keeps_read fun w => ?_
  split
  · exact keeps_pure _
  · exact keeps_skipApiError (quiet_upgrade host user version checksum url _)

/-- Freeing a lock is quiet. -/
lemma quiet_releaseVmLockRoute (user : User) (vmId : String) :
    Keeps quietFrame (releaseVmLockRoute env user vmId) := by
  refine keeps_bind keeps_read fun w => ?_
  refine keeps_bind (F := quietFrame) (keeps_modify fun _ => ⟨rfl, rfl, rfl, le_rfl⟩) fun _ => ?_
  split
  · exact quiet_record _ _ _ _ _
  · exact keeps_pure _

/-- An event whose handler neither writes the organization nor runs savepoints of its own. -/
def Event.IsPlain : Event → Bool
  | .response _ _ | .removeHost _ _ | .agentStatus _ _ => false
  | _ => true

/-! ## The rules -/

/-- The state after a row has been added under the identifier drawn for it. -/
def World.enter (w : World) (vm : Vm) : World :=
  { w with nextId := w.nextId + 1, db := w.db.addVm vm }

/-- The state after a row has been shown. -/
def World.shown (w : World) (id text : String) (at_ : Time) : World :=
  { w with cache := { w.cache with vmStates := Expiring.put w.cache.vmStates id text at_ } }

/-- An invariant of the rows and the overlays: `I` where a handler returns, `J` where it raises. -/
structure RowRule (env : Env) (I J : World → Prop) : Prop where
  weaken : ∀ {w}, I w → J w
  /-- The identifier drawn next is none of the rows'. -/
  fresh : ∀ {w}, I w → ∀ v ∈ w.db.vms, v.id ≠ env.uuid w.nextId
  drop : ∀ {w t}, I w → dropFrame.rel w t → I t
  locks : ∀ {w} l, J w → J { w with cache := { w.cache with vmLocks := l } }
  add : ∀ {w host vm}, I w → w.db.Stands host →
    vm.place = (env.uuid w.nextId, none, host.id, host.clusterId) → I (w.enter vm)
  /-- A new row that has no owner yet. -/
  raw : ∀ {w vm}, I w → vm.id = env.uuid w.nextId → J (w.enter vm)
  /-- A row that is not shown yet. -/
  write : ∀ {w vm vm'}, I w → vm ∈ w.db.vms → Follows w.db vm vm' →
    J { w with db := w.db.storeVm vm' }
  display : ∀ {w vm vm' text} at_, I w → vm ∈ w.db.vms → Follows w.db vm vm' →
    encodeValue env vm'.state = some text →
    I (World.shown { w with db := w.db.storeVm vm' } vm'.id text at_)

/-- A run that returns ends in `I`, one that raises in `J`. -/
abbrev EndsIn (I J : World → Prop) (m : M α) (w : World) : Prop := Ends (fun _ => I) J m w

namespace RowRule

variable {I J : World → Prop} {β : Type} (h : RowRule env I J)

include h

/-! ### Sequences -/

/-- A program that drops rows at most ends in the invariant. -/
lemma of_drop {m : M α} (hw : I w) (hrel : dropFrame.rel w (m w).2) : EndsIn I J m w :=
  ends_of_rel hrel (fun _ _ _ hf => h.drop hw hf) fun _ hf => h.weaken (h.drop hw hf)

/-- A quiet program ends in the invariant. -/
lemma of_quiet {m : M α} (hw : I w) (hrel : quietFrame.rel w (m w).2) : EndsIn I J m w :=
  h.of_drop hw (drop_of_quiet hrel)

omit h in

/-- A sequence ends in the invariant when both of its parts do. -/
lemma bind {m : M β} {f : β → M α} (hm : EndsIn I J m w)
    (hf : ∀ b t, m w = (.ok b, t) → I t → EndsIn I J (f b) t) : EndsIn I J (m >>= f) w := by
  rw [EndsIn, ends_bind]
  exact ends_mono hm hf fun _ h => h

/-- A quiet program goes first. -/
lemma quiet_bind {m : M β} {f : β → M α} (hm : Keeps quietFrame m) (hw : I w)
    (hf : ∀ b t, m w = (.ok b, t) → quietFrame.rel w t → I t → EndsIn I J (f b) t) :
    EndsIn I J (m >>= f) w := by
  refine bind (h.of_quiet hw (hm w)) fun b t hrun ht => hf b t hrun ?_ ht
  have hrel := hm w
  rwa [hrun] at hrel

/-! ### Writes -/

/-- The overlay of a row that has just been written. -/
lemma setVmState {vm vm' : Vm} {state : Json} (hw : I w) (hmem : vm ∈ w.db.vms)
    (hfollows : Follows w.db vm vm') (hstate : vm'.state = state) :
    EndsIn I J (setVmState env vm'.id state) { w with db := w.db.storeVm vm' } := by
  subst hstate
  unfold EndsIn Ends
  rcases henc : encodeValue env vm'.state with _ | text
  · have hrun : OpenVCenter.setVmState env vm'.id vm'.state { w with db := w.db.storeVm vm' } =
        (.error .dataError, { w with db := w.db.storeVm vm' }) := by
      unfold OpenVCenter.setVmState
      rw [henc]
      rfl
    rw [hrun]
    exact h.write hw hmem hfollows
  · rw [setVmState_eq_ok.mpr ⟨text, henc, rfl⟩]
    exact h.display _ hw hmem hfollows henc

/-- A row is written over and shown. -/
lemma store_bind {vm vm' : Vm} {state : Json} (hw : I w) (hmem : vm ∈ w.db.vms)
    (hfollows : Follows w.db vm vm') (hstate : vm'.state = state) {f : Unit → M α}
    (hf : ∀ t, I t → EndsIn I J (f ()) t) :
    EndsIn I J (modifyDb (fun db => db.storeVm vm') >>= fun _ =>
      OpenVCenter.setVmState env vm'.id state >>= f) w := by
  rw [modifyDb, EndsIn, ends_modify_bind]
  exact bind (h.setVmState hw hmem hfollows hstate) fun _ t _ ht => hf t ht

/-- A row is written as the rules allow, and its state is shown. -/
lemma store {vm vm' : Vm} {state : Json} (hw : I w) (hmem : vm ∈ w.db.vms)
    (hfollows : Follows w.db vm vm') (hstate : vm'.state = state) :
    EndsIn I J (modifyDb (fun db => db.storeVm vm') >>= fun _ =>
      OpenVCenter.setVmState env vm'.id state) w := by
  rw [modifyDb, EndsIn, ends_modify_bind]
  exact h.setVmState hw hmem hfollows hstate

/-- The rule, with the organization as it is. -/
lemma withEstate (e : List Cluster × List Folder × List (String × Option String × Json)) :
    RowRule env (fun w => I w ∧ w.db.estate = e) J where
  weaken hw := h.weaken hw.1
  fresh hw := h.fresh hw.1
  drop hw hrel := ⟨h.drop hw.1 hrel, hrel.2.2.1.trans hw.2⟩
  locks l hw := h.locks l hw
  add hw hstands hplace := ⟨h.add hw.1 hstands hplace, hw.2⟩
  raw hw hid := h.raw hw.1 hid
  write hw hmem hfollows := h.write hw.1 hmem hfollows
  display at_ hw hmem hfollows htext := ⟨h.display at_ hw.1 hmem hfollows htext, hw.2⟩

/-! ### Responses -/

section Responses

variable {resp : AgentResponse} {task : Task}

/-- The rows a response finds are its host's own: they stay where they are.

**Proof sketch.** The row that is found is one of the host's own, so its new place is in the scope
of a host that stands; the write moves it there, and the overlay is set of that row. -/
lemma refreshItem (hw : I w) {host : Host} (hstands : w.db.Stands host) (updated : Bool)
    (raw : Dict) : EndsIn I J (refreshItem env host updated raw) w := by
  refine ends_ofExcept_bind (h.weaken hw) fun item _ => ?_
  split
  · split
    · refine h.quiet_bind keeps_flush hw fun _ t _ hrel ht => ?_
      refine ends_ofExcept_bind (h.weaken ht) fun row hrow => ?_
      cases row with
      | none => exact ht
      | some vm =>
        obtain ⟨hmem, -, hhost⟩ := vmByGuid_eq_some hrow
        refine ends_ofExcept_bind (h.weaken ht) fun vm' hwrite => ?_
        have hstands' : t.db.Stands host := hstands.congr hrel.2.2.1
        have hfollows : Follows t.db vm vm' :=
          .moves host hstands' (hhost ▸ hstands'.mem_scope) (place_of_writeVmRow hwrite)
        exact h.store_bind ht hmem hfollows rfl fun _ hu => hu
    · exact h.weaken hw
  · exact hw

/-- The objects attached to a response. -/
lemma applyResponseVmStatus (hw : I w) :
    EndsIn I J (applyResponseVmStatus env hostId resp) w := by
  unfold OpenVCenter.applyResponseVmStatus
  split
  · exact hw
  · rw [EndsIn, ends_read_bind]
    split
    · exact hw
    · rename_i host hhost
      have h' := h.withEstate w.db.estate
      refine ends_mono (ends_foldlM (I := fun _ t => I t ∧ t.db.estate = w.db.estate) ⟨hw, rfl⟩
        fun raw _ updated t ht => ?_) (fun _ _ _ ht => ht.1) fun _ he => he
      exact h'.refreshItem ht ((stands_of_host hhost).congr ht.2) updated raw

/-- The stamp of a placeholder. -/
lemma stampPlaceholder (hw : I w) {placeholder : Vm} (hmem : placeholder ∈ w.db.vms) :
    EndsIn I J (stampPlaceholder env hostId resp placeholder) w := by
  have hfollows : Follows w.db placeholder (stampedRow resp placeholder) := .stays rfl
  refine h.store_bind hw hmem hfollows rfl fun t ht => ?_
  refine h.quiet_bind keeps_flush ht fun _ u _ _ hu => ?_
  exact bind (h.applyResponseVmStatus hu) fun _ _ _ hv => hv

/-- The success of a task on a VM. -/
lemma applySuccess (hw : I w) : EndsIn I J (applySuccess env hostId resp) w := by
  refine bind (h.applyResponseVmStatus hw) fun applied t _ ht => ?_
  split
  · split
    · exact ht
    · refine h.quiet_bind keeps_flush ht fun _ u _ _ hu => ?_
      refine ends_ofExcept_bind (h.weaken hu) fun row hrow => ?_
      cases row with
      | none => exact hu
      | some vm =>
        obtain ⟨hmem, -, -⟩ := vmByGuid_eq_some hrow
        exact h.store hu hmem (.stays rfl) rfl
  · exact ht

/-- A failure rolls an optimistic state back. -/
lemma revertState (hw : I w) : EndsIn I J (revertState env task) w := by
  unfold OpenVCenter.revertState
  split
  · split
    · rw [EndsIn, ends_read_bind]
      split
      · exact hw
      · rename_i vm hvm
        split
        · exact h.store hw (Table.mem_of_lookup hvm) (.stays rfl) rfl
        · exact hw
    · exact hw
  · exact hw

/-- The refresh of the VM rows.

**Proof sketch.** By the kind of the task. A placeholder is stamped or dropped, the VM of a delete
is dropped, a success writes the rows it finds, and a failure reverts the state of one. -/
theorem applyResponseState (hw : I w) :
    EndsIn I J (applyResponseState env hostId resp task) w := by
  unfold OpenVCenter.applyResponseState
  split
  · rw [EndsIn, ends_read_bind]
    split
    · exact hw
    · rename_i placeholder hvm
      split
      · exact h.stampPlaceholder hw (Table.mem_of_lookup hvm)
      · exact h.drop hw (drop_deleteVm w placeholder.id placeholder.id)
  · split
    · rw [EndsIn, applyDelete, ends_read_bind]
      refine h.quiet_bind ?_ hw fun _ t _ _ ht =>
        h.drop ht (drop_deleteVm t task.targetId task.targetId)
      split
      · unfold markVmDeleted
        split
        · exact keeps_pure _
        · exact keeps_read_bind fun w => ⟨rfl, rfl, rfl, le_rfl⟩
      · exact keeps_pure _
    · split
      · exact h.applySuccess hw
      · split
        · exact h.revertState hw
        · exact hw

end Responses

/-! ### Snapshots -/

section Snapshots

variable {host : Host} {scan : Scan}

/-- One listed item.

**Proof sketch.** The row is looked up among those in scope, or added for the host. Written, it is
the host's, which stands, and the entry of its GUID is the one of its key. -/
lemma writeListed (hw : I w) (hstands : w.db.Stands host)
    (hscoped : Scoped scan.existing w.db host) (image : Option (List UInt8)) (raw item : Dict)
    (u : String) :
    Ends (fun scan' t => I t ∧ Scoped scan'.existing t.db host) J
      (writeListed env host scan image raw item u) w := by
  have hown : host.id ∈ inventoryScopeHostIds w.db host := hstands.mem_scope
  unfold Ends
  rw [writeListed_run]
  unfold Scan.enter
  rcases hfind : scan.find w.db u with _ | found
  · -- a new row has no cluster until it is written
    refine ends_ofExcept_bind (h.raw hw rfl) fun vm hwrite => ?_
    have hplace := place_of_writeVmRow hwrite
    have hid : env.uuid w.nextId = vm.id := (congrArg Prod.fst hplace).symm
    have hvm : vm.hostId ∈ inventoryScopeHostIds w.db host :=
      (congrArg (fun p => p.2.2.1) hplace : vm.hostId = host.id) ▸ hown
    have hadded : I (w.enter vm) := h.add hw hstands hplace
    rw [modifyDb, ends_modify_bind, storeVm_addVm hid, ends_bind]
    refine ends_mono (h.setVmState hadded (List.mem_append_right _ (List.mem_singleton_self _))
      (.stays rfl) rfl) (fun _ t hset ht => ⟨ht, ?_⟩) fun _ he => he
    rw [setVmState_db hset]
    dsimp only
    rw [hid]
    exact (hscoped.add hvm fun v hv => hid ▸ h.fresh hw v hv).store hvm
  · obtain ⟨hentry, hmem⟩ := Scan.find_eq_some hfind
    have hscope := hscoped _ hentry found hmem rfl
    refine ends_ofExcept_bind (h.weaken hw) fun vm hwrite => ?_
    have hplace := place_of_writeVmRow hwrite
    rw [modifyDb, ends_modify_bind, ends_bind]
    refine ends_mono (h.setVmState hw hmem (.moves host hstands hscope hplace) rfl)
      (fun _ t hset ht => ⟨ht, ?_⟩) fun _ he => he
    rw [setVmState_db hset]
    exact hscoped.store ((congrArg (fun p => p.2.2.1) hplace : vm.hostId = host.id) ▸ hown)

/-- One item of a snapshot, with the index it leaves. -/
lemma reconcileItem (hw : I w) (hstands : w.db.Stands host)
    (hscoped : Scoped scan.existing w.db host) (tombstoned : String → Bool) (raw : Json) :
    Ends (fun scan' t => I t ∧ Scoped scan'.existing t.db host) J
      (reconcileItem env host tombstoned scan raw) w := by
  rw [reconcileItem_eq]
  refine ends_ofExcept_bind (h.weaken hw) fun p _ => ?_
  unfold reconcileParsed
  split
  · exact ⟨hw, hscoped⟩
  · exact ⟨h.drop hw (drop_of_quiet ⟨rfl, rfl, rfl, le_rfl⟩), hscoped⟩
  · refine ends_read_bind.mpr ?_
    split
    · exact ⟨hw, hscoped⟩
    · exact h.writeListed hw hstands hscoped _ _ _ _

/-- One removal at the end of a snapshot. -/
lemma dropUnreported (hw : I w) (seen : List String) (ref : String × String) :
    EndsIn I J (dropUnreported env host seen ref) w := by
  unfold OpenVCenter.dropUnreported
  rw [EndsIn, ends_read_bind]
  split
  · exact hw
  · rename_i vm hvm
    split
    · refine h.quiet_bind keeps_flush hw fun _ t _ _ ht => ?_
      refine h.quiet_bind ?_ ht fun _ u _ _ hu => h.drop hu (drop_deleteVm u vm.id vm.id)
      split
      · exact keeps_pure _
      · exact quiet_record _ _ _ _ _
    · exact hw

/-- A snapshot.

**Proof sketch.** The rows that are known at the start are those in scope. The loop over the items
keeps the rule and that the entries are in scope; the loop over what was not reported and the last
deletion drop rows; the images write none. -/
theorem applyVmInventory (hw : I w) (hn : (w.db.vms.map Vm.id).Nodup) (payload : Json) :
    EndsIn I J (applyVmInventory env hostId payload) w := by
  unfold OpenVCenter.applyVmInventory
  rw [EndsIn, ends_read_bind]
  split
  · exact hw
  · rename_i host hhost
    refine ends_ofExcept_bind (h.weaken hw) fun d _ => ?_
    refine ends_ofExcept_bind (h.weaken hw) fun items _ => ?_
    refine bind ?_ fun scan t _ ht => ?_
    · unfold reconcile
      rw [EndsIn, ends_read_bind]
      have h' := h.withEstate w.db.estate
      have hscan : Ends (fun _ => I) J (items.foldlM (OpenVCenter.reconcileItem env host
          (listDeletedVmUuids host.id w))
          { existing := existingVms w.db (inventoryScopeHostIds w.db host) }) w := by
        refine ends_mono (ends_foldlM (I := fun scan t =>
          (I t ∧ t.db.estate = w.db.estate) ∧ Scoped scan.existing t.db host)
          ⟨⟨hw, rfl⟩, scoped_existingVms hn⟩ fun raw _ scan t ht => ?_)
          (fun _ _ _ ht => ht.1.1) fun _ he => he
        exact h'.reconcileItem ht.1 ((stands_of_host hhost).congr ht.1.2) ht.2 _ raw
      refine bind hscan fun scan t _ ht => bind ?_ fun _ u _ hu => ?_
      · exact ends_foldlM (I := fun _ => I) ht fun ref _ _ _ hs => h.dropUnreported hs _ ref
      · exact h.drop hu (drop_of_quiet ⟨rfl, rfl, rfl, le_rfl⟩)
    · split
      · exact ht
      · refine h.quiet_bind keeps_flush ht fun _ u _ _ hu => ?_
        refine h.of_quiet hu (rel_bind (m := modifyDb _) ?_ fun _ v _ _ => keeps_flush v)
        exact ⟨rfl, rfl, rfl, le_rfl⟩

end Snapshots

/-! ### Requests -/

section Requests

/-- The guarded part of a VM request: the optimistic state goes to the row, and once that is
flushed to the overlay.

**Proof sketch.** The task is added, which changes no row. Without a transition the rest is quiet.
With one the row gets its state, is flushed, and only then shown: if the flush raises, a write that
is to be rolled back is left. -/
lemma addVmTask (hw : I w) {vm : Vm} (hmem : vm ∈ w.db.vms) (host : Host)
    (vmUuid taskId : String) (kind : TaskKind) (params : Dict) (requestedBy : String)
    (transitional : Option String) :
    EndsIn I J (addVmTask env vm host vmUuid taskId kind params requestedBy transitional) w := by
  set task := vmTask taskId kind vm requestedBy w.txStart with htask
  set w₁ : World := { w with db := w.db.addTask task } with hw₁
  have hadded : I w₁ := h.drop hw (drop_of_quiet ⟨rfl, rfl, rfl, le_rfl⟩)
  have hrest : ∀ t, I t → EndsIn I J
      (sendVmTask env host w.now (params.set "vm_id" (.str vmUuid)) task) t := fun t ht =>
    h.of_quiet ht (quiet_sendVmTask _ _ _ _ t)
  cases transitional with
  | none =>
    have hrun : OpenVCenter.addVmTask env vm host vmUuid taskId kind params requestedBy none w =
        (do
          flush
          sendVmTask env host w.now (params.set "vm_id" (.str vmUuid)) task : M Task) w₁ := rfl
    unfold EndsIn Ends
    rw [hrun]
    exact h.quiet_bind keeps_flush hadded fun _ t _ _ ht => hrest t ht
  | some state =>
    set vm' : Vm := { vm with state := .str state } with hvm'
    have hrun : OpenVCenter.addVmTask env vm host vmUuid taskId kind params requestedBy
          (some state) w =
        (do
          flush
          OpenVCenter.setVmState env vm'.id (.str state)
          sendVmTask env host w.now (params.set "vm_id" (.str vmUuid)) task : M Task)
        { w₁ with db := w₁.db.storeVm vm' } := rfl
    have hfollows : Follows w₁.db vm vm' := .stays rfl
    -- the row is changed, flushed, and only then shown
    unfold EndsIn Ends
    rw [hrun]
    by_cases hc : (w₁.db.storeVm vm').Consistent
    · rw [Prog.bind_run_ok (flush_of_consistent (w := { w₁ with db := w₁.db.storeVm vm' }) hc)]
      exact bind (h.setVmState hadded hmem hfollows rfl) fun _ t _ ht => hrest t ht
    · obtain ⟨e, hflush⟩ := flush_of_inconsistent (w := { w₁ with db := w₁.db.storeVm vm' }) hc
      rw [Prog.bind_run_error hflush]
      exact h.write hadded hmem hfollows

/-- Taking the lock, and freeing it where the rest raises. -/
lemma releasingOnRaise {m : M α} {vmId taskId : String} {lock : Bool} (hm : EndsIn I J m w) :
    EndsIn I J (releasingOnRaise vmId taskId lock m) w := by
  unfold EndsIn Ends at hm ⊢
  rw [OpenVCenter.releasingOnRaise_answered]
  rcases hrun : m w with ⟨e | a, t⟩
  · rw [hrun] at hm
    dsimp only at hm ⊢
    split
    · exact rel_releaseLock (F := Frame.invariant J) (fun _ l ht => h.locks l ht) t vmId taskId hm
    · exact hm
  · rw [hrun] at hm
    exact hm

/-- A task is queued on a VM. -/
lemma queueVmTask (hw : I w) {vm : Vm} (hmem : vm ∈ w.db.vms) (kind : TaskKind) (params : Dict)
    (requestedBy : String) (transitional : Option String) (lock : Bool) :
    EndsIn I J (queueVmTask env vm kind params requestedBy transitional lock) w := by
  rw [OpenVCenter.queueVmTask_answered]
  split
  · exact h.weaken hw
  · rw [EndsIn, ends_read_bind]
    refine h.quiet_bind (keeps_ofOption _) hw fun host t _ hrel ht => ?_
    refine h.quiet_bind (keeps_of_state (requireHostOnline_state host)) ht
      fun _ t₁ _ hrel₁ ht₁ => ?_
    refine h.quiet_bind (keeps_newId quiet_nextId) ht₁ fun taskId t₂ _ hrel₂ ht₂ => ?_
    refine h.quiet_bind ?_ ht₂ fun taken t₃ _ hrel₃ ht₃ => ?_
    · split
      · exact keeps_acquireVmLock (F := quietFrame) (fun _ _ => ⟨rfl, rfl, rfl, le_rfl⟩) _ _ _ _
      · exact keeps_pure _
    · have hvms : t₃.db.vms = w.db.vms :=
        (quietFrame.trans hrel (quietFrame.trans hrel₁ (quietFrame.trans hrel₂ hrel₃))).1
      split
      · exact h.releasingOnRaise (h.addVmTask ht₃ (hvms ▸ hmem) _ _ _ _ _ _ _)
      · exact h.weaken ht₃

/-- An action is requested. -/
lemma requestVmAction (hw : I w) {vm : Vm} (hmem : vm ∈ w.db.vms) (action : VmAction)
    (requestedBy : String) (params : Dict) :
    EndsIn I J (requestVmAction env vm action requestedBy params) w := by
  rw [OpenVCenter.requestVmAction_answered]
  split
  · exact h.weaken hw
  · refine h.quiet_bind ?_ hw fun _ t _ hrel ht => h.queueVmTask ht (hrel.1 ▸ hmem) _ _ _ _ _
    split
    · refine keeps_bind (keeps_ofExcept _) fun dest => ?_
      split
      · exact keeps_raise _
      · refine keeps_bind keeps_read fun w => keeps_bind (keeps_ofOption _) fun host => ?_
        exact keeps_of_state (requireVmStorageAllowed_state host _)
    · exact keeps_pure _

/-- The VM of a route. -/
lemma getVm_bind (hw : I w) {vmId : String} {f : Vm → M α}
    (hf : ∀ vm ∈ w.db.vms, EndsIn I J (f vm) w) : EndsIn I J (getVm vmId >>= f) w := by
  unfold getVm
  rcases hvm : w.db.vm vmId with _ | vm
  · have hrun : ((do let w ← Prog.read; M.ofOption (notFound "VM") (w.db.vm vmId)) >>= f) w =
        (.error (notFound "VM"), w) := by
      rw [Prog.bind_run, Prog.read_bind_run, hvm]
      rfl
    exact (ends_of_error hrun).mpr (h.weaken hw)
  · refine ends_bind.mpr ?_
    rw [ends_read_bind, hvm]
    exact hf vm (Table.mem_of_lookup hvm)

/-- The route of an action. -/
theorem vmAction (hw : I w) (user : User) (vmId : String) (action : VmAction) (params : Dict) :
    EndsIn I J (vmAction env user vmId action params) w := by
  unfold OpenVCenter.vmAction
  split
  · exact h.weaken hw
  · refine h.getVm_bind hw fun vm hmem => ?_
    refine bind (h.requestVmAction hw hmem _ _ _) fun task t _ ht => ?_
    dsimp only
    split
    · exact ht
    · exact h.of_quiet ht (quiet_record _ _ _ _ _ t)

/-- The route of a delete. -/
theorem deleteVm (hw : I w) (user : User) (vmId : String) (removeFiles : Bool) :
    EndsIn I J (deleteVm env user vmId removeFiles) w := by
  refine h.getVm_bind hw fun vm hmem => ?_
  refine bind (h.requestVmAction hw hmem _ _ _) fun task t _ ht => ?_
  exact h.of_quiet ht (quiet_record _ _ _ _ _ t)

/-- What create and clone do: the new row is its host's, in no folder.

**Proof sketch.** The new row stands on its host in no folder, so it may be added; everything behind
it is quiet. -/
lemma provision (hw : I w) {host : Host} (hstands : w.db.Stands host) (kind : TaskKind)
    {vm : String → Vm} (hplace : ∀ id, (vm id).place = (id, none, host.id, host.clusterId))
    (params : Vm → Dict) (requestedBy : String) :
    EndsIn I J (provision env host kind vm params requestedBy) w := by
  have hadded : I (w.enter (vm (env.uuid w.nextId))) := h.add hw hstands (hplace _)
  have hrun : OpenVCenter.provision env host kind vm params requestedBy w =
      (do
        flush
        let taskId ← newId env
        let _ ← acquireVmLock env (vm (env.uuid w.nextId)).id taskId kind requestedBy
        let w' ← Prog.read
        let task := vmTask taskId kind (vm (env.uuid w.nextId)) requestedBy w'.txStart
        let request := agentRequest env w'.now task (params (vm (env.uuid w.nextId)))
        let task := { task with requestPayload := request.modelDump }
        modifyDb fun db => db.addTask task
        flush
        publishRequest host.shortId request
        pure (vm (env.uuid w.nextId), task) : M (Vm × Task)) (w.enter (vm (env.uuid w.nextId))) :=
    rfl
  unfold EndsIn Ends
  rw [hrun]
  refine h.of_quiet hadded ?_
  refine keeps_bind keeps_flush (fun _ => ?_) _
  refine keeps_bind (keeps_newId quiet_nextId) fun taskId => ?_
  refine keeps_bind (keeps_acquireVmLock (F := quietFrame) (fun _ _ => ⟨rfl, rfl, rfl, le_rfl⟩)
    _ _ _ _) fun _ => ?_
  refine keeps_bind keeps_read fun w' => ?_
  refine keeps_bind (m := modifyDb _) (keeps_modify fun _ => ⟨rfl, rfl, rfl, le_rfl⟩) fun _ => ?_
  refine keeps_bind keeps_flush fun _ => ?_
  exact keeps_bind (quiet_publishRequest _ _) fun _ => keeps_pure _

/-- The host of a route. -/
lemma getHost_bind (hw : I w) {hostId : String} {f : Host → M α}
    (hf : ∀ host, w.db.Stands host → EndsIn I J (f host) w) :
    EndsIn I J (M.ofOption (notFound "Host") (w.db.host hostId) >>= f) w := by
  rcases hhost : w.db.host hostId with _ | host
  · exact h.weaken hw
  · exact hf host (stands_of_host hhost)

/-- The route of a create. -/
theorem createVm (hw : I w) (user : User) (body : VmCreate) :
    EndsIn I J (createVm env user body) w := by
  refine ends_read_bind.mpr (h.getHost_bind hw fun host hstands => ?_)
  refine bind ?_ fun row u _ hu => h.of_quiet hu (quiet_record _ _ _ _ _ u)
  refine h.quiet_bind (keeps_of_state (requireHostOnline_state host)) hw fun _ t _ hrel ht => ?_
  refine h.quiet_bind (keeps_of_state (requireVmStorageAllowed_state host _)) ht
    fun _ t₁ _ hrel₁ ht₁ => ?_
  exact h.provision ht₁ (hstands.congr (quietFrame.trans hrel hrel₁).2.2.1) _ (fun _ => rfl) _ _

/-- The route of a clone. -/
theorem cloneVm (hw : I w) (user : User) (body : VmClone) :
    EndsIn I J (cloneVm env user body) w := by
  refine ends_read_bind.mpr (h.getHost_bind hw fun host hstands => ?_)
  refine bind ?_ fun row u _ hu => ends_read_bind.mpr (h.of_quiet hu (quiet_record _ _ _ _ _ u))
  refine h.quiet_bind (keeps_of_state (requireHostOnline_state host)) hw fun _ t _ hrel ht => ?_
  refine h.quiet_bind (keeps_of_state (requireVmStorageAllowed_state host _)) ht
    fun _ t₁ _ hrel₁ ht₁ => ?_
  refine h.quiet_bind ?_ ht₁ fun spec t₂ _ hrel₂ ht₂ => h.provision ht₂ (hstands.congr
    (quietFrame.trans hrel (quietFrame.trans hrel₁ hrel₂)).2.2.1) _ (fun _ => rfl) _ _
  split
  · exact keeps_of_state (cloneOfVm_state host body _)
  · exact keeps_of_state (cloneOfTemplate_state host body _)

/-- The route that forgets a VM. -/
theorem forgetVm (hw : I w) (user : User) (vmId : String) :
    EndsIn I J (forgetVm env user vmId) w := by
  refine h.getVm_bind hw fun vm hmem => ?_
  refine h.quiet_bind (quiet_record _ _ _ _ _) hw fun _ t _ _ ht => ?_
  refine ends_read_bind.mpr (h.quiet_bind ?_ ht fun _ t₁ _ _ ht₁ => ?_)
  · split
    · split
      · exact keeps_raise _
      · exact keeps_pure _
    · exact keeps_pure _
  · have hfreed : I (forceReleaseVmLock vm.id t₁).2 :=
      h.drop ht₁ (drop_of_quiet ⟨rfl, rfl, rfl, le_rfl⟩)
    refine ends_modify_bind.mpr (ends_modify_bind.mpr (ends_modify_bind.mpr ?_))
    exact h.of_quiet (h.drop hfreed (drop_deleteVm _ vm.id vm.id)) (keeps_flush _)

end Requests

/-! ### Savepoints

One that is rolled back has to lead back to `I`. -/

/-- A transaction of the rules ends in the invariant, whether it is committed or rolled back. -/
lemma savepoint (hroll : ∀ {s t}, I s → J t → s.nextId ≤ t.nextId → I (rollback s t)) {m : M α}
    (hw : I w) (hm : EndsIn I J m w) (hdrawn : w.nextId ≤ (m w).2.nextId) :
    I (savepoint m w).2 := by
  rcases savepoint_cases m w with ⟨a, t, hrun, -, hsave⟩ | ⟨e, hsave⟩
  · rw [hsave]
    exact (ends_of_ok hrun).mp hm
  · rw [hsave]
    refine hroll hw ?_ hdrawn
    rcases hrun : m w with ⟨e' | a, t⟩
    · exact (ends_of_error hrun).mp hm
    · exact h.weaken ((ends_of_ok hrun).mp hm)

section Handler

variable (hkeyed : ∀ {w}, I w → (w.db.hosts.map Host.id).Nodup)
  (hroll : ∀ {s t}, I s → J t → s.nextId ≤ t.nextId → I (rollback s t))
  {resp : AgentResponse} {task : Task}

include hkeyed hroll

/-- The best-effort stages of a response.

**Proof sketch.** The stages of the host and of the template write no row of a VM, each in a
savepoint. That of the VM follows `applyResponseState` in a savepoint, which rolls back to the rows
before it. -/
lemma applyBestEffort (hw : I w) : EndsIn I J (applyBestEffort env hostId resp task) w := by
  have hkeyed' : ∀ {m : M Unit} {w : World}, Keeps keyedFrame m → I w → EndsIn I J m w :=
    fun hm hw => h.of_quiet hw (hm _ (hkeyed hw)).2
  refine bind (hkeyed' ?_ hw) fun _ t _ ht => bind (hkeyed' ?_ ht) fun _ u _ hu => ?_
  · split
    · exact keeps_attempt (keeps_savepoint keyed_rollback
        (keeps_applyHostActionResponse keyed_storeHost _ _))
    · exact keeps_pure _
  · split
    · split
      · exact keeps_attempt (keeps_savepoint keyed_rollback (keyed_of_quiet
          (keeps_upsertTemplate quiet_nextId (fun _ _ => ⟨rfl, rfl, rfl, le_rfl⟩) _ _)))
      · exact keeps_pure _
    · exact keeps_pure _
  · have hend : EndsIn I J (OpenVCenter.applyResponseState env hostId resp task) u :=
      h.applyResponseState hu
    have hdrawn : Keeps drawnFrame (OpenVCenter.applyResponseState env hostId resp task) :=
      keeps_applyResponseState (F := drawnFrame) (fun _ _ => le_rfl) (fun _ _ => le_rfl)
        (fun _ _ => le_rfl) (fun _ _ _ _ => le_rfl) hostId resp
    exact h.savepoint hroll hu hend (hdrawn u)

/-- A response.

**Proof sketch.** The lifecycle change writes the task and its events, the stamp the row of the
host; behind them come the best-effort stages, and the release of the lock. -/
theorem applyResponse (hw : I w) : EndsIn I J (applyResponse env hostId resp) w := by
  unfold OpenVCenter.applyResponse
  refine ends_read_bind.mpr ?_
  split
  · exact hw
  · rename_i found _
    have hlifecycle : Keeps quietFrame (applyLifecycle env resp found) := by
      refine keeps_bind keeps_read fun w => keeps_bind (keeps_ofExcept _) fun resp => ?_
      dsimp only
      split
      · exact keeps_bind (F := quietFrame) (keeps_modify fun w => ⟨rfl, rfl, rfl, le_rfl⟩)
          fun _ => keeps_pure _
      · refine keeps_bind (F := quietFrame) (keeps_modify fun w => ⟨rfl, rfl, rfl, le_rfl⟩)
          fun _ => ?_
        exact keeps_bind (keeps_settleTaskEvents (F := quietFrame)
          (fun _ _ => ⟨rfl, rfl, rfl, le_rfl⟩) _ _ _) fun _ =>
            keeps_bind keeps_flush fun _ => keeps_pure _
    refine h.quiet_bind hlifecycle hw fun ended t _ _ ht => ?_
    rcases ended with _ | ⟨resp, task⟩
    · exact ht
    · have hstamp : Keeps keyedFrame (stampAgentVersion env hostId resp task) :=
        keeps_stampAgentVersion keyed_storeHost _ _ _
      refine bind (h.of_quiet ht (hstamp t (hkeyed ht)).2) fun _ u _ hu => ?_
      refine bind (h.applyBestEffort hkeyed hroll hu) fun _ v _ hv => ?_
      split
      · exact h.drop hv (drop_of_quiet (rel_releaseLock (F := quietFrame)
          (fun _ _ => ⟨rfl, rfl, rfl, le_rfl⟩) v _ _))
      · exact hv

end Handler

/-! ### The other handlers -/

/-- A handler that takes no row but orphans away. -/
lemma sweep (hw : I w) : EndsIn I J (sweepStaleTasks env) w := by
  have hstale : Keeps quietFrame (timeOutStaleTasks env) :=
    keeps_timeOutStaleTasks (F := quietFrame) (fun _ _ => ⟨rfl, rfl, rfl, le_rfl⟩)
      (fun _ _ => ⟨rfl, rfl, rfl, le_rfl⟩) fun w _ _ =>
        rel_releaseLock (F := quietFrame) (fun _ _ => ⟨rfl, rfl, rfl, le_rfl⟩) w _ _
  exact h.quiet_bind hstale hw fun _ t _ _ ht =>
    h.drop ht (drop_deleteVms _ fun _ _ he => he)

/-- Every handler but those of responses, removals of a host and heartbeats.

**Proof sketch.** By the event. Requests on VMs and snapshots have a lemma each, which follows their
writes; of the rest each is quiet, that is, it writes no row of a VM, or it only drops some. -/
theorem handler {e : Event} {m : M Unit} (he : e.handler env = some m) (hplain : e.IsPlain = true)
    (hw : I w) (hc : w.db.Consistent) : EndsIn I J m w := by
  cases e with
  | vmAction lag user vmId action params =>
    cases he
    exact h.vmAction hw _ _ _ _
  | deleteVm lag user vmId removeFiles =>
    cases he
    exact h.deleteVm hw _ _ _
  | createVm lag user body =>
    cases he
    exact h.createVm hw _ _
  | cloneVm lag user body =>
    cases he
    exact h.cloneVm hw _ _
  | forgetVm user vmId =>
    cases he
    exact h.forgetVm hw _ _
  | vmInventory hostId payload =>
    cases he
    exact h.applyVmInventory hw hc.keyed.vmIds _
  | sweep =>
    cases he
    exact h.sweep hw
  | releaseLock user vmId =>
    cases he
    exact h.of_quiet hw (quiet_releaseVmLockRoute _ _ w)
  | hostAction lag user hostId action =>
    cases he
    exact h.of_quiet hw (quiet_hostAction _ _ _ w)
  | agentUpgrade lag user hostId version checksum url =>
    cases he
    exact h.of_quiet hw (keeps_bind keeps_read (fun _ => keeps_bind (keeps_ofOption _)
      fun host => quiet_upgrade host user version checksum url _) w)
  | agentRollout lag user hostIds hypervisor version checksum url =>
    cases he
    exact h.of_quiet hw (quiet_rolloutAgentBinary _ _ _ _ _ _ w)
  | hostInventory hostId payload =>
    cases he
    exact h.of_quiet hw (keeps_applyHostInventory
      (fun w host _ => keyed_storeHost w host) _ w hc.keyed.hostIds).2
  | templateInventory hostId payload =>
    cases he
    exact h.of_quiet hw (keeps_applyTemplateInventory quiet_nextId
      (fun _ => ⟨rfl, rfl, rfl, le_rfl⟩) (fun _ _ _ => ⟨rfl, rfl, rfl, le_rfl⟩) _ w)
  | isoInventory hostId payload =>
    cases he
    exact h.of_quiet hw (keeps_applyIsoInventory quiet_nextId
      (fun _ => ⟨rfl, rfl, rfl, le_rfl⟩) (fun _ _ _ => ⟨rfl, rfl, rfl, le_rfl⟩) _ w)
  | hostMetrics hostId payload =>
    cases he
    exact h.of_quiet hw (keeps_applyHostMetrics (F := quietFrame)
      (fun _ _ _ => ⟨rfl, rfl, rfl, le_rfl⟩) (fun _ _ => ⟨rfl, rfl, rfl, le_rfl⟩) _ w)
  | vmMetrics hostId payload =>
    cases he
    exact h.of_quiet hw (keeps_applyVmMetrics (F := quietFrame)
      (fun _ _ => ⟨rfl, rfl, rfl, le_rfl⟩) (fun _ _ => ⟨rfl, rfl, rfl, le_rfl⟩) _ w)
  | response hostId resp => cases hplain
  | removeHost user hostId => cases hplain
  | agentStatus hostId payload => cases hplain
  | tick elapsed => cases he
  | broker up => cases he

end RowRule

end OpenVCenter
