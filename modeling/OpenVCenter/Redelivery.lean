import OpenVCenter.FailedResponse
import OpenVCenter.RefreshTwice
import OpenVCenter.TerminalResponse

set_option relaxedAutoImplicit false
set_option autoImplicit false

/-!
# Redelivery

A queue delivers a message at least once: when the worker is restarted before it has acknowledged a
response, the same envelope is processed again. `apply_response` changes a task, its audit events, a
host, a template, VM rows, overlays, tombstones and a lock; this file goes through what it does, and
shows that each of its parts finds at the second delivery what it has left at the first.

## Main definitions

* `OpenVCenter.Task.undated` — the task without the instant it ended at.
* `OpenVCenter.NamesTemplate` — an exported template is reported under a key.
* `OpenVCenter.Repeated` — the state after the second delivery.

## Main results

* `OpenVCenter.lifecycleDb_again`, `OpenVCenter.stamp_again`, `OpenVCenter.hostStage_again`,
  `OpenVCenter.templateStage_again`, `OpenVCenter.vmStage_again` — the parts of the handler.
* `OpenVCenter.redelivered` — **a response that is delivered twice leaves what it leaves when it is
  delivered once**, the instants read off the clock aside, unless it exports a template without a
  key.
-/

namespace OpenVCenter

open Effect

variable {env : Env} {hostId : String} {resp : AgentResponse} {task : Task}

/-! ## The end of the task -/

/-- The task without the instant it ended at. -/
def Task.undated (task : Task) : Task := { task with finishedAt := none }

/-- A task that has ended is ended again by the same response: only the instant is another one. -/
lemma endedTask_again {now later : Time} : endedTask env later resp (endedTask env now resp task) =
    { endedTask env now resp task with finishedAt := some (terminalTime env later resp) } := by
  simp only [endedTask, finishTask, Task.mk.injEq, true_and, and_true]
  split_ifs <;> rfl

/-- Events that have been settled are no longer pending. -/
lemma settleEvents_again {ids : List String} {outcome outcome' : AuditOutcome}
    {error error' : Option String} {events : List AuditEvent} (h : outcome ≠ .pending) :
    settleEvents ids outcome' error' (settleEvents ids outcome error events) =
      settleEvents ids outcome error events := by
  refine Table.updateWhere_eq_self fun e he hp => ?_
  obtain ⟨hpending, t, ht, hid⟩ := of_decide_eq_true hp
  rcases mem_settled.mp he with ⟨-, hnot⟩ | ⟨p, -, -, rfl⟩
  · exact absurd ⟨hpending, t, ht, hid⟩ hnot
  · exact absurd hpending h

/-- The lifecycle change a second time: only the task is written. -/
lemma lifecycleDb_again {now later : Time} {db db' : Db}
    (hevents : db'.auditEvents = (lifecycleDb env now resp task db).auditEvents) :
    lifecycleDb env later resp (endedTask env now resp task) db' =
      { db' with
        tasks := Table.store Task.id (endedTask env later resp (endedTask env now resp task))
          db'.tasks } := by
  unfold lifecycleDb at hevents ⊢
  rw [hevents]
  exact congrArg (fun es => { db' with
    tasks := Table.store Task.id (endedTask env later resp (endedTask env now resp task)) db'.tasks
    auditEvents := es }) (settleEvents_again outcome_ne_pending)

/-! ## The version of an agent upgrade -/

section Stamp

variable {w t w' : World}

/-- A host is found by its key in the table of hosts. -/
lemma host_congr {db db' : Db} (h : db'.hosts = db.hosts) (id : String) : db'.host id = db.host id := by
  unfold Db.host
  rw [h]

/-- A host that is stored already. -/
lemma storeHost_eq_self {db : Db} (hc : db.Consistent) {host : Host} (h : host ∈ db.hosts) :
    db.storeHost host = db := by
  unfold Db.storeHost
  rw [Table.store_eq_self_of_mem hc.keyed.hostIds h]

/-- The version is stamped already. -/
lemma stamp_again (hc : w.db.Consistent) (hc' : w'.db.Consistent)
    (hstatus : task.status = terminalStatus resp)
    (h : stampAgentVersion env hostId resp task w = (.ok (), t)) (hhosts : w'.db.hosts = t.db.hosts) :
    stampAgentVersion env hostId resp task w' = (.ok (), w') := by
  rw [stampAgentVersion_run hstatus] at h ⊢
  split_ifs at h ⊢ with hcond
  · rcases hhost : w.db.host hostId with _ | host
    · rw [hhost] at h
      obtain rfl : w = t := congrArg Prod.snd h
      rw [host_congr hhosts, hhost]
    · rw [hhost] at h
      obtain ⟨hct, rfl⟩ := flush_eq_ok.mp h
      obtain ⟨hmem, hid⟩ := hc.host_eq_some.mp hhost
      set stamped : Host :=
        { host with agentVersion := .str (env.py.str (resultField resp "version")) } with hst
      have hstored : stamped ∈ w'.db.hosts := by
        rw [hhosts]
        exact Table.mem_store.mpr (Or.inr ⟨rfl, host, hmem, rfl⟩)
      rw [hc'.host_eq_some.mpr ⟨hstored, hid⟩]
      have hsame : { stamped with
          agentVersion := .str (env.py.str (resultField resp "version")) } = stamped := rfl
      dsimp only
      rw [hsame, storeHost_eq_self hc' hstored]
      exact flush_of_consistent hc'
  · rfl

end Stamp

/-! ## The state of a cluster node -/

section Node

variable {w w' : World}

/-- The state of the node is written already. -/
lemma nodeState_again {host host' : Host} (h : nodeState env resp host = some host') :
    nodeState env resp host' = some host' := by
  unfold nodeState at h
  split_ifs at h with hhardware
  rcases hobj : host.hardware.asDict with e | hardware
  · rw [hobj] at h
    cases h
  rw [hobj] at h
  dsimp only at h
  rcases hcluster : ((hardware.get "cluster").orElse (.obj [])).asDict with e | cluster
  · rw [hcluster] at h
    cases h
  rw [hcluster] at h
  cases h
  unfold nodeState
  set node := cluster.set "state" (.str (env.py.str (resultField resp "status"))) with hnode
  have htruthy : ∀ (d : Dict) (k : String) (v : Json), (Json.obj (d.set k v)).truthy = true := by
    intro d k v
    have hhas := Dict.has_set d k v
    cases hset : d.set k v with
    | nil => rw [hset] at hhas; cases hhas
    | cons e es => rfl
  simp only [htruthy, if_true, Json.asDict, Dict.get_set, Json.orElse_of_truthy, hnode,
    Dict.set_set]

/-- The host part writes the database only. -/
lemma hostStage_run : (hostStage env resp task w).2 =
    { w with db := (hostStage env resp task w).2.db } := by
  have hkeeps : Keeps (Frame.same fun w : World => { w with db := {} })
      (hostStage env resp task) := by
    unfold hostStage
    split
    · exact keeps_attempt (keeps_savepoint (fun s t h => h)
        (keeps_applyHostActionResponse (fun _ _ _ => rfl) _ _))
    · exact keeps_pure _
  have hsame : { (hostStage env resp task w).2 with db := {} } = { w with db := {} } := hkeeps w
  exact congrArg (fun t : World => { t with db := (hostStage env resp task w).2.db }) hsame

/-- What the host part does to the database. -/
lemma hostStage_db (hc : w.db.Consistent) : (hostStage env resp task w).2.db =
    match nodeWrite env resp task w.db with
    | some host =>
      if task.targetType = .host ∧ host.bindable = true then w.db.storeHost host else w.db
    | none => w.db := by
  unfold hostStage
  by_cases htype : task.targetType = .host
  · rw [if_pos htype, Prog.attempt_run]
    have hrun := @applyHostActionResponse_run env w resp task
    rcases hwrite : nodeWrite env resp task w.db with _ | host
    · rw [hwrite] at hrun
      rcases savepoint_cases (applyHostActionResponse env task resp) w with
        ⟨a, t, hm, -, hs⟩ | ⟨e, hs⟩
      · rw [hs]
        rw [hm] at hrun
        exact congrArg World.db hrun
      · rw [hs]
        rfl
    · rw [hwrite] at hrun
      obtain ⟨host₀, h₀, hshort, hcluster⟩ := nodeWrite_eq_some hwrite
      have hfits := hc.storeHost_iff h₀ hshort hcluster
      by_cases hb : host.bindable = true
      · rw [savepoint_eq_ok.mpr ⟨hrun, hfits.mpr hb⟩]
        simp [htype, hb]
      · obtain ⟨e, hback⟩ := savepoint_of_inconsistent hrun fun hct => hb (hfits.mp hct)
        rw [hback]
        simp [hb, rollback]
  · rw [if_neg htype]
    rcases nodeWrite env resp task w.db with _ | host
    · rfl
    · simp [htype]

/-- The host part a second time, on the hosts it has left. -/
lemma hostStage_again (hc : w.db.Consistent) (hc' : w'.db.Consistent)
    (hhosts : w'.db.hosts = (hostStage env resp task w).2.db.hosts) :
    (hostStage env resp task w').2 = w' := by
  have hdb : (hostStage env resp task w').2.db = w'.db := by
    rw [hostStage_db hc] at hhosts
    rw [hostStage_db hc']
    rcases hwrite : nodeWrite env resp task w.db with _ | host
    · -- nothing was written
      rw [hwrite] at hhosts
      have hsame : nodeWrite env resp task w'.db = nodeWrite env resp task w.db := by
        unfold nodeWrite
        rw [host_congr hhosts]
      rw [hsame, hwrite]
    · rw [hwrite] at hhosts
      dsimp only at hhosts
      split_ifs at hhosts with hcond
      · -- the row is there
        obtain ⟨host₀, h₀, -, -⟩ := nodeWrite_eq_some hwrite
        obtain ⟨hmem₀, hid₀⟩ := hc.host_eq_some.mp h₀
        have hstored : host ∈ w'.db.hosts := by
          rw [hhosts]
          exact Table.mem_store.mpr (Or.inr ⟨rfl, host₀, hmem₀, hid₀⟩)
        have hagain : nodeWrite env resp task w'.db = some host := by
          unfold nodeWrite at hwrite ⊢
          split_ifs at hwrite ⊢ with hkind
          obtain ⟨old, hold, hstate⟩ := Option.bind_eq_some_iff.mp hwrite
          obtain ⟨hmem, hid⟩ := hc.host_eq_some.mp hold
          obtain ⟨hsame, -, -⟩ := nodeState_eq_some hstate
          rw [hc'.host_eq_some.mpr ⟨hstored, hsame.trans hid⟩, Option.bind_some]
          exact nodeState_again hstate
        rw [hagain]
        simp only [hcond, and_self, if_true]
        exact storeHost_eq_self hc' hstored
      · have hsame : nodeWrite env resp task w'.db = nodeWrite env resp task w.db := by
          unfold nodeWrite
          rw [host_congr hhosts]
        rw [hsame, hwrite]
        exact if_neg hcond
  rw [hostStage_run, hdb]

end Node

/-! ## The exported template -/

/-- A template that a response exports is reported under a key. -/
def NamesTemplate (resp : AgentResponse) (task : Task) : Prop :=
  task.kind = .vm_export_template → resp.status = "succeeded" →
    ∀ item ∈ resp.template, (item.get "id").truthy = true

/-- Whether a task names a template can be decided. -/
instance (resp : AgentResponse) (task : Task) : Decidable (NamesTemplate resp task) :=
  inferInstanceAs (Decidable (_ → _ → _))

section Template

variable {w w' : World}

/-- The template part writes templates and draws identifiers. -/
lemma templateStage_run : (templateStage env resp task w).2 =
    { w with
      db := (templateStage env resp task w).2.db
      nextId := (templateStage env resp task w).2.nextId } := by
  have hkeeps : Keeps (Frame.same fun w : World => { w with db := {}, nextId := 0 })
      (templateStage env resp task) := by
    unfold templateStage
    split
    · split
      · exact keeps_attempt (keeps_savepoint (fun s t h => h)
          (keeps_upsertTemplate (fun _ _ _ => rfl) (fun _ _ => rfl) _ _))
      · exact keeps_pure _
    · exact keeps_pure _
  have hsame : { (templateStage env resp task w).2 with db := {}, nextId := 0 } =
    { w with db := {}, nextId := 0 } := hkeeps w
  exact congrArg (fun t : World => { t with
    db := (templateStage env resp task w).2.db
    nextId := (templateStage env resp task w).2.nextId }) hsame

/-- A template that is reported under a key is the same row at every delivery. -/
lemma templateWrite_congr (hstatus : task.status = terminalStatus resp)
    (hnames : NamesTemplate resp task) :
    templateWrite env w' resp task = templateWrite env w resp task := by
  unfold templateWrite
  rcases htemplate : resp.template with _ | item
  · rfl
  rw [Option.bind_some, Option.bind_some]
  split_ifs with hcond
  · have hkey : (item.get "id").truthy = true :=
      hnames hcond.2 (terminalStatus_eq_succeeded.mp (hstatus ▸ hcond.1)) item htemplate
    simp only [templateKey, hkey, if_true]
  · rfl

/-- The template part a second time, on the templates it has left. -/
lemma templateStage_again (hc : w.db.Consistent) (hc' : w'.db.Consistent)
    (hstatus : task.status = terminalStatus resp) (hnames : NamesTemplate resp task)
    (hhost : task.hostId ∈ w.db.hosts.map Host.id) (hhost' : task.hostId ∈ w'.db.hosts.map Host.id)
    (htemplates : w'.db.templates = (templateStage env resp task w).2.db.templates) :
    (templateStage env resp task w').2.db = w'.db := by
  rw [templateStage_db] at htemplates ⊢
  rw [templateWrite_congr (w := w) hstatus hnames]
  rcases hwrite : templateWrite env w resp task with _ | row
  · rfl
  rw [hwrite] at htemplates
  have hrow := templateWrite_hostId hwrite
  have hfits := @withTemplate_consistent_iff _ hc row (hrow ▸ hhost)
  have hfits' := @withTemplate_consistent_iff _ hc' row (hrow ▸ hhost')
  dsimp only at htemplates ⊢
  simp only [hfits] at htemplates
  simp only [hfits']
  split_ifs at htemplates ⊢ with hb
  · -- the row is there
    have hstored : row ∈ w'.db.templates := by
      rw [htemplates]
      unfold withTemplate
      rcases hold : w.db.template row.id with _ | old
      · rw [if_neg (by simp)]
        exact List.mem_append_right _ (List.mem_singleton_self _)
      · rw [if_pos (by simp)]
        exact Table.mem_store.mpr (Or.inr ⟨rfl, old, Table.mem_of_lookup hold,
          Table.key_of_lookup hold⟩)
    have hfound : (w'.db.template row.id).isSome = true := by
      rw [hc'.template_eq_some.mpr ⟨hstored, rfl⟩]
      rfl
    unfold withTemplate
    rw [if_pos hfound, Table.store_eq_self_of_mem hc'.keyed.templateIds hstored]
  · rfl

end Template

/-! ## The VM rows -/

section Rows

variable {w w' t t' : World}

/-- The second delivery leaves the tombstones and the locks alone, and redoes the rest. -/
structure VmsRedone (t w' t' : World) : Prop extends Redone t w' t' where
  tombstones : t'.cache.tombstones = w'.cache.tombstones
  vmLocks : t'.cache.vmLocks = w'.cache.vmLocks

/-- A second delivery that has nothing to do. -/
lemma vmsRedone_idle (hvms : w'.db.vms = t.db.vms) : VmsRedone t w' w' where
  rows := congrArg (List.map Vm.undated) hvms
  db := rfl
  states _ := Or.inr rfl
  tombstones := rfl
  vmLocks := rfl

/-- The tombstones and the locks, in a frame. -/
def asideFrame : Frame World := Frame.same fun w => (w.cache.tombstones, w.cache.vmLocks)

/-- A savepoint that is redone. -/
lemma vmsRedone_of_redone {m : M Unit} (hm : Keeps asideFrame m)
    (h : Redone t w' (savepoint m w').2) : VmsRedone t w' (savepoint m w').2 where
  toRedone := h
  tombstones := (Prod.mk.inj (keeps_savepoint (F := asideFrame) (fun _ _ h => h) hm w')).1
  vmLocks := (Prod.mk.inj (keeps_savepoint (F := asideFrame) (fun _ _ h => h) hm w')).2

/-- A row is found by its key in the table of VMs. -/
lemma vm_congr {db db' : Db} (h : db'.vms = db.vms) (id : String) : db'.vm id = db.vm id := by
  unfold Db.vm
  rw [h]

/-- A VM that is removed is not found. -/
lemma vm_deleteVm_self {db : Db} {id : String} : (db.deleteVm id).vm id = none := by
  refine Table.lookup_eq_none.mpr fun v hv => ?_
  have hstays := (Table.mem_deleteWhere.mp hv).2
  simpa using hstays

/-- A row that is gone is not deleted again. -/
lemma deleteVm_again {db db' : Db} {id : String} (hvms : db'.vms = (db.deleteVm id).vms)
    (hthumbnails : db'.thumbnails = (db.deleteVm id).thumbnails)
    (hmetrics : db'.vmMetrics = (db.deleteVm id).vmMetrics) : db'.deleteVm id = db' := by
  have hrows : Table.deleteWhere (fun v : Vm => decide (v.id = id)) db'.vms = db'.vms := by
    rw [Table.deleteWhere_eq_self]
    intro v hv
    rw [hvms] at hv
    exact (Table.mem_deleteWhere.mp hv).2
  unfold Db.deleteVm Db.deleteVms
  rw [hrows]
  have hkept : db'.thumbnails.filter (fun t => decide (t.vmId ∈ db'.vms.map Vm.id)) =
      db'.thumbnails := by
    refine List.filter_eq_self.mpr fun x hx => ?_
    rw [hthumbnails] at hx
    rw [hvms]
    exact (List.mem_filter.mp hx).2
  have hsamples : db'.vmMetrics.filter (fun m => decide (m.vmId ∈ db'.vms.map Vm.id)) =
      db'.vmMetrics := by
    refine List.filter_eq_self.mpr fun x hx => ?_
    rw [hmetrics] at hx
    rw [hvms]
    exact (List.mem_filter.mp hx).2
  rw [hkept, hsamples]

/-- The VM part of a create or clone, a second time.

**Proof sketch.** Without a placeholder both deliveries do nothing. After a success its row is still
there and is stamped again with the same columns; after a failure it has been dropped, so the second
delivery finds none. -/
lemma placeholder_again (hc : w.db.Consistent) (hnow : Column.timestamp w.now = true)
    (hc' : w'.db.Consistent) (hlater : Column.timestamp w'.now = true)
    (hmake : task.kind.makesPlaceholder = true)
    (hdb : w'.db = { (savepoint (applyResponseState env hostId resp task) w).2.db with
      tasks := w'.db.tasks }) :
    VmsRedone (savepoint (applyResponseState env hostId resp task) w).2 w'
      (savepoint (applyResponseState env hostId resp task) w').2 := by
  have hrun := @applyResponseState_placeholder env w hostId resp task hmake
  have hrun' := @applyResponseState_placeholder env w' hostId resp task hmake
  have hvms : w'.db.vms = (savepoint (applyResponseState env hostId resp task) w).2.db.vms :=
    (congrArg Db.vms hdb :)
  rcases hvm : w.db.vm task.targetId with _ | placeholder
  · -- there is no placeholder
    rw [hvm] at hrun
    rw [savepoint_eq_ok.mpr ⟨hrun, hc⟩] at hvms ⊢
    rw [vm_congr hvms, hvm] at hrun'
    rw [savepoint_eq_ok.mpr ⟨hrun', hc'⟩]
    exact vmsRedone_idle hvms
  rw [hvm] at hrun
  dsimp only at hrun
  obtain ⟨hmem, hid⟩ := hc.vm_eq_some.mp hvm
  by_cases hsucc : task.status = .succeeded
  · rw [if_pos hsucc] at hrun
    rw [savepoint_congr hrun] at hdb ⊢
    -- the row of the placeholder is still there
    have hids : (savepoint (stampPlaceholder env hostId resp placeholder) w).2.db.vms.map Vm.id =
        w.db.vms.map Vm.id :=
      keeps_savepoint (F := Frame.same fun w : World => w.db.vms.map Vm.id) (fun _ _ _ => rfl)
        (keeps_stampPlaceholder (fun _ _ => rfl) (fun _ _ => Table.map_key_store) _ _ _) w
    have hin : task.targetId ∈ w'.db.vms.map Vm.id := by
      rw [hdb, hids]
      exact hid ▸ List.mem_map_of_mem hmem
    obtain ⟨placeholder', hmem', hid'⟩ := List.mem_map.mp hin
    have hvm' := hc'.vm_eq_some.mpr ⟨hmem', hid'⟩
    rw [hvm'] at hrun'
    dsimp only at hrun'
    rw [if_pos hsucc] at hrun'
    rw [savepoint_congr hrun']
    refine vmsRedone_of_redone ?_ (redone_stampPlaceholder hc hnow hc' hlater hvm hvm' hdb)
    exact keeps_stampPlaceholder (fun _ _ => rfl) (fun _ _ => rfl) _ _ _
  · rw [if_neg hsucc, dropPlaceholder_run] at hrun
    rw [savepoint_eq_ok.mpr ⟨hrun, hc.deleteVm _⟩] at hvms ⊢
    rw [vm_congr hvms, ← hid, vm_deleteVm_self] at hrun'
    rw [savepoint_eq_ok.mpr ⟨hrun', hc'⟩]
    exact vmsRedone_idle hvms

/-- The state after the VM part of a delete. -/
lemma applyDelete_run : ∃ tombstones, applyDelete hostId task w = (.ok (), { w with
    db := w.db.deleteVm task.targetId
    cache := { w.cache with
      vmStates := Expiring.erase w.cache.vmStates task.targetId
      tombstones := tombstones } }) ∧
    (w.db.vm task.targetId = none → tombstones = w.cache.tombstones) := by
  unfold applyDelete
  rw [Prog.read_bind_run]
  rcases hvm : w.db.vm task.targetId with _ | gone
  · exact ⟨_, rfl, fun _ => rfl⟩
  rw [Option.bind_some]
  rcases gone.vmUuid with _ | u
  · exact ⟨_, rfl, by simp⟩
  · dsimp only
    unfold markVmDeleted
    split
    · exact ⟨_, rfl, by simp⟩
    · exact ⟨_, rfl, by simp⟩

/-- The VM part of a delete, a second time. -/
lemma delete_again (hc : w.db.Consistent) (hc' : w'.db.Consistent)
    (hdb : w'.db = { (savepoint (applyDelete hostId task) w).2.db with tasks := w'.db.tasks }) :
    VmsRedone (savepoint (applyDelete hostId task) w).2 w'
      (savepoint (applyDelete hostId task) w').2 := by
  obtain ⟨tombstones, hrun, -⟩ := @applyDelete_run hostId task w
  obtain ⟨tombstones', hrun', hkept⟩ := @applyDelete_run hostId task w'
  rw [savepoint_eq_ok.mpr ⟨hrun, hc.deleteVm _⟩] at hdb ⊢
  rw [savepoint_eq_ok.mpr ⟨hrun', hc'.deleteVm _⟩]
  have hvms : w'.db.vms = (w.db.deleteVm task.targetId).vms := (congrArg Db.vms hdb :)
  have hgone : w'.db.vm task.targetId = none := (vm_congr hvms _).trans vm_deleteVm_self
  have hagain : w'.db.deleteVm task.targetId = w'.db :=
    deleteVm_again hvms (congrArg Db.thumbnails hdb :) (congrArg Db.vmMetrics hdb :)
  rw [hagain]
  refine ⟨⟨congrArg (List.map Vm.undated) hvms, rfl, fun id => ?_⟩, hkept hgone, rfl⟩
  by_cases hid : id = task.targetId
  · left
    subst hid
    simp [Expiring.get_erase]
  · right
    simp [Expiring.get_erase, hid]

/-- The VM part of a power action that failed, a second time: the optimistic state is gone. -/
lemma revert_again (hc : w.db.Consistent) (hc' : w'.db.Consistent)
    (hvms : w'.db.vms = (revertedWorld env task w).db.vms) :
    VmsRedone (savepoint (revertState env task) w).2 w'
      (savepoint (revertState env task) w').2 := by
  have hidle : revertState env task w' = (.ok (), w') := by
    refine revertState_idle fun vm hvm transitional htransitional htype => ?_
    rw [vm_congr hvms] at hvm
    obtain ⟨revert, hrevert, hne⟩ := revert_of_transitional htransitional
    unfold revertedWorld at hvm
    rw [hrevert, Option.mem_def.mp htransitional] at hvm
    rcases hold : w.db.vm task.targetId with _ | old
    · simp only [hold] at hvm
      cases hvm
    · simp only [hold] at hvm
      split_ifs at hvm with hcond
      · -- the row has been reverted
        have hcr := storeVm_reverted_consistent hc hold (failedStateRevert_fits hrevert)
        obtain ⟨hmem, hid⟩ := hcr.vm_eq_some.mp hvm
        rcases Table.mem_store.mp hmem with ⟨-, hother⟩ | ⟨rfl, -⟩
        · exact absurd (hid.trans (Table.key_of_lookup hold).symm) hother
        · simp [Json.isStr, hne]
      · rw [hold] at hvm
        cases hvm
        simpa [htype] using hcond
  rw [savepoint_eq_ok.mpr ⟨hidle, hc'⟩]
  rw [savepoint_eq_ok.mpr ⟨revertState_eq, revertedWorld_consistent hc⟩]
  exact vmsRedone_idle hvms

/-- The VM part a second time. -/
lemma vmStage_again (hc : w.db.Consistent) (hnow : Column.timestamp w.now = true)
    (hc' : w'.db.Consistent) (hlater : Column.timestamp w'.now = true)
    (hstatus : task.status = .succeeded ∨ task.status = .failed)
    (hdb : w'.db = { (vmStage env hostId resp task w).2.db with tasks := w'.db.tasks }) :
    VmsRedone (vmStage env hostId resp task w).2 w' (vmStage env hostId resp task w').2 := by
  unfold vmStage at hdb ⊢
  rw [Prog.attempt_run] at hdb
  rw [Prog.attempt_run, Prog.attempt_run]
  by_cases hmake : task.kind.makesPlaceholder = true
  · exact placeholder_again hc hnow hc' hlater hmake hdb
  by_cases hdel : task.kind = .vm_delete ∧ task.status = .succeeded
  · have hrun : ∀ u, applyResponseState env hostId resp task u = applyDelete hostId task u := by
      intro u
      unfold applyResponseState
      rw [if_neg hmake, if_pos hdel]
    rw [savepoint_congr (hrun w)] at hdb ⊢
    rw [savepoint_congr (hrun w')]
    exact delete_again hc hc' hdb
  rcases hstatus with hsucc | hfail
  · have hrun : ∀ u, applyResponseState env hostId resp task u = applySuccess env hostId resp u := by
      intro u
      unfold applyResponseState
      rw [if_neg hmake, if_neg hdel, if_pos hsucc]
    rw [savepoint_congr (hrun w)] at hdb ⊢
    rw [savepoint_congr (hrun w')]
    refine vmsRedone_of_redone ?_ (redone_applySuccess hc hnow hc' hlater hdb)
    exact keeps_applySuccess (fun _ _ => rfl) (fun _ _ => rfl) _ _
  · have hrun : ∀ u, applyResponseState env hostId resp task u = revertState env task u := by
      intro u
      unfold applyResponseState
      rw [if_neg hmake, if_neg hdel, if_neg (by simp [hfail]), if_pos hfail]
    rw [savepoint_congr (hrun w)] at hdb ⊢
    rw [savepoint_congr (hrun w')]
    refine revert_again hc hc' ?_
    rw [savepoint_eq_ok.mpr ⟨revertState_eq, revertedWorld_consistent hc⟩] at hdb
    exact (congrArg Db.vms hdb :)

end Rows

/-! ## The refresh -/

section Refresh

variable {w w' t u : World}

/-- The refresh once the version is stamped. -/
lemma applyRefresh_stamped (h : stampAgentVersion env hostId resp task w = (.ok (), t)) :
    applyRefresh env hostId resp task w =
      (if task.targetType = .vm then releaseVmLock task.targetId task.id else pure ())
        (vmStage env hostId resp task
          (templateStage env resp task (hostStage env resp task t).2).2).2 := by
  unfold applyRefresh
  rw [Prog.bind_run_ok h, Prog.bind_run_ok applyBestEffort_stages]

/-- A task that is no action on a cluster node changes no host. -/
lemma hostStage_idle (hc : w.db.Consistent) (h : task.kind.isClusterNodeAction = false) :
    (hostStage env resp task w).2 = w := by
  have hdb : (hostStage env resp task w).2.db = w.db := by
    rw [hostStage_db hc]
    have hnone : nodeWrite env resp task w.db = none := by
      unfold nodeWrite
      simp [h]
    rw [hnone]
  rw [hostStage_run, hdb]

/-- The refresh of a task that is no upgrade and no action on a cluster node: its last two parts. -/
lemma applyRefresh_of_vm (hc : w.db.Consistent) (hstatus : task.status = terminalStatus resp)
    (hkind : task.kind ≠ .host_update_agent) (hnode : task.kind.isClusterNodeAction = false)
    (h : applyRefresh env hostId resp task w = (.ok (), t)) :
    t.db = (vmStage env hostId resp task (templateStage env resp task w).2).2.db ∧
      t.cache.tombstones =
        (vmStage env hostId resp task (templateStage env resp task w).2).2.cache.tombstones := by
  have hstamp : stampAgentVersion env hostId resp task w = (.ok (), w) := by
    rw [stampAgentVersion_run hstatus, if_neg]
    rintro ⟨hupgrade, -⟩
    exact hkind hupgrade
  rw [applyRefresh_stamped hstamp, hostStage_idle hc hnode] at h
  split_ifs at h
  · cases h
    exact ⟨rfl, releaseLock_tombstones _ _ _⟩
  · cases h
    exact ⟨rfl, rfl⟩

/-- The stamp writes hosts only. -/
lemma stamp_frame (hstatus : task.status = terminalStatus resp)
    (h : stampAgentVersion env hostId resp task w = (.ok (), t)) :
    t = { w with db := { w.db with hosts := t.db.hosts } } ∧
      (task.kind ≠ .host_update_agent → t = w) := by
  rw [stampAgentVersion_run hstatus] at h
  split_ifs at h with hcond
  · refine ⟨?_, fun hkind => absurd hcond.1 hkind⟩
    rcases hhost : w.db.host hostId with _ | host
    · rw [hhost] at h
      obtain rfl : w = t := congrArg Prod.snd h
      rfl
    · rw [hhost] at h
      obtain ⟨-, rfl⟩ := flush_eq_ok.mp h
      rfl
  · obtain rfl : w = t := congrArg Prod.snd h
    exact ⟨rfl, fun _ => rfl⟩

/-- After a refresh the clock is where it was, and the task holds no lock on its VM. -/
lemma applyRefresh_after (hc : w.db.Consistent) (hstatus : task.status = terminalStatus resp)
    (h : applyRefresh env hostId resp task w = (.ok (), t)) : t.now = w.now ∧
      (task.targetType = .vm →
        ∀ lock ∈ Expiring.get t.cache.vmLocks task.targetId, lock.taskId ≠ task.id) := by
  have hbest : Keeps (Frame.same fun w : World => w.now)
      (applyBestEffort env hostId resp task) :=
    keeps_applyBestEffort (fun _ _ h => h) (fun _ _ _ => rfl) (fun _ _ _ => rfl) (fun _ _ => rfl)
      (keeps_applyResponseState (fun _ _ => rfl) (fun _ _ => rfl) (fun _ _ => rfl)
        (fun _ _ _ _ => rfl) hostId resp)
  rcases applyRefresh_cases hc hstatus (keeps_stampAgentVersion (fun _ _ _ => rfl) _ _ _) hbest with
    ⟨e, v, hrun, -⟩ | ⟨v, hnow, -, -, -, -, hrun⟩
  · rw [h] at hrun
    cases hrun
  · rw [h] at hrun
    split_ifs at hrun with htype
    · cases hrun
      refine ⟨hnow, fun _ lock hlock => ?_⟩
      obtain ⟨due, hentry⟩ := Expiring.get_eq_some.mp hlock
      dsimp only at hentry
      rw [releaseVmLock_locks] at hentry
      split_ifs at hentry with hheld
      intro hid
      exact hheld ⟨rfl, lock, Expiring.get_eq_some.mpr ⟨due, hentry⟩, hid⟩
    · cases hrun
      exact ⟨hnow, fun hvm => absurd hvm htype⟩

/-- **The refresh a second time**: each part finds what it has left.

**Proof sketch.** Cut the first refresh into its four parts and record what each of them writes:
hosts, templates, VMs, and the lock. Each part is idempotent on its own tables, and no later part
writes the tables of an earlier one, so the second refresh, which starts from what the first has
left, changes none of them. -/
theorem refresh_again (hc : w.db.Consistent) (hnow : Column.timestamp w.now = true)
    (hc' : w'.db.Consistent) (hlater : Column.timestamp w'.now = true)
    (hstatus : task.status = terminalStatus resp) (hnames : NamesTemplate resp task)
    (hhost : task.hostId ∈ w.db.hosts.map Host.id)
    (h : applyRefresh env hostId resp task w = (.ok (), t))
    (hdb : w'.db = { t.db with tasks := w'.db.tasks })
    (hfree : task.targetType = .vm →
      ∀ lock ∈ Expiring.get w'.cache.vmLocks task.targetId, lock.taskId ≠ task.id) :
    ∃ t', applyRefresh env hostId resp task w' = (.ok (), t') ∧ VmsRedone t w' t' := by
  have hended : task.status = .succeeded ∨ task.status = .failed := by
    rw [hstatus]
    unfold terminalStatus
    split_ifs <;> simp
  obtain ⟨w₁, hstamp⟩ : ∃ w₁, stampAgentVersion env hostId resp task w = (.ok (), w₁) := by
    rcases hrun : stampAgentVersion env hostId resp task w with ⟨e | ⟨⟩, w₁⟩
    · unfold applyRefresh at h
      rw [Prog.bind_run_error hrun] at h
      cases h
    · exact ⟨w₁, rfl⟩
  rw [applyRefresh_stamped hstamp] at h
  have hc₁ := stampAgentVersion_consistent hc hstatus hstamp
  obtain ⟨hw₁, hquiet⟩ := stamp_frame hstatus hstamp
  have hkeys₁ : w₁.db.hosts.map Host.id = w.db.hosts.map Host.id :=
    (@stamp_kept env w w₁ hostId resp task [] hstatus hstamp).2.2.1
  -- the four parts of the first delivery, and what each of them writes
  have hc₂ := @hostStage_consistent env w₁ resp task hc₁
  have hframe₂ : { (hostStage env resp task w₁).2.db with hosts := [] } =
    { w₁.db with hosts := [] } := hostStage_frame w₁
  have hkeys₂ := (Prod.mk.inj (@hostStage_keys env resp task w₁)).2
  have hnow₂ : (hostStage env resp task w₁).2.now = w.now := by
    rw [hostStage_run, hw₁]
  have hagain₂ := @hostStage_again env resp task w₁ w' hc₁ hc'
  have hupgrade := fun hkind => @hostStage_idle env resp task w₁ hc₁ hkind
  generalize (hostStage env resp task w₁).2 = w₂ at *
  have hc₃ := @templateStage_consistent env w₂ resp task hc₂
  have hframe₃ : { (templateStage env resp task w₂).2.db with templates := [] } =
    { w₂.db with templates := [] } := templateStage_frame w₂
  have hnow₃ : (templateStage env resp task w₂).2.now = w.now := by
    rw [templateStage_run, ← hnow₂]
  have hagain₃ := @templateStage_again env resp task w₂ w' hc₂ hc' hstatus hnames
    (by rw [hkeys₂, hkeys₁]; exact hhost)
  generalize (templateStage env resp task w₂).2 = w₃ at *
  have hframe₄ : { (vmStage env hostId resp task w₃).2.db with
      vms := [], thumbnails := [], vmMetrics := [] } =
    { w₃.db with vms := [], thumbnails := [], vmMetrics := [] } := vmStage_frame w₃
  have hagain₄ := fun w₃' => @vmStage_again env hostId resp task w₃ w₃' hc₃ (hnow₃ ▸ hnow)
  generalize (vmStage env hostId resp task w₃).2 = w₄ at *
  -- what the second delivery starts from
  have hleft : t.db = w₄.db ∧ t.cache.vmStates = w₄.cache.vmStates := by
    split_ifs at h
    · cases h
      exact ⟨rfl, releaseLock_vmStates _ _ _⟩
    · cases h
      exact ⟨rfl, rfl⟩
  rw [hleft.1] at hdb
  have hhosts : w'.db.hosts = w₂.db.hosts := by
    rw [hdb]
    exact (congrArg Db.hosts hframe₄ :).trans (congrArg Db.hosts hframe₃ :)
  have htemplates : w'.db.templates = w₃.db.templates := by
    rw [hdb]
    exact (congrArg Db.templates hframe₄ :)
  -- the parts of the second delivery
  have hstamp' : stampAgentVersion env hostId resp task w' = (.ok (), w') := by
    by_cases hkind : task.kind = .host_update_agent
    · exact stamp_again hc hc' hstatus hstamp (hhosts.trans (by rw [hupgrade (by rw [hkind]; rfl)]))
    · rw [stampAgentVersion_run hstatus, if_neg fun hcond => hkind hcond.1]
  have hstage₂ := hagain₂ hhosts
  have hstage₃ := hagain₃ (by rw [hhosts, hkeys₂, hkeys₁]; exact hhost) htemplates
  have hrun₃ := @templateStage_run env resp task w'
  have hstage₄ := hagain₄ (templateStage env resp task w').2 (hstage₃ ▸ hc')
    (by rw [hrun₃]; exact hlater) hended (by rw [hstage₃]; exact hdb)
  have hrun := applyRefresh_stamped hstamp'
  rw [hstage₂] at hrun
  rw [hrun₃, hstage₃] at hstage₄
  rw [hrun₃, hstage₃] at hrun
  generalize (vmStage env hostId resp task { w' with
    db := w'.db, nextId := (templateStage env resp task w').2.nextId }).2 = w₄' at hstage₄ hrun
  have hredone : VmsRedone t w' w₄' := by
    refine ⟨⟨hstage₄.rows.trans (by rw [hleft.1]), hstage₄.db, fun id => ?_⟩, hstage₄.tombstones,
      hstage₄.vmLocks⟩
    rw [hleft.2]
    exact hstage₄.states id
  refine ⟨w₄', ?_, hredone⟩
  rw [hrun]
  split_ifs with htype
  · have hsame : releaseLock task.targetId task.id w₄'.cache = w₄'.cache := by
      refine releaseLock_eq_self ?_
      rw [hredone.vmLocks]
      exact hfree htype
    exact congrArg (fun c => (Except.ok (), { w₄' with cache := c })) hsame
  · rfl

end Refresh

/-! ## Two deliveries -/

section Deliveries

variable {s : Committed} {elapsed : ℕ} {t w : World}

/-- After the first delivery the world was `t`, before the second one it was `t₁`, and after it `t'`:
the second delivery leaves what the first one has left, but for the instants it reads off the
clock. An overlay whose time had come in between is shown again, or stays away. -/
structure Repeated (t t₁ t' : World) : Prop where
  rows : t'.db.vms.map Vm.undated = t.db.vms.map Vm.undated
  tasks : t'.db.tasks.map Task.undated = t.db.tasks.map Task.undated
  db : t'.db = { t.db with vms := t'.db.vms, tasks := t'.db.tasks }
  states : ∀ id, Expiring.get t'.cache.vmStates id = Expiring.get t.cache.vmStates id ∨
    Expiring.get t'.cache.vmStates id = Expiring.get t₁.cache.vmStates id
  tombstones : t'.cache.tombstones = t₁.cache.tombstones
  vmLocks : t'.cache.vmLocks = t₁.cache.vmLocks

/-- A second delivery that changes nothing. -/
lemma repeated_idle {t₁ t' : World} (h₁ : t₁.db = t.db) (hdb : t'.db = t₁.db)
    (hcache : t'.cache = t₁.cache) : Repeated t t₁ t' where
  rows := by rw [hdb, h₁]
  tasks := by rw [hdb, h₁]
  db := by rw [hdb, h₁]
  states _ := Or.inr (by rw [hcache])
  tombstones := by rw [hcache]
  vmLocks := by rw [hcache]

/-- The response changes nothing in a state with the database of `s`. -/
def Still (env : Env) (s : Committed) (hostId : String) (resp : AgentResponse) : Prop :=
  ∀ u : Committed, u.world.db = s.world.db → Column.timestamp u.world.now = true →
    (System.step env u (.response hostId resp)).world.db = u.world.db ∧
      (System.step env u (.response hostId resp)).world.cache = u.world.cache ∧
      (System.step env u (.response hostId resp)).world.now = u.world.now

/-- A response that changes nothing changes nothing the second time. -/
lemma repeated_of_still (h : Still env s hostId resp) (hnow : Column.timestamp s.world.now = true)
    (hlater : Column.timestamp (s.world.now + elapsed) = true) :
    let t := System.step env s (.response hostId resp)
    let t₁ := System.step env t (.tick elapsed)
    Repeated t.world t₁.world (System.step env t₁ (.response hostId resp)).world := by
  intro t t₁
  obtain ⟨hdb, -, hclock⟩ := h s rfl hnow
  have hnow₁ : Column.timestamp t₁.world.now = true := by
    show Column.timestamp (t.world.now + elapsed) = true
    rw [hclock]
    exact hlater
  obtain ⟨hdb₁, hcache₁, -⟩ := h t₁ hdb hnow₁
  exact repeated_idle rfl hdb₁ hcache₁

/-- The clock is read in place of a date that is missing. -/
lemma storable_congr {now later : Time} (hnow : Column.timestamp now = true)
    (hlater : Column.timestamp later = true) : storable env later resp = storable env now resp := by
  have hend : Column.timestamp (terminalTime env later resp) =
      Column.timestamp (terminalTime env now resp) := by
    unfold terminalTime
    rcases parseDt env (.ofOption resp.finishedAt) with _ | t
    · exact hlater.trans hnow.symm
    · rfl
  unfold storable
  rw [hend]

/-- Storing a task that differs in the instant it ended at only. -/
lemma undated_store {tasks : List Task} {old new : Task} (hids : (tasks.map Task.id).Nodup)
    (hold : old ∈ tasks) (hid : new.id = old.id) (hsame : new.undated = old.undated) :
    (Table.store Task.id new tasks).map Task.undated = tasks.map Task.undated := by
  unfold Table.store
  rw [List.map_map]
  refine List.map_congr_left fun x hx => ?_
  by_cases hx' : x.id = new.id
  · obtain rfl := Table.eq_of_mem_of_key hids hx hold (hx'.trans hid)
    simp [hx', hsame]
  · simp [hx']

/-- A response that ends its task, lands and has a version that fits is processed to the end. -/
lemma step_response_landed (h : s.world.db.taskOfHost hostId resp.id = some task)
    (hp : isProgress resp task.status = false) (hl : Lands env s.world.now resp)
    (hfits : StampFits env s.world.db hostId resp task) :
    ∃ t, applyRefresh env hostId resp.stripped (endedTask env s.world.now resp.stripped task)
        (endedWorld env s.world resp task) = (.ok (), t) ∧
      (System.step env s (.response hostId resp)).world = t := by
  have hce : (endedWorld env s.world resp task).db.Consistent :=
    (lifecycleDb_consistent_iff s.consistent (task_of_taskOfHost h)).mpr hl.2
  obtain ⟨t, ht, hct, -⟩ := applyRefresh_returns hce rfl (stampFits_stripped.mpr hfits)
  have hrun : applyResponse env hostId resp (atStart s.world) = (.ok (), t) :=
    (applyResponse_landed (w := atStart s.world) s.consistent h hp hl).trans ht
  refine ⟨t, ht, ?_⟩
  rw [step_response, sessionScope, savepoint_eq_ok.mpr ⟨hrun, hct⟩]

/-- A response whose version does not fit is rolled back. -/
lemma step_response_misfit (h : s.world.db.taskOfHost hostId resp.id = some task)
    (hp : isProgress resp task.status = false) (hl : Lands env s.world.now resp)
    (hfits : ¬ StampFits env s.world.db hostId resp task) :
    (System.step env s (.response hostId resp)).world.db = s.world.db ∧
      (System.step env s (.response hostId resp)).world.cache = s.world.cache ∧
      (System.step env s (.response hostId resp)).world.now = s.world.now := by
  have hce : (endedWorld env s.world resp task).db.Consistent :=
    (lifecycleDb_consistent_iff s.consistent (task_of_taskOfHost h)).mpr hl.2
  have hcache := @keeps_stampAgentVersion env (Frame.same fun w : World => (w.cache, w.now))
    (fun _ _ _ => rfl) hostId resp.stripped (endedTask env s.world.now resp.stripped task)
    (endedWorld env s.world resp task)
  rcases hst : stampAgentVersion env hostId resp.stripped
    (endedTask env s.world.now resp.stripped task) (endedWorld env s.world resp task) with
    ⟨e | ⟨⟩, t⟩
  · rw [hst] at hcache
    have hrun : applyResponse env hostId resp (atStart s.world) = (.error e, t) :=
      (applyResponse_landed (w := atStart s.world) s.consistent h hp hl).trans
        (Prog.bind_run_error hst)
    rw [step_response, sessionScope, savepoint_of_raise hrun]
    exact ⟨rfl, Prod.mk.inj hcache⟩
  · exact absurd (stampFits_stripped.mp ((stampAgentVersion_returns_iff hce rfl).mp ⟨t, hst⟩)) hfits

/-- A progress message finds its task as it has left it. -/
lemma progressTask_again {now later : Time} {payload : Json} :
    progressTask later resp
        { progressTask now resp { task with responsePayload := payload } with
          responsePayload := payload } =
      progressTask now resp { task with responsePayload := payload } := by
  simp only [progressTask, Task.mk.injEq, Option.getD_some, true_and, and_true]
  refine ⟨?_, ?_⟩
  · cases resp.progress <;> rfl
  · cases resp.progressMessage with
    | none => rfl
    | some m =>
      dsimp only
      split_ifs <;> rfl

/-- Whether a progress message fits does not depend on the clock. -/
lemma progressTask_bindable {now later : Time} (hnow : Column.timestamp now = true)
    (hlater : Column.timestamp later = true) :
    (progressTask later resp task).bindable = (progressTask now resp task).bindable := by
  have hstart : Column.timestamp (task.startedAt.getD later) =
      Column.timestamp (task.startedAt.getD now) := by
    cases task.startedAt with
    | none => exact hlater.trans hnow.symm
    | some t => rfl
  simp only [progressTask, Task.bindable, Column.opt_some, hstart]

/-- A progress message, a second time.

**Proof sketch.** If the task as the message tells it fits its columns, it is stored, is found as
stored, is still in progress, and is stored over itself. If it does not, both deliveries are rolled
back. -/
lemma progress_again (h : s.world.db.taskOfHost hostId resp.id = some task)
    (hp : isProgress resp task.status = true) (hs : resp.strippable = true)
    (hnow : Column.timestamp s.world.now = true)
    (hlater : Column.timestamp (s.world.now + elapsed) = true) :
    let t := System.step env s (.response hostId resp)
    let t₁ := System.step env t (.tick elapsed)
    Repeated t.world t₁.world (System.step env t₁ (.response hostId resp)).world := by
  intro t t₁
  set told := progressTask s.world.now resp.stripped
    { task with responsePayload := resp.stripped.modelDump } with htold
  have htask := task_of_taskOfHost h
  obtain ⟨hlookup, hown⟩ := taskOfHost_eq_some.mp h
  have hrun := @applyResponse_progress env (atStart s.world) hostId resp task h hp hs
  by_cases hfits : told.bindable = true
  · -- the task is written, and found as written
    have hct : (s.world.db.storeTask told).Consistent :=
      (s.consistent.storeTask_iff (t := told) htask rfl).mpr hfits
    have ht : t.world = { atStart s.world with db := s.world.db.storeTask told } := by
      show (System.step env s (.response hostId resp)).world = _
      rw [step_response, sessionScope, savepoint_eq_ok.mpr ⟨hrun, hct⟩]
      rfl
    have hdb₁ : t₁.world.db = s.world.db.storeTask told := (congrArg World.db ht :)
    have hnow₁ : t₁.world.now = s.world.now + elapsed := by
      show t.world.now + elapsed = _
      rw [ht]
      rfl
    have hmem : told ∈ t₁.world.db.tasks := by
      rw [hdb₁]
      obtain ⟨hin, -⟩ := s.consistent.task_eq_some.mp htask
      exact Table.mem_store.mpr (Or.inr ⟨rfl, task, hin, rfl⟩)
    have h₁ : t₁.world.db.taskOfHost hostId resp.id = some told := by
      refine taskOfHost_eq_some.mpr ⟨t₁.consistent.task_eq_some.mpr ⟨hmem, ?_⟩, hown⟩
      have hid : task.id = resp.id := Table.key_of_lookup hlookup
      exact hid
    have hp₁ : isProgress resp told.status = true := by
      simp only [isProgress, Bool.and_eq_true, decide_eq_true_eq] at hp
      simp [isProgress, hp.1, htold, progressTask, TaskStatus.isTerminal]
    have hrun₁ := @applyResponse_progress env (atStart t₁.world) hostId resp told h₁ hp₁ hs
    have hsame : progressTask (atStart t₁.world).now resp.stripped
        { told with responsePayload := resp.stripped.modelDump } = told :=
      progressTask_again
    have hstored : (atStart t₁.world).db.storeTask told = t₁.world.db := by
      show t₁.world.db.storeTask told = _
      unfold Db.storeTask
      rw [Table.store_eq_self_of_mem t₁.consistent.keyed.taskIds hmem]
    rw [hsame, hstored] at hrun₁
    refine repeated_idle rfl ?_ ?_
    · rw [step_response, sessionScope, savepoint_eq_ok.mpr ⟨hrun₁, t₁.consistent⟩]
    · rw [step_response, sessionScope, savepoint_eq_ok.mpr ⟨hrun₁, t₁.consistent⟩]
      rfl
  · -- the task is not written at either delivery
    refine repeated_of_still (fun u hu hclock => ?_) hnow hlater
    have hfound : u.world.db.taskOfHost hostId resp.id = some task := hu ▸ h
    have htask' := task_of_taskOfHost hfound
    have hnot : ¬ ((atStart u.world).db.storeTask (progressTask (atStart u.world).now resp.stripped
        { task with responsePayload := resp.stripped.modelDump })).Consistent := by
      intro hcu
      refine hfits ?_
      rw [htold, ← progressTask_bindable hnow hclock]
      exact (u.consistent.storeTask_iff (t := progressTask u.world.now resp.stripped
        { task with responsePayload := resp.stripped.modelDump }) htask' rfl).mp hcu
    obtain ⟨e, hback⟩ := savepoint_of_inconsistent
      (@applyResponse_progress env (atStart u.world) hostId resp task hfound hp hs) hnot
    rw [step_response, sessionScope, hback]
    exact ⟨rfl, rfl, rfl⟩

/-- A response that is processed to the end, a second time.

**Proof sketch.** The first delivery ends the task (`step_response_landed`). The second finds it
ended under the same identifier, is no progress, lands and fits for the same reasons, and so runs
the lifecycle change and the refresh once more; `lifecycleDb_again` and `refresh_again` say that
both write what is there. -/
lemma landed_again (h : s.world.db.taskOfHost hostId resp.id = some task)
    (hp : isProgress resp task.status = false) (hl : Lands env s.world.now resp)
    (hfits : StampFits env s.world.db hostId resp task) (hnames : NamesTemplate resp task)
    (hnow : Column.timestamp s.world.now = true)
    (hlater : Column.timestamp (s.world.now + elapsed) = true) :
    let t := System.step env s (.response hostId resp)
    let t₁ := System.step env t (.tick elapsed)
    Repeated t.world t₁.world (System.step env t₁ (.response hostId resp)).world := by
  intro t t₁
  have htask := task_of_taskOfHost h
  obtain ⟨hlookup, hown⟩ := taskOfHost_eq_some.mp h
  set ended : Task := endedTask env s.world.now resp.stripped task with hended
  have hce : (endedWorld env s.world resp task).db.Consistent :=
    (lifecycleDb_consistent_iff s.consistent htask).mpr hl.2
  obtain ⟨u, hu, hworld⟩ := step_response_landed h hp hl hfits
  obtain ⟨u', hu', -, htasks, hevents⟩ :=
    applyRefresh_returns hce (rfl : ended.status = terminalStatus resp.stripped)
      (stampFits_stripped.mpr hfits)
  obtain rfl : u = u' := congrArg Prod.snd (hu.symm.trans hu')
  obtain ⟨hclock, hfree⟩ := applyRefresh_after hce rfl hu
  have ht : t.world = u := hworld
  have hdb₁ : t₁.world.db = u.db := (congrArg World.db ht :)
  have hnow₁ : t₁.world.now = s.world.now + elapsed := by
    show t.world.now + elapsed = _
    rw [ht, hclock]
    rfl
  -- the second delivery finds the task, ended
  have hmem : ended ∈ t₁.world.db.tasks := by
    rw [hdb₁, htasks]
    obtain ⟨hin, -⟩ := s.consistent.task_eq_some.mp htask
    exact Table.mem_store.mpr (Or.inr ⟨rfl, task, hin, rfl⟩)
  have h₁ : t₁.world.db.taskOfHost hostId resp.id = some ended := by
    have hid : task.id = resp.id := Table.key_of_lookup hlookup
    exact taskOfHost_eq_some.mpr ⟨t₁.consistent.task_eq_some.mpr ⟨hmem, hid⟩, hown⟩
  have hp₁ : isProgress resp ended.status = false := by
    have hterminal : ended.status.isTerminal = true := terminalStatus_isTerminal
    simp [isProgress, hterminal]
  have hl₁ : Lands env t₁.world.now resp := by
    refine ⟨hl.1, ?_⟩
    rw [hnow₁, storable_congr hnow hlater]
    exact hl.2
  have hhost : hostId ∈ s.world.db.hosts.map Host.id := by
    obtain ⟨hin, -⟩ := s.consistent.task_eq_some.mp htask
    exact hown ▸ s.consistent.keyed.taskHost task hin
  have hfits₁ : StampFits env t₁.world.db hostId resp ended := by
    intro hkind hsucc hversion _
    obtain ⟨host, hin, hid⟩ := List.mem_map.mp hhost
    refine hfits hkind hsucc hversion ?_
    rw [s.consistent.host_eq_some.mpr ⟨hin, hid⟩]
    rfl
  obtain ⟨v, hv, hagain⟩ := step_response_landed h₁ hp₁ hl₁ hfits₁
  -- its lifecycle change writes the task only, and its refresh finds what the first one has left
  have hdb : (endedWorld env t₁.world resp ended).db =
      { u.db with tasks := (endedWorld env t₁.world resp ended).db.tasks } := by
    have hlife := @lifecycleDb_again env resp.stripped task s.world.now t₁.world.now s.world.db
      t₁.world.db (by rw [hdb₁]; exact hevents)
    rw [← hdb₁]
    exact hlife
  have hlater₁ : Column.timestamp t₁.world.now = true := hnow₁ ▸ hlater
  have hce₁ : (endedWorld env t₁.world resp ended).db.Consistent :=
    (lifecycleDb_consistent_iff t₁.consistent (task_of_taskOfHost h₁)).mpr hl₁.2
  have hfree₁ : ended.targetType = .vm → ∀ lock ∈ Expiring.get
      (endedWorld env t₁.world resp ended).cache.vmLocks ended.targetId, lock.taskId ≠ ended.id := by
    intro hvm lock hlock
    obtain ⟨due, hentry⟩ := Expiring.get_eq_some.mp hlock
    have hold := (Expiring.expire_eq_some.mp hentry).1
    rw [ht] at hold
    exact hfree hvm lock (Expiring.get_eq_some.mpr ⟨due, hold⟩)
  have hhost₁ : ended.hostId ∈ s.world.db.hosts.map Host.id := by
    show task.hostId ∈ _
    rw [hown]
    exact hhost
  have hnames' : NamesTemplate resp.stripped ended := hnames
  obtain ⟨t', ht', hredone⟩ :=
    refresh_again hce hnow hce₁ hlater₁ rfl hnames' hhost₁ hu hdb hfree₁
  obtain rfl : v = t' := by
    rw [endedTask_again] at hv
    exact congrArg Prod.snd (hv.symm.trans ht')
  rw [hagain, ht]
  have htasks₁ : v.db.tasks = Table.store Task.id
      (endedTask env t₁.world.now resp.stripped ended) t₁.world.db.tasks :=
    (congrArg Db.tasks hredone.db :)
  refine ⟨hredone.rows, ?_, ?_, hredone.states, hredone.tombstones, hredone.vmLocks⟩
  · rw [htasks₁, ← hdb₁]
    refine undated_store t₁.consistent.keyed.taskIds hmem rfl ?_
    rw [endedTask_again]
    rfl
  · rw [hredone.db, hdb]

/-- **A response that is delivered twice leaves what it leaves when it is delivered once**: the same
rows, but for the instants read off the clock, the same tombstones and the same locks, whatever the
task and whatever the response, when a template it exports is reported under a key. -/
theorem redelivered (env : Env) (s : Committed) (hostId : String) (resp : AgentResponse)
    (elapsed : ℕ) (hnow : Column.timestamp s.world.now = true)
    (hlater : Column.timestamp (s.world.now + elapsed) = true)
    (hnames : ∀ task, s.world.db.taskOfHost hostId resp.id = some task →
      NamesTemplate resp task) :
    let t := System.step env s (.response hostId resp)
    let t₁ := System.step env t (.tick elapsed)
    Repeated t.world t₁.world (System.step env t₁ (.response hostId resp)).world := by
  rcases h : s.world.db.taskOfHost hostId resp.id with _ | task
  · refine repeated_of_still (fun u hu _ => ?_) hnow hlater
    have hnone : (atStart u.world).db.taskOfHost hostId resp.id = none := hu ▸ h
    rw [step_response, sessionScope, savepoint_eq_ok.mpr ⟨applyResponse_unknown hnone, u.consistent⟩]
    exact ⟨rfl, rfl, rfl⟩
  by_cases hp : isProgress resp task.status = true
  · by_cases hs : resp.strippable = true
    · exact progress_again h hp hs hnow hlater
    · refine repeated_of_still (fun u hu _ => ?_) hnow hlater
      have hfound : (atStart u.world).db.taskOfHost hostId resp.id = some task := hu ▸ h
      rw [step_response, sessionScope, savepoint_of_raise (applyResponse_not_strippable hfound hs)]
      exact ⟨rfl, rfl, rfl⟩
  simp only [Bool.not_eq_true] at hp
  by_cases hl : Lands env s.world.now resp
  · by_cases hfits : StampFits env s.world.db hostId resp task
    · exact landed_again h hp hl hfits (hnames task h) hnow hlater
    · refine repeated_of_still (fun u hu hclock => ?_) hnow hlater
      have hl' : Lands env u.world.now resp := by
        refine ⟨hl.1, ?_⟩
        rw [storable_congr hnow hclock]
        exact hl.2
      have hfound : u.world.db.taskOfHost hostId resp.id = some task := hu ▸ h
      exact step_response_misfit hfound hp hl' (hu ▸ hfits)
  · refine repeated_of_still (fun u hu hclock => ?_) hnow hlater
    have hl' : ¬ Lands env u.world.now resp := by
      rintro ⟨hstrip, hfit⟩
      rw [storable_congr hnow hclock] at hfit
      exact hl ⟨hstrip, hfit⟩
    have hfound : u.world.db.taskOfHost hostId resp.id = some task := hu ▸ h
    rw [response_rejected u hfound hp hl']
    exact ⟨rfl, rfl, rfl⟩

end Deliveries

namespace Demo

/-- The end of the queued start, as it is left by its first delivery. -/
@[irreducible] def endDelivered : Committed := System.step settings startQueued (.response "h" started)

/-- Half a second later, when the end is delivered again. -/
@[irreducible] def endRedelivered : Committed :=
  System.step settings (System.step settings endDelivered (.tick 500000)) (.response "h" started)

end Demo

/-- The end of a start is delivered again half a second later. -/
theorem redelivered_started :
    Demo.endDelivered.world.db.tasks.map Task.status = [.succeeded] ∧
    Repeated Demo.endDelivered.world
      (System.step Demo.settings Demo.endDelivered (.tick 500000)).world
      Demo.endRedelivered.world := by
  refine ⟨by decide +kernel, ?_⟩
  have hkinds : ∀ t ∈ Demo.startQueued.world.db.tasks, t.kind = .vm_start := by decide +kernel
  have hnames : ∀ task, Demo.startQueued.world.db.taskOfHost "h" Demo.started.id = some task →
      NamesTemplate Demo.started task := by
    intro task h hkind
    have hmem := (Demo.startQueued.consistent.task_eq_some.mp (task_of_taskOfHost h)).1
    rw [hkinds task hmem] at hkind
    cases hkind
  unfold Demo.endRedelivered Demo.endDelivered
  exact redelivered Demo.settings Demo.startQueued "h" Demo.started 500000 (by decide +kernel)
    (by decide +kernel) hnames

end OpenVCenter
