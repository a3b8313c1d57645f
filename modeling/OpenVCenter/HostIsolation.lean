import OpenVCenter.FailedResponse
import OpenVCenter.OtherRows
import OpenVCenter.TemplateInventory

set_option relaxedAutoImplicit false
set_option autoImplicit false

/-!
# Isolation of hosts

Which messages of a standalone host leave the rows of every other host alone. All but responses do,
in any database. A response reads its task under its host, and then reads by key alone: the target
row of the task, and the template an export reports.

## Main definitions

* `OpenVCenter.Message`, `OpenVCenter.Message.event` — the messages of the queues of a host.
* `OpenVCenter.HostKept`, `OpenVCenter.TemplateKept`, `OpenVCenter.VmKept` — the three refreshes of
  a response meet no row of another host, or do not change it.
* `OpenVCenter.Message.KeepsOthers` — the messages that keep the rows of others.

## Main results

* `OpenVCenter.hostStage_iff`, `OpenVCenter.templateStage_iff`, `OpenVCenter.vmStage_iff` — each
  refresh keeps the rows of others exactly when its predicate holds.
* `OpenVCenter.others_kept_iff` — the same for a whole message.
-/

namespace OpenVCenter

open Effect

variable {env : Env} {w t : World} {hostId : String} {resp : AgentResponse} {task : Task}
  {vmIds : List String}

/-! ## The host of a task -/

/-- The host with the node state a cluster action reports, unless its hardware takes none. -/
def nodeState (env : Env) (resp : AgentResponse) (host : Host) : Option Host :=
  if host.hardware.truthy then
    match host.hardware.asDict with
    | .ok hardware =>
      match ((hardware.get "cluster").orElse (.obj [])).asDict with
      | .ok cluster =>
        let cluster := cluster.set "state" (.str (env.py.str (resultField resp "status")))
        some { host with hardware := .obj (hardware.set "cluster" (.obj cluster)) }
      | .error _ => none
    | .error _ => none
  else none

/-- The host row a response writes, if any. -/
def nodeWrite (env : Env) (resp : AgentResponse) (task : Task) (db : Db) : Option Host :=
  if task.kind.isClusterNodeAction ∧ task.status = .succeeded ∧
      (resultField resp "status").truthy then
    (db.host task.targetId).bind (nodeState env resp)
  else none

/-- The host row a response writes is that of its host, or is refused or already there. -/
def HostKept (env : Env) (db : Db) (hostId : String) (resp : AgentResponse) (task : Task) : Prop :=
  task.targetType = .host → ∀ host ∈ nodeWrite env resp task db, host.id ≠ hostId →
    host.bindable = true → host ∈ db.hosts

/-- The state of a node writes the row of its own host. -/
lemma nodeState_eq_some {host host' : Host} (h : nodeState env resp host = some host') :
    host'.id = host.id ∧ host'.shortId = host.shortId ∧ host'.clusterId = host.clusterId := by
  unfold nodeState at h
  split at h
  · split at h
    · split at h
      · cases h
        exact ⟨rfl, rfl, rfl⟩
      · cases h
    · cases h
  · cases h

/-- So does an answer that sets it. -/
lemma nodeWrite_eq_some {db : Db} {host' : Host} (h : nodeWrite env resp task db = some host') :
    ∃ host, db.host host'.id = some host ∧ host'.shortId = host.shortId ∧
      host'.clusterId = host.clusterId := by
  unfold nodeWrite at h
  split at h
  · obtain ⟨host, hhost, hstate⟩ := Option.bind_eq_some_iff.mp h
    obtain ⟨hid, hshort, hcluster⟩ := nodeState_eq_some hstate
    refine ⟨host, ?_, hshort, hcluster⟩
    rw [hid, host_id_of_host hhost]
    exact hhost
  · cases h

/-- The write of a node state. -/
lemma applyHostActionResponse_run :
    match nodeWrite env resp task w.db with
    | some host => applyHostActionResponse env task resp w =
        (.ok (), { w with db := w.db.storeHost host })
    | none => (applyHostActionResponse env task resp w).2 = w := by
  unfold applyHostActionResponse nodeWrite
  by_cases hcond : task.kind.isClusterNodeAction = true ∧ task.status = .succeeded ∧
      (resultField resp "status").truthy = true
  · rw [if_pos hcond, if_pos hcond, Prog.read_bind_run]
    rcases w.db.host task.targetId with _ | host
    · rfl
    rw [Option.bind_some]
    unfold nodeState
    by_cases hhardware : host.hardware.truthy = true
    · rw [if_pos hhardware]
      simp only [hhardware, if_true]
      rcases host.hardware.asDict with e | hardware
      · rfl
      simp only [Prog.ofExcept_ok, Prog.pure_bind_run]
      rcases ((hardware.get "cluster").orElse (.obj [])).asDict with e | cluster
      · rfl
      · rfl
    · rw [if_neg hhardware]
      simp only [hhardware]
      rfl
  · rw [if_neg hcond, if_neg hcond]
    rfl

/-- The host part of the refresh. -/
def hostStage (env : Env) (resp : AgentResponse) (task : Task) : M Unit :=
  if task.targetType = .host then
    Prog.attempt (savepoint (applyHostActionResponse env task resp))
  else pure ()

/-- A write of a host that is there already, or not the host's own. -/
lemma storeHost_others_iff {db : Db} (hc : db.Consistent) {host host₀ : Host}
    (h₀ : db.host host.id = some host₀) (hne : host.id ≠ hostId) :
    (db.storeHost host).otherRows hostId vmIds = db.otherRows hostId vmIds ↔ host ∈ db.hosts := by
  obtain ⟨hmem, hid⟩ := hc.host_eq_some.mp h₀
  have hiff : (Table.store Host.id host db.hosts).filter (fun h => decide (h.id ≠ hostId)) =
      db.hosts.filter (fun h => decide (h.id ≠ hostId)) ↔ host ∈ db.hosts :=
    Table.filter_store_eq_iff hc.keyed.hostIds ⟨host₀, hmem, hid⟩ (by simpa using hne)
  rw [← hiff]
  constructor
  · exact congrArg OtherRows.hosts
  · intro h
    simp only [Db.otherRows, Db.storeHost, h]

/-- The host part keeps the rows of other hosts exactly when the row it writes is none of theirs,
or is refused or there already. -/
theorem hostStage_iff (hc : w.db.Consistent) :
    (othersFrame hostId vmIds).rel w (hostStage env resp task w).2 ↔
      HostKept env w.db hostId resp task := by
  unfold hostStage HostKept
  by_cases htype : task.targetType = .host
  · rw [if_pos htype, Prog.attempt_run]
    have hrun := @applyHostActionResponse_run env w resp task
    rcases hwrite : nodeWrite env resp task w.db with _ | host
    · rw [hwrite] at hrun
      refine iff_of_true ?_ fun _ host h => nomatch h
      refine rel_savepoint (fun s t h => rfl) ?_
      rw [hrun]
      exact (othersFrame hostId vmIds).refl w
    · rw [hwrite] at hrun
      obtain ⟨host₀, h₀, hshort, hcluster⟩ := nodeWrite_eq_some hwrite
      have hfits := hc.storeHost_iff h₀ hshort hcluster
      by_cases hb : host.bindable = true
      · rw [savepoint_eq_ok.mpr ⟨hrun, hfits.mpr hb⟩]
        by_cases hown : host.id = hostId
        · refine iff_of_true (others_storeHost hown) fun _ host' h' hne => ?_
          cases h'
          exact absurd hown hne
        · refine (storeHost_others_iff hc h₀ hown).trans ?_
          simp [htype, hown, hb]
      · refine iff_of_true ?_ fun _ host' h' _ hb' => ?_
        · obtain ⟨e, hback⟩ := savepoint_of_inconsistent hrun fun hc' => hb (hfits.mp hc')
          rw [hback]
          exact (othersFrame hostId vmIds).refl w
        · cases h'
          exact absurd hb' hb
  · rw [if_neg htype]
    exact iff_of_true ((othersFrame hostId vmIds).refl w) fun h => absurd h htype

/-! ## The template of an export -/

/-- The key of a reported template; a key that is no string is refused. -/
def templateKey (env : Env) (w : World) (item : Dict) : Option String :=
  if (item.get "id").truthy then
    match item.get "id" with
    | .str s => some s
    | _ => none
  else some (env.uuid w.nextId)

/-- The template row a response writes, if any. -/
def templateWrite (env : Env) (w : World) (resp : AgentResponse) (task : Task) : Option Template :=
  resp.template.bind fun item =>
    if task.status = .succeeded ∧ task.kind = .vm_export_template then
      (templateKey env w item).bind fun key => (templateRow env key task.hostId item).toOption
    else none

/-- The template row a response writes takes the place of no template of another host, or is
refused. -/
def TemplateKept (env : Env) (w : World) (hostId : String) (resp : AgentResponse) (task : Task) :
    Prop :=
  ∀ row ∈ templateWrite env w resp task, row.bindable = true →
    ∀ old ∈ w.db.templates, old.id = row.id → old.hostId = hostId

/-- The templates with a reported one. -/
def withTemplate (row : Template) (db : Db) : Db :=
  if (db.template row.id).isSome then
    { db with templates := Table.store Template.id row db.templates }
  else { db with templates := db.templates ++ [row] }

/-- The template part of the refresh. -/
def templateStage (env : Env) (resp : AgentResponse) (task : Task) : M Unit :=
  match resp.template with
  | some item =>
    if task.status = .succeeded ∧ task.kind = .vm_export_template then
      Prog.attempt (savepoint (upsertTemplate env task.hostId item))
    else pure ()
  | none => pure ()

/-- A template is written for the task's host. -/
lemma templateWrite_hostId {row : Template} (h : templateWrite env w resp task = some row) :
    row.hostId = task.hostId := by
  obtain ⟨item, -, h⟩ := Option.bind_eq_some_iff.mp h
  split at h
  · obtain ⟨key, -, hrow⟩ := Option.bind_eq_some_iff.mp h
    rcases hr : templateRow env key task.hostId item with e | row'
    · rw [hr] at hrow
      cases hrow
    · rw [hr] at hrow
      cases hrow
      exact (templateRow_hostId hr).2
  · cases h

/-- The part of the upsert behind its key. -/
lemma upsertTemplate_behind {key : String} {item : Dict} :
    match (templateRow env key hostId item).toOption with
    | some row => (do
        let row ← Prog.ofExcept (templateRow env key hostId item)
        modifyDb fun db =>
          if (db.template key).isSome then
            { db with templates := Table.store Template.id row db.templates }
          else { db with templates := db.templates ++ [row] } : M Unit) w =
        (.ok (), { w with db := withTemplate row w.db })
    | none => ((do
        let row ← Prog.ofExcept (templateRow env key hostId item)
        modifyDb fun db =>
          if (db.template key).isSome then
            { db with templates := Table.store Template.id row db.templates }
          else { db with templates := db.templates ++ [row] } : M Unit) w).2.db = w.db := by
  rcases hr : templateRow env key hostId item with e | row
  · rfl
  · obtain ⟨rfl, -⟩ := templateRow_hostId hr
    rfl

/-- The row is written over the one of its key, or added. -/
lemma upsertTemplate_run {item : Dict} :
    match (templateKey env w item).bind fun key => (templateRow env key hostId item).toOption with
    | some row => ∃ n, upsertTemplate env hostId item w =
        (.ok (), { w with nextId := n, db := withTemplate row w.db })
    | none => (upsertTemplate env hostId item w).2.db = w.db := by
  unfold upsertTemplate templateKey
  by_cases hid : (item.get "id").truthy = true
  · rw [if_pos hid, if_pos hid]
    cases hkey : item.get "id" with
    | str s =>
      have hbehind := @upsertTemplate_behind env w hostId s item
      rw [Option.bind_some]
      rcases hrow : (templateRow env s hostId item).toOption with _ | row
      · rw [hrow] at hbehind
        exact hbehind
      · rw [hrow] at hbehind
        exact ⟨w.nextId, hbehind⟩
    | null | bool _ | int _ | float _ | arr _ | obj _ => rfl
  · rw [if_neg hid, if_neg hid, Option.bind_some]
    have hbehind := @upsertTemplate_behind env { w with nextId := w.nextId + 1 } hostId
      (env.uuid w.nextId) item
    rcases hrow : (templateRow env (env.uuid w.nextId) hostId item).toOption with _ | row
    · rw [hrow] at hbehind
      exact hbehind
    · rw [hrow] at hbehind
      exact ⟨w.nextId + 1, hbehind⟩

/-- What the reported template does to the database. -/
lemma templateStage_db :
    (templateStage env resp task w).2.db = match templateWrite env w resp task with
      | some row => if (withTemplate row w.db).Consistent then withTemplate row w.db else w.db
      | none => w.db := by
  unfold templateStage templateWrite
  rcases resp.template with _ | item
  · rfl
  dsimp only
  rw [Option.bind_some]
  by_cases hcond : task.status = .succeeded ∧ task.kind = .vm_export_template
  · rw [if_pos hcond, if_pos hcond, Prog.attempt_run]
    have hrun := @upsertTemplate_run env w task.hostId item
    rcases hrow : (templateKey env w item).bind fun key =>
      (templateRow env key task.hostId item).toOption with _ | row
    · rw [hrow] at hrun
      rcases savepoint_cases (upsertTemplate env task.hostId item) w with
        ⟨a, t, hm, -, hs⟩ | ⟨e, hs⟩
      · rw [hs]
        rw [hm] at hrun
        exact hrun
      · rw [hs]
        rfl
    · rw [hrow] at hrun
      obtain ⟨n, hrun⟩ := hrun
      by_cases hc : (withTemplate row w.db).Consistent
      · rw [savepoint_eq_ok.mpr ⟨hrun, hc⟩]
        simp only [hc, if_true]
      · obtain ⟨e, hs⟩ := savepoint_of_inconsistent hrun hc
        rw [hs]
        simp only [hc, if_false]
        rfl
  · rw [if_neg hcond, if_neg hcond]
    rfl

/-- A template of a present host can be stored exactly when it fits. -/
lemma withTemplate_consistent_iff {db : Db} (hc : db.Consistent) {row : Template}
    (hhost : row.hostId ∈ db.hosts.map Host.id) :
    (withTemplate row db).Consistent ↔ row.bindable = true := by
  unfold withTemplate
  rcases hold : db.template row.id with _ | old
  · rw [if_neg (by simp)]
    constructor
    · intro hc'
      exact hc'.template_bindable (List.mem_append_right _ (List.mem_singleton_self _))
    · intro hb
      refine hc.with_templates ?_ (fun t ht => ?_) fun t ht => ?_
      · rw [List.map_append, List.nodup_append]
        refine ⟨hc.keyed.templateIds, List.nodup_singleton _, fun a ha b hb hab => ?_⟩
        obtain ⟨t, ht, hid⟩ := List.mem_map.mp ha
        rw [List.map_singleton, List.mem_singleton] at hb
        exact Table.lookup_eq_none.mp hold t ht (hid.trans (hab.trans hb))
      · rcases List.mem_append.mp ht with ht | ht
        · exact hc.keyed.templateHost t ht
        · rwa [List.mem_singleton.mp ht]
      · rcases List.mem_append.mp ht with ht | ht
        · exact hc.template_bindable ht
        · rwa [List.mem_singleton.mp ht]
  · rw [if_pos (by simp)]
    obtain ⟨hmem, hid⟩ := hc.template_eq_some.mp hold
    constructor
    · intro hc'
      exact hc'.template_bindable (Table.mem_store.mpr (Or.inr ⟨rfl, old, hmem, hid⟩))
    · intro hb
      refine hc.with_templates ?_ (fun t ht => ?_) fun t ht => ?_
      · rw [Table.map_key_store]
        exact hc.keyed.templateIds
      · rcases Table.mem_store.mp ht with ⟨ht, -⟩ | ⟨rfl, -⟩
        · exact hc.keyed.templateHost t ht
        · exact hhost
      · rcases Table.mem_store.mp ht with ⟨ht, -⟩ | ⟨rfl, -⟩
        · exact hc.template_bindable ht
        · exact hb

/-- A stored template of the host shows among those of others exactly when it takes the place of
one. -/
lemma withTemplate_others_iff {db : Db} (hc : db.Consistent) {row : Template}
    (hhost : row.hostId = hostId) :
    (withTemplate row db).otherRows hostId vmIds = db.otherRows hostId vmIds ↔
      ∀ old ∈ db.templates, old.id = row.id → old.hostId = hostId := by
  unfold withTemplate
  rcases hold : db.template row.id with _ | old
  · rw [if_neg (by simp)]
    refine iff_of_true ?_ fun old hmem hid => absurd hid (Table.lookup_eq_none.mp hold old hmem)
    simp [Db.otherRows, List.filter_append, hhost]
  · rw [if_pos (by simp)]
    obtain ⟨hmem, hid⟩ := hc.template_eq_some.mp hold
    constructor
    · intro hsame x hx hxid
      by_contra hne
      have htemplates : (Table.store Template.id row db.templates).filter
          (fun t => decide (t.hostId ≠ hostId)) =
          db.templates.filter fun t => decide (t.hostId ≠ hostId) :=
        congrArg OtherRows.templates hsame
      have hin : x ∈ (Table.store Template.id row db.templates).filter
          fun t => decide (t.hostId ≠ hostId) := by
        rw [htemplates]
        exact List.mem_filter.mpr ⟨hx, by simpa using hne⟩
      rcases Table.mem_store.mp (List.mem_of_mem_filter hin) with ⟨-, hother⟩ | ⟨rfl, -⟩
      · exact hother hxid
      · exact hne hhost
    · intro hown
      have htemplates : (Table.store Template.id row db.templates).filter
          (fun t => decide (t.hostId ≠ hostId)) =
          db.templates.filter fun t => decide (t.hostId ≠ hostId) :=
        Table.filter_store (by simp [hhost]) fun x hx hxid => by simp [hown x hx hxid]
      simp only [Db.otherRows, htemplates]

/-- The template part keeps the rows of other hosts exactly when the row it writes is refused or
takes the place of none of theirs. -/
theorem templateStage_iff (hc : w.db.Consistent) (htask : task.hostId = hostId)
    (hhost : hostId ∈ w.db.hosts.map Host.id) :
    (othersFrame hostId vmIds).rel w (templateStage env resp task w).2 ↔
      TemplateKept env w hostId resp task := by
  unfold TemplateKept othersFrame Frame.same
  simp only [templateStage_db]
  rcases hwrite : templateWrite env w resp task with _ | row
  · exact iff_of_true rfl fun row h => nomatch h
  have hrow : row.hostId = hostId := (templateWrite_hostId hwrite).trans htask
  have hfits : (withTemplate row w.db).Consistent ↔ row.bindable = true :=
    withTemplate_consistent_iff hc (by rwa [hrow])
  dsimp only
  by_cases hb : row.bindable = true
  · rw [if_pos (hfits.mpr hb), withTemplate_others_iff hc hrow]
    simp [hb]
  · rw [if_neg fun hc' => hb (hfits.mp hc')]
    refine iff_of_true rfl fun row' h hb' => ?_
    cases h
    exact absurd hb' hb

/-! ## The VM of a task -/

/-- The placeholder with what the response says of it. -/
def stampedRow (resp : AgentResponse) (vm : Vm) : Vm :=
  { vm with
    vmUuid := (nonEmpty resp.vmId).or vm.vmUuid
    state := .str ((nonEmpty resp.vmState).getD "Off") }

/-- The placeholder can be stamped, and the objects attached to the response can be written. -/
def Stamps (env : Env) (w : World) (hostId : String) (resp : AgentResponse) (vm : Vm) : Prop :=
  ∃ t, stampPlaceholder env hostId resp vm w = (.ok (), t) ∧ t.db.Consistent

/-- The target row of the task belongs to its host, or the response changes nothing there: it is no
create or clone that fails or stamps another GUID or state, no delete that succeeds, no power action
that fails and rolls its state back. -/
def VmKept (env : Env) (w : World) (hostId : String) (resp : AgentResponse) (task : Task) : Prop :=
  ∀ vm ∈ w.db.vm task.targetId, vm.hostId ≠ hostId →
    (task.kind.makesPlaceholder = true →
      task.status = .succeeded ∧ (Stamps env w hostId resp vm → stampedRow resp vm = vm)) ∧
    (task.kind = .vm_delete → task.status ≠ .succeeded) ∧
    ∀ transitional ∈ transitionalState task.kind, task.status = .failed → task.targetType = .vm →
      vm.state.isStr transitional = false

/-- The frame of what keeps the keys of the VMs distinct and the rows of others. -/
def ownVmsFrame (hostId : String) (vmIds : List String) : Frame World :=
  Frame.under (fun w => (w.db.vms.map Vm.id).Nodup) (othersFrame hostId vmIds)

/-- A row of the host is updated. -/
lemma ownVmsFrame_storeVm {vm vm' : Vm} (hmem : vm ∈ w.db.vms) (hid : vm'.id = vm.id)
    (hhost : vm.hostId = hostId) (hhost' : vm'.hostId = hostId) :
    (ownVmsFrame hostId vmIds).rel w { w with db := w.db.storeVm vm' } := by
  intro hn
  refine ⟨?_, others_storeVm (fun x hx hxid => ?_) hhost'⟩
  · simp only [Db.storeVm, Table.map_key_store]
    exact hn
  · rw [Table.eq_of_mem_of_key hn hx hmem (hxid.trans hid)]
    exact hhost

/-- The objects attached to a response are written to rows of its host. -/
lemma keeps_own_refreshItem {host : Host} (hid : host.id = hostId) (updated : Bool) (raw : Dict) :
    Keeps (ownVmsFrame hostId vmIds) (refreshItem env host updated raw) := by
  refine keeps_bind (keeps_ofExcept _) fun item => ?_
  split
  · split
    · refine keeps_bind keeps_flush fun _ => keeps_read_bind fun w => ?_
      refine rel_bind (keeps_ofExcept _ w) fun row t ht _ => ?_
      obtain ⟨hrow, rfl⟩ := Prog.ofExcept_eq_ok.mp ht
      cases row with
      | none => exact keeps_pure _ _
      | some vm =>
        obtain ⟨hmem, -, hhost⟩ := vmByGuid_eq_some hrow
        refine rel_bind (keeps_ofExcept _ t) fun vm' t' ht' _ => ?_
        obtain ⟨hwrite, rfl⟩ := Prog.ofExcept_eq_ok.mp ht'
        obtain ⟨hid', hhost'⟩ := writeVmRow_id hwrite
        refine rel_bind (ownVmsFrame_storeVm hmem hid' (hhost.trans hid) (hhost'.trans hid)) ?_
        exact fun _ t _ _ => keeps_bind (keeps_setVmState (fun _ _ hn => ⟨hn, rfl⟩) _ _)
          (fun _ => keeps_pure _) t
    · exact keeps_raise _
  · exact keeps_pure _

/-- The VMs of an answer are those of its host. -/
lemma keeps_own_applyResponseVmStatus (resp : AgentResponse) :
    Keeps (ownVmsFrame hostId vmIds) (applyResponseVmStatus env hostId resp) := by
  unfold applyResponseVmStatus
  split
  · exact keeps_pure _
  · refine keeps_bind keeps_read fun w => ?_
    split
    · exact keeps_pure _
    · rename_i host hhost
      exact keeps_foldlM (fun _ _ _ => keeps_own_refreshItem (host_id_of_host hhost) _ _) _

/-- A success writes rows of its host. -/
lemma keeps_own_applySuccess (resp : AgentResponse) :
    Keeps (ownVmsFrame hostId vmIds) (applySuccess env hostId resp) := by
  refine keeps_bind (keeps_own_applyResponseVmStatus resp) fun applied => ?_
  split
  · split
    · exact keeps_pure _
    · refine keeps_bind keeps_flush fun _ => keeps_read_bind fun w => ?_
      refine rel_bind (keeps_ofExcept _ w) fun row t ht _ => ?_
      obtain ⟨hrow, rfl⟩ := Prog.ofExcept_eq_ok.mp ht
      cases row with
      | none => exact keeps_pure _ _
      | some vm =>
        obtain ⟨hmem, -, hhost⟩ := vmByGuid_eq_some hrow
        refine rel_bind (ownVmsFrame_storeVm hmem rfl hhost hhost) ?_
        exact fun _ t _ _ => keeps_setVmState (fun _ _ hn => ⟨hn, rfl⟩) _ _ t
  · exact keeps_pure _

section VmStage

variable {vm : Vm} {id : String}

/-- A VM of another host is written: the row has to be there already. -/
lemma storeVm_others_iff {db : Db} (hc : db.Consistent) {vm' : Vm} (hvm : db.vm id = some vm)
    (hid : vm'.id = vm.id) (hne : vm'.hostId ≠ hostId) :
    (db.storeVm vm').otherRows hostId vmIds = db.otherRows hostId vmIds ↔ vm' = vm := by
  obtain ⟨hmem, -⟩ := hc.vm_eq_some.mp hvm
  have hiff : (Table.store Vm.id vm' db.vms).filter (fun v => decide (v.hostId ≠ hostId)) =
      db.vms.filter (fun v => decide (v.hostId ≠ hostId)) ↔ vm' ∈ db.vms :=
    Table.filter_store_eq_iff hc.keyed.vmIds ⟨vm, hmem, hid.symm⟩ (by simpa using hne)
  have hrow : vm' ∈ db.vms ↔ vm' = vm := by
    refine ⟨fun h => Table.eq_of_mem_of_key hc.keyed.vmIds h hmem hid, fun h => ?_⟩
    rw [h]
    exact hmem
  rw [← hrow, ← hiff]
  constructor
  · exact congrArg OtherRows.vms
  · intro h
    simp only [Db.otherRows, Db.storeVm, h]

/-- A deleted VM is missed by others exactly when it is one of theirs. -/
lemma deleteVm_others_iff {db : Db} (hc : db.Consistent) :
    (db.deleteVm id).otherRows hostId (db.otherVmIds hostId) =
      db.otherRows hostId (db.otherVmIds hostId) ↔ ∀ vm ∈ db.vm id, vm.hostId = hostId := by
  constructor
  · intro hsame vm hvm
    obtain ⟨hmem, hid⟩ := hc.vm_eq_some.mp hvm
    by_contra hne
    have hvms : (db.deleteVm id).vms.filter (fun v => decide (v.hostId ≠ hostId)) =
        db.vms.filter fun v => decide (v.hostId ≠ hostId) := congrArg OtherRows.vms hsame
    have hin : vm ∈ (db.deleteVm id).vms.filter fun v => decide (v.hostId ≠ hostId) := by
      rw [hvms]
      exact List.mem_filter.mpr ⟨hmem, by simpa using hne⟩
    obtain ⟨-, hkept⟩ := Table.mem_deleteWhere.mp (List.mem_of_mem_filter hin)
    simp [hid] at hkept
  · intro hown
    refine others_deleteVm hc (fun x hx hxid => hown x (hc.vm_eq_some.mpr ⟨hx, hxid⟩)) ?_
    intro hmem
    obtain ⟨x, hx, hxid⟩ := List.mem_map.mp hmem
    obtain ⟨hx, hne⟩ := List.mem_filter.mp hx
    exact absurd (hown x (hc.vm_eq_some.mpr ⟨hx, hxid⟩)) (by simpa using hne)

/-- What stamping does behind the write of the row. -/
def stampRest (env : Env) (hostId : String) (resp : AgentResponse) (vm : Vm) : M Unit := do
  setVmState env vm.id (.str ((nonEmpty resp.vmState).getD "Off"))
  flush
  let _ ← applyResponseVmStatus env hostId resp

/-- The stamp first, and then the rest. -/
lemma stampPlaceholder_run : stampPlaceholder env hostId resp vm w =
    stampRest env hostId resp vm { w with db := w.db.storeVm (stampedRow resp vm) } := rfl

/-- The rest writes VMs of the host. -/
lemma keeps_own_stampRest : Keeps (ownVmsFrame hostId vmIds) (stampRest env hostId resp vm) := by
  refine keeps_bind (keeps_setVmState (fun _ _ hn => ⟨hn, rfl⟩) _ _) fun _ => ?_
  refine keeps_bind keeps_flush fun _ => ?_
  exact keeps_bind (keeps_own_applyResponseVmStatus resp) fun _ => keeps_pure _

/-- A stamped placeholder. -/
lemma stampStage_iff (hc : w.db.Consistent) (hvm : w.db.vm id = some vm) :
    (othersFrame hostId vmIds).rel w (savepoint (stampPlaceholder env hostId resp vm) w).2 ↔
      (vm.hostId ≠ hostId → Stamps env w hostId resp vm → stampedRow resp vm = vm) := by
  obtain ⟨hmem, -⟩ := hc.vm_eq_some.mp hvm
  have hkeys : ((w.db.storeVm (stampedRow resp vm)).vms.map Vm.id).Nodup := by
    simp only [Db.storeVm, Table.map_key_store]
    exact hc.keyed.vmIds
  have hrest := (@keeps_own_stampRest env hostId resp vmIds vm
    { w with db := w.db.storeVm (stampedRow resp vm) } hkeys).2
  rw [← stampPlaceholder_run] at hrest
  rcases savepoint_cases (stampPlaceholder env hostId resp vm) w with
    ⟨⟨⟩, t, hm, hct, hs⟩ | ⟨e, hs⟩
  · rw [hm] at hrest
    rw [hs]
    have hstamps : Stamps env w hostId resp vm := ⟨t, hm, hct⟩
    have hrel : (othersFrame hostId vmIds).rel w t ↔
        (w.db.storeVm (stampedRow resp vm)).otherRows hostId vmIds =
          w.db.otherRows hostId vmIds := by
      unfold othersFrame Frame.same
      dsimp only
      rw [show t.db.otherRows hostId vmIds = _ from hrest]
    by_cases hown : vm.hostId = hostId
    · refine iff_of_true (hrel.mpr ?_) fun hne => absurd hown hne
      have hid : (stampedRow resp vm).id = vm.id := rfl
      exact (ownVmsFrame_storeVm hmem hid hown hown hc.keyed.vmIds).2
    · have hid : (stampedRow resp vm).id = vm.id := rfl
      refine hrel.trans ((storeVm_others_iff hc hvm hid hown).trans ?_)
      exact ⟨fun h _ _ => h, fun h => h hown hstamps⟩
  · rw [hs]
    refine iff_of_true ((othersFrame hostId vmIds).refl w) ?_
    rintro - ⟨t, hm, hct⟩
    rw [savepoint_eq_ok.mpr ⟨hm, hct⟩] at hs
    cases hs

/-- The rollback of an optimistic state returns; it rewrites one row or none. -/
lemma revertState_db : ∃ t, revertState env task w = (.ok (), t) ∧ t.db =
    match failedStateRevert task.kind, transitionalState task.kind, w.db.vm task.targetId with
    | some revert, some transitional, some vm =>
      if task.targetType = .vm ∧ vm.state.isStr transitional then
        w.db.storeVm { vm with state := .str revert }
      else w.db
    | _, _, _ => w.db := by
  refine ⟨_, revertState_eq, ?_⟩
  unfold revertedWorld
  rcases failedStateRevert task.kind with _ | revert
  · rfl
  rcases transitionalState task.kind with _ | transitional
  · rfl
  rcases w.db.vm task.targetId with _ | vm
  · rfl
  · dsimp only
    split_ifs <;> rfl

/-- A rolled-back power action.

**Proof sketch.** The reverted state is written to the row of the task's VM, if the row shows the
transition of its kind. Then compare: the row of another host changes exactly in that case, since
the state to revert to is another one. -/
lemma revertStage_iff (hc : w.db.Consistent) :
    (othersFrame hostId vmIds).rel w (savepoint (revertState env task) w).2 ↔
      ∀ vm ∈ w.db.vm task.targetId, vm.hostId ≠ hostId →
        ∀ transitional ∈ transitionalState task.kind, task.targetType = .vm →
          vm.state.isStr transitional = false := by
  obtain ⟨t, hrun, hdb⟩ := @revertState_db env w task
  have hsame : t.db = w.db →
      (othersFrame hostId vmIds).rel w (savepoint (revertState env task) w).2 := by
    intro h
    rw [savepoint_eq_ok.mpr ⟨hrun, h ▸ hc⟩]
    exact congrArg (fun db => Db.otherRows db hostId vmIds) h
  rcases htr : transitionalState task.kind with _ | transitional
  · refine iff_of_true (hsame ?_) fun vm _ _ tr h => nomatch h
    rcases hrev : failedStateRevert task.kind with _ | revert
    · simpa only [hrev] using hdb
    · simpa only [hrev, htr] using hdb
  obtain ⟨revert, hrev, hne⟩ := revert_of_transitional htr
  rcases hvm : w.db.vm task.targetId with _ | vm
  · refine iff_of_true (hsame ?_) fun vm h => nomatch h
    simpa only [hvm, htr, hrev] using hdb
  simp only [hvm, htr, hrev] at hdb
  by_cases hcond : task.targetType = .vm ∧ vm.state.isStr transitional = true
  · rw [if_pos hcond] at hdb
    have hct : t.db.Consistent := by
      rw [hdb]
      exact storeVm_reverted_consistent hc hvm (failedStateRevert_fits hrev)
    rw [savepoint_eq_ok.mpr ⟨hrun, hct⟩]
    have hrel : (othersFrame hostId vmIds).rel w t ↔
        (w.db.storeVm { vm with state := .str revert }).otherRows hostId vmIds =
          w.db.otherRows hostId vmIds := by
      unfold othersFrame Frame.same
      dsimp only
      rw [hdb]
    have hid : { vm with state := .str revert }.id = vm.id := rfl
    refine hrel.trans ?_
    by_cases hown : vm.hostId = hostId
    · obtain ⟨hmem, -⟩ := hc.vm_eq_some.mp hvm
      refine iff_of_true ?_ fun vm' h hother => ?_
      · exact (ownVmsFrame_storeVm hmem hid hown hown hc.keyed.vmIds).2
      · cases h
        exact absurd hown hother
    · refine iff_of_false (fun h => ?_) fun h => ?_
      · have hrow := (storeVm_others_iff hc hvm hid hown).mp h
        have hstate : vm.state = .str revert := (congrArg Vm.state hrow).symm
        obtain ⟨-, htrue⟩ := hcond
        rw [hstate] at htrue
        exact hne (by simpa [Json.isStr] using htrue)
      · have hfalse := h vm rfl hown transitional rfl hcond.1
        rw [hcond.2] at hfalse
        cases hfalse
  · rw [if_neg hcond] at hdb
    refine iff_of_true (hsame hdb) fun vm' h _ tr htr' htype => ?_
    cases h
    cases htr'
    simpa using fun htrue => hcond ⟨htype, htrue⟩

/-- The VM part of the refresh. -/
def vmStage (env : Env) (hostId : String) (resp : AgentResponse) (task : Task) : M Unit :=
  Prog.attempt (savepoint (applyResponseState env hostId resp task))

/-- What a create or clone does with its placeholder. -/
lemma applyResponseState_placeholder (hmake : task.kind.makesPlaceholder = true) :
    applyResponseState env hostId resp task w = match w.db.vm task.targetId with
      | none => (.ok (), w)
      | some vm => (if task.status = .succeeded then stampPlaceholder env hostId resp vm
          else dropPlaceholder vm) w := by
  unfold applyResponseState
  rw [if_pos hmake, Prog.read_bind_run]
  rcases w.db.vm task.targetId with _ | vm
  · rfl
  · rfl

/-- The VM part of a create or clone. -/
lemma vmStage_placeholder_iff (hc : w.db.Consistent)
    (hstatus : task.status = .succeeded ∨ task.status = .failed)
    (hmake : task.kind.makesPlaceholder = true) :
    (othersFrame hostId (w.db.otherVmIds hostId)).rel w
        (savepoint (applyResponseState env hostId resp task) w).2 ↔
      ∀ vm ∈ w.db.vm task.targetId, vm.hostId ≠ hostId → task.status = .succeeded ∧
        (Stamps env w hostId resp vm → stampedRow resp vm = vm) := by
  have hrun := @applyResponseState_placeholder env w hostId resp task hmake
  rcases hvm : w.db.vm task.targetId with _ | vm
  · rw [hvm] at hrun
    rw [savepoint_eq_ok.mpr ⟨hrun, hc⟩]
    refine iff_of_true ((othersFrame _ _).refl w) ?_
    rintro vm ⟨⟩
  rw [hvm] at hrun
  dsimp only at hrun
  rcases hstatus with hsucc | hfail
  · rw [if_pos hsucc] at hrun
    rw [savepoint_congr hrun, stampStage_iff hc hvm]
    simp [hsucc]
  · rw [if_neg (by simp [hfail]), dropPlaceholder_run] at hrun
    rw [savepoint_eq_ok.mpr ⟨hrun, hc.deleteVm _⟩]
    refine (deleteVm_others_iff hc).trans ?_
    have hid : vm.id = task.targetId := Table.key_of_lookup hvm
    simp [hid, hvm, hfail]

/-- A successful delete removes the target row. -/
lemma applyDelete_db (hostId : String) (task : Task) (w : World) :
    ∃ t, applyDelete hostId task w = (.ok (), t) ∧ t.db = w.db.deleteVm task.targetId := by
  unfold applyDelete
  rw [Prog.read_bind_run]
  rcases (w.db.vm task.targetId).bind fun gone => gone.vmUuid with _ | u
  · exact ⟨_, rfl, rfl⟩
  · dsimp only
    unfold markVmDeleted
    split
    · exact ⟨_, rfl, rfl⟩
    · exact ⟨_, rfl, rfl⟩

/-- The VM part keeps the rows of other hosts exactly when it has nothing to change there.

**Proof sketch.** By the branch the answer takes. A create or clone is about its placeholder, a
delete removes one row, a success writes rows of its own host only, and a failure reverts the
target. -/
theorem vmStage_iff (hc : w.db.Consistent)
    (hstatus : task.status = .succeeded ∨ task.status = .failed) :
    (othersFrame hostId (w.db.otherVmIds hostId)).rel w (vmStage env hostId resp task w).2 ↔
      VmKept env w hostId resp task := by
  unfold vmStage VmKept
  rw [Prog.attempt_run]
  by_cases hmake : task.kind.makesPlaceholder = true
  · have hnone : transitionalState task.kind = none := by
      revert hmake
      cases task.kind <;> simp [TaskKind.makesPlaceholder, transitionalState]
    have hkind : task.kind ≠ .vm_delete := by
      rintro h
      rw [h] at hmake
      cases hmake
    rw [vmStage_placeholder_iff hc hstatus hmake]
    simp [hmake, hnone, hkind]
  by_cases hdel : task.kind = .vm_delete ∧ task.status = .succeeded
  · obtain ⟨t, hdelete, hdb⟩ := applyDelete_db hostId task w
    have hrun : applyResponseState env hostId resp task w = (.ok (), t) := by
      unfold applyResponseState
      rw [if_neg hmake, if_pos hdel]
      exact hdelete
    rw [savepoint_eq_ok.mpr ⟨hrun, hdb ▸ hc.deleteVm _⟩]
    unfold othersFrame Frame.same
    dsimp only
    rw [hdb, deleteVm_others_iff hc]
    simp [hdel, transitionalState, TaskKind.makesPlaceholder]
  rcases hstatus with hsucc | hfail
  · have hrun : applyResponseState env hostId resp task w = applySuccess env hostId resp w := by
      unfold applyResponseState
      rw [if_neg hmake, if_neg hdel, if_pos hsucc]
    have hkind : task.kind ≠ .vm_delete := fun h => hdel ⟨h, hsucc⟩
    refine iff_of_true ?_ fun vm _ _ => ?_
    · refine rel_savepoint (fun _ _ _ => rfl) ?_
      rw [hrun]
      exact (keeps_own_applySuccess resp w hc.keyed.vmIds).2
    · simp [hmake, hkind, hsucc]
  · have hrun : applyResponseState env hostId resp task w = revertState env task w := by
      unfold applyResponseState
      rw [if_neg hmake, if_neg hdel, if_neg (by simp [hfail]), if_pos hfail]
    rw [savepoint_congr hrun, revertStage_iff hc]
    simp [hmake, hfail]

end VmStage

/-! ## The whole response -/

/-- The world once a response has ended its task. -/
def endedWorld (env : Env) (w : World) (resp : AgentResponse) (task : Task) : World :=
  { atStart w with db := lifecycleDb env w.now resp.stripped task w.db }

/-- A response keeps the rows of other hosts: once its task has ended, none of the three refreshes
changes one. -/
def ResponseKeepsOthers (env : Env) (w : World) (hostId : String) (resp : AgentResponse) : Prop :=
  ∀ task ∈ w.db.taskOfHost hostId resp.id, isProgress resp task.status = false →
    Lands env w.now resp → StampFits env w.db hostId resp task →
    let w₁ := endedWorld env w resp task
    let ended := endedTask env w.now resp.stripped task
    HostKept env w₁.db hostId resp.stripped ended ∧
      TemplateKept env w₁ hostId resp.stripped ended ∧
      VmKept env w₁ hostId resp.stripped ended

section Stages

/-- The refresh as its stages. -/
lemma applyBestEffort_stages : applyBestEffort env hostId resp task w =
    (.ok (), (vmStage env hostId resp task
      (templateStage env resp task (hostStage env resp task w).2).2).2) := by
  have hstages : applyBestEffort env hostId resp task =
      hostStage env resp task >>= fun _ => templateStage env resp task >>= fun _ =>
        vmStage env hostId resp task := rfl
  have hhost : Returns (hostStage env resp task) := by
    unfold hostStage
    split
    · exact returns_attempt _
    · exact returns_pure _
  have htemplate : Returns (templateStage env resp task) := by
    unfold templateStage
    split
    · split
      · exact returns_attempt _
      · exact returns_pure _
    · exact returns_pure _
  obtain ⟨⟨⟩, h₁⟩ := hhost w
  obtain ⟨⟨⟩, h₂⟩ := htemplate (hostStage env resp task w).2
  rw [hstages, Prog.bind_run_ok h₁, Prog.bind_run_ok h₂]
  rfl

/-- The host part writes hosts only. -/
lemma hostStage_frame :
    Keeps (Frame.same fun w : World => { w.db with hosts := [] }) (hostStage env resp task) := by
  unfold hostStage
  split
  · exact keeps_attempt (keeps_savepoint (fun _ _ _ => rfl)
      (keeps_applyHostActionResponse (fun _ _ _ => rfl) _ _))
  · exact keeps_pure _

/-- The stage of the host keeps its keys. -/
lemma hostStage_keys :
    Keeps (Frame.same fun w : World => (w.nextId, w.db.hosts.map Host.id))
      (hostStage env resp task) := by
  unfold hostStage
  split
  · refine keeps_attempt (keeps_savepoint (fun s t h => ?_)
      (keeps_applyHostActionResponse (fun w host _ => ?_) _ _))
    · exact Prod.ext (Prod.mk.inj h).1 rfl
    · exact Prod.ext rfl Table.map_key_store
  · exact keeps_pure _

/-- The template part writes templates only. -/
lemma templateStage_frame :
    Keeps (Frame.same fun w : World => { w.db with templates := [] })
      (templateStage env resp task) := by
  unfold templateStage
  split
  · split
    · exact keeps_attempt (keeps_savepoint (fun _ _ _ => rfl)
        (keeps_upsertTemplate (fun _ _ _ => rfl) (fun _ _ => rfl) _ _))
    · exact keeps_pure _
  · exact keeps_pure _

/-- The VM part writes VMs and what goes with them. -/
lemma vmStage_frame :
    Keeps (Frame.same fun w : World => { w.db with vms := [], thumbnails := [], vmMetrics := [] })
      (vmStage env hostId resp task) :=
  keeps_attempt (keeps_savepoint (fun _ _ _ => rfl)
    (keeps_applyResponseState (fun _ _ => rfl) (fun _ _ => rfl) (fun _ _ => rfl)
      (fun _ _ _ _ => rfl) hostId resp))

/-- It keeps the constraints. -/
lemma hostStage_consistent (hc : w.db.Consistent) :
    (hostStage env resp task w).2.db.Consistent := by
  unfold hostStage
  split
  · exact savepoint_consistent hc
  · exact hc

/-- So does the stage of the template. -/
lemma templateStage_consistent (hc : w.db.Consistent) :
    (templateStage env resp task w).2.db.Consistent := by
  unfold templateStage
  rcases resp.template with _ | item
  · exact hc
  · dsimp only
    split
    · exact savepoint_consistent hc
    · exact hc

/-- The response of a create or clone goes by the first two stages. -/
lemma placeholder_stages (hc : w.db.Consistent) (hmake : task.kind.makesPlaceholder = true) :
    (hostStage env resp task w).2 = w ∧ (templateStage env resp task w).2 = w := by
  have hcluster : task.kind.isClusterNodeAction = false := by
    revert hmake
    cases task.kind <;> decide
  have hexport : task.kind ≠ .vm_export_template := by
    rintro h
    rw [h] at hmake
    cases hmake
  constructor
  · unfold hostStage applyHostActionResponse
    rw [if_neg (c := task.kind.isClusterNodeAction ∧ _) (by simp [hcluster])]
    split
    · rw [Prog.attempt_run, savepoint_eq_ok.mpr ⟨Prog.pure_run _ w, hc⟩]
    · rfl
  · unfold templateStage
    rcases resp.template with _ | item
    · rfl
    · dsimp only
      rw [if_neg fun h => hexport h.2]
      rfl

/-- Three steps, each with fields of its own to write. -/
lemma otherRows_steps {db db₁ db₂ db₃ : Db}
    (h₁ : { db₁ with hosts := [] } = { db with hosts := [] })
    (h₂ : { db₂ with templates := [] } = { db₁ with templates := [] })
    (h₃ : { db₃ with vms := [], thumbnails := [], vmMetrics := [] } =
      { db₂ with vms := [], thumbnails := [], vmMetrics := [] }) :
    db₃.otherRows hostId vmIds = db.otherRows hostId vmIds ↔
      db₁.otherRows hostId vmIds = db.otherRows hostId vmIds ∧
      db₂.otherRows hostId vmIds = db₁.otherRows hostId vmIds ∧
      db₃.otherRows hostId vmIds = db₂.otherRows hostId vmIds := by
  refine ⟨fun h => ?_, fun ⟨h, h', h''⟩ => h''.trans (h'.trans h)⟩
  have r₁ := congrArg (fun db => Db.otherRows db hostId vmIds) h₁
  have r₂ := congrArg (fun db => Db.otherRows db hostId vmIds) h₂
  have r₃ := congrArg (fun db => Db.otherRows db hostId vmIds) h₃
  simp only [Db.otherRows, OtherRows.mk.injEq] at h r₁ r₂ r₃ ⊢
  simp_all

/-- The best-effort part keeps the rows of others exactly when each stage does: they write
different tables.

**Proof sketch.** The three stages write different tables, so the rows of others are kept through
all of them exactly when they are kept by each. What the later stages read of the earlier ones is
unchanged, so each condition is one on the first world. -/
theorem bestEffort_iff (hc : w.db.Consistent) (htask : task.hostId = hostId)
    (hhost : hostId ∈ w.db.hosts.map Host.id)
    (hstatus : task.status = .succeeded ∨ task.status = .failed) :
    (othersFrame hostId (w.db.otherVmIds hostId)).rel w
        (applyBestEffort env hostId resp task w).2 ↔
      HostKept env w.db hostId resp task ∧ TemplateKept env w hostId resp task ∧
        VmKept env w hostId resp task := by
  rw [applyBestEffort_stages]
  dsimp only
  have hstage₁ := @hostStage_iff env w hostId resp task (w.db.otherVmIds hostId) hc
  have hframe₁ : { (hostStage env resp task w).2.db with hosts := [] } =
    { w.db with hosts := [] } := hostStage_frame w
  have hkeys := @hostStage_keys env resp task w
  have hc₁ := @hostStage_consistent env w resp task hc
  have hquiet₁ := fun hmake => (@placeholder_stages env w resp task hc hmake).1
  generalize (hostStage env resp task w).2 = w₁ at hstage₁ hframe₁ hkeys hc₁ hquiet₁ ⊢
  obtain ⟨hnext, hids⟩ := Prod.mk.inj hkeys
  have hstage₂ := @templateStage_iff env w₁ hostId resp task (w.db.otherVmIds hostId) hc₁ htask
    (hids ▸ hhost)
  have hframe₂ : { (templateStage env resp task w₁).2.db with templates := [] } =
    { w₁.db with templates := [] } := templateStage_frame w₁
  have hc₂ := @templateStage_consistent env w₁ resp task hc₁
  have hquiet₂ := fun hmake => (@placeholder_stages env w₁ resp task hc₁ hmake).2
  generalize (templateStage env resp task w₁).2 = w₂ at hstage₂ hframe₂ hc₂ hquiet₂ ⊢
  have hvms₁ : w₁.db.vms = w.db.vms := by simpa using congrArg Db.vms hframe₁
  have hvms : w₂.db.vms = w.db.vms := by simpa [hvms₁] using congrArg Db.vms hframe₂
  have hstage₃ := @vmStage_iff env w₂ hostId resp task hc₂ hstatus
  have hids₂ : w₂.db.otherVmIds hostId = w.db.otherVmIds hostId := by
    simp only [Db.otherVmIds, hvms]
  rw [hids₂] at hstage₃
  have hframe₃ := @vmStage_frame env hostId resp task w₂
  have htemplate : TemplateKept env w₁ hostId resp task ↔
      TemplateKept env w hostId resp task := by
    have hrows : w₁.db.templates = w.db.templates := by
      simpa using congrArg Db.templates hframe₁
    simp only [TemplateKept, templateWrite, templateKey, hrows, hnext]
  have hvm : VmKept env w₂ hostId resp task ↔ VmKept env w hostId resp task := by
    by_cases hmake : task.kind.makesPlaceholder = true
    · rw [hquiet₂ hmake, hquiet₁ hmake]
    · simp [VmKept, Db.vm, hvms, hmake]
  rw [← hstage₁, ← htemplate, ← hstage₂, ← hvm, ← hstage₃]
  exact otherRows_steps hframe₁ hframe₂ hframe₃

/-- The stamp of an agent version is of the host's own row, and of no row the refreshes read. -/
lemma stamp_kept (hstatus : task.status = terminalStatus resp)
    (h : stampAgentVersion env hostId resp task w = (.ok (), t)) :
    t.db.otherRows hostId vmIds = w.db.otherRows hostId vmIds ∧
      t.db.otherVmIds hostId = w.db.otherVmIds hostId ∧
      t.db.hosts.map Host.id = w.db.hosts.map Host.id ∧
      (HostKept env t.db hostId resp task ↔ HostKept env w.db hostId resp task) ∧
      (TemplateKept env t hostId resp task ↔ TemplateKept env w hostId resp task) ∧
      (VmKept env t hostId resp task ↔ VmKept env w hostId resp task) := by
  rw [stampAgentVersion_run hstatus] at h
  split_ifs at h with hcond
  · rcases hhost : w.db.host hostId with _ | host
    · rw [hhost] at h
      cases h
      exact ⟨rfl, rfl, rfl, Iff.rfl, Iff.rfl, Iff.rfl⟩
    · rw [hhost] at h
      obtain ⟨-, rfl⟩ := flush_eq_ok.mp h
      have hid : host.id = hostId := host_id_of_host hhost
      refine ⟨others_storeHost hid, rfl, Table.map_key_store, ?_, ?_, ?_⟩
      · simp [HostKept, nodeWrite, hcond.1, TaskKind.isClusterNodeAction]
      · simp [TemplateKept, templateWrite, hcond.1]
      · simp [VmKept, Db.storeHost, Db.vm, hcond.1, TaskKind.makesPlaceholder,
          transitionalState]
  · cases h
    exact ⟨rfl, rfl, rfl, Iff.rfl, Iff.rfl, Iff.rfl⟩

/-- The refresh of a response whose stamp fits. -/
lemma applyRefresh_others_iff (hc : w.db.Consistent) (htask : task.hostId = hostId)
    (hhost : hostId ∈ w.db.hosts.map Host.id) (hstatus : task.status = terminalStatus resp)
    (hfits : StampFits env w.db hostId resp task) :
    (othersFrame hostId (w.db.otherVmIds hostId)).rel w
        (applyRefresh env hostId resp task w).2 ↔
      HostKept env w.db hostId resp task ∧ TemplateKept env w hostId resp task ∧
        VmKept env w hostId resp task := by
  obtain ⟨t, ht⟩ := (stampAgentVersion_returns_iff hc hstatus).mpr hfits
  obtain ⟨hrows, hids, hkeys, hhostKept, htemplateKept, hvmKept⟩ :=
    @stamp_kept env w t hostId resp task (w.db.otherVmIds hostId) hstatus ht
  have hended : task.status = .succeeded ∨ task.status = .failed := by
    rw [hstatus]
    unfold terminalStatus
    split_ifs <;> simp
  have hbest := @bestEffort_iff env t hostId resp task
    (stampAgentVersion_consistent hc hstatus ht) htask (hkeys ▸ hhost) hended
  rw [hhostKept, htemplateKept, hvmKept, hids] at hbest
  rw [← hbest]
  have hrun : (applyRefresh env hostId resp task w).2.db =
      (applyBestEffort env hostId resp task t).2.db := by
    obtain ⟨⟨⟩, h₂⟩ := applyBestEffort_returns env hostId resp task t
    unfold applyRefresh
    rw [Prog.bind_run_ok ht, Prog.bind_run_ok h₂]
    split_ifs
    · rfl
    · rfl
  unfold othersFrame Frame.same
  dsimp only
  rw [hrun, hrows]

end Stages

/-- The end of a task is written to the host's own row. -/
lemma endedWorld_others (hc : w.db.Consistent)
    (h : w.db.taskOfHost hostId resp.id = some task) :
    (endedWorld env w resp task).db.otherRows hostId vmIds = w.db.otherRows hostId vmIds := by
  obtain ⟨-, hhost⟩ := taskOfHost_eq_some.mp h
  have htask : w.db.task (endedTask env w.now resp.stripped task).id = some task :=
    task_of_taskOfHost h
  exact others_storeTask hc.keyed.taskIds htask hhost hhost

/-- A response keeps the rows of other hosts exactly when its refreshes do.

**Proof sketch.** By the branches of the handler. A progress message writes its own task, and one
that does not land is rolled back. Of one that lands, the lifecycle change writes the host's own
task and its events, and the refreshes are what `applyRefresh_others_iff` says. -/
theorem response_others_iff {s : Committed} :
    OthersKept hostId s.world.db (System.step env s (.response hostId resp)).world.db ↔
      ResponseKeepsOthers env s.world hostId resp := by
  have hc : (atStart s.world).db.Consistent := s.consistent
  unfold ResponseKeepsOthers
  rcases h : s.world.db.taskOfHost hostId resp.id with _ | task
  · rw [step_response, sessionScope,
      savepoint_eq_ok.mpr ⟨applyResponse_unknown (w := atStart s.world) h, hc⟩]
    refine iff_of_true rfl ?_
    rintro task ⟨⟩
  obtain ⟨hlookup, hown⟩ := taskOfHost_eq_some.mp h
  have htask := task_of_taskOfHost h
  by_cases hp : isProgress resp task.status = true
  · -- a progress message writes its task, or is rolled back
    refine iff_of_true ?_ fun task' ht' hp' => ?_
    · rw [step_response]
      refine rel_savepoint (F := othersFrame hostId _) (fun _ _ _ => rfl) ?_
      by_cases hs : resp.strippable = true
      · rw [applyResponse_progress (w := atStart s.world) h hp hs]
        exact others_storeTask hc.keyed.taskIds htask hown hown
      · rw [applyResponse_not_strippable (w := atStart s.world) h hs]
        exact (othersFrame hostId _).refl _
    · cases ht'
      rw [hp] at hp'
      cases hp'
  simp only [Bool.not_eq_true] at hp
  by_cases hl : Lands env s.world.now resp
  · by_cases hfits : StampFits env s.world.db hostId resp task
    · have hfits' : StampFits env (endedWorld env s.world resp task).db hostId resp.stripped
          (endedTask env s.world.now resp.stripped task) := stampFits_stripped.mpr hfits
      have hce : (endedWorld env s.world resp task).db.Consistent :=
        (lifecycleDb_consistent_iff hc htask).mpr hl.2
      have hstatus : (endedTask env s.world.now resp.stripped task).status =
        terminalStatus resp.stripped := rfl
      obtain ⟨t, ht, hct, -⟩ := applyRefresh_returns hce hstatus hfits'
      have hhost : hostId ∈ s.world.db.hosts.map Host.id := by
        obtain ⟨hmem, -⟩ := hc.task_eq_some.mp hlookup
        exact hown ▸ hc.keyed.taskHost task hmem
      have hiff := @applyRefresh_others_iff env (endedWorld env s.world resp task) hostId
        resp.stripped (endedTask env s.world.now resp.stripped task) hce hown hhost hstatus hfits'
      have hstep : (System.step env s (.response hostId resp)).world = t := by
        rw [step_response, sessionScope]
        have hrun : applyResponse env hostId resp (atStart s.world) = (.ok (), t) :=
          (applyResponse_landed (w := atStart s.world) hc h hp hl).trans ht
        rw [savepoint_eq_ok.mpr ⟨hrun, hct⟩]
      rw [ht] at hiff
      rw [hstep]
      unfold othersFrame Frame.same at hiff
      dsimp only at hiff
      rw [endedWorld_others s.consistent h] at hiff
      refine hiff.trans ⟨fun hkept task' ht' _ _ _ => ?_, fun hkept => hkept task rfl hp hl hfits⟩
      cases ht'
      exact hkept
    · have hstatus : (endedTask env s.world.now resp.stripped task).status =
        terminalStatus resp.stripped := rfl
      obtain ⟨e, t, ht⟩ := applyRefresh_raises (w := endedWorld env s.world resp task)
        ((lifecycleDb_consistent_iff hc htask).mpr hl.2) hstatus fun h' =>
          hfits (stampFits_stripped.mp h')
      have hrun : applyResponse env hostId resp (atStart s.world) = (.error e, t) :=
        (applyResponse_landed (w := atStart s.world) hc h hp hl).trans ht
      rw [step_response, sessionScope, savepoint_of_raise hrun]
      refine iff_of_true rfl fun task' ht' _ _ hfits' => ?_
      cases ht'
      exact absurd hfits' hfits
  · rw [response_rejected s h hp hl]
    refine iff_of_true rfl fun task' ht' _ hl' => absurd hl' hl

/-! ## Messages -/

/-- A message on one of the queues of a host. -/
inductive Message where
  /-- No JSON. -/
  | malformed
  | response (resp : AgentResponse)
  | agentStatus (payload : Json)
  | vmInventory (payload : Json)
  | hostInventory (payload : Json)
  | templateInventory (payload : Json)
  | isoInventory (payload : Json)
  | hostMetrics (payload : Json)
  | vmMetrics (payload : Json)

/-- The handler of a message; one that is no JSON is dropped. -/
def Message.event (hostId : String) : Message → Option Event
  | .malformed => none
  | .response resp => some (.response hostId resp)
  | .agentStatus payload => some (.agentStatus hostId payload)
  | .vmInventory payload => some (.vmInventory hostId payload)
  | .hostInventory payload => some (.hostInventory hostId payload)
  | .templateInventory payload => some (.templateInventory hostId payload)
  | .isoInventory payload => some (.isoInventory hostId payload)
  | .hostMetrics payload => some (.hostMetrics hostId payload)
  | .vmMetrics payload => some (.vmMetrics hostId payload)

/-- `handle_message`. -/
def handleMessage (env : Env) (hostId : String) (m : Message) (s : Committed) : Committed :=
  match m.event hostId with
  | some e => System.step env s e
  | none => s

/-- The messages that keep the rows of other hosts. -/
def Message.KeepsOthers (env : Env) (w : World) (hostId : String) : Message → Prop
  | .response resp => ResponseKeepsOthers env w hostId resp
  | _ => True

/-- A handler that keeps the rows of others in any state. -/
lemma step_others {e : Event} {m : M Unit} (s : Committed) (he : e.handler env = some m)
    (hm : Keeps (othersFrame hostId vmIds) m) :
    (System.step env s e).world.db.otherRows hostId vmIds =
      s.world.db.otherRows hostId vmIds := by
  rw [System.step_handler he]
  exact rel_savepoint (F := othersFrame hostId vmIds) (fun _ _ _ => rfl) (hm _)

/-- The snapshot of a host that is alone. -/
lemma vmInventory_others {s : Committed} {host : Host} (hhost : host ∈ s.world.db.hosts)
    (halone : host.clusterId = none) (payload : Json) :
    OthersKept host.id s.world.db
      (System.step env s (.vmInventory host.id payload)).world.db := by
  have hc := s.consistent
  have hrun : (System.step env s (.vmInventory host.id payload)).world =
      (savepoint (applyVmInventory env host.id payload)
        { s.world with txStart := s.world.now - (0 : ℕ) }).2 := rfl
  rw [hrun]
  rcases savepoint_cases (applyVmInventory env host.id payload)
    { s.world with txStart := s.world.now - (0 : ℕ) } with ⟨⟨⟩, t, hm, hct, hs⟩ | ⟨e, hs⟩
  · rw [hs]
    refine applyVmInventory_others (w := { s.world with txStart := s.world.now - (0 : ℕ) }) hc
      (fun host' h' => ?_) hm hct
    have hlookup : s.world.db.host host.id = some host := hc.host_eq_some.mpr ⟨hhost, rfl⟩
    rw [hlookup] at h'
    cases h'
    exact halone
  · rw [hs]
    rfl

/-- The samples of VMs are of VMs of the host. -/
lemma vmMetrics_others {s : Committed} (payload : Json) :
    OthersKept hostId s.world.db (System.step env s (.vmMetrics hostId payload)).world.db :=
  rel_savepoint (F := othersFrame hostId _) (fun _ _ _ => rfl)
    (applyVmMetrics_others payload fun _ hv hhost =>
      id_not_mem_otherVmIds s.consistent.keyed.vmIds hv hhost)

/-- **Isolation of hosts.** A message of a standalone host leaves the rows of every other host as
they are, exactly when it is no response that writes a template or a VM of another. -/
theorem others_kept_iff (env : Env) (s : Committed) (host : Host) (m : Message)
    (hhost : host ∈ s.world.db.hosts) (halone : host.clusterId = none) :
    OthersKept host.id s.world.db (handleMessage env host.id m s).world.db ↔
      m.KeepsOthers env s.world host.id := by
  cases m with
  | malformed => exact iff_of_true rfl trivial
  | response resp => exact response_others_iff
  | agentStatus payload =>
    exact iff_of_true (step_others s rfl (keeps_others_applyAgentStatus payload)) trivial
  | vmInventory payload => exact iff_of_true (vmInventory_others hhost halone payload) trivial
  | hostInventory payload =>
    exact iff_of_true (step_others s rfl (keeps_others_applyHostInventory payload)) trivial
  | templateInventory payload =>
    exact iff_of_true (step_others s rfl (keeps_others_applyTemplateInventory payload)) trivial
  | isoInventory payload =>
    exact iff_of_true (step_others s rfl (keeps_others_applyIsoInventory payload)) trivial
  | hostMetrics payload =>
    exact iff_of_true (step_others s rfl (keeps_others_applyHostMetrics payload)) trivial
  | vmMetrics payload => exact iff_of_true (vmMetrics_others payload) trivial

/-- The VM `"g"` of the host `"h"` is reported, then its export is queued. -/
@[irreducible] def Demo.exportQueued : Committed :=
  System.run Demo.settings Demo.shared
    [.vmInventory "h" (Demo.snapshot ["g"]), .vmAction 0 Demo.user "" .export_template []]

/-- The agent of `"h"` exported a template under the key `id`. -/
def Demo.exported (id : String) : AgentResponse where
  id := "x"
  function := "vm_export_template"
  status := "succeeded"
  template := some [("id", .str id)]

/-- A host reports its templates beside another host. -/
theorem others_kept_own_template :
    Demo.host ∈ Demo.shared.world.db.hosts ∧ Demo.host.clusterId = none ∧
      OthersKept "h" Demo.shared.world.db (handleMessage Demo.settings "h"
        (.templateInventory (.obj [("items", .arr [.obj [("id", .str "b")]])]))
        Demo.shared).world.db :=
  ⟨List.mem_cons_self, rfl, (others_kept_iff Demo.settings Demo.shared Demo.host _
    List.mem_cons_self rfl).mpr trivial⟩

/-- The host `"h"` exports a template under the key of one that `"k"` holds. -/
theorem others_kept_counterexample :
    ¬ ∀ (env : Env) (s : Committed) (host : Host) (m : Message), host ∈ s.world.db.hosts →
      host.clusterId = none →
        OthersKept host.id s.world.db (handleMessage env host.id m s).world.db := by
  intro h
  have hhost : ∃ host ∈ Demo.exportQueued.world.db.hosts, host.id = "h" ∧
      host.clusterId = none := by decide +kernel
  obtain ⟨host, hmem, hid, halone⟩ := hhost
  have hkept := h Demo.settings Demo.exportQueued host (.response (Demo.exported "a")) hmem halone
  rw [hid] at hkept
  have hbefore : (Demo.exportQueued.world.db.templates.filter fun t =>
      decide (t.hostId ≠ "h")).length = 1 := by decide +kernel
  have hafter : ((handleMessage Demo.settings "h" (.response (Demo.exported "a"))
      Demo.exportQueued).world.db.templates.filter fun t => decide (t.hostId ≠ "h")).length =
        0 := by decide +kernel
  have hsame := congrArg (fun rows => rows.templates.length) hkept
  simp only [Db.otherRows] at hsame
  omega

end OpenVCenter
