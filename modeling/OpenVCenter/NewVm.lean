import OpenVCenter.DeletedVm
import OpenVCenter.HostMove

set_option relaxedAutoImplicit false
set_option autoImplicit false

/-!
# A new VM: its response and its snapshots

A create or a clone adds a placeholder, a row without a GUID. The GUID is learnt in two ways: from the
response, which writes it on the placeholder, and from the snapshots of the host, which add a row for
each GUID they do not know. The two are on different queues and are consumed in any order.

## Main results

* `OpenVCenter.stamp_refused` — a placeholder is not stamped with a GUID that its host has a row for.
* `OpenVCenter.step_response_placeholder` — what the response does to the rows.
* `OpenVCenter.new_vm_iff` — **for every order in which the response and the snapshots are consumed,
  the placeholder becomes the row of the VM exactly when the response can stamp it, and stays that
  row as long as no snapshot omits it; otherwise it is left without a GUID for good. It cannot be
  stamped when the last snapshot before the response lists the VM**.
-/

namespace OpenVCenter

open Effect

variable {env : Env} {hostId g : String}

/-! ## Rows keep their identity -/

/-- The identity of a row and its owner. -/
def Vm.home (vm : Vm) : (String × Option String × Option String × List String) × String :=
  (vm.identity, vm.hostId)

/-- The frame of what keeps the identities and the owners of the rows. -/
def homeFrame : Frame World :=
  Frame.under (fun w => (w.db.vms.map Vm.id).Nodup) (Frame.same fun w => w.db.vms.map Vm.home)

/-- A store that keeps the home of a row. -/
lemma homeFrame_storeVm {w : World} {vm vm' : Vm} (hvm : vm ∈ w.db.vms)
    (hhome : vm'.home = vm.home) : homeFrame.rel w { w with db := w.db.storeVm vm' } := by
  intro hn
  have hid : vm'.id = vm.id := congrArg (fun h => h.1.1) hhome
  refine ⟨?_, Table.map_store fun x hx hxid => ?_⟩
  · simp only [Db.storeVm, Table.map_key_store]
    exact hn
  · rw [hhome, Table.eq_of_mem_of_key hn hx hvm (hxid.trans hid)]

/-- Overlays change no home. -/
lemma homeFrame_states (w : World) (states : Expiring.Keyspace String Time String) :
    homeFrame.rel w { w with cache := { w.cache with vmStates := states } } := fun hn => ⟨hn, rfl⟩

/-- An object attached to a response is written to the row of its GUID on the host. -/
lemma keeps_home_refreshItem (host : Host) (updated : Bool) (raw : Dict) :
    Keeps homeFrame (refreshItem env host updated raw) := by
  refine keeps_bind (keeps_ofExcept _) fun item => ?_
  split
  · split
    · refine keeps_bind keeps_flush fun _ => keeps_read_bind fun w => ?_
      refine rel_bind (keeps_ofExcept _ w) fun row t ht _ => ?_
      obtain ⟨hrow, rfl⟩ := Prog.ofExcept_eq_ok.mp ht
      cases row with
      | none => exact keeps_pure _ _
      | some vm =>
        obtain ⟨hmem, -, hhost⟩ := vmByGuid_eq_some hrow
        refine rel_bind (keeps_ofExcept _ t) fun vm' t' ht' _ => ?_
        obtain ⟨hwrite, rfl⟩ := Prog.ofExcept_eq_ok.mp ht'
        obtain ⟨hidentity, hhost'⟩ := identity_of_writeVmRow hwrite
        refine rel_bind (homeFrame_storeVm hmem ?_) fun _ t _ _ => ?_
        · exact Prod.ext hidentity (hhost'.trans hhost.symm)
        · exact keeps_bind (keeps_setVmState homeFrame_states _ _) (fun _ => keeps_pure _) t
    · exact keeps_raise _
  · exact keeps_pure _

/-- Nor do the VMs of an answer. -/
lemma keeps_home_applyResponseVmStatus (hostId : String) (resp : AgentResponse) :
    Keeps homeFrame (applyResponseVmStatus env hostId resp) := by
  unfold applyResponseVmStatus
  split
  · exact keeps_pure _
  · refine keeps_bind keeps_read fun w => ?_
    split
    · exact keeps_pure _
    · exact keeps_foldlM (fun _ _ _ => keeps_home_refreshItem _ _ _) _

/-! ## The stamp -/

section Stamp

variable {w t : World} {resp : AgentResponse} {p vm : Vm}

/-- The rows after a stamp. -/
lemma homes_of_stamp (hc : w.db.Consistent)
    (h : stampPlaceholder env hostId resp p w = (.ok (), t)) :
    t.db.vms.map Vm.home = (w.db.storeVm (stampedRow resp p)).vms.map Vm.home := by
  rw [stampPlaceholder_run] at h
  have hn : ((w.db.storeVm (stampedRow resp p)).vms.map Vm.id).Nodup := by
    simp only [Db.storeVm, Table.map_key_store]
    exact hc.keyed.vmIds
  have hrest : Keeps homeFrame (stampRest env hostId resp p) := by
    refine keeps_bind (keeps_setVmState homeFrame_states _ _) fun _ => ?_
    refine keeps_bind keeps_flush fun _ => ?_
    exact keeps_bind (keeps_home_applyResponseVmStatus hostId resp) fun _ => keeps_pure _
  have hsame := (hrest { w with db := w.db.storeVm (stampedRow resp p) } hn).2
  rw [h] at hsame
  exact hsame

/-- A placeholder is not stamped with a GUID that its host has a row for. -/
lemma stamp_refused (hp : p ∈ w.db.vms) (hguid : nonEmpty resp.vmId = some g)
    (hvm : vm ∈ w.db.vms) (hdistinct : vm.id ≠ p.id) (hvmguid : vm.vmUuid = some g)
    (howner : vm.hostId = p.hostId) (hcluster : vm.clusterId = p.clusterId) : ¬ Stamps env w hostId resp p := by
  rintro ⟨t, h, -⟩
  rw [stampPlaceholder_run] at h
  obtain ⟨⟨⟩, w₁, hstate, hrest⟩ := Prog.bind_eq_ok.mp h
  obtain ⟨⟨⟩, w₂, hflush, -⟩ := Prog.bind_eq_ok.mp hrest
  obtain ⟨hc, -⟩ := flush_eq_ok.mp hflush
  obtain ⟨text, -, rfl⟩ := setVmState_eq_ok.mp hstate
  have hc : (w.db.storeVm (stampedRow resp p)).Consistent := hc
  -- the stamped row and the other one have the GUID and the host in common
  have hstamped : stampedRow resp p ∈ (w.db.storeVm (stampedRow resp p)).vms :=
    Table.mem_store.mpr (Or.inr ⟨rfl, p, hp, rfl⟩)
  have hother : vm ∈ (w.db.storeVm (stampedRow resp p)).vms := by
    refine Table.mem_store.mpr (Or.inl ⟨hvm, fun hid => ?_⟩)
    exact hdistinct hid
  have hclash : vm.clash (stampedRow resp p) := by
    refine ⟨by simp [hvmguid], ?_, hcluster, Or.inr howner⟩
    simp [hvmguid, stampedRow, hguid]
  have hne : vm ≠ stampedRow resp p := by
    intro heq
    have hid : vm.id = (stampedRow resp p).id := congrArg Vm.id heq
    exact hdistinct hid
  have : Std.Symm fun a b : Vm => ¬ a.clash b := ⟨fun a b h h' => h (clash_symm h')⟩
  exact hc.keyed.guids.forall hother hstamped hne hclash

/-- Without an object to apply, a placeholder is stamped when the row with its GUID can be stored. -/
lemma stamps_bare_iff (hbare : responseVmItems resp = []) :
    Stamps env w hostId resp p ↔ (w.db.storeVm (stampedRow resp p)).Consistent := by
  have hrun : stampPlaceholder env hostId resp p w =
      (flush >>= fun _ => pure ()) (stampedWorld env resp p w) := by
    have hstatus : applyResponseVmStatus env hostId resp = pure false := by
      unfold applyResponseVmStatus
      simp [hbare]
    rw [stampPlaceholder_stamped]
    unfold afterStamp
    rw [hstatus]
    rfl
  unfold Stamps
  rw [hrun]
  constructor
  · rintro ⟨t, h, -⟩
    obtain ⟨⟨⟩, u, hflush, -⟩ := Prog.bind_eq_ok.mp h
    exact (flush_eq_ok.mp hflush).1
  · intro hc
    refine ⟨stampedWorld env resp p w, ?_, hc⟩
    rw [Prog.bind_run_ok (flush_of_consistent (w := stampedWorld env resp p w) hc)]
    rfl

/-- The row with its GUID can be stored when it fits and no other row has the GUID in its place.

**Proof sketch.** If the tables are consistent after the stamp, the row fits, and it clashes with
none of the others, as no two rows do. Conversely go through the constraints: of two rows one at
most is the stamped one, and its keys beside the GUID are those of the row it writes over. -/
lemma stamped_consistent_iff (hc : w.db.Consistent) (hp : p ∈ w.db.vms) :
    (w.db.storeVm (stampedRow resp p)).Consistent ↔ (stampedRow resp p).bindable = true ∧
      ∀ v ∈ w.db.vms, v.id ≠ p.id → ¬ v.clash (stampedRow resp p) := by
  have hstamped : stampedRow resp p ∈ (w.db.storeVm (stampedRow resp p)).vms :=
    Table.mem_store.mpr (Or.inr ⟨rfl, p, hp, rfl⟩)
  have hsymm : Std.Symm fun a b : Vm => ¬ a.clash b := ⟨fun a b h h' => h (clash_symm h')⟩
  constructor
  · intro hct
    refine ⟨hct.vm_bindable hstamped, fun v hv hne hclash => ?_⟩
    have hv' : v ∈ (w.db.storeVm (stampedRow resp p)).vms :=
      Table.mem_store.mpr (Or.inl ⟨hv, hne⟩)
    have hdistinct : v ≠ stampedRow resp p := by
      intro heq
      have hid : v.id = (stampedRow resp p).id := congrArg Vm.id heq
      exact hne hid
    exact hct.keyed.guids.forall hv' hstamped hdistinct hclash
  · rintro ⟨hfit, hapart⟩
    have hids : (Table.store Vm.id (stampedRow resp p) w.db.vms).map Vm.id = w.db.vms.map Vm.id :=
      Table.map_key_store
    refine hc.with_vms (hids ▸ hc.keyed.vmIds) ?_ (fun v hv => ?_) (fun v hv => ?_)
      (fun v hv => ?_) (fun v hv => ?_) (List.Sublist.refl _) (hids ▸ hc.keyed.thumbnailVm)
      (List.Sublist.refl _) (hids ▸ hc.keyed.vmMetricVm)
    · unfold Table.store
      rw [List.pairwise_map]
      have hdistinct : w.db.vms.Pairwise fun a b => a.id ≠ b.id := List.pairwise_map.mp hc.keyed.vmIds
      refine (hc.keyed.guids.and hdistinct).imp_of_mem fun {a b} ha hb hab => ?_
      obtain ⟨hclash, hne⟩ := hab
      by_cases hap : a.id = p.id
      · -- the stamped row and another one
        have hbp : b.id ≠ p.id := fun h => hne (hap.trans h.symm)
        simp only [stampedRow, hap, hbp, if_true, if_false]
        exact fun h => hapart b hb hbp (clash_symm h)
      · by_cases hbp : b.id = p.id
        · simp only [stampedRow, hap, hbp, if_true, if_false]
          exact hapart a ha hap
        · simp only [stampedRow, hap, hbp, if_false]
          exact hclash
    · rcases Db.Consistent.mem_storeVm hv with hv | rfl
      · exact hc.keyed.vmHost v hv
      · exact hc.keyed.vmHost p hp
    · rcases Db.Consistent.mem_storeVm hv with hv | rfl
      · exact hc.keyed.vmCluster v hv
      · exact hc.keyed.vmCluster p hp
    · rcases Db.Consistent.mem_storeVm hv with hv | rfl
      · exact hc.keyed.vmFolder v hv
      · exact hc.keyed.vmFolder p hp
    · rcases Db.Consistent.mem_storeVm hv with hv | rfl
      · exact hc.vm_bindable hv
      · exact hfit

end Stamp

/-! ## The response -/

section Response

variable {s : Committed} {resp : AgentResponse} {task : Task} {p : Vm}

/-- **What the response to a create or clone does to the rows**: the placeholder is stamped, if it can
be, and the others keep their identity; or no row changes.

**Proof sketch.** The response lands and stamps no version, so its refresh runs to the end, and of
the rows only the stage of the VM writes. That stage is the stamp in a savepoint: released it has
stamped the placeholder (`homes_of_stamp`), rolled back it has left every row. -/
theorem step_response_placeholder (h : s.world.db.taskOfHost hostId resp.id = some task)
    (hmake : task.kind.makesPlaceholder = true) (hsucc : resp.status = "succeeded")
    (hl : Lands env s.world.now resp) (hp : p ∈ s.world.db.vms) (hid : p.id = task.targetId) :
    (Stamps env (endedWorld env s.world resp task) hostId resp.stripped p →
      (System.step env s (.response hostId resp)).world.db.vms.map Vm.home =
        (s.world.db.storeVm (stampedRow resp p)).vms.map Vm.home) ∧
    (¬ Stamps env (endedWorld env s.world resp task) hostId resp.stripped p →
      (System.step env s (.response hostId resp)).world.db.vms = s.world.db.vms) := by
  have hprogress : isProgress resp task.status = false := by
    simp [isProgress, hsucc]
  have hkind : task.kind ≠ .host_update_agent ∧ task.kind.isClusterNodeAction = false := by
    revert hmake
    cases task.kind <;> decide
  have hfits : StampFits env s.world.db hostId resp task := fun hupgrade =>
    absurd hupgrade hkind.1
  obtain ⟨t, ht, hworld⟩ := step_response_landed h hprogress hl hfits
  set w := endedWorld env s.world resp task with hw
  set ended : Task := endedTask env s.world.now resp.stripped task with hended
  have hce : w.db.Consistent :=
    (lifecycleDb_consistent_iff s.consistent (task_of_taskOfHost h)).mpr hl.2
  have hmake' : ended.kind.makesPlaceholder = true := hmake
  have hstatus : ended.status = .succeeded := terminalStatus_eq_succeeded.mpr hsucc
  have hupgrade : ended.kind ≠ .host_update_agent := hkind.1
  have hnode : ended.kind.isClusterNodeAction = false := hkind.2
  obtain ⟨hdb, -⟩ := applyRefresh_of_vm hce rfl hupgrade hnode ht
  rw [(placeholder_stages hce hmake').2] at hdb
  have hfound : w.db.vm ended.targetId = some p := s.consistent.vm_eq_some.mpr ⟨hp, hid⟩
  have hrun := @applyResponseState_placeholder env w hostId resp.stripped ended hmake'
  rw [hfound] at hrun
  dsimp only at hrun
  rw [if_pos hstatus] at hrun
  have hstage : (vmStage env hostId resp.stripped ended w).2 =
      (savepoint (stampPlaceholder env hostId resp.stripped p) w).2 := by
    unfold vmStage
    rw [Prog.attempt_run, savepoint_congr hrun]
  rw [hstage] at hdb
  rw [hworld, hdb]
  constructor
  · rintro ⟨u, hu, hcu⟩
    rw [savepoint_eq_ok.mpr ⟨hu, hcu⟩]
    have hhomes := homes_of_stamp hce hu
    have hvms : (w.db.storeVm (stampedRow resp.stripped p)).vms =
        (s.world.db.storeVm (stampedRow resp p)).vms := rfl
    rw [hvms] at hhomes
    exact hhomes
  · intro hnot
    rcases savepoint_cases (stampPlaceholder env hostId resp.stripped p) w with
      ⟨⟨⟩, u, hu, hcu, -⟩ | ⟨e, hback⟩
    · exact absurd ⟨u, hu, hcu⟩ hnot
    · rw [hback]
      rfl

end Response

/-! ## The snapshots -/

section Snapshots

variable {s : Committed} {host : Host} {p vm₀ : Vm} {due : Time}

/-- A row without a GUID is left alone by the snapshots. -/
lemma guidless_kept (hplaced : s.world.db.Placed) (hhost : s.world.db.host hostId = some host)
    (hp : p ∈ s.world.db.vms) (hnone : p.vmUuid = none) (x : Arrival) :
    p ∈ (System.step env s (x.event hostId)).world.db.vms := by
  cases x with
  | wait elapsed => exact hp
  | snapshot payload =>
    show p ∈ (System.step env s (.vmInventory hostId payload)).world.db.vms
    rcases @snapshot_run env hostId s host hhost payload with ⟨-, hdb⟩ | ⟨-, report, -, hrun⟩
    · rw [hdb]
      exact hp
    · obtain ⟨hmem, hid⟩ := s.consistent.host_eq_some.mp hhost
      obtain ⟨scan, w₁, w₂, hscan, hn₁, hdrop, hvms⟩ :=
        loops_of_snapshot (s := ⟨atStart s.world, s.consistent⟩) hplaced hmem hrun
      have hown : host.id ∈ inventoryScopeHostIds s.world.db host :=
        (stands_of_host (s.consistent.host_eq_some.mpr ⟨hmem, rfl⟩)).mem_scope
      have hunlisted : unlisted (inventoryScopeHostIds s.world.db host) scan.seen p = true :=
        decide_eq_true fun _ u hu => by simp [hnone] at hu
      rw [hvms]
      exact (mem_left hscan hn₁ hown hdrop).mpr
        ⟨(hscan.written.mem_iff hunlisted).mpr hp, fun _ u hu => by simp [hnone] at hu⟩

/-- A snapshot leaves the tasks alone. -/
lemma tasks_of_arrival (s : Committed) (hostId : String) (x : Arrival) :
    (System.step env s (x.event hostId)).world.db.tasks = s.world.db.tasks := by
  cases x with
  | wait elapsed => rfl
  | snapshot payload =>
    exact keeps_savepoint (F := Frame.same fun w : World => w.db.tasks) (fun _ _ _ => rfl)
      (keeps_applyVmInventory (fun _ _ _ => rfl) (fun _ _ => rfl) (fun _ _ => rfl)
        (fun _ _ => rfl) (fun _ _ _ => rfl) (fun _ _ => rfl)
        (fun _ => keeps_record (fun _ _ _ => rfl) (fun _ _ => rfl) _ _ _ _ _) (fun _ => rfl)
        (fun _ _ => rfl) hostId payload) (atStart s.world)

/-- The row of a VM that its own host reports: it stays while it is not omitted, and is gone for good
when it is.

**Proof sketch.** Waiting and a refused snapshot leave the row. An accepted one has the row in
scope: it keeps the identity when the GUID is listed, and deletes the row, whose identifier is never
drawn again, when it is not. -/
lemma row_of_arrival (hdrawn : RowsDrawn env s.world) (hplaced : s.world.db.Placed)
    (hhost : s.world.db.host hostId = some host) (hguid : vm₀.vmUuid = some g)
    (hrow : ∃ vm ∈ s.world.db.vms, vm.identity = vm₀.identity ∧ vm.hostId = hostId) (x : Arrival) :
    let t := System.step env s (x.event hostId)
    if (notice env hostId g due s x).report = some false then WithoutRow env vm₀.id t.world
    else ∃ vm ∈ t.world.db.vms, vm.identity = vm₀.identity ∧ vm.hostId = hostId := by
  intro t
  obtain ⟨vm, hvm, hidentity, howner⟩ := hrow
  cases x with
  | wait elapsed =>
    rw [if_neg (by simp [notice])]
    exact ⟨vm, hvm, hidentity, howner⟩
  | snapshot payload =>
    obtain ⟨hmem, hid⟩ := s.consistent.host_eq_some.mp hhost
    have hvmguid : vm.vmUuid = some g := (congrArg (fun e => e.2.1) hidentity).trans hguid
    have hkey : vm.id = vm₀.id := congrArg Prod.fst hidentity
    rcases @snapshot_run env hostId s host hhost payload with
      ⟨hrefused, hdb⟩ | ⟨haccepted, report, hitems, hrun⟩
    · rw [if_neg (by simp [notice, hrefused])]
      refine ⟨vm, ?_, hidentity, howner⟩
      show vm ∈ (System.step env s (.vmInventory hostId payload)).world.db.vms
      rw [hdb]
      exact hvm
    let s' : Committed := ⟨atStart s.world, s.consistent⟩
    have hlists : Snapshot.lists env g ⟨hostId, payload⟩ =
        decide (g ∈ listedGuids env report.items) := by
      simp [Snapshot.lists, hitems]
    by_cases hlisted : g ∈ listedGuids env report.items
    · rw [if_neg (by simp [notice, haccepted, hlists, hlisted])]
      have hscope : vm.InScope s.world.db host := by
        unfold Vm.InScope
        rw [howner, ← hid]
        exact (stands_of_host (s.consistent.host_eq_some.mpr ⟨hmem, rfl⟩)).mem_scope
      obtain ⟨v, hv, hvowner, hvidentity⟩ :=
        listed_kept (s := s') hplaced hmem hrun hvm hscope hvmguid hlisted
      exact ⟨v, hv, hvidentity.trans hidentity, hvowner.trans hid⟩
    · rw [if_pos (by simp [notice, haccepted, hlists, hlisted])]
      have hgone := omitted_gone (s := s') hplaced hmem hrun hvm (howner.trans hid.symm) hvmguid
        hlisted
      refine ⟨?_, hkey ▸ hgone⟩
      exact hkey ▸ (hdrawn vm hvm).mono (nextId_le_step env s _)

/-- An arrival leaves the host alone. -/
lemma host_of_arrival (hhost : s.world.db.host hostId = some host) (x : Arrival) :
    (System.step env s (x.event hostId)).world.db.host hostId = some host := by
  cases x with
  | wait elapsed => exact hhost
  | snapshot payload =>
    exact (host_congr (hosts_of_snapshot s hostId payload) hostId).trans hhost

end Snapshots

/-! ## Both orders -/

section Runs

variable {host : Host} {p vm₀ : Vm} {due : Time}

/-- What the arrivals before the response leave alone. -/
lemma before_response (xs : List Arrival) {s : Committed} (hdrawn : RowsDrawn env s.world)
    (hplaced : s.world.db.Placed) (hhost : s.world.db.host hostId = some host)
    (hp : p ∈ s.world.db.vms) (hnone : p.vmUuid = none) :
    let t := arrive env hostId s xs
    RowsDrawn env t.world ∧ t.world.db.Placed ∧ t.world.db.host hostId = some host ∧
      p ∈ t.world.db.vms ∧ t.world.db.tasks = s.world.db.tasks := by
  induction xs generalizing s with
  | nil => exact ⟨hdrawn, hplaced, hhost, hp, rfl⟩
  | cons x xs ih =>
    obtain ⟨hd, hpl, hh, hmem, htasks⟩ := ih (rowsDrawn_step hdrawn (.system (x.event hostId)))
      (placed_step hdrawn hplaced (.system (x.event hostId))) (host_of_arrival hhost x)
      (guidless_kept hplaced hhost hp hnone x)
    exact ⟨hd, hpl, hh, hmem, htasks.trans (tasks_of_arrival s hostId x)⟩

/-- What becomes of the row of a VM that its own host reports. -/
lemma after_response (xs : List Arrival) {s : Committed} (hdrawn : RowsDrawn env s.world)
    (hplaced : s.world.db.Placed) (hhost : s.world.db.host hostId = some host)
    (hguid : vm₀.vmUuid = some g) :
    ((∃ vm ∈ s.world.db.vms, vm.identity = vm₀.identity ∧ vm.hostId = hostId) →
      if ∀ e ∈ notices env hostId g due s xs, e.report ≠ some false then
        ∃ vm ∈ (arrive env hostId s xs).world.db.vms, vm.identity = vm₀.identity ∧
          vm.hostId = hostId
      else WithoutRow env vm₀.id (arrive env hostId s xs).world) ∧
    (WithoutRow env vm₀.id s.world →
      WithoutRow env vm₀.id (arrive env hostId s xs).world) := by
  induction xs generalizing s with
  | nil =>
    refine ⟨fun h => ?_, id⟩
    rw [if_pos (by simp [notices])]
    exact h
  | cons x xs ih =>
    obtain ⟨hrow, hgone⟩ := ih (rowsDrawn_step hdrawn (.system (x.event hostId)))
      (placed_step hdrawn hplaced (.system (x.event hostId))) (host_of_arrival hhost x)
    refine ⟨fun h => ?_, fun h => hgone (withoutRow_step hdrawn h (.system (x.event hostId)))⟩
    have hstep := @row_of_arrival env hostId g s host vm₀ due hdrawn hplaced hhost hguid h x
    dsimp only at hstep
    rw [notices]
    simp only [List.forall_mem_cons]
    by_cases homitted : (notice env hostId g due s x).report = some false
    · rw [if_pos homitted] at hstep
      rw [if_neg fun hall => hall.1 homitted]
      exact hgone hstep
    · rw [if_neg homitted] at hstep
      have hrest := hrow hstep
      simp only [homitted, not_false_eq_true, ne_eq, true_and] at hrest ⊢
      exact hrest

/-- A row of the host is in the cluster of the host. -/
lemma cluster_of_row {s : Committed} (hplaced : s.world.db.Placed)
    (hhost : s.world.db.host hostId = some host) {vm : Vm} (hvm : vm ∈ s.world.db.vms)
    (howner : vm.hostId = hostId) : vm.clusterId = host.clusterId := by
  obtain ⟨hmem, hid⟩ := s.consistent.host_eq_some.mp hhost
  exact clusterId_of_owner (s := s) hplaced rfl hmem hvm (howner.trans hid.symm)

section Stamp

variable {s : Committed} {resp : AgentResponse} {task : Task}

/-- The placeholder is not stamped when its host has a row of the VM. -/
lemma not_stamps_of_row (hplaced : s.world.db.Placed)
    (hhost : s.world.db.host hostId = some host) (hp : p ∈ s.world.db.vms)
    (howner : p.hostId = hostId) (hnone : p.vmUuid = none) (hguid : nonEmpty resp.vmId = some g)
    (hrow : ∃ vm ∈ s.world.db.vms, vm.hostId = hostId ∧ vm.vmUuid = some g) :
    ¬ Stamps env (endedWorld env s.world resp task) hostId resp.stripped p := by
  obtain ⟨v, hv, hvowner, hvguid⟩ := hrow
  have hdistinct : v.id ≠ p.id := by
    intro hkey
    rw [Table.eq_of_mem_of_key s.consistent.keyed.vmIds hv hp hkey, hnone] at hvguid
    cases hvguid
  have hguid' : nonEmpty resp.stripped.vmId = some g := hguid
  exact stamp_refused (w := endedWorld env s.world resp task) hp hguid' hv hdistinct hvguid
    (hvowner.trans howner.symm)
    ((cluster_of_row hplaced hhost hv hvowner).trans (cluster_of_row hplaced hhost hp howner).symm)

/-- A response without objects stamps the placeholder if its values fit, when no row in scope of the
host has the GUID. -/
lemma stamps_bare_of_absent (hplaced : s.world.db.Placed)
    (hhost : s.world.db.host hostId = some host) (hp : p ∈ s.world.db.vms)
    (howner : p.hostId = hostId) (hguid : nonEmpty resp.vmId = some g)
    (h : s.world.db.taskOfHost hostId resp.id = some task) (hl : Lands env s.world.now resp)
    (hbare : responseVmItems resp.stripped = [])
    (habsent : ∀ vm ∈ s.world.db.vms, vm.InScope s.world.db host → vm.vmUuid ≠ some g)
    (hfit : (stampedRow resp p).bindable = true) :
    Stamps env (endedWorld env s.world resp task) hostId resp.stripped p := by
  have hce : (endedWorld env s.world resp task).db.Consistent :=
    (lifecycleDb_consistent_iff s.consistent (task_of_taskOfHost h)).mpr hl.2
  refine ((@stamps_bare_iff env hostId _ resp.stripped p hbare).trans
    (stamped_consistent_iff (w := endedWorld env s.world resp task) hce hp)).mpr
      ⟨hfit, fun v hv hne hclash => ?_⟩
  obtain ⟨-, hvguid, hvcluster, hplace⟩ := hclash
  have hvguid : v.vmUuid = some g := by
    rw [hvguid]
    simp [stampedRow, AgentResponse.stripped, hguid]
  refine habsent v hv ?_ hvguid
  -- the row that clashes is of the host, or of its cluster
  obtain ⟨hmem, hid⟩ := s.consistent.host_eq_some.mp hhost
  have hpcluster : p.clusterId = host.clusterId := cluster_of_row hplaced hhost hp howner
  have hvcluster : v.clusterId = host.clusterId := hvcluster.trans hpcluster
  rcases hnode : host.clusterId with _ | c
  · rw [hvcluster, hnode] at hplace
    have hvowner : v.hostId = host.id := by
      simpa [stampedRow, howner, hid] using hplace
    unfold Vm.InScope
    rw [hvowner]
    exact (stands_of_host (s.consistent.host_eq_some.mpr ⟨hmem, rfl⟩)).mem_scope
  · exact inScope_of_cluster hplaced hv (hvcluster.trans hnode) hnode

/-- The values of a placeholder that is stamped by a response without objects fit. -/
lemma bindable_of_stamps_bare (hp : p ∈ s.world.db.vms)
    (h : s.world.db.taskOfHost hostId resp.id = some task) (hl : Lands env s.world.now resp)
    (hbare : responseVmItems resp.stripped = [])
    (hst : Stamps env (endedWorld env s.world resp task) hostId resp.stripped p) :
    (stampedRow resp p).bindable = true := by
  have hce : (endedWorld env s.world resp task).db.Consistent :=
    (lifecycleDb_consistent_iff s.consistent (task_of_taskOfHost h)).mpr hl.2
  exact ((@stamps_bare_iff env hostId _ resp.stripped p hbare).trans
    (stamped_consistent_iff (w := endedWorld env s.world resp task) hce hp)).mp hst |>.1

end Stamp

/-- What a run leaves of the placeholder, once it is known what a stamp and a refusal lead to: it is
the row of the VM, or the placeholder still, or gone. -/
lemma placeholder_outcome {s : Committed} {stamps listed : Prop} [Decidable listed]
    (hnone : p.vmUuid = none) (hleft : ¬ stamps → p ∈ s.world.db.vms)
    (hbecomes : stamps → if listed then
      ∃ vm ∈ s.world.db.vms, vm.identity = (p.id, some g, p.folderId, p.tagIds) ∧
        vm.hostId = hostId
      else WithoutRow env p.id s.world) :
    ((∃ vm ∈ s.world.db.vms, vm.identity = (p.id, some g, p.folderId, p.tagIds) ∧
      vm.hostId = hostId) ↔ stamps ∧ listed) ∧ (p ∈ s.world.db.vms ↔ ¬ stamps) := by
  have hunique : ∀ vm ∈ s.world.db.vms, vm.id = p.id → p ∈ s.world.db.vms → vm = p :=
    fun vm hvm hid hp => Table.eq_of_mem_of_key s.consistent.keyed.vmIds hvm hp hid
  -- the placeholder and the row of the VM have one key, and cannot both be there
  have hnotBoth : ∀ vm ∈ s.world.db.vms, vm.identity = (p.id, some g, p.folderId, p.tagIds) →
      p ∉ s.world.db.vms := by
    intro vm hvm hvmid hp
    have hguid : vm.vmUuid = some g := congrArg (fun e => e.2.1) hvmid
    rw [hunique vm hvm (congrArg Prod.fst hvmid) hp, hnone] at hguid
    cases hguid
  refine ⟨⟨?_, ?_⟩, ?_, hleft⟩
  · rintro ⟨vm, hvm, hvmid, -⟩
    have hst : stamps := by
      by_contra hnot
      exact hnotBoth vm hvm hvmid (hleft hnot)
    refine ⟨hst, ?_⟩
    by_contra hall
    have hgone := hbecomes hst
    rw [if_neg hall] at hgone
    exact hgone.gone vm hvm (congrArg Prod.fst hvmid)
  · rintro ⟨hst, hall⟩
    have hrow := hbecomes hst
    rwa [if_pos hall] at hrow
  · intro hp hst
    have hend := hbecomes hst
    split_ifs at hend with hall
    · obtain ⟨vm, hvm, hvmid, -⟩ := hend
      exact hnotBoth vm hvm hvmid hp
    · exact hend.gone p hp rfl

/-- A placeholder that is stamped is the row of the VM from then on. -/
lemma stamped_after {t : Committed} {resp : AgentResponse} (hdrawn : RowsDrawn env t.world)
    (hplaced : t.world.db.Placed) (hhost : t.world.db.host hostId = some host)
    (hguid : nonEmpty resp.vmId = some g) (howner : p.hostId = hostId)
    (hin : (stampedRow resp p).home ∈ t.world.db.vms.map Vm.home) (ys : List Arrival) :
    if ∀ e ∈ notices env hostId g due t ys, e.report ≠ some false then
      ∃ vm ∈ (arrive env hostId t ys).world.db.vms,
        vm.identity = (p.id, some g, p.folderId, p.tagIds) ∧ vm.hostId = hostId
    else WithoutRow env p.id (arrive env hostId t ys).world := by
  have hidentity : (stampedRow resp p).identity = (p.id, some g, p.folderId, p.tagIds) := by
    simp [Vm.identity, stampedRow, hguid]
  obtain ⟨v, hv, hhome⟩ := List.mem_map.mp hin
  have hrow : ∃ vm ∈ t.world.db.vms, vm.identity = (stampedRow resp p).identity ∧
      vm.hostId = hostId :=
    ⟨v, hv, congrArg Prod.fst hhome, (congrArg Prod.snd hhome).trans howner⟩
  have hafter := (@after_response env hostId g host (stampedRow resp p) due ys t hdrawn hplaced
    hhost (by simp [stampedRow, hguid])).1 hrow
  rw [hidentity] at hafter
  exact hafter

/-- **The placeholder and the snapshots**: whatever snapshots of the host are consumed before the
response to a create or clone and after it, the placeholder becomes the row of the VM, under its key,
folder and tags, exactly when it can be stamped, and it is that row as long as no snapshot that goes
through omits the VM; it is left without a GUID for good exactly when it cannot be stamped. It cannot
be when the last snapshot before the response lists the VM; with a response without objects only
then, if its values fit.

**Proof sketch.** The snapshots before the response leave the placeholder and the task
(`before_response`), and whether they leave a row of the GUID is the quarantine of their notices. At
the response the placeholder is stamped or stays (`step_response_placeholder`). After it a stamped
row follows the snapshots (`stamped_after`), and one that was not stamped has no GUID that a
snapshot could list. -/
theorem new_vm_iff (s : Committed) (hs : Organization.Reachable env s) {resp : AgentResponse}
    {task : Task} (h : s.world.db.taskOfHost hostId resp.id = some task)
    (hmake : task.kind.makesPlaceholder = true) (hsucc : resp.status = "succeeded")
    (hguid : nonEmpty resp.vmId = some g) (hp : p ∈ s.world.db.vms) (hid : p.id = task.targetId)
    (howner : p.hostId = hostId) (hnone : p.vmUuid = none)
    (hnew : Expiring.get s.world.cache.tombstones (hostId, g) = none)
    (hunknown : ∀ host ∈ s.world.db.host hostId, ∀ vm ∈ s.world.db.vms,
      vm.InScope s.world.db host → vm.vmUuid ≠ some g) (xs ys : List Arrival)
    (hl : Lands env (arrive env hostId s xs).world.now resp) :
    let before := arrive env hostId s xs
    let t := System.step env before (.response hostId resp)
    let after := arrive env hostId t ys
    let stamps := Stamps env (endedWorld env before.world resp task) hostId resp.stripped p
    ((∃ vm ∈ after.world.db.vms, vm.identity = (p.id, some g, p.folderId, p.tagIds) ∧
        vm.hostId = hostId) ↔
      stamps ∧ ∀ e ∈ notices env hostId g 0 t ys, e.report ≠ some false) ∧
    (p ∈ after.world.db.vms ↔ ¬ stamps) ∧
    (Quarantine.Listed (notices env hostId g 0 s xs) → ¬ stamps) ∧
    (responseVmItems resp.stripped = [] →
      (stamps ↔ ¬ Quarantine.Listed (notices env hostId g 0 s xs) ∧
        (stampedRow resp p).bindable = true)) := by
  intro before t after stamps
  obtain ⟨hdrawn, hplaced⟩ := drawn_and_placed hs
  obtain ⟨host, hhost⟩ : ∃ host, s.world.db.host hostId = some host := by
    obtain ⟨host, hmem, hhid⟩ := List.mem_map.mp (s.consistent.keyed.vmHost p hp)
    exact ⟨host, s.consistent.host_eq_some.mpr ⟨hmem, hhid.trans howner⟩⟩
  obtain ⟨hdrawn₁, hplaced₁, hhost₁, hp₁, htasks₁⟩ :=
    before_response xs hdrawn hplaced hhost hp hnone
  have hfound : before.world.db.taskOfHost hostId resp.id = some task := by
    unfold Db.taskOfHost Db.task at h ⊢
    rw [htasks₁]
    exact h
  obtain ⟨hstamped, hrefused⟩ := step_response_placeholder hfound hmake hsucc hl hp₁ hid
  obtain ⟨host', hhost'⟩ := host_of_response hdrawn₁ hhost₁ resp
  have hdrawn' : RowsDrawn env t.world := rowsDrawn_step hdrawn₁ (.system (.response hostId resp))
  have hplaced' : t.world.db.Placed := placed_step hdrawn₁ hplaced₁ (.system (.response hostId resp))
  -- the placeholder stays as it is, or is the row of the VM from then on
  have hleft : ¬ stamps → p ∈ after.world.db.vms := by
    intro hnot
    have hpt : p ∈ t.world.db.vms := by
      rw [hrefused hnot]
      exact hp₁
    exact (before_response ys hdrawn' hplaced' hhost' hpt hnone).2.2.2.1
  have hbecomes := fun hst : stamps => @stamped_after env hostId g host' p 0 t resp hdrawn'
    hplaced' hhost' hguid howner (by
      rw [hstamped hst]
      exact List.mem_map_of_mem (Table.mem_store.mpr (Or.inr ⟨rfl, p, hp₁, rfl⟩))) ys
  obtain ⟨hrow, hstays⟩ := placeholder_outcome hnone hleft hbecomes
  -- what the snapshots before the response have left
  have hstart : Quarantined hostId g 0 s Quarantine.absent := by
    refine ⟨fun hheld => ?_, fun _ => hnew, fun hpr => ?_, fun _ => hunknown, fun hheld => ?_⟩
    · cases hheld
    · cases hpr
    · cases hheld
  have hq : Quarantined hostId g 0 before
      (Quarantine.run Quarantine.absent (notices env hostId g 0 s xs)) :=
    (quarantined_run xs hdrawn hplaced hhost hstart).2
  have hpresent := (@Quarantine.run_open_present_iff (notices env hostId g 0 s xs)).2
  have hlisted : Quarantine.Listed (notices env hostId g 0 s xs) → ¬ stamps := fun hlist =>
    not_stamps_of_row hplaced₁ hhost₁ hp₁ howner hnone hguid (hq.row (hpresent.mpr hlist))
  refine ⟨hrow, hstays, hlisted, fun hbare => ⟨fun hst => ?_, ?_⟩⟩
  · exact ⟨fun hlist => hlisted hlist hst, bindable_of_stamps_bare hp₁ hfound hl hbare hst⟩
  · rintro ⟨hlist, hfit⟩
    have habsent := hq.absent (by simpa using fun hpr => hlist (hpresent.mp hpr)) host hhost₁
    exact stamps_bare_of_absent hplaced₁ hhost₁ hp₁ howner hguid hfound hl hbare habsent hfit

end Runs

namespace Demo

/-- The create of the VM `"vm"` is queued. -/
@[irreducible] def createQueued : Committed :=
  System.run settings start [.createVm 0 user { name := "vm", hostId := "h" }]

/-- The agent's end of the create. -/
def made : AgentResponse :=
  { id := "x", function := "vm_create", status := "succeeded", vmId := some "g" }

/-- A snapshot from after the create. -/
def ahead : List Arrival := [.snapshot (snapshot ["g"])]

end Demo

/-- A snapshot that is ahead of the response leaves the placeholder for good. -/
theorem new_vm_iff_ahead : ∃ p ∈ Demo.createQueued.world.db.vms, p.vmUuid = none ∧
    p ∈ (arrive Demo.settings "h" (System.step Demo.settings
      (arrive Demo.settings "h" Demo.createQueued Demo.ahead)
      (.response "h" Demo.made)) Demo.ahead).world.db.vms := by
  obtain ⟨task, h⟩ : ∃ task, Demo.createQueued.world.db.taskOfHost "h" Demo.made.id = some task :=
    Option.isSome_iff_exists.mp (by decide +kernel)
  have htask : ∀ t ∈ Demo.createQueued.world.db.taskOfHost "h" Demo.made.id,
      t.kind.makesPlaceholder = true ∧ t.targetId = "" := by decide +kernel
  obtain ⟨hmake, htarget⟩ := htask task h
  obtain ⟨p, hp, hid, howner, hnone⟩ : ∃ p ∈ Demo.createQueued.world.db.vms, p.id = "" ∧
      p.hostId = "h" ∧ p.vmUuid = none := by decide +kernel
  have hreachable : Organization.Reachable Demo.settings Demo.createQueued := by
    refine ⟨Demo.start, [.system (.createVm 0 Demo.user { name := "vm", hostId := "h" })],
      Demo.start_initial, ?_⟩
    unfold Demo.createQueued
    rfl
  have hnew : Expiring.get Demo.createQueued.world.cache.tombstones ("h", "g") = none := by
    decide +kernel
  have hunknown : ∀ host ∈ Demo.createQueued.world.db.host "h",
      ∀ vm ∈ Demo.createQueued.world.db.vms, vm.InScope Demo.createQueued.world.db host →
        vm.vmUuid ≠ some "g" := by
    have hnone : ∀ vm ∈ Demo.createQueued.world.db.vms, vm.vmUuid ≠ some "g" := by decide +kernel
    exact fun _ _ vm hvm _ => hnone vm hvm
  have hl : Lands Demo.settings
      (arrive Demo.settings "h" Demo.createQueued Demo.ahead).world.now Demo.made := by
    unfold Demo.createQueued
    decide +kernel
  obtain ⟨-, hleft, hlisted, -⟩ := new_vm_iff Demo.createQueued hreachable h hmake rfl
    (g := "g") rfl hp (hid.trans htarget.symm) howner hnone hnew hunknown Demo.ahead Demo.ahead hl
  refine ⟨p, hp, hnone, hleft.mpr (hlisted ?_)⟩
  rw [← Quarantine.run_open_present_iff.2]
  unfold Demo.createQueued
  decide +kernel

end OpenVCenter
