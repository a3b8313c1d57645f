import OpenVCenter.Foundations.Quarantine
import OpenVCenter.Handover
import OpenVCenter.Redelivery

set_option relaxedAutoImplicit false
set_option autoImplicit false

/-!
# A deleted VM and the snapshots behind it

A delete that has succeeded drops the row of the VM at once, while snapshots taken before it may
still be on their queue. The GUID is remembered in a tombstone for a quarter of an hour, and a
snapshot that lists it is not believed. The tombstone is cleared by a snapshot that has not *seen*
the GUID, and a snapshot that was not believed has not seen it either: the first snapshot that gets
to its end clears the tombstone, whatever it lists.

## Main definitions

* `OpenVCenter.Arrival` — a snapshot of the host, or the passage of time.
* `OpenVCenter.notices` — what the arrivals of a run do to the tombstone and say of the GUID.
* `OpenVCenter.Quarantined` — the tombstone and the row, in the terms of `Quarantine`.

## Main results

* `OpenVCenter.quarantined_delete` — the response to a delete sets the tombstone and drops the row.
* `OpenVCenter.quarantined_step` — what one arrival does.
* `OpenVCenter.deleted_returns_iff` — **over every run of snapshots the deleted VM has a row again
  exactly when a snapshot that goes through lists it after the tombstone is gone, and none that goes
  through omits it after that**.
-/

namespace OpenVCenter

open Effect

variable {env : Env} {hostId g : String}

/-! ## Arrivals -/

/-- What happens after the delete: a snapshot of the host is consumed, or time passes. -/
inductive Arrival where
  | snapshot (payload : Json)
  | wait (elapsed : ℕ)

/-- The event of an arrival. -/
def Arrival.event (hostId : String) : Arrival → Event
  | .snapshot payload => .vmInventory hostId payload
  | .wait elapsed => .tick elapsed

/-- The state after some arrivals. -/
def arrive (env : Env) (hostId : String) (s : Committed) (xs : List Arrival) : Committed :=
  System.run env s (xs.map (Arrival.event hostId))

/-- The loops of a snapshot go through, so that it gets to the tombstones. -/
def confirms (env : Env) (hostId : String) (s : Committed) (payload : Json) : Bool :=
  match s.world.db.host hostId with
  | none => false
  | some host =>
    match payload.asDict >>= fun d => (d.getD "vms" (.arr [])).iterate with
    | .ok items => (reconcile env host items (atStart s.world)).1.isOk
    | .error _ => false

/-- What an arrival does to a tombstone that is due at `due`, and what it says of its GUID. -/
def notice (env : Env) (hostId g : String) (due : Time) (s : Committed) :
    Arrival → Quarantine.Notice
  | .snapshot payload =>
    { lifts := confirms env hostId s payload
      report := if Snapshot.accepted env s ⟨hostId, payload⟩
        then some (Snapshot.lists env g ⟨hostId, payload⟩) else none }
  | .wait elapsed => { lifts := decide (due ≤ s.world.now + elapsed), report := none }

/-- What the arrivals of a run do and say. -/
def notices (env : Env) (hostId g : String) (due : Time) :
    Committed → List Arrival → List Quarantine.Notice
  | _, [] => []
  | s, x :: xs =>
    notice env hostId g due s x ::
      notices env hostId g due (System.step env s (x.event hostId)) xs

/-! ## The tombstones -/

section Tombstones

variable {w t : World} {host : Host} {scan scan' : Scan} {raw : Json} {items : List Json}
  {tombstoned : String → Bool}

/-- The loop knows nothing of a GUID: no row of it was found, and no item of it was read. -/
def Unseen (g : String) (scan : Scan) : Prop :=
  (∀ ref ∈ scan.existing, ref.1 ≠ g) ∧ g ∉ scan.seen

/-- An item of a deleted GUID is skipped. -/
lemma unseen_reconcileItem (htomb : tombstoned g = true) (h : Unseen g scan)
    (hrun : reconcileItem env host tombstoned scan raw w = (.ok scan', t)) : Unseen g scan' := by
  obtain ⟨image, d, item, key, -, hkey⟩ := reconcileItem_eq_ok.mp hrun
  cases key with
  | absent => exact hkey.1 ▸ h
  | unbindable => exact hkey.1 ▸ h
  | guid u =>
    dsimp only at hkey
    split_ifs at hkey with hskip
    · exact hkey.1 ▸ h
    · -- the item is of another GUID
      have hne : u ≠ g := by
        rintro rfl
        refine hskip ?_
        have hnone : scan.find w.db u = none := by
          rcases hfind : scan.find w.db u with _ | vm
          · rfl
          · exact absurd rfl (h.1 _ (Scan.find_eq_some hfind).1)
        simp [hnone, htomb]
      obtain ⟨vm, text, -, -, rfl, -⟩ := writeListed_eq_ok.mp hkey
      refine ⟨fun ref href => ?_, ?_⟩
      · unfold Scan.enter at href
        rcases hfind : scan.find w.db u with _ | found
        · rw [hfind] at href
          rcases mem_dictSet href with href | rfl
          · exact h.1 ref href
          · exact hne
        · rw [hfind] at href
          exact h.1 ref href
      · simp only [List.mem_cons, not_or]
        exact ⟨Ne.symm hne, h.2⟩

/-- What the loops of a snapshot do to the tombstones. -/
lemma reconcile_tombstones : (reconcile env host items w).2.cache.tombstones =
    match (reconcile env host items w).1 with
    | .ok scan => Expiring.eraseWhere w.cache.tombstones fun k =>
        decide (k.1 = host.id) && (listDeletedVmUuids host.id w k.2 && decide (k.2 ∉ scan.seen))
    | .error _ => w.cache.tombstones := by
  have hitems : Keeps (Frame.same fun w : World => w.cache.tombstones)
      (items.foldlM (reconcileItem env host (listDeletedVmUuids host.id w))
        { existing := existingVms w.db (inventoryScopeHostIds w.db host) }) :=
    keeps_foldlM (fun _ _ _ => keeps_reconcileItem (fun _ _ _ => rfl) (fun _ _ => rfl)
      (fun _ _ => rfl) (fun _ _ _ => rfl) (fun _ => rfl) _ _ _ _) _
  have hdrops : ∀ scan : Scan, Keeps (Frame.same fun w : World => w.cache.tombstones)
      (scan.existing.foldlM (fun _ ref => dropUnreported env host scan.seen ref) ()) := fun scan =>
    keeps_foldlM (fun _ _ _ => keeps_dropUnreported (fun _ _ => rfl) (fun _ _ => rfl)
      (fun _ => keeps_record (fun _ _ _ => rfl) (fun _ _ => rfl) _ _ _ _ _) _ _ _) _
  unfold reconcile
  rw [Prog.read_bind_run]
  have hfirst := hitems w
  rcases hloop : items.foldlM (reconcileItem env host (listDeletedVmUuids host.id w))
    { existing := existingVms w.db (inventoryScopeHostIds w.db host) } w with ⟨e | scan, w₁⟩
  · rw [hloop] at hfirst
    rw [Prog.bind_run_error hloop]
    exact hfirst
  rw [hloop] at hfirst
  rw [Prog.bind_run_ok hloop]
  have hsecond := hdrops scan w₁
  rcases hdrop : scan.existing.foldlM (fun _ ref => dropUnreported env host scan.seen ref) () w₁ with
    ⟨e | ⟨⟩, w₂⟩
  · rw [hdrop] at hsecond
    rw [Prog.bind_run_error hdrop]
    exact hsecond.trans hfirst
  · rw [hdrop] at hsecond
    rw [Prog.bind_run_ok hdrop]
    have hsame : w₂.cache.tombstones = w.cache.tombstones := hsecond.trans hfirst
    show Expiring.eraseWhere w₂.cache.tombstones _ = _
    rw [hsame]
    rfl

/-- The loop of a snapshot that gets to the tombstones. -/
lemma loop_of_reconcile (h : reconcile env host items w = (.ok scan, t)) :
    ∃ w₁, items.foldlM (reconcileItem env host (listDeletedVmUuids host.id w))
      { existing := existingVms w.db (inventoryScopeHostIds w.db host) } w = (.ok scan, w₁) := by
  unfold reconcile at h
  rw [Prog.read_bind_run] at h
  obtain ⟨scan', w₁, hloop, hrest⟩ := Prog.bind_eq_ok.mp h
  obtain ⟨⟨⟩, w₂, -, hrest⟩ := Prog.bind_eq_ok.mp hrest
  obtain ⟨⟨⟩, w₃, -, hlast⟩ := Prog.bind_eq_ok.mp hrest
  cases hlast
  exact ⟨w₁, hloop⟩

/-- A deleted GUID without a row in scope is not seen. -/
lemma not_seen_of_reconcile (h : reconcile env host items w = (.ok scan, t))
    (htomb : listDeletedVmUuids host.id w g = true)
    (habsent : ∀ vm ∈ w.db.vms, vm.InScope w.db host → vm.vmUuid ≠ some g) : g ∉ scan.seen := by
  obtain ⟨w₁, hloop⟩ := loop_of_reconcile h
  have hstart : Unseen g { existing := existingVms w.db (inventoryScopeHostIds w.db host) } := by
    refine ⟨fun ref href hg => ?_, by simp⟩
    obtain ⟨vm, hvm, hscope, hguid, -⟩ := mem_existingVms href
    exact habsent vm hvm hscope (hguid.trans (congrArg some hg))
  exact (foldlM_ok_induct (I := fun scan _ => Unseen g scan) hloop hstart
    fun _ _ _ _ _ _ hI hrun => unseen_reconcileItem htomb hI hrun).2

/-- What follows the loops leaves the tombstones alone. -/
lemma applyVmInventory_tombstones {payload : Json} (hhost : w.db.host hostId = some host) :
    (applyVmInventory env hostId payload w).2.cache.tombstones =
      match payload.asDict >>= fun d => (d.getD "vms" (.arr [])).iterate with
      | .ok items => (reconcile env host items w).2.cache.tombstones
      | .error _ => w.cache.tombstones := by
  unfold applyVmInventory
  rw [Prog.read_bind_run, hhost]
  dsimp only
  rcases hd : payload.asDict with e | d
  · rfl
  rw [Prog.ofExcept_ok, Prog.pure_bind_run]
  have hparse : ((Except.ok d : Except Raised Dict) >>= fun d =>
      (d.getD "vms" (.arr [])).iterate) = (d.getD "vms" (.arr [])).iterate := rfl
  rw [hparse]
  rcases (d.getD "vms" (.arr [])).iterate with e | items
  · rfl
  rw [Prog.ofExcept_ok, Prog.pure_bind_run]
  dsimp only
  rcases hrun : reconcile env host items w with ⟨e | scan, w₁⟩
  · rw [Prog.bind_run_error hrun]
  rw [Prog.bind_run_ok hrun]
  have hrest : Keeps (Frame.same fun w : World => w.cache.tombstones)
      (if scan.thumbnails.isEmpty then pure ()
      else do
        flush
        modifyDb
          (upsertThumbnails scan.thumbnails ((parseDt env (d.get "reported_at")).getD w.now))
        flush) := by
    split
    · exact keeps_pure _
    · exact keeps_bind keeps_flush fun _ => keeps_bind (keeps_modify fun _ => rfl) fun _ =>
        keeps_flush
  exact hrest w₁

end Tombstones

/-! ## One arrival -/

/-- The tombstone of the GUID and its row: the tombstone is on until `due`, or gone; the host has the
row, or no row in its scope has the GUID. -/
structure Quarantined (hostId g : String) (due : Time) (s : Committed) (q : Quarantine.State) :
    Prop where
  tombstone : q.held = true → ∃ v, s.world.cache.tombstones (hostId, g) = some ⟨v, due⟩
  cleared : q.held = false → Expiring.get s.world.cache.tombstones (hostId, g) = none
  row : q.present = true → ∃ vm ∈ s.world.db.vms, vm.hostId = hostId ∧ vm.vmUuid = some g
  absent : q.present = false → ∀ host ∈ s.world.db.host hostId, ∀ vm ∈ s.world.db.vms,
    vm.InScope s.world.db host → vm.vmUuid ≠ some g
  apart : q.held = true → q.present = false

section Step

variable {s : Committed} {host : Host} {payload : Json} {due : Time} {q : Quarantine.State}

/-- A snapshot of a host is rolled back, or is one that goes through. -/
lemma snapshot_run (hhost : s.world.db.host hostId = some host) (payload : Json) :
    (Snapshot.accepted env s ⟨hostId, payload⟩ = false ∧
      (System.step env s (.vmInventory hostId payload)).world.db = s.world.db) ∨
    Snapshot.accepted env s ⟨hostId, payload⟩ = true ∧ ∃ report : VmReport,
      payloadItems payload = report.items ∧
      sessionScope (applyVmInventory env host.id (.obj report.payload)) (atStart s.world) =
        (.ok (), (System.step env s (.vmInventory hostId payload)).world) := by
  obtain ⟨-, hid⟩ := s.consistent.host_eq_some.mp hhost
  have hstep : (System.step env s (.vmInventory hostId payload)).world =
      (savepoint (applyVmInventory env hostId payload) (atStart s.world)).2 := rfl
  have haccepted : Snapshot.accepted env s ⟨hostId, payload⟩ =
      (savepoint (applyVmInventory env hostId payload) (atStart s.world)).1.isOk := rfl
  rcases savepoint_cases (applyVmInventory env hostId payload) (atStart s.world) with
    ⟨⟨⟩, t, hrun, -, hsave⟩ | ⟨e, hsave⟩
  · right
    obtain ⟨report, hpayload, hitems⟩ :=
      @report_of_accepted env ⟨hostId, payload⟩ host t (atStart s.world) hhost hrun
    dsimp only at hpayload hitems
    refine ⟨by rw [haccepted, hsave]; rfl, report, hitems, ?_⟩
    rw [hstep, hid, ← hpayload, sessionScope, hsave]
  · left
    rw [haccepted, hstep, hsave]
    exact ⟨rfl, rfl⟩

/-- The tombstones after a snapshot: a rollback does not bring them back. -/
lemma tombstones_of_snapshot (hhost : s.world.db.host hostId = some host) (payload : Json) :
    (confirms env hostId s payload = false ∧
      (System.step env s (.vmInventory hostId payload)).world.cache.tombstones =
        s.world.cache.tombstones) ∨
    confirms env hostId s payload = true ∧ ∃ items scan t,
      reconcile env host items (atStart s.world) = (.ok scan, t) ∧
      (System.step env s (.vmInventory hostId payload)).world.cache.tombstones =
        Expiring.eraseWhere s.world.cache.tombstones fun k => decide (k.1 = host.id) &&
          (listDeletedVmUuids host.id s.world k.2 && decide (k.2 ∉ scan.seen)) := by
  have hafter : (System.step env s (.vmInventory hostId payload)).world.cache.tombstones =
      (applyVmInventory env hostId payload (atStart s.world)).2.cache.tombstones := by
    show (savepoint (applyVmInventory env hostId payload)
      (atStart s.world)).2.cache.tombstones = _
    rcases savepoint_cases (applyVmInventory env hostId payload) (atStart s.world) with
      ⟨⟨⟩, t, hrun, -, hsave⟩ | ⟨e, hsave⟩
    · rw [hsave, hrun]
    · rw [hsave]
      rfl
  rw [applyVmInventory_tombstones (w := atStart s.world) hhost] at hafter
  unfold confirms
  rw [hhost, hafter]
  dsimp only
  rcases payload.asDict >>= fun d => (d.getD "vms" (.arr [])).iterate with e | items
  · exact Or.inl ⟨rfl, rfl⟩
  dsimp only
  rw [reconcile_tombstones]
  rcases hrun : reconcile env host items (atStart s.world) with ⟨e | scan, t⟩
  · exact Or.inl ⟨rfl, rfl⟩
  · exact Or.inr ⟨rfl, items, scan, t, hrun, rfl⟩

/-- A snapshot that goes through gets to the tombstones. -/
lemma confirms_of_accepted (hhost : s.world.db.host hostId = some host)
    (h : Snapshot.accepted env s ⟨hostId, payload⟩ = true) :
    confirms env hostId s payload = true := by
  have haccepted : (savepoint (applyVmInventory env hostId payload)
      (atStart s.world)).1.isOk = true := h
  rcases savepoint_cases (applyVmInventory env hostId payload) (atStart s.world) with
    ⟨⟨⟩, t, hrun, -, hsave⟩ | ⟨e, hsave⟩
  · unfold applyVmInventory at hrun
    rw [Prog.read_bind_run] at hrun
    unfold confirms
    rw [hhost]
    have hfound : (atStart s.world).db.host hostId = some host := hhost
    rw [hfound] at hrun
    obtain ⟨d, w₁, hd, hrest⟩ := Prog.bind_eq_ok.mp hrun
    obtain ⟨hdict, rfl⟩ := Prog.ofExcept_eq_ok.mp hd
    obtain ⟨items, w₂, hitems, hrest⟩ := Prog.bind_eq_ok.mp hrest
    obtain ⟨hlisted, rfl⟩ := Prog.ofExcept_eq_ok.mp hitems
    obtain ⟨scan, w₃, hreconcile, -⟩ := Prog.bind_eq_ok.mp hrest
    simp only [hdict, hlisted, bind, Except.bind]
    rw [hreconcile]
    rfl
  · rw [hsave] at haccepted
    cases haccepted

/-- A snapshot leaves the hosts alone. -/
lemma hosts_of_snapshot (s : Committed) (hostId : String) (payload : Json) :
    (System.step env s (.vmInventory hostId payload)).world.db.hosts = s.world.db.hosts :=
  keeps_savepoint (F := Frame.same fun w : World => w.db.hosts) (fun _ _ _ => rfl)
    (keeps_applyVmInventory (fun _ _ _ => rfl) (fun _ _ => rfl) (fun _ _ => rfl) (fun _ _ => rfl)
      (fun _ _ _ => rfl) (fun _ _ => rfl)
      (fun _ => keeps_record (fun _ _ _ => rfl) (fun _ _ => rfl) _ _ _ _ _) (fun _ => rfl)
      (fun _ _ => rfl) hostId payload) (atStart s.world)

/-- What a scope is depends on the hosts only. -/
lemma inScope_congr {db db' : Db} {vm : Vm} (h : db'.hosts = db.hosts) (hscope : vm.InScope db' host) :
    vm.InScope db host := by
  unfold Vm.InScope inventoryScopeHostIds at hscope ⊢
  rwa [h] at hscope

/-- The row after a snapshot that goes through: there when the GUID is listed and is not of a deleted
VM. -/
lemma row_of_accepted (hplaced : s.world.db.Placed) (hhost : s.world.db.host hostId = some host)
    {report : VmReport} (hitems : payloadItems payload = report.items)
    (hrun : sessionScope (applyVmInventory env host.id (.obj report.payload)) (atStart s.world) =
      (.ok (), (System.step env s (.vmInventory hostId payload)).world)) :
    ((Snapshot.lists env g ⟨hostId, payload⟩ = true ∧ ¬ Lapsed s.world host g) →
      ∃ vm ∈ (System.step env s (.vmInventory hostId payload)).world.db.vms,
        vm.hostId = hostId ∧ vm.vmUuid = some g) ∧
    (¬ (Snapshot.lists env g ⟨hostId, payload⟩ = true ∧ ¬ Lapsed s.world host g) →
      (∀ vm ∈ s.world.db.vms, vm.InScope s.world.db host → vm.vmUuid = some g →
        vm.hostId = hostId) →
      ∀ vm ∈ (System.step env s (.vmInventory hostId payload)).world.db.vms,
        vm.InScope s.world.db host → vm.vmUuid ≠ some g) := by
  obtain ⟨hmem, hid⟩ := s.consistent.host_eq_some.mp hhost
  obtain ⟨scan, w₁, w₂, hscan, hn₁, hdrop, hvms⟩ :=
    loops_of_snapshot (s := ⟨atStart s.world, s.consistent⟩) hplaced hmem hrun
  have hown : host.id ∈ inventoryScopeHostIds s.world.db host :=
    (stands_of_host (s.consistent.host_eq_some.mpr ⟨hmem, rfl⟩)).mem_scope
  have hlists : Snapshot.lists env g ⟨hostId, payload⟩ = true ↔ g ∈ listedGuids env report.items := by
    simp [Snapshot.lists, hitems]
  have hseen : g ∈ scan.seen ↔
      Snapshot.lists env g ⟨hostId, payload⟩ = true ∧ ¬ Lapsed s.world host g := by
    rw [hlists]
    exact hscan.seen g
  rw [← hseen, hvms]
  constructor
  · intro h
    obtain ⟨vm, hvm, howner, hguid⟩ :=
      mem_guidsOf.mp ((mem_guidsOf_left hscan hn₁ hown hdrop).mpr h)
    exact ⟨vm, hvm, howner.trans hid, hguid⟩
  · intro h honly vm hvm hscope hguid
    obtain ⟨hvm₁, hstays⟩ := (mem_left hscan hn₁ hown hdrop).mp hvm
    -- no item was about the row
    have hunlisted : unlisted (inventoryScopeHostIds s.world.db host) scan.seen vm = true := by
      refine decide_eq_true fun _ u hu => ?_
      rw [Option.mem_def, hguid] at hu
      exact Option.some.inj hu ▸ h
    have hold := (hscan.written.mem_iff hunlisted).mp hvm₁
    exact h (hstays ((honly vm hold hscope hguid).trans hid.symm) g hguid)

/-- No two rows in scope of a host have one GUID. -/
lemma row_unique (hplaced : s.world.db.Placed) (hhost : s.world.db.host hostId = some host)
    {vm v : Vm} (hvm : vm ∈ s.world.db.vms) (howner : vm.hostId = hostId)
    (hguid : vm.vmUuid = some g) (hv : v ∈ s.world.db.vms) (hscope : v.InScope s.world.db host)
    (hvguid : v.vmUuid = some g) : v = vm := by
  obtain ⟨hmem, hid⟩ := s.consistent.host_eq_some.mp hhost
  have hown : vm.InScope s.world.db host := by
    unfold Vm.InScope
    rw [howner, ← hid]
    exact (stands_of_host (s.consistent.host_eq_some.mpr ⟨hmem, rfl⟩)).mem_scope
  by_contra hne
  have : Std.Symm fun a b : Vm => ∀ u ∈ a.vmUuid, b.vmUuid ≠ some u :=
    ⟨fun a b hab u hu hb => hab u hb hu⟩
  exact (guids_apart s.consistent hplaced hmem).forall
    (List.mem_filter.mpr ⟨hv, decide_eq_true hscope⟩)
    (List.mem_filter.mpr ⟨hvm, decide_eq_true hown⟩) hne g hvguid hguid

/-- A deleted GUID is lapsed while its tombstone is on. -/
lemma lapsed_of_held (hhost : s.world.db.host hostId = some host)
    (h : Quarantined hostId g due s q) (hheld : q.held = true) : Lapsed s.world host g := by
  obtain ⟨-, hid⟩ := s.consistent.host_eq_some.mp hhost
  obtain ⟨v, hentry⟩ := h.tombstone hheld
  refine ⟨?_, h.absent (h.apart hheld) host hhost⟩
  unfold listDeletedVmUuids
  rw [hid, Expiring.get_eq_some.mpr ⟨due, hentry⟩]
  rfl

/-- A GUID whose quarantine is lifted has not lapsed. -/
lemma not_lapsed_of_cleared (hhost : s.world.db.host hostId = some host)
    (h : Quarantined hostId g due s q) (hheld : q.held = false) : ¬ Lapsed s.world host g := by
  obtain ⟨-, hid⟩ := s.consistent.host_eq_some.mp hhost
  rintro ⟨htomb, -⟩
  unfold listDeletedVmUuids at htomb
  rw [hid, h.cleared hheld] at htomb
  cases htomb

/-- The tombstone after a snapshot. -/
lemma tombstone_of_snapshot (hhost : s.world.db.host hostId = some host)
    (h : Quarantined hostId g due s q) (payload : Json) :
    let after := (System.step env s (.vmInventory hostId payload)).world.cache.tombstones
    ((q.held && !confirms env hostId s payload) = true →
      ∃ v, after (hostId, g) = some ⟨v, due⟩) ∧
    ((q.held && !confirms env hostId s payload) = false →
      Expiring.get after (hostId, g) = none) := by
  dsimp only
  obtain ⟨-, hid⟩ := s.consistent.host_eq_some.mp hhost
  rcases @tombstones_of_snapshot env hostId s host hhost payload with
    ⟨hnot, hafter⟩ | ⟨hconfirms, items, scan, t, hrun, hafter⟩
  · rw [hafter, hnot]
    simp only [Bool.not_false, Bool.and_true]
    exact ⟨h.tombstone, h.cleared⟩
  · rw [hafter, hconfirms]
    simp only [Bool.not_true, Bool.and_false, Bool.false_eq_true, false_implies, true_and]
    intro _
    rw [Expiring.get_eraseWhere]
    split_ifs with herased
    · rfl
    · by_cases hheld : q.held = true
      · -- the snapshot has not seen the GUID
        obtain ⟨htomb, habsent⟩ := lapsed_of_held hhost h hheld
        have hseen : g ∉ scan.seen := not_seen_of_reconcile hrun htomb habsent
        exact absurd (by simp [hid ▸ htomb, hseen, hid]) herased
      · exact h.cleared (by simpa using hheld)

/-- What a snapshot does to the tombstone and the row.

**Proof sketch.** A snapshot that is rolled back changes neither row nor tombstone. One that goes
through is a step of the quarantine: the row is back exactly if the GUID is listed and has not
lapsed, and it has lapsed exactly while the quarantine holds. -/
lemma quarantined_snapshot (hplaced : s.world.db.Placed)
    (hhost : s.world.db.host hostId = some host) (h : Quarantined hostId g due s q)
    (payload : Json) :
    Quarantined hostId g due (System.step env s (.vmInventory hostId payload))
      (Quarantine.step q (notice env hostId g due s (.snapshot payload))) := by
  obtain ⟨htombstone, hcleared⟩ := @tombstone_of_snapshot env hostId g s host due q hhost h payload
  have hhosts := @hosts_of_snapshot env s hostId payload
  have hhost' : (System.step env s (.vmInventory hostId payload)).world.db.host hostId = some host :=
    (host_congr hhosts hostId).trans hhost
  rcases @snapshot_run env hostId s host hhost payload with
    ⟨hrefused, hdb⟩ | ⟨haccepted, report, hitems, hrun⟩
  · -- the database is as it was
    have hsame : (Quarantine.step q (notice env hostId g due s (.snapshot payload))).present =
        q.present := Quarantine.step_present_none (by simp [notice, hrefused])
    refine ⟨htombstone, hcleared, fun hp => ?_, fun hp => ?_, fun hheld => ?_⟩
    · rw [hdb]
      exact h.row (hsame ▸ hp)
    · rw [hdb]
      exact h.absent (hsame ▸ hp)
    · rw [Quarantine.step_held, Bool.and_eq_true] at hheld
      rw [hsame]
      exact h.apart hheld.1
  · have hconfirms := confirms_of_accepted hhost haccepted
    obtain ⟨hback, haway⟩ := row_of_accepted (g := g) hplaced hhost hitems hrun
    have hpresent : (Quarantine.step q (notice env hostId g due s (.snapshot payload))).present =
        true ↔ Snapshot.lists env g ⟨hostId, payload⟩ = true ∧ ¬ Lapsed s.world host g := by
      cases hlists : Snapshot.lists env g ⟨hostId, payload⟩ with
      | false => simp [Quarantine.step, notice, haccepted, hlists]
      | true =>
        rw [Quarantine.step_present_listed (by simp [notice, haccepted, hlists])]
        cases hheld : q.held with
        | true => simp [h.apart hheld, lapsed_of_held hhost h hheld]
        | false => simp [not_lapsed_of_cleared hhost h hheld]
    refine ⟨htombstone, hcleared, fun hp => hback (hpresent.mp hp), fun hp => ?_, fun hheld => ?_⟩
    · rw [hhost']
      rintro found ⟨⟩ vm hvm hscope
      refine haway (fun hlists => ?_) (fun v hv hvscope hvguid => ?_) vm hvm
        (inScope_congr hhosts hscope)
      · rw [hpresent.mpr hlists] at hp
        cases hp
      · cases hq : q.present with
        | true =>
          obtain ⟨row, hrow, howner, hguid⟩ := h.row hq
          rw [row_unique hplaced hhost hrow howner hguid hv hvscope hvguid]
          exact howner
        | false => exact absurd hvguid (h.absent hq host hhost v hv hvscope)
    · rw [Quarantine.step_held] at hheld
      simp [notice, hconfirms] at hheld

/-- What the passage of time does. -/
lemma quarantined_wait (h : Quarantined hostId g due s q) (elapsed : ℕ) :
    Quarantined hostId g due (System.step env s (.tick elapsed))
      (Quarantine.step q (notice env hostId g due s (.wait elapsed))) := by
  refine ⟨fun hheld => ?_, fun hheld => ?_, h.row, h.absent, fun hheld => ?_⟩
  · -- the tombstone is not due yet
    rw [Quarantine.step_held, Bool.and_eq_true] at hheld
    obtain ⟨v, hentry⟩ := h.tombstone hheld.1
    refine ⟨v, Expiring.expire_eq_some.mpr ⟨hentry, ?_⟩⟩
    simpa [notice] using hheld.2
  · rw [Quarantine.step_held, Bool.and_eq_false_iff] at hheld
    refine Expiring.get_eq_none.mpr ?_
    rcases hentry : (System.step env s (.tick elapsed)).world.cache.tombstones (hostId, g) with _ | e
    · rfl
    · obtain ⟨hold, hdue⟩ := Expiring.expire_eq_some.mp hentry
      rcases hheld with hheld | hheld
      · rw [Expiring.get_eq_none.mp (h.cleared hheld)] at hold
        cases hold
      · by_cases hq : q.held = true
        · obtain ⟨v, hv⟩ := h.tombstone hq
          rw [hv] at hold
          cases hold
          simp [notice] at hheld
          exact absurd hdue (not_lt.mpr hheld)
        · rw [Expiring.get_eq_none.mp (h.cleared (by simpa using hq))] at hold
          cases hold
  · rw [Quarantine.step_held, Bool.and_eq_true] at hheld
    exact h.apart hheld.1

end Step

/-! ## The delete -/

section Delete

variable {s : Committed} {w : World} {resp : AgentResponse} {task : Task} {vm : Vm}

/-- The VM part of a delete that has succeeded. -/
lemma vmStage_delete (hc : w.db.Consistent) (hkind : task.kind = .vm_delete)
    (hsucc : task.status = .succeeded) (hvm : w.db.vm task.targetId = some vm)
    (hguid : vm.vmUuid = some g) (hg : g ≠ "") :
    (vmStage env hostId resp task w).2.db = w.db.deleteVm task.targetId ∧
      (vmStage env hostId resp task w).2.cache.tombstones =
        Expiring.put w.cache.tombstones (hostId, g) w.now (w.now + seconds vmTombstoneTtl) := by
  have hdelete : applyResponseState env hostId resp task w = applyDelete hostId task w := by
    unfold applyResponseState
    simp [hkind, hsucc, TaskKind.makesPlaceholder]
  have hnonempty : g.isEmpty = false := by
    rw [← Bool.not_eq_true, String.isEmpty_iff]
    exact hg
  have hrun : applyDelete hostId task w = (.ok (), { w with
      db := w.db.deleteVm task.targetId
      cache := { w.cache with
        vmStates := Expiring.erase w.cache.vmStates task.targetId
        tombstones := Expiring.put w.cache.tombstones (hostId, g) w.now
          (w.now + seconds vmTombstoneTtl) } }) := by
    unfold applyDelete
    rw [Prog.read_bind_run, hvm, Option.bind_some, hguid]
    unfold markVmDeleted
    simp only [hnonempty, Bool.false_eq_true, if_false]
    rfl
  unfold vmStage
  rw [Prog.attempt_run, savepoint_eq_ok.mpr ⟨hdelete.trans hrun, hc.deleteVm _⟩]
  exact ⟨rfl, rfl⟩

/-- **The response to a delete drops the row and sets the tombstone.**

**Proof sketch.** The response lands, so its refresh runs to the end. The template part writes no
VM, so the VM part finds the row of the task and, the delete having succeeded, drops it and sets the
tombstone (`vmStage_delete`); the parts behind it touch neither. -/
theorem quarantined_delete (hplaced : s.world.db.Placed)
    (h : s.world.db.taskOfHost hostId resp.id = some task) (hkind : task.kind = .vm_delete)
    (hsucc : resp.status = "succeeded") (hl : Lands env s.world.now resp)
    (hvm : vm ∈ s.world.db.vms) (htarget : vm.id = task.targetId) (howner : vm.hostId = hostId)
    (hguid : vm.vmUuid = some g) (hg : g ≠ "") :
    Quarantined hostId g (s.world.now + seconds vmTombstoneTtl)
      (System.step env s (.response hostId resp)) Quarantine.removed := by
  have hp : isProgress resp task.status = false := by
    simp [isProgress, hsucc]
  have hfits : StampFits env s.world.db hostId resp task := by
    intro hupgrade
    rw [hkind] at hupgrade
    cases hupgrade
  obtain ⟨t, ht, hworld⟩ := step_response_landed h hp hl hfits
  set w := endedWorld env s.world resp task with hw
  set ended : Task := endedTask env s.world.now resp.stripped task with hended
  have hce : w.db.Consistent :=
    (lifecycleDb_consistent_iff s.consistent (task_of_taskOfHost h)).mpr hl.2
  have hstatus : ended.status = terminalStatus resp.stripped := rfl
  have hkind' : ended.kind = .vm_delete := hkind
  obtain ⟨hdbEnd, htombsEnd⟩ :=
    applyRefresh_of_vm hce hstatus (by rw [hkind']; simp) (by rw [hkind']; rfl) ht
  -- the template part writes no VM
  have hct := @templateStage_consistent env w resp.stripped ended hce
  have hframe : { (templateStage env resp.stripped ended w).2.db with templates := [] } =
    { w.db with templates := [] } := templateStage_frame w
  have hrun := @templateStage_run env resp.stripped ended w
  have hcache : (templateStage env resp.stripped ended w).2.cache = w.cache := by rw [hrun]
  have hnow : (templateStage env resp.stripped ended w).2.now = s.world.now := by
    rw [hrun]
    rfl
  generalize (templateStage env resp.stripped ended w).2 = w₃ at *
  have hvms : w₃.db.vms = s.world.db.vms := (congrArg Db.vms hframe :)
  have hhosts : w₃.db.hosts = s.world.db.hosts := (congrArg Db.hosts hframe :)
  have hfound : w₃.db.vm ended.targetId = some vm := by
    rw [vm_congr hvms]
    exact s.consistent.vm_eq_some.mpr ⟨hvm, htarget⟩
  obtain ⟨hdb, htombs⟩ := @vmStage_delete env hostId g w₃ resp.stripped ended vm hct hkind
    (terminalStatus_eq_succeeded.mpr hsucc) hfound hguid hg
  rw [hdb] at hdbEnd
  rw [htombs, hnow] at htombsEnd
  refine ⟨fun _ => ⟨s.world.now, ?_⟩, fun hheld => ?_, fun hpresent => ?_, ?_, fun _ => rfl⟩
  · rw [hworld, htombsEnd, Expiring.put_self]
  · cases hheld
  · cases hpresent
  · rintro - host hhost v hv hscope hvguid
    rw [hworld, hdbEnd] at hhost hv hscope
    obtain ⟨hv, hstays⟩ := Table.mem_deleteWhere.mp hv
    rw [hvms] at hv
    have hhosts' : (w₃.db.deleteVm ended.targetId).hosts = s.world.db.hosts := hhosts
    have hhost' : s.world.db.host hostId = some host := (host_congr hhosts' hostId).symm.trans hhost
    have hsame := row_unique hplaced hhost' hvm howner hguid hv (inScope_congr hhosts' hscope) hvguid
    exact of_decide_eq_false hstays (hsame ▸ htarget)

end Delete

/-! ## Runs -/

section Runs

variable {due : Time}

/-- What holds of every state of a run of arrivals. -/
lemma quarantined_run (xs : List Arrival) {s : Committed} {q : Quarantine.State} {host : Host}
    (hdrawn : RowsDrawn env s.world) (hplaced : s.world.db.Placed)
    (hhost : s.world.db.host hostId = some host) (h : Quarantined hostId g due s q) :
    (arrive env hostId s xs).world.db.host hostId = some host ∧
      Quarantined hostId g due (arrive env hostId s xs)
        (Quarantine.run q (notices env hostId g due s xs)) := by
  induction xs generalizing s q with
  | nil => exact ⟨hhost, h⟩
  | cons x xs ih =>
    rw [notices, Quarantine.run, Machine.run_cons]
    have hdrawn' := rowsDrawn_step hdrawn (.system (x.event hostId))
    have hplaced' := placed_step hdrawn hplaced (.system (x.event hostId))
    cases x with
    | snapshot payload =>
      refine ih hdrawn' hplaced' ?_ (quarantined_snapshot hplaced hhost h payload)
      exact (host_congr (hosts_of_snapshot s hostId payload) hostId).trans hhost
    | wait elapsed => exact ih hdrawn' hplaced' hhost (quarantined_wait h elapsed)

/-- A response keeps the host. -/
lemma host_of_response {s : Committed} {old : Host} (hdrawn : RowsDrawn env s.world)
    (hold : s.world.db.host hostId = some old) (resp : AgentResponse) :
    ∃ host, (System.step env s (.response hostId resp)).world.db.host hostId = some host := by
  obtain ⟨hmem, hid⟩ := s.consistent.host_eq_some.mp hold
  have hestate : (System.step env s (.response hostId resp)).world.db.estate =
      s.world.db.estate := by
    refine (rowsOn_step (P := fun _ => True) placing_true hdrawn (fun _ _ => trivial) ?_ ?_).estate
    · intro hostId payload he
      cases he
    · intro user hostId he
      cases he
  obtain ⟨host, hhost, hstation⟩ := host_of_stands (List.mem_map_of_mem hmem) hestate.symm
  have hsame : host.id = old.id := congrArg Prod.fst hstation
  exact ⟨host, (System.step env s (.response hostId resp)).consistent.host_eq_some.mpr
    ⟨hhost, hsame.trans hid⟩⟩

/-- **A deleted VM comes back**: after the response to its delete, whatever the snapshots of its host
that are consumed and however long they take, the host has a row with its GUID again exactly when a
snapshot that goes through lists it after the tombstone is gone, and none that goes through omits it
after that. The tombstone goes with the first snapshot that gets to its end, or after its time. -/
theorem deleted_returns_iff (s : Committed) (hs : Organization.Reachable env s)
    {resp : AgentResponse} {task : Task} {vm : Vm}
    (h : s.world.db.taskOfHost hostId resp.id = some task) (hkind : task.kind = .vm_delete)
    (hsucc : resp.status = "succeeded") (hl : Lands env s.world.now resp)
    (hvm : vm ∈ s.world.db.vms) (htarget : vm.id = task.targetId) (howner : vm.hostId = hostId)
    (hguid : vm.vmUuid = some g) (hg : g ≠ "") (xs : List Arrival) :
    let t := System.step env s (.response hostId resp)
    (∃ v ∈ (arrive env hostId t xs).world.db.vms, v.hostId = hostId ∧ v.vmUuid = some g) ↔
      Quarantine.Returns
        (notices env hostId g (s.world.now + seconds vmTombstoneTtl) t xs) := by
  intro t
  obtain ⟨hdrawn, hplaced⟩ := drawn_and_placed hs
  obtain ⟨old, hold⟩ : ∃ old, s.world.db.host hostId = some old := by
    obtain ⟨-, hown⟩ := taskOfHost_eq_some.mp h
    obtain ⟨hmem, -⟩ := s.consistent.task_eq_some.mp (task_of_taskOfHost h)
    obtain ⟨old, hold, hid⟩ := List.mem_map.mp (s.consistent.keyed.taskHost task hmem)
    exact ⟨old, s.consistent.host_eq_some.mpr ⟨hold, hid.trans hown⟩⟩
  obtain ⟨host, hhost⟩ := host_of_response hdrawn hold resp
  have hdrawn' : RowsDrawn env t.world :=
    rowsDrawn_step hdrawn (.system (.response hostId resp))
  have hplaced' : t.world.db.Placed :=
    placed_step hdrawn hplaced (.system (.response hostId resp))
  obtain ⟨hhostEnd, hend⟩ := quarantined_run xs hdrawn' hplaced' hhost
    (quarantined_delete hplaced h hkind hsucc hl hvm htarget howner hguid hg)
  rw [← Quarantine.run_present_iff]
  constructor
  · rintro ⟨v, hv, hvowner, hvguid⟩
    by_contra hpresent
    refine hend.absent (by simpa using hpresent) host hhostEnd v hv ?_ hvguid
    obtain ⟨hmem, hid⟩ := (arrive env hostId t xs).consistent.host_eq_some.mp hhostEnd
    have hown : host.id ∈ inventoryScopeHostIds (arrive env hostId t xs).world.db host :=
      (stands_of_host
        ((arrive env hostId t xs).consistent.host_eq_some.mpr ⟨hmem, rfl⟩)).mem_scope
    unfold Vm.InScope
    rw [hvowner.trans hid.symm]
    exact hown
  · exact hend.row

end Runs

namespace Demo

/-- The VM `"g"` is reported, and its delete is queued. -/
@[irreducible] def deleteAwaited : Committed :=
  System.run settings start [.vmInventory "h" (snapshot ["g"]), .deleteVm 0 user "" false]

/-- The agent's end of the delete. -/
def deleted : AgentResponse := { id := "x", function := "vm_delete", status := "succeeded" }

/-- Two snapshots from before the delete. -/
def stale : List Arrival := [.snapshot (snapshot ["g"]), .snapshot (snapshot ["g"])]

end Demo

/-- The second of two stale snapshots brings the deleted VM back. -/
theorem deleted_returns_iff_stale : Quarantine.Returns
    (notices Demo.settings "h" "g" (Demo.deleteAwaited.world.now + seconds vmTombstoneTtl)
      (System.step Demo.settings Demo.deleteAwaited (.response "h" Demo.deleted)) Demo.stale) := by
  obtain ⟨task, h⟩ : ∃ task, Demo.deleteAwaited.world.db.taskOfHost "h" Demo.deleted.id = some task :=
    Option.isSome_iff_exists.mp (by decide +kernel)
  have htask : ∀ t ∈ Demo.deleteAwaited.world.db.taskOfHost "h" Demo.deleted.id,
      t.kind = .vm_delete ∧ t.targetId = "" := by decide +kernel
  obtain ⟨hkind, htarget⟩ := htask task h
  obtain ⟨vm, hvm, hid, howner, hguid⟩ : ∃ vm ∈ Demo.deleteAwaited.world.db.vms, vm.id = "" ∧
      vm.hostId = "h" ∧ vm.vmUuid = some "g" := by decide +kernel
  have hl : Lands Demo.settings Demo.deleteAwaited.world.now Demo.deleted := by decide +kernel
  have hreachable : Organization.Reachable Demo.settings Demo.deleteAwaited := by
    refine ⟨Demo.start, [.system (.vmInventory "h" (Demo.snapshot ["g"])),
      .system (.deleteVm 0 Demo.user "" false)], Demo.start_initial, ?_⟩
    unfold Demo.deleteAwaited
    rfl
  refine (deleted_returns_iff Demo.deleteAwaited hreachable h hkind rfl hl hvm
    (hid.trans htarget.symm) howner hguid (by decide) Demo.stale).mp ?_
  unfold Demo.deleteAwaited
  decide +kernel

end OpenVCenter
