import OpenVCenter.OverlayRequests
import OpenVCenter.Reconciliation

set_option relaxedAutoImplicit false
set_option autoImplicit false

/-!
# Snapshots that keep the overlays in order

A snapshot is one transaction: an item that cannot be written takes the rows before it back, but
not their overlays. It strands none when the tables take it whole, or when it reports every VM in
the state of its row.

## Main definitions

* `OpenVCenter.QuietListing` — no item reports another state than that of its row.
* `OpenVCenter.TakesItems`, `OpenVCenter.TakesRemovals` — the tables take the items, and the
  removals.
* `OpenVCenter.SnapshotKeeps` — what a snapshot needs to keep the overlays.

## Main results

* `OpenVCenter.settles_applyVmInventory` — such a snapshot settles.
-/

namespace OpenVCenter

open Effect

variable {env : Env} {w w₀ t : World} {hostId : String} {host : Host} {scan : Scan}
  {tombstoned : String → Bool} {items : List Json}

/-! ## Conditions -/

/-- The state an item of a snapshot reports. -/
def listedState (item : Dict) : Json := (item.get "state").orElse (.str "Unknown")

/-- No item reports another state than that of the row in scope with its GUID. -/
def QuietListing (env : Env) (db : Db) (host : Host) (items : List Json) : Prop :=
  ∀ elem ∈ items, ∀ image d item u, parseItem env elem = .ok (image, d, item, .guid u) →
    ∀ vm ∈ db.vms, vm.InScope db host → vm.vmUuid = some u → listedState item = vm.state

/-- The scan and the tables behind an item, if they take it: it is read, and its values fit the row of
its GUID, an old or a new one. -/
def takeItem (env : Env) (host : Host) (tombstoned : String → Bool) (scan : Scan) (w : World)
    (elem : Json) : Option (Scan × World) :=
  match parseItem env elem with
  | .ok (_, _, _, .absent) => some (scan, w)
  | .ok (image, d, item, .guid u) =>
    if (scan.find w.db u).isNone && tombstoned u then some (scan, w)
    else
      let e := scan.enter env host u w
      match writeVmRow env w.now false d item host.id host.clusterId e.1 with
      | .ok vm =>
        if vm.bindable then
          some ({ existing := e.2.1
                  seen := u :: scan.seen
                  thumbnails := match image with
                    | some image => dictSet scan.thumbnails vm.id image
                    | none => scan.thumbnails },
            { e.2.2 with db := e.2.2.db.storeVm vm })
        else none
      | .error _ => none
  | _ => none

/-- The tables take the items of a snapshot, one after another, and `k` holds behind them. -/
def TakesItems (env : Env) (host : Host) (tombstoned : String → Bool) (k : Scan → World → Prop) :
    Scan → World → List Json → Prop
  | scan, w, [] => k scan w
  | scan, w, elem :: items => ∃ next ∈ takeItem env host tombstoned scan w elem,
    TakesItems env host tombstoned k next.1 next.2 items

/-- Whether the tables take the items can be decided. -/
instance decidableTakesItems (env : Env) (host : Host) (tombstoned : String → Bool)
    (k : Scan → World → Prop) [∀ scan w, Decidable (k scan w)] (scan : Scan) (w : World)
    (items : List Json) : Decidable (TakesItems env host tombstoned k scan w items) :=
  match items with
  | [] => inferInstanceAs (Decidable (k scan w))
  | elem :: items =>
    have := fun scan w => decidableTakesItems env host tombstoned k scan w items
    inferInstanceAs (Decidable (∃ next ∈ takeItem env host tombstoned scan w elem,
      TakesItems env host tombstoned k next.1 next.2 items))

/-- The state with the event of a removal, unless a delete of the VM is on its way. -/
def withRemoval (env : Env) (w : World) (vm : Vm) : World :=
  if deleteInFlight w.db vm.id then w
  else { w with
    nextId := w.nextId + 1
    db := { w.db with auditEvents := w.db.auditEvents ++ [auditEvent (env.uuid w.nextId) w.now none
      "vm.inventory_remove" vm.ref none removalDetails] } }

/-- The tables behind an entry of `existing`, if they take its removal. -/
def takeRemoval (env : Env) (host : Host) (seen : List String) (w : World) (ref : String × String) :
    Option World :=
  match unreported w.db host seen ref with
  | none => some w
  | some vm =>
    if w.db.Consistent ∧ (withRemoval env w vm).db.Consistent then
      some { withRemoval env w vm with db := (withRemoval env w vm).db.deleteVm vm.id }
    else none

/-- The tables take the removals of the rows that are not listed, and `k` holds behind them. -/
def TakesRemovals (env : Env) (host : Host) (seen : List String) (k : World → Prop) :
    World → List (String × String) → Prop
  | w, [] => k w
  | w, ref :: refs => ∃ next ∈ takeRemoval env host seen w ref, TakesRemovals env host seen k next refs

/-- Whether they take the removals can be decided. -/
instance decidableTakesRemovals (env : Env) (host : Host) (seen : List String) (k : World → Prop)
    [∀ w, Decidable (k w)] (w : World) (refs : List (String × String)) :
    Decidable (TakesRemovals env host seen k w refs) :=
  match refs with
  | [] => inferInstanceAs (Decidable (k w))
  | ref :: refs =>
    have := fun w => decidableTakesRemovals env host seen k w refs
    inferInstanceAs (Decidable (∃ next ∈ takeRemoval env host seen w ref,
      TakesRemovals env host seen k next refs))

/-- The tables take the images of a snapshot. -/
def TakesImages (thumbnails : List (String × List UInt8)) (capturedAt : Time) (db : Db) : Prop :=
  db.Consistent ∧
    (thumbnails.isEmpty = false → (upsertThumbnails thumbnails capturedAt db).Consistent)

/-- Whether they take the images can be decided. -/
instance (thumbnails : List (String × List UInt8)) (capturedAt : Time) (db : Db) :
    Decidable (TakesImages thumbnails capturedAt db) := inferInstanceAs (Decidable (_ ∧ _))

/-- The tables take a snapshot: its items, the removals of what it does not list, its images. -/
def TakesSnapshot (env : Env) (w : World) (host : Host) (payload : Dict) (items : List Json) : Prop :=
  TakesItems env host (listDeletedVmUuids host.id w)
    (fun scan listed => TakesRemovals env host scan.seen
      (fun left => TakesImages scan.thumbnails
        ((parseDt env (payload.get "reported_at")).getD w.now) left.db) listed scan.existing)
    { existing := existingVms w.db (inventoryScopeHostIds w.db host) } w items

/-- Whether they take a snapshot can be decided. -/
instance (env : Env) (w : World) (host : Host) (payload : Dict) (items : List Json) :
    Decidable (TakesSnapshot env w host payload items) :=
  inferInstanceAs (Decidable (TakesItems ..))

/-- **A snapshot keeps the overlays**: where it has a list of VMs, it reports every VM in the state
of its row, or the tables take it. -/
def SnapshotKeeps (env : Env) (w : World) (hostId : String) (payload : Json) : Prop :=
  ∀ host ∈ w.db.host hostId, ∀ d, payload.asDict = .ok d →
    ∀ items, (d.getD "vms" (.arr [])).iterate = .ok items →
      QuietListing env w.db host items ∨ TakesSnapshot env w host d items

/-! ## Snapshots the tables take -/

/-- The row of an item does not depend on the cache. -/
lemma enter_withCache (u : String) (cache : Cache) : scan.enter env host u { w with cache := cache } =
    ((scan.enter env host u w).1, (scan.enter env host u w).2.1,
      { (scan.enter env host u w).2.2 with cache := cache }) := by
  unfold Scan.enter
  dsimp only
  rcases scan.find w.db u with _ | vm
  · rfl
  · rfl

/-- An item the tables take is written.

**Proof sketch.** By cases on the key of the item: no GUID skips it, a lapsed GUID skips it, and a
GUID that is written is taken only when the row fits, so the run reaches its end and caches the
state of the row. -/
lemma takeItem_run {elem : Json} {next : Scan × World}
    (h : takeItem env host tombstoned scan w elem = some next) (cache : Cache) :
    ∃ cache', reconcileItem env host tombstoned scan elem { w with cache := cache } =
      (.ok next.1, { next.2 with cache := cache' }) := by
  unfold takeItem at h
  rcases hparse : parseItem env elem with e | ⟨image, d, item, _ | u | _⟩
  · rw [hparse] at h
    cases h
  · rw [hparse] at h
    cases h
    exact ⟨cache, reconcileItem_eq_ok.mpr ⟨image, d, item, _, hparse, rfl, rfl⟩⟩
  · rw [hparse] at h
    dsimp only at h
    by_cases hlapsed : ((scan.find w.db u).isNone && tombstoned u) = true
    · rw [if_pos hlapsed] at h
      cases h
      refine ⟨cache, reconcileItem_eq_ok.mpr ⟨image, d, item, _, hparse, ?_⟩⟩
      dsimp only
      rw [if_pos hlapsed]
      exact ⟨rfl, rfl⟩
    · rw [if_neg hlapsed] at h
      rcases hwrite : writeVmRow env w.now false d item host.id host.clusterId
        (scan.enter env host u w).1 with e | vm
      · rw [hwrite] at h
        cases h
      · rw [hwrite] at h
        dsimp only at h
        by_cases hfits : vm.bindable = true
        · rw [if_pos hfits] at h
          cases h
          obtain ⟨state, hstate⟩ := state_of_bindable hfits
          have henter : scan.enter env host u { w with cache := cache } = _ :=
            enter_withCache u cache
          refine ⟨{ cache with
            vmStates := Expiring.put cache.vmStates vm.id state
              (w.now + seconds env.vmStateTtlSeconds) },
            reconcileItem_eq_ok.mpr ⟨image, d, item, _, hparse, ?_⟩⟩
          dsimp only
          rw [if_neg hlapsed]
          rw [writeListed_eq_ok, henter]
          have hvalue : encodeValue env vm.state = some state := by
            rw [hstate]
            rfl
          refine ⟨vm, state, hwrite, hvalue, ?_, rfl⟩
          cases image
          · rfl
          · rfl
        · rw [if_neg hfits] at h
          cases h
  · rw [hparse] at h
    cases h

/-- Items the tables take are written. -/
lemma takes_reconcileItems {k : Scan → World → Prop}
    (h : TakesItems env host tombstoned k scan w items) (cache : Cache) :
    ∃ scan' w' cache', items.foldlM (reconcileItem env host tombstoned) scan
      { w with cache := cache } = (.ok scan', { w' with cache := cache' }) ∧ k scan' w' := by
  induction items generalizing scan w cache with
  | nil => exact ⟨scan, w, cache, rfl, h⟩
  | cons elem items ih =>
    obtain ⟨next, hnext, hrest⟩ := h
    obtain ⟨cache₁, hitem⟩ := takeItem_run hnext cache
    rw [List.foldlM_cons, Prog.bind_run_ok hitem]
    exact ih hrest cache₁

/-- An entry whose removal the tables take.

**Proof sketch.** A row that is gone or listed is left. One that is dropped is flushed, loses its
overlay and is deleted, or stays while a delete is in flight; the tables take both writes by
assumption. -/
lemma takeRemoval_run {seen : List String} {ref : String × String} {next : World}
    (h : takeRemoval env host seen w ref = some next) (cache : Cache) :
    ∃ cache', dropUnreported env host seen ref { w with cache := cache } =
      (.ok (), { next with cache := cache' }) := by
  unfold takeRemoval unreported at h
  unfold dropUnreported
  rw [Prog.read_bind_run]
  rcases hvm : w.db.vm ref.2 with _ | vm
  · rw [hvm] at h
    cases h
    exact ⟨cache, rfl⟩
  rw [hvm] at h
  dsimp only
  by_cases hcond : vm.hostId = host.id ∧ ref.1 ∉ seen
  · rw [Option.filter_some, if_pos (decide_eq_true hcond)] at h
    dsimp only at h
    by_cases hfits : w.db.Consistent ∧ (withRemoval env w vm).db.Consistent
    · rw [if_pos hfits] at h
      cases h
      obtain ⟨hc, hct⟩ := hfits
      refine ⟨{ cache with vmStates := Expiring.erase cache.vmStates vm.id }, ?_⟩
      rw [if_pos hcond, Prog.bind_run_ok (flush_of_consistent (w := { w with cache := cache }) hc)]
      unfold withRemoval at hct ⊢
      by_cases hflight : deleteInFlight w.db vm.id = true
      · rw [if_pos hflight, if_pos hflight]
        rfl
      · rw [if_neg hflight] at hct
        rw [if_neg hflight, if_neg hflight]
        have hrecord : record env none "vm.inventory_remove" vm.ref none removalDetails
            { w with cache := cache } = (.ok (), _) := flush_of_consistent (w := { w with
              cache := cache
              nextId := w.nextId + 1
              db := { w.db with auditEvents := w.db.auditEvents ++ [auditEvent (env.uuid w.nextId)
                w.now none "vm.inventory_remove" vm.ref none removalDetails] } }) hct
        rw [Prog.bind_run_ok hrecord]
        rfl
    · rw [if_neg hfits] at h
      cases h
  · rw [Option.filter_some, if_neg (by simpa using hcond)] at h
    cases h
    rw [if_neg hcond]
    exact ⟨cache, rfl⟩

/-- Removals the tables take are made. -/
lemma takes_dropUnreported {seen : List String} {refs : List (String × String)} {k : World → Prop}
    (h : TakesRemovals env host seen k w refs) (cache : Cache) :
    ∃ w' cache', refs.foldlM (fun _ ref => dropUnreported env host seen ref) ()
      { w with cache := cache } = (.ok (), { w' with cache := cache' }) ∧ k w' := by
  induction refs generalizing w cache with
  | nil => exact ⟨w, cache, rfl, h⟩
  | cons ref refs ih =>
    obtain ⟨next, hnext, hrest⟩ := h
    obtain ⟨cache₁, hdrop⟩ := takeRemoval_run hnext cache
    rw [List.foldlM_cons, Prog.bind_run_ok hdrop]
    exact ih hrest cache₁

/-- A snapshot the tables take goes through. -/
lemma completes_applyVmInventory {payload : Json} {d : Dict} (hhost : w.db.host hostId = some host)
    (hdict : payload.asDict = .ok d) (hitems : (d.getD "vms" (.arr [])).iterate = .ok items)
    (h : TakesSnapshot env w host d items) : Completes (applyVmInventory env hostId payload) w := by
  obtain ⟨scan, w₁, cache₁, hloop, hremovals⟩ := takes_reconcileItems h w.cache
  obtain ⟨w₂, cache₂, hdrops, hc, himages⟩ := takes_dropUnreported hremovals cache₁
  have hreconcile : ∃ cache₃, reconcile env host items w = (.ok scan, { w₂ with cache := cache₃ }) := by
    have hclear : ∃ cache₃, (clearVmDeleted host.id (fun u => listDeletedVmUuids host.id w u &&
        decide (u ∉ scan.seen)) >>= fun _ => (pure scan : M Scan)) { w₂ with cache := cache₂ } =
          (.ok scan, { w₂ with cache := cache₃ }) := ⟨_, rfl⟩
    obtain ⟨cache₃, hclear⟩ := hclear
    unfold reconcile
    rw [Prog.read_bind_run]
    exact ⟨cache₃, (Prog.bind_run_ok hloop).trans ((Prog.bind_run_ok hdrops).trans hclear)⟩
  obtain ⟨cache₃, hreconcile⟩ := hreconcile
  unfold applyVmInventory Completes
  rw [Prog.read_bind_run, hhost]
  dsimp only
  rw [hdict, Prog.ofExcept_ok, Prog.pure_bind_run, hitems, Prog.ofExcept_ok, Prog.pure_bind_run,
    Prog.bind_run_ok hreconcile]
  by_cases hempty : scan.thumbnails.isEmpty = true
  · rw [if_pos hempty]
    exact ⟨(), _, rfl, hc⟩
  · rw [if_neg hempty]
    simp only [Bool.not_eq_true] at hempty
    rw [Prog.bind_run_ok (flush_of_consistent (w := { w₂ with cache := cache₃ }) hc), modifyDb,
      Prog.modify_bind_run]
    exact ⟨(), _, flush_of_consistent (himages hempty), himages hempty⟩

/-! ## Quiet snapshots -/

/-- Within a quiet snapshot that has started in `w₀`: the overlays of the rows of `w₀` are truthful,
these rows have their states, and where `existing` leads to one of them, it leads to its GUID. -/
structure Shown (w₀ : World) (host : Host) (existing : List (String × String)) (w : World) :
    Prop where
  truthful : Truthful w₀ w.cache.vmStates
  states : ∀ vm ∈ w.db.vms, ∀ old ∈ w₀.db.vms, old.id = vm.id → vm.state = old.state
  entries : ∀ u id, (u, id) ∈ existing → ∀ old ∈ w₀.db.vms, old.id = id →
    old.vmUuid = some u ∧ old.InScope w₀.db host
  later : w₀.nextId ≤ w.nextId

/-- A snapshot starts from truthful overlays. -/
lemma shown_existingVms (hc : w₀.db.Consistent) (host : Host) :
    Shown w₀ host (existingVms w₀.db (inventoryScopeHostIds w₀.db host)) w₀ where
  truthful := Truthful.refl w₀
  states vm hvm old hold hid := by rw [Table.eq_of_mem_of_key hc.keyed.vmIds hold hvm hid]
  entries u id hmem old hold hid := by
    obtain ⟨vm, hvm, hscope, hguid, hvmid⟩ := mem_existingVms hmem
    obtain rfl := Table.eq_of_mem_of_key hc.keyed.vmIds hold hvm (hid.trans hvmid.symm)
    exact ⟨hguid, hscope⟩
  later := le_rfl

/-- The row of an item: an old one under its GUID, or one that is new. -/
lemma Shown.enter (h : Shown w₀ host scan.existing w)
    (hdrawn : ∀ v ∈ w₀.db.vms, Drawn env w₀ v.id) (u : String) :
    let e := scan.enter env host u w
    Shown w₀ host e.2.1 e.2.2 ∧ (u, e.1.id) ∈ e.2.1 := by
  unfold Scan.enter
  rcases hfind : scan.find w.db u with _ | vm
  · have hnew : ∀ old ∈ w₀.db.vms, old.id ≠ env.uuid w.nextId := fun old hold hid =>
      not_drawn_next env w (hid ▸ (hdrawn old hold).mono h.later)
    refine ⟨⟨h.truthful, ?_, ?_, h.later.trans (Nat.le_succ _)⟩,
      mem_dictSet_iff.mpr (Or.inr rfl)⟩
    · intro v hv old hold hid
      rcases List.mem_append.mp hv with hv | hv
      · exact h.states v hv old hold hid
      · rw [List.mem_singleton.mp hv] at hid
        exact absurd hid (hnew old hold)
    · intro u' id hmem old hold hid
      rcases mem_dictSet_iff.mp hmem with ⟨hmem, -⟩ | heq
      · exact h.entries u' id hmem old hold hid
      · exact absurd (hid.trans (congrArg Prod.snd heq)) (hnew old hold)
  · exact ⟨h, (Scan.find_eq_some hfind).1⟩

/-- A row is written in the state its old self has, and its overlay with it. -/
lemma Shown.write {existing : List (String × String)} (h : Shown w₀ host existing w)
    (hc : w₀.db.Consistent) {vm : Vm}
    (hstate : ∀ old ∈ w₀.db.vms, old.id = vm.id → vm.state = old.state) :
    Ends (fun _ t => Shown w₀ host existing t) (fun t => Truthful w₀ t.cache.vmStates)
      (setVmState env vm.id vm.state) { w with db := w.db.storeVm vm } := by
  unfold setVmState
  rcases htext : encodeValue env vm.state with _ | text
  · exact h.truthful
  · refine ⟨h.truthful.put fun v hv hid => ?_, ?_, h.entries, h.later⟩
    · have hsame := hstate v hv hid
      obtain ⟨state, hstr⟩ := state_eq_str hc hv
      rw [hsame, hstr] at htext
      cases htext
      exact hstr
    · intro v hv old hold hid
      rcases Table.mem_store.mp hv with ⟨hv, -⟩ | ⟨rfl, -⟩
      · exact h.states v hv old hold hid
      · exact hstate old hold hid

/-- The state a full write gives a row is the one the item reports. -/
lemma listedState_of_writeVmRow {now : Time} {raw item : Dict} {clusterId : Option String}
    {vm vm' : Vm} (h : writeVmRow env now false raw item hostId clusterId vm = .ok vm') :
    vm'.id = vm.id ∧ vm'.state = listedState item :=
  ⟨congrArg Prod.fst (writeVmRow_anchor h), state_of_writeVmRow h⟩

/-- One item of a quiet snapshot. -/
lemma shown_reconcileItem (hc : w₀.db.Consistent) (hdrawn : ∀ v ∈ w₀.db.vms, Drawn env w₀ v.id)
    (h : Shown w₀ host scan.existing w) {elem : Json}
    (hquiet : QuietListing env w₀.db host [elem]) :
    Ends (fun scan t => Shown w₀ host scan.existing t) (fun t => Truthful w₀ t.cache.vmStates)
      (reconcileItem env host tombstoned scan elem) w := by
  rw [reconcileItem_eq]
  refine ends_ofExcept_bind h.truthful fun ⟨image, d, item, key⟩ hparse => ?_
  cases key with
  | absent => exact h
  | unbindable => exact ⟨h.truthful, h.states, h.entries, h.later⟩
  | guid u =>
    unfold reconcileParsed
    refine ends_read_bind.mpr ?_
    split
    · exact h
    · unfold Ends
      dsimp only
      rw [writeListed_run]
      obtain ⟨hentered, hentry⟩ := h.enter hdrawn u
      refine ends_ofExcept_bind hentered.truthful fun vm hwrite => ?_
      obtain ⟨hid, hstate⟩ := listedState_of_writeVmRow hwrite
      refine ends_modify_bind.mpr (ends_bind.mpr ?_)
      refine ends_mono (hentered.write hc fun old hold hoid => ?_) (fun _ t _ ht => ht) fun _ ht => ht
      obtain ⟨hguid, hscope⟩ := hentered.entries u _ hentry old hold (hoid.trans hid)
      rw [hstate]
      exact hquiet elem List.mem_cons_self image d item u hparse old hold hscope hguid

/-- A removal writes no overlay. -/
lemma fewer_dropUnreported (seen : List String) (ref : String × String) :
    Keeps fewerStates (dropUnreported env host seen ref) := by
  refine keeps_bind keeps_read fun w => ?_
  split
  · exact keeps_pure _
  · split
    · refine keeps_bind keeps_flush fun _ => keeps_bind ?_ fun _ => ?_
      · split
        · exact keeps_pure _
        · exact fewer_record _ _ _ _ _
      · refine keeps_bind (F := fewerStates) (keeps_modify fun w id e he => ?_) fun _ =>
          keeps_modify fun w => fewerStates.refl w
        exact (Expiring.eraseWhere_eq_some (m := w.cache.vmStates)
          (p := fun y => decide (y = _)) |>.mp he).1
    · exact keeps_pure _

/-- A quiet snapshot leaves the overlays truthful.

**Proof sketch.** The first loop keeps the states shown for the rows it has in hand, item by item;
the second loop and the stamps of the message only remove overlays. -/
lemma quiet_applyVmInventory {payload : Json} {d : Dict} (hc : w.db.Consistent)
    (hdrawn : ∀ v ∈ w.db.vms, Drawn env w v.id) (hhost : w.db.host hostId = some host)
    (hdict : payload.asDict = .ok d) (hitems : (d.getD "vms" (.arr [])).iterate = .ok items)
    (hquiet : QuietListing env w.db host items) :
    Truthful w (applyVmInventory env hostId payload w).2.cache.vmStates := by
  have hends : Ends (fun _ t => Truthful w t.cache.vmStates) (fun t => Truthful w t.cache.vmStates)
      (applyVmInventory env hostId payload) w := by
    have hfewer : ∀ {α : Type} {m : M α} {t : World}, Keeps fewerStates m →
        Truthful w t.cache.vmStates → Ends (fun _ t => Truthful w t.cache.vmStates)
          (fun t => Truthful w t.cache.vmStates) m t := fun hm ht =>
      ends_of_rel (hm _) (fun _ _ _ hrel => ht.fewer hrel) fun _ hrel => ht.fewer hrel
    unfold applyVmInventory
    refine ends_read_bind.mpr ?_
    rw [hhost]
    dsimp only
    rw [hdict, Prog.ofExcept_ok, pure_bind, hitems, Prog.ofExcept_ok, pure_bind]
    have hreconcile : Ends (fun _ t => Truthful w t.cache.vmStates)
        (fun t => Truthful w t.cache.vmStates) (reconcile env host items) w := by
      unfold reconcile
      refine ends_read_bind.mpr (ends_bind.mpr ?_)
      have hfirst := shown_existingVms hc host
      refine ends_mono (ends_foldlM (I := fun scan t => Shown w host scan.existing t) hfirst
        fun elem helem scan t ht => ?_) (fun scan t _ ht => ?_) fun _ ht => ht
      · refine shown_reconcileItem hc hdrawn ht fun elem' helem' => ?_
        rw [List.mem_singleton.mp helem']
        exact hquiet elem helem
      · refine hfewer (keeps_bind (keeps_foldlM (fun _ _ _ => fewer_dropUnreported _ _) _) fun _ => ?_)
          ht.truthful
        exact keeps_bind (F := fewerStates) (keeps_modify fun w => fewerStates.refl w) fun _ =>
          keeps_pure _
    refine ends_bind.mpr (ends_mono hreconcile (fun scan t _ ht => ?_) fun _ ht => ht)
    split
    · exact ht
    · refine hfewer (keeps_bind keeps_flush fun _ => ?_) ht
      exact keeps_bind (F := fewerStates) (keeps_modify fun w => fewerStates.refl w) fun _ =>
        keeps_flush
  unfold Ends at hends
  rcases hrun : applyVmInventory env hostId payload w with ⟨e | ⟨⟩, t⟩
  · rw [hrun] at hends
    exact hends
  · rw [hrun] at hends
    exact hends

/-- **A snapshot settles** when it keeps the overlays. -/
theorem settles_applyVmInventory {payload : Json} (hc : w.db.Consistent)
    (hdrawn : ∀ v ∈ w.db.vms, Drawn env w v.id) (h : SnapshotKeeps env w hostId payload) :
    Settles w (applyVmInventory env hostId payload) w := by
  rcases hhost : w.db.host hostId with _ | host
  · refine Or.inl ⟨(), w, ?_, hc⟩
    unfold applyVmInventory
    rw [Prog.read_bind_run, hhost]
    rfl
  have hraise : ∀ e : Raised, applyVmInventory env hostId payload w = (.error e, w) →
      Settles w (applyVmInventory env hostId payload) w := fun e he => by
    refine Or.inr ?_
    rw [he]
    exact Truthful.refl w
  rcases hdict : payload.asDict with e | d
  · refine hraise e ?_
    unfold applyVmInventory
    rw [Prog.read_bind_run, hhost, hdict]
    rfl
  rcases hitems : (d.getD "vms" (.arr [])).iterate with e | items
  · refine hraise e ?_
    unfold applyVmInventory
    rw [Prog.read_bind_run, hhost, hdict]
    dsimp only
    rw [Prog.ofExcept_ok, Prog.pure_bind_run, hitems]
    rfl
  rcases h host hhost d hdict items hitems with hquiet | htakes
  · exact Or.inr (quiet_applyVmInventory hc hdrawn hhost hdict hitems hquiet)
  · exact Or.inl (completes_applyVmInventory hhost hdict hitems htakes)

end OpenVCenter
