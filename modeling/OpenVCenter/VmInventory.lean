import OpenVCenter.Cache
import OpenVCenter.VmRow

set_option relaxedAutoImplicit false
set_option autoImplicit false

/-!
# The VM inventory

`apply_vm_inventory` of `services/inventory.py`: a snapshot of the VMs of one host is folded into
the rows of the host's scope, its cluster or itself.

## Main definitions

* `OpenVCenter.inventoryScopeHostIds` — the hosts a GUID is unique across.
* `OpenVCenter.reconcileItem`, `OpenVCenter.dropUnreported` — the bodies of the two loops.
* `OpenVCenter.applyVmInventory`.

## Design

The dictionary `existing` holds session objects; the model holds their keys, and reads and
writes the row under the key, so that a row changed early in the loop is seen changed later.
An item whose identifier is a number or a boolean makes a row whose `vm_uuid` never binds; the
row is not kept, only the fact that the session cannot be flushed any more.
-/

namespace OpenVCenter

open Effect

variable (env : Env)

/-! ## The rows in scope -/

/-- `_inventory_scope_host_ids`. -/
def inventoryScopeHostIds (db : Db) (host : Host) : List String :=
  match host.clusterId with
  | none => [host.id]
  | some c => (db.hosts.filter fun h => decide (h.clusterId = some c)).map Host.id

/-- `d[k] = v` of a dictionary in insertion order. -/
def dictSet {α : Type} (d : List (String × α)) (k : String) (v : α) : List (String × α) :=
  if d.any fun e => decide (e.1 = k) then d.map fun e => if e.1 = k then (k, v) else e
  else d ++ [(k, v)]

/-- `existing`: the keys of the rows in scope, by GUID. -/
def existingVms (db : Db) (scopeIds : List String) : List (String × String) :=
  (db.vms.filter fun v => decide (v.hostId ∈ scopeIds)).foldl (fun d v =>
    match v.vmUuid with
    | some u => dictSet d u v.id
    | none => d) []

/-- The entries after an assignment. -/
theorem mem_dictSet_iff {α : Type} {d : List (String × α)} {k : String} {v : α}
    {e : String × α} : e ∈ dictSet d k v ↔ (e ∈ d ∧ e.1 ≠ k) ∨ e = (k, v) := by
  unfold dictSet
  split
  · rename_i hkey
    obtain ⟨x, hx, hxk⟩ := List.any_eq_true.mp hkey
    rw [List.mem_map]
    constructor
    · rintro ⟨y, hy, rfl⟩
      by_cases hyk : y.1 = k
      · exact Or.inr (if_pos hyk)
      · rw [if_neg hyk]
        exact Or.inl ⟨hy, hyk⟩
    · rintro (⟨he, hne⟩ | rfl)
      · exact ⟨e, he, if_neg hne⟩
      · exact ⟨x, hx, if_pos (of_decide_eq_true hxk)⟩
  · rename_i hkey
    rw [List.mem_append, List.mem_singleton]
    refine or_congr_left (iff_self_and.mpr fun he heq => hkey ?_)
    exact List.any_eq_true.mpr ⟨e, he, decide_eq_true heq⟩

/-- An entry after an assignment is an old one or the new one. -/
theorem mem_dictSet {α : Type} {d : List (String × α)} {k : String} {v : α} {e : String × α}
    (h : e ∈ dictSet d k v) : e ∈ d ∨ e = (k, v) := (mem_dictSet_iff.mp h).imp_left And.left

/-- A dictionary has each key once. -/
theorem nodup_keys_dictSet {α : Type} {d : List (String × α)} {k : String} {v : α}
    (h : (d.map Prod.fst).Nodup) : ((dictSet d k v).map Prod.fst).Nodup := by
  unfold dictSet
  split
  · rw [List.map_map]
    convert h using 1
    refine List.map_congr_left fun e _ => ?_
    by_cases hek : e.1 = k
    · simp [hek]
    · simp [hek]
  · rename_i hkey
    rw [List.map_append, List.map_singleton]
    refine List.nodup_append.mpr ⟨h, List.nodup_singleton _, fun a ha b hb hab => hkey ?_⟩
    obtain ⟨e, he, rfl⟩ := List.mem_map.mp ha
    rw [List.mem_singleton.mp hb] at hab
    exact List.any_eq_true.mpr ⟨e, he, decide_eq_true hab⟩

/-- An entry of `existing` is a row in scope. -/
theorem mem_existingVms {db : Db} {scopeIds : List String} {ref : String × String}
    (h : ref ∈ existingVms db scopeIds) :
    ∃ v ∈ db.vms, v.hostId ∈ scopeIds ∧ v.vmUuid = some ref.1 ∧ v.id = ref.2 := by
  have key : ∀ (vms : List Vm) (d : List (String × String)),
      ref ∈ vms.foldl (fun d v => match v.vmUuid with
        | some u => dictSet d u v.id
        | none => d) d →
      ref ∈ d ∨ ∃ v ∈ vms, v.vmUuid = some ref.1 ∧ v.id = ref.2 := by
    intro vms
    induction vms with
    | nil => exact fun d hd => Or.inl hd
    | cons v vms ih =>
      intro d hd
      rcases ih _ hd with hd | ⟨x, hx, hrow⟩
      · rcases hu : v.vmUuid with _ | u
        · simp only [hu] at hd
          exact Or.inl hd
        · simp only [hu] at hd
          rcases mem_dictSet hd with hd | rfl
          · exact Or.inl hd
          · exact Or.inr ⟨v, List.mem_cons_self, hu, rfl⟩
      · exact Or.inr ⟨x, List.mem_cons_of_mem _ hx, hrow⟩
  rcases key _ _ h with hnil | ⟨v, hv, hguid, hid⟩
  · cases hnil
  · obtain ⟨hmem, hscope⟩ := List.mem_filter.mp hv
    exact ⟨v, hmem, by simpa using hscope, hguid, hid⟩

/-- The local variables of the loop over the items. -/
structure Scan where
  existing : List (String × String)
  seen : List String := []
  thumbnails : List (String × List UInt8) := []

/-! ## The items -/

/-- The identifier of a normalized item, as a key of `existing`: a value that is false is
skipped, a list or an object cannot be hashed. -/
inductive ItemKey where
  | absent
  | guid (u : String)
  | unbindable

/-- How the loop takes the identifier. -/
def itemKey (vmUuid : Json) : Except Raised ItemKey :=
  if vmUuid.truthy then
    match vmUuid with
    | .str u => .ok (.guid u)
    | .arr _ | .obj _ => .error .typeError
    | _ => .ok .unbindable
  else .ok .absent

/-- `existing.get(vm_uuid)`. -/
def Scan.find (scan : Scan) (db : Db) (vmUuid : String) : Option Vm :=
  (scan.existing.lookup vmUuid).bind db.vm

/-- A row the scan finds is a row of the table, under its entry of `existing`. -/
theorem Scan.find_eq_some {scan : Scan} {db : Db} {vmUuid : String} {vm : Vm}
    (h : scan.find db vmUuid = some vm) : (vmUuid, vm.id) ∈ scan.existing ∧ vm ∈ db.vms := by
  obtain ⟨id, hlookup, hvm⟩ := Option.bind_eq_some_iff.mp h
  obtain ⟨l₁, l₂, hsplit, -⟩ := List.lookup_eq_some_iff.mp hlookup
  obtain rfl : vm.id = id := Table.key_of_lookup hvm
  exact ⟨hsplit ▸ List.mem_append_right l₁ List.mem_cons_self, Table.mem_of_lookup hvm⟩

/-- The row of a GUID, new unless there is one, written from the item. -/
def writeListed (host : Host) (scan : Scan) (image : Option (List UInt8)) (raw item : Dict)
    (vmUuid : String) : M Scan := do
  let w ← Prog.read
  let (vm, existing) ← (do
    match scan.find w.db vmUuid with
    | some vm => pure (vm, scan.existing)
    | none => do
      let id ← newId env
      let vm : Vm := { id := id, vmUuid := some vmUuid, hostId := host.id }
      modifyDb fun db => db.addVm vm
      pure (vm, dictSet scan.existing vmUuid id))
  let vm ← Prog.ofExcept (writeVmRow env w.now false raw item host.id host.clusterId vm)
  modifyDb fun db => db.storeVm vm
  setVmState env vm.id vm.state
  pure { existing := existing
         seen := vmUuid :: scan.seen
         thumbnails := match image with
           | some image => dictSet scan.thumbnails vm.id image
           | none => scan.thumbnails }

/-- The body of the loop over the items of a snapshot. -/
def reconcileItem (host : Host) (tombstoned : String → Bool) (scan : Scan) (raw : Json) :
    M Scan := do
  let d ← Prog.ofExcept raw.asDict
  let (image, d) := popThumbnail env d
  let item ← Prog.ofExcept (normalizeVm env d)
  match ← Prog.ofExcept (itemKey (item.get "vmUuid")) with
  | .absent => pure scan
  | .unbindable => do
    modifyDb fun db => { db with unbindable := true }
    pure scan
  | .guid u => do
    let w ← Prog.read
    -- a snapshot from before the delete: not a sighting of the VM
    if (scan.find w.db u).isNone && tombstoned u then pure scan
    else writeListed env host scan image d item u

section Listed

variable {env : Env} {host : Host} {scan scan' : Scan} {image : Option (List UInt8)}
  {raw item : Dict} {vmUuid : String} {w t : World}

/-- The row the item of a GUID is written to, and the entries and the state with it: the row in
scope, or a new one. -/
def Scan.enter (env : Env) (host : Host) (scan : Scan) (vmUuid : String) (w : World) :
    Vm × List (String × String) × World :=
  match scan.find w.db vmUuid with
  | some vm => (vm, scan.existing, w)
  | none =>
    let vm : Vm := { id := env.uuid w.nextId, vmUuid := some vmUuid, hostId := host.id }
    (vm, dictSet scan.existing vmUuid vm.id,
      { w with nextId := w.nextId + 1, db := w.db.addVm vm })

/-- The run of one listed item, from the row that it is written to. -/
lemma writeListed_run : writeListed env host scan image raw item vmUuid w =
    (do
      let vm ← Prog.ofExcept (writeVmRow env w.now false raw item host.id host.clusterId
        (scan.enter env host vmUuid w).1)
      modifyDb fun db => db.storeVm vm
      setVmState env vm.id vm.state
      pure { existing := (scan.enter env host vmUuid w).2.1
             seen := vmUuid :: scan.seen
             thumbnails := match image with
               | some image => dictSet scan.thumbnails vm.id image
               | none => scan.thumbnails } : M Scan) (scan.enter env host vmUuid w).2.2 := by
  unfold writeListed Scan.enter
  rw [Prog.read_bind_run]
  rcases scan.find w.db vmUuid with _ | vm
  · rfl
  · rfl

/-- The run of one listed item that returns. -/
theorem writeListed_eq_ok : writeListed env host scan image raw item vmUuid w = (.ok scan', t) ↔
    let e := scan.enter env host vmUuid w
    ∃ vm text, writeVmRow env w.now false raw item host.id host.clusterId e.1 = .ok vm ∧
      encodeValue env vm.state = some text ∧
      scan' = { existing := e.2.1
                seen := vmUuid :: scan.seen
                thumbnails := match image with
                  | some image => dictSet scan.thumbnails vm.id image
                  | none => scan.thumbnails } ∧
      t = { e.2.2 with
        db := e.2.2.db.storeVm vm
        cache := { w.cache with
          vmStates := Expiring.put w.cache.vmStates vm.id text
            (w.now + seconds env.vmStateTtlSeconds) } } := by
  have hnow : (scan.enter env host vmUuid w).2.2.now = w.now := by
    unfold Scan.enter
    rcases scan.find w.db vmUuid with _ | vm <;> rfl
  have hcache : (scan.enter env host vmUuid w).2.2.cache = w.cache := by
    unfold Scan.enter
    rcases scan.find w.db vmUuid with _ | vm <;> rfl
  rw [writeListed_run]
  generalize scan.enter env host vmUuid w = e at hnow hcache
  obtain ⟨vm₀, existing, w₁⟩ := e
  dsimp only at hnow hcache ⊢
  constructor
  · intro h
    obtain ⟨vm, w₂, hexcept, hstore⟩ := Prog.bind_eq_ok.mp h
    obtain ⟨hwrite, rfl⟩ := Prog.ofExcept_eq_ok.mp hexcept
    rw [modifyDb, Prog.modify_bind_run] at hstore
    obtain ⟨⟨⟩, w₃, hset, hend⟩ := Prog.bind_eq_ok.mp hstore
    obtain ⟨text, htext, rfl⟩ := setVmState_eq_ok.mp hset
    cases hend
    refine ⟨vm, text, hwrite, htext, rfl, ?_⟩
    rw [hcache, hnow]
  · rintro ⟨vm, text, hwrite, htext, rfl, rfl⟩
    rw [hwrite, Prog.ofExcept_ok, Prog.pure_bind_run, modifyDb, Prog.modify_bind_run]
    refine (Prog.bind_run_ok (setVmState_eq_ok.mpr ⟨text, htext, rfl⟩)).trans ?_
    rw [hcache, hnow]
    rfl

/-- What the loop reads of an item: its image, the object without it, the normalized item and its
key. -/
def parseItem (env : Env) (raw : Json) :
    Except Raised (Option (List UInt8) × Dict × Dict × ItemKey) := do
  let d ← raw.asDict
  let (image, d) := popThumbnail env d
  let item ← normalizeVm env d
  let key ← itemKey (item.get "vmUuid")
  pure (image, d, item, key)

/-- What the loop does with an item it has read. -/
def reconcileParsed (env : Env) (host : Host) (tombstoned : String → Bool) (scan : Scan)
    (p : Option (List UInt8) × Dict × Dict × ItemKey) : M Scan :=
  match p.2.2.2 with
  | .absent => pure scan
  | .unbindable => do
    modifyDb fun db => { db with unbindable := true }
    pure scan
  | .guid u => do
    let w ← Prog.read
    if (scan.find w.db u).isNone && tombstoned u then pure scan
    else writeListed env host scan p.1 p.2.1 p.2.2.1 u

/-- An item is parsed first, and then reconciled. -/
lemma reconcileItem_eq {tombstoned : String → Bool} {elem : Json} :
    reconcileItem env host tombstoned scan elem =
      Prog.ofExcept (parseItem env elem) >>= reconcileParsed env host tombstoned scan := by
  unfold reconcileItem parseItem
  simp only [Prog.ofExcept_bind, bind_assoc]
  rfl

/-- The run of one item that returns, by its key. -/
theorem reconcileItem_eq_ok {tombstoned : String → Bool} {elem : Json} :
    reconcileItem env host tombstoned scan elem w = (.ok scan', t) ↔
      ∃ image d item key, parseItem env elem = .ok (image, d, item, key) ∧
        match key with
        | .absent => scan' = scan ∧ t = w
        | .unbindable => scan' = scan ∧ t = { w with db := { w.db with unbindable := true } }
        | .guid u =>
          if (scan.find w.db u).isNone && tombstoned u then scan' = scan ∧ t = w
          else writeListed env host scan image d item u w = (.ok scan', t) := by
  have hparsed : ∀ image d item key, reconcileParsed env host tombstoned scan
      (image, d, item, key) w = (.ok scan', t) ↔ match key with
        | .absent => scan' = scan ∧ t = w
        | .unbindable => scan' = scan ∧ t = { w with db := { w.db with unbindable := true } }
        | .guid u =>
          if (scan.find w.db u).isNone && tombstoned u then scan' = scan ∧ t = w
          else writeListed env host scan image d item u w = (.ok scan', t) := by
    intro image d item key
    cases key with
    | absent => simp [reconcileParsed, eq_comm]
    | unbindable => simp [reconcileParsed, modifyDb, eq_comm]
    | guid u =>
      unfold reconcileParsed
      simp only [Prog.read_bind_run]
      split
      · simp [eq_comm]
      · exact Iff.rfl
  rw [reconcileItem_eq, Prog.bind_eq_ok]
  constructor
  · rintro ⟨⟨image, d, item, key⟩, w₁, hexcept, h⟩
    obtain ⟨hparse, rfl⟩ := Prog.ofExcept_eq_ok.mp hexcept
    exact ⟨image, d, item, key, hparse, (hparsed image d item key).mp h⟩
  · rintro ⟨image, d, item, key, hparse, h⟩
    exact ⟨(image, d, item, key), w, Prog.ofExcept_eq_ok.mpr ⟨hparse, rfl⟩,
      (hparsed image d item key).mpr h⟩

end Listed

/-! ## Removals -/

/-- `_delete_in_flight`. -/
def deleteInFlight (db : Db) (vmId : String) : Bool :=
  db.tasks.any fun t =>
    decide (t.targetId = vmId ∧ t.kind = .vm_delete ∧ t.status.isTerminal = false)

/-- The `details` of a removal. -/
def removalDetails : Json := .obj [("reason", .str "no longer reported by its host agent")]

/-- The body of the loop over `existing`: a row the host owns and no longer reports goes. The
query for a delete in flight flushes the session first. -/
def dropUnreported (host : Host) (seen : List String) (ref : String × String) : M Unit := do
  let w ← Prog.read
  match w.db.vm ref.2 with
  | none => pure ()
  | some vm =>
    if vm.hostId = host.id ∧ ref.1 ∉ seen then do
      flush
      (if deleteInFlight w.db vm.id then pure ()
      else record env none "vm.inventory_remove" vm.ref none removalDetails)
      clearVmState vm.id
      modifyDb fun db => db.deleteVm vm.id
    else pure ()

/-! ## Thumbnails -/

/-- `_upsert_thumbnails`. -/
def upsertThumbnails (thumbnails : List (String × List UInt8)) (capturedAt : Time) (db : Db) : Db :=
  { db with
    thumbnails := (db.thumbnails.filter fun t => decide (t.vmId ∉ thumbnails.map Prod.fst)) ++
      thumbnails.map fun e => ⟨e.1, e.2, "image/jpeg", capturedAt⟩ }

/-! ## The handler -/

/-- The two loops, and the tombstones the snapshot confirms: those it no longer lists. -/
def reconcile (host : Host) (items : List Json) : M Scan := do
  let w ← Prog.read
  let scopeIds := inventoryScopeHostIds w.db host
  let tombstoned := listDeletedVmUuids host.id w
  let scan ← items.foldlM (reconcileItem env host tombstoned)
    { existing := existingVms w.db scopeIds }
  scan.existing.foldlM (fun _ ref => dropUnreported env host scan.seen ref) ()
  clearVmDeleted host.id fun u => tombstoned u && decide (u ∉ scan.seen)
  pure scan

/-- `apply_vm_inventory`. -/
def applyVmInventory (hostId : String) (payload : Json) : M Unit := do
  let w ← Prog.read
  match w.db.host hostId with
  | none => pure ()
  | some host => do
    let d ← Prog.ofExcept payload.asDict
    let items ← Prog.ofExcept (d.getD "vms" (.arr [])).iterate
    let scan ← reconcile env host items
    if scan.thumbnails.isEmpty then pure ()
    else do
      flush
      modifyDb (upsertThumbnails scan.thumbnails ((parseDt env (d.get "reported_at")).getD w.now))
      flush

end OpenVCenter
