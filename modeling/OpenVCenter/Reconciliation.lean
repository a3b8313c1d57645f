import OpenVCenter.NormalizedVm
import OpenVCenter.Placement

set_option relaxedAutoImplicit false
set_option autoImplicit false

/-!
# What a snapshot leaves

The state after `apply_vm_inventory`, from the state before it and the GUIDs the snapshot lists.
The loop over the items writes the row of each listed GUID, wherever in scope it stands; the loop
over `existing` then deletes the rows the host still owns and did not list.

## Main definitions

* `OpenVCenter.listedGuids` — the GUIDs of the items that are not skipped.
* `OpenVCenter.Lapsed` — the tombstoned GUIDs of which no row in scope is left.
* `OpenVCenter.Reconciled` — the state after a snapshot.

## Main results

* `OpenVCenter.Written.store`, `OpenVCenter.scanned_reconcileItem` — what one item does.
* `OpenVCenter.dropped_dropUnreported` — what one removal does.
* `OpenVCenter.reconciled_applyVmInventory` — **a snapshot that goes through leaves the host one
  row per listed GUID**, the lapsed ones apart, with the key, the folder and the tags of the row
  the GUID had.
-/

namespace OpenVCenter

open Effect

variable {env : Env}

/-! ## Reports -/

/-- A payload, with the elements of its list. -/
structure VmReport where
  payload : Dict
  items : List Json
  listed : (payload.getD "vms" (.arr [])).iterate = .ok items

/-- The GUID of a key, if it is one. -/
def ItemKey.toGuid : ItemKey → Option String
  | .guid u => some u
  | .absent | .unbindable => none

/-- The GUID under which an item is reconciled. -/
def itemGuid (env : Env) (raw : Json) : Option String :=
  match parseItem env raw with
  | .ok (_, _, _, key) => key.toGuid
  | .error _ => none

/-- The GUIDs of the items that are not skipped. -/
def listedGuids (env : Env) (items : List Json) : List String := items.filterMap (itemGuid env)

/-- The row stands in the scope of a host. -/
def Vm.InScope (vm : Vm) (db : Db) (host : Host) : Prop :=
  vm.hostId ∈ inventoryScopeHostIds db host

/-- Whether a row is in scope can be decided. -/
instance (vm : Vm) (db : Db) (host : Host) : Decidable (vm.InScope db host) :=
  inferInstanceAs (Decidable (_ ∈ _))

/-- A GUID deleted here of which no row in scope is left: a snapshot that lists it is from before
the delete. -/
def Lapsed (w : World) (host : Host) (u : String) : Prop :=
  listDeletedVmUuids host.id w u = true ∧
    ∀ vm ∈ w.db.vms, vm.InScope w.db host → vm.vmUuid ≠ some u

/-- What a snapshot keeps of a row in scope. -/
def Vm.identity (vm : Vm) : String × Option String × Option String × List String :=
  (vm.id, vm.vmUuid, vm.folderId, vm.tagIds)

/-! ## GUIDs in scope -/

section Scope

variable {db : Db} {host : Host} {vm a b : Vm}

/-- A row in scope has the cluster of the host. -/
lemma cluster_of_inScope (hc : db.Consistent) (hp : db.Placed) (hhost : host ∈ db.hosts)
    (hvm : vm ∈ db.vms) (hscope : vm.InScope db host) : vm.clusterId = host.clusterId := by
  obtain ⟨owner, howner, hplaced⟩ := hp vm hvm
  have hsame : ∀ h ∈ db.hosts, h.id = vm.hostId → h = owner := fun h hh hid =>
    Table.eq_of_mem_of_key hc.keyed.hostIds hh howner (hid.trans hplaced.owner)
  rw [hplaced.cluster]
  unfold Vm.InScope inventoryScopeHostIds at hscope
  split at hscope
  · rw [← hsame host hhost (List.mem_singleton.mp hscope).symm]
  · rename_i c hcluster
    obtain ⟨h, hh, hid⟩ := List.mem_map.mp hscope
    obtain ⟨hmem, hmember⟩ := List.mem_filter.mp hh
    rw [← hsame h hmem hid, of_decide_eq_true hmember, hcluster]

/-- The scope of a standalone host is the host. -/
lemma hostId_of_inScope (halone : host.clusterId = none) (hscope : vm.InScope db host) :
    vm.hostId = host.id := by
  unfold Vm.InScope inventoryScopeHostIds at hscope
  rw [halone] at hscope
  exact List.mem_singleton.mp hscope

/-- **No GUID is twice in scope.** -/
lemma guids_apart (hc : db.Consistent) (hp : db.Placed) (hhost : host ∈ db.hosts) :
    (db.vms.filter fun v => decide (v.InScope db host)).Pairwise
      fun a b => ∀ u ∈ a.vmUuid, b.vmUuid ≠ some u := by
  have hkept := hc.keyed.guids.sublist
    (List.filter_sublist (p := fun v : Vm => decide (v.InScope db host)))
  refine hkept.imp_of_mem fun {a b} ha hb hclash u hau hbu => hclash ?_
  obtain ⟨ha, hascope⟩ := List.mem_filter.mp ha
  obtain ⟨hb, hbscope⟩ := List.mem_filter.mp hb
  have hascope := of_decide_eq_true hascope
  have hbscope := of_decide_eq_true hbscope
  have hacluster := cluster_of_inScope hc hp hhost ha hascope
  have hbcluster := cluster_of_inScope hc hp hhost hb hbscope
  refine ⟨Option.isSome_of_mem hau, hau.trans hbu.symm, hacluster.trans hbcluster.symm, ?_⟩
  rcases hcluster : host.clusterId with _ | c
  · right
    rw [hostId_of_inScope hcluster hascope, hostId_of_inScope hcluster hbscope]
  · left
    rw [hacluster, hcluster]
    rfl

end Scope

/-! ## The entries of a scan -/

/-- The entries are the GUIDs of the rows in scope, each once, with the key of its row. -/
structure Indexes (existing : List (String × String)) (scope : List String) (vms : List Vm) :
    Prop where
  keys : (existing.map Prod.fst).Nodup
  entries : ∀ u id, (u, id) ∈ existing ↔
    ∃ vm ∈ vms, vm.hostId ∈ scope ∧ vm.vmUuid = some u ∧ vm.id = id

section Entries

variable {existing : List (String × String)} {scope : List String} {vms : List Vm}

/-- One row of the query behind `existing`. -/
def enterGuid (d : List (String × String)) (vm : Vm) : List (String × String) :=
  match vm.vmUuid with
  | some u => dictSet d u vm.id
  | none => d

/-- What `existing` has after its loop: the last row of each GUID. -/
lemma mem_foldl_enterGuid {d : List (String × String)} {u id : String}
    (hapart : vms.Pairwise fun a b => ∀ u ∈ a.vmUuid, b.vmUuid ≠ some u) :
    (u, id) ∈ vms.foldl enterGuid d ↔ (∃ vm ∈ vms, vm.vmUuid = some u ∧ vm.id = id) ∨
      (u, id) ∈ d ∧ ∀ vm ∈ vms, vm.vmUuid ≠ some u := by
  induction vms generalizing d with
  | nil => simp
  | cons v vms ih =>
    obtain ⟨hhead, htail⟩ := List.pairwise_cons.mp hapart
    rw [List.foldl_cons, ih htail, List.exists_mem_cons_iff, List.forall_mem_cons]
    unfold enterGuid
    rcases hguid : v.vmUuid with _ | k
    · simp
    · by_cases huk : u = k
      · subst huk
        have hnone : ∀ vm ∈ vms, vm.vmUuid ≠ some u := fun vm hvm => hhead vm hvm u hguid
        have hnot : ¬ ∃ vm ∈ vms, vm.vmUuid = some u ∧ vm.id = id := fun ⟨vm, hvm, hu, _⟩ =>
          hnone vm hvm hu
        simp only [mem_dictSet_iff, hnot, ne_eq, not_true_eq_false, and_false, Prod.mk.injEq,
          true_and, false_or, or_false, false_and]
        exact ⟨fun ⟨hid, _⟩ => hid.symm, fun hid => ⟨hid.symm, hnone⟩⟩
      · have hk : ¬ k = u := fun h => huk h.symm
        simp [mem_dictSet_iff, huk, hk]

/-- It has each GUID once. -/
lemma nodup_foldl_enterGuid {d : List (String × String)} (h : (d.map Prod.fst).Nodup) :
    ((vms.foldl enterGuid d).map Prod.fst).Nodup := by
  induction vms generalizing d with
  | nil => exact h
  | cons v vms ih =>
    refine ih ?_
    unfold enterGuid
    split
    · exact nodup_keys_dictSet h
    · exact h

/-- `existing` before the loops. -/
lemma indexes_existingVms {db : Db} (hapart : (db.vms.filter fun v =>
    decide (v.hostId ∈ scope)).Pairwise fun a b => ∀ u ∈ a.vmUuid, b.vmUuid ≠ some u) :
    Indexes (existingVms db scope) scope db.vms where
  keys := by
    change (((db.vms.filter fun v => decide (v.hostId ∈ scope)).foldl enterGuid []).map
      Prod.fst).Nodup
    exact nodup_foldl_enterGuid List.nodup_nil
  entries u id := by
    refine (mem_foldl_enterGuid hapart).trans ?_
    simp [and_assoc]

namespace Indexes

/-- The entry of a row in scope. -/
lemma mem (h : Indexes existing scope vms) {vm : Vm} {u : String} (hvm : vm ∈ vms)
    (hscope : vm.hostId ∈ scope) (hguid : vm.vmUuid = some u) : (u, vm.id) ∈ existing :=
  (h.entries u vm.id).mpr ⟨vm, hvm, hscope, hguid, rfl⟩

/-- The row of a GUID in scope is unique. -/
lemma unique (h : Indexes existing scope vms) (hn : (vms.map Vm.id).Nodup) {a b : Vm}
    {u : String} (ha : a ∈ vms) (hb : b ∈ vms) (hascope : a.hostId ∈ scope)
    (hbscope : b.hostId ∈ scope) (hau : a.vmUuid = some u) (hbu : b.vmUuid = some u) : a = b := by
  have hid := List.inj_on_of_nodup_map h.keys (h.mem ha hascope hau) (h.mem hb hbscope hbu) rfl
  exact Table.eq_of_mem_of_key hn ha hb (Prod.mk.inj hid).2

/-- No row is under two entries. -/
lemma ids_nodup (h : Indexes existing scope vms) (hn : (vms.map Vm.id).Nodup) :
    (existing.map Prod.snd).Nodup := by
  refine List.Nodup.map_on (fun ref href ref' href' heq => ?_) h.keys.of_map
  obtain ⟨a, ha, -, hau, hid⟩ := (h.entries ref.1 ref.2).mp href
  obtain ⟨b, hb, -, hbu, hid'⟩ := (h.entries ref'.1 ref'.2).mp href'
  have hab : a = b := Table.eq_of_mem_of_key hn ha hb (hid.trans (heq.trans hid'.symm))
  subst hab
  exact Prod.ext (Option.some.inj (hau.symm.trans hbu)) heq

/-- A search that fails leaves no row of the GUID. -/
lemma of_find_eq_none {scan : Scan} {db : Db} (h : Indexes scan.existing scope db.vms) {u : String}
    (hfind : scan.find db u = none) {vm : Vm} (hvm : vm ∈ db.vms) (hscope : vm.hostId ∈ scope) :
    vm.vmUuid ≠ some u := by
  intro hguid
  have hentry := h.mem hvm hscope hguid
  unfold Scan.find at hfind
  rcases hlookup : scan.existing.lookup u with _ | id
  · have hne := List.lookup_eq_none_iff.mp hlookup _ hentry
    simp at hne
  · rw [hlookup, Option.bind_some] at hfind
    obtain ⟨l₁, l₂, hsplit, -⟩ := List.lookup_eq_some_iff.mp hlookup
    have hfound : (u, id) ∈ scan.existing := hsplit ▸ List.mem_append_right l₁ List.mem_cons_self
    obtain ⟨v, hv, -, -, hid⟩ := (h.entries u id).mp hfound
    exact Table.lookup_eq_none.mp hfind v hv hid

/-- A search that succeeds finds the row of the GUID. -/
lemma of_find_eq_some {scan : Scan} {db : Db} (h : Indexes scan.existing scope db.vms)
    (hn : (db.vms.map Vm.id).Nodup) {u : String} {vm : Vm} (hfind : scan.find db u = some vm) :
    vm ∈ db.vms ∧ vm.hostId ∈ scope ∧ vm.vmUuid = some u := by
  obtain ⟨hentry, hvm⟩ := Scan.find_eq_some hfind
  obtain ⟨v, hv, hscope, hguid, hid⟩ := (h.entries u vm.id).mp hentry
  obtain rfl := Table.eq_of_mem_of_key hn hv hvm hid
  exact ⟨hv, hscope, hguid⟩

end Indexes

end Entries

/-! ## One item -/

/-- The rows that no item so far is about. -/
def unlisted (scope seen : List String) (vm : Vm) : Bool :=
  decide (vm.hostId ∈ scope → ∀ u ∈ vm.vmUuid, u ∉ seen)

/-- A row that was seen is not unlisted. -/
lemma unlisted_eq_false {scope seen : List String} {vm : Vm} {u : String}
    (hscope : vm.hostId ∈ scope) (hguid : vm.vmUuid = some u) (hseen : u ∈ seen) :
    unlisted scope seen vm = false :=
  decide_eq_false fun h => h hscope u hguid hseen

/-- The rows `vms` after some items, from the rows `vms₀` before. -/
structure Written (vms₀ : List Vm) (scope : List String) (existing : List (String × String))
    (seen : List String) (vms : List Vm) : Prop where
  index : Indexes existing scope vms
  rest : vms.filter (unlisted scope seen) = vms₀.filter (unlisted scope seen)
  kept : ∀ vm₀ ∈ vms₀, vm₀.hostId ∈ scope →
    ∃ vm ∈ vms, vm.hostId ∈ scope ∧ vm.identity = vm₀.identity

namespace Written

variable {vms₀ vms : List Vm} {scope : List String} {existing : List (String × String)}
  {seen : List String} {u : String}

/-- Fewer rows are left when one more GUID is seen. -/
lemma see (h : Written vms₀ scope existing seen vms) (u : String) :
    Written vms₀ scope existing (u :: seen) vms where
  index := h.index
  rest := by
    have hweaker : ∀ rows : List Vm, rows.filter (unlisted scope (u :: seen)) =
        (rows.filter (unlisted scope seen)).filter (unlisted scope (u :: seen)) := by
      intro rows
      rw [List.filter_filter]
      refine List.filter_congr fun vm _ => (Bool.and_eq_left_iff_imp.mpr fun hunlisted => ?_).symm
      have hunlisted := of_decide_eq_true hunlisted
      refine decide_eq_true fun hscope v hguid hmem => ?_
      exact hunlisted hscope v hguid (List.mem_cons_of_mem u hmem)
    rw [hweaker vms, hweaker vms₀, h.rest]
  kept := h.kept

/-- The rows that no item is about are those of before. -/
lemma mem_iff (h : Written vms₀ scope existing seen vms) {vm : Vm}
    (hvm : unlisted scope seen vm = true) : vm ∈ vms ↔ vm ∈ vms₀ := by
  have hrest : vm ∈ vms.filter (unlisted scope seen) ↔ vm ∈ vms₀.filter (unlisted scope seen) := by
    rw [h.rest]
  simpa [List.mem_filter, hvm] using hrest

/-- A new row, of a GUID that no row in scope has. -/
lemma add (h : Written vms₀ scope existing seen vms) {vm : Vm} (hscope : vm.hostId ∈ scope)
    (hguid : vm.vmUuid = some u) (hseen : u ∈ seen)
    (hnew : ∀ v ∈ vms, v.hostId ∈ scope → v.vmUuid ≠ some u) :
    Written vms₀ scope (dictSet existing u vm.id) seen (vms ++ [vm]) where
  index :=
    { keys := nodup_keys_dictSet h.index.keys
      entries := fun u' id => by
        rw [mem_dictSet_iff, h.index.entries, Prod.mk.injEq]
        constructor
        · rintro (⟨⟨v, hv, hrow⟩, -⟩ | ⟨rfl, rfl⟩)
          · exact ⟨v, List.mem_append_left _ hv, hrow⟩
          · exact ⟨vm, by simp, hscope, hguid, rfl⟩
        · rintro ⟨v, hv, hvscope, hvguid, hid⟩
          rcases List.mem_append.mp hv with hv | hv
          · refine Or.inl ⟨⟨v, hv, hvscope, hvguid, hid⟩, ?_⟩
            rintro rfl
            exact hnew v hv hvscope hvguid
          · obtain rfl := List.mem_singleton.mp hv
            exact Or.inr ⟨Option.some.inj (hvguid.symm.trans hguid), hid.symm⟩ }
  rest := by
    rw [List.filter_append, List.filter_cons_of_neg, List.filter_nil, List.append_nil, h.rest]
    rw [unlisted_eq_false hscope hguid hseen]
    exact Bool.false_ne_true
  kept vm₀ hvm₀ hscope₀ := by
    obtain ⟨v, hv, hrow⟩ := h.kept vm₀ hvm₀ hscope₀
    exact ⟨v, List.mem_append_left _ hv, hrow⟩

/-- A write over the row of a GUID that is seen. -/
lemma store (h : Written vms₀ scope existing seen vms) (hn : (vms.map Vm.id).Nodup) {old vm : Vm}
    (hold : old ∈ vms) (hoscope : old.hostId ∈ scope) (hguid : old.vmUuid = some u)
    (hseen : u ∈ seen) (hscope : vm.hostId ∈ scope) (hidentity : vm.identity = old.identity) :
    Written vms₀ scope existing seen (Table.store Vm.id vm vms) := by
  simp only [Vm.identity, Prod.mk.injEq] at hidentity
  obtain ⟨hid, huuid, hfolder, htags⟩ := hidentity
  have hstored : vm ∈ Table.store Vm.id vm vms :=
    Table.mem_store.mpr (Or.inr ⟨rfl, old, hold, hid.symm⟩)
  have hsame : ∀ v ∈ vms, v.id = vm.id → v = old := fun v hv hvid =>
    Table.eq_of_mem_of_key hn hv hold (hvid.trans hid)
  have hrow : ∀ v ∈ vms, v.hostId ∈ scope →
      ∃ v' ∈ Table.store Vm.id vm vms, v'.hostId ∈ scope ∧ v'.identity = v.identity := by
    intro v hv hvscope
    by_cases hvid : v.id = vm.id
    · obtain rfl := hsame v hv hvid
      exact ⟨vm, hstored, hscope, by simp [Vm.identity, hid, huuid, hfolder, htags]⟩
    · exact ⟨v, Table.mem_store.mpr (Or.inl ⟨hv, hvid⟩), hvscope, rfl⟩
  refine ⟨⟨h.index.keys, fun u' id => ?_⟩, ?_, fun vm₀ hvm₀ hscope₀ => ?_⟩
  · rw [h.index.entries]
    constructor
    · rintro ⟨v, hv, hvscope, hvguid, rfl⟩
      obtain ⟨v', hv', hscope', hident⟩ := hrow v hv hvscope
      simp only [Vm.identity, Prod.mk.injEq] at hident
      exact ⟨v', hv', hscope', hident.2.1.trans hvguid, hident.1⟩
    · rintro ⟨v, hv, hvscope, hvguid, rfl⟩
      rcases Table.mem_store.mp hv with ⟨hv, -⟩ | ⟨rfl, -⟩
      · exact ⟨v, hv, hvscope, hvguid, rfl⟩
      · exact ⟨old, hold, hoscope, huuid.symm.trans hvguid, hid.symm⟩
  · rw [Table.filter_store (unlisted_eq_false hscope (huuid.trans hguid) hseen), h.rest]
    intro v hv hvid
    rw [hsame v hv hvid]
    exact unlisted_eq_false hoscope hguid hseen
  · obtain ⟨v, hv, hvscope, hident⟩ := h.kept vm₀ hvm₀ hscope₀
    obtain ⟨v', hv', hscope', hident'⟩ := hrow v hv hvscope
    exact ⟨v', hv', hscope', hident'.trans hident⟩

end Written

/-! ## The loop over the items -/

/-- The scan after the items `done`, from the state `w₀` before the loop. -/
structure Scanned (env : Env) (w₀ : World) (host : Host) (done : List Json) (scan : Scan)
    (w : World) : Prop where
  written : Written w₀.db.vms (inventoryScopeHostIds w₀.db host) scan.existing scan.seen w.db.vms
  owned : ∀ u ∈ scan.seen, ∃ vm ∈ w.db.vms, vm.hostId = host.id ∧ vm.vmUuid = some u
  seen : ∀ u, u ∈ scan.seen ↔ u ∈ listedGuids env done ∧ ¬ Lapsed w₀ host u

section Items

variable {w₀ w t : World} {host : Host} {done : List Json} {elem : Json} {scan scan' : Scan}
  {image : Option (List UInt8)} {raw item : Dict} {u : String}

/-- A write keeps the identity of a row. -/
lemma identity_of_writeVmRow {now : Time} {isPartial : Bool} {hostId : String}
    {clusterId : Option String} {vm vm' : Vm}
    (h : writeVmRow env now isPartial raw item hostId clusterId vm = .ok vm') :
    vm'.identity = vm.identity ∧ vm'.hostId = hostId := by
  have hanchor := writeVmRow_anchor h
  simp only [Vm.anchor, Vm.setOwner, Prod.mk.injEq] at hanchor
  obtain ⟨hid, hguid, hfolder, htags, hhost, -⟩ := hanchor
  exact ⟨by rw [Vm.identity, Vm.identity, hid, hguid, hfolder, htags], hhost⟩

/-- The GUIDs of one item more. -/
lemma listedGuids_append : listedGuids env (done ++ [elem]) =
    listedGuids env done ++ (itemGuid env elem).toList := by
  rw [listedGuids, List.filterMap_append, ← listedGuids]
  rcases h : itemGuid env elem with _ | u
  · simp [h]
  · simp [h]

/-- The GUID of an item that was parsed. -/
lemma itemGuid_of_parse {key : ItemKey} (h : parseItem env elem = .ok (image, raw, item, key)) :
    itemGuid env elem = key.toGuid := by
  unfold itemGuid
  rw [h]

/-- The GUID of an item that is read: the text under `id`, or under `vmId` when `id` is false.

**Proof sketch.** The parsed key is the value of `id`, or of `vmId` where that is false. A value
that is false gives no key, a text gives the GUID, and any other true value is refused. -/
lemma itemGuid_eq_some_iff {p : Option (List UInt8) × Dict × Dict × ItemKey}
    (h : parseItem env elem = .ok p) : itemGuid env elem = some u ↔
      u ≠ "" ∧ ∃ d : Dict, elem = .obj d ∧ (d.get "id").orElse (d.get "vmId") = .str u := by
  have hguid : itemGuid env elem = p.2.2.2.toGuid := itemGuid_of_parse h
  rw [hguid]
  unfold parseItem at h
  obtain ⟨d, hd, h⟩ := Effect.except_bind_eq_ok.mp h
  obtain ⟨item, hitem, h⟩ := Effect.except_bind_eq_ok.mp h
  obtain ⟨key, hkey, h⟩ := Effect.except_bind_eq_ok.mp h
  obtain rfl := Except.ok.inj h
  obtain rfl : elem = .obj d := by
    unfold Json.asDict at hd
    split at hd
    · exact congrArg Json.obj (Except.ok.inj hd)
    · cases hd
  obtain ⟨parts, -, rfl⟩ := normalizeVm_eq_ok.mp hitem
  have hid : (VmParts.object env (d.erase "thumbnail") parts).get "vmUuid" =
      (d.get "id").orElse (d.get "vmId") := by
    show ((d.erase "thumbnail").get "id").orElse ((d.erase "thumbnail").get "vmId") = _
    rw [Dict.get_erase_of_ne (by decide), Dict.get_erase_of_ne (by decide)]
  rw [hid] at hkey
  simp only [Json.obj.injEq, exists_eq_left']
  -- what is false is no key, and what is a text is the GUID
  unfold itemKey at hkey
  by_cases htruthy : ((d.get "id").orElse (d.get "vmId")).truthy = true
  · rw [if_pos htruthy] at hkey
    rcases hvalue : (d.get "id").orElse (d.get "vmId") with _ | _ | _ | _ | v | _ | _ <;>
      rw [hvalue] at hkey htruthy
    case str =>
      obtain rfl := Except.ok.inj hkey
      have hne : v ≠ "" := by
        rintro rfl
        cases htruthy
      simp only [ItemKey.toGuid, Option.some.injEq, Json.str.injEq]
      exact ⟨fun h => ⟨h ▸ hne, h⟩, fun h => h.2⟩
    all_goals cases hkey
    all_goals simp [ItemKey.toGuid]
  · rw [if_neg htruthy] at hkey
    obtain rfl := Except.ok.inj hkey
    refine iff_of_false (fun h => nomatch h) ?_
    rintro ⟨hne, hvalue⟩
    rw [hvalue] at htruthy
    exact htruthy (by simpa [Json.truthy] using hne)

/-- **The keys of an item that give its GUID**, when every item is read: a listed GUID is the text,
not empty, that an item has under `id`, or under `vmId` when what is under `id` is false. -/
lemma mem_listedGuids {items : List Json} (h : ∀ elem ∈ items, ∃ p, parseItem env elem = .ok p) :
    u ∈ listedGuids env items ↔
      u ≠ "" ∧ ∃ d : Dict, .obj d ∈ items ∧ (d.get "id").orElse (d.get "vmId") = .str u := by
  unfold listedGuids
  rw [List.mem_filterMap]
  constructor
  · rintro ⟨elem, helem, hguid⟩
    obtain ⟨p, hp⟩ := h elem helem
    obtain ⟨hne, d, rfl, hvalue⟩ := (itemGuid_eq_some_iff hp).mp hguid
    exact ⟨hne, d, helem, hvalue⟩
  · rintro ⟨hne, d, helem, hvalue⟩
    obtain ⟨p, hp⟩ := h _ helem
    exact ⟨_, helem, (itemGuid_eq_some_iff hp).mpr ⟨hne, d, rfl, hvalue⟩⟩

/-- The row of a GUID, before it is written. -/
lemma Scanned.enter (h : Scanned env w₀ host done scan w) (hn : (w.db.vms.map Vm.id).Nodup)
    (hown : host.id ∈ inventoryScopeHostIds w₀.db host) :
    let e := scan.enter env host u w
    Written w₀.db.vms (inventoryScopeHostIds w₀.db host) e.2.1 (u :: scan.seen) e.2.2.db.vms ∧
      e.1 ∈ e.2.2.db.vms ∧ e.1.hostId ∈ inventoryScopeHostIds w₀.db host ∧
      e.1.vmUuid = some u ∧ w.db.vms ⊆ e.2.2.db.vms := by
  have hseen := h.written.see u
  unfold Scan.enter
  rcases hfind : scan.find w.db u with _ | found
  · refine ⟨?_, List.mem_append_right _ (List.mem_singleton_self _), hown, rfl,
      List.subset_append_left _ _⟩
    exact hseen.add hown rfl List.mem_cons_self fun v hv hscope =>
      h.written.index.of_find_eq_none hfind hv hscope
  · obtain ⟨hmem, hscope, hguid⟩ := h.written.index.of_find_eq_some hn hfind
    exact ⟨hseen, hmem, hscope, hguid, List.Subset.refl _⟩

/-- A written row makes no two keys alike that were not. -/
lemma nodup_of_writeListed (hrun : writeListed env host scan image raw item u w = (.ok scan', t))
    (hn : (t.db.vms.map Vm.id).Nodup) : (w.db.vms.map Vm.id).Nodup := by
  obtain ⟨vm, text, -, -, -, rfl⟩ := writeListed_eq_ok.mp hrun
  simp only [Db.storeVm, Table.map_key_store] at hn
  unfold Scan.enter at hn
  split at hn
  · exact hn
  · simp only [Db.addVm, List.map_append] at hn
    exact (List.nodup_append.mp hn).1

/-- One listed item. -/
lemma Scanned.writeListed (h : Scanned env w₀ host done scan w)
    (hown : host.id ∈ inventoryScopeHostIds w₀.db host) (helem : itemGuid env elem = some u)
    (hlapsed : ¬ Lapsed w₀ host u)
    (hrun : writeListed env host scan image raw item u w = (.ok scan', t))
    (hn : (t.db.vms.map Vm.id).Nodup) : Scanned env w₀ host (done ++ [elem]) scan' t := by
  have hn₀ := nodup_of_writeListed hrun hn
  obtain ⟨hentered, hold, hoscope, hguid, hsub⟩ := h.enter (u := u) hn₀ hown
  obtain ⟨vm, text, hwrite, -, rfl, rfl⟩ := writeListed_eq_ok.mp hrun
  obtain ⟨hidentity, hhost⟩ := identity_of_writeVmRow hwrite
  simp only [Db.storeVm, Table.map_key_store] at hn
  generalize scan.enter env host u w = e at *
  obtain ⟨old, existing, w₁⟩ := e
  dsimp only at *
  have hident := hidentity
  simp only [Vm.identity, Prod.mk.injEq] at hident
  refine ⟨?_, fun v hv => ?_, fun v => ?_⟩
  · exact hentered.store hn hold hoscope hguid List.mem_cons_self (hhost ▸ hown) hidentity
  · have hstored : vm ∈ Table.store Vm.id vm w₁.db.vms :=
      Table.mem_store.mpr (Or.inr ⟨rfl, old, hold, hident.1.symm⟩)
    rcases List.mem_cons.mp hv with rfl | hv
    · exact ⟨vm, hstored, hhost, hident.2.1.trans hguid⟩
    · obtain ⟨row, hrow, hrowner, hrguid⟩ := h.owned v hv
      by_cases hid : row.id = vm.id
      · obtain rfl := Table.eq_of_mem_of_key hn (hsub hrow) hold (hid.trans hident.1)
        exact ⟨vm, hstored, hhost, hident.2.1.trans hrguid⟩
      · exact ⟨row, Table.mem_store.mpr (Or.inl ⟨hsub hrow, hid⟩), hrowner, hrguid⟩
  · rw [List.mem_cons, h.seen, listedGuids_append, helem, List.mem_append]
    constructor
    · rintro (rfl | ⟨hlisted, hnot⟩)
      · exact ⟨Or.inr (List.mem_singleton_self _), hlapsed⟩
      · exact ⟨Or.inl hlisted, hnot⟩
    · rintro ⟨hlisted | hlisted, hnot⟩
      · exact Or.inr ⟨hlisted, hnot⟩
      · exact Or.inl (List.mem_singleton.mp hlisted)

/-- An item that leaves the rows and the scan alone: it has no GUID, or a lapsed one. -/
lemma Scanned.skip (h : Scanned env w₀ host done scan w) (hvms : t.db.vms = w.db.vms)
    (helem : ∀ u ∈ itemGuid env elem, Lapsed w₀ host u) :
    Scanned env w₀ host (done ++ [elem]) scan t where
  written := hvms ▸ h.written
  owned := hvms ▸ h.owned
  seen u := by
    rw [h.seen, listedGuids_append, List.mem_append, Option.mem_toList]
    constructor
    · exact fun ⟨hlisted, hnot⟩ => ⟨Or.inl hlisted, hnot⟩
    · rintro ⟨hlisted | hlisted, hnot⟩
      · exact ⟨hlisted, hnot⟩
      · exact absurd (helem u hlisted) hnot

/-- **One item.** What holds once the keys are found distinct is carried by every item.

**Proof sketch.** Parse the item. Without a GUID, or with one that is tombstoned and has no row, it
is skipped (`Scanned.skip`); of such a GUID no row was in scope at the start, as those that were are
in scope still. Else it is written (`Scanned.writeListed`): it has not lapsed, by its row or for
lack of a tombstone. -/
theorem scanned_reconcileItem (hown : host.id ∈ inventoryScopeHostIds w₀.db host)
    (h : (w.db.vms.map Vm.id).Nodup → Scanned env w₀ host done scan w)
    (hrun : reconcileItem env host (listDeletedVmUuids host.id w₀) scan elem w = (.ok scan', t))
    (hn : (t.db.vms.map Vm.id).Nodup) : Scanned env w₀ host (done ++ [elem]) scan' t := by
  obtain ⟨image, d, item, key, hparse, hkey⟩ := reconcileItem_eq_ok.mp hrun
  have hguid := itemGuid_of_parse hparse
  cases key with
  | absent =>
    obtain ⟨rfl, rfl⟩ := hkey
    refine (h hn).skip rfl fun u hu => ?_
    rw [hguid] at hu
    cases hu
  | unbindable =>
    obtain ⟨rfl, rfl⟩ := hkey
    refine (h hn).skip rfl fun u hu => ?_
    rw [hguid] at hu
    cases hu
  | guid u =>
    dsimp only at hkey
    split at hkey
    · rename_i hstale
      obtain ⟨rfl, rfl⟩ := hkey
      rw [Bool.and_eq_true, Option.isNone_iff_eq_none] at hstale
      have hscanned := h hn
      refine hscanned.skip rfl fun u' hu' => ?_
      obtain rfl : u = u' := Option.some.inj (hguid.symm.trans hu')
      refine ⟨hstale.2, fun vm₀ hvm₀ hscope hu => ?_⟩
      -- a row of the GUID at the start is in scope still
      obtain ⟨vm, hvm, hvscope, hident⟩ := hscanned.written.kept vm₀ hvm₀ hscope
      simp only [Vm.identity, Prod.mk.injEq] at hident
      exact hscanned.written.index.of_find_eq_none hstale.1 hvm hvscope (hident.2.1.trans hu)
    · rename_i hfresh
      have hscanned := h (nodup_of_writeListed hkey hn)
      refine hscanned.writeListed hown hguid (fun hlapsed => hfresh ?_) hkey hn
      rw [Bool.and_eq_true, Option.isNone_iff_eq_none]
      refine ⟨?_, hlapsed.1⟩
      by_contra hfound
      obtain ⟨vm, hfind⟩ := Option.ne_none_iff_exists'.mp hfound
      obtain ⟨hvm, hscope, hu⟩ :=
        hscanned.written.index.of_find_eq_some (nodup_of_writeListed hkey hn) hfind
      by_cases hseen : u ∈ scan.seen
      · exact ((hscanned.seen u).mp hseen).2 hlapsed
      · -- a row no item is about was there at the start
        have hunlisted : unlisted (inventoryScopeHostIds w₀.db host) scan.seen vm = true := by
          refine decide_eq_true fun _ v hv => ?_
          rw [← Option.some.inj (hu.symm.trans hv)]
          exact hseen
        exact hlapsed.2 vm ((hscanned.written.mem_iff hunlisted).mp hvm) hscope hu

/-- The state before the loop. -/
lemma scanned_existingVms (hapart : (w₀.db.vms.filter fun v =>
    decide (v.InScope w₀.db host)).Pairwise fun a b => ∀ u ∈ a.vmUuid, b.vmUuid ≠ some u) :
    Scanned env w₀ host []
      { existing := existingVms w₀.db (inventoryScopeHostIds w₀.db host) } w₀ where
  written := ⟨indexes_existingVms hapart, rfl, fun vm hvm hscope => ⟨vm, hvm, hscope, rfl⟩⟩
  owned _ hu := nomatch hu
  seen u := by simp [listedGuids]

/-- The loop over the items. -/
theorem scanned_reconcileItems {items : List Json}
    (hown : host.id ∈ inventoryScopeHostIds w₀.db host)
    (hapart : (w₀.db.vms.filter fun v =>
      decide (v.InScope w₀.db host)).Pairwise fun a b => ∀ u ∈ a.vmUuid, b.vmUuid ≠ some u)
    (hrun : items.foldlM (reconcileItem env host (listDeletedVmUuids host.id w₀))
      { existing := existingVms w₀.db (inventoryScopeHostIds w₀.db host) } w₀ = (.ok scan, t))
    (hn : (t.db.vms.map Vm.id).Nodup) : Scanned env w₀ host items scan t := by
  refine foldlM_ok_scan
    (I := fun done scan w => (w.db.vms.map Vm.id).Nodup → Scanned env w₀ host done scan w)
    hrun (fun _ => scanned_existingVms hapart) (fun done elem rest _ scan w scan' t h hitem => ?_) hn
  exact scanned_reconcileItem hown h hitem

end Items

/-! ## Removals -/

/-- The row the loop over `existing` deletes under an entry, if any. -/
def unreported (db : Db) (host : Host) (seen : List String) (ref : String × String) :
    Option Vm :=
  (db.vm ref.2).filter fun vm => decide (vm.hostId = host.id ∧ ref.1 ∉ seen)

/-- The event is that of the removal of a row. -/
def IsRemoval (now : Time) (vm : Vm) (event : AuditEvent) : Prop :=
  ∃ id, event = auditEvent id now none "vm.inventory_remove" vm.ref none removalDetails

/-- The state after the entries `done`, from the state `w₀` before them. -/
structure Dropped (w₀ : World) (host : Host) (seen : List String) (done : List (String × String))
    (w : World) : Prop where
  now : w.now = w₀.now
  tasks : w.db.tasks = w₀.db.tasks
  vms : w.db.vms = Table.deleteWhere
    (fun v => decide (v.id ∈ (done.filterMap (unreported w₀.db host seen)).map Vm.id)) w₀.db.vms
  events : ∃ events, w.db.auditEvents = w₀.db.auditEvents ++ events ∧
    List.Forall₂ (IsRemoval w₀.now) ((done.filterMap (unreported w₀.db host seen)).filter
      fun v => !deleteInFlight w₀.db v.id) events

section Removals

variable {w₀ w t : World} {host : Host} {seen : List String} {ref : String × String}
  {done : List (String × String)}

/-- What was not reported is removed by its own identifier. -/
lemma id_of_unreported {db : Db} {vm : Vm} (h : vm ∈ unreported db host seen ref) :
    vm.id = ref.2 :=
  Table.key_of_lookup (Option.mem_filter_iff.mp h).1

/-- An entry whose row stays. -/
lemma dropUnreported_of_none (h : unreported w.db host seen ref = none)
    (hrun : dropUnreported env host seen ref w = (.ok (), t)) : t = w := by
  unfold dropUnreported at hrun
  unfold unreported at h
  rw [Prog.read_bind_run] at hrun
  rcases hvm : w.db.vm ref.2 with _ | vm
  · rw [hvm] at hrun
    exact (congrArg Prod.snd hrun).symm
  · rw [hvm, Option.filter_eq_none_iff] at h
    have hcond := h vm rfl
    rw [decide_eq_true_eq] at hcond
    rw [hvm] at hrun
    dsimp only at hrun
    rw [if_neg hcond] at hrun
    exact (congrArg Prod.snd hrun).symm

/-- An entry whose row goes. -/
lemma dropUnreported_of_some {vm : Vm} (h : unreported w.db host seen ref = some vm)
    (hrun : dropUnreported env host seen ref w = (.ok (), t)) :
    w.db.Consistent ∧ t.now = w.now ∧ t.db.tasks = w.db.tasks ∧
      t.db.vms = Table.deleteWhere (fun v => decide (v.id = vm.id)) w.db.vms ∧
      ∃ events, t.db.auditEvents = w.db.auditEvents ++ events ∧
        List.Forall₂ (IsRemoval w.now) ([vm].filter fun v => !deleteInFlight w.db v.id)
          events := by
  unfold dropUnreported at hrun
  obtain ⟨hvm, hcond⟩ := Option.mem_filter_iff.mp h
  rw [Prog.read_bind_run, Option.mem_def.mp hvm] at hrun
  dsimp only at hrun
  rw [if_pos (of_decide_eq_true hcond)] at hrun
  obtain ⟨⟨⟩, w₁, hflush, hbody⟩ := Prog.bind_eq_ok.mp hrun
  obtain ⟨hc, rfl⟩ := flush_eq_ok.mp hflush
  obtain ⟨⟨⟩, w₂, hrecord, hdelete⟩ := Prog.bind_eq_ok.mp hbody
  cases hdelete
  rcases hflight : deleteInFlight w₁.db vm.id with _ | _
  · rw [hflight, if_neg Bool.false_ne_true] at hrecord
    obtain ⟨-, rfl⟩ := record_eq_ok hrecord
    refine ⟨hc, rfl, rfl, rfl, _, rfl, ?_⟩
    rw [List.filter_cons_of_pos (by simp [hflight])]
    exact .cons ⟨_, rfl⟩ .nil
  · rw [hflight, if_pos rfl] at hrecord
    cases hrecord
    refine ⟨hc, rfl, rfl, rfl, [], (List.append_nil _).symm, ?_⟩
    rw [List.filter_cons_of_neg (by simp [hflight])]
    exact .nil

/-- A removal makes no two keys alike that were not: it has flushed. -/
lemma nodup_of_dropUnreported (hrun : dropUnreported env host seen ref w = (.ok (), t))
    (hn : (t.db.vms.map Vm.id).Nodup) : (w.db.vms.map Vm.id).Nodup := by
  rcases h : unreported w.db host seen ref with _ | vm
  · rw [← dropUnreported_of_none h hrun]
    exact hn
  · exact (dropUnreported_of_some h hrun).1.keyed.vmIds

/-- The rows that are gone are under the entries that are done. -/
lemma mem_ids_of_unreported {db : Db} {id : String}
    (h : id ∈ (done.filterMap (unreported db host seen)).map Vm.id) : id ∈ done.map Prod.snd := by
  obtain ⟨vm, hvm, rfl⟩ := List.mem_map.mp h
  obtain ⟨ref, href, hrow⟩ := List.mem_filterMap.mp hvm
  rw [id_of_unreported hrow]
  exact List.mem_map_of_mem href

/-- **One removal.** -/
theorem dropped_dropUnreported (h : Dropped w₀ host seen done w)
    (hfresh : ref.2 ∉ done.map Prod.snd)
    (hrun : dropUnreported env host seen ref w = (.ok (), t)) :
    Dropped w₀ host seen (done ++ [ref]) t := by
  obtain ⟨hnow, htasks, hvms, events, hevents, hremovals⟩ := h
  have hlookup : w.db.vm ref.2 = w₀.db.vm ref.2 := by
    unfold Db.vm
    rw [hvms]
    refine Table.lookup_deleteWhere fun v hv hid => decide_eq_false fun hgone => hfresh ?_
    exact hid ▸ mem_ids_of_unreported hgone
  have hsame : unreported w.db host seen ref = unreported w₀.db host seen ref := by
    rw [unreported, unreported, hlookup]
  have hflight : ∀ id, deleteInFlight w.db id = deleteInFlight w₀.db id := fun id => by
    rw [deleteInFlight, deleteInFlight, htasks]
  rcases hrow : unreported w₀.db host seen ref with _ | vm
  · obtain rfl := dropUnreported_of_none (hsame.trans hrow) hrun
    have hdone : (done ++ [ref]).filterMap (unreported w₀.db host seen) =
        done.filterMap (unreported w₀.db host seen) := by
      rw [List.filterMap_append, List.filterMap_cons_none hrow, List.filterMap_nil,
        List.append_nil]
    exact ⟨hnow, htasks, hdone ▸ hvms, events, hevents, hdone ▸ hremovals⟩
  · obtain ⟨-, hnow', htasks', hvms', new, hnew, hremoval⟩ :=
      dropUnreported_of_some (hsame.trans hrow) hrun
    have hdone : (done ++ [ref]).filterMap (unreported w₀.db host seen) =
        done.filterMap (unreported w₀.db host seen) ++ [vm] := by
      rw [List.filterMap_append, List.filterMap_cons_some hrow, List.filterMap_nil]
    refine ⟨hnow'.trans hnow, htasks'.trans htasks, ?_, events ++ new, ?_, ?_⟩
    · rw [hvms', hvms, hdone, Table.deleteWhere_deleteWhere]
      simp only [List.map_append, List.map_singleton, List.mem_append, List.mem_singleton,
        Bool.decide_or]
    · rw [hnew, hevents, List.append_assoc]
    · rw [hdone, List.filter_append]
      simp only [hflight, hnow] at hremoval
      exact List.rel_append hremovals hremoval

/-- The loop over `existing`. -/
theorem dropped_of_foldlM {refs : List (String × String)} (hrefs : (refs.map Prod.snd).Nodup)
    (hrun : refs.foldlM (fun _ ref => dropUnreported env host seen ref) () w₀ = (.ok (), t)) :
    Dropped w₀ host seen refs t := by
  refine @foldlM_ok_scan _ _ _ _ _ (fun done _ w => Dropped w₀ host seen done w) _ _ _ _ _ hrun
    ⟨rfl, rfl, by simp [Table.deleteWhere], [], by simp, .nil⟩
    fun done ref rest hsplit _ w _ t h hstep => dropped_dropUnreported h ?_ hstep
  rw [hsplit, List.map_append, List.map_cons, List.nodup_append] at hrefs
  exact fun hmem => hrefs.2.2 _ hmem _ List.mem_cons_self rfl

/-- The keys are distinct before the loop over `existing` if they are after it. -/
lemma nodup_of_foldlM {refs : List (String × String)}
    (hrun : refs.foldlM (fun _ ref => dropUnreported env host seen ref) () w₀ = (.ok (), t))
    (hn : (t.db.vms.map Vm.id).Nodup) : (w₀.db.vms.map Vm.id).Nodup :=
  foldlM_ok_induct (I := fun _ w => (w.db.vms.map Vm.id).Nodup → (w₀.db.vms.map Vm.id).Nodup)
    hrun id (fun _ _ _ _ _ _ h hstep hn => h (nodup_of_dropUnreported hstep hn)) hn

end Removals

/-! ## The rows that are left -/

/-- The GUIDs of the rows of a host. -/
def Db.guidsOf (db : Db) (hostId : String) : List String :=
  (db.vms.filter fun v => decide (v.hostId = hostId)).filterMap Vm.vmUuid

/-- The rows whose keys another state no longer has. -/
def Db.removed (db db' : Db) : List Vm :=
  db.vms.filter fun v => decide (v.id ∉ db'.vms.map Vm.id)

/-- The rows a snapshot is not about: those without a GUID, and those of other hosts that it does
not list. -/
def Vm.Bystander (vm : Vm) (db : Db) (host : Host) (guids : List String) : Prop :=
  vm.vmUuid = none ∨ vm.hostId ≠ host.id ∧ (vm.InScope db host → ∀ u ∈ vm.vmUuid, u ∉ guids)

/-- Whether a row stands by can be decided. -/
instance (vm : Vm) (db : Db) (host : Host) (guids : List String) :
    Decidable (vm.Bystander db host guids) := inferInstanceAs (Decidable (_ ∨ _))

/-- The GUIDs of a host are those of its rows. -/
lemma mem_guidsOf {db : Db} {hostId u : String} :
    u ∈ db.guidsOf hostId ↔ ∃ vm ∈ db.vms, vm.hostId = hostId ∧ vm.vmUuid = some u := by
  simp [Db.guidsOf, List.mem_filterMap, List.mem_filter, and_assoc]

section Outcome

variable {w₀ w t : World} {host : Host} {items : List Json} {scan : Scan}

/-- The rows the loop over `existing` deletes. -/
lemma mem_unreported (h : Scanned env w₀ host items scan w) (hn : (w.db.vms.map Vm.id).Nodup)
    (hown : host.id ∈ inventoryScopeHostIds w₀.db host) {vm : Vm} :
    vm ∈ scan.existing.filterMap (unreported w.db host scan.seen) ↔
      vm ∈ w.db.vms ∧ vm.hostId = host.id ∧ ∃ u ∈ vm.vmUuid, u ∉ scan.seen := by
  rw [List.mem_filterMap]
  constructor
  · rintro ⟨⟨u, id⟩, href, hrow⟩
    obtain ⟨hlookup, hcond⟩ := Option.mem_filter_iff.mp (Option.mem_def.mpr hrow)
    obtain ⟨hhost, hseen⟩ := of_decide_eq_true hcond
    obtain ⟨hvm, hid⟩ := (Table.lookup_eq_some hn).mp (Option.mem_def.mp hlookup)
    obtain ⟨v, hv, -, hguid, hvid⟩ := (h.written.index.entries u id).mp href
    obtain rfl := Table.eq_of_mem_of_key hn hvm hv (hid.trans hvid.symm)
    exact ⟨hvm, hhost, u, hguid, hseen⟩
  · rintro ⟨hvm, hhost, u, hguid, hseen⟩
    refine ⟨(u, vm.id), h.written.index.mem hvm (hhost ▸ hown) hguid, ?_⟩
    refine Option.mem_filter_iff.mpr ⟨?_, decide_eq_true ⟨hhost, hseen⟩⟩
    exact (Table.lookup_eq_some hn).mpr ⟨hvm, rfl⟩

/-- No row is deleted twice. -/
lemma nodup_unreported (h : Scanned env w₀ host items scan w)
    (hn : (w.db.vms.map Vm.id).Nodup) :
    (scan.existing.filterMap (unreported w.db host scan.seen)).Nodup := by
  refine List.pairwise_filterMap.mpr ((List.pairwise_map.mp (h.written.index.ids_nodup hn)).imp ?_)
  intro ref ref' hne vm hvm vm' hvm' heq
  refine hne ?_
  rw [← id_of_unreported hvm, ← id_of_unreported hvm', heq]

/-- The rows after both loops. -/
lemma mem_left (h : Scanned env w₀ host items scan w) (hn : (w.db.vms.map Vm.id).Nodup)
    (hown : host.id ∈ inventoryScopeHostIds w₀.db host)
    (hdrop : Dropped w host scan.seen scan.existing t) {vm : Vm} :
    vm ∈ t.db.vms ↔ vm ∈ w.db.vms ∧ (vm.hostId = host.id → ∀ u ∈ vm.vmUuid, u ∈ scan.seen) := by
  rw [hdrop.vms, Table.mem_deleteWhere, decide_eq_false_iff_not, List.mem_map]
  refine and_congr_right fun hvm => ?_
  constructor
  · intro hstays hhost u hguid
    by_contra hseen
    exact hstays ⟨vm, (mem_unreported h hn hown).mpr ⟨hvm, hhost, u, hguid, hseen⟩, rfl⟩
  · rintro hlisted ⟨v, hgone, hid⟩
    obtain ⟨hv, hhost, u, hguid, hseen⟩ := (mem_unreported h hn hown).mp hgone
    obtain rfl := Table.eq_of_mem_of_key hn hv hvm hid
    exact hseen (hlisted hhost u hguid)

/-- The GUIDs of the host's rows are those that were seen. -/
lemma mem_guidsOf_left (h : Scanned env w₀ host items scan w)
    (hn : (w.db.vms.map Vm.id).Nodup) (hown : host.id ∈ inventoryScopeHostIds w₀.db host)
    (hdrop : Dropped w host scan.seen scan.existing t) {u : String} :
    u ∈ t.db.guidsOf host.id ↔ u ∈ scan.seen := by
  rw [mem_guidsOf]
  constructor
  · rintro ⟨vm, hvm, hhost, hguid⟩
    exact ((mem_left h hn hown hdrop).mp hvm).2 hhost u hguid
  · intro hseen
    obtain ⟨vm, hvm, hhost, hguid⟩ := h.owned u hseen
    refine ⟨vm, (mem_left h hn hown hdrop).mpr ⟨hvm, fun _ v hv => ?_⟩, hhost, hguid⟩
    rw [Option.mem_def, hguid] at hv
    exact Option.some.inj hv ▸ hseen

/-- No GUID is twice among the host's rows. -/
lemma nodup_guidsOf (h : Scanned env w₀ host items scan w) (hn : (w.db.vms.map Vm.id).Nodup)
    (hown : host.id ∈ inventoryScopeHostIds w₀.db host)
    (hdrop : Dropped w host scan.seen scan.existing t) (hnt : (t.db.vms.map Vm.id).Nodup) :
    (t.db.guidsOf host.id).Nodup := by
  have hrows : (t.db.vms.filter fun v => decide (v.hostId = host.id)).Nodup := hnt.of_map.filter _
  refine List.pairwise_filterMap.mpr (hrows.imp_of_mem ?_)
  rintro a b ha hb hne u hau v hbv rfl
  obtain ⟨ha, hahost⟩ := List.mem_filter.mp ha
  obtain ⟨hb, hbhost⟩ := List.mem_filter.mp hb
  refine hne (h.written.index.unique hn ((mem_left h hn hown hdrop).mp ha).1
    ((mem_left h hn hown hdrop).mp hb).1 ?_ ?_ hau hbv)
  · exact of_decide_eq_true hahost ▸ hown
  · exact of_decide_eq_true hbhost ▸ hown

/-- A listed GUID of a row in scope keeps the row. -/
lemma exists_kept (h : Scanned env w₀ host items scan w) (hn : (w.db.vms.map Vm.id).Nodup)
    (hown : host.id ∈ inventoryScopeHostIds w₀.db host)
    (hdrop : Dropped w host scan.seen scan.existing t) {vm₀ : Vm} {u : String}
    (hvm₀ : vm₀ ∈ w₀.db.vms) (hscope₀ : vm₀.InScope w₀.db host) (hguid₀ : vm₀.vmUuid = some u)
    (hseen : u ∈ scan.seen) :
    ∃ vm ∈ t.db.vms, vm.hostId = host.id ∧ vm.identity = vm₀.identity := by
  obtain ⟨vm, hvm, hscope, hidentity⟩ := h.written.kept vm₀ hvm₀ hscope₀
  obtain ⟨row, hrow, hhost, hguid⟩ := h.owned u hseen
  have hident := hidentity
  simp only [Vm.identity, Prod.mk.injEq] at hident
  have hvguid : vm.vmUuid = some u := hident.2.1.trans hguid₀
  obtain rfl := h.written.index.unique hn hvm hrow hscope (hhost ▸ hown) hvguid hguid
  refine ⟨vm, (mem_left h hn hown hdrop).mpr ⟨hvm, fun _ v hv => ?_⟩, hhost, hidentity⟩
  rw [Option.mem_def, hvguid] at hv
  exact Option.some.inj hv ▸ hseen

/-- The rows a snapshot is not about are as they were. -/
lemma bystanders_left (h : Scanned env w₀ host items scan w) (hn : (w.db.vms.map Vm.id).Nodup)
    (hown : host.id ∈ inventoryScopeHostIds w₀.db host)
    (hdrop : Dropped w host scan.seen scan.existing t) :
    t.db.vms.filter (fun v => decide (v.Bystander w₀.db host (listedGuids env items))) =
      w₀.db.vms.filter fun v => decide (v.Bystander w₀.db host (listedGuids env items)) := by
  have hunlisted : ∀ vm : Vm, vm.Bystander w₀.db host (listedGuids env items) →
      unlisted (inventoryScopeHostIds w₀.db host) scan.seen vm = true := by
    rintro vm (hnone | ⟨-, hother⟩)
    · refine decide_eq_true fun _ u hu => ?_
      rw [hnone] at hu
      cases hu
    · exact decide_eq_true fun hscope u hu hseen => hother hscope u hu ((h.seen u).mp hseen).1
  have hnarrow : ∀ rows : List Vm,
      rows.filter (fun v => decide (v.Bystander w₀.db host (listedGuids env items))) =
        (rows.filter (unlisted (inventoryScopeHostIds w₀.db host) scan.seen)).filter
          fun v => decide (v.Bystander w₀.db host (listedGuids env items)) := by
    intro rows
    rw [List.filter_filter]
    refine List.filter_congr fun vm _ => (Bool.and_eq_left_iff_imp.mpr fun hby => ?_).symm
    exact hunlisted vm (of_decide_eq_true hby)
  rw [hdrop.vms, Table.filter_deleteWhere, hnarrow w.db.vms, hnarrow w₀.db.vms, h.written.rest]
  intro vm hvm hgone
  obtain ⟨v, hv, hid⟩ := List.mem_map.mp (of_decide_eq_true hgone)
  obtain ⟨hvmem, hhost, u, hguid, -⟩ := (mem_unreported h hn hown).mp hv
  obtain rfl := Table.eq_of_mem_of_key hn hvmem hvm hid
  refine decide_eq_false ?_
  rintro (hnone | ⟨hne, -⟩)
  · rw [hnone] at hguid
    cases hguid
  · exact hne hhost

/-- The rows that are gone are those the loop over `existing` deleted. -/
lemma perm_removed (h : Scanned env w₀ host items scan w) (hn : (w.db.vms.map Vm.id).Nodup)
    (hn₀ : (w₀.db.vms.map Vm.id).Nodup) (hown : host.id ∈ inventoryScopeHostIds w₀.db host)
    (hdrop : Dropped w host scan.seen scan.existing t) :
    (scan.existing.filterMap (unreported w.db host scan.seen)).Perm (w₀.db.removed t.db) := by
  refine (List.perm_ext_iff_of_nodup (nodup_unreported h hn) (hn₀.of_map.filter _)).mpr fun vm => ?_
  rw [mem_unreported h hn hown, List.mem_filter, decide_eq_true_eq, List.mem_map]
  constructor
  · rintro ⟨hvm, hhost, u, hguid, hseen⟩
    have hunlisted : unlisted (inventoryScopeHostIds w₀.db host) scan.seen vm = true := by
      refine decide_eq_true fun _ v hv => ?_
      rwa [Option.some.inj ((Option.mem_def.mp hv).symm.trans hguid)]
    refine ⟨(h.written.mem_iff hunlisted).mp hvm, ?_⟩
    rintro ⟨v, hv, hid⟩
    obtain ⟨hvmem, hlisted⟩ := (mem_left h hn hown hdrop).mp hv
    obtain rfl := Table.eq_of_mem_of_key hn hvmem hvm hid
    exact hseen (hlisted hhost u hguid)
  · rintro ⟨hvm₀, hgone⟩
    by_cases hunlisted : unlisted (inventoryScopeHostIds w₀.db host) scan.seen vm = true
    · -- the loop over the items left the row alone
      have hvm := (h.written.mem_iff hunlisted).mpr hvm₀
      refine ⟨hvm, ?_⟩
      by_contra hstays
      refine hgone ⟨vm, (mem_left h hn hown hdrop).mpr ⟨hvm, fun hhost u hguid => ?_⟩, rfl⟩
      by_contra hseen
      exact hstays ⟨hhost, u, hguid, hseen⟩
    · -- the GUID was seen: its row is still there
      simp only [unlisted, decide_eq_true_eq, not_forall, not_not] at hunlisted
      obtain ⟨hscope, u, hguid, hseen⟩ := hunlisted
      obtain ⟨row, hrow, -, hidentity⟩ := exists_kept h hn hown hdrop hvm₀ hscope hguid hseen
      exact absurd ⟨row, hrow, (Prod.mk.inj hidentity).1⟩ hgone

end Outcome

/-! ## The handler -/

/-- The state `t` after a snapshot of a host, from the state `w` before. -/
structure Reconciled (env : Env) (report : VmReport) (host : Host) (w t : World) : Prop where
  /-- No GUID is twice among the host's rows. -/
  apart : (t.db.guidsOf host.id).Nodup
  /-- The listed GUIDs are the texts, not empty, that the items have under `id`, or under `vmId`
  when what is under `id` is false. -/
  listed : ∀ u, u ∈ listedGuids env report.items ↔
    u ≠ "" ∧ ∃ d : Dict, .obj d ∈ report.items ∧ (d.get "id").orElse (d.get "vmId") = .str u
  /-- The GUIDs of the host's rows are the listed ones, the lapsed ones apart. -/
  owned : ∀ u, u ∈ t.db.guidsOf host.id ↔ u ∈ listedGuids env report.items ∧ ¬ Lapsed w host u
  /-- A listed GUID of a row in scope keeps the key, the folder and the tags of the row. -/
  kept : ∀ vm₀ ∈ w.db.vms, vm₀.InScope w.db host →
    ∀ u ∈ vm₀.vmUuid, u ∈ listedGuids env report.items →
      ∃ vm ∈ t.db.vms, vm.hostId = host.id ∧ vm.identity = vm₀.identity
  /-- Other rows are as they were. -/
  others : t.db.vms.filter
      (fun v => decide (v.Bystander w.db host (listedGuids env report.items))) =
    w.db.vms.filter fun v => decide (v.Bystander w.db host (listedGuids env report.items))
  /-- The new events are one per row that is gone without a delete in flight. -/
  audited : ∃ rows events,
    rows.Perm ((w.db.removed t.db).filter fun vm => !deleteInFlight w.db vm.id) ∧
    t.db.auditEvents = w.db.auditEvents ++ events ∧ List.Forall₂ (IsRemoval w.now) rows events

section Handler

variable {w t : World} {host : Host} {report : VmReport} {scan : Scan}

/-- The loops of a snapshot that goes through: the state between them, and the rows and the events
at the end. -/
lemma applyVmInventory_loops (hhost : w.db.host host.id = some host)
    (h : applyVmInventory env host.id (.obj report.payload) w = (.ok (), t)) :
    ∃ scan w₁ w₂,
      report.items.foldlM (reconcileItem env host (listDeletedVmUuids host.id w))
        { existing := existingVms w.db (inventoryScopeHostIds w.db host) } w = (.ok scan, w₁) ∧
      scan.existing.foldlM (fun _ ref => dropUnreported env host scan.seen ref) () w₁ =
        (.ok (), w₂) ∧
      t.db.vms = w₂.db.vms ∧ t.db.auditEvents = w₂.db.auditEvents := by
  unfold applyVmInventory at h
  rw [Prog.read_bind_run, hhost] at h
  obtain ⟨d, w', hd, hrest⟩ := Prog.bind_eq_ok.mp h
  obtain ⟨hdict, rfl⟩ := Prog.ofExcept_eq_ok.mp hd
  obtain rfl : report.payload = d := Except.ok.inj hdict
  obtain ⟨items, w', hitems, hrest⟩ := Prog.bind_eq_ok.mp hrest
  obtain ⟨hlisted, rfl⟩ := Prog.ofExcept_eq_ok.mp hitems
  obtain rfl : report.items = items := Except.ok.inj (report.listed.symm.trans hlisted)
  obtain ⟨scan, w₃, hreconcile, hthumbs⟩ := Prog.bind_eq_ok.mp hrest
  unfold reconcile at hreconcile
  rw [Prog.read_bind_run] at hreconcile
  obtain ⟨scan', w₁, hloop, hreconcile⟩ := Prog.bind_eq_ok.mp hreconcile
  obtain ⟨⟨⟩, w₂, hdrop, hreconcile⟩ := Prog.bind_eq_ok.mp hreconcile
  cases hreconcile
  refine ⟨scan, w₁, w₂, hloop, hdrop, ?_⟩
  split at hthumbs
  · cases hthumbs
    exact ⟨rfl, rfl⟩
  · obtain ⟨⟨⟩, w₄, hflush, hupsert⟩ := Prog.bind_eq_ok.mp hthumbs
    obtain ⟨-, rfl⟩ := flush_eq_ok.mp hflush
    rw [modifyDb, Prog.modify_bind_run] at hupsert
    obtain ⟨-, rfl⟩ := flush_eq_ok.mp hupsert
    exact ⟨rfl, rfl⟩

/-- A loop over the items that goes through has read each of them. -/
lemma parsed_of_reconcileItems {items : List Json} {tombstoned : String → Bool} {scan₀ : Scan}
    (h : items.foldlM (reconcileItem env host tombstoned) scan₀ w = (.ok scan, t)) :
    ∀ elem ∈ items, ∃ p, parseItem env elem = .ok p := by
  refine foldlM_ok_scan (I := fun done _ _ => ∀ elem ∈ done, ∃ p, parseItem env elem = .ok p) h
    (fun _ helem => nomatch helem) fun done elem rest _ scan w scan' t hdone hitem => ?_
  obtain ⟨image, d, item, key, hparse, -⟩ := reconcileItem_eq_ok.mp hitem
  intro elem' helem'
  rcases List.mem_append.mp helem' with helem' | helem'
  · exact hdone elem' helem'
  · obtain rfl := List.mem_singleton.mp helem'
    exact ⟨_, hparse⟩

/-- The loop over the items leaves the clock, the tasks and the events alone. -/
lemma reconcileItems_frame {items : List Json} {tombstoned : String → Bool} {scan₀ : Scan}
    (h : items.foldlM (reconcileItem env host tombstoned) scan₀ w = (.ok scan, t)) :
    t.now = w.now ∧ t.db.tasks = w.db.tasks ∧ t.db.auditEvents = w.db.auditEvents := by
  have hkeeps : Keeps (Frame.same fun w : World => (w.now, w.db.tasks, w.db.auditEvents))
      (items.foldlM (reconcileItem env host tombstoned) scan₀) :=
    keeps_foldlM (fun _ _ _ => keeps_reconcileItem (fun _ _ _ => rfl) (fun _ _ => rfl)
      (fun _ _ => rfl) (fun _ _ _ => rfl) (fun _ => rfl) _ _ _ _) _
  have hsame := hkeeps w
  rw [h] at hsame
  simpa [Frame.same] using hsame

/-- **A snapshot that goes through is reconciled**: the rows of the host that have a GUID are one
per listed GUID, the lapsed ones apart; a GUID in scope keeps its row; the other rows stay; and a
removal is recorded for each row that is gone without a delete in flight. -/
theorem reconciled_applyVmInventory (s : Committed) (hplaced : s.world.db.Placed)
    (hhost : host ∈ s.world.db.hosts)
    (h : sessionScope (applyVmInventory env host.id (.obj report.payload)) s.world = (.ok (), t)) :
    Reconciled env report host s.world t := by
  obtain ⟨hrun, hct⟩ := savepoint_eq_ok.mp h
  have hlookup := s.consistent.host_eq_some.mpr ⟨hhost, rfl⟩
  have hown := (stands_of_host hlookup).mem_scope
  have hapart := guids_apart s.consistent hplaced hhost
  obtain ⟨scan, w₁, w₂, hloop, hdrops, hvms, hevents⟩ := applyVmInventory_loops hlookup hrun
  have hn₁ : (w₁.db.vms.map Vm.id).Nodup := nodup_of_foldlM hdrops (hvms ▸ hct.keyed.vmIds)
  have hscan : Scanned env s.world host report.items scan w₁ :=
    scanned_reconcileItems hown hapart hloop hn₁
  have hdrop : Dropped w₁ host scan.seen scan.existing w₂ :=
    dropped_of_foldlM (hscan.written.index.ids_nodup hn₁) hdrops
  obtain ⟨hnow, htasks, haudit⟩ := reconcileItems_frame hloop
  have hflight : ∀ id, deleteInFlight w₁.db id = deleteInFlight s.world.db id := fun id => by
    rw [deleteInFlight, deleteInFlight, htasks]
  have hguids : t.db.guidsOf host.id = w₂.db.guidsOf host.id := by
    rw [Db.guidsOf, Db.guidsOf, hvms]
  have hremoved : s.world.db.removed t.db = s.world.db.removed w₂.db := by
    rw [Db.removed, Db.removed, hvms]
  obtain ⟨events, hnew, hremovals⟩ := hdrop.events
  refine ⟨?_, fun u => mem_listedGuids (parsed_of_reconcileItems hloop), fun u => ?_,
    fun vm₀ hvm₀ hscope u hguid hlisted => ?_, ?_, ?_⟩
  · rw [hguids]
    exact nodup_guidsOf hscan hn₁ hown hdrop (hvms ▸ hct.keyed.vmIds)
  · rw [hguids, mem_guidsOf_left hscan hn₁ hown hdrop, hscan.seen]
  · have hseen : u ∈ scan.seen :=
      (hscan.seen u).mpr ⟨hlisted, fun hlapsed => hlapsed.2 vm₀ hvm₀ hscope hguid⟩
    rw [hvms]
    exact exists_kept hscan hn₁ hown hdrop hvm₀ hscope hguid hseen
  · rw [hvms]
    exact bystanders_left hscan hn₁ hown hdrop
  · refine ⟨_, events, ?_, ?_, hnow ▸ hremovals⟩
    · rw [hremoved]
      simp only [hflight]
      exact (perm_removed hscan hn₁ s.consistent.keyed.vmIds hown hdrop).filter _
    · rw [hevents, hnew, haudit]

end Handler

/-- The hosts `"h"` and `"k"` of a cluster, with a VM on `"k"` and one on `"h"`. -/
def Demo.migrating : Committed where
  world := { now := 0, txStart := 0, db := {
    clusters := [{ id := "c", name := "cluster" }]
    hosts := [{ Demo.host with clusterId := some "c" },
      { id := "k", shortId := "r", name := "other", clusterId := some "c" }]
    vms := [
      { id := "v", vmUuid := some "g", hostId := "k", clusterId := some "c", name := .str "vm" },
      { id := "x", vmUuid := some "e", hostId := "h", clusterId := some "c", name := .str "ex" }]
    } }
  consistent := by decide

/-- A snapshot of the VM that was on `"k"`. -/
def Demo.arrivalReport : VmReport where
  payload := [("vms", .arr [.obj [("id", .str "g"), ("name", .str "vm")]])]
  items := [.obj [("id", .str "g"), ("name", .str "vm")]]
  listed := rfl

/-- A VM that arrives from another host, beside one that has gone. -/
theorem reconciled_applyVmInventory_migrating :
    Reconciled Demo.settings Demo.arrivalReport { Demo.host with clusterId := some "c" }
      Demo.migrating.world (sessionScope (applyVmInventory Demo.settings "h"
        (.obj Demo.arrivalReport.payload)) Demo.migrating.world).2 := by
  have hok : (sessionScope (applyVmInventory Demo.settings "h"
      (.obj Demo.arrivalReport.payload)) Demo.migrating.world).1.toOption.isSome = true := by
    decide +kernel
  have hplaced : Demo.migrating.world.db.Placed := by
    intro vm hvm
    rcases List.mem_cons.mp hvm with rfl | hvm
    · exact ⟨_, List.mem_cons_of_mem _ List.mem_cons_self, rfl, rfl, fun _ hf => nomatch hf⟩
    · obtain rfl := List.mem_singleton.mp hvm
      exact ⟨_, List.mem_cons_self, rfl, rfl, fun _ hf => nomatch hf⟩
  rcases hrun : sessionScope (applyVmInventory Demo.settings "h"
      (.obj Demo.arrivalReport.payload)) Demo.migrating.world with ⟨_ | ⟨⟩, t⟩
  · rw [hrun] at hok
    cases hok
  · exact reconciled_applyVmInventory Demo.migrating hplaced List.mem_cons_self hrun

end OpenVCenter
