import OpenVCenter.Foundations.Fallible
import OpenVCenter.Foundations.Sql
import OpenVCenter.Rbac
import OpenVCenter.Serializers

set_option relaxedAutoImplicit false
set_option autoImplicit false

/-!
# The list of VMs

`GET /vms` of `api/routes/vms.py`, with the reads of the cache it overlays on the rows. The state a
VM is listed with is not always the one of its row: the overlay goes before it, and "Unknown" before
both when the agent of the host is offline.

## Main definitions

* `OpenVCenter.getVmStates`, `OpenVCenter.getVmLocks`, `OpenVCenter.offlineHostIds` — what is read
  beside the rows.
* `OpenVCenter.listVms` — the route.
* `OpenVCenter.Told` — the row tells what the VM is listed with.

## Main results

* `OpenVCenter.listVms_eq` — the list, one row at a time.
* `OpenVCenter.listVms_state_iff` — when the filter of states is one of the list.
-/

namespace OpenVCenter

/-- The collation of the database: what `ORDER BY` goes by. -/
structure Collation where
  le : Json → Json → Bool
  trans : ∀ a b c, le a b = true → le b c = true → le a c = true
  total : ∀ a b, (le a b || le b a) = true

/-! ## Beside the rows -/

/-- `get_vm_states`: the entries that are not empty. -/
def getVmStates (c : Cache) (ids : List String) : List (String × String) :=
  ids.filterMap fun id => (nonEmpty (Expiring.get c.vmStates id)).map fun state => (id, state)

/-- The JSON of a lock. -/
def Lock.toDict (env : Env) (lock : Lock) : Dict :=
  [("task_id", .str lock.taskId), ("kind", .str lock.kind.name),
    ("requested_by", .str lock.requestedBy),
    ("acquired_at", .str (env.py.isoformat lock.acquiredAt))]

/-- `get_vm_locks`. -/
def getVmLocks (env : Env) (c : Cache) (ids : List String) : List (String × Dict) :=
  ids.filterMap fun id =>
    ((Expiring.get c.vmLocks id).map (Lock.toDict env)).map fun lock => (id, lock)

/-- `_offline_host_ids`: of the given hosts, the ones whose agent has gone offline. -/
def offlineHostIds (env : Env) (now : Time) (db : Db) (hostIds : List String) : List String :=
  ((db.hosts.filter fun h => decide (h.id ∈ hostIds)).filter fun h =>
    !agentConnected env now h).map Host.id

/-! ## The route -/

section Route

variable (env : Env) (coerce : Coercions) (collation : Collation)

/-- The rows of `list_vms`, as they are read. -/
def vmRows (db : Db) (hostId folderId state : Option String) : List Vm :=
  (db.vms.filter fun v =>
    hostId.all (fun h => decide (v.hostId = h)) &&
      folderId.all (fun f => decide (v.folderId = some f)) &&
      state.all fun s => v.state.isStr s).mergeSort fun a b => collation.le a.name b.name

/-- `list_vms`. -/
def listVms (w : World) (scope : VisibleScope) (hostId folderId state : Option String) :
    Except Raised (List Schema.VmOut) := do
  let vms := (vmRows collation w.db hostId folderId state).filter (vmVisible scope)
  let ids := vms.map Vm.id
  let states := getVmStates w.cache ids
  let locks := getVmLocks env w.cache ids
  let offline := offlineHostIds env w.now w.db (vms.map Vm.hostId)
  let result ← vms.mapM fun v =>
    vmOut coerce (states.lookup v.id) (locks.lookup v.id) (decide (v.hostId ∈ offline)) v
  pure (match state with
    | none => result
    | some s => result.filter fun v => decide (v.state = s))

end Route

/-! ## One row at a time -/

section Rows

variable {env : Env} {coerce : Coercions} {collation : Collation} {w : World} {v : Vm}

/-- `_host_offline`. -/
def hostIsOffline (env : Env) (w : World) (hostId : String) : Bool :=
  w.db.hosts.any fun h => decide (h.id = hostId) && !agentConnected env w.now h

/-- The VM as it is served. -/
def served (env : Env) (coerce : Coercions) (w : World) (v : Vm) : Except Raised Schema.VmOut :=
  vmOut coerce (nonEmpty (Expiring.get w.cache.vmStates v.id))
    ((Expiring.get w.cache.vmLocks v.id).map (Lock.toDict env)) (hostIsOffline env w v.hostId) v

/-- A dictionary of the keys that have a value. -/
lemma lookup_filterMap {α : Type} {f : String → Option α} {ids : List String} {id : String}
    (h : id ∈ ids) : (ids.filterMap fun id => (f id).map fun a => (id, a)).lookup id = f id := by
  induction ids with
  | nil => exact absurd h List.not_mem_nil
  | cons x ids ih =>
    rw [List.filterMap_cons]
    by_cases hx : id = x
    · subst hx
      rcases hf : f id with _ | a
      · by_cases hmem : id ∈ ids
        · exact (ih hmem).trans hf
        · have habsent : ∀ p ∈ ids.filterMap fun id => (f id).map fun a => (id, a), p.1 ≠ id := by
            intro p hp heq
            obtain ⟨y, hy, hmap⟩ := List.mem_filterMap.mp hp
            obtain ⟨a, -, rfl⟩ := Option.map_eq_some_iff.mp hmap
            exact hmem (heq ▸ hy)
          exact List.lookup_eq_none_iff.mpr fun p hp => by simpa using (habsent p hp).symm
      · simp
    · have hmem : id ∈ ids := (List.mem_cons.mp h).resolve_left hx
      rcases hf : f x with _ | a
      · exact ih hmem
      · simp only [Option.map_some, List.lookup_cons, beq_false_of_ne hx]
        exact ih hmem

/-- `_offline_host_ids` has the hosts that are offline. -/
lemma mem_offlineHostIds {hostIds : List String} {id : String} (h : id ∈ hostIds) :
    decide (id ∈ offlineHostIds env w.now w.db hostIds) = hostIsOffline env w id := by
  rw [Bool.eq_iff_iff, decide_eq_true_iff]
  unfold offlineHostIds hostIsOffline
  simp only [List.mem_map, List.mem_filter, decide_eq_true_eq, Bool.not_eq_true', List.any_eq_true,
    Bool.and_eq_true]
  constructor
  · rintro ⟨host, ⟨⟨hhost, -⟩, hoff⟩, rfl⟩
    exact ⟨host, hhost, rfl, hoff⟩
  · rintro ⟨host, hhost, rfl, hoff⟩
    exact ⟨host, ⟨⟨hhost, h⟩, hoff⟩, rfl⟩

/-- **The list**, one row at a time. -/
theorem listVms_eq (scope : VisibleScope) (hostId folderId state : Option String) :
    listVms env coerce collation w scope hostId folderId state = (do
      let result ← ((vmRows collation w.db hostId folderId state).filter (vmVisible scope)).mapM
        (served env coerce w)
      pure (match state with
        | none => result
        | some s => result.filter fun v => decide (v.state = s))) := by
  unfold listVms
  dsimp only
  refine congrArg₂ _ (Fallible.mapM_congr fun v hv => ?_) rfl
  unfold served getVmStates getVmLocks
  rw [lookup_filterMap (List.mem_map_of_mem hv), lookup_filterMap (List.mem_map_of_mem hv),
    mem_offlineHostIds (List.mem_map_of_mem hv)]

/-- The state the VM is listed with. -/
def Vm.reported (env : Env) (w : World) (v : Vm) : Json :=
  if hostIsOffline env w v.hostId then .str "Unknown"
  else (Json.ofOption (nonEmpty (Expiring.get w.cache.vmStates v.id))).orElse v.state

/-- The schema's text is a string. -/
lemma asStr_eq_ok {x : Json} {s : String} : Schema.asStr x = .ok s ↔ x = .str s := by
  cases x <;> simp [Schema.asStr]

/-- What is served of a row: its tags, in order, and the state it is listed with. -/
lemma served_eq_ok {out : Schema.VmOut} (h : served env coerce w v = .ok out) :
    v.reported env w = .str out.state ∧
      out.tagIds = v.tagIds.mergeSort fun a b => decide (a ≤ b) := by
  unfold served vmOut at h
  obtain ⟨name, -, h⟩ := Effect.except_bind_eq_ok.mp h
  obtain ⟨state, hstate, h⟩ := Effect.except_bind_eq_ok.mp h
  have hout : state = out.state ∧ out.tagIds = v.tagIds.mergeSort fun a b => decide (a ≤ b) := by
    -- the other fields
    iterate 16 obtain ⟨_, -, h⟩ := Effect.except_bind_eq_ok.mp h
    cases h
    exact ⟨rfl, rfl⟩
  refine ⟨?_, hout.2⟩
  rw [← hout.1, ← asStr_eq_ok]
  exact hstate

/-! ## The filter of states -/

/-- **The row tells what the VM is listed with**, when that is `s`: a VM of a host that is offline
is listed as "Unknown", and one with an entry in the overlay as the entry says. -/
def Told (env : Env) (w : World) (s : String) (v : Vm) : Prop :=
  if hostIsOffline env w v.hostId then s = "Unknown" → v.state = .str s
  else ∀ entry ∈ Expiring.get w.cache.vmStates v.id, entry ≠ "" → s = entry → v.state = .str s

/-- A state is told unless the list reports another. -/
lemma told_iff {s : String} : Told env w s v ↔ (v.reported env w = .str s → v.state = .str s) := by
  unfold Told Vm.reported
  split_ifs with hoff
  · rw [Json.str.injEq, eq_comm]
  · rcases hget : Expiring.get w.cache.vmStates v.id with _ | entry
    · exact iff_of_true (fun _ h => absurd h (Option.not_mem_none _)) fun h => h
    · by_cases hempty : entry = ""
      · subst hempty
        exact iff_of_true (fun _ h hne => absurd (Option.mem_some.mp h).symm hne) fun h => h
      · have hentry : nonEmpty (some entry) = some entry := if_neg (by simpa using hempty)
        rw [hentry, Json.ofOption, Json.orElse_of_truthy (by simpa [Json.truthy] using hempty)]
        simp [hempty, eq_comm]

end Rows

section Filter

variable {env : Env} {coerce : Coercions} {collation : Collation} {w : World} {scope : VisibleScope}
  {hostId folderId : Option String} {s : String} {all : List Schema.VmOut}

/-- The column is filtered before the rows are ordered; it might as well be after. -/
lemma vmRows_state (db : Db) : vmRows collation db hostId folderId (some s) =
    (vmRows collation db hostId folderId none).filter fun v => v.state.isStr s := by
  unfold vmRows
  rw [Sql.filter_mergeSort (fun a b : Vm => collation.le a.name b.name)
    (fun _ _ _ => collation.trans _ _ _) (fun _ _ => collation.total _ _), List.filter_filter]
  refine congrArg (fun rows => List.mergeSort rows _) (List.filter_congr fun v _ => ?_)
  simp [Bool.and_comm]

/-- **The filter of states** is one of the list exactly when the row of every VM that would be
listed tells that it is listed with the state.

**Proof sketch.** The rows are served one by one, so both lists are the served rows of a filter: of
the rows that would be listed with `s`, and of those whose own state is `s` among these
(`Fallible.mapM_filter`). If the lists agree they have one length, and a sublist of that length is
the whole; conversely rows that tell make the two filters one. -/
theorem listVms_state_iff
    (h : listVms env coerce collation w scope hostId folderId none = .ok all) :
    listVms env coerce collation w scope hostId folderId (some s) =
        .ok (all.filter fun v => decide (v.state = s)) ↔
      ∀ v ∈ vmRows collation w.db hostId folderId none, vmVisible scope v = true →
        Told env w s v := by
  rw [listVms_eq] at h ⊢
  rw [vmRows_state, List.filter_comm, ← List.forall_mem_filter]
  generalize (vmRows collation w.db hostId folderId none).filter (vmVisible scope) = rows at h ⊢
  obtain ⟨served, hserved, hall⟩ := Effect.except_bind_eq_ok.mp h
  obtain rfl : served = all := Except.ok.inj hall
  have hreturns : Fallible.Returns
      ((rows.filter fun v => v.state.isStr s).mapM (OpenVCenter.served env coerce w)) :=
    Fallible.returns_mapM.mpr fun v hv =>
      Fallible.returns_mapM.mp ⟨_, hserved⟩ v (List.mem_of_mem_filter hv)
  obtain ⟨kept, hkept⟩ := hreturns
  have hstate : ∀ v ∈ rows, ∀ out, OpenVCenter.served env coerce w v = .ok out →
      (v.reported env w).isStr s = decide (out.state = s) := by
    intro v _ out hout
    rw [(served_eq_ok hout).1]
    rfl
  have hlisted := Fallible.mapM_filter hstate hserved
  have hfiltered := Fallible.mapM_filter
    (fun v hv => hstate v (List.mem_of_mem_filter hv)) hkept
  rw [hkept]
  have hsame : (Except.ok kept >>= fun result =>
      pure (result.filter fun v => decide (v.state = s)) : Except Raised _) =
        .ok (served.filter fun v => decide (v.state = s)) ↔
      kept.filter (fun v => decide (v.state = s)) = served.filter fun v => decide (v.state = s) :=
    ⟨fun h => Except.ok.inj h, fun h => congrArg Except.ok h⟩
  refine hsame.trans ?_
  have hsub : ((rows.filter fun v => v.state.isStr s).filter fun v =>
      (v.reported env w).isStr s).Sublist (rows.filter fun v => (v.reported env w).isStr s) :=
    List.filter_sublist.filter _
  constructor
  · intro heq v hv
    rw [told_iff]
    intro hreported
    have hlength := congrArg List.length heq
    rw [Fallible.length_of_mapM_eq_ok hfiltered, Fallible.length_of_mapM_eq_ok hlisted] at hlength
    have hmem : v ∈ rows.filter fun v => (v.reported env w).isStr s :=
      List.mem_filter.mpr ⟨hv, by rw [hreported]; exact decide_eq_true rfl⟩
    rw [← hsub.eq_of_length hlength] at hmem
    exact Json.isStr_iff.mp (List.mem_filter.mp (List.mem_of_mem_filter hmem)).2
  · intro htold
    have hrows : (rows.filter fun v => v.state.isStr s).filter
        (fun v => (v.reported env w).isStr s) =
          rows.filter fun v => (v.reported env w).isStr s := by
      rw [List.filter_filter]
      refine List.filter_congr fun v hv => ?_
      by_cases hreported : (v.reported env w).isStr s = true
      · rw [hreported, Bool.true_and, Json.isStr_iff]
        exact told_iff.mp (htold v hv) (Json.isStr_iff.mp hreported)
      · rw [Bool.eq_false_iff.mpr hreported, Bool.false_and]
    rw [hrows, hlisted] at hfiltered
    exact (Except.ok.inj hfiltered).symm

end Filter

namespace Demo

/-- Every text is like every other: the order is that of the table. -/
def collation : Collation where
  le _ _ := true
  trans _ _ _ _ _ := rfl
  total _ _ := rfl

/-- A VM that was off when its host was last heard of. -/
def lastSeenOff : Vm :=
  { id := "v", vmUuid := some "g", hostId := "h", name := .str "vm", state := .str "Off" }

/-- Its host is offline. -/
def silent : World :=
  { now := seconds 1000, txStart := 0, db := { hosts := [host], vms := [lastSeenOff] } }

/-- The VM is listed, as "Unknown". -/
lemma silent_listed : ∃ out, out.state = "Unknown" ∧
    listVms settings coerce collation silent { all := true } none none none = .ok [out] := by
  have hserved : ∃ out, OpenVCenter.served settings coerce silent lastSeenOff = .ok out := ⟨_, rfl⟩
  obtain ⟨out, hout⟩ := hserved
  have hstate : (Json.str "Unknown") = .str out.state := (served_eq_ok hout).1
  refine ⟨out, (Json.str.inj hstate).symm, ?_⟩
  have hrows : vmRows collation silent.db none none none = [lastSeenOff] :=
    List.mergeSort_singleton _
  have hvisible : [lastSeenOff].filter (vmVisible { all := true }) = [lastSeenOff] := rfl
  rw [listVms_eq, hrows, hvisible, List.mapM_cons, hout]
  rfl

end Demo

/-- The VMs that are listed as "Off". -/
theorem listVms_state_off : ∃ out,
    listVms Demo.settings Demo.coerce Demo.collation Demo.silent { all := true } none none none =
        .ok [out] ∧
      (listVms Demo.settings Demo.coerce Demo.collation Demo.silent { all := true } none none
          (some "Off") = .ok ([out].filter fun v => decide (v.state = "Off")) ↔
        ∀ v ∈ vmRows Demo.collation Demo.silent.db none none none,
          vmVisible { all := true } v = true → Told Demo.settings Demo.silent "Off" v) := by
  obtain ⟨out, -, hlisted⟩ := Demo.silent_listed
  exact ⟨out, hlisted, listVms_state_iff hlisted⟩

/-- The VMs that are listed as "Unknown": the row says "Off". -/
theorem listVms_state_counterexample :
    ¬ ∀ (env : Env) (coerce : Coercions) (collation : Collation) (w : World)
      (scope : VisibleScope) (hostId folderId : Option String) (s : String)
      (all : List Schema.VmOut),
      listVms env coerce collation w scope hostId folderId none = .ok all →
        listVms env coerce collation w scope hostId folderId (some s) =
          .ok (all.filter fun v => decide (v.state = s)) := by
  intro h
  obtain ⟨out, hstate, hlisted⟩ := Demo.silent_listed
  have hfiltered := h _ _ _ _ _ _ _ "Unknown" _ hlisted
  have hnone : vmRows Demo.collation Demo.silent.db none none (some "Unknown") = [] :=
    List.mergeSort_nil
  rw [listVms_eq, hnone, List.filter_singleton, hstate] at hfiltered
  cases hfiltered

end OpenVCenter
