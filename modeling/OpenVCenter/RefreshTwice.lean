import OpenVCenter.Foundations.Beside
import OpenVCenter.HostIsolation
import OpenVCenter.PartialWrite

set_option relaxedAutoImplicit false
set_option autoImplicit false

/-!
# The rows of a response, written twice

A response that is delivered twice writes the rows of its VMs twice. This file runs the two
deliveries side by side: what the objects say does not depend on the rows, so the second delivery
writes over what the first one has left, and leaves the same.

## Main definitions

* `OpenVCenter.RowWrite` — what has been written of a row so far.
* `OpenVCenter.Rerun`, `OpenVCenter.InStep` — two deliveries that have done the same writes.

## Main results

* `OpenVCenter.beside_refreshItem`, `OpenVCenter.beside_applyResponseVmStatus` — the two deliveries
  stay in step.
* `OpenVCenter.redone_applySuccess`, `OpenVCenter.redone_stampPlaceholder` — the second delivery of
  a success leaves what the first one has left.
-/

namespace OpenVCenter

open Effect

variable {env : Env}

/-! ## The writes of a row -/

/-- The row without the instant of its last refresh. -/
def Vm.undated (vm : Vm) : Vm := { vm with lastInventoryAt := none }

/-- An object that says the state only. -/
def Said.ofState (state : Json) : Said := { Said.nothing with state := some state }

/-- Saying a state writes the state. -/
lemma Said.ofState_apply (state : Json) (vm : Vm) :
    (Said.ofState state).apply vm = { vm with state := state } := by
  simp [Said.apply, Said.ofState, Said.nothing, Said.orOne]

/-- What a delivery has written of a row so far: what its objects said, and whether one of them
refreshed the row. -/
structure RowWrite where
  said : Said
  refreshed : Bool

namespace RowWrite

/-- Nothing is written. -/
def nothing : RowWrite := ⟨Said.nothing, false⟩

/-- The row after the writes of a delivery at the instant `now`. -/
def apply (clusterId : Option String) (now : Time) (p : RowWrite) (vm : Vm) : Vm :=
  if p.refreshed then
    { p.said.apply vm with clusterId := clusterId, lastInventoryAt := some now }
  else p.said.apply vm

/-- One more object refreshes the row. -/
def refresh (p : RowWrite) (said : Said) : RowWrite := ⟨said.comp p.said, true⟩

/-- One more state is written. -/
def restate (p : RowWrite) (state : Json) : RowWrite :=
  ⟨(Said.ofState state).comp p.said, p.refreshed⟩

variable {clusterId : Option String} {now later : Time} {p : RowWrite} {vm vm' : Vm}

/-- A write of nothing. -/
@[simp] lemma apply_nothing : nothing.apply clusterId now vm = vm := Said.apply_nothing vm

/-- A write keeps the address of a row. -/
@[simp] lemma apply_address (p : RowWrite) (clusterId : Option String) (now : Time) (vm : Vm) :
    (p.apply clusterId now vm).address = vm.address := by
  unfold apply
  split_ifs <;> rfl

/-- So it keeps its identifier. -/
@[simp] lemma apply_id : (p.apply clusterId now vm).id = vm.id :=
  congrArg Prod.fst (apply_address p clusterId now vm)

/-- The state after a write. -/
lemma apply_state : (p.apply clusterId now vm).state = p.said.state.getD vm.state := by
  unfold apply
  split_ifs <;> rfl

/-- A refresh after a write. -/
lemma apply_refresh (said : Said) : (p.refresh said).apply clusterId now vm =
    { said.apply (p.apply clusterId now vm) with
      clusterId := clusterId, lastInventoryAt := some now } := by
  unfold apply refresh
  rw [if_pos rfl, Said.apply_comp]
  split_ifs <;> rfl

/-- A state stamped after a write. -/
lemma apply_restate (state : Json) : (p.restate state).apply clusterId now vm =
    { p.apply clusterId now vm with state := state } := by
  unfold apply restate
  split_ifs
  · rw [Said.apply_comp, Said.ofState_apply]
  · rw [Said.apply_comp, Said.ofState_apply]

/-- Writes made twice are made once. -/
lemma apply_again (p : RowWrite) (clusterId : Option String) (now later : Time) (vm : Vm) :
    (p.apply clusterId later (p.apply clusterId now vm)).undated =
      (p.apply clusterId now vm).undated := by
  unfold apply
  split_ifs
  · have h : p.said.apply { p.said.apply vm with
        clusterId := clusterId, lastInventoryAt := some now } =
        { p.said.apply (p.said.apply vm) with
          clusterId := clusterId, lastInventoryAt := some now } := rfl
    rw [h, Said.apply_self]
    rfl
  · rw [Said.apply_self]

/-- Writes that fit one row fit every row that fits. -/
lemma apply_bindable (h : (p.apply clusterId now vm).bindable = true) (h' : vm'.bindable = true)
    (hguid : vm'.vmUuid = vm.vmUuid) (hlater : Column.timestamp later = true) :
    (p.apply clusterId later vm').bindable = true := by
  have hdate : ∀ v : Vm, v.bindable = true →
      { v with clusterId := clusterId, lastInventoryAt := some later }.bindable = true := by
    intro v hv
    simp only [Vm.bindable, Bool.and_eq_true] at hv ⊢
    obtain ⟨⟨⟨⟨hv, -⟩, hdisks⟩, hnics⟩, hsnapshots⟩ := hv
    exact ⟨⟨⟨⟨hv, hlater⟩, hdisks⟩, hnics⟩, hsnapshots⟩
  unfold apply at h ⊢
  split_ifs at h ⊢
  · have hsaid : (p.said.apply { vm with
        clusterId := clusterId, lastInventoryAt := some now }).bindable = true := h
    exact hdate _ (Said.bindable hsaid h' hguid)
  · exact Said.bindable h h' hguid

/-- Writes that fit at one instant fit at another. -/
lemma apply_bindable_later (h : (p.apply clusterId now vm).bindable = true)
    (hlater : Column.timestamp later = true) : (p.apply clusterId later vm).bindable = true := by
  unfold apply at h ⊢
  split_ifs at h ⊢
  · simp only [Vm.bindable, Bool.and_eq_true] at h ⊢
    obtain ⟨⟨⟨⟨h, -⟩, hdisks⟩, hnics⟩, hsnapshots⟩ := h
    exact ⟨⟨⟨⟨h, hlater⟩, hdisks⟩, hnics⟩, hsnapshots⟩
  · exact h

end RowWrite

/-! ## The writes of a delivery -/

/-- The rows after the writes of a delivery. -/
def writeAll (clusterId : Option String) (now : Time) (writes : String → RowWrite)
    (rows : List Vm) : List Vm :=
  rows.map fun vm => (writes vm.id).apply clusterId now vm

section WriteAll

variable {clusterId : Option String} {now : Time} {writes : String → RowWrite} {rows : List Vm}

/-- Nothing written to any row. -/
@[simp] lemma writeAll_nothing : writeAll clusterId now (fun _ => .nothing) rows = rows := by
  simp [writeAll]

/-- One more write of a row. -/
lemma store_writeAll (clusterId : Option String) (now : Time) (writes : String → RowWrite)
    (hn : (rows.map Vm.id).Nodup) {vm : Vm} (hvm : vm ∈ rows) (p : RowWrite) :
    Table.store Vm.id (p.apply clusterId now vm) (writeAll clusterId now writes rows) =
      writeAll clusterId now (Function.update writes vm.id p) rows := by
  unfold Table.store writeAll
  rw [List.map_map]
  refine List.map_congr_left fun x hx => ?_
  simp only [Function.comp_apply, RowWrite.apply_id]
  by_cases hid : x.id = vm.id
  · obtain rfl := Table.eq_of_mem_of_key hn hx hvm hid
    rw [if_pos rfl, Function.update_self]
  · rw [if_neg hid, Function.update_of_ne hid]

end WriteAll

/-! ## Two deliveries in step -/

/-- Two deliveries of one response: the cluster of their host, their instants, the databases and the
rows they write over, and what the overlays may be left with. -/
structure Rerun where
  clusterId : Option String
  now : Time
  later : Time
  first : Db
  second : Db
  rows : List Vm
  rowsAgain : List Vm
  left : String → Option String → Prop

/-- The second delivery starts on rows at the addresses of those of the first one, in a database
that differs in its tasks and rows only: on the same rows when the comparison is strict, on rows
that meet the constraints when it is not. -/
structure Rerun.Fair (R : Rerun) (strict : Prop) : Prop where
  ids : (R.rows.map Vm.id).Nodup
  addresses : R.rowsAgain.map Vm.address = R.rows.map Vm.address
  first : R.first.Consistent
  second : R.second.Consistent
  tasks : { R.first with tasks := R.second.tasks } = R.second
  now : Column.timestamp R.now = true
  later : Column.timestamp R.later = true
  same : strict → R.rowsAgain = R.rows
  again : ¬ strict → { R.second with vms := R.rowsAgain }.Consistent

/-- The overlays the two deliveries have written show the states of their rows. -/
def Rerun.Shown (env : Env) (R : Rerun) (writes : String → RowWrite) (w w' : World)
    (id : String) : Prop :=
  ∃ vm ∈ R.rows, ∃ vm' ∈ R.rowsAgain, vm.id = id ∧ vm'.id = id ∧
    Expiring.get w.cache.vmStates id =
      encodeValue env ((writes id).apply R.clusterId R.now vm).state ∧
    Expiring.get w'.cache.vmStates id =
      encodeValue env ((writes id).apply R.clusterId R.later vm').state

/-- The two deliveries have done the same writes, and an overlay that is not written is one that may
be left. A row that has been refreshed is in the cluster of the host when the second delivery finds
it, unless both find the same rows. -/
structure InStep (env : Env) (R : Rerun) (strict : Prop) (writes : String → RowWrite)
    (w w' : World) : Prop where
  now : w.now = R.now
  later : w'.now = R.later
  first : w.db = { R.first with vms := writeAll R.clusterId R.now writes R.rows }
  second : w'.db = { R.second with vms := writeAll R.clusterId R.later writes R.rowsAgain }
  cluster : ∀ vm ∈ R.rowsAgain, (writes vm.id).refreshed = true →
    strict ∨ vm.clusterId = R.clusterId
  states : ∀ id, R.left id (Expiring.get w'.cache.vmStates id) ∨ R.Shown env writes w w' id

/-- The overlays after two deliveries that have both raised. -/
def Rerun.Left (R : Rerun) (w w' : World) : Prop :=
  ∀ id, R.left id (Expiring.get w'.cache.vmStates id) ∨
    Expiring.get w'.cache.vmStates id = Expiring.get w.cache.vmStates id

section InStep

variable {R : Rerun} {strict : Prop} {writes : String → RowWrite} {w w' : World}

/-- Each row of the first run is found in the second. -/
lemma Rerun.Fair.twin (hR : R.Fair strict) {vm : Vm} (hvm : vm ∈ R.rows) :
    ∃ vm' ∈ R.rowsAgain, vm'.address = vm.address := by
  have hin : vm.address ∈ R.rowsAgain.map Vm.address := by
    rw [hR.addresses]
    exact List.mem_map_of_mem hvm
  exact List.mem_map.mp hin

/-- And each of the second in the first. -/
lemma Rerun.Fair.twin_of (hR : R.Fair strict) {vm' : Vm} (hvm : vm' ∈ R.rowsAgain) :
    ∃ vm ∈ R.rows, vm.address = vm'.address := by
  have hin : vm'.address ∈ R.rows.map Vm.address := by
    rw [← hR.addresses]
    exact List.mem_map_of_mem hvm
  exact List.mem_map.mp hin

/-- The rows of the second run have keys of their own. -/
lemma Rerun.Fair.idsAgain (hR : R.Fair strict) : (R.rowsAgain.map Vm.id).Nodup := by
  have h := congrArg (List.map Prod.fst) hR.addresses
  simp only [List.map_map] at h
  change R.rowsAgain.map Vm.id = R.rows.map Vm.id at h
  rw [h]
  exact hR.ids

/-- In a strict comparison a row is its own twin. -/
lemma Rerun.Fair.eq_twin (hR : R.Fair strict) (hs : strict) {vm vm' : Vm} (hvm : vm ∈ R.rows)
    (hvm' : vm' ∈ R.rowsAgain) (hid : vm'.id = vm.id) : vm' = vm := by
  rw [hR.same hs] at hvm'
  exact Table.eq_of_mem_of_key hR.ids hvm' hvm hid

/-- Two deliveries in step that raise leave the same overlays. -/
lemma InStep.left (h : InStep env R strict writes w w') (hR : R.Fair strict) (hs : strict) :
    R.Left w w' := by
  intro id
  rcases h.states id with hleft | ⟨vm, hvm, vm', hvm', rfl, hid, hw, hw'⟩
  · exact Or.inl hleft
  · right
    rw [hw, hw', hR.eq_twin hs hvm hvm' hid, RowWrite.apply_state, RowWrite.apply_state]

/-- Writes that leave the constraints met at one instant do so at another, whatever the tasks. -/
lemma consistent_later {db : Db} {tasks : List Task} {clusterId : Option String} {now later : Time}
    {rows : List Vm} (h : { db with vms := writeAll clusterId now writes rows }.Consistent)
    (htasks : { db with tasks := tasks }.Consistent) (hlater : Column.timestamp later = true) :
    { db with tasks := tasks, vms := writeAll clusterId later writes rows }.Consistent := by
  have hmoved : { db with tasks := tasks, vms := writeAll clusterId now writes rows }.Consistent :=
    h.with_tasks htasks.keyed.taskIds htasks.keyed.taskHost fun t ht => htasks.task_bindable ht
  refine hmoved.with_rows ?_ fun v hv => ?_
  · unfold writeAll
    rw [List.map_map, List.map_map]
    refine List.map_congr_left fun vm _ => ?_
    simp only [Function.comp_apply]
    unfold RowWrite.apply
    split_ifs <;> rfl
  · obtain ⟨vm, hvm, rfl⟩ := List.mem_map.mp hv
    exact RowWrite.apply_bindable_later (h.vm_bindable (List.mem_map_of_mem hvm)) hlater

/-- The second delivery passes a flush when the first one does; in a strict comparison, only
then. -/
lemma InStep.consistent (h : InStep env R strict writes w w') (hR : R.Fair strict)
    (hc : w.db.Consistent) : w'.db.Consistent := by
  rw [h.first] at hc
  rw [h.second]
  by_cases hs : strict
  · have hmoved := consistent_later hc (hR.tasks ▸ hR.second) hR.later
    rw [← hR.tasks, hR.same hs]
    exact hmoved
  · refine (hR.again hs).with_rows ?_ fun v hv => ?_
    · unfold writeAll
      rw [List.map_map]
      refine List.map_congr_left fun vm hvm => ?_
      simp only [Function.comp_apply]
      unfold RowWrite.apply
      split_ifs with hrefreshed
      · have hcluster := (h.cluster vm hvm hrefreshed).resolve_left hs
        exact keys_eq_iff.mpr ⟨rfl, rfl, rfl, hcluster.symm, rfl⟩
      · rfl
    · obtain ⟨vm', hvm', rfl⟩ := List.mem_map.mp hv
      obtain ⟨vm, hvm, haddress⟩ := hR.twin_of hvm'
      obtain ⟨hid, hguid, -⟩ := address_eq_iff.mp haddress
      have hfits : ((writes vm.id).apply R.clusterId R.now vm).bindable = true :=
        hc.vm_bindable (List.mem_map_of_mem hvm)
      rw [hid] at hfits
      exact RowWrite.apply_bindable hfits ((hR.again hs).vm_bindable hvm') hguid.symm hR.later

/-- Runs in step are consistent together. -/
lemma InStep.consistent_of (h : InStep env R strict writes w w') (hR : R.Fair strict)
    (hs : strict) (hc : w'.db.Consistent) : w.db.Consistent := by
  have hback : { R.second with tasks := R.first.tasks } = R.first := by rw [← hR.tasks]
  rw [h.second, hR.same hs] at hc
  rw [h.first]
  have hmoved := consistent_later hc (hback ▸ hR.first) hR.now
  rw [← hback]
  exact hmoved

/-- The flush of two deliveries in step. -/
lemma beside_flush (hR : R.Fair strict) (h : InStep env R strict writes w w') :
    Beside strict (fun _ _ => InStep env R strict writes) R.Left flush flush w w' := by
  by_cases hc : w.db.Consistent
  · exact beside_of_ok (flush_of_consistent hc) (flush_of_consistent (h.consistent hR hc)) h
  · obtain ⟨e, he⟩ := flush_of_inconsistent hc
    by_cases hs : strict
    · have hc' : ¬ w'.db.Consistent := fun hc' => hc (h.consistent_of hR hs hc')
      obtain ⟨e', he'⟩ := flush_of_inconsistent hc'
      exact beside_of_error he he' (h.left hR)
    · exact beside_of_not_strict he hs

/-! ## A row that is found -/

/-- A row is found by its GUID among written rows when it is found among the rows. -/
lemma vmByGuid_writeAll {db : Db} {clusterId : Option String} {now : Time} {rows : List Vm}
    (h : db.vms = writeAll clusterId now writes rows) (hostId u : String) :
    vmByGuid db hostId u =
      match rows.filter fun v => decide (v.vmUuid = some u ∧ v.hostId = hostId) with
      | [] => .ok none
      | [v] => .ok (some ((writes v.id).apply clusterId now v))
      | _ => .error .multipleResultsFound := by
  have hfilter : db.vms.filter (fun v => decide (v.vmUuid = some u ∧ v.hostId = hostId)) =
      (rows.filter fun v => decide (v.vmUuid = some u ∧ v.hostId = hostId)).map
        fun v => (writes v.id).apply clusterId now v := by
    rw [h, writeAll, List.filter_map]
    congr 1
    refine List.filter_congr fun v _ => ?_
    obtain ⟨-, hguid, hhost⟩ := address_eq_iff.mp
      (RowWrite.apply_address (writes v.id) clusterId now v)
    simp only [Function.comp_apply, hguid, hhost]
  unfold vmByGuid
  rw [hfilter]
  generalize List.filter _ rows = found
  rcases found with _ | ⟨v, _ | ⟨v', rest⟩⟩
  · rfl
  · rfl
  · rfl

/-- Two deliveries in step find the same row of the host, or none. -/
lemma InStep.vmByGuid (h : InStep env R strict writes w w') (hR : R.Fair strict)
    (hostId u : String) :
    (∃ e, vmByGuid w.db hostId u = .error e ∧ vmByGuid w'.db hostId u = .error e) ∨
    (vmByGuid w.db hostId u = .ok none ∧ vmByGuid w'.db hostId u = .ok none) ∨
    ∃ vm ∈ R.rows, ∃ vm' ∈ R.rowsAgain, vm'.address = vm.address ∧ vm'.vmUuid = some u ∧
      vm'.hostId = hostId ∧
      vmByGuid w.db hostId u = .ok (some ((writes vm.id).apply R.clusterId R.now vm)) ∧
      vmByGuid w'.db hostId u = .ok (some ((writes vm.id).apply R.clusterId R.later vm')) := by
  have haddresses : (R.rowsAgain.filter fun v =>
        decide (v.vmUuid = some u ∧ v.hostId = hostId)).map Vm.address =
      (R.rows.filter fun v => decide (v.vmUuid = some u ∧ v.hostId = hostId)).map Vm.address := by
    have hfilter : ∀ l : List Vm,
        (l.filter fun v => decide (v.vmUuid = some u ∧ v.hostId = hostId)).map Vm.address =
          (l.map Vm.address).filter fun a => decide (a.2.1 = some u ∧ a.2.2 = hostId) := by
      intro l
      rw [List.filter_map]
      rfl
    rw [hfilter, hfilter, hR.addresses]
  have hfirst := congrArg Db.vms h.first
  have hsecond := congrArg Db.vms h.second
  rw [vmByGuid_writeAll hfirst, vmByGuid_writeAll hsecond]
  generalize hrows : List.filter _ R.rows = found at haddresses ⊢
  rcases found with _ | ⟨vm, _ | ⟨other, rest⟩⟩
  · rw [List.map_eq_nil_iff.mp haddresses]
    exact Or.inr (Or.inl ⟨rfl, rfl⟩)
  · obtain ⟨vm', hagain, haddress⟩ := List.map_eq_singleton_iff.mp haddresses
    have hvm : vm ∈ R.rows := List.mem_of_mem_filter (hrows ▸ List.mem_singleton_self vm)
    obtain ⟨hvm', hfound⟩ := List.mem_filter.mp (hagain ▸ List.mem_singleton_self vm')
    simp only [decide_eq_true_eq] at hfound
    have hsame : (writes vm'.id).apply R.clusterId R.later vm' =
        (writes vm.id).apply R.clusterId R.later vm' := by
      rw [(address_eq_iff.mp haddress).1]
    rw [hagain]
    exact Or.inr (Or.inr ⟨vm, hvm, vm', hvm', haddress, hfound.1, hfound.2, rfl,
      congrArg (fun v => Except.ok (some v)) hsame⟩)
  · obtain ⟨vm₁, rest₁, hagain, -, hrest⟩ := List.map_eq_cons_iff.mp haddresses
    obtain ⟨vm₂, rest₂, hagain₂, -, -⟩ := List.map_eq_cons_iff.mp hrest
    rw [hagain, hagain₂]
    exact Or.inl ⟨_, rfl, rfl⟩

/-! ## A row that is written -/

/-- A row that fits its columns has a state the cache takes. -/
lemma encodeValue_of_bindable {vm : Vm} (h : vm.bindable = true) :
    ∃ text, encodeValue env vm.state = some text := by
  have hstate : Column.varchar 16 vm.state = true := by
    simp only [Vm.bindable, Bool.and_eq_true] at h
    exact h.1.1.1.1.1.1.1.1.1.1.1.1.1.1.1.1.1.1.1.1.1.1.2
  cases hs : vm.state with
  | str text => exact ⟨text, rfl⟩
  | null | bool _ | int _ | float _ | arr _ | obj _ =>
    rw [hs] at hstate
    cases hstate

/-- What a row and its overlay leave, unless the cache does not take the state. -/
lemma storeAndCache_run (new : Vm) (u : World) : (do
    modifyDb fun db => db.storeVm new
    setVmState env new.id new.state : M Unit) u =
    match encodeValue env new.state with
    | none => (.error .dataError, { u with db := u.db.storeVm new })
    | some text => (.ok (), { u with
        db := u.db.storeVm new
        cache := { u.cache with
          vmStates := Expiring.put u.cache.vmStates new.id text
            (u.now + seconds env.vmStateTtlSeconds) } }) := by
  unfold setVmState
  rcases encodeValue env new.state with _ | text
  · rfl
  · rfl

/-- A row is written and its overlay with it, in both deliveries.

**Proof sketch.** Both stores are runs of the same write. If the first state cannot be cached,
neither can the second, and both leave; otherwise the second can, and the relation is kept field by
field, split on whether the row is the one written. -/
lemma beside_write (hR : R.Fair strict) (h : InStep env R strict writes w w') {vm vm' : Vm}
    (hvm : vm ∈ R.rows) (hvm' : vm' ∈ R.rowsAgain) (haddress : vm'.address = vm.address)
    {p : RowWrite} (hp : p.refreshed = true → strict ∨ vm'.clusterId = R.clusterId) :
    Beside strict (fun _ _ => InStep env R strict (Function.update writes vm.id p)) R.Left
      (do
        modifyDb fun db => db.storeVm (p.apply R.clusterId R.now vm)
        setVmState env (p.apply R.clusterId R.now vm).id (p.apply R.clusterId R.now vm).state)
      (do
        modifyDb fun db => db.storeVm (p.apply R.clusterId R.later vm')
        setVmState env (p.apply R.clusterId R.later vm').id
          (p.apply R.clusterId R.later vm').state) w w' := by
  have hid : vm'.id = vm.id := congrArg Prod.fst haddress
  unfold Beside
  rw [storeAndCache_run, storeAndCache_run, RowWrite.apply_id, RowWrite.apply_id, hid]
  rcases htext : encodeValue env (p.apply R.clusterId R.now vm).state with _ | text
  · -- the state of the first row cannot be cached: neither can that of the same row
    rcases htext' : encodeValue env (p.apply R.clusterId R.later vm').state with _ | text'
    · exact fun hs => h.left hR hs
    · intro hs
      rw [RowWrite.apply_state] at htext htext'
      rw [hR.eq_twin hs hvm hvm' hid, htext] at htext'
      cases htext'
  · obtain ⟨text', htext'⟩ : ∃ text', encodeValue env (p.apply R.clusterId R.later vm').state =
        some text' := by
      rw [RowWrite.apply_state] at htext ⊢
      by_cases hs : strict
      · rw [hR.eq_twin hs hvm hvm' hid]
        exact ⟨text, htext⟩
      · cases hstate : p.said.state with
        | some state =>
          rw [hstate] at htext
          exact ⟨text, htext⟩
        | none => exact encodeValue_of_bindable ((hR.again hs).vm_bindable hvm')
    rw [htext']
    refine ⟨h.now, h.later, ?_, ?_, fun x hx hrefreshed => ?_, fun id => ?_⟩
    · simp only [Db.storeVm, h.first]
      rw [store_writeAll _ _ _ hR.ids hvm]
    · simp only [Db.storeVm, h.second]
      rw [store_writeAll _ _ _ hR.idsAgain hvm', hid]
    · by_cases hxid : x.id = vm.id
      · rw [hxid, Function.update_self] at hrefreshed
        obtain rfl := Table.eq_of_mem_of_key hR.idsAgain hx hvm' (hxid.trans hid.symm)
        exact hp hrefreshed
      · rw [Function.update_of_ne hxid] at hrefreshed
        exact h.cluster x hx hrefreshed
    · by_cases hother : id = vm.id
      · subst hother
        refine Or.inr ⟨vm, hvm, vm', hvm', rfl, hid, ?_, ?_⟩
        · simp only [Expiring.get_put, if_true, Function.update_self, htext]
        · simp only [Expiring.get_put, if_true, Function.update_self, htext']
      · simp only [Rerun.Shown, Expiring.get_put, if_neg hother, Function.update_of_ne hother]
        exact h.states id

/-! ## The objects -/

/-- A refresh of a row that was written, as one write. -/
lemma RowWrite.refreshed_row {clusterId : Option String} {now : Time} {p : RowWrite} {vm : Vm}
    (said : Said) : ((said.apply (p.apply clusterId now vm)).setOwner vm.hostId
      clusterId).setRefreshed now = (p.refresh said).apply clusterId now vm := by
  have hhost : (said.apply (p.apply clusterId now vm)).hostId = vm.hostId :=
    (address_eq_iff.mp (apply_address p clusterId now vm)).2.2
  rw [apply_refresh]
  generalize said.apply (p.apply clusterId now vm) = x at hhost ⊢
  rw [← hhost]
  rfl

variable {host : Host}

/-- One object in both deliveries. The second one finds the row it is about in the cluster of the
host, unless both find the same rows.

**Proof sketch.** Through the handler of one object, on both sides at once: both flush, and both
look its GUID up in rows of the same addresses, so both raise, both find none, or they find a row
and its twin. Then both write what the object says, which depends on the object alone
(`RowWrite.refreshed_row`). -/
lemma beside_refreshItem (hR : R.Fair strict) (h : InStep env R strict writes w w')
    (hcluster : host.clusterId = R.clusterId) {raw : Dict}
    (habout : ∀ item, ∀ vm ∈ R.rowsAgain, vm.hostId = host.id → IsAbout env raw item vm →
      strict ∨ vm.clusterId = R.clusterId) (updated : Bool) :
    Beside strict (fun a b w w' => a = b ∧ ∃ writes, InStep env R strict writes w w') R.Left
      (refreshItem env host updated raw) (refreshItem env host updated raw) w w' := by
  unfold refreshItem
  refine beside_ofExcept_bind (h.left hR) fun item hitem => ?_
  by_cases htruthy : (item.get "vmUuid").truthy = true
  · rw [if_pos htruthy]
    cases hguid : item.get "vmUuid" with
    | str u =>
      refine beside_bind (beside_flush hR h) fun _ _ w w' h => ?_
      refine beside_read_bind ?_
      rcases h.vmByGuid hR host.id u with ⟨e, hw, hw'⟩ | ⟨hw, hw'⟩ |
        ⟨vm, hvm, vm', hvm', haddress, hu, hhost', hw, hw'⟩
      · rw [hw, hw']
        exact beside_raise (h.left hR)
      · rw [hw, hw']
        exact beside_pure ⟨rfl, writes, h⟩
      · rw [hw, hw']
        obtain ⟨hid, -, hhost⟩ := address_eq_iff.mp haddress
        have hu' : u ≠ "" := by
          rintro rfl
          rw [hguid] at htruthy
          cases htruthy
        have hnew := habout item vm' hvm' hhost' ⟨hitem, u, hguid, hu', hu⟩
        -- what the object says is the same in both deliveries
        have hwrite : ∀ (now : Time) (row : Vm), row.hostId = host.id →
            (Prog.ofExcept (writeVmRow env now true raw item host.id host.clusterId
              ((writes vm.id).apply R.clusterId now row)) : M Vm) =
              Prog.ofExcept (saidOf env raw item) >>= fun said =>
                pure (((writes vm.id).refresh said).apply R.clusterId now row) := by
          intro now row hrow
          rw [writeVmRow_subset, Prog.ofExcept_bind, hcluster, ← hrow]
          congr 1
          funext said
          rw [RowWrite.refreshed_row]
          rfl
        simp only [Prog.ofExcept_ok, pure_bind]
        rw [h.now, h.later, hwrite R.now vm (hhost.symm.trans hhost'), hwrite R.later vm' hhost',
          bind_assoc, bind_assoc]
        refine beside_ofExcept_bind (h.left hR) fun said _ => ?_
        simp only [pure_bind]
        have hstored := beside_write hR h hvm hvm' haddress
          (p := (writes vm.id).refresh said) fun _ => hnew
        have hnext := beside_bind (f := fun _ => (pure true : M Bool))
          (g := fun _ => (pure true : M Bool))
          (Q := fun a b w w' => a = b ∧ ∃ writes, InStep env R strict writes w w') hstored
          fun _ _ w w' h => beside_pure ⟨rfl, _, h⟩
        rw [bind_assoc, bind_assoc] at hnext
        exact hnext
    | null | bool _ | int _ | float _ | arr _ | obj _ => exact beside_raise (h.left hR)
  · rw [if_neg htruthy]
    exact beside_pure ⟨rfl, writes, h⟩

/-- The objects of a response in both deliveries. -/
lemma beside_applyResponseVmStatus {hostId : String} {resp : AgentResponse} (hR : R.Fair strict)
    (h : InStep env R strict writes w w')
    (hcluster : ∀ host ∈ R.first.host hostId, host.clusterId = R.clusterId)
    (habout : ∀ raw ∈ responseVmItems resp, ∀ item, ∀ vm ∈ R.rowsAgain, vm.hostId = hostId →
      IsAbout env raw item vm → strict ∨ vm.clusterId = R.clusterId) :
    Beside strict (fun a b w w' => a = b ∧ ∃ writes, InStep env R strict writes w w') R.Left
      (applyResponseVmStatus env hostId resp) (applyResponseVmStatus env hostId resp) w w' := by
  unfold applyResponseVmStatus
  by_cases hempty : (responseVmItems resp).isEmpty = true
  · rw [if_pos hempty]
    exact beside_pure ⟨rfl, writes, h⟩
  · rw [if_neg hempty]
    refine beside_read_bind ?_
    have hfirst : w.db.host hostId = R.first.host hostId := by rw [h.first]; rfl
    have hsecond : w'.db.host hostId = R.first.host hostId := by rw [h.second, ← hR.tasks]; rfl
    rw [hfirst, hsecond]
    cases hhost : R.first.host hostId with
    | none => exact beside_pure ⟨rfl, writes, h⟩
    | some host =>
      obtain rfl : host.id = hostId := Table.key_of_lookup hhost
      refine beside_foldlM
        (I := fun a b w w' => a = b ∧ ∃ writes, InStep env R strict writes w w')
        ⟨rfl, writes, h⟩ ?_
      rintro raw hraw a b t t' ⟨rfl, writes, h⟩
      exact beside_refreshItem hR h (hcluster host hhost) (habout raw hraw) a

/-- The rest of a create or clone, once its row has the GUID. -/
lemma beside_stamped {hostId : String} {resp : AgentResponse} (hR : R.Fair strict)
    (h : InStep env R strict writes w w')
    (hcluster : ∀ host ∈ R.first.host hostId, host.clusterId = R.clusterId)
    (habout : ∀ raw ∈ responseVmItems resp, ∀ item, ∀ vm ∈ R.rowsAgain, vm.hostId = hostId →
      IsAbout env raw item vm → strict ∨ vm.clusterId = R.clusterId) :
    Beside strict (fun _ _ w w' => ∃ writes, InStep env R strict writes w w') R.Left
      (do
        flush
        let _ ← applyResponseVmStatus env hostId resp)
      (do
        flush
        let _ ← applyResponseVmStatus env hostId resp) w w' := by
  refine beside_bind (beside_flush hR h) fun _ _ w w' h => ?_
  refine beside_bind (beside_applyResponseVmStatus hR h hcluster habout) fun _ _ w w' h => ?_
  exact beside_pure h.2

/-- A success in both deliveries. -/
lemma beside_applySuccess {hostId : String} {resp : AgentResponse} (hR : R.Fair strict)
    (h : InStep env R strict writes w w')
    (hcluster : ∀ host ∈ R.first.host hostId, host.clusterId = R.clusterId)
    (habout : ∀ raw ∈ responseVmItems resp, ∀ item, ∀ vm ∈ R.rowsAgain, vm.hostId = hostId →
      IsAbout env raw item vm → strict ∨ vm.clusterId = R.clusterId) :
    Beside strict (fun _ _ w w' => ∃ writes, InStep env R strict writes w w') R.Left
      (applySuccess env hostId resp) (applySuccess env hostId resp) w w' := by
  unfold applySuccess
  refine beside_bind (beside_applyResponseVmStatus hR h hcluster habout) ?_
  rintro applied b w w' ⟨rfl, writes, h⟩
  split
  · rename_i u state hu hstate
    cases applied with
    | true => exact beside_pure ⟨writes, h⟩
    | false =>
      refine beside_bind (beside_flush hR h) fun _ _ w w' h => beside_read_bind ?_
      rcases h.vmByGuid hR hostId u with ⟨e, hw, hw'⟩ | ⟨hw, hw'⟩ |
        ⟨vm, hvm, vm', hvm', haddress, -, -, hw, hw'⟩
      · rw [hw, hw']
        exact beside_raise (h.left hR)
      · rw [hw, hw']
        exact beside_pure ⟨writes, h⟩
      · rw [hw, hw']
        have hid : vm'.id = vm.id := (address_eq_iff.mp haddress).1
        have hstored := beside_write hR h hvm hvm' haddress
          (p := (writes vm.id).restate (.str state)) fun hrefreshed =>
            h.cluster vm' hvm' (by rw [hid]; exact hrefreshed)
        rw [RowWrite.apply_restate, RowWrite.apply_restate] at hstored
        simp only [Prog.ofExcept_ok, pure_bind]
        exact beside_mono hstored fun _ _ _ _ h => ⟨_, h⟩
  · exact beside_pure ⟨writes, h⟩

end InStep

/-! ## The rows the objects are about -/

section About

variable {w t : World} {host : Host} {hostId : String} {resp : AgentResponse}

/-- The row of a GUID on a host is the only one. -/
lemma vmByGuid_unique {db : Db} {u : String} {row : Option Vm}
    (h : vmByGuid db hostId u = .ok row) {vm : Vm} (hvm : vm ∈ db.vms)
    (hguid : vm.vmUuid = some u) (hhost : vm.hostId = hostId) : row = some vm := by
  have hmem : vm ∈ db.vms.filter fun v => decide (v.vmUuid = some u ∧ v.hostId = hostId) :=
    List.mem_filter.mpr ⟨hvm, by simp [hguid, hhost]⟩
  unfold vmByGuid at h
  split at h
  · rename_i hnone
    rw [hnone] at hmem
    cases hmem
  · rename_i v hone
    rw [hone] at hmem
    rw [List.mem_singleton.mp hmem]
    exact (Except.ok.inj h).symm
  · cases h

/-- A row is either as it was before an object, or in the cluster of the host; one the object is
about is.

**Proof sketch.** Follow the handler of one object. If it finds no row, it writes none. Else the row
it stores gets the cluster of the host, and any other row is as it was and is of another GUID, since
a host has one row of a GUID (`vmByGuid_unique`). -/
lemma cluster_of_refreshItem {updated b : Bool} {raw : Dict}
    (h : refreshItem env host updated raw w = (.ok b, t)) {vm : Vm} (hvm : vm ∈ t.db.vms) :
    vm.clusterId = host.clusterId ∨ vm ∈ w.db.vms ∧
      (vm.hostId = host.id → ∀ item, ¬ IsAbout env raw item vm) := by
  unfold refreshItem at h
  obtain ⟨item, w₁, hexcept, hrun⟩ := Prog.bind_eq_ok.mp h
  obtain ⟨hitem, rfl⟩ := Prog.ofExcept_eq_ok.mp hexcept
  have habout : ∀ item', IsAbout env raw item' vm → ∃ u, item.get "vmUuid" = .str u ∧ u ≠ "" ∧
      vm.vmUuid = some u := by
    rintro item' ⟨hitem', hu⟩
    rw [hitem] at hitem'
    rw [Except.ok.inj hitem']
    exact hu
  split_ifs at hrun with htruthy
  · cases hguid : item.get "vmUuid" with
    | str u =>
      rw [hguid] at hrun
      obtain ⟨⟨⟩, w₂, hflush, hread⟩ := Prog.bind_eq_ok.mp hrun
      obtain ⟨-, rfl⟩ := flush_eq_ok.mp hflush
      rw [Prog.read_bind_run] at hread
      obtain ⟨row, w₃, hfound, hrest⟩ := Prog.bind_eq_ok.mp hread
      obtain ⟨hrow, rfl⟩ := Prog.ofExcept_eq_ok.mp hfound
      have hsome : ∀ item', vm ∈ w₃.db.vms → vm.hostId = host.id → IsAbout env raw item' vm →
          row = some vm := by
        intro item' hmem hhost hvmabout
        obtain ⟨u', hguid', -, hvmu⟩ := habout item' hvmabout
        obtain rfl : u = u' := Json.str.inj (hguid.symm.trans hguid')
        exact vmByGuid_unique hrow hmem hvmu hhost
      cases row with
      | none =>
        obtain ⟨-, rfl⟩ := Prod.mk.inj hrest
        refine Or.inr ⟨hvm, fun hhost item' hvmabout => ?_⟩
        cases hsome item' hvm hhost hvmabout
      | some found =>
        obtain ⟨new, w₄, hnew, hstore⟩ := Prog.bind_eq_ok.mp hrest
        obtain ⟨hwrite, rfl⟩ := Prog.ofExcept_eq_ok.mp hnew
        rw [writeVmRow_subset] at hwrite
        obtain ⟨said, -, hsaid⟩ := except_bind_eq_ok.mp hwrite
        cases hsaid
        rw [modifyDb, Prog.modify_bind_run] at hstore
        obtain ⟨⟨⟩, w₆, hstate, hlast⟩ := Prog.bind_eq_ok.mp hstore
        obtain ⟨-, rfl⟩ := Prod.mk.inj hlast
        obtain ⟨text, -, rfl⟩ := setVmState_eq_ok.mp hstate
        rcases Table.mem_store.mp hvm with ⟨hmem, hne⟩ | ⟨rfl, -⟩
        · refine Or.inr ⟨hmem, fun hhost item' hvmabout => hne ?_⟩
          rw [← Option.some.inj (hsome item' hmem hhost hvmabout)]
          rfl
        · exact Or.inl rfl
    | null | bool _ | int _ | float _ | arr _ | obj _ =>
      rw [hguid] at hrun
      cases (Prod.mk.inj hrun).1
  · obtain ⟨-, rfl⟩ := Prod.mk.inj hrun
    refine Or.inr ⟨hvm, fun _ item' hvmabout => htruthy ?_⟩
    obtain ⟨u, hguid, hne, -⟩ := habout item' hvmabout
    rw [hguid]
    simpa [Json.truthy] using hne

/-- The rows of a host that the objects of a response are about are in its cluster afterwards. -/
lemma cluster_of_applyResponseVmStatus {b : Bool}
    (h : applyResponseVmStatus env hostId resp w = (.ok b, t))
    (hhost : w.db.host hostId = some host) :
    ∀ raw ∈ responseVmItems resp, ∀ item, ∀ vm ∈ t.db.vms, vm.hostId = hostId →
      IsAbout env raw item vm → vm.clusterId = host.clusterId := by
  unfold applyResponseVmStatus at h
  by_cases hempty : (responseVmItems resp).isEmpty = true
  · rw [List.isEmpty_iff.mp hempty]
    exact fun _ hraw => by cases hraw
  · obtain rfl : host.id = hostId := Table.key_of_lookup hhost
    rw [if_neg hempty, Prog.read_bind_run, hhost] at h
    refine foldlM_ok_scan (I := fun done _ w => ∀ raw ∈ done, ∀ item, ∀ vm ∈ w.db.vms,
      vm.hostId = host.id → IsAbout env raw item vm → vm.clusterId = host.clusterId) h
      (fun _ hraw => by cases hraw) ?_
    intro done raw rest _ b w b' t hdone hrun raw' hraw' item vm hvm hown habout
    rcases cluster_of_refreshItem hrun hvm with hcluster | ⟨hmem, hnot⟩
    · exact hcluster
    · rcases List.mem_append.mp hraw' with hraw' | hraw'
      · exact hdone raw' hraw' item vm hmem hown habout
      · obtain rfl := List.mem_singleton.mp hraw'
        exact absurd habout (hnot hown item)

end About

/-! ## The second delivery -/

/-- What a program does to the rows of a host keeps two deliveries in step. -/
def StaysInStep (env : Env) (hostId : String) (resp : AgentResponse) (m : M Unit) : Prop :=
  ∀ (R : Rerun) (strict : Prop) (writes : String → RowWrite) (w w' : World), R.Fair strict →
    InStep env R strict writes w w' →
    (∀ host ∈ R.first.host hostId, host.clusterId = R.clusterId) →
    (∀ raw ∈ responseVmItems resp, ∀ item, ∀ vm ∈ R.rowsAgain, vm.hostId = hostId →
      IsAbout env raw item vm → strict ∨ vm.clusterId = R.clusterId) →
    Beside strict (fun _ _ w w' => ∃ writes, InStep env R strict writes w w') R.Left m m w w'

/-- A program that returns leaves the rows its objects are about in the cluster of the host. -/
def ToCluster (env : Env) (hostId : String) (resp : AgentResponse) (m : M Unit) : Prop :=
  ∀ (w t : World), m w = (.ok (), t) → ∀ host ∈ w.db.host hostId,
    ∀ raw ∈ responseVmItems resp, ∀ item, ∀ vm ∈ t.db.vms, vm.hostId = hostId →
      IsAbout env raw item vm → vm.clusterId = host.clusterId

/-- Between the state after the first delivery, that before the second one and that after it: the
rows are the same but for their dates, the rest of the database is the same, and an overlay shows
what it showed after the first delivery, or what it has shown since. -/
structure Redone (t w' t' : World) : Prop where
  rows : t'.db.vms.map Vm.undated = t.db.vms.map Vm.undated
  db : t'.db = { w'.db with vms := t'.db.vms }
  states : ∀ id, Expiring.get t'.cache.vmStates id = Expiring.get t.cache.vmStates id ∨
    Expiring.get t'.cache.vmStates id = Expiring.get w'.cache.vmStates id

/-- The cluster of a host. -/
def Db.clusterOf (db : Db) (hostId : String) : Option String :=
  (db.host hostId).bind Host.clusterId

/-- The first delivery starts from `w`, the second one from `w'`; `t` has what the first one left in
the overlays. -/
def rerun (hostId : String) (w w' t : World) (rows rowsAgain : List Vm) : Rerun where
  clusterId := w.db.clusterOf hostId
  now := w.now
  later := w'.now
  first := w.db
  second := { w.db with tasks := w'.db.tasks }
  rows := rows
  rowsAgain := rowsAgain
  left id state := state = Expiring.get t.cache.vmStates id ∨
    state = Expiring.get w'.cache.vmStates id

section Twice

variable {hostId : String} {resp : AgentResponse} {m P P' : M Unit} {w w₁ w' w₁' : World}

/-- A program that stays in step writes rows in place. -/
lemma writes_of_staysInStep (hm : StaysInStep env hostId resp m) (hc : w.db.Consistent)
    (hnow : Column.timestamp w.now = true) (hnow₁ : w₁.now = w.now)
    (hids : (w₁.db.vms.map Vm.id).Nodup) (hw₁ : w₁.db = { w.db with vms := w₁.db.vms }) {t : World}
    (hrun : m w₁ = (.ok (), t)) :
    ∃ writes, t.db =
      { w.db with vms := writeAll (w.db.clusterOf hostId) w.now writes w₁.db.vms } := by
  have hfair : (rerun hostId w w w₁ w₁.db.vms w₁.db.vms).Fair True :=
    { ids := hids, addresses := rfl, first := hc, second := hc, tasks := rfl, now := hnow
      later := hnow, same := fun _ => rfl, again := fun h => absurd trivial h }
  have hstart : InStep env (rerun hostId w w w₁ w₁.db.vms w₁.db.vms) True (fun _ => .nothing)
      w₁ w₁ :=
    { now := hnow₁, later := hnow₁
      first := by rw [writeAll_nothing]; exact hw₁
      second := by rw [writeAll_nothing]; exact hw₁
      cluster := fun _ _ _ => Or.inl trivial
      states := fun _ => Or.inl (Or.inl rfl) }
  have hb := hm _ _ _ _ _ hfair hstart
    (fun host hhost => by
      have hfound : w.db.host hostId = some host := hhost
      simp [rerun, Db.clusterOf, hfound])
    fun _ _ _ _ _ _ _ => Or.inl trivial
  obtain ⟨⟨⟩, u, -, writes, hend⟩ := hb.ok hrun
  exact ⟨writes, hend.first⟩

/-- The second delivery, when the savepoint of the first one was released.

**Proof sketch.** The rows after the first run are the old ones under the writes of `again`
(`writes_of_staysInStep`). Run the program from those rows beside the first run: by `hm` the two
stay in step, so the second run makes the same writes to rows that show them already, and writing
twice is writing once (`RowWrite.apply_again`). -/
lemma redone_released (hm : StaysInStep env hostId resp m) (hto : ToCluster env hostId resp m)
    (hc : w.db.Consistent) (hnow : Column.timestamp w.now = true)
    (hc' : w'.db.Consistent) (hlater : Column.timestamp w'.now = true)
    (hids : (w₁.db.vms.map Vm.id).Nodup) (hw₁ : w₁.db = { w.db with vms := w₁.db.vms })
    (hnow₁ : w₁.now = w.now) {t : World} (hrun : m w₁ = (.ok (), t)) (hct : t.db.Consistent)
    (hdb : w'.db = { t.db with tasks := w'.db.tasks }) (hP' : P' w' = m w₁')
    (writes₀ : String → RowWrite)
    (hstart : t.db.vms.map Vm.address = w₁.db.vms.map Vm.address →
      t.db = { w.db with vms := t.db.vms } →
      InStep env (rerun hostId w w' t w₁.db.vms t.db.vms) False writes₀ w₁ w₁') :
    Redone t w' (savepoint P' w').2 := by
  obtain ⟨writes, hwrites⟩ := writes_of_staysInStep hm hc hnow hnow₁ hids hw₁ hrun
  have ht : t.db = { w.db with vms := t.db.vms } := by rw [hwrites]
  have hrows : t.db.vms = writeAll (w.db.clusterOf hostId) w.now writes w₁.db.vms := by
    rw [hwrites]
  have haddresses : t.db.vms.map Vm.address = w₁.db.vms.map Vm.address := by
    rw [hrows, writeAll, List.map_map]
    exact List.map_congr_left fun vm _ => RowWrite.apply_address _ _ _ vm
  have htasks : { w.db with tasks := w'.db.tasks, vms := t.db.vms } = w'.db := by
    rw [hdb, ht]
  have hsecond : { w.db with tasks := w'.db.tasks }.Consistent := by
    rw [← htasks] at hc'
    exact hc.with_tasks hc'.keyed.taskIds hc'.keyed.taskHost fun _ ht => hc'.task_bindable ht
  have hfair : (rerun hostId w w' t w₁.db.vms t.db.vms).Fair False :=
    { ids := hids, addresses := haddresses, first := hc, second := hsecond, tasks := rfl
      now := hnow, later := hlater, same := False.elim, again := fun _ => htasks ▸ hc' }
  have hhost : ∀ host, w.db.host hostId = some host →
      (rerun hostId w w' t w₁.db.vms t.db.vms).clusterId = host.clusterId := by
    intro host hfound
    simp [rerun, Db.clusterOf, hfound]
  have hb := hm _ _ _ _ _ hfair (hstart haddresses ht) (fun host hfound => (hhost host hfound).symm)
    fun raw hraw item vm hvm hown habout => by
      -- a row of the second delivery has a host
      have hfk : vm.hostId ∈ w.db.hosts.map Host.id := by
        rw [← htasks] at hc'
        exact hc'.keyed.vmHost vm hvm
      obtain ⟨host, hmem, hid⟩ := List.mem_map.mp hfk
      have hfound : w.db.host hostId = some host := hc.host_eq_some.mpr ⟨hmem, hid.trans hown⟩
      have hfound₁ : w₁.db.host hostId = some host := by rw [hw₁]; exact hfound
      rw [hhost host hfound]
      exact Or.inr (hto _ _ hrun host hfound₁ raw hraw item vm hvm hown habout)
  obtain ⟨⟨⟩, t', hrun', again, hend⟩ := hb.ok hrun
  have hsaved : savepoint P' w' = (.ok (), t') :=
    savepoint_eq_ok.mpr ⟨hP'.trans hrun', hend.consistent hfair hct⟩
  have hfirst : t.db.vms = writeAll (w.db.clusterOf hostId) w.now again w₁.db.vms :=
    congrArg Db.vms hend.first
  have hagain : t'.db.vms = writeAll (w.db.clusterOf hostId) w'.now again t.db.vms :=
    congrArg Db.vms hend.second
  rw [hsaved]
  refine ⟨?_, ?_, fun id => ?_⟩
  · rw [hagain, hfirst]
    unfold writeAll
    simp only [List.map_map]
    refine List.map_congr_left fun vm _ => ?_
    simp only [Function.comp_apply, RowWrite.apply_id]
    exact RowWrite.apply_again _ _ _ _ vm
  · rw [hend.second, ← htasks]
    rfl
  · rcases hend.states id with hleft | ⟨vm, hvm, vm', hvm', rfl, hid, hshown, hshown'⟩
    · exact hleft
    · left
      have hvm'' : vm' ∈ t.db.vms := hvm'
      rw [hfirst] at hvm''
      obtain ⟨old, hold, rfl⟩ := List.mem_map.mp hvm''
      rw [RowWrite.apply_id] at hid
      obtain rfl := Table.eq_of_mem_of_key hids hold hvm hid
      have hstate := congrArg Vm.state
        (RowWrite.apply_again (again old.id) (w.db.clusterOf hostId) w.now w'.now old)
      rw [hshown, hshown']
      exact congrArg (encodeValue env) hstate

/-- The second delivery, when the savepoint of the first one was rolled back. -/
lemma redone_rolled (hm : StaysInStep env hostId resp m) (hc : w.db.Consistent)
    (hnow : Column.timestamp w.now = true) (hc' : w'.db.Consistent)
    (hlater : Column.timestamp w'.now = true) (hids : (w₁.db.vms.map Vm.id).Nodup) {t : World}
    (hrolled : ∀ u, m w₁ = (.ok (), u) → ¬ u.db.Consistent) (hleft : t.cache = (m w₁).2.cache)
    (ht : t.db = w.db) (hdb : w'.db = { w.db with tasks := w'.db.tasks }) (hP' : P' w' = m w₁')
    (writes₀ : String → RowWrite)
    (hstart : InStep env (rerun hostId w w' t w₁.db.vms w₁.db.vms) True writes₀ w₁ w₁') :
    Redone t w' (savepoint P' w').2 := by
  have hsecond : { w.db with tasks := w'.db.tasks }.Consistent := hdb ▸ hc'
  have hfair : (rerun hostId w w' t w₁.db.vms w₁.db.vms).Fair True :=
    { ids := hids, addresses := rfl, first := hc, second := hsecond, tasks := rfl, now := hnow
      later := hlater, same := fun _ => rfl, again := fun h => absurd trivial h }
  have hb := hm _ _ _ _ _ hfair hstart
    (fun host hhost => by
      have hfound : w.db.host hostId = some host := hhost
      simp [rerun, Db.clusterOf, hfound])
    fun _ _ _ _ _ _ _ => Or.inl trivial
  -- the second delivery is rolled back as well, and has left the same overlays
  obtain ⟨e, u', hsaved, hstates⟩ : ∃ e u', savepoint P' w' = (.error e, rollback w' u') ∧
      (rerun hostId w w' t w₁.db.vms w₁.db.vms).Left (m w₁).2 u' := by
    rcases hrun : m w₁ with ⟨e | ⟨⟩, u⟩
    · obtain ⟨e', u', hrun', hstates⟩ := hb.error trivial hrun
      exact ⟨e', u', savepoint_of_raise (hP'.trans hrun'), hstates⟩
    · obtain ⟨⟨⟩, u', hrun', again, hend⟩ := hb.ok hrun
      have hnot : ¬ u'.db.Consistent := fun hcu =>
        hrolled u hrun (hend.consistent_of hfair trivial hcu)
      obtain ⟨e, hsaved⟩ := savepoint_of_inconsistent (hP'.trans hrun') hnot
      exact ⟨e, u', hsaved, hend.left hfair trivial⟩
  have hvms : w'.db.vms = t.db.vms := by rw [hdb, ht]
  rw [hsaved]
  refine ⟨?_, rfl, fun id => ?_⟩
  · exact congrArg (List.map Vm.undated) hvms
  · rcases hstates id with hshown | hshown
    · exact hshown
    · left
      rw [hleft]
      exact hshown

/-- A savepoint that does not return has seen its body raise, or leave the constraints broken. -/
lemma rolled_of_savepoint {e : Raised} {t : World} (h : savepoint P w = (.error e, t)) :
    (∀ u, P w = (.ok (), u) → ¬ u.db.Consistent) ∧ t = rollback w (P w).2 := by
  refine ⟨fun u hrun hcu => ?_, ?_⟩
  · rw [savepoint_eq_ok.mpr ⟨hrun, hcu⟩] at h
    cases h
  · rcases savepoint_cases P w with ⟨⟨⟩, u, hrun, hcu, hsaved⟩ | ⟨e', hsaved⟩
    · rw [hsaved] at h
      cases h
    · rw [hsaved] at h
      exact (Prod.mk.inj h).2.symm

/-- A success keeps the runs in step. -/
lemma staysInStep_applySuccess : StaysInStep env hostId resp (applySuccess env hostId resp) :=
  fun _ _ _ _ _ hR h hcluster habout => beside_applySuccess hR h hcluster habout

/-- It places the rows it writes in the host's cluster.

**Proof sketch.** The objects of the answer are written in the cluster of the host. The bare state
behind them is written on a row that keeps its cluster, so a row with that GUID had it before, and
the first case applies to that one. -/
lemma toCluster_applySuccess : ToCluster env hostId resp (applySuccess env hostId resp) := by
  intro w t hrun host hhost raw hraw item vm hvm hown habout
  unfold applySuccess at hrun
  obtain ⟨applied, w₁, happlied, hrest⟩ := Prog.bind_eq_ok.mp hrun
  have hcluster := cluster_of_applyResponseVmStatus happlied hhost raw hraw item
  -- the bare state of the answer is written on a row that keeps its cluster
  have hsame : ∃ old ∈ w₁.db.vms, old.vmUuid = vm.vmUuid ∧ old.hostId = vm.hostId ∧
      old.clusterId = vm.clusterId := by
    have hidle : t = w₁ → ∃ old ∈ w₁.db.vms, old.vmUuid = vm.vmUuid ∧ old.hostId = vm.hostId ∧
        old.clusterId = vm.clusterId := fun h => ⟨vm, h ▸ hvm, rfl, rfl, rfl⟩
    rcases hu : nonEmpty resp.vmId with _ | u
    · rw [hu] at hrest
      exact hidle (Prod.mk.inj hrest).2.symm
    rcases hs : nonEmpty resp.vmState with _ | state
    · rw [hu, hs] at hrest
      exact hidle (Prod.mk.inj hrest).2.symm
    rw [hu, hs] at hrest
    cases applied with
    | true => exact hidle (Prod.mk.inj hrest).2.symm
    | false =>
      obtain ⟨⟨⟩, w₂, hflush, hread⟩ := Prog.bind_eq_ok.mp hrest
      obtain ⟨-, rfl⟩ := flush_eq_ok.mp hflush
      rw [Prog.read_bind_run] at hread
      obtain ⟨row, w₃, hfound, hwrite⟩ := Prog.bind_eq_ok.mp hread
      obtain ⟨hrow, rfl⟩ := Prog.ofExcept_eq_ok.mp hfound
      cases row with
      | none => exact hidle (Prod.mk.inj hwrite).2.symm
      | some found =>
        obtain ⟨hmem, -, -⟩ := vmByGuid_eq_some hrow
        dsimp only at hwrite
        rw [modifyDb, Prog.modify_bind_run] at hwrite
        obtain ⟨text, -, rfl⟩ := setVmState_eq_ok.mp hwrite
        rcases Table.mem_store.mp hvm with ⟨hold, -⟩ | ⟨rfl, -⟩
        · exact ⟨vm, hold, rfl, rfl, rfl⟩
        · exact ⟨found, hmem, rfl, rfl, rfl⟩
  obtain ⟨old, hold, hguid, hhostId, hclusterId⟩ := hsame
  rw [← hclusterId]
  refine hcluster old hold (hhostId.trans hown) ?_
  obtain ⟨hitem, u, hu, hne, hvmu⟩ := habout
  exact ⟨hitem, u, hu, hne, hguid.trans hvmu⟩

/-- A success in its savepoint, a second time. -/
theorem redone_applySuccess (hc : w.db.Consistent) (hnow : Column.timestamp w.now = true)
    (hc' : w'.db.Consistent) (hlater : Column.timestamp w'.now = true)
    (hdb : w'.db = { (savepoint (applySuccess env hostId resp) w).2.db with
      tasks := w'.db.tasks }) :
    Redone (savepoint (applySuccess env hostId resp) w).2 w'
      (savepoint (applySuccess env hostId resp) w').2 := by
  rcases hsaved : savepoint (applySuccess env hostId resp) w with ⟨e | ⟨⟩, t⟩
  · rw [hsaved] at hdb
    obtain ⟨hrolled, rfl⟩ := rolled_of_savepoint hsaved
    refine redone_rolled staysInStep_applySuccess hc hnow hc' hlater hc.keyed.vmIds hrolled rfl rfl
      hdb rfl (fun _ => .nothing) ?_
    exact { now := rfl, later := rfl
            first := by rw [writeAll_nothing]; rfl
            second := by rw [writeAll_nothing]; exact hdb
            cluster := fun _ _ h => by cases h
            states := fun _ => Or.inl (Or.inr rfl) }
  · rw [hsaved] at hdb
    obtain ⟨hrun, hct⟩ := savepoint_eq_ok.mp hsaved
    refine redone_released staysInStep_applySuccess toCluster_applySuccess hc hnow hc' hlater
      hc.keyed.vmIds rfl rfl hrun hct hdb rfl (fun _ => .nothing) fun _ ht => ?_
    exact { now := rfl, later := rfl
            first := by rw [writeAll_nothing]; rfl
            second := by
              rw [writeAll_nothing, hdb, ht]
              rfl
            cluster := fun _ _ h => by cases h
            states := fun _ => Or.inl (Or.inr rfl) }

/-- The state a placeholder takes. -/
def stampState (resp : AgentResponse) : String := (nonEmpty resp.vmState).getD "Off"

/-- The placeholder has its GUID and its overlay. -/
def stampedWorld (env : Env) (resp : AgentResponse) (placeholder : Vm) (w : World) : World :=
  { w with
    db := w.db.storeVm (stampedRow resp placeholder)
    cache := { w.cache with
      vmStates := Expiring.put w.cache.vmStates placeholder.id (stampState resp)
        (w.now + seconds env.vmStateTtlSeconds) } }

/-- What follows the stamp. -/
def afterStamp (env : Env) (hostId : String) (resp : AgentResponse) : M Unit := do
  flush
  let _ ← applyResponseVmStatus env hostId resp

/-- A placeholder that is stamped. -/
lemma stampPlaceholder_stamped (placeholder : Vm) : stampPlaceholder env hostId resp placeholder w =
    afterStamp env hostId resp (stampedWorld env resp placeholder w) := rfl

/-- What follows the stamp keeps the runs in step. -/
lemma staysInStep_afterStamp : StaysInStep env hostId resp (afterStamp env hostId resp) :=
  fun _ _ _ _ _ hR h hcluster habout => beside_stamped hR h hcluster habout

/-- It places the rows it writes in the host's cluster. -/
lemma toCluster_afterStamp : ToCluster env hostId resp (afterStamp env hostId resp) := by
  intro w t hrun host hhost
  obtain ⟨⟨⟩, w₁, hflush, hrest⟩ := Prog.bind_eq_ok.mp hrun
  obtain ⟨-, rfl⟩ := flush_eq_ok.mp hflush
  obtain ⟨applied, w₂, happlied, hlast⟩ := Prog.bind_eq_ok.mp hrest
  obtain ⟨-, rfl⟩ := Prod.mk.inj hlast
  exact cluster_of_applyResponseVmStatus happlied hhost

section Stamped

variable {placeholder placeholder' : Vm} {t : World}

/-- The overlay of the stamped row. -/
lemma shown_stampedWorld (w : World) {id : String} (hid : placeholder.id = id) :
    Expiring.get (stampedWorld env resp placeholder w).cache.vmStates id =
      some (stampState resp) := by
  simp [stampedWorld, Expiring.get_put, hid]

/-- The overlays of the other rows. -/
lemma others_stampedWorld (w : World) {id : String} (hid : id ≠ placeholder.id) :
    Expiring.get (stampedWorld env resp placeholder w).cache.vmStates id =
      Expiring.get w.cache.vmStates id := by
  simp [stampedWorld, Expiring.get_put, hid]

/-- Stamping adds no key. -/
lemma nodup_stampedWorld (hc : w.db.Consistent) :
    ((stampedWorld env resp placeholder w).db.vms.map Vm.id).Nodup := by
  simp only [stampedWorld, Db.storeVm, Table.map_key_store]
  exact hc.keyed.vmIds

/-- The stamped row is in the table. -/
lemma mem_stampedWorld (hmem : placeholder ∈ w.db.vms) :
    stampedRow resp placeholder ∈ (stampedWorld env resp placeholder w).db.vms :=
  Table.mem_store.mpr (Or.inr ⟨rfl, placeholder, hmem, rfl⟩)

/-- After a first delivery that was rolled back, both stamps are of the same row. -/
lemma inStep_stamp_rolled (hmem : placeholder ∈ w.db.vms)
    (hdb : w'.db = { w.db with tasks := w'.db.tasks }) :
    InStep env (rerun hostId w w' t (stampedWorld env resp placeholder w).db.vms
      (stampedWorld env resp placeholder w).db.vms) True (fun _ => .nothing)
      (stampedWorld env resp placeholder w) (stampedWorld env resp placeholder w') := by
  have hstampedMem := @mem_stampedWorld env resp w placeholder hmem
  refine { now := rfl, later := rfl, first := ?_, second := ?_, cluster := fun _ _ h => by cases h
           states := fun id => ?_ }
  · rw [writeAll_nothing]
    rfl
  · rw [writeAll_nothing]
    simp only [stampedWorld, Db.storeVm]
    rw [hdb]
    rfl
  · by_cases hid : id = placeholder.id
    · subst hid
      refine Or.inr ⟨_, hstampedMem, _, hstampedMem, rfl, rfl, ?_, ?_⟩
      · rw [RowWrite.apply_nothing]
        exact shown_stampedWorld w rfl
      · rw [RowWrite.apply_nothing]
        exact shown_stampedWorld w' rfl
    · exact Or.inl (Or.inr (others_stampedWorld w' hid))

/-- A row that was stamped has its GUID: the second stamp writes its state only. -/
lemma stampedRow_again (hids : ((stampedWorld env resp placeholder w).db.vms.map Vm.id).Nodup)
    (hstampedMem : stampedRow resp placeholder ∈ (stampedWorld env resp placeholder w).db.vms)
    (haddress : placeholder'.address ∈
      (stampedWorld env resp placeholder w).db.vms.map Vm.address)
    (hid : placeholder'.id = placeholder.id) (clusterId : Option String) (now : Time) :
    stampedRow resp placeholder' =
      (RowWrite.nothing.restate (.str (stampState resp))).apply clusterId now placeholder' := by
  have hguid : (nonEmpty resp.vmId).or placeholder'.vmUuid = placeholder'.vmUuid := by
    obtain ⟨old, hold, hold'⟩ := List.mem_map.mp haddress
    obtain ⟨hoid, hoguid, -⟩ := address_eq_iff.mp hold'
    obtain rfl := Table.eq_of_mem_of_key hids hold hstampedMem (hoid.trans hid)
    rw [← hoguid]
    simp only [stampedRow]
    cases nonEmpty resp.vmId <;> rfl
  rw [RowWrite.apply_restate, RowWrite.apply_nothing, stampedRow, hguid]
  rfl

/-- After a first delivery that was released, the second stamp writes the state of the row.

**Proof sketch.** The stamp is the write of a state on one row and of nothing on the others. In the
first delivery it leaves the rows it has already stamped; in the second it stores the same columns
again, and the overlays agree row by row. -/
lemma inStep_stamp_released (hc : w.db.Consistent) (hct : t.db.Consistent)
    (hmem : placeholder ∈ w.db.vms) (hmemt : placeholder' ∈ t.db.vms)
    (hid' : placeholder'.id = placeholder.id) (hdb : w'.db = { t.db with tasks := w'.db.tasks })
    (haddresses : t.db.vms.map Vm.address =
      (stampedWorld env resp placeholder w).db.vms.map Vm.address)
    (ht : t.db = { w.db with vms := t.db.vms }) :
    InStep env (rerun hostId w w' t (stampedWorld env resp placeholder w).db.vms t.db.vms) False
      (Function.update (fun _ => .nothing) placeholder.id
        (RowWrite.nothing.restate (.str (stampState resp))))
      (stampedWorld env resp placeholder w) (stampedWorld env resp placeholder' w') := by
  have hids := @nodup_stampedWorld env resp w placeholder hc
  have hstampedMem := @mem_stampedWorld env resp w placeholder hmem
  have hstamped := stampedRow_again hids hstampedMem
    (haddresses ▸ List.mem_map_of_mem hmemt) hid' (w.db.clusterOf hostId) w'.now
  refine { now := rfl, later := rfl, first := ?_, second := ?_, cluster := fun vm _ h => ?_
           states := fun id => ?_ }
  · have hself := store_writeAll (w.db.clusterOf hostId) w.now (fun _ => .nothing) hids
      hstampedMem (RowWrite.nothing.restate (.str (stampState resp)))
    rw [writeAll_nothing, RowWrite.apply_restate, RowWrite.apply_nothing] at hself
    have hkept : Table.store Vm.id (stampedRow resp placeholder)
        (stampedWorld env resp placeholder w).db.vms =
        (stampedWorld env resp placeholder w).db.vms :=
      Table.store_eq_self_of_mem hids hstampedMem
    exact congrArg (fun vms => { w.db with vms := vms }) (hkept.symm.trans hself)
  · have hstored : Table.store Vm.id (stampedRow resp placeholder') t.db.vms =
        writeAll (w.db.clusterOf hostId) w'.now (Function.update (fun _ => .nothing)
          placeholder.id (RowWrite.nothing.restate (.str (stampState resp)))) t.db.vms := by
      have h := store_writeAll (w.db.clusterOf hostId) w'.now (fun _ => .nothing)
        hct.keyed.vmIds hmemt (RowWrite.nothing.restate (.str (stampState resp)))
      rw [writeAll_nothing, ← hstamped, hid'] at h
      exact h
    have hvms : w'.db.vms = t.db.vms := by rw [hdb]
    have hrest : { w.db with tasks := w'.db.tasks, vms := t.db.vms } = w'.db := by
      rw [hdb, ht]
    simp only [stampedWorld, Db.storeVm]
    rw [hvms, hstored, ← hrest]
    rfl
  · by_cases hid : vm.id = placeholder.id
    · rw [hid, Function.update_self] at h
      cases h
    · rw [Function.update_of_ne hid] at h
      cases h
  · by_cases hid : id = placeholder.id
    · subst hid
      refine Or.inr ⟨_, hstampedMem, placeholder', hmemt, rfl, hid', ?_, ?_⟩
      · rw [Function.update_self, RowWrite.apply_restate]
        exact shown_stampedWorld w rfl
      · rw [Function.update_self, RowWrite.apply_restate]
        exact shown_stampedWorld w' hid'
    · exact Or.inl (Or.inr (others_stampedWorld w' (hid'.symm ▸ hid)))

/-- A create or clone that succeeded in its savepoint, a second time. -/
theorem redone_stampPlaceholder {vmId : String}
    (hc : w.db.Consistent) (hnow : Column.timestamp w.now = true) (hc' : w'.db.Consistent)
    (hlater : Column.timestamp w'.now = true) (hvm : w.db.vm vmId = some placeholder)
    (hvm' : w'.db.vm vmId = some placeholder')
    (hdb : w'.db = { (savepoint (stampPlaceholder env hostId resp placeholder) w).2.db with
      tasks := w'.db.tasks }) :
    Redone (savepoint (stampPlaceholder env hostId resp placeholder) w).2 w'
      (savepoint (stampPlaceholder env hostId resp placeholder') w').2 := by
  obtain ⟨hmem, rfl⟩ := hc.vm_eq_some.mp hvm
  obtain ⟨hmem', hid'⟩ := hc'.vm_eq_some.mp hvm'
  rcases hsaved : savepoint (stampPlaceholder env hostId resp placeholder) w with ⟨e | ⟨⟩, t⟩
  · rw [hsaved] at hdb
    obtain ⟨hrolled, rfl⟩ := rolled_of_savepoint hsaved
    obtain rfl : placeholder' = placeholder := by
      have hmemw : placeholder' ∈ w.db.vms := by
        rw [hdb] at hmem'
        exact hmem'
      exact Table.eq_of_mem_of_key hc.keyed.vmIds hmemw hmem hid'
    exact redone_rolled staysInStep_afterStamp hc hnow hc' hlater (nodup_stampedWorld hc) hrolled
      rfl rfl hdb (stampPlaceholder_stamped placeholder') (fun _ => .nothing)
      (inStep_stamp_rolled hmem hdb)
  · rw [hsaved] at hdb
    obtain ⟨hrun, hct⟩ := savepoint_eq_ok.mp hsaved
    have hmemt : placeholder' ∈ t.db.vms := by
      rw [hdb] at hmem'
      exact hmem'
    exact redone_released staysInStep_afterStamp toCluster_afterStamp hc hnow hc' hlater
      (nodup_stampedWorld hc) rfl rfl hrun hct hdb (stampPlaceholder_stamped placeholder') _
      fun haddresses ht => inStep_stamp_released hc hct hmem hmemt hid' hdb haddresses ht

end Stamped

end Twice

end OpenVCenter
