import OpenVCenter.LateAnswer
import OpenVCenter.OverlayRequests

set_option relaxedAutoImplicit false
set_option autoImplicit false

/-!
# Responses that keep the overlays in order

The VM part of a response runs in a savepoint of its own. It strands no overlay when all it writes
can be written, or when it says of every VM what its row says.

## Main definitions

* `OpenVCenter.writtenObject` — the row an object of a response writes.
* `OpenVCenter.TakesObjects` — the objects can be written, one after another.
* `OpenVCenter.QuietObjects` — no object reports another state than that of its row.
* `OpenVCenter.VmPartKeeps` — what the VM part of a response needs to keep the overlays.
* `OpenVCenter.ResponseKeeps` — the same, seen from the state the response is received in.

## Main results

* `OpenVCenter.settles_applyResponseState` — such a VM part settles.
* `OpenVCenter.not_refreshStrands` — such a response strands no overlay.
-/

namespace OpenVCenter

open Effect

variable {env : Env} {w w₀ t : World} {hostId : String} {host : Host} {resp : AgentResponse}
  {raws : List Dict}

/-! ## Objects -/

/-- The row an object writes: that of its GUID, on the host of the response. -/
def writtenObject (env : Env) (now : Time) (host : Host) (db : Db) (raw : Dict) :
    Except Raised (Option Vm) := do
  let item ← normalizeVm env raw
  if (item.get "vmUuid").truthy then
    match item.get "vmUuid" with
    | .str u => do
      match ← vmByGuid db host.id u with
      | none => pure none
      | some vm => do
        let vm ← writeVmRow env now true raw item host.id host.clusterId vm
        pure (some vm)
    | _ => .error .dataError
  else pure none

/-- The objects can be written, one after another: each is read and fits the row of its GUID, if
there is one. -/
def TakesObjects (env : Env) (now : Time) (host : Host) : Db → List Dict → Prop
  | _, [] => True
  | db, raw :: raws =>
    match writtenObject env now host db raw with
    | .error _ => False
    | .ok none => TakesObjects env now host db raws
    | .ok (some vm) =>
      (db.storeVm vm).Consistent ∧ TakesObjects env now host (db.storeVm vm) raws

/-- Whether the tables take the objects can be decided. -/
instance decidableTakesObjects (env : Env) (now : Time) (host : Host) (db : Db)
    (raws : List Dict) : Decidable (TakesObjects env now host db raws) :=
  match raws with
  | [] => isTrue trivial
  | raw :: raws => by
    unfold TakesObjects
    exact match writtenObject env now host db raw with
    | .error _ => isFalse id
    | .ok none => decidableTakesObjects env now host db raws
    | .ok (some vm) =>
      have := decidableTakesObjects env now host (db.storeVm vm) raws
      instDecidableAnd

/-- No object reports another state than that of the row of its GUID. -/
def QuietObjects (env : Env) (hostId : String) (db : Db) (raws : List Dict) : Prop :=
  ∀ raw ∈ raws, ∀ vm ∈ db.vms, vm.hostId = hostId → ∀ item said, IsAbout env raw item vm →
    saidOf env raw item = .ok said → said.state.getD vm.state = vm.state

/-- An object of the response is about a VM of the host. -/
def ReportsVm (env : Env) (hostId : String) (db : Db) (raws : List Dict) : Prop :=
  ∃ raw ∈ raws, ∃ item, ∃ vm ∈ db.vms, vm.hostId = hostId ∧ IsAbout env raw item vm

/-- One object, over tables that can be flushed. -/
lemma refreshItem_run (hc : w.db.Consistent) (updated : Bool) (raw : Dict) :
    refreshItem env host updated raw w = match writtenObject env w.now host w.db raw with
      | .error e => (.error e, w)
      | .ok none => (.ok updated, w)
      | .ok (some vm) => (setVmState env vm.id vm.state >>= fun _ => pure true)
          { w with db := w.db.storeVm vm } := by
  unfold refreshItem writtenObject
  rcases normalizeVm env raw with e | item
  · rfl
  rw [Prog.ofExcept_ok, Prog.pure_bind_run, except_ok_bind]
  by_cases htruthy : (item.get "vmUuid").truthy = true
  · rw [if_pos htruthy, if_pos htruthy]
    rcases item.get "vmUuid" with _ | _ | _ | _ | u | _ | _
    case str =>
      dsimp only
      rw [Prog.bind_run_ok (flush_of_consistent hc), Prog.read_bind_run]
      rcases vmByGuid w.db host.id u with e | _ | vm
      · rfl
      · rfl
      · rw [Prog.ofExcept_ok, Prog.pure_bind_run, except_ok_bind]
        dsimp only
        rcases writeVmRow env w.now true raw item host.id host.clusterId vm with e | vm'
        · rfl
        · rfl
    all_goals rfl
  · rw [if_neg htruthy, if_neg htruthy]
    rfl

/-- The row that is written is one of the host, with the state the object says. -/
lemma writtenObject_eq_some {now : Time} {db : Db} {raw : Dict} {vm' : Vm}
    (h : writtenObject env now host db raw = .ok (some vm')) :
    ∃ vm ∈ db.vms, vm.hostId = host.id ∧ vm'.address = vm.address ∧ ∃ item said,
      IsAbout env raw item vm ∧ saidOf env raw item = .ok said ∧
        vm'.state = said.state.getD vm.state := by
  unfold writtenObject at h
  obtain ⟨item, hitem, h⟩ := except_bind_eq_ok.mp h
  by_cases htruthy : (item.get "vmUuid").truthy = true
  · rw [if_pos htruthy] at h
    rcases hguid : item.get "vmUuid" with _ | _ | _ | _ | u | _ | _
    case str =>
      rw [hguid] at h htruthy
      obtain ⟨row, hrow, h⟩ := except_bind_eq_ok.mp h
      cases row with
      | none => cases h
      | some vm =>
        obtain ⟨hmem, hvmu, hown⟩ := vmByGuid_eq_some hrow
        obtain ⟨vm'', hwrite, hend⟩ := except_bind_eq_ok.mp h
        cases hend
        obtain ⟨haddress, said, hsaid, hstate⟩ := address_of_subset hown hwrite
        refine ⟨vm, hmem, hown, haddress, item, said, ⟨hitem, u, hguid, ?_, hvmu⟩, hsaid, hstate⟩
        rintro rfl
        cases htruthy
    all_goals
      rw [hguid] at h
      cases h
  · rw [if_neg htruthy] at h
    cases h

/-- Over a state whose row is stored and fits, its overlay is put. -/
lemma setVmState_stored {vm old : Vm} (hold : old ∈ w.db.vms) (hid : vm.id = old.id)
    (hc : (w.db.storeVm vm).Consistent) (vmId : String) :
    ∃ state, vm.state = .str state ∧ setVmState env vmId vm.state { w with db := w.db.storeVm vm } =
      (.ok (), { w with
        db := w.db.storeVm vm
        cache := { w.cache with
          vmStates := Expiring.put w.cache.vmStates vmId state
            (w.now + seconds env.vmStateTtlSeconds) } }) := by
  obtain ⟨state, hstate⟩ := state_eq_str hc (Table.mem_store.mpr (Or.inr ⟨rfl, old, hold, hid.symm⟩))
  exact ⟨state, hstate, setVmState_eq_ok.mpr ⟨state, by rw [hstate]; rfl, rfl⟩⟩

/-- Objects that can be written are written. -/
lemma takes_foldlM (hc : w.db.Consistent) (h : TakesObjects env w.now host w.db raws)
    (updated : Bool) :
    ∃ b t, raws.foldlM (refreshItem env host) updated w = (.ok b, t) ∧ t.db.Consistent := by
  induction raws generalizing w updated with
  | nil => exact ⟨updated, w, rfl, hc⟩
  | cons raw raws ih =>
    have hrun := @refreshItem_run env w host hc updated raw
    rw [List.foldlM_cons]
    unfold TakesObjects at h
    rcases hwritten : writtenObject env w.now host w.db raw with e | _ | vm
    · rw [hwritten] at h
      exact h.elim
    · rw [hwritten] at h hrun
      rw [Prog.bind_run_ok hrun]
      exact ih hc h updated
    · rw [hwritten] at h hrun
      obtain ⟨hct, hrest⟩ := h
      obtain ⟨old, hold, -, haddress, -⟩ := writtenObject_eq_some hwritten
      obtain ⟨state, -, hput⟩ :=
        @setVmState_stored env _ _ _ hold (congrArg Prod.fst haddress) hct vm.id
      have hitem := hrun.trans (Prog.bind_run_ok hput)
      rw [Prog.bind_run_ok hitem]
      exact ih hct hrest true

/-! ## Quiet objects -/

/-- No row has moved or changed its state since `w₀`, and the overlays of its rows are truthful. -/
structure Steady (w₀ w : World) : Prop where
  rows : w.db.vms.map (fun v => (v.address, v.state)) =
    w₀.db.vms.map (fun v => (v.address, v.state))
  truthful : Truthful w₀ w.cache.vmStates

/-- Nothing changes between a state and itself. -/
lemma Steady.refl (w : World) : Steady w w := ⟨rfl, Truthful.refl w⟩

/-- The keys stay. -/
lemma Steady.ids (h : Steady w₀ w) : w.db.vms.map Vm.id = w₀.db.vms.map Vm.id := by
  have hids := congrArg (List.map fun e => e.1.1) h.rows
  simp only [List.map_map] at hids
  exact hids

/-- A row stands where one has stood, in the same state. -/
lemma Steady.old (h : Steady w₀ w) {vm : Vm} (hvm : vm ∈ w.db.vms) :
    ∃ old ∈ w₀.db.vms, old.address = vm.address ∧ old.state = vm.state := by
  have hin := List.mem_map_of_mem (f := fun v : Vm => (v.address, v.state)) hvm
  rw [h.rows] at hin
  obtain ⟨old, hold, heq⟩ := List.mem_map.mp hin
  exact ⟨old, hold, congrArg Prod.fst heq, congrArg Prod.snd heq⟩

/-- A row is written where it stands, in its state, and the overlay with it. -/
lemma Steady.write (h : Steady w₀ w) (hc : w₀.db.Consistent) {vm vm' : Vm} (hvm : vm ∈ w.db.vms)
    (haddress : vm'.address = vm.address) (hstate : vm'.state = vm.state) :
    Steady w₀ (setVmState env vm'.id vm'.state { w with db := w.db.storeVm vm' }).2 := by
  have hn : (w.db.vms.map Vm.id).Nodup := by
    rw [h.ids]
    exact hc.keyed.vmIds
  have hstored : Steady w₀ { w with db := w.db.storeVm vm' } := by
    refine ⟨?_, h.truthful⟩
    rw [← h.rows]
    refine Table.map_store fun x hx hxid => ?_
    have hid : x.id = vm.id := hxid.trans (congrArg Prod.fst haddress)
    rw [haddress, hstate, Table.eq_of_mem_of_key hn hx hvm hid]
  unfold setVmState
  rcases htext : encodeValue env vm'.state with _ | text
  · exact hstored
  · refine ⟨hstored.rows, h.truthful.put fun v hv hid => ?_⟩
    obtain ⟨old, hold, hoaddress, hostate⟩ := h.old hvm
    have hsame : v = old := Table.eq_of_mem_of_key hc.keyed.vmIds hv hold
      (hid.trans (congrArg Prod.fst (haddress.trans hoaddress.symm)))
    obtain ⟨state, hstr⟩ := state_eq_str hc hold
    rw [hstate, ← hostate, hstr] at htext
    cases htext
    rw [hsame, hstr]

/-- The frame of what says nothing new of the rows. -/
def steadyFrame (w₀ : World) : Frame World := Frame.invariant (Steady w₀)

/-- One quiet object. -/
lemma keeps_steady_refreshItem (hc : w₀.db.Consistent) {raw : Dict}
    (hquiet : QuietObjects env host.id w₀.db [raw]) (updated : Bool) :
    Keeps (steadyFrame w₀) (refreshItem env host updated raw) := by
  intro w
  refine rel_ofExcept_bind fun item hitem => (?_ : Keeps (steadyFrame w₀) _) w
  split
  · rename_i htruthy
    split
    · rename_i u hu
      refine keeps_bind keeps_flush fun _ => keeps_read_bind fun w hw => ?_
      refine rel_ofExcept_bind (F := steadyFrame w₀) (fun row hrow => ?_) hw
      cases row with
      | none => exact keeps_pure _ _
      | some vm =>
        obtain ⟨hmem, hguid, hhost⟩ := vmByGuid_eq_some hrow
        refine rel_ofExcept_bind fun vm' hwrite => ?_
        obtain ⟨haddress, said, hsaid, hstate⟩ := address_of_subset hhost hwrite
        rw [← bind_assoc]
        refine rel_bind (fun hw => ?_) fun _ t _ _ => keeps_pure true t
        obtain ⟨old, hold, hoaddress, hostate⟩ := hw.old hmem
        obtain ⟨-, hoguid, hohost⟩ := address_eq_iff.mp hoaddress
        refine hw.write hc hmem haddress ?_
        rw [hstate, ← hostate]
        refine hquiet raw List.mem_cons_self old hold (hohost.trans hhost) item said
          ⟨hitem, u, hu, ?_, hoguid.trans hguid⟩ hsaid
        rintro rfl
        rw [hu] at htruthy
        cases htruthy
    · exact keeps_raise _
  · exact keeps_pure _

/-- Objects that say the state of their rows keep the rows steady. -/
lemma keeps_steady_foldlM (hc : w₀.db.Consistent) (hquiet : QuietObjects env host.id w₀.db raws)
    (updated : Bool) : Keeps (steadyFrame w₀) (raws.foldlM (refreshItem env host) updated) := by
  refine keeps_foldlM (fun updated raw hraw => ?_) updated
  refine keeps_steady_refreshItem hc (fun raw' hraw' => ?_) updated
  rw [List.mem_singleton.mp hraw']
  exact hquiet raw hraw

/-- Quiet objects leave the overlays truthful. -/
lemma quiet_vmStatus (hc : w.db.Consistent)
    (hquiet : QuietObjects env hostId w.db (responseVmItems resp)) :
    Truthful w (applyResponseVmStatus env hostId resp w).2.cache.vmStates := by
  have hkeeps : Keeps (steadyFrame w) (applyResponseVmStatus env hostId resp) := by
    unfold applyResponseVmStatus
    split
    · exact keeps_pure _
    · refine keeps_bind keeps_read fun s => ?_
      split
      · exact keeps_pure _
      · rename_i host hhost
        obtain rfl : host.id = hostId := host_id_eq hhost
        exact keeps_steady_foldlM hc hquiet _
  exact (hkeeps w (Steady.refl w)).truthful

/-! ## The objects of a response -/

/-- The objects of a response can be written. -/
def ResponseTakes (env : Env) (now : Time) (hostId : String) (resp : AgentResponse) (db : Db) :
    Prop := ∀ host ∈ db.host hostId, TakesObjects env now host db (responseVmItems resp)

/-- The objects of a response that are taken go through. -/
lemma takes_vmStatus (hc : w.db.Consistent) (h : ResponseTakes env w.now hostId resp w.db) :
    ∃ b t, applyResponseVmStatus env hostId resp w = (.ok b, t) ∧ t.db.Consistent := by
  unfold applyResponseVmStatus
  split
  · exact ⟨false, w, rfl, hc⟩
  · rw [Prog.read_bind_run]
    rcases hhost : w.db.host hostId with _ | host
    · exact ⟨false, w, rfl, hc⟩
    · exact takes_foldlM hc (h host hhost) false

/-- A response that has applied no object has written nothing, and is about no VM of the host.

**Proof sketch.** No objects and no host are the idle cases. Over the objects, the loop invariant
says that while none has been applied nothing is written and none of those behind is about a VM of
the host. -/
lemma unapplied_vmStatus (hc : w.db.Consistent)
    (h : applyResponseVmStatus env hostId resp w = (.ok false, t)) :
    t = w ∧ ¬ ReportsVm env hostId w.db (responseVmItems resp) := by
  unfold applyResponseVmStatus at h
  by_cases hempty : (responseVmItems resp).isEmpty = true
  · rw [if_pos hempty] at h
    cases h
    refine ⟨rfl, fun ⟨raw, hraw, _⟩ => ?_⟩
    rw [List.isEmpty_iff.mp hempty] at hraw
    cases hraw
  rw [if_neg hempty, Prog.read_bind_run] at h
  rcases hhost : w.db.host hostId with _ | host
  · rw [hhost] at h
    cases h
    refine ⟨rfl, fun ⟨_, _, _, vm, hvm, hown, _⟩ => ?_⟩
    obtain ⟨host, hmem, hid⟩ := List.mem_map.mp (hc.keyed.vmHost vm hvm)
    exact Table.lookup_eq_none.mp hhost host hmem (hid.trans hown)
  · rw [hhost] at h
    obtain rfl : host.id = hostId := host_id_eq hhost
    have hscan := foldlM_ok_scan (I := fun done applied s => applied = false →
      s = w ∧ ¬ ReportsVm env host.id w.db done) h (fun _ => ⟨rfl, fun ⟨_, hraw, _⟩ => nomatch hraw⟩)
      ?_
    · exact hscan rfl
    rintro done raw rest - applied s applied' s' hdone hrun rfl
    obtain ⟨rfl, hnone⟩ := refreshItem_unapplied hrun
    obtain ⟨rfl, hbefore⟩ := hdone rfl
    constructor
    · rw [refreshItem_run hc] at hrun
      rcases hwritten : writtenObject env s.now host s.db raw with e | _ | vm
      · rw [hwritten] at hrun
        cases hrun
      · rw [hwritten] at hrun
        exact (congrArg Prod.snd hrun).symm
      · rw [hwritten] at hrun
        obtain ⟨⟨⟩, u, -, hend⟩ := Prog.bind_eq_ok.mp hrun
        cases hend
    · rintro ⟨raw', hraw', item, vm, hvm, hown, habout⟩
      rcases List.mem_append.mp hraw' with hraw' | hraw'
      · exact hbefore ⟨raw', hraw', item, vm, hvm, hown, habout⟩
      · obtain rfl := List.mem_singleton.mp hraw'
        exact hnone item vm hvm hown habout

/-! ## The VM part -/

/-- The objects of a response can be written, or they say what the rows say. -/
def ObjectsKeep (env : Env) (now : Time) (hostId : String) (resp : AgentResponse) (db : Db) :
    Prop :=
  ResponseTakes env now hostId resp db ∨ QuietObjects env hostId db (responseVmItems resp)

/-- The bare state of a response fits its column, or it is that of the row; where an object is about
a VM of the host it is not looked at. -/
def HintKeeps (env : Env) (hostId : String) (resp : AgentResponse) (db : Db) : Prop :=
  ∀ u state, nonEmpty resp.vmId = some u → nonEmpty resp.vmState = some state →
    ∀ vm ∈ db.vms, vm.vmUuid = some u → vm.hostId = hostId →
      Column.fits 16 state = true ∨ vm.state = .str state ∨
        ReportsVm env hostId db (responseVmItems resp)

/-- The placeholder of a create or clone takes the GUID and the state of the response, and the
objects behind it can be written; or it is in that state, and they say what the rows say. -/
def StampKeeps (env : Env) (now : Time) (hostId : String) (resp : AgentResponse) (vm : Vm)
    (db : Db) : Prop :=
  let stamped := db.storeVm (stampedRow resp vm)
  stamped.Consistent ∧ ResponseTakes env now hostId resp stamped ∨
    (stampedRow resp vm).state = vm.state ∧
      QuietObjects env hostId stamped (responseVmItems resp)

/-- **The VM part of a response keeps the overlays.** A delete, and an action that has failed, need
nothing for it. -/
structure VmPartKeeps (env : Env) (now : Time) (hostId : String) (resp : AgentResponse) (task : Task)
    (db : Db) : Prop where
  placeholder : task.status = .succeeded → task.kind.makesPlaceholder = true →
    ∀ vm ∈ db.vm task.targetId, StampKeeps env now hostId resp vm db
  objects : task.status = .succeeded → task.kind.makesPlaceholder = false →
    task.kind ≠ .vm_delete → ObjectsKeep env now hostId resp db
  hint : task.status = .succeeded → task.kind.makesPlaceholder = false →
    task.kind ≠ .vm_delete → HintKeeps env hostId resp db

/-- Overlays that are truthful for a state are so for one with the same states of its rows. -/
lemma Truthful.trans {left : Expiring.Keyspace String Time String}
    (h : Truthful w₀ w.cache.vmStates)
    (hrows : ∀ v ∈ w₀.db.vms, ∃ v' ∈ w.db.vms, v'.id = v.id ∧ v'.state = v.state)
    (h' : Truthful w left) : Truthful w₀ left := by
  intro v hv state hleft
  obtain ⟨v', hv', hid, hstate⟩ := hrows v hv
  rw [← hid] at hleft
  rcases h' v' hv' state hleft with hold | hrow
  · exact h v hv state (hid ▸ hold)
  · exact Or.inr (hstate.symm.trans hrow)

/-- A stamped placeholder, with the objects behind it.

**Proof sketch.** The state is shown, then the row is flushed and the objects are applied. Where the
tables take all of this the stamp completes; otherwise the row had that state before and its objects
are quiet, so what is shown stays truthful. -/
lemma settles_stampPlaceholder {vm : Vm} (hc : w.db.Consistent) (hvm : vm ∈ w.db.vms)
    (hkeeps : StampKeeps env w.now hostId resp vm w.db) :
    Settles w (stampPlaceholder env hostId resp vm) w := by
  set state := (nonEmpty resp.vmState).getD "Off" with hstate
  set stamped : World := { w with
    db := w.db.storeVm (stampedRow resp vm)
    cache := { w.cache with
      vmStates := Expiring.put w.cache.vmStates vm.id state
        (w.now + seconds env.vmStateTtlSeconds) } } with hstamped
  have hput : setVmState env vm.id (.str state)
      { w with db := w.db.storeVm (stampedRow resp vm) } = (.ok (), stamped) :=
    setVmState_eq_ok.mpr ⟨state, rfl, rfl⟩
  have hrun : stampPlaceholder env hostId resp vm w =
      (flush >>= fun _ => applyResponseVmStatus env hostId resp >>= fun _ => pure ()) stamped := by
    rw [stampPlaceholder_run]
    exact Prog.bind_run_ok hput
  rw [settles_congr hrun]
  rcases hkeeps with ⟨hcs, htakes⟩ | ⟨hsame, hquiet⟩
  · obtain ⟨b, t, hobjects, hct⟩ := takes_vmStatus (w := stamped) hcs htakes
    refine Or.inl ⟨(), t, ?_, hct⟩
    rw [Prog.bind_run_ok (flush_of_consistent (w := stamped) hcs), Prog.bind_run_ok hobjects]
    rfl
  · have htruthful : Truthful w stamped.cache.vmStates := by
      refine (Truthful.refl w).put fun v hv hid => ?_
      rw [Table.eq_of_mem_of_key hc.keyed.vmIds hv hvm hid, ← hsame]
      rfl
    refine settles_bind keeps_flush htruthful fun _ t hflush _ => ?_
    obtain ⟨hcs, rfl⟩ := flush_eq_ok.mp hflush
    have hobjects := quiet_vmStatus hcs hquiet
    have hrows : ∀ v ∈ w.db.vms, ∃ v' ∈ stamped.db.vms, v'.id = v.id ∧ v'.state = v.state := by
      intro v hv
      by_cases hid : v.id = vm.id
      · obtain rfl := Table.eq_of_mem_of_key hc.keyed.vmIds hv hvm hid
        exact ⟨stampedRow resp v, Table.mem_store.mpr (Or.inr ⟨rfl, v, hv, rfl⟩), rfl, hsame⟩
      · exact ⟨v, Table.mem_store.mpr (Or.inl ⟨hv, hid⟩), rfl, rfl⟩
    have hleft := htruthful.trans hrows hobjects
    refine Or.inr ?_
    rw [Prog.bind_run]
    rcases hend : applyResponseVmStatus env hostId resp stamped with ⟨e | b, t⟩
    · rw [hend] at hleft
      exact hleft
    · rw [hend] at hleft
      exact hleft

/-- The objects of a success, or its bare state.

**Proof sketch.** By what the objects of the response come to. If they raise, they are not taken, so
they are quiet, and every overlay written by then is that of its row. If some of them apply, nothing
is written behind them. If none does, the bare state is written, and it is that of the row or fits
it. -/
lemma settles_applySuccess (hc : w.db.Consistent)
    (hobjects : ObjectsKeep env w.now hostId resp w.db) (hhint : HintKeeps env hostId resp w.db) :
    Settles w (applySuccess env hostId resp) w := by
  unfold applySuccess
  rcases hrun : applyResponseVmStatus env hostId resp w with ⟨e | applied, t⟩
  · rcases hobjects with htakes | hquiet
    · obtain ⟨b, t', hok, -⟩ := takes_vmStatus hc htakes
      rw [hok] at hrun
      cases hrun
    · have hleft := quiet_vmStatus hc hquiet
      rw [hrun] at hleft
      refine Or.inr ?_
      rw [Prog.bind_run_error hrun]
      exact hleft
  rw [settles_congr (Prog.bind_run_ok hrun)]
  cases applied with
  | true =>
    have hend : ∀ {m : M Unit}, m t = (.ok (), t) → Settles w m t := by
      intro m hm
      rcases hobjects with htakes | hquiet
      · obtain ⟨b, t', hok, hct⟩ := takes_vmStatus hc htakes
        rw [hok] at hrun
        cases hrun
        exact Or.inl ⟨(), t, hm, hct⟩
      · have hleft := quiet_vmStatus hc hquiet
        rw [hrun] at hleft
        refine Or.inr ?_
        rw [hm]
        exact hleft
    refine hend ?_
    rcases nonEmpty resp.vmId with _ | u
    · rfl
    rcases nonEmpty resp.vmState with _ | state
    · rfl
    · rfl
  | false =>
    obtain ⟨rfl, hnone⟩ := unapplied_vmStatus hc hrun
    have hdone : Settles t (pure () : M Unit) t := Or.inl ⟨(), t, rfl, hc⟩
    rcases hguid : nonEmpty resp.vmId with _ | u
    · exact hdone
    rcases hstate : nonEmpty resp.vmState with _ | state
    · exact hdone
    dsimp only
    rw [if_neg Bool.false_ne_true, settles_congr (Prog.bind_run_ok (flush_of_consistent hc)),
      settles_congr (Prog.read_bind_run _ t)]
    refine settles_pass (fun s => ?_) (Truthful.refl t) fun row hrow => ?_
    · rcases vmByGuid t.db hostId u with e | row <;> rfl
    obtain ⟨hrow, -⟩ := Prog.ofExcept_eq_ok.mp hrow
    cases row with
    | none => exact hdone
    | some vm =>
      obtain ⟨hmem, hvmu, hown⟩ := vmByGuid_eq_some hrow
      have hput : setVmState env vm.id (.str state)
          { t with db := t.db.storeVm { vm with state := .str state } } = (.ok (), _) :=
        setVmState_eq_ok.mpr ⟨state, rfl, rfl⟩
      have hend : (modifyDb (fun db => db.storeVm { vm with state := .str state }) >>= fun _ =>
          setVmState env vm.id (.str state)) t = (.ok (), _) := hput
      rcases hhint u state hguid hstate vm hmem hvmu hown with hfits | hsame | hreports
      · refine Or.inl ⟨(), _, hend, ?_⟩
        exact storeVm_reverted_consistent hc (hc.vm_eq_some.mpr ⟨hmem, rfl⟩) hfits
      · have hleft : Truthful t (Expiring.put t.cache.vmStates vm.id state
            (t.now + seconds env.vmStateTtlSeconds)) := by
          refine (Truthful.refl t).put fun v hv hid => ?_
          rw [Table.eq_of_mem_of_key hc.keyed.vmIds hv hmem hid, hsame]
        refine Or.inr ?_
        dsimp only
        rw [hend]
        exact hleft
      · exact absurd hreports hnone

/-- **The VM part of a response settles** when it keeps the overlays. -/
theorem settles_applyResponseState {task : Task} (hc : w.db.Consistent)
    (hstatus : task.status = .succeeded ∨ task.status = .failed)
    (hkeeps : VmPartKeeps env w.now hostId resp task w.db) :
    Settles w (applyResponseState env hostId resp task) w := by
  rcases hstatus with hsucc | hfailed
  · unfold applyResponseState
    by_cases hmake : task.kind.makesPlaceholder = true
    · rw [if_pos hmake, settles_congr (Prog.read_bind_run _ w)]
      rcases hvm : w.db.vm task.targetId with _ | placeholder
      · exact Or.inl ⟨(), w, rfl, hc⟩
      · dsimp only
        rw [if_pos hsucc]
        exact settles_stampPlaceholder hc (Table.mem_of_lookup hvm)
          (hkeeps.placeholder hsucc hmake placeholder hvm)
    rw [if_neg hmake]
    simp only [Bool.not_eq_true] at hmake
    by_cases hdelete : task.kind = .vm_delete
    · obtain ⟨t, hrun, hdb⟩ := applyDelete_db hostId task w
      rw [if_pos ⟨hdelete, hsucc⟩]
      exact Or.inl ⟨(), t, hrun, hdb ▸ hc.deleteVm _⟩
    · rw [if_neg fun h => hdelete h.1, if_pos hsucc]
      exact settles_applySuccess hc (hkeeps.objects hsucc hmake hdelete)
        (hkeeps.hint hsucc hmake hdelete)
  · obtain ⟨t, hrun, hct, -⟩ := applyResponseState_failed env hostId resp hc hfailed
    exact Or.inl ⟨(), t, hrun, hct⟩

/-! ## The state before -/

/-- The frame of what leaves the VM rows, the organization and the time alone. -/
def sceneFrame : Frame World := Frame.under (fun w => (w.db.hosts.map Host.id).Nodup)
  (Frame.same fun w => (w.db.vms, w.db.estate, w.now))

/-- A host that is written with its values stays where it is. -/
lemma scene_storeHost (w : World) (host : Host) (hrestates : w.db.Restates host) :
    sceneFrame.rel w { w with db := w.db.storeHost host } := by
  intro hn
  obtain ⟨hn', hvms, -, hestate, -⟩ := keyed_storeHost w host hrestates hn
  exact ⟨hn', Prod.ext hvms (Prod.ext hestate rfl)⟩

/-- A rollback is in the same scene. -/
lemma scene_rollback (s t : World) (h : sceneFrame.rel s t) : sceneFrame.rel s (rollback s t) := by
  intro hn
  obtain ⟨-, hsame⟩ := h hn
  exact ⟨hn, Prod.ext rfl (Prod.ext rfl (congrArg (fun e => e.2.2) hsame))⟩

/-- The parts of a refresh before that of the VM leave the VM rows and the organization alone. -/
lemma scene_vmStageStart {task : Task} :
    sceneFrame.rel w (vmStageStart env hostId resp task w) := by
  have hstamp : Keeps sceneFrame (stampAgentVersion env hostId resp task) :=
    keeps_stampAgentVersion scene_storeHost _ _ _
  have hhost : Keeps sceneFrame (hostStage env resp task) := by
    unfold hostStage
    split
    · exact keeps_attempt (keeps_savepoint scene_rollback
        (keeps_applyHostActionResponse scene_storeHost _ _))
    · exact keeps_pure _
  have htemplate : Keeps sceneFrame (templateStage env resp task) := by
    unfold templateStage
    split
    · split
      · exact keeps_attempt (keeps_savepoint scene_rollback
          (keeps_upsertTemplate (F := sceneFrame) (fun _ _ _ hn => ⟨hn, rfl⟩)
            (fun _ _ hn => ⟨hn, rfl⟩) _ _))
      · exact keeps_pure _
    · exact keeps_pure _
  exact sceneFrame.trans (hstamp w) (sceneFrame.trans (hhost _) (htemplate _))

section Scene

variable {db db' : Db}

/-- The tables take a row where tables with the same VM rows and the same organization do. -/
lemma consistent_storeVm_congr (hc : db'.Consistent) (hvms : db'.vms = db.vms)
    (hestate : db'.estate = db.estate) {vm : Vm} (h : (db.storeVm vm).Consistent) :
    (db'.storeVm vm).Consistent := by
  have hclusters : db'.clusters = db.clusters := congrArg (fun e => e.1) hestate
  have hfolders : db'.folders = db.folders := congrArg (fun e => e.2.1) hestate
  have hrows : (db'.storeVm vm).vms = (db.storeVm vm).vms := congrArg (Table.store Vm.id vm) hvms
  have hids : (db'.storeVm vm).vms.map Vm.id = db'.vms.map Vm.id := Table.map_key_store
  refine @Db.Consistent.with_vms _ hc (db'.storeVm vm).vms _ _ ?_ ?_ ?_ ?_ ?_ ?_ (List.Sublist.refl _) ?_
    (List.Sublist.refl _) ?_
  · rw [hrows]
    exact h.keyed.vmIds
  · rw [hrows]
    exact h.keyed.guids
  · intro v hv
    rw [hostIds_congr hestate]
    exact h.keyed.vmHost v (hrows ▸ hv)
  · intro v hv
    rw [hclusters]
    exact h.keyed.vmCluster v (hrows ▸ hv)
  · intro v hv
    rw [hfolders]
    exact h.keyed.vmFolder v (hrows ▸ hv)
  · exact fun v hv => h.vm_bindable (hrows ▸ hv)
  · intro x hx
    rw [hids]
    exact hc.keyed.thumbnailVm x hx
  · intro x hx
    rw [hids]
    exact hc.keyed.vmMetricVm x hx

/-- What an object is written to depends on the rows, and on the address of its host. -/
lemma writtenObject_congr {now : Time} {host' : Host} (hvms : db'.vms = db.vms)
    (hid : host'.id = host.id) (hcluster : host'.clusterId = host.clusterId) (raw : Dict) :
    writtenObject env now host' db' raw = writtenObject env now host db raw := by
  unfold writtenObject vmByGuid
  rw [hvms, hid, hcluster]

/-- So does whether the tables take the objects. -/
lemma takesObjects_congr {now : Time} {host' : Host} (hc : db'.Consistent)
    (hvms : db'.vms = db.vms) (hestate : db'.estate = db.estate) (hid : host'.id = host.id)
    (hcluster : host'.clusterId = host.clusterId) (h : TakesObjects env now host db raws) :
    TakesObjects env now host' db' raws := by
  induction raws generalizing db db' with
  | nil => trivial
  | cons raw raws ih =>
    unfold TakesObjects at h ⊢
    rw [writtenObject_congr hvms hid hcluster]
    revert h
    rcases writtenObject env now host db raw with e | _ | vm <;> intro h
    · exact h
    · exact ih hc hvms hestate h
    · have hstored := consistent_storeVm_congr hc hvms hestate h.1
      have hrows : (db'.storeVm vm).vms = (db.storeVm vm).vms :=
        congrArg (Table.store Vm.id vm) hvms
      exact ⟨hstored, ih hstored hrows hestate h.2⟩

/-- And whether they take those of a response. -/
lemma responseTakes_congr {now : Time} (hc : db'.Consistent) (hvms : db'.vms = db.vms)
    (hestate : db'.estate = db.estate) (hhosts : (db.hosts.map Host.id).Nodup)
    (h : ResponseTakes env now hostId resp db) : ResponseTakes env now hostId resp db' := by
  intro host' hhost'
  have hstands : host'.station ∈ db.hosts.map Host.station := by
    rw [← show db'.hosts.map Host.station = db.hosts.map Host.station from
      congrArg (fun e => e.2.2) hestate]
    exact stands_of_host hhost'
  obtain ⟨host, hmem, hstation⟩ := List.mem_map.mp hstands
  have hid : host'.id = host.id := (congrArg Prod.fst hstation).symm
  have hfound : db.host hostId = some host :=
    (Table.lookup_eq_some hhosts).mpr ⟨hmem, hid.symm.trans (host_id_eq hhost')⟩
  exact takesObjects_congr hc hvms hestate hid
    (congrArg (fun e => e.2.1) hstation).symm (h host hfound)

/-- The VM part keeps the overlays in tables with the same VM rows and the same organization. -/
lemma VmPartKeeps.congr {now : Time} {task : Task} (h : VmPartKeeps env now hostId resp task db)
    (hc : db'.Consistent) (hvms : db'.vms = db.vms) (hestate : db'.estate = db.estate)
    (hhosts : (db.hosts.map Host.id).Nodup) : VmPartKeeps env now hostId resp task db' where
  placeholder hsucc hmake vm hvm := by
    have hfound : db.vm task.targetId = some vm := by
      rw [← show db'.vm task.targetId = db.vm task.targetId from
        congrArg (Table.lookup Vm.id task.targetId) hvms]
      exact hvm
    have hrows : (db'.storeVm (stampedRow resp vm)).vms = (db.storeVm (stampedRow resp vm)).vms :=
      congrArg (Table.store Vm.id _) hvms
    rcases h.placeholder hsucc hmake vm hfound with ⟨hcs, htakes⟩ | ⟨hsame, hquiet⟩
    · have hstored := consistent_storeVm_congr hc hvms hestate hcs
      exact Or.inl ⟨hstored, responseTakes_congr hstored hrows hestate hhosts htakes⟩
    · refine Or.inr ⟨hsame, fun raw hraw v hv => hquiet raw hraw v (hrows ▸ hv)⟩
  objects hsucc hmake hdelete := by
    rcases h.objects hsucc hmake hdelete with htakes | hquiet
    · exact Or.inl (responseTakes_congr hc hvms hestate hhosts htakes)
    · exact Or.inr fun raw hraw v hv => hquiet raw hraw v (hvms ▸ hv)
  hint hsucc hmake hdelete u state hguid hstate vm hvm hvmu hown := by
    unfold ReportsVm
    rw [hvms]
    exact h.hint hsucc hmake hdelete u state hguid hstate vm (hvms ▸ hvm) hvmu hown

end Scene

/-- **A response keeps the overlays**: where it ends its task and gets as far as the VM part, that
part keeps them. -/
def ResponseKeeps (env : Env) (w : World) (hostId : String) (resp : AgentResponse) : Prop :=
  ∀ task ∈ w.db.taskOfHost hostId resp.id, isProgress resp task.status = false →
    Lands env w.now resp → StampFits env w.db hostId resp task →
      VmPartKeeps env w.now hostId resp.stripped (endedTask env w.now resp.stripped task) w.db

/-- A response that keeps the overlays strands none. -/
theorem not_refreshStrands (hc : w.db.Consistent) (h : ResponseKeeps env w hostId resp) :
    ¬ RefreshStrands env w hostId resp := by
  rintro ⟨task, htask, hprogress, hlands, hfits, hstrands⟩
  refine not_strands_iff.mpr ?_ hstrands
  have hce : (endedWorld env w resp task).db.Consistent :=
    (lifecycleDb_consistent_iff hc (task_of_taskOfHost htask)).mpr hlands.2
  have hstatus : (endedTask env w.now resp.stripped task).status = terminalStatus resp.stripped := rfl
  have hfits' : StampFits env (endedWorld env w resp task).db hostId resp.stripped
      (endedTask env w.now resp.stripped task) := stampFits_stripped.mpr hfits
  obtain ⟨hcs, -⟩ := applyRefresh_vmStage hce hstatus hfits'
  obtain ⟨-, hsame⟩ := @scene_vmStageStart env (endedWorld env w resp task) hostId resp.stripped
    (endedTask env w.now resp.stripped task) hc.keyed.hostIds
  refine settles_applyResponseState hcs ?_ ?_
  · rw [hstatus]
    unfold terminalStatus
    split_ifs
    · exact Or.inl rfl
    · exact Or.inr rfl
  · have hnow : (vmStageStart env hostId resp.stripped (endedTask env w.now resp.stripped task)
        (endedWorld env w resp task)).now = w.now := congrArg (fun e => e.2.2) hsame
    rw [hnow]
    exact (h task htask hprogress hlands hfits).congr hcs (congrArg (fun e => e.1) hsame)
      (congrArg (fun e => e.2.1) hsame) hc.keyed.hostIds

end OpenVCenter
