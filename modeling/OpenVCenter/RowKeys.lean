import OpenVCenter.Placement

set_option relaxedAutoImplicit false
set_option autoImplicit false

/-!
# Keys are used once

A row of `vms` is added under a new identifier and keeps it. Tasks, audit events, locks and overlays
refer to a VM by that identifier and may outlive its row, so that it must not come to mean another
VM.

## Main definitions

* `OpenVCenter.WithoutRow` — an identifier that has been drawn and that no row has.

## Main results

* `OpenVCenter.withoutRow_step` — no step gives such an identifier to a row.
* `OpenVCenter.never_used_again` — **an identifier that was a row's and is no longer one is never a
  row's again**, whatever operations, requests and messages follow.
-/

namespace OpenVCenter

open Effect

variable {env : Env}

/-- The identifier has been drawn, and no row has it. -/
structure WithoutRow (env : Env) (k : String) (w : World) : Prop where
  drawn : Drawn env w k
  gone : ∀ v ∈ w.db.vms, v.id ≠ k

/-- The organization is `e`, the rows are under drawn identifiers, and none under `k`. -/
def RowsBut (env : Env) (e : List Cluster × List Folder × List (String × Option String × Json))
    (k : String) (w : World) : Prop :=
  RowsOn env e (fun _ => True) w ∧ WithoutRow env k w

section Rule

variable {e : List Cluster × List Folder × List (String × Option String × Json)} {k : String}

/-- Any row may stand anywhere. -/
lemma placing_true : Placing e fun _ => True where
  add _ _ _ := trivial
  follow _ _ _ := trivial

/-- Keeping a row away is a rule of the rows. -/
theorem rowsBut_rule : RowRule env (RowsBut env e k) fun _ => True := by
  have hon : RowRule env (RowsOn env e fun _ => True) fun _ => True := rowsOn_rule placing_true
  exact
    { weaken := fun _ => trivial
      fresh := fun hw => hon.fresh hw.1
      drop := fun hw hrel => ⟨hon.drop hw.1 hrel, hw.2.drawn.mono hrel.2.2.2,
        fun v hv => hw.2.gone v (hrel.1 v hv)⟩
      locks := fun _ _ => trivial
      add := fun {w _ vm} hw hstands hplace => by
        refine ⟨hon.add hw.1 hstands hplace, hw.2.drawn.mono (Nat.le_succ _), fun v hv => ?_⟩
        rcases List.mem_append.mp hv with hv | hv
        · exact hw.2.gone v hv
        · -- the new row has the identifier drawn next
          obtain rfl := List.mem_singleton.mp hv
          have hid : v.id = env.uuid w.nextId := congrArg Prod.fst hplace
          intro heq
          exact not_drawn_next env w (hid ▸ heq ▸ hw.2.drawn)
      raw := fun _ _ => trivial
      write := fun _ _ _ => trivial
      display := fun at_ hw hmem hfollows hshown => by
        refine ⟨hon.display at_ hw.1 hmem hfollows hshown, hw.2.drawn, fun v hv => ?_⟩
        rcases Table.mem_store.mp hv with ⟨hv, -⟩ | ⟨rfl, -⟩
        · exact hw.2.gone v hv
        · rw [hfollows.id_eq]
          exact hw.2.gone _ hmem }

/-- A rollback keeps it away. -/
lemma rowsBut_rollback {s t : World} (hs : RowsBut env e k s) (hle : s.nextId ≤ t.nextId) :
    RowsBut env e k (rollback s t) :=
  ⟨rowsOn_rollback hs.1 hle, hs.2.drawn.mono hle, hs.2.gone⟩

end Rule

/-! ## Steps -/

section Step

variable {s : Committed} {k : String}

/-- The rows of the next state are rows of this one, by their keys. -/
lemma WithoutRow.of_ids {w t : World} (h : WithoutRow env k w) (hle : w.nextId ≤ t.nextId)
    (hids : ∀ v ∈ t.db.vms, ∃ u ∈ w.db.vms, u.id = v.id) : WithoutRow env k t where
  drawn := h.drawn.mono hle
  gone v hv := by
    obtain ⟨u, hu, hid⟩ := hids v hv
    exact hid ▸ h.gone u hu

/-- So does a reorganization. -/
lemma withoutRow_reorganized {w t : World} (h : WithoutRow env k w) (hle : w.nextId ≤ t.nextId)
    (hre : Reorganized w.db t) : WithoutRow env k t := by
  obtain ⟨db', hre, hdb⟩ := hre
  refine h.of_ids hle fun v hv => hre.row_ids v ?_
  rw [show db'.vms = t.db.vms from (congrArg Db.vms hdb).symm]
  exact hv

/-- An event but a heartbeat and the removal of a host. -/
lemma withoutRow_handled (hdrawn : RowsDrawn env s.world) (h : WithoutRow env k s.world)
    {e : Event} (hstatus : ∀ hostId payload, e ≠ .agentStatus hostId payload)
    (hremove : ∀ user hostId, e ≠ .removeHost user hostId) :
    WithoutRow env k (System.step env s e).world := by
  rcases hm : e.handler env with _ | m
  · cases e with
    | tick elapsed => exact ⟨h.drawn, h.gone⟩
    | broker up => exact ⟨h.drawn, h.gone⟩
    | _ => cases hm
  have hrule : RowRule env (RowsBut env s.world.db.estate k) fun _ => True := rowsBut_rule
  have hstart : RowsBut env s.world.db.estate k { s.world with txStart := s.world.now - e.lag } :=
    ⟨⟨rfl, hdrawn, fun _ _ => trivial⟩, h.drawn, h.gone⟩
  have hends : EndsIn (RowsBut env s.world.db.estate k) (fun _ => True) m
      { s.world with txStart := s.world.now - e.lag } := by
    by_cases hplain : e.IsPlain = true
    · exact hrule.handler hm hplain hstart s.consistent
    · cases e with
      | response hostId resp =>
        cases hm
        refine hrule.applyResponse (fun hw => ?_) (fun hs _ hle => rowsBut_rollback hs hle) hstart
        rw [hostIds_congr hw.1.estate]
        exact s.consistent.keyed.hostIds
      | removeHost user hostId => exact absurd rfl (hremove user hostId)
      | agentStatus hostId payload => exact absurd rfl (hstatus hostId payload)
      | _ => exact absurd rfl hplain
  have hnext : s.world.nextId ≤ (System.step env s e).world.nextId := nextId_le_step env s e
  rw [System.step_handler hm] at hnext ⊢
  rcases savepoint_cases m { s.world with txStart := s.world.now - e.lag } with
    ⟨a, t, hrun, -, hsave⟩ | ⟨err, hsave⟩
  · rw [sessionScope, hsave]
    exact ((ends_of_ok hrun).mp hends).2
  · rw [sessionScope, hsave] at hnext ⊢
    exact (rowsBut_rollback hstart hnext).2

/-- No step gives a row an identifier that was drawn before and that no row has. -/
theorem withoutRow_step (hdrawn : RowsDrawn env s.world) (h : WithoutRow env k s.world)
    (e : Organization.Event) : WithoutRow env k (Organization.step env s e).world := by
  have hnext : s.world.nextId ≤ (Organization.step env s e).world.nextId :=
    nextId_le_organization_step s e
  rcases e with op | e
  · exact withoutRow_reorganized h hnext (operation_step s op)
  change WithoutRow env k (System.step env s e).world
  by_cases hstatus : ∃ hostId payload, e = .agentStatus hostId payload
  · obtain ⟨hostId, payload, rfl⟩ := hstatus
    refine h.of_ids hnext fun v hv => ⟨v, ?_, rfl⟩
    rcases @heartbeat_step env s hostId payload with ⟨host, d, -, -, -, hdb⟩ | ⟨hdb, -⟩
    · rw [hdb] at hv
      exact hv
    · rw [hdb] at hv
      exact hv
  by_cases hremove : ∃ user hostId, e = .removeHost user hostId
  · obtain ⟨user, hostId, rfl⟩ := hremove
    exact withoutRow_reorganized h hnext (removeHost_step s user hostId)
  · exact withoutRow_handled hdrawn h (fun hostId payload he => hstatus ⟨hostId, payload, he⟩)
      fun user hostId he => hremove ⟨user, hostId, he⟩

end Step

/-! ## Runs -/

/-- The states of a run, from one whose rows are under drawn identifiers. -/
lemma withoutRow_run {s : Committed} {k : String} (hdrawn : RowsDrawn env s.world)
    (h : WithoutRow env k s.world) (es : List Organization.Event) :
    WithoutRow env k (Organization.run env s es).world := by
  have hrun : RowsDrawn env (Organization.run env s es).world ∧
      WithoutRow env k (Organization.run env s es).world :=
    Machine.run_invariant (I := fun s : Committed => RowsDrawn env s.world ∧ WithoutRow env k s.world)
      (fun s e hI => ⟨rowsDrawn_step hI.1 e, withoutRow_step hI.1 hI.2 e⟩) ⟨hdrawn, h⟩
  exact hrun.2

/-- The identifiers drawn so far, after a run. -/
lemma nextId_le_run (s : Committed) (es : List Organization.Event) :
    s.world.nextId ≤ (Organization.run env s es).world.nextId :=
  Machine.run_invariant (I := fun t : Committed => s.world.nextId ≤ t.world.nextId)
    (fun t e hle => hle.trans (nextId_le_organization_step t e)) le_rfl

/-- **Keys are used once**: an identifier that was a row's and is no longer one is never a row's
again. -/
theorem never_used_again (s : Committed) (hs : Organization.Reachable env s) (vm : Vm)
    (hvm : vm ∈ s.world.db.vms) (es later : List Organization.Event)
    (hgone : ∀ v ∈ (Organization.run env s es).world.db.vms, v.id ≠ vm.id) :
    ∀ v ∈ (Organization.run env s (es ++ later)).world.db.vms, v.id ≠ vm.id := by
  have hdrawn : RowsDrawn env s.world := (drawn_and_placed hs).1
  have hmiddle : RowsDrawn env (Organization.run env s es).world :=
    Machine.run_invariant (I := fun s : Committed => RowsDrawn env s.world)
      (fun _ e hI => rowsDrawn_step hI e) hdrawn
  rw [Organization.run, Machine.run_append]
  exact (withoutRow_run hmiddle ⟨(hdrawn vm hvm).mono (nextId_le_run s es), hgone⟩ later).gone

/-- The VM `"g"` is reported. -/
@[irreducible] def Demo.listedOnce : Committed :=
  Organization.run Demo.settings Demo.start [.system (.vmInventory "h" (Demo.snapshot ["g"]))]

/-- A snapshot without the VM, and one with it. -/
theorem never_used_again_relisted :
    (Organization.run Demo.settings Demo.listedOnce
        ([.system (.vmInventory "h" (Demo.snapshot []))] ++
          [.system (.vmInventory "h" (Demo.snapshot ["g"]))])).world.db.vms.map
      (fun v => (v.id, v.vmUuid)) = [("xx", some "g")] ∧
    ∀ v ∈ (Organization.run Demo.settings Demo.listedOnce
        ([.system (.vmInventory "h" (Demo.snapshot []))] ++
          [.system (.vmInventory "h" (Demo.snapshot ["g"]))])).world.db.vms, v.id ≠ "" := by
  refine ⟨by unfold Demo.listedOnce; decide +kernel, ?_⟩
  obtain ⟨vm, hvm, hid⟩ : ∃ vm ∈ Demo.listedOnce.world.db.vms, vm.id = "" := by
    unfold Demo.listedOnce
    decide +kernel
  rw [← hid]
  refine @never_used_again Demo.settings Demo.listedOnce
    ⟨Demo.start, _, Demo.start_initial, by unfold Demo.listedOnce; rfl⟩ vm hvm
    [.system (.vmInventory "h" (Demo.snapshot []))] _ ?_
  rw [hid]
  unfold Demo.listedOnce
  decide +kernel

end OpenVCenter
