import OpenVCenter.RowRules

set_option relaxedAutoImplicit false
set_option autoImplicit false

/-!
# The state overlays

The cache holds a state for a VM next to the state of its row. Every write of the one comes with a
write of the other, and every handler that returns leaves the two equal.

## Main definitions

* `OpenVCenter.DrawnKeys` — rows and overlays are under identifiers that have been drawn.
* `OpenVCenter.Overlaid` — and an overlay is the state of its row, as the cache encodes it.

## Main results

* `OpenVCenter.overlaid_rowRule`, `OpenVCenter.endsOverlaid_handler` — a handler that returns ends
  in `OpenVCenter.Overlaid`, one that raises in `OpenVCenter.DrawnKeys`.
-/

namespace OpenVCenter

open Effect

variable {env : Env} {w t : World} {hostId : String} {α : Type}

/-! ## The invariant -/

/-- The rows and the overlays are under drawn identifiers. -/
structure DrawnKeys (env : Env) (w : World) : Prop where
  rows : ∀ v ∈ w.db.vms, Drawn env w v.id
  overlays : ∀ id, w.cache.vmStates id ≠ none → Drawn env w id

/-- The overlay of a row is the encoding of its state. -/
structure Overlaid (env : Env) (w : World) : Prop extends DrawnKeys env w where
  shown : ∀ v ∈ w.db.vms, ∀ text, Expiring.get w.cache.vmStates v.id = some text →
    encodeValue env v.state = some text

/-- The frame of what may drop rows and overlays, and changes no state. -/
def shrinkFrame : Frame World where
  rel w t := (∀ v ∈ t.db.vms, ∃ u ∈ w.db.vms, u.id = v.id ∧ u.state = v.state) ∧
    (∀ id e, t.cache.vmStates id = some e → w.cache.vmStates id = some e) ∧ w.nextId ≤ t.nextId
  refl _ := ⟨fun v hv => ⟨v, hv, rfl, rfl⟩, fun _ _ he => he, le_rfl⟩
  trans h h' := ⟨fun v hv => by
      obtain ⟨u, hu, hid, hstate⟩ := h'.1 v hv
      obtain ⟨u₀, hu₀, hid₀, hstate₀⟩ := h.1 u hu
      exact ⟨u₀, hu₀, hid₀.trans hid, hstate₀.trans hstate⟩,
    fun id e he => h.2.1 id e (h'.2.1 id e he), h.2.2.trans h'.2.2⟩

/-- Fewer keys are drawn as well. -/
lemma DrawnKeys.shrink (h : DrawnKeys env w) (hf : shrinkFrame.rel w t) : DrawnKeys env t where
  rows v hv := by
    obtain ⟨u, hu, hid, -⟩ := hf.1 v hv
    exact hid ▸ (h.rows u hu).mono hf.2.2
  overlays id hid := by
    obtain ⟨e, he⟩ := Option.ne_none_iff_exists'.mp hid
    refine (h.overlays id ?_).mono hf.2.2
    rw [hf.2.1 id e he]
    exact Option.some_ne_none e

/-- Fewer overlays are in order as well. -/
lemma Overlaid.shrink (h : Overlaid env w) (hf : shrinkFrame.rel w t) : Overlaid env t where
  toDrawnKeys := h.toDrawnKeys.shrink hf
  shown v hv text htext := by
    obtain ⟨u, hu, hid, hstate⟩ := hf.1 v hv
    obtain ⟨at_, hentry⟩ := Expiring.get_eq_some.mp htext
    rw [← hid] at hentry
    rw [← hstate]
    exact h.shown u hu text (Expiring.get_eq_some.mpr ⟨at_, hf.2.1 _ _ hentry⟩)

/-- The frame of what leaves the rows and the overlays alone. -/
def overlayFrame : Frame World where
  rel w t := t.db.vms = w.db.vms ∧ t.cache.vmStates = w.cache.vmStates ∧ w.nextId ≤ t.nextId
  refl _ := ⟨rfl, rfl, le_rfl⟩
  trans h h' := ⟨h'.1.trans h.1, h'.2.1.trans h.2.1, h.2.2.trans h'.2.2⟩

/-- What leaves rows and overlays alone makes no more of them. -/
lemma shrink_of_overlayFrame (h : overlayFrame.rel w t) : shrinkFrame.rel w t :=
  ⟨fun v hv => ⟨v, h.1 ▸ hv, rfl, rfl⟩, fun _ _ he => h.2.1 ▸ he, h.2.2⟩

/-- It keeps them in order. -/
lemma Overlaid.frame (h : Overlaid env w) (hf : overlayFrame.rel w t) : Overlaid env t :=
  h.shrink (shrink_of_overlayFrame hf)

/-- A row is added under the identifier drawn for it. -/
lemma Overlaid.addVm (h : Overlaid env w) {vm : Vm} (hid : vm.id = env.uuid w.nextId) :
    Overlaid env { w with nextId := w.nextId + 1, db := w.db.addVm vm } where
  rows v hv := by
    rcases List.mem_append.mp hv with hv | hv
    · exact (h.rows v hv).mono (Nat.le_succ _)
    · rw [List.mem_singleton.mp hv]
      exact ⟨w.nextId, Nat.lt_succ_self _, hid⟩
  overlays id hne := (h.overlays id hne).mono (Nat.le_succ _)
  shown v hv text htext := by
    rcases List.mem_append.mp hv with hv | hv
    · exact h.shown v hv text htext
    · rw [List.mem_singleton.mp hv, hid] at htext
      obtain ⟨at_, hentry⟩ := Expiring.get_eq_some.mp htext
      refine absurd (h.overlays _ ?_) (not_drawn_next env w)
      rw [show w.cache.vmStates (env.uuid w.nextId) = _ from hentry]
      exact Option.some_ne_none _

/-- A row is stored, and its state is put over it. -/
lemma Overlaid.store (h : Overlaid env w) {vm : Vm} {text : String} {at_ : Time}
    (hid : vm.id ∈ w.db.vms.map Vm.id) (htext : encodeValue env vm.state = some text) :
    Overlaid env { w with
      db := w.db.storeVm vm
      cache := { w.cache with
        vmStates := Expiring.put w.cache.vmStates vm.id text at_ } } where
  rows v hv := by
    rcases Table.mem_store.mp hv with ⟨hv, -⟩ | ⟨rfl, -⟩
    · exact h.rows v hv
    · obtain ⟨x, hx, hxid⟩ := List.mem_map.mp hid
      exact hxid ▸ h.rows x hx
  overlays id hne := by
    by_cases heq : id = vm.id
    · obtain ⟨x, hx, hxid⟩ := List.mem_map.mp hid
      rw [heq, ← hxid]
      exact h.rows x hx
    · exact h.overlays id fun hnone => hne ((Expiring.put_of_ne heq).trans hnone)
  shown v hv text' htext' := by
    have hget := (Expiring.get_put (m := w.cache.vmStates) (k := vm.id) (v := text) (t := at_)
      (x := v.id)).symm.trans htext'
    rcases Table.mem_store.mp hv with ⟨hv, hne⟩ | ⟨rfl, -⟩
    · rw [if_neg hne] at hget
      exact h.shown v hv text' hget
    · rw [if_pos rfl] at hget
      cases hget
      exact htext

/-! ## Handlers -/

/-- The rows and the overlays are under drawn identifiers, once a row is written over. -/
lemma DrawnKeys.storeVm (h : DrawnKeys env w) {vm vm' : Vm} (hmem : vm ∈ w.db.vms)
    (hid : vm'.id = vm.id) : DrawnKeys env { w with db := w.db.storeVm vm' } where
  rows v hv := by
    rcases Table.mem_store.mp hv with ⟨hv, -⟩ | ⟨rfl, -⟩
    · exact h.rows v hv
    · exact hid ▸ h.rows vm hmem
  overlays := h.overlays

/-- The handlers write no row without its overlay, and show no row as another. -/
theorem overlaid_rowRule : RowRule env (Overlaid env) (DrawnKeys env) where
  weaken hw := hw.toDrawnKeys
  fresh {w} hw v hv heq := not_drawn_next env w (heq ▸ hw.rows v hv)
  drop hw hrel := hw.shrink ⟨fun v hv => ⟨v, hrel.1 v hv, rfl, rfl⟩, hrel.2.1, hrel.2.2.2⟩
  locks _ hw := ⟨hw.rows, hw.overlays⟩
  add hw _ hplace := hw.addVm (congrArg Prod.fst hplace)
  raw hw hid := (hw.addVm hid).toDrawnKeys
  write hw hmem hfollows := hw.toDrawnKeys.storeVm hmem hfollows.id_eq
  display _ hw hmem hfollows htext :=
    hw.store (hfollows.id_eq ▸ List.mem_map_of_mem hmem) htext

/-- A handler that returns leaves the overlays equal to the rows; one that raises leaves them under
drawn identifiers. -/
abbrev EndsOverlaid (env : Env) (m : M α) (w : World) : Prop :=
  EndsIn (Overlaid env) (DrawnKeys env) m w

/-- A handler that makes no more of them leaves them in order. -/
lemma endsOverlaid_of_shrink {m : M α} (hw : Overlaid env w) (h : shrinkFrame.rel w (m w).2) :
    EndsOverlaid env m w :=
  ends_of_rel h (fun _ _ _ hf => hw.shrink hf) fun _ hf => hw.toDrawnKeys.shrink hf

/-- The refresh of the VM rows. -/
theorem endsOverlaid_applyResponseState {resp : AgentResponse} {task : Task}
    (hw : Overlaid env w) : EndsOverlaid env (applyResponseState env hostId resp task) w :=
  overlaid_rowRule.applyResponseState hw

/-- Drawing identifiers leaves them alone. -/
lemma overlayFrame_nextId (w : World) (n : ℕ) (h : w.nextId ≤ n) :
    overlayFrame.rel w { w with nextId := n } := ⟨rfl, rfl, h⟩

/-- The rows of a removed host go; a row elsewhere leaves a folder that goes. -/
lemma shrink_removeHost (user : User) (hostId : String) :
    Keeps shrinkFrame (removeHost env user hostId) := by
  refine keeps_bind keeps_read fun w => keeps_bind (keeps_ofOption _) fun host => ?_
  refine keeps_bind (keeps_record (F := shrinkFrame)
    (fun w n h => shrink_of_overlayFrame (overlayFrame_nextId w n h))
    (fun w _ => shrinkFrame.refl w) _ _ _ _ _) fun _ => ?_
  refine keeps_bind (keeps_settleTaskEvents (F := shrinkFrame) (fun w _ => shrinkFrame.refl w)
    _ _ _) fun _ => ?_
  refine keeps_bind (F := shrinkFrame) (keeps_modify fun w => ⟨fun v hv => ?_,
    fun _ _ he => he, le_rfl⟩) fun _ => keeps_flush
  obtain ⟨u, hu, rfl⟩ := List.mem_map.mp hv
  exact ⟨u, (Table.mem_deleteWhere.mp hu).1, rfl, rfl⟩

/-- Every handler but that of responses. -/
theorem endsOverlaid_handler {e : Event} {m : M Unit} (he : e.handler env = some m)
    (hresp : ∀ hostId resp, e ≠ .response hostId resp) (hw : Overlaid env w)
    (hc : w.db.Consistent) : EndsOverlaid env m w := by
  by_cases hplain : e.IsPlain = true
  · exact overlaid_rowRule.handler he hplain hw hc
  · cases e with
    | response hostId resp => exact absurd rfl (hresp hostId resp)
    | removeHost user hostId =>
      cases he
      exact endsOverlaid_of_shrink hw (shrink_removeHost _ _ w)
    | agentStatus hostId payload =>
      cases he
      exact endsOverlaid_of_shrink hw (keeps_applyAgentStatus (F := shrinkFrame)
        (fun w _ _ => shrinkFrame.refl w) _ w)
    | _ => exact absurd rfl hplain

end OpenVCenter
