import OpenVCenter.Foundations.Replace
import OpenVCenter.System

set_option relaxedAutoImplicit false
set_option autoImplicit false

/-!
# Two handlers that replace the children of one VM

The worker handles up to 16 deliveries of a host at a time, each in a READ COMMITTED transaction
of its own. Two of them may load the same VM, replace its disks, adapters and snapshots, and
commit, in any order of these steps.

## Main definitions

* `OpenVCenter.Children`, `OpenVCenter.syncChildren` — what one handler puts in place.
* `OpenVCenter.Replacement` — the item of a handler, with the children it writes.
* `OpenVCenter.ChildRace.State`, `OpenVCenter.ChildRace.step` — the three collections of the VM under
  the steps of two handlers.

## Main results

* `OpenVCenter.ChildRace.shows_alone` — a handler that runs alone leaves the children of the row
  `writeVmRow` returns.
* `OpenVCenter.ChildRace.children_replaced_iff` — after both commits every collection is one of the two
  lists exactly when the handlers do not overlap on it or one of the lists is empty.

## Design

The children are loaded by one `SELECT .. IN` for each relationship (`lazy="selectin"`), each of
which sees what is committed when it runs. The flush of a handler is kept together with its
commit: it updates the row of the VM first, so that the flush of the other handler waits for the
commit. A row that was deleted meanwhile is not deleted again (`confirm_deleted_rows=False`).
-/

namespace OpenVCenter

open Replace

variable {env : Env}

/-! ## The children a handler writes -/

/-- The three collections of a VM. -/
structure Children where
  disks : List VmDisk
  nics : List VmNic
  snapshots : List VmSnapshot

/-- The calls of `_sync_disks`, `_sync_nics` and `_sync_snapshots` in `_write_vm_row`. -/
def syncChildren (env : Env) (item : Dict) : Except Raised Children := do
  let disks ← syncDisks env (item.get "disks")
  let nics ← syncNics (item.get "nics")
  let snapshots ← syncSnapshots env (item.get "snapshots")
  pure { disks, nics, snapshots }

/-- The children of a row. -/
def Vm.children (vm : Vm) : Children := ⟨vm.disks, vm.nics, vm.snapshots⟩

/-- A write that replaces all three collections leaves those of its item on the row. -/
theorem writeVmRow_children {now : Time} {isPartial : Bool} {raw item : Dict} {hostId : String}
    {clusterId : Option String} {vm vm' : Vm}
    (hdisks : reports isPartial raw ["disks", "vhds"] = true)
    (hnics : reports isPartial raw ["nics"] = true)
    (hsnapshots : reports isPartial raw ["snapshots"] = true)
    (h : writeVmRow env now isPartial raw item hostId clusterId vm = .ok vm') :
    syncChildren env item = .ok vm'.children := by
  unfold writeVmRow at h
  obtain ⟨vm₁, -, h⟩ := Effect.except_bind_eq_ok.mp h
  obtain ⟨vm₂, h₂, h⟩ := Effect.except_bind_eq_ok.mp h
  obtain ⟨vm₃, h₃, h⟩ := Effect.except_bind_eq_ok.mp h
  obtain ⟨vm₄, h₄, h⟩ := Effect.except_bind_eq_ok.mp h
  obtain rfl : vm₄.setRefreshed now = vm' := Except.ok.inj h
  rw [writeDisks, if_pos hdisks] at h₂
  rw [writeNics, if_pos hnics] at h₃
  rw [writeSnapshots, if_pos hsnapshots] at h₄
  obtain ⟨disks, hd, h₂⟩ := Effect.except_bind_eq_ok.mp h₂
  obtain ⟨nics, hn, h₃⟩ := Effect.except_bind_eq_ok.mp h₃
  obtain ⟨snapshots, hs, h₄⟩ := Effect.except_bind_eq_ok.mp h₄
  cases h₂
  cases h₃
  cases h₄
  simp only [syncChildren, hd, hn, hs]
  rfl

/-- The normalized item a handler writes from, with the children it puts in place. -/
structure Replacement (env : Env) where
  item : Dict
  children : Children
  synced : syncChildren env item = .ok children

namespace ChildRace

/-! ## The race -/

/-- The relationships of a VM that are replaced. -/
inductive Child where
  | disks | nics | snapshots
  deriving DecidableEq

/-- What a handler does to the database: it loads each relationship, and commits. -/
inductive Step where
  | load (who : Writer) (child : Child)
  | commit (who : Writer)
  deriving DecidableEq

/-- What one collection sees of a step. -/
def Step.on (child : Child) : Step → Option Op
  | .load who c => if c = child then some (.load who) else none
  | .commit who => some (.commit who)

/-- The collections of the VM, each with what the two handlers have loaded of it. -/
structure State where
  disks : Cell VmDisk
  nics : Cell VmNic
  snapshots : Cell VmSnapshot

/-- The effect of a step on one collection. -/
def onCell {α : Type} (written : Writer → List α) (child : Child) (c : Cell α) (e : Step) : Cell α :=
  (e.on child).elim c (c.step written)

/-- One step of the two handlers, which write `written`. -/
def step (written : Writer → Children) (s : State) (e : Step) : State where
  disks := onCell (fun who => (written who).disks) .disks s.disks e
  nics := onCell (fun who => (written who).nics) .nics s.nics e
  snapshots := onCell (fun who => (written who).snapshots) .snapshots s.snapshots e

/-- The steps of one handler, in its own order. -/
def program (who : Writer) : List Step :=
  [.load who .disks, .load who .nics, .load who .snapshots, .commit who]

/-- One handler commits before the other loads the collection. -/
def Apart (child : Child) (es : List Step) : Prop := Cell.Serial (es.filterMap (Step.on child))

/-- Whether two handlers run apart can be decided. -/
instance (child : Child) (es : List Step) : Decidable (Apart child es) :=
  inferInstanceAs (Decidable (Cell.Serial _))

variable {written : Writer → Children} {es : List Step} {s : State}

/-- What a handler does to one kind of children. -/
lemma program_on (who : Writer) (child : Child) :
    (program who).filterMap (Step.on child) = Cell.program who := by
  cases who <;> cases child <;> rfl

/-- The disks after a run. -/
lemma run_disks (s : State) (es : List Step) :
    (Machine.run (step written) s es).disks =
      Machine.run (Cell.step fun who => (written who).disks) s.disks
        (es.filterMap (Step.on .disks)) :=
  Machine.run_view (f := State.disks) (fun _ _ => rfl) s es

/-- The adapters after a run. -/
lemma run_nics (s : State) (es : List Step) :
    (Machine.run (step written) s es).nics =
      Machine.run (Cell.step fun who => (written who).nics) s.nics
        (es.filterMap (Step.on .nics)) :=
  Machine.run_view (f := State.nics) (fun _ _ => rfl) s es

/-- The snapshots after a run. -/
lemma run_snapshots (s : State) (es : List Step) :
    (Machine.run (step written) s es).snapshots =
      Machine.run (Cell.step fun who => (written who).snapshots) s.snapshots
        (es.filterMap (Step.on .snapshots)) :=
  Machine.run_view (f := State.snapshots) (fun _ _ => rfl) s es

/-- What a merge does to one kind of children. -/
lemma merge_on (h : Merge (program .first) (program .second) es) (child : Child) :
    Merge (Cell.program .first) (Cell.program .second) (es.filterMap (Step.on child)) := by
  have hon := h.filterMap (Step.on child)
  rwa [program_on, program_on] at hon

/-! ## One handler -/

/-- The committed collections are those of the row `vm`. -/
structure Shows (s : State) (vm : Vm) : Prop where
  disks : s.disks.table.contents = vm.disks
  nics : s.nics.table.contents = vm.nics
  snapshots : s.snapshots.table.contents = vm.snapshots

/-- A handler that runs alone leaves the children of the row that a write from its item returns. -/
theorem shows_alone {now : Time} {isPartial : Bool} {raw : Dict} {hostId : String}
    {clusterId : Option String} {vm vm' : Vm} {r : Writer → Replacement env} {who : Writer}
    (hdisks : reports isPartial raw ["disks", "vhds"] = true)
    (hnics : reports isPartial raw ["nics"] = true)
    (hsnapshots : reports isPartial raw ["snapshots"] = true)
    (h : writeVmRow env now isPartial raw (r who).item hostId clusterId vm = .ok vm')
    (s : State) :
    Shows (Machine.run (step fun who => (r who).children) s (program who)) vm' := by
  have hsync := writeVmRow_children hdisks hnics hsnapshots h
  rw [(r who).synced] at hsync
  have hchildren : (r who).children = vm'.children := Except.ok.inj hsync
  refine ⟨?_, ?_, ?_⟩
  · rw [run_disks, program_on, Cell.contents_alone, hchildren]; rfl
  · rw [run_nics, program_on, Cell.contents_alone, hchildren]; rfl
  · rw [run_snapshots, program_on, Cell.contents_alone, hchildren]; rfl

/-! ## Two handlers -/

/-- Every collection holds what one of the handlers wrote. -/
structure Replaced (written : Writer → Children) (s : State) : Prop where
  disks : ∃ who, s.disks.Holds (written who).disks
  nics : ∃ who, s.nics.Holds (written who).nics
  snapshots : ∃ who, s.snapshots.Holds (written who).snapshots

/-- On every collection the handlers do not overlap, or one of them writes nothing. -/
structure Benign (written : Writer → Children) (es : List Step) : Prop where
  disks : Apart .disks es ∨ ∃ who, (written who).disks = []
  nics : Apart .nics es ∨ ∃ who, (written who).nics = []
  snapshots : Apart .snapshots es ∨ ∃ who, (written who).snapshots = []

/-- Once both handlers have committed, every collection is what one of them wrote exactly when
they do not overlap on it or one of them writes nothing. -/
theorem children_replaced_iff (r : Writer → Replacement env) (s : State) (es : List Step)
    (h : Merge (program .first) (program .second) es) :
    Replaced (fun who => (r who).children)
        (Machine.run (step fun who => (r who).children) s es) ↔
      Benign (fun who => (r who).children) es := by
  have hdisks := Cell.replaced_iff (fun who => (r who).children.disks) (merge_on h .disks) s.disks
  have hnics := Cell.replaced_iff (fun who => (r who).children.nics) (merge_on h .nics) s.nics
  have hsnapshots := Cell.replaced_iff (fun who => (r who).children.snapshots)
    (merge_on h .snapshots) s.snapshots
  constructor
  · intro hr
    have hrd := hr.disks
    have hrn := hr.nics
    have hrs := hr.snapshots
    rw [run_disks] at hrd
    rw [run_nics] at hrn
    rw [run_snapshots] at hrs
    exact ⟨hdisks.mp hrd, hnics.mp hrn, hsnapshots.mp hrs⟩
  · intro hb
    refine ⟨?_, ?_, ?_⟩
    · rw [run_disks]; exact hdisks.mpr hb.disks
    · rw [run_nics]; exact hnics.mpr hb.nics
    · rw [run_snapshots]; exact hsnapshots.mpr hb.snapshots

/-! ## Two reports of one disk -/

/-- The disk of the reports below. -/
def Demo.disk : VmDisk :=
  { position := 0, diskId := .str "d", path := .null, controller := .null, sizeBytes := none
    usedBytes := none, type := .null, format := .null }

/-- A handler that reports the disk, no adapter and no snapshot. -/
def Demo.report : Replacement OpenVCenter.Demo.settings where
  item := [("disks", .arr [.obj [("id", .str "d")]]), ("nics", .arr []), ("snapshots", .arr [])]
  children := ⟨[disk], [], []⟩
  synced := by rfl

/-- The row has the disk, and nothing is loaded yet. -/
def Demo.stored : State where
  disks := ⟨⟨[(0, disk)], 1, by simp⟩, fun _ => []⟩
  nics := ⟨⟨[], 0, by simp⟩, fun _ => []⟩
  snapshots := ⟨⟨[], 0, by simp⟩, fun _ => []⟩

/-- Two handlers one after the other leave the disk once. -/
theorem children_replaced_serial :
    Replaced (fun _ => Demo.report.children) (Machine.run (step fun _ => Demo.report.children)
      Demo.stored (program .first ++ program .second)) :=
  (children_replaced_iff (fun _ => Demo.report) Demo.stored _ (Merge.append _ _)).mpr
    ⟨Or.inl (by decide), Or.inl (by decide), Or.inl (by decide)⟩

/-- Both handlers load, then both commit. -/
def Demo.overlap : List Step :=
  [.load .first .disks, .load .first .nics, .load .first .snapshots,
    .load .second .disks, .load .second .nics, .load .second .snapshots,
    .commit .first, .commit .second]

/-- Two handlers that overlap leave the disk twice. -/
theorem children_race_counterexample :
    ¬ ∀ (env : Env) (r : Writer → Replacement env) (s : State) (es : List Step),
      Merge (program .first) (program .second) es →
      Replaced (fun who => (r who).children)
        (Machine.run (step fun who => (r who).children) s es) := by
  intro h
  have hmerge : Merge (program .first) (program .second) Demo.overlap :=
    .left (.left (.left (.right (.right (.right (.left (.right .nil)))))))
  obtain ⟨who, hwho⟩ := (h _ (fun _ => Demo.report) Demo.stored Demo.overlap hmerge).disks
  have htwo : (Machine.run (step fun _ => Demo.report.children) Demo.stored
      Demo.overlap).disks.table.contents = [Demo.disk, Demo.disk] := rfl
  have hlength := hwho.length_eq
  rw [htwo] at hlength
  cases hlength

end ChildRace

end OpenVCenter
