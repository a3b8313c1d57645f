import OpenVCenter.Normalize

set_option relaxedAutoImplicit false
set_option autoImplicit false

/-!
# Writing an item onto a row

`_sync_disks`, `_sync_nics`, `_sync_snapshots` and `_write_vm_row` of `services/inventory.py`: a
normalized item is copied onto the row of its VM, whole for an inventory, and only where the
raw item has something to say for the lighter object attached to a task response.

## Main definitions

* `OpenVCenter.syncDisks`, `OpenVCenter.syncNics`, `OpenVCenter.syncSnapshots`.
* `OpenVCenter.writeVmRow`.

## Main results

* `OpenVCenter.writeVmRow_anchor` — a write sets the owner of the row and keeps its key, GUID,
  folder and tags.
-/

namespace OpenVCenter

variable (env : Env)

/-! ## Child collections -/

/-- `enumerate(elements)` of objects, mapped by `f`: an element that is no object has no `get`. -/
def mapObjects {α : Type} (f : ℕ → Dict → Except Raised α) (elements : Json) :
    Except Raised (List α) := do
  let elems ← elements.iterate
  (elems.zipIdx).mapM fun e => do
    let d ← e.1.asDict
    f e.2 d

/-- The disks `_sync_disks` puts in place of those of the row. -/
def syncDisks (disks : Json) : Except Raised (List VmDisk) :=
  mapObjects (fun i d => do
    let sizeBytes ← asInt env (d.get "sizeBytes")
    let usedBytes ← asInt env (d.get "usedBytes")
    pure { position := i
           diskId := (d.get "id").orElse .null
           path := (d.get "path").orElse .null
           controller := (d.get "controller").orElse .null
           sizeBytes, usedBytes
           type := (d.get "type").orElse .null
           format := (d.get "format").orElse .null }) disks

/-- `_access_vlan`. -/
def accessVlan : Json → Option ℤ
  | .int i => if 0 < i then some i else none
  | .bool b => if b then some 1 else none
  | _ => none

/-- The adapters `_sync_nics` puts in place of those of the row. -/
def syncNics (nics : Json) : Except Raised (List VmNic) :=
  mapObjects (fun i n => do
    let ipAddresses ← ((n.get "ipAddresses").orElse (.arr [])).iterate
    pure { position := i
           nicId := (n.get "id").orElse .null
           name := (n.get "name").orElse (.str "")
           switchName := (n.get "switchName").orElse .null
           vlanId := accessVlan (n.get "vlanId")
           macAddress := (n.get "macAddress").orElse .null
           ipAddresses
           connected := (n.getD "connected" (.bool true)).truthy }) nics

/-- The snapshots `_sync_snapshots` puts in place of those of the row. -/
def syncSnapshots (snapshots : Json) : Except Raised (List VmSnapshot) :=
  mapObjects (fun i s => pure
    { position := i
      snapshotId := (s.get "id").orElse (.str "")
      name := (s.get "name").orElse (.str "")
      parentSnapshotId := (s.get "parentId").orElse .null
      snapshotType := (s.get "type").orElse .null
      snapshotCreatedAt := parseDt env (s.get "createdAt") }) snapshots

/-! ## Scalar columns -/

/-- `_VM_SCALAR_FIELDS`: the column, the key of the normalized item, and the keys of the raw item
that say the field was reported. -/
def vmScalarFields : List ((Vm → Json → Vm) × String × List String) :=
  [(fun vm v => { vm with uptimeSec := v }, "uptimeSec", ["uptimeSec"]),
    (fun vm v => { vm with memoryBytes := v }, "memoryBytes",
      ["memoryBytes", "memoryMb", "memoryMB", "memory"]),
    (fun vm v => { vm with memoryMinBytes := v }, "memoryMinBytes", ["memoryMinBytes", "memory"]),
    (fun vm v => { vm with memoryMaxBytes := v }, "memoryMaxBytes", ["memoryMaxBytes", "memory"]),
    (fun vm v => { vm with memoryDemandBytes := v }, "memoryDemandBytes",
      ["memoryDemandBytes", "memoryConsumedMb"]),
    (fun vm v => { vm with cpuUsagePercent := v }, "cpuUsagePercent",
      ["cpuUsagePercent", "cpuUsagePct"]),
    (fun vm v => { vm with secureBoot := v }, "secureBoot", ["secureBoot"]),
    (fun vm v => { vm with secureBootTemplate := v }, "secureBootTemplate",
      ["secureBootTemplate"]),
    (fun vm v => { vm with autoStartAction := v }, "autoStartAction",
      ["autoStartAction", "automaticStart"]),
    (fun vm v => { vm with autoStartDelaySec := v }, "autoStartDelaySec",
      ["autoStartDelaySec", "automaticStartDelay"]),
    (fun vm v => { vm with autoStopAction := v }, "autoStopAction",
      ["autoStopAction", "automaticStop"]),
    (fun vm v => { vm with configPath := v }, "configPath", ["configPath", "path"]),
    (fun vm v => { vm with dvdPath := v }, "dvdPath", ["dvdPath", "dvd"]),
    (fun vm v => { vm with notes := v }, "notes", ["notes"])]

/-! ## The row -/

section WriteVmRow

variable (now : Time) (isPartial : Bool) (raw item : Dict)

/-- `has(*keys)`. -/
def reports (keys : List String) : Bool := !isPartial || keys.any fun k => raw.has k

/-- The name; a full inventory falls back to the old name and to the GUID. -/
def writeName (vm : Vm) : Vm :=
  if reports isPartial raw ["name"] && (item.get "name").truthy then
    { vm with name := item.get "name" }
  else if !isPartial then
    { vm with name := ((item.get "name").orElse vm.name).orElse (.ofOption vm.vmUuid) }
  else vm

/-- The state. -/
def writeState (vm : Vm) : Vm :=
  if reports isPartial raw ["state", "powerState"] then
    { vm with state := (item.get "state").orElse (if isPartial then vm.state else .str "Unknown") }
  else vm

/-- The metering flag, when the raw item has one. -/
def writeMetricsEnabled (vm : Vm) : Vm :=
  if (raw.get "metricsEnabled").isNone then vm
  else { vm with metricsEnabled := (item.get "metricsEnabled").truthy }

/-- The guest OS; the last known one is kept while none is reported. -/
def writeGuestOs (vm : Vm) : Vm :=
  match item.get "guestOs" with
  | .str s =>
    if (env.py.strip s).isEmpty then vm
    else { vm with guestOs := some (String.ofList ((env.py.strip s).toList.take 255)) }
  | _ => vm

/-- The firmware. -/
def writeFirmware (vm : Vm) : Vm :=
  if reports isPartial raw ["firmware", "generation"] && (item.get "firmware").truthy then
    { vm with firmware := item.get "firmware" }
  else if !isPartial then { vm with firmware := (item.get "firmware").orElse (.str "UEFI") }
  else vm

/-- The processor count, the one conversion that is not guarded. -/
def writeVcpu (vm : Vm) : Except Raised Vm :=
  if reports isPartial raw ["vcpu", "cpu"] then do
    let vcpu ← env.py.int (((item.get "vcpu").orElse
      (if isPartial then .int vm.vcpu else .int 1)).orElse (.int 1))
    pure { vm with vcpu := vcpu }
  else pure vm

/-- A flag: `bool(item.get(key))`, when one of the raw keys was reported. -/
def writeFlag (set : Vm → Bool → Vm) (key : String) (rawKeys : List String) (vm : Vm) : Vm :=
  if reports isPartial raw rawKeys then set vm (item.get key).truthy else vm

/-- The loop over `_VM_SCALAR_FIELDS`. -/
def writeVmScalars (vm : Vm) : Vm :=
  vmScalarFields.foldl (fun vm field =>
    if reports isPartial raw field.2.2 then field.1 vm (item.get field.2.1) else vm) vm

/-- The creation time. -/
def writeCreatedAt (vm : Vm) : Vm :=
  if reports isPartial raw ["createdAt", "creationTime"] && (item.get "createdAt").truthy then
    { vm with vmCreatedAt := parseDt env (item.get "createdAt") }
  else vm

/-- The disks. -/
def writeDisks (vm : Vm) : Except Raised Vm :=
  if reports isPartial raw ["disks", "vhds"] then do
    let disks ← syncDisks env (item.get "disks")
    pure { vm with disks := disks }
  else pure vm

/-- The adapters. -/
def writeNics (vm : Vm) : Except Raised Vm :=
  if reports isPartial raw ["nics"] then do
    let nics ← syncNics (item.get "nics")
    pure { vm with nics := nics }
  else pure vm

/-- The snapshots. -/
def writeSnapshots (vm : Vm) : Except Raised Vm :=
  if reports isPartial raw ["snapshots"] then do
    let snapshots ← syncSnapshots env (item.get "snapshots")
    pure { vm with snapshots := snapshots }
  else pure vm

/-- The owner: it follows a live migration within the cluster. -/
def Vm.setOwner (hostId : String) (clusterId : Option String) (vm : Vm) : Vm :=
  { vm with hostId := hostId, clusterId := clusterId }

/-- The time of the write. -/
def Vm.setRefreshed (vm : Vm) : Vm := { vm with lastInventoryAt := some now }

/-- `_write_vm_row`. -/
def writeVmRow (hostId : String) (clusterId : Option String) (vm : Vm) : Except Raised Vm := do
  let vm := vm.setOwner hostId clusterId
  let vm := writeName isPartial raw item vm
  let vm := writeState isPartial raw item vm
  let vm := writeMetricsEnabled raw item vm
  let vm := writeGuestOs env item vm
  let vm := writeFirmware isPartial raw item vm
  let vm ← writeVcpu env isPartial raw item vm
  let vm := writeFlag isPartial raw item (fun vm b => { vm with memoryDynamic := b })
    "memoryDynamic" ["memoryDynamic", "memory"] vm
  let vm := writeFlag isPartial raw item (fun vm b => { vm with nestedVirtualization := b })
    "nestedVirtualization" ["nestedVirtualization", "nested"] vm
  let vm := writeFlag isPartial raw item (fun vm b => { vm with highlyAvailable := b })
    "highlyAvailable" ["highlyAvailable", "ha"] vm
  let vm := writeVmScalars isPartial raw item vm
  let vm := writeCreatedAt env isPartial raw item vm
  let vm ← writeDisks env isPartial raw item vm
  let vm ← writeNics isPartial raw item vm
  let vm ← writeSnapshots env isPartial raw item vm
  pure (vm.setRefreshed now)

/-! ## Frame -/

/-- The columns no step of the write touches once the owner is set. -/
def Vm.anchor (vm : Vm) :
    String × Option String × Option String × List String × String × Option String :=
  (vm.id, vm.vmUuid, vm.folderId, vm.tagIds, vm.hostId, vm.clusterId)

variable {env now isPartial raw item} {vm vm' : Vm}

/-- The name is no part of the identity. -/
@[simp] lemma anchor_writeName : (writeName isPartial raw item vm).anchor = vm.anchor := by
  unfold writeName; split_ifs <;> rfl

/-- Nor is the state. -/
@[simp] lemma anchor_writeState : (writeState isPartial raw item vm).anchor = vm.anchor := by
  unfold writeState; split_ifs <;> rfl

/-- Nor is the flag for metrics. -/
@[simp] lemma anchor_writeMetricsEnabled :
    (writeMetricsEnabled raw item vm).anchor = vm.anchor := by
  unfold writeMetricsEnabled; split_ifs <;> rfl

/-- Nor is the guest system. -/
@[simp] lemma anchor_writeGuestOs : (writeGuestOs env item vm).anchor = vm.anchor := by
  unfold writeGuestOs
  split
  · split_ifs <;> rfl
  · rfl

/-- Nor is the firmware. -/
@[simp] lemma anchor_writeFirmware :
    (writeFirmware isPartial raw item vm).anchor = vm.anchor := by
  unfold writeFirmware; split_ifs <;> rfl

/-- Nor is the time of creation. -/
@[simp] lemma anchor_writeCreatedAt :
    (writeCreatedAt env isPartial raw item vm).anchor = vm.anchor := by
  unfold writeCreatedAt; split_ifs <;> rfl

/-- Nor is a flag. -/
lemma anchor_writeFlag {set : Vm → Bool → Vm} (hset : ∀ vm b, (set vm b).anchor = vm.anchor)
    {key : String} {rawKeys : List String} :
    (writeFlag isPartial raw item set key rawKeys vm).anchor = vm.anchor := by
  unfold writeFlag; split_ifs
  · exact hset _ _
  · rfl

/-- What the setters of the scalar columns leave alone is left alone by their loop. -/
lemma kept_writeVmScalars {γ : Type*} {f : Vm → γ}
    (hset : ∀ field ∈ vmScalarFields, ∀ vm v, f (field.1 vm v) = f vm) :
    f (writeVmScalars isPartial raw item vm) = f vm := by
  unfold writeVmScalars
  generalize vmScalarFields = fields at hset
  induction fields generalizing vm with
  | nil => rfl
  | cons field fields ih =>
    rw [List.foldl_cons, ih fun x hx => hset x (List.mem_cons_of_mem _ hx)]
    split_ifs
    · exact hset field List.mem_cons_self _ _
    · rfl

/-- Nor are the numbers. -/
@[simp] lemma anchor_writeVmScalars :
    (writeVmScalars isPartial raw item vm).anchor = vm.anchor :=
  kept_writeVmScalars (by simp [vmScalarFields, Vm.anchor])

/-- Nor is the time of the refresh. -/
@[simp] lemma anchor_setRefreshed : (vm.setRefreshed now).anchor = vm.anchor := rfl

/-- A step that fills one column from a computation that may raise. -/
lemma kept_of_step {α : Type} {γ : Type*} {f : Vm → γ} {c : Bool} {x : Except Raised α}
    {set : α → Vm} (hset : ∀ a, f (set a) = f vm)
    (h : (if c then x >>= fun a => pure (set a) else pure vm) = .ok vm') : f vm' = f vm := by
  by_cases hc : c = true
  · rw [if_pos hc] at h
    cases x with
    | error e => cases h
    | ok a => cases h; exact hset a
  · rw [if_neg hc] at h
    cases h; rfl

/-- Nor is the number of processors. -/
lemma anchor_writeVcpu (h : writeVcpu env isPartial raw item vm = .ok vm') :
    vm'.anchor = vm.anchor := by
  refine kept_of_step ?_ h
  exact fun _ => rfl

/-- Nor are the disks. -/
lemma anchor_writeDisks (h : writeDisks env isPartial raw item vm = .ok vm') :
    vm'.anchor = vm.anchor := by
  refine kept_of_step ?_ h
  exact fun _ => rfl

/-- Nor are the adapters. -/
lemma anchor_writeNics (h : writeNics isPartial raw item vm = .ok vm') :
    vm'.anchor = vm.anchor := by
  refine kept_of_step ?_ h
  exact fun _ => rfl

/-- Nor are the snapshots. -/
lemma anchor_writeSnapshots (h : writeSnapshots env isPartial raw item vm = .ok vm') :
    vm'.anchor = vm.anchor := by
  refine kept_of_step ?_ h
  exact fun _ => rfl

/-- A write of a row keeps its key, GUID, folder and tags, and sets its owner. -/
theorem writeVmRow_anchor {hostId : String} {clusterId : Option String}
    (h : writeVmRow env now isPartial raw item hostId clusterId vm = .ok vm') :
    vm'.anchor = (vm.setOwner hostId clusterId).anchor := by
  unfold writeVmRow at h
  obtain ⟨vm₁, h₁, h⟩ := Effect.except_bind_eq_ok.mp h
  obtain ⟨vm₂, h₂, h⟩ := Effect.except_bind_eq_ok.mp h
  obtain ⟨vm₃, h₃, h⟩ := Effect.except_bind_eq_ok.mp h
  obtain ⟨vm₄, h₄, h⟩ := Effect.except_bind_eq_ok.mp h
  obtain rfl : vm₄.setRefreshed now = vm' := Except.ok.inj h
  rw [anchor_setRefreshed, anchor_writeSnapshots h₄, anchor_writeNics h₃, anchor_writeDisks h₂,
    anchor_writeCreatedAt, anchor_writeVmScalars, anchor_writeFlag, anchor_writeFlag,
    anchor_writeFlag, anchor_writeVcpu h₁]
  · simp
  all_goals exact fun _ _ => rfl

/-- The name leaves the state alone. -/
@[simp] lemma state_writeName : (writeName isPartial raw item vm).state = vm.state := by
  unfold writeName; split_ifs <;> rfl

/-- So does the flag for metrics. -/
@[simp] lemma state_writeMetricsEnabled :
    (writeMetricsEnabled raw item vm).state = vm.state := by
  unfold writeMetricsEnabled; split_ifs <;> rfl

/-- So does the guest system. -/
@[simp] lemma state_writeGuestOs : (writeGuestOs env item vm).state = vm.state := by
  unfold writeGuestOs
  split
  · split_ifs <;> rfl
  · rfl

/-- So does the firmware. -/
@[simp] lemma state_writeFirmware : (writeFirmware isPartial raw item vm).state = vm.state := by
  unfold writeFirmware; split_ifs <;> rfl

/-- So does the time of creation. -/
@[simp] lemma state_writeCreatedAt :
    (writeCreatedAt env isPartial raw item vm).state = vm.state := by
  unfold writeCreatedAt; split_ifs <;> rfl

/-- So does a flag. -/
lemma state_writeFlag {set : Vm → Bool → Vm} (hset : ∀ vm b, (set vm b).state = vm.state)
    {key : String} {rawKeys : List String} :
    (writeFlag isPartial raw item set key rawKeys vm).state = vm.state := by
  unfold writeFlag; split_ifs
  · exact hset _ _
  · rfl

/-- So do the numbers. -/
@[simp] lemma state_writeVmScalars : (writeVmScalars isPartial raw item vm).state = vm.state :=
  kept_writeVmScalars (by simp [vmScalarFields])

/-- So does the number of processors. -/
lemma state_writeVcpu (h : writeVcpu env isPartial raw item vm = .ok vm') :
    vm'.state = vm.state := by
  refine kept_of_step (f := Vm.state) ?_ h
  exact fun _ => rfl

/-- So do the disks. -/
lemma state_writeDisks (h : writeDisks env isPartial raw item vm = .ok vm') :
    vm'.state = vm.state := by
  refine kept_of_step (f := Vm.state) ?_ h
  exact fun _ => rfl

/-- So do the adapters. -/
lemma state_writeNics (h : writeNics isPartial raw item vm = .ok vm') : vm'.state = vm.state := by
  refine kept_of_step (f := Vm.state) ?_ h
  exact fun _ => rfl

/-- So do the snapshots. -/
lemma state_writeSnapshots (h : writeSnapshots env isPartial raw item vm = .ok vm') :
    vm'.state = vm.state := by
  refine kept_of_step (f := Vm.state) ?_ h
  exact fun _ => rfl

/-- The state a row is given depends on the state it had. -/
lemma state_writeState_congr (h : vm'.state = vm.state) :
    (writeState isPartial raw item vm').state = (writeState isPartial raw item vm).state := by
  unfold writeState
  by_cases hreports : reports isPartial raw ["state", "powerState"] = true
  · rw [if_pos hreports, if_pos hreports]
    dsimp only
    rw [h]
  · rw [if_neg hreports, if_neg hreports]
    exact h

/-- The state a write gives a row is that of its step for the state, whatever else the row holds. -/
theorem state_of_writeVmRow {hostId : String} {clusterId : Option String}
    (h : writeVmRow env now isPartial raw item hostId clusterId vm = .ok vm') :
    vm'.state = (writeState isPartial raw item vm).state := by
  have hname : (writeName isPartial raw item (vm.setOwner hostId clusterId)).state = vm.state :=
    state_writeName
  unfold writeVmRow at h
  obtain ⟨vm₁, h₁, h⟩ := Effect.except_bind_eq_ok.mp h
  obtain ⟨vm₂, h₂, h⟩ := Effect.except_bind_eq_ok.mp h
  obtain ⟨vm₃, h₃, h⟩ := Effect.except_bind_eq_ok.mp h
  obtain ⟨vm₄, h₄, h⟩ := Effect.except_bind_eq_ok.mp h
  obtain rfl : vm₄.setRefreshed now = vm' := Except.ok.inj h
  have hlast : (vm₄.setRefreshed now).state = vm₄.state := rfl
  rw [hlast, state_writeSnapshots h₄, state_writeNics h₃, state_writeDisks h₂,
    state_writeCreatedAt, state_writeVmScalars, state_writeFlag, state_writeFlag,
    state_writeFlag, state_writeVcpu h₁, state_writeFirmware, state_writeGuestOs,
    state_writeMetricsEnabled]
  · exact state_writeState_congr hname
  all_goals exact fun _ _ => rfl

end WriteVmRow

end OpenVCenter
