import OpenVCenter.VmSpelling

set_option relaxedAutoImplicit false
set_option autoImplicit false

/-!
# From an item to what is served

A VM of the contract's grammar is applied as a full item to a new row, and the row is serialized.
About forty fields go through three mappings; what comes out is what was described.

## Main definitions

* `OpenVCenter.freshRow` — the row a full item makes when its GUID has none.
* `OpenVCenter.servedFresh` — what is served of it.
* `OpenVCenter.VmSpec.out` — the described values.

## Main results

* `OpenVCenter.freshRow_stored` — the loop over the items stores such rows.
* `OpenVCenter.writeVmRow_normalized` — the row of a canonical object.
* `OpenVCenter.servedFresh_eq` — **a VM of the grammar is served as it was described**, in either
  spelling.
-/

namespace OpenVCenter

open Effect

variable {env : Env}

/-! ## New rows -/

/-- The row a full item makes when its GUID has none, if the item is not skipped. -/
def freshRow (env : Env) (now : Time) (host : Host) (id : String) (raw : Json) :
    Except Raised (Option Vm) := do
  let (_, d, item, key) ← parseItem env raw
  match key with
  | .guid u => do
    let vm ← writeVmRow env now false d item host.id host.clusterId
      { id := id, vmUuid := some u, hostId := host.id }
    pure (some vm)
  | .absent | .unbindable => pure none

/-- What is served of such a row, with no operation running and the agent connected. -/
def servedFresh (env : Env) (coerce : Coercions) (now : Time) (host : Host) (id : String)
    (raw : Json) : Except Raised (Option Schema.VmOut) := do
  match ← freshRow env now host id raw with
  | some vm => do
    let out ← vmOut coerce none none false vm
    pure (some out)
  | none => pure none

/-- **The loop over the items stores these rows.** -/
theorem freshRow_stored {host : Host} {tombstoned : String → Bool} {scan scan' : Scan} {raw : Json}
    {image : Option (List UInt8)} {d item : Dict} {u : String} {w t : World}
    (hparse : parseItem env raw = .ok (image, d, item, .guid u))
    (hfind : scan.find w.db u = none) (hlive : tombstoned u = false)
    (h : reconcileItem env host tombstoned scan raw w = (.ok scan', t)) :
    ∃ vm, freshRow env w.now host (env.uuid w.nextId) raw = .ok (some vm) ∧ vm ∈ t.db.vms := by
  obtain ⟨image', d', item', key, hparse', hkey⟩ := reconcileItem_eq_ok.mp h
  rw [hparse] at hparse'
  cases hparse'
  dsimp only at hkey
  rw [hfind, hlive, Bool.and_false, if_neg Bool.false_ne_true] at hkey
  obtain ⟨vm, text, hwrite, -, -, rfl⟩ := writeListed_eq_ok.mp hkey
  unfold Scan.enter at hwrite ⊢
  rw [hfind] at hwrite ⊢
  dsimp only at hwrite ⊢
  have hid : vm.id = env.uuid w.nextId := congrArg Prod.fst (writeVmRow_anchor hwrite)
  refine ⟨vm, ?_, Table.mem_store.mpr (Or.inr ⟨rfl, ?_⟩)⟩
  · unfold freshRow
    rw [hparse, except_ok_bind]
    dsimp only
    rw [hwrite]
    rfl
  · exact ⟨_, List.mem_append_right _ (List.mem_singleton_self _), hid.symm⟩

/-! ## What was described -/

/-- A disk as described. -/
def DiskSpec.out (d : DiskSpec) : Schema.VmDisk where
  id := d.id
  path := d.path
  controller := d.controller
  sizeBytes := d.sizeGib * gib
  usedBytes := d.usedBytes
  type := d.type
  format := d.format

/-- An adapter as described; the VLAN 0 is none. -/
def NicSpec.out (n : NicSpec) : Schema.VmNic where
  id := n.id
  name := n.name
  switchName := n.switchName
  vlanId := n.vlanId.filter fun v => decide (v ≠ 0)
  macAddress := n.macAddress
  ipAddresses := n.ipAddresses
  connected := n.connected

/-- A snapshot as described. -/
def SnapshotSpec.out (s : SnapshotSpec) : Schema.VmSnapshot where
  id := s.id
  name := s.name
  createdAt := s.createdAt.map Stamp.instant
  parentId := s.parentId
  type := s.type

/-- A VM as described. -/
def VmSpec.out (env : Env) (now : Time) (host : Host) (id : String) (vm : VmSpec) :
    Schema.VmOut where
  id := id
  vmUuid := some vm.id
  hostId := host.id
  folderId := none
  name := vm.name
  state := vm.state
  lastSeen := some now
  firmware := vm.firmware.name
  guestOs := vm.guestOs.map env.py.strip
  uptimeSec := vm.uptimeSec
  vcpu := vm.vcpu
  cpuUsagePercent := vm.cpuUsagePercent.map JsonNumber.value
  memory :=
    { assignedBytes := vm.memoryMib * mib
      minBytes := vm.memoryMinBytes
      maxBytes := vm.memoryMaxBytes
      dynamic := vm.memoryDynamic
      demandBytes := vm.memoryDemandBytes }
  disks := vm.disks.map DiskSpec.out
  nics := vm.nics.map NicSpec.out
  snapshots := vm.snapshots.map SnapshotSpec.out
  secureBoot := vm.secureBoot
  secureBootTemplate := vm.secureBootTemplate
  nestedVirtualization := vm.nestedVirtualization
  autoStartAction := vm.autoStartAction
  autoStartDelaySec := vm.autoStartDelaySec
  autoStopAction := vm.autoStopAction
  configPath := vm.configPath
  dvdPath := vm.dvdPath
  highlyAvailable := vm.highlyAvailable
  notes := vm.notes
  tagIds := []
  metricsEnabled := vm.metricsEnabled
  createdAt := vm.createdAt.map Stamp.instant
  lock := none

/-! ## The child rows -/

/-- The row of a disk. -/
def DiskSpec.row (d : DiskSpec) (position : ℕ) : VmDisk where
  position := position
  diskId := (Json.str d.id).orElse .null
  path := (Json.str d.path).orElse .null
  controller := (Json.str d.controller).orElse .null
  sizeBytes := some (d.sizeGib * gib)
  usedBytes := d.usedBytes
  type := (Json.str d.type).orElse .null
  format := (Json.str d.format).orElse .null

/-- The row of an adapter. -/
def NicSpec.row (n : NicSpec) (position : ℕ) : VmNic where
  position := position
  nicId := (Json.str n.id).orElse .null
  name := .str n.name
  switchName := (Json.str n.switchName).orElse .null
  vlanId := n.vlanId.filter fun v => decide (v ≠ 0)
  macAddress := (Json.str n.macAddress).orElse .null
  ipAddresses := n.ipAddresses.map .str
  connected := n.connected

/-- The row of a snapshot. -/
def SnapshotSpec.row (s : SnapshotSpec) (position : ℕ) : VmSnapshot where
  position := position
  snapshotId := .str s.id
  name := .str s.name
  parentSnapshotId := .ofOption s.parentId
  snapshotType := .ofOption s.type
  snapshotCreatedAt := s.createdAt.map Stamp.instant

section Children

/-- The rows of a list of objects, numbered. -/
lemma mapObjects_eq_ok {α ρ : Type} {f : ℕ → Dict → Except Raised ρ} {spell : α → Dict}
    {row : α → ℕ → ρ} {l : List α} (h : ∀ a ∈ l, ∀ i, f i (spell a) = .ok (row a i)) :
    mapObjects f (.arr (l.map fun a => .obj (spell a))) =
      .ok (l.zipIdx.map fun e => row e.1 e.2) := by
  show ((l.map fun a => Json.obj (spell a)).zipIdx).mapM (fun e => do
    let d ← e.1.asDict
    f e.2 d) = _
  rw [List.zipIdx_map, List.mapM_map]
  refine Fallible.mapM_eq_ok_map fun e he => ?_
  exact h e.1 (List.fst_mem_of_mem_zipIdx he) e.2

/-- What is served of numbered rows. -/
lemma mapM_rows_eq_ok {α ρ β : Type} {row : α → ℕ → ρ} {g : ρ → Except Raised β} {out : α → β}
    {l : List α} (h : ∀ a ∈ l, ∀ i, g (row a i) = .ok (out a)) :
    (l.zipIdx.map fun e => row e.1 e.2).mapM g = .ok (l.map out) := by
  have hrows : ∀ e ∈ l.zipIdx, (g ∘ fun e => row e.1 e.2) e = .ok ((out ∘ Prod.fst) e) :=
    fun e he => h e.1 (List.fst_mem_of_mem_zipIdx he) e.2
  rw [List.mapM_map, Fallible.mapM_eq_ok_map hrows, ← List.map_map, List.zipIdx_map_fst]

/-- An optional text is a valid one. -/
lemma asOptional_ofOption (o : Option String) :
    Schema.asOptional Schema.asStr (.ofOption o) = .ok o := by
  cases o <;> rfl

/-- A text that is None where it was empty. -/
lemma asStr_orElse (s : String) :
    Schema.asStr (((Json.str s).orElse .null).orElse (.str "")) = .ok s := by
  rw [str_orElse_null]
  rfl

/-! ### Disks -/

/-- The disks of an item are the rows of the description. -/
lemma syncDisks_item {disks : List DiskSpec} (h : ∀ d ∈ disks, d.Canonical env) :
    syncDisks env (.arr (disks.map fun d => .obj d.item)) =
      .ok (disks.zipIdx.map fun e => e.1.row e.2) := by
  refine mapObjects_eq_ok fun d hd i => ?_
  have hsize : asInt env (d.item.get "sizeBytes") = .ok (some (d.sizeGib * gib)) :=
    asInt_int (h d hd).sizeBytes.representable
  have hused : asInt env (d.item.get "usedBytes") = .ok d.usedBytes :=
    asInt_ofInt? fun n hn => ((h d hd).usedBytes n hn).representable
  rw [hsize, except_ok_bind, hused, except_ok_bind]
  rfl

/-- The row of a disk is served as described. -/
lemma diskOut_row (d : DiskSpec) (i : ℕ) : diskOut (d.row i) = .ok d.out := by
  unfold diskOut DiskSpec.row
  dsimp only
  simp only [asStr_orElse, except_ok_bind]
  rfl

/-! ### Adapters -/

/-- An access VLAN of zero is none. -/
lemma accessVlan_ofInt? {o : Option ℤ} (h : ∀ v ∈ o, 0 ≤ v) :
    accessVlan (.ofInt? o) = o.filter fun v => decide (v ≠ 0) := by
  cases o with
  | none => rfl
  | some v =>
    have hv := h v rfl
    show (if 0 < v then some v else none) = _
    by_cases hzero : v = 0
    · subst hzero
      rfl
    · rw [if_pos (lt_of_le_of_ne hv (Ne.symm hzero))]
      simp [Option.filter, hzero]

/-- The adapters of an item are the rows of the description. -/
lemma syncNics_item {nics : List NicSpec} (h : ∀ n ∈ nics, n.Canonical env) :
    syncNics (.arr (nics.map fun n => .obj n.item)) =
      .ok (nics.zipIdx.map fun e => e.1.row e.2) := by
  refine mapObjects_eq_ok fun n hn i => ?_
  have hips : ((n.item.get "ipAddresses").orElse (.arr [])).iterate =
      .ok (n.ipAddresses.map .str) := by
    show ((Json.arr (n.ipAddresses.map .str)).orElse (.arr [])).iterate = _
    cases n.ipAddresses <;> rfl
  have hvlan : accessVlan (n.item.get "vlanId") = n.vlanId.filter fun v => decide (v ≠ 0) :=
    accessVlan_ofInt? (h n hn).vlanId
  have hname : (n.item.get "name").orElse (.str "") = .str n.name := str_orElse n.name
  rw [hips, except_ok_bind, hvlan, hname]
  rfl

/-- The row of an adapter is served as described. -/
lemma nicOut_row (n : NicSpec) (i : ℕ) : nicOut (n.row i) = .ok n.out := by
  have hips : (n.ipAddresses.map Json.str).mapM Schema.asStr = .ok n.ipAddresses := by
    have hstr : ∀ ip ∈ n.ipAddresses, (Schema.asStr ∘ Json.str) ip = .ok (id ip) :=
      fun _ _ => rfl
    rw [List.mapM_map, Fallible.mapM_eq_ok_map hstr, List.map_id]
  have hname : Schema.asStr ((Json.str n.name).orElse (.str "")) = .ok n.name := by
    rw [str_orElse]
    rfl
  unfold nicOut NicSpec.row
  dsimp only
  simp only [asStr_orElse, hname, hips, except_ok_bind]
  rfl

/-! ### Snapshots -/

/-- What `_parse_dt` makes of the text of a timestamp is what `isoformat` writes of it. -/
lemma isoformat_of_text (s : Stamp) :
    (s.text.toList.flatMap fun c => if c = 'Z' then ['+', '0', '0', ':', '0', '0'] else [c]) =
      s.datetime.isoformat := by
  have hplain : ∀ d : Datetime, (d.isoformat.flatMap fun c =>
      if c = 'Z' then ['+', '0', '0', ':', '0', '0'] else [c]) = d.isoformat := by
    intro d
    have hsame : ∀ c ∈ d.isoformat,
        (if c = 'Z' then ['+', '0', '0', ':', '0', '0'] else [c]) = [c] :=
      fun c hc => if_neg (d.ne_of_mem_isoformat (by decide) c hc)
    rw [List.flatMap_congr hsame, List.flatMap_singleton']
  unfold Stamp.text
  rw [String.toList_ofList]
  split_ifs with hzulu
  · rw [List.flatMap_append, hplain]
    show s.datetime.naive.isoformat ++ Datetime.writeOffset 0 = s.datetime.isoformat
    unfold Datetime.isoformat Datetime.naive
    rw [hzulu.2]
    simp
  · exact hplain _

/-- **A timestamp is parsed to its instant.** -/
lemma parseDt_stamp (hiso : ReadsIso env.py) (o : Option Stamp) :
    parseDt env (.ofOption (o.map Stamp.text)) = o.map Stamp.instant := by
  rcases o with _ | s
  · rfl
  · show (if (Json.str s.text).truthy = true then
      env.py.fromisoformat (String.ofList (s.text.toList.flatMap fun c =>
        if c = 'Z' then ['+', '0', '0', ':', '0', '0'] else [c])) else none) = some s.instant
    rw [if_pos (truthy_stamp s), isoformat_of_text]
    exact hiso s.datetime s.aware

/-- The snapshots of an item are the rows of the description. -/
lemma syncSnapshots_item (hiso : ReadsIso env.py) {snapshots : List SnapshotSpec}
    (h : ∀ s ∈ snapshots, s.Canonical env) :
    syncSnapshots env (.arr (snapshots.map fun s => .obj s.item)) =
      .ok (snapshots.zipIdx.map fun e => e.1.row e.2) := by
  refine mapObjects_eq_ok fun s hs i => ?_
  have hid : (s.item.get "id").orElse (.str "") = .str s.id := str_orElse s.id
  have hname : (s.item.get "name").orElse (.str "") = .str s.name := str_orElse s.name
  have hparent : (s.item.get "parentId").orElse .null = .ofOption s.parentId :=
    ofOption_orElse (h s hs).parentId
  have htype : (s.item.get "type").orElse .null = .ofOption s.type := ofOption_orElse (h s hs).type
  have hcreated : parseDt env (s.item.get "createdAt") = s.createdAt.map Stamp.instant :=
    parseDt_stamp hiso s.createdAt
  rw [hid, hname, hparent, htype, hcreated]
  rfl

/-- The row of a snapshot is served as described. -/
lemma snapshotOut_row (s : SnapshotSpec) (i : ℕ) :
    snapshotOut (s.row i) = .ok s.out := by
  have hstr : ∀ t : String, Schema.asStr ((Json.str t).orElse (.str "")) = .ok t := fun t => by
    rw [str_orElse]
    rfl
  unfold snapshotOut SnapshotSpec.row
  dsimp only
  simp only [hstr, asOptional_ofOption, except_ok_bind]
  rfl

end Children

/-! ## The row -/

/-- The row of a VM. -/
def VmSpec.row (env : Env) (now : Time) (host : Host) (id : String) (vm : VmSpec) : Vm where
  id := id
  vmUuid := some vm.id
  hostId := host.id
  clusterId := host.clusterId
  name := .str vm.name
  state := .str vm.state
  firmware := .str vm.firmware.name
  guestOs := vm.guestOs.map env.py.strip
  uptimeSec := .ofInt? vm.uptimeSec
  vcpu := vm.vcpu
  memoryBytes := .int (vm.memoryMib * mib)
  memoryMinBytes := .ofInt? vm.memoryMinBytes
  memoryMaxBytes := .ofInt? vm.memoryMaxBytes
  memoryDynamic := vm.memoryDynamic
  cpuUsagePercent := .ofFloat? (vm.cpuUsagePercent.map JsonNumber.value)
  memoryDemandBytes := .ofInt? vm.memoryDemandBytes
  secureBoot := .ofBool? vm.secureBoot
  secureBootTemplate := .ofOption vm.secureBootTemplate
  nestedVirtualization := vm.nestedVirtualization
  autoStartAction := .ofOption vm.autoStartAction
  autoStartDelaySec := .ofInt? vm.autoStartDelaySec
  autoStopAction := .ofOption vm.autoStopAction
  configPath := .ofOption vm.configPath
  dvdPath := .ofOption vm.dvdPath
  highlyAvailable := vm.highlyAvailable
  metricsEnabled := vm.metricsEnabled
  notes := .ofOption vm.notes
  vmCreatedAt := vm.createdAt.map Stamp.instant
  lastInventoryAt := some now
  disks := vm.disks.zipIdx.map fun e => e.1.row e.2
  nics := vm.nics.zipIdx.map fun e => e.1.row e.2
  snapshots := vm.snapshots.zipIdx.map fun e => e.1.row e.2

section Row

variable {vm : VmSpec} {raw : Dict} {now : Time} {host : Host} {id : String}

/-- The name of a described VM is written. -/
lemma writeName_normalized (h : vm.Canonical env) (row : Vm) :
    writeName false raw vm.normalized row = { row with name := .str vm.name } := by
  have hname : (vm.normalized.get "name").truthy = true := by
    show (Json.str vm.name).truthy = true
    simpa [Json.truthy] using h.name
  unfold writeName
  rw [hname]
  rfl

/-- So is its state. -/
lemma writeState_normalized (h : vm.Canonical env) (row : Vm) :
    writeState false raw vm.normalized row = { row with state := .str vm.state } := by
  have htrue : (Json.str vm.state).truthy = true := by simpa [Json.truthy] using h.state
  have hstate : (vm.normalized.get "state").orElse (.str "Unknown") = .str vm.state :=
    Json.orElse_of_truthy htrue
  show { row with state := (vm.normalized.get "state").orElse (.str "Unknown") } = _
  rw [hstate]

/-- So is its flag for metrics, from the raw item. -/
lemma writeMetricsEnabled_normalized
    (hmetrics : raw.get "metricsEnabled" = .bool vm.metricsEnabled) (row : Vm) :
    writeMetricsEnabled raw vm.normalized row =
      { row with metricsEnabled := vm.metricsEnabled } := by
  unfold writeMetricsEnabled
  rw [hmetrics]
  rfl

/-- So is its guest system, for a new row. -/
lemma writeGuestOs_normalized (h : vm.Canonical env) {row : Vm} (hfresh : row.guestOs = none) :
    writeGuestOs env vm.normalized row = { row with guestOs := vm.guestOs.map env.py.strip } := by
  have hitem : vm.normalized.get "guestOs" = .ofOption vm.guestOs := rfl
  unfold writeGuestOs
  rw [hitem]
  rcases hguest : vm.guestOs with _ | s
  · have hsame : row = { row with guestOs := none } := by rw [← hfresh]
    exact hsame
  · obtain ⟨hblank, hlength⟩ := h.guestOs s hguest
    have hwhole : String.ofList ((env.py.strip s).toList.take 255) = env.py.strip s := by
      rw [List.take_of_length_le (String.length_toList ▸ hlength), String.ofList_toList]
    have hnonempty : (env.py.strip s).isEmpty = false := by
      simpa [NonBlank] using hblank
    show (if (env.py.strip s).isEmpty then row
      else { row with guestOs := some (String.ofList ((env.py.strip s).toList.take 255)) }) = _
    rw [hnonempty, hwhole]
    rfl

/-- So is its firmware. -/
lemma writeFirmware_normalized (row : Vm) :
    writeFirmware false raw vm.normalized row = { row with firmware := .str vm.firmware.name } := by
  have hfirmware : (vm.normalized.get "firmware").truthy = true := by
    show (Json.str vm.firmware.name).truthy = true
    cases vm.firmware <;> rfl
  unfold writeFirmware
  rw [hfirmware]
  rfl

/-- So is the number of its processors. -/
lemma writeVcpu_normalized (h : vm.Canonical env) (row : Vm) :
    writeVcpu env false raw vm.normalized row = .ok { row with vcpu := vm.vcpu } := by
  have hvcpu : (vm.normalized.get "vcpu").truthy = true := by
    show (Json.int vm.vcpu).truthy = true
    have hpos := h.vcpu
    simp only [Json.truthy, bne_iff_ne, ne_eq]
    omega
  have hread : ((vm.normalized.get "vcpu").orElse (.int 1)).orElse (.int 1) = .int vm.vcpu := by
    rw [Json.orElse_of_truthy hvcpu, Json.orElse_of_truthy hvcpu]
    rfl
  show (env.py.int (((vm.normalized.get "vcpu").orElse (.int 1)).orElse (.int 1)) >>=
    fun vcpu => pure { row with vcpu := vcpu }) = _
  rw [hread]
  rfl

/-- So is the time of its creation, for a new row. -/
lemma writeCreatedAt_normalized (hiso : ReadsIso env.py) {row : Vm}
    (hfresh : row.vmCreatedAt = none) : writeCreatedAt env false raw vm.normalized row =
      { row with vmCreatedAt := vm.createdAt.map Stamp.instant } := by
  have hitem : vm.normalized.get "createdAt" = .ofOption (vm.createdAt.map Stamp.text) := rfl
  unfold writeCreatedAt
  rw [hitem, parseDt_stamp hiso]
  rcases vm.createdAt with _ | s
  · have hsame : row = { row with vmCreatedAt := none } := by rw [← hfresh]
    exact hsame
  · have htrue : (Json.ofOption ((some s).map Stamp.text)).truthy = true := truthy_stamp s
    rw [htrue]
    rfl

/-- So are its flags. -/
lemma writeFlags_normalized (row : Vm) :
    writeFlag false raw vm.normalized (fun vm b => { vm with highlyAvailable := b })
      "highlyAvailable" ["highlyAvailable", "ha"]
      (writeFlag false raw vm.normalized (fun vm b => { vm with nestedVirtualization := b })
        "nestedVirtualization" ["nestedVirtualization", "nested"]
        (writeFlag false raw vm.normalized (fun vm b => { vm with memoryDynamic := b })
          "memoryDynamic" ["memoryDynamic", "memory"] row)) =
      { row with
        memoryDynamic := vm.memoryDynamic
        nestedVirtualization := vm.nestedVirtualization
        highlyAvailable := vm.highlyAvailable } := rfl

/-- All scalar columns are written by a full item. -/
lemma writeVmScalars_full (item : Dict) (row : Vm) :
    writeVmScalars false raw item row =
      { row with
        uptimeSec := item.get "uptimeSec"
        memoryBytes := item.get "memoryBytes"
        memoryMinBytes := item.get "memoryMinBytes"
        memoryMaxBytes := item.get "memoryMaxBytes"
        memoryDemandBytes := item.get "memoryDemandBytes"
        cpuUsagePercent := item.get "cpuUsagePercent"
        secureBoot := item.get "secureBoot"
        secureBootTemplate := item.get "secureBootTemplate"
        autoStartAction := item.get "autoStartAction"
        autoStartDelaySec := item.get "autoStartDelaySec"
        autoStopAction := item.get "autoStopAction"
        configPath := item.get "configPath"
        dvdPath := item.get "dvdPath"
        notes := item.get "notes" } := by
  unfold writeVmScalars vmScalarFields reports
  simp only [Bool.not_false, Bool.true_or, if_true, List.foldl_cons, List.foldl_nil]

/-- So are its numbers. -/
lemma writeVmScalars_normalized (row : Vm) :
    writeVmScalars false raw vm.normalized row =
      { row with
        uptimeSec := .ofInt? vm.uptimeSec
        memoryBytes := .int (vm.memoryMib * mib)
        memoryMinBytes := .ofInt? vm.memoryMinBytes
        memoryMaxBytes := .ofInt? vm.memoryMaxBytes
        memoryDemandBytes := .ofInt? vm.memoryDemandBytes
        cpuUsagePercent := .ofFloat? (vm.cpuUsagePercent.map JsonNumber.value)
        secureBoot := .ofBool? vm.secureBoot
        secureBootTemplate := .ofOption vm.secureBootTemplate
        autoStartAction := .ofOption vm.autoStartAction
        autoStartDelaySec := .ofInt? vm.autoStartDelaySec
        autoStopAction := .ofOption vm.autoStopAction
        configPath := .ofOption vm.configPath
        dvdPath := .ofOption vm.dvdPath
        notes := .ofOption vm.notes } := by
  rw [writeVmScalars_full]
  simp [VmSpec.normalized]

/-- **The row of a canonical object.** -/
theorem writeVmRow_normalized (hiso : ReadsIso env.py) (h : vm.Canonical env)
    (hmetrics : raw.get "metricsEnabled" = .bool vm.metricsEnabled) :
    writeVmRow env now false raw vm.normalized host.id host.clusterId
      { id := id, vmUuid := some vm.id, hostId := host.id } = .ok (vm.row env now host id) := by
  have hdisks : syncDisks env (vm.normalized.get "disks") =
      .ok (vm.disks.zipIdx.map fun e => e.1.row e.2) := syncDisks_item h.disks
  have hnics : syncNics (vm.normalized.get "nics") =
      .ok (vm.nics.zipIdx.map fun e => e.1.row e.2) := syncNics_item h.nics
  have hsnapshots : syncSnapshots env (vm.normalized.get "snapshots") =
      .ok (vm.snapshots.zipIdx.map fun e => e.1.row e.2) := syncSnapshots_item hiso h.snapshots
  unfold writeVmRow
  dsimp only [Vm.setOwner]
  rw [writeName_normalized h]
  dsimp only
  rw [writeState_normalized h]
  dsimp only
  rw [writeMetricsEnabled_normalized hmetrics]
  dsimp only
  rw [writeGuestOs_normalized h rfl]
  dsimp only
  rw [writeFirmware_normalized, writeVcpu_normalized h, except_ok_bind]
  dsimp only
  rw [writeFlags_normalized]
  dsimp only
  rw [writeVmScalars_normalized]
  dsimp only
  rw [writeCreatedAt_normalized hiso rfl]
  dsimp only
  unfold writeDisks writeNics writeSnapshots
  rw [hdisks, hnics, hsnapshots]
  rfl

/-! ## What is served -/

/-- An optional integer is served. -/
lemma asOptional_ofInt? (coerce : Coercions) (o : Option ℤ) :
    Schema.asOptional (fun v => Schema.validated (coerce.int v)) (.ofInt? o) = .ok o := by
  cases o with
  | none => rfl
  | some n =>
    show (Schema.validated (coerce.int (.int n))).map some = _
    rw [coerce.int_int]
    rfl

/-- An optional float is served. -/
lemma asOptional_ofFloat? (coerce : Coercions) (o : Option PyFloat) :
    Schema.asOptional (fun v => Schema.validated (coerce.float v)) (.ofFloat? o) = .ok o := by
  cases o with
  | none => rfl
  | some x =>
    show (Schema.validated (coerce.float (.float x))).map some = _
    rw [coerce.float_float]
    rfl

/-- An optional boolean is served. -/
lemma asOptional_ofBool? (coerce : Coercions) (o : Option Bool) :
    Schema.asOptional (fun v => Schema.validated (coerce.bool v)) (.ofBool? o) = .ok o := by
  cases o with
  | none => rfl
  | some b =>
    show (Schema.validated (coerce.bool (.bool b))).map some = _
    rw [coerce.bool_bool]
    rfl

/-- The memory of a described VM is served. -/
lemma memoryOut_row (coerce : Coercions) :
    memoryOut coerce (vm.row env now host id) = .ok (vm.out env now host id).memory := by
  have hbytes : (Json.int (vm.memoryMib * mib)).orElse (.int 0) = .int (vm.memoryMib * mib) := by
    by_cases hzero : (vm.memoryMib * mib : ℤ) = 0
    · rw [hzero]
      rfl
    · exact Json.orElse_of_truthy (by simpa [Json.truthy] using hzero)
  unfold memoryOut VmSpec.row
  dsimp only
  rw [hbytes, coerce.int_int]
  simp only [asOptional_ofInt?, except_ok_bind]
  rfl

/-- **The row of a VM is served as the VM was described.** -/
theorem vmOut_row (coerce : Coercions) :
    vmOut coerce none none false (vm.row env now host id) = .ok (vm.out env now host id) := by
  have hfirmware : Schema.asStr ((Json.str vm.firmware.name).orElse (.str "UEFI")) =
      .ok vm.firmware.name := by
    cases vm.firmware <;> rfl
  have hdisks : (vm.disks.zipIdx.map fun e => e.1.row e.2).mapM diskOut =
      .ok (vm.disks.map DiskSpec.out) := mapM_rows_eq_ok fun d _ i => diskOut_row d i
  have hnics : (vm.nics.zipIdx.map fun e => e.1.row e.2).mapM nicOut =
      .ok (vm.nics.map NicSpec.out) := mapM_rows_eq_ok fun n _ i => nicOut_row n i
  have hsnapshots : (vm.snapshots.zipIdx.map fun e => e.1.row e.2).mapM snapshotOut =
      .ok (vm.snapshots.map SnapshotSpec.out) :=
    mapM_rows_eq_ok fun s _ i => snapshotOut_row s i
  unfold vmOut
  rw [memoryOut_row coerce]
  unfold VmSpec.row
  dsimp only
  rw [hfirmware, hdisks, hnics, hsnapshots]
  simp only [asOptional_ofInt?, asOptional_ofFloat?, asOptional_ofBool?, asOptional_ofOption,
    except_ok_bind, List.mergeSort_nil]
  rfl

/-- An item that has the canonical object of a VM is served as the VM was described. -/
lemma servedFresh_of_normalized (coerce : Coercions) (hiso : ReadsIso env.py) (h : vm.Canonical env)
    (hitem : popThumbnail env raw = (none, raw)) (hnormal : normalizeVm env raw = .ok vm.normalized)
    (hmetrics : raw.get "metricsEnabled" = .bool vm.metricsEnabled) :
    servedFresh env coerce now host id (.obj raw) = .ok (some (vm.out env now host id)) := by
  have hid : (vm.normalized.get "vmUuid").truthy = true := by
    show (Json.str vm.id).truthy = true
    simpa [Json.truthy] using h.id
  have hkey : itemKey (vm.normalized.get "vmUuid") = .ok (.guid vm.id) := by
    unfold itemKey
    rw [hid]
    rfl
  have hparse : parseItem env (.obj raw) = .ok (none, raw, vm.normalized, .guid vm.id) := by
    show (normalizeVm env (popThumbnail env raw).2 >>= fun item =>
      itemKey (item.get "vmUuid") >>= fun key =>
        pure ((popThumbnail env raw).1, (popThumbnail env raw).2, item, key)) = _
    rw [hitem, hnormal, except_ok_bind, hkey]
    rfl
  have hfresh : freshRow env now host id (.obj raw) = .ok (some (vm.row env now host id)) := by
    unfold freshRow
    rw [hparse, except_ok_bind]
    dsimp only
    rw [writeVmRow_normalized hiso h hmetrics]
    rfl
  unfold servedFresh
  rw [hfresh, except_ok_bind]
  dsimp only
  rw [vmOut_row]
  rfl

/-- **A VM of the grammar is served as it was described**, whichever way it is spelled. -/
theorem servedFresh_eq (hupper : KeepsCapitals env.py) (hiso : ReadsIso env.py)
    (h : vm.Canonical env) (coerce : Coercions) (now : Time) (host : Host) (id : String) :
    servedFresh env coerce now host id (.obj vm.item) = .ok (some (vm.out env now host id)) ∧
      ∀ spelling : AgentSpelling env,
        servedFresh env coerce now host id (.obj (vm.agentItem spelling)) =
          .ok (some (vm.out env now host id)) :=
  ⟨servedFresh_of_normalized coerce hiso h rfl (normalizeVm_item hupper h) rfl, fun _ =>
    servedFresh_of_normalized coerce hiso h rfl (normalizeVm_agentItem hupper h) rfl⟩

end Row

/-- Settings whose `datetime.fromisoformat` reads the texts that `isoformat` writes. -/
def Demo.dated : Env :=
  { settings with
    py := { py with fromisoformat := fun s => (Datetime.read s.toList).map Datetime.instant } }

/-- The example's upper case keeps capitals. -/
lemma Demo.dated_keepsCapitals : KeepsCapitals Demo.dated.py := Demo.keepsCapitals

/-- The example's parser reads what `isoformat` writes. -/
lemma Demo.dated_readsIso : ReadsIso Demo.dated.py := by
  intro d _
  have hread : Demo.dated.py.fromisoformat =
      fun s => (Datetime.read s.toList).map Datetime.instant := rfl
  rw [hread]
  dsimp only
  rw [String.toList_ofList, d.read_isoformat, Option.map_some]

/-- A timestamp in UTC, with the offset written `Z`. -/
def Demo.createdTime : Stamp where
  datetime :=
    { year := 2025, month := 11, day := 2, hour := 9, minute := 12, second := 0
      microsecond := 0, utcoffset := some 0, valid := by decide }
  zulu := true
  aware := rfl

/-- A timestamp two hours ahead of UTC. -/
def Demo.snapshotTime : Stamp where
  datetime :=
    { year := 2025, month := 11, day := 3, hour := 18, minute := 30, second := 5
      microsecond := 250000, utcoffset := some (seconds 7200), valid := by decide }
  zulu := false
  aware := rfl

/-- A VM with a disk, an adapter with two addresses and a snapshot. -/
def Demo.described : VmSpec where
  id := "g"
  name := "vm"
  state := "Running"
  firmware := .bios
  guestOs := some " Linux "
  uptimeSec := some 5
  vcpu := 2
  cpuUsagePercent := some (.whole 5)
  metricsEnabled := true
  memoryMib := 512
  memoryMinBytes := none
  memoryMaxBytes := some 1
  memoryDynamic := true
  memoryDemandMib := some 3
  secureBoot := some false
  secureBootTemplate := some "Windows"
  nestedVirtualization := false
  autoStartAction := some "Nothing"
  autoStartDelaySec := some 0
  autoStopAction := none
  configPath := some "D:"
  dvdPath := none
  highlyAvailable := true
  disks := [⟨"", "D:", "SCSI", 4, some 1, "Dynamic", "VHDX"⟩]
  nics := [⟨"n", "net", "lan", some 0, "00", ["10.0.0.1", "::1"], true⟩]
  snapshots := [⟨"s", "before", none, some "Standard", some Demo.snapshotTime⟩]
  notes := none
  createdAt := some Demo.createdTime

/-- A current agent that writes a comma between addresses. -/
def Demo.comma : AgentSpelling Demo.dated where
  legacy := false
  separator := ","
  nonempty := by decide
  separates := List.all_eq_true.mp (by decide : ",".toList.all Demo.dated.py.isListSep = true)

/-- The example description is canonical. -/
lemma Demo.described_canonical : Demo.described.Canonical Demo.dated where
  id := by decide
  name := by decide
  state := by decide
  guestOs s hs := by
    obtain rfl := Option.some.inj hs
    exact ⟨by unfold NonBlank; decide +kernel, by decide +kernel⟩
  vcpu := by decide
  cpuUsagePercent n hn := by
    cases hn
    norm_num [Exact]
  memoryBytes := by norm_num [Exact, Demo.described, mib]
  memoryMinBytes n hn := nomatch hn
  memoryMaxBytes n hn := by
    obtain rfl := Option.some.inj hn
    norm_num [Exact]
  memoryDemandBytes n hn := by
    obtain rfl := Option.some.inj hn
    norm_num [Exact, mib]
  secureBootTemplate s hs := by
    obtain rfl := Option.some.inj hs
    unfold NonBlank
    decide +kernel
  autoStartDelaySec n hn := by
    obtain rfl := Option.some.inj hn
    norm_num [Exact]
  disks d hd := by
    obtain rfl := List.mem_singleton.mp hd
    refine ⟨by norm_num [Exact, gib], fun n hn => ?_, by decide +kernel⟩
    obtain rfl := Option.some.inj hn
    norm_num [Exact]
  nics n hn := by
    obtain rfl := List.mem_singleton.mp hn
    have hall : ["10.0.0.1", "::1"].all (fun ip =>
        decide (ip ≠ "") && ip.toList.all fun c => !Demo.dated.py.isListSep c) = true := by
      decide +kernel
    refine ⟨fun v hv => ?_, fun ip hip => ?_⟩
    · obtain rfl := Option.some.inj hv
      exact le_rfl
    · have haddress := List.all_eq_true.mp hall ip hip
      simp only [Bool.and_eq_true, decide_eq_true_eq, List.all_eq_true, Bool.not_eq_true'] at haddress
      exact haddress
  snapshots s hs := by
    obtain rfl := List.mem_singleton.mp hs
    refine ⟨fun p hp => (nomatch hp), fun t ht => ?_⟩
    obtain rfl := Option.some.inj ht
    unfold NonBlank
    decide +kernel

/-- The example with its times, in both spellings, is served as described. -/
theorem servedFresh_eq_described :
    servedFresh Demo.dated Demo.coerce 0 Demo.host "v" (.obj Demo.described.item) =
        .ok (some (Demo.described.out Demo.dated 0 Demo.host "v")) ∧
      servedFresh Demo.dated Demo.coerce 0 Demo.host "v"
        (.obj (Demo.described.agentItem Demo.comma)) =
          .ok (some (Demo.described.out Demo.dated 0 Demo.host "v")) := by
  obtain ⟨hcanonical, hagent⟩ := servedFresh_eq Demo.dated_keepsCapitals Demo.dated_readsIso
    Demo.described_canonical Demo.coerce 0 Demo.host "v"
  exact ⟨hcanonical, hagent Demo.comma⟩

end OpenVCenter
