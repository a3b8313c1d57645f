import OpenVCenter.Datetime
import OpenVCenter.Idempotence
import OpenVCenter.Serializers
import OpenVCenter.VmInventory

set_option relaxedAutoImplicit false
set_option autoImplicit false

/-!
# Two spellings of a VM

The contract describes a VM in a canonical grammar, and the agent spells the same VM in flatter
keys. Both spellings have one canonical object.

## Main definitions

* `OpenVCenter.Stamp` — a timestamp of the contract, with `OpenVCenter.ReadsIso`, what is documented
  of the reading of one.
* `OpenVCenter.VmSpec`, `OpenVCenter.VmSpec.Canonical` — a VM of the contract's grammar.
* `OpenVCenter.VmSpec.item` — its canonical spelling.
* `OpenVCenter.AgentSpelling`, `OpenVCenter.VmSpec.agentItem` — the spellings of the agent.
* `OpenVCenter.VmSpec.normalized` — its canonical object.

## Main results

* `OpenVCenter.normalizeVm_item`, `OpenVCenter.normalizeVm_agentItem` — both spellings have the
  same canonical object.
-/

namespace OpenVCenter

open Binary64 (Representable)

/-! ## Descriptions -/

/-- The firmware of a VM. -/
inductive Firmware where
  | bios
  | uefi

/-- Its name. -/
def Firmware.name : Firmware → String
  | .bios => "BIOS"
  | .uefi => "UEFI"

/-- The generation of a legacy agent. -/
def Firmware.generation : Firmware → ℤ
  | .bios => 1
  | .uefi => 2

/-- A number of a JSON text: whole, or with a fraction. -/
inductive JsonNumber where
  | whole (n : ℤ)
  | double (x : PyFloat)

/-- Its value. -/
def JsonNumber.json : JsonNumber → Json
  | .whole n => .int n
  | .double x => .float x

/-- The double it is read as. -/
def JsonNumber.value : JsonNumber → PyFloat
  | .whole n => .ofRat n
  | .double x => x

/-- A timestamp of the contract: ISO 8601 with an offset, which may be written `Z` where it is
zero. -/
structure Stamp where
  datetime : Datetime
  zulu : Bool
  aware : datetime.utcoffset.isSome = true

/-- The instant it names. -/
def Stamp.instant (s : Stamp) : Time := s.datetime.instant

/-- A timestamp without its offset. -/
def Datetime.naive (d : Datetime) : Datetime :=
  { d with
    utcoffset := none
    valid := ⟨d.valid.year_mem, d.valid.month_mem, d.valid.day_mem, d.valid.hour_lt,
      d.valid.minute_lt, d.valid.second_lt, d.valid.microsecond_lt, nofun⟩ }

/-- Its text. -/
def Stamp.text (s : Stamp) : String :=
  String.ofList <|
    if s.zulu = true ∧ s.datetime.utcoffset = some 0 then s.datetime.naive.isoformat ++ ['Z']
    else s.datetime.isoformat

/-- What is documented of `datetime.fromisoformat`: it reads what `isoformat` writes, here of an
aware timestamp. -/
def ReadsIso (py : PyStd) : Prop :=
  ∀ d : Datetime, d.utcoffset.isSome = true →
    py.fromisoformat (String.ofList d.isoformat) = some d.instant

/-- A disk; its size is a multiple of a gibibyte. -/
structure DiskSpec where
  id : String
  path : String
  controller : String
  sizeGib : ℕ
  usedBytes : Option ℤ
  type : String
  format : String

/-- A network adapter. -/
structure NicSpec where
  id : String
  name : String
  switchName : String
  vlanId : Option ℤ
  macAddress : String
  ipAddresses : List String
  connected : Bool

/-- A snapshot. -/
structure SnapshotSpec where
  id : String
  name : String
  parentId : Option String
  type : Option String
  createdAt : Option Stamp

/-- A VM; its memory and its demand are multiples of a mebibyte. -/
structure VmSpec where
  id : String
  name : String
  state : String
  firmware : Firmware
  guestOs : Option String
  uptimeSec : Option ℤ
  vcpu : ℤ
  cpuUsagePercent : Option JsonNumber
  metricsEnabled : Bool
  memoryMib : ℕ
  memoryMinBytes : Option ℤ
  memoryMaxBytes : Option ℤ
  memoryDynamic : Bool
  memoryDemandMib : Option ℕ
  secureBoot : Option Bool
  secureBootTemplate : Option String
  nestedVirtualization : Bool
  autoStartAction : Option String
  autoStartDelaySec : Option ℤ
  autoStopAction : Option String
  configPath : Option String
  dvdPath : Option String
  highlyAvailable : Bool
  disks : List DiskSpec
  nics : List NicSpec
  snapshots : List SnapshotSpec
  notes : Option String
  createdAt : Option Stamp

/-! ## The grammar -/

variable (env : Env)

/-- The integer is one of those every double below `2⁵³` is. -/
def Exact (n : ℤ) : Prop := |n| < 2 ^ 53

/-- The string is not blank. -/
def NonBlank (s : String) : Prop := env.py.strip s ≠ ""

/-- The disk is of the grammar. -/
structure DiskSpec.Canonical (d : DiskSpec) : Prop where
  sizeBytes : Exact (d.sizeGib * gib)
  usedBytes : ∀ n ∈ d.usedBytes, Exact n
  format : env.py.upper d.format = d.format

/-- The adapter is of the grammar. -/
structure NicSpec.Canonical (n : NicSpec) : Prop where
  vlanId : ∀ v ∈ n.vlanId, 0 ≤ v
  ipAddresses : ∀ ip ∈ n.ipAddresses, ip ≠ "" ∧ ∀ c ∈ ip.toList, env.py.isListSep c = false

/-- The snapshot is of the grammar. -/
structure SnapshotSpec.Canonical (s : SnapshotSpec) : Prop where
  parentId : ∀ p ∈ s.parentId, NonBlank env p
  type : ∀ t ∈ s.type, NonBlank env t

/-- The VM is of the grammar. -/
structure VmSpec.Canonical (vm : VmSpec) : Prop where
  id : vm.id ≠ ""
  name : vm.name ≠ ""
  state : vm.state ≠ ""
  guestOs : ∀ s ∈ vm.guestOs, NonBlank env s ∧ (env.py.strip s).length ≤ 255
  vcpu : 1 ≤ vm.vcpu
  cpuUsagePercent : ∀ n, vm.cpuUsagePercent = some (.whole n) → Exact n
  memoryBytes : Exact (vm.memoryMib * mib)
  memoryMinBytes : ∀ n ∈ vm.memoryMinBytes, 0 < n ∧ Exact n
  memoryMaxBytes : ∀ n ∈ vm.memoryMaxBytes, 0 < n ∧ Exact n
  memoryDemandBytes : ∀ n ∈ vm.memoryDemandMib, Exact (n * mib)
  secureBootTemplate : ∀ s ∈ vm.secureBootTemplate, NonBlank env s
  autoStartDelaySec : ∀ n ∈ vm.autoStartDelaySec, Exact n
  disks : ∀ d ∈ vm.disks, d.Canonical env
  nics : ∀ n ∈ vm.nics, n.Canonical env
  snapshots : ∀ s ∈ vm.snapshots, s.Canonical env

/-! ## The canonical spelling -/

/-- None or a flag, as a Python value. -/
def Json.ofBool? : Option Bool → Json
  | some b => .bool b
  | none => .null

/-- None or a number, as a Python value. -/
def Json.ofNumber? : Option JsonNumber → Json
  | some n => n.json
  | none => .null

/-- A disk in the canonical spelling. -/
def DiskSpec.item (d : DiskSpec) : Dict := [
  ("id", .str d.id), ("path", .str d.path), ("controller", .str d.controller),
  ("sizeBytes", .int (d.sizeGib * gib)), ("usedBytes", .ofInt? d.usedBytes),
  ("type", .str d.type), ("format", .str d.format)]

/-- An adapter in the canonical spelling. -/
def NicSpec.item (n : NicSpec) : Dict := [
  ("id", .str n.id), ("name", .str n.name), ("switchName", .str n.switchName),
  ("vlanId", .ofInt? n.vlanId), ("macAddress", .str n.macAddress),
  ("ipAddresses", .arr (n.ipAddresses.map .str)), ("connected", .bool n.connected)]

/-- A snapshot in the canonical spelling. -/
def SnapshotSpec.item (s : SnapshotSpec) : Dict := [
  ("id", .str s.id), ("name", .str s.name), ("parentId", .ofOption s.parentId),
  ("type", .ofOption s.type), ("createdAt", .ofOption (s.createdAt.map Stamp.text))]

/-- The memory demand in bytes. -/
def VmSpec.memoryDemandBytes (vm : VmSpec) : Option ℤ :=
  vm.memoryDemandMib.map fun n : ℕ => (n * mib : ℤ)

/-- A VM in the canonical spelling. -/
def VmSpec.item (vm : VmSpec) : Dict := [
  ("id", .str vm.id),
  ("name", .str vm.name),
  ("state", .str vm.state),
  ("firmware", .str vm.firmware.name),
  ("guestOs", .ofOption vm.guestOs),
  ("uptimeSec", .ofInt? vm.uptimeSec),
  ("vcpu", .int vm.vcpu),
  ("cpuUsagePercent", .ofNumber? vm.cpuUsagePercent),
  ("metricsEnabled", .bool vm.metricsEnabled),
  ("memoryBytes", .int (vm.memoryMib * mib)),
  ("memoryMinBytes", .ofInt? vm.memoryMinBytes),
  ("memoryMaxBytes", .ofInt? vm.memoryMaxBytes),
  ("memoryDynamic", .bool vm.memoryDynamic),
  ("memoryDemandBytes", .ofInt? vm.memoryDemandBytes),
  ("secureBoot", .ofBool? vm.secureBoot),
  ("secureBootTemplate", .ofOption vm.secureBootTemplate),
  ("nestedVirtualization", .bool vm.nestedVirtualization),
  ("autoStartAction", .ofOption vm.autoStartAction),
  ("autoStartDelaySec", .ofInt? vm.autoStartDelaySec),
  ("autoStopAction", .ofOption vm.autoStopAction),
  ("configPath", .ofOption vm.configPath),
  ("dvdPath", .ofOption vm.dvdPath),
  ("highlyAvailable", .bool vm.highlyAvailable),
  ("disks", .arr (vm.disks.map fun d => .obj d.item)),
  ("nics", .arr (vm.nics.map fun n => .obj n.item)),
  ("snapshots", .arr (vm.snapshots.map fun s => .obj s.item)),
  ("notes", .ofOption vm.notes),
  ("createdAt", .ofOption (vm.createdAt.map Stamp.text))]

/-! ## The agent's spelling -/

/-- What the agent is free in: a legacy agent sends a generation, and the addresses may be
separated by a comma, by blanks, or both. -/
structure AgentSpelling where
  legacy : Bool
  separator : String
  nonempty : separator ≠ ""
  separates : ∀ c ∈ separator.toList, env.py.isListSep c = true

variable {env}

/-- A disk in the agent's spelling. -/
def DiskSpec.agentItem (d : DiskSpec) : Dict := [
  ("diskId", .str d.id), ("path", .str d.path), ("controller", .str d.controller),
  ("format", .str d.format), ("type", .str d.type), ("sizeGb", .int d.sizeGib),
  ("usedBytes", .ofInt? d.usedBytes)]

/-- An adapter in the agent's spelling. -/
def NicSpec.agentItem (spelling : AgentSpelling env) (n : NicSpec) : Dict := [
  ("id", .str n.id), ("name", .str n.name), ("networkId", .str n.switchName),
  ("vlanId", .ofInt? n.vlanId), ("macAddress", .str n.macAddress),
  ("ipAddresses", .str (spelling.separator.intercalate n.ipAddresses)),
  ("connected", .bool n.connected)]

/-- A snapshot in the agent's spelling. -/
def SnapshotSpec.agentItem (s : SnapshotSpec) : Dict := [
  ("id", .str s.id), ("name", .str s.name), ("creationTime", .ofOption (s.createdAt.map Stamp.text)),
  ("snapshotType", .ofOption s.type), ("parentSnapshotId", .ofOption s.parentId)]

/-- A VM in the agent's spelling. -/
def VmSpec.agentItem (spelling : AgentSpelling env) (vm : VmSpec) : Dict := [
  ("id", .str vm.id),
  ("name", .str vm.name),
  ("state", .str vm.state),
  ("firmware", if spelling.legacy then .null else .str vm.firmware.name),
  ("generation", if spelling.legacy then .int vm.firmware.generation else .null),
  ("guestOs", .ofOption vm.guestOs),
  ("uptimeSec", .ofInt? vm.uptimeSec),
  ("cpu", .obj [("vcpus", .int vm.vcpu)]),
  ("cpuUsagePct", .ofNumber? vm.cpuUsagePercent),
  ("metricsEnabled", .bool vm.metricsEnabled),
  ("memoryMb", .int vm.memoryMib),
  ("memoryMinBytes", .ofInt? vm.memoryMinBytes),
  ("memoryMaxBytes", .ofInt? vm.memoryMaxBytes),
  ("memoryDynamic", .bool vm.memoryDynamic),
  ("memoryConsumedMb", .ofInt? (vm.memoryDemandMib.map Int.ofNat)),
  ("secureBoot", .ofBool? vm.secureBoot),
  ("secureBootTemplate", .ofOption vm.secureBootTemplate),
  ("nested", .bool vm.nestedVirtualization),
  ("automaticStart", .ofOption vm.autoStartAction),
  ("automaticStartDelay", .ofInt? vm.autoStartDelaySec),
  ("automaticStop", .ofOption vm.autoStopAction),
  ("path", .ofOption vm.configPath),
  ("dvd", .ofOption vm.dvdPath),
  ("ha", .bool vm.highlyAvailable),
  ("vhds", .arr (vm.disks.map fun d => .obj d.agentItem)),
  ("nics", .arr (vm.nics.map fun n => .obj (n.agentItem spelling))),
  ("snapshots", .arr (vm.snapshots.map fun s => .obj s.agentItem)),
  ("notes", .ofOption vm.notes),
  ("creationTime", .ofOption (vm.createdAt.map Stamp.text))]

/-! ## The canonical object -/

/-- The numbers and the lists of the canonical object. -/
def VmSpec.parts (vm : VmSpec) : VmParts where
  memoryBytes := some (vm.memoryMib * mib)
  memoryMinBytes := vm.memoryMinBytes
  memoryMaxBytes := vm.memoryMaxBytes
  memoryDemandBytes := vm.memoryDemandBytes
  cpuUsagePercent := vm.cpuUsagePercent.map JsonNumber.value
  autoStartDelaySec := vm.autoStartDelaySec
  disks := .arr (vm.disks.map fun d => .obj d.item)
  nics := .arr (vm.nics.map fun n => .obj n.item)
  snapshots := .arr (vm.snapshots.map fun s => .obj s.item)

/-- The canonical object of a VM. -/
def VmSpec.normalized (vm : VmSpec) : Dict := [
  ("vmUuid", .str vm.id),
  ("name", .str vm.name),
  ("state", .str vm.state),
  ("metricsEnabled", .bool vm.metricsEnabled),
  ("firmware", .str vm.firmware.name),
  ("guestOs", .ofOption vm.guestOs),
  ("uptimeSec", .ofInt? vm.uptimeSec),
  ("vcpu", .int vm.vcpu),
  ("memoryBytes", .int (vm.memoryMib * mib)),
  ("memoryMinBytes", .ofInt? vm.memoryMinBytes),
  ("memoryMaxBytes", .ofInt? vm.memoryMaxBytes),
  ("memoryDynamic", .bool vm.memoryDynamic),
  ("memoryDemandBytes", .ofInt? vm.memoryDemandBytes),
  ("cpuUsagePercent", .ofFloat? (vm.cpuUsagePercent.map JsonNumber.value)),
  ("secureBoot", .ofBool? vm.secureBoot),
  ("secureBootTemplate", .ofOption vm.secureBootTemplate),
  ("nestedVirtualization", .bool vm.nestedVirtualization),
  ("autoStartAction", .ofOption vm.autoStartAction),
  ("autoStartDelaySec", .ofInt? vm.autoStartDelaySec),
  ("autoStopAction", .ofOption vm.autoStopAction),
  ("configPath", .ofOption vm.configPath),
  ("dvdPath", .ofOption vm.dvdPath),
  ("highlyAvailable", .bool vm.highlyAvailable),
  ("disks", .arr (vm.disks.map fun d => .obj d.item)),
  ("nics", .arr (vm.nics.map fun n => .obj n.item)),
  ("snapshots", .arr (vm.snapshots.map fun s => .obj s.item)),
  ("notes", .ofOption vm.notes),
  ("createdAt", .ofOption (vm.createdAt.map Stamp.text))]

/-! ## Values that are read back -/

section Values

variable {n : ℤ}

/-- An exact integer is representable. -/
lemma Exact.representable (h : Exact n) : Representable n :=
  Binary64.representable_intCast (le_of_lt h)

/-- So is a smaller one. -/
lemma exact_of_le {m : ℤ} (h : Exact n) (hm : |m| ≤ |n|) : Exact m := hm.trans_lt h

/-- A text that is not blank is true. -/
lemma truthy_of_nonBlank {s : String} (h : NonBlank env s) : (Json.str s).truthy = true := by
  have hne : s ≠ "" := by
    rintro rfl
    exact h rfl
  simpa [Json.truthy] using hne

/-- An optional text that is not blank is kept by `or`. -/
lemma ofOption_orElse {o : Option String} (h : ∀ s ∈ o, NonBlank env s) :
    (Json.ofOption o).orElse .null = .ofOption o := by
  cases o with
  | none => rfl
  | some s => exact Json.orElse_of_truthy (truthy_of_nonBlank (h s rfl))

/-- The text of a timestamp is not empty. -/
lemma truthy_stamp (s : Stamp) : (Json.str s.text).truthy = true := by
  have hyear : ∀ d : Datetime, d.isoformat ≠ [] := by
    intro d hnil
    simp [Datetime.isoformat] at hnil
  have hne : s.text ≠ "" := by
    unfold Stamp.text
    intro hempty
    have hnil := congrArg String.toList hempty
    rw [String.toList_ofList] at hnil
    split_ifs at hnil
    · exact List.append_ne_nil_of_right_ne_nil _ (List.cons_ne_nil _ _) hnil
    · exact hyear _ hnil
  simpa [Json.truthy] using hne

/-- An optional timestamp is kept by `or`. -/
lemma stamp_orElse (o : Option Stamp) :
    (Json.ofOption (o.map Stamp.text)).orElse .null = .ofOption (o.map Stamp.text) := by
  cases o with
  | none => rfl
  | some s => exact Json.orElse_of_truthy (truthy_stamp s)

/-- A text, possibly empty, is kept by `or ""`. -/
lemma str_orElse (s : String) : (Json.str s).orElse (.str "") = .str s := by
  by_cases h : s = ""
  · subst h
    rfl
  · exact Json.orElse_of_truthy (by simpa [Json.truthy] using h)

/-- A text, possibly empty, is kept by `or None or ""`. -/
lemma str_orElse_null (s : String) : ((Json.str s).orElse .null).orElse (.str "") = .str s := by
  by_cases h : s = ""
  · subst h
    rfl
  · have htrue : (Json.str s).truthy = true := by simpa [Json.truthy] using h
    rw [Json.orElse_of_truthy htrue, Json.orElse_of_truthy htrue]

/-- A positive number is kept by `or`. -/
lemma ofInt?_orElse {o : Option ℤ} (h : ∀ n ∈ o, 0 < n) :
    (Json.ofInt? o).orElse .null = .ofInt? o := by
  cases o with
  | none => rfl
  | some n =>
    have hn : (Json.int n).truthy = true := by simpa [Json.truthy] using (h n rfl).ne'
    exact Json.orElse_of_truthy hn

/-- The product of a small number with a power of two is exact. -/
lemma scale_toIntRound {c : ℕ} (hn : Exact n) (h : Exact (n * c)) :
    (PyFloat.scale c (.fin ⟨n, hn.representable⟩)).toIntRound = .ok (n * c) := by
  have hcast : (n : ℚ) * (c : ℕ) = ((n * c : ℤ) : ℚ) := by push_cast; ring
  rw [PyFloat.scale_fin, hcast, PyFloat.ofRat_of_representable h.representable]
  exact congrArg Except.ok (Binary64.roundHalfEven_intCast (n * c))

/-- A whole number of mebibytes is converted exactly. -/
lemma mibToBytes_int (h : Exact (n * mib)) : mibToBytes env (.int n) = .ok (some (n * mib)) := by
  have hsmall : Exact n := exact_of_le h (by
    rw [abs_mul]
    exact le_mul_of_one_le_right (abs_nonneg n) (by decide))
  show noneOnTypeOrValueError (env.py.float (.int n) >>= fun x => (x.scale mib).toIntRound) = _
  rw [float_int_of_representable hsmall.representable, Effect.except_ok_bind,
    scale_toIntRound hsmall h]
  rfl

end Values

/-! ## The children -/

section Children

variable {spelling : AgentSpelling env}

/-- The objects of a list of objects. -/
lemma dictsOf_map {α : Type} (f : α → Dict) (l : List α) :
    dictsOf (l.map fun a => .obj (f a)) = l.map f := by
  rw [dictsOf, List.filterMap_map, ← List.filterMap_eq_map]
  rfl

/-- A disk size in gibibytes is converted exactly, and the disk is spelled out. -/
lemma normalizeVhd_agentItem {d : DiskSpec} (h : d.Canonical env) :
    normalizeVhd env d.agentItem = .ok (.obj d.item) := by
  have hsmall : Exact (d.sizeGib : ℤ) := exact_of_le h.sizeBytes (by
    rw [abs_mul]
    exact le_mul_of_one_le_right (abs_nonneg _) (by decide))
  have hread : (d.agentItem.get "sizeGb").orElse (.int 0) = .int d.sizeGib := by
    show (Json.int d.sizeGib).orElse (.int 0) = .int d.sizeGib
    by_cases hzero : (d.sizeGib : ℤ) = 0
    · rw [hzero]
      rfl
    · exact Json.orElse_of_truthy (by simpa [Json.truthy] using hzero)
  have hused : asInt env (d.agentItem.get "usedBytes") = .ok d.usedBytes :=
    asInt_ofInt? fun n hn => (h.usedBytes n hn).representable
  have hid : ((d.agentItem.get "diskId").orElse (d.agentItem.get "id")).orElse (.str "") =
      .str d.id := str_orElse_null d.id
  have htype : (d.agentItem.get "type").orElse (.str "") = .str d.type := str_orElse d.type
  have hformat : upperOf env ((d.agentItem.get "format").orElse (.str "")) = .ok (.str d.format) := by
    show upperOf env ((Json.str d.format).orElse (.str "")) = _
    rw [str_orElse, upperOf, h.format]
  unfold normalizeVhd
  rw [hread, float_int_of_representable hsmall.representable, Effect.except_ok_bind,
    scale_toIntRound hsmall h.sizeBytes, Effect.except_ok_bind, hused, Effect.except_ok_bind,
    hformat, Effect.except_ok_bind, hid, htype]
  rfl

/-- The addresses are read back from the text between whose separators they stand. -/
lemma splitIps_intercalate {n : NicSpec} (h : n.Canonical env) :
    splitIps env (.str (spelling.separator.intercalate n.ipAddresses)) =
      n.ipAddresses.map .str := by
  have hwords : Separated.words env.py.isListSep
      (spelling.separator.toList.intercalate (n.ipAddresses.map String.toList)) =
        n.ipAddresses.map String.toList := by
    refine Separated.words_intercalate ?_ spelling.separates fun w hw => ?_
    · simpa using spelling.nonempty
    · obtain ⟨ip, hip, rfl⟩ := List.mem_map.mp hw
      obtain ⟨hne, hplain⟩ := h.ipAddresses ip hip
      exact ⟨by simpa using hne, hplain⟩
  show (env.py.splitList (spelling.separator.intercalate n.ipAddresses)).map Json.str = _
  rw [PyStd.splitList_eq, String.toList_intercalate, hwords, List.map_map, List.map_map]
  exact List.map_congr_left fun ip _ => congrArg Json.str String.ofList_toList

/-- An adapter in the agent's spelling is spelled out. -/
lemma normalizeNic_agentItem {n : NicSpec} (h : n.Canonical env) :
    normalizeNic env (n.agentItem spelling) = .obj n.item := by
  have hswitch : (((n.agentItem spelling).get "switchName").orElse
      ((n.agentItem spelling).get "networkId")).orElse (.str "") = .str n.switchName :=
    str_orElse n.switchName
  have hips : splitIps env ((n.agentItem spelling).get "ipAddresses") = n.ipAddresses.map .str :=
    splitIps_intercalate h
  unfold normalizeNic
  rw [hswitch, hips]
  rfl

/-- A snapshot in the canonical spelling stays. -/
lemma normalizeSnapshot_item {s : SnapshotSpec} (h : s.Canonical env) :
    normalizeSnapshot s.item = .obj s.item := by
  show Json.obj [("id", ((Json.str s.id).orElse .null).orElse (.str "")), ("name", .str s.name),
    ("parentId", (Json.ofOption s.parentId).orElse .null),
    ("type", ((Json.ofOption s.type).orElse .null).orElse .null),
    ("createdAt", (Json.ofOption (s.createdAt.map Stamp.text)).orElse .null)] = .obj s.item
  rw [str_orElse_null, ofOption_orElse h.parentId, ofOption_orElse h.type, ofOption_orElse h.type,
    stamp_orElse s.createdAt]
  rfl

/-- A snapshot in the agent's spelling is spelled out. -/
lemma normalizeSnapshot_agentItem {s : SnapshotSpec} (h : s.Canonical env) :
    normalizeSnapshot s.agentItem = .obj s.item := by
  show Json.obj [("id", ((Json.str s.id).orElse .null).orElse (.str "")), ("name", .str s.name),
    ("parentId", Json.ofOption s.parentId),
    ("type", (Json.ofOption s.type).orElse .null),
    ("createdAt", Json.ofOption (s.createdAt.map Stamp.text))] = .obj s.item
  rw [str_orElse_null, ofOption_orElse h.type]
  rfl

/-- The adapters in the canonical spelling stay. -/
lemma normalizeNics_of_item {item : Dict} {nics : List NicSpec}
    (hitem : item.get "nics" = .arr (nics.map fun n => .obj n.item)) :
    normalizeNics env item = .ok (.arr (nics.map fun n => .obj n.item)) := by
  unfold normalizeNics
  rw [hitem]
  cases nics with
  | nil => rfl
  | cons n nics => rfl

/-- The adapters in the agent's spelling are spelled out. -/
lemma normalizeNics_of_agentItem {item : Dict} {nics : List NicSpec}
    (hitem : item.get "nics" = .arr (nics.map fun n => .obj (n.agentItem spelling)))
    (h : ∀ n ∈ nics, n.Canonical env) :
    normalizeNics env item = .ok (.arr (nics.map fun n => .obj n.item)) := by
  unfold normalizeNics
  rw [hitem]
  cases nics with
  | nil => rfl
  | cons n nics =>
    show Except.ok (Json.arr ((dictsOf ((n :: nics).map fun n =>
      .obj (n.agentItem spelling))).map (normalizeNic env))) = _
    rw [dictsOf_map, List.map_map]
    refine congrArg (fun l => Except.ok (Json.arr l)) (List.map_congr_left fun n hn => ?_)
    exact normalizeNic_agentItem (h n hn)

/-- The snapshots of either spelling are spelled out. -/
lemma normalizeSnapshots_of {item : Dict} {snapshots : List SnapshotSpec}
    {spell : SnapshotSpec → Dict} (hitem : item.get "snapshots" =
      .arr (snapshots.map fun s => .obj (spell s)))
    (h : ∀ s ∈ snapshots, normalizeSnapshot (spell s) = .obj s.item) :
    normalizeSnapshots item = .ok (.arr (snapshots.map fun s => .obj s.item)) := by
  unfold normalizeSnapshots
  rw [hitem]
  show Except.ok (Json.arr ((dictsOf (snapshots.map fun s =>
    .obj (spell s))).map normalizeSnapshot)) = _
  rw [dictsOf_map, List.map_map]
  exact congrArg (fun l => Except.ok (Json.arr l)) (List.map_congr_left h)

/-- The disks in the agent's spelling are spelled out. -/
lemma normalizeDisks_of_agentItem {item : Dict} {disks : List DiskSpec}
    (hdisks : item.get "disks" = .null)
    (hitem : item.get "vhds" = .arr (disks.map fun d => .obj d.agentItem))
    (h : ∀ d ∈ disks, d.Canonical env) :
    normalizeDisks env item = .ok (.arr (disks.map fun d => .obj d.item)) := by
  have hlist : (Json.arr (disks.map fun d => .obj d.agentItem)).orElse (.arr []) =
      .arr (disks.map fun d => .obj d.agentItem) := by
    cases disks <;> rfl
  have hrun : (dictsOf (disks.map fun d => .obj d.agentItem)).mapM (normalizeVhd env) =
      .ok (disks.map fun d => .obj d.item) := by
    rw [dictsOf_map, List.mapM_map]
    exact Fallible.mapM_eq_ok_map fun d hd => normalizeVhd_agentItem (h d hd)
  unfold normalizeDisks
  rw [hdisks, hitem, hlist]
  show (dictsOf (disks.map fun d => .obj d.agentItem)).mapM (normalizeVhd env) >>= _ = _
  rw [hrun]
  rfl

end Children

/-! ## The item -/

section Item

variable {vm : VmSpec} {spelling : AgentSpelling env} {d : Dict} {k k' : String}

/-- The first of two keys, when the second is not there. -/
lemma firstOf_left (h : d.get k' = .null) : firstOf d [k, k'] = d.get k := by
  unfold firstOf firstOf firstOf
  rw [h]
  cases d.get k <;> rfl

/-- The second of two keys, when the first is not there. -/
lemma firstOf_right (h : d.get k = .null) : firstOf d [k, k'] = d.get k' := by
  unfold firstOf firstOf firstOf
  rw [h]
  cases d.get k' <;> rfl

/-- The processor usage of either spelling. -/
lemma asFloat_ofNumber? (h : ∀ n, vm.cpuUsagePercent = some (.whole n) → Exact n) :
    asFloat env (.ofNumber? vm.cpuUsagePercent) =
      .ok (vm.cpuUsagePercent.map JsonNumber.value) := by
  rcases hcpu : vm.cpuUsagePercent with _ | n | x
  · rfl
  · have hn := (h n hcpu).representable
    show noneOnTypeOrValueError (env.py.float (.int n)) = .ok (some (.ofRat n))
    rw [float_int_of_representable hn, PyFloat.ofRat_of_representable hn]
    rfl
  · rfl

/-- The first of one key. -/
lemma firstOf_one : firstOf d [k] = d.get k := by
  unfold firstOf firstOf
  cases d.get k <;> rfl

/-- Without a memory object there is nothing in it. -/
lemma vmMemObj_of_null (h : d.get "memory" = .null) : vmMemObj d = [] := by
  rw [vmMemObj, h]
  rfl

/-- A memory bound is read under its own key. -/
lemma memoryBound {o : Option ℤ} (hmemory : d.get "memory" = .null)
    (hitem : d.get k = .ofInt? o) (h : ∀ n ∈ o, 0 < n) (inside : String) :
    (firstOf d [k]).orElse ((vmMemObj d).get inside) = .ofInt? o := by
  rw [firstOf_one, hitem, vmMemObj_of_null hmemory]
  exact ofInt?_orElse h

/-- The memory in the canonical spelling. -/
lemma vmMemoryBytes_of_bytes {n : ℤ} (hmemory : d.get "memory" = .null)
    (hbytes : d.get "memoryBytes" = .int n) (hmb : firstOf d ["memoryMb", "memoryMB"] = .null) :
    vmMemoryBytes env d = .ok (.int n) := by
  unfold vmMemoryBytes
  rw [firstOf_one, hbytes, vmMemObj_of_null hmemory, hmb, Dict.get_nil]
  by_cases hzero : n = 0
  · subst hzero
    rfl
  · have htrue : (Json.int n).truthy = true := by simpa [Json.truthy] using hzero
    rw [Json.orElse_of_truthy htrue]
    rfl

/-- The memory in the agent's spelling. -/
lemma vmMemoryBytes_of_mib {n : ℤ} (hmemory : d.get "memory" = .null)
    (hbytes : d.get "memoryBytes" = .null) (hmb : d.get "memoryMb" = .int n)
    (h : Exact (n * mib)) : vmMemoryBytes env d = .ok (.int (n * mib)) := by
  have hfirst : firstOf d ["memoryMb", "memoryMB"] = .int n := by
    unfold firstOf
    rw [hmb]
    rfl
  unfold vmMemoryBytes
  rw [firstOf_one, hbytes, vmMemObj_of_null hmemory, hfirst, mibToBytes_int h]
  rfl

/-- The memory demand in the canonical spelling. -/
lemma vmMemoryDemand_of_bytes {o : Option ℤ} (hbytes : d.get "memoryDemandBytes" = .ofInt? o)
    (hmb : d.get "memoryConsumedMb" = .null) : vmMemoryDemand env d = .ok (.ofInt? o) := by
  unfold vmMemoryDemand
  rw [firstOf_one, firstOf_one, hbytes, hmb]
  cases o <;> rfl

/-- The memory demand in the agent's spelling. -/
lemma vmMemoryDemand_of_mib {o : Option ℕ} (hbytes : d.get "memoryDemandBytes" = .null)
    (hmb : d.get "memoryConsumedMb" = .ofInt? (o.map Int.ofNat))
    (h : ∀ n ∈ o, Exact (n * mib)) :
    vmMemoryDemand env d = .ok (.ofInt? (o.map fun n : ℕ => (n * mib : ℤ))) := by
  unfold vmMemoryDemand
  rw [firstOf_one, firstOf_one, hbytes, hmb]
  cases o with
  | none => rfl
  | some n =>
    show (mibToBytes env (.int n) >>= fun m => pure (Json.ofInt? m)) = _
    rw [mibToBytes_int (h n rfl)]
    rfl

/-- The name of a firmware is its own upper case. -/
lemma Firmware.upper_name (hupper : KeepsCapitals env.py) (firmware : Firmware) :
    env.py.upper firmware.name = firmware.name := by
  cases firmware with
  | bios => exact hupper "BIOS" rfl
  | uefi => exact hupper "UEFI" rfl

/-- The firmware that is named. -/
lemma firmwareOf_name (hupper : KeepsCapitals env.py) {firmware : Firmware}
    (hfirmware : d.get "firmware" = .str firmware.name) :
    firmwareOf env d = .str firmware.name := by
  unfold firmwareOf
  have hname : env.py.str ((Json.str firmware.name).orElse (.str "")) = firmware.name := by
    cases firmware <;> rfl
  rw [hfirmware, hname, firmware.upper_name hupper]
  cases firmware <;> rfl

/-- The firmware of a generation. -/
lemma firmwareOf_generation (hupper : KeepsCapitals env.py) {firmware : Firmware}
    (hfirmware : d.get "firmware" = .null)
    (hgeneration : d.get "generation" = .int firmware.generation) :
    firmwareOf env d = .str firmware.name := by
  unfold firmwareOf
  have hnone : env.py.upper (env.py.str (Json.null.orElse (.str ""))) = "" := hupper "" rfl
  rw [hfirmware, hgeneration, hnone]
  cases firmware <;> rfl

/-- The flag of the dynamic memory. -/
lemma vmMemoryDynamic_of {b : Bool} (hmemory : d.get "memory" = .null)
    (hdynamic : d.get "memoryDynamic" = .bool b) : vmMemoryDynamic d = b := by
  unfold vmMemoryDynamic
  rw [hdynamic, vmMemObj_of_null hmemory]
  cases b <;> rfl

/-- A memory demand of a canonical VM is exact. -/
lemma exact_of_mem_demand (h : vm.Canonical env) : ∀ n ∈ vm.memoryDemandBytes, Exact n := by
  intro n hn
  unfold VmSpec.memoryDemandBytes at hn
  rw [Option.mem_map] at hn
  obtain ⟨m, hm, rfl⟩ := hn
  exact h.memoryDemandBytes m hm

/-- The numbers and the lists of the canonical spelling. -/
lemma parts_of_item (h : vm.Canonical env) : vm.parts.Of env vm.item where
  memoryBytes := by
    rw [vmMemoryBytes_of_bytes rfl rfl rfl, Effect.except_ok_bind]
    exact asInt_int h.memoryBytes.representable
  memoryMinBytes := by
    rw [vmMemoryMin, memoryBound rfl rfl fun n hn => (h.memoryMinBytes n hn).1]
    exact asInt_ofInt? fun n hn => (h.memoryMinBytes n hn).2.representable
  memoryMaxBytes := by
    rw [vmMemoryMax, memoryBound rfl rfl fun n hn => (h.memoryMaxBytes n hn).1]
    exact asInt_ofInt? fun n hn => (h.memoryMaxBytes n hn).2.representable
  memoryDemandBytes := by
    rw [vmMemoryDemand_of_bytes rfl rfl, Effect.except_ok_bind]
    exact asInt_ofInt? fun n hn => (exact_of_mem_demand h n hn).representable
  cpuUsagePercent := by
    rw [firstOf_left rfl]
    exact asFloat_ofNumber? h.cpuUsagePercent
  autoStartDelaySec := by
    rw [firstOf_left rfl]
    exact asInt_ofInt? fun n hn => (h.autoStartDelaySec n hn).representable
  disks := rfl
  nics := normalizeNics_of_item rfl
  snapshots := normalizeSnapshots_of rfl fun s hs => normalizeSnapshot_item (h.snapshots s hs)

/-- The numbers and the lists of the agent's spelling. -/
lemma parts_of_agentItem (h : vm.Canonical env) : vm.parts.Of env (vm.agentItem spelling) where
  memoryBytes := by
    rw [vmMemoryBytes_of_mib rfl rfl rfl h.memoryBytes, Effect.except_ok_bind]
    exact asInt_int h.memoryBytes.representable
  memoryMinBytes := by
    rw [vmMemoryMin, memoryBound rfl rfl fun n hn => (h.memoryMinBytes n hn).1]
    exact asInt_ofInt? fun n hn => (h.memoryMinBytes n hn).2.representable
  memoryMaxBytes := by
    rw [vmMemoryMax, memoryBound rfl rfl fun n hn => (h.memoryMaxBytes n hn).1]
    exact asInt_ofInt? fun n hn => (h.memoryMaxBytes n hn).2.representable
  memoryDemandBytes := by
    rw [vmMemoryDemand_of_mib rfl rfl h.memoryDemandBytes, Effect.except_ok_bind]
    exact asInt_ofInt? fun n hn => (exact_of_mem_demand h n hn).representable
  cpuUsagePercent := by
    rw [firstOf_right rfl]
    exact asFloat_ofNumber? h.cpuUsagePercent
  autoStartDelaySec := by
    rw [firstOf_right rfl]
    exact asInt_ofInt? fun n hn => (h.autoStartDelaySec n hn).representable
  disks := normalizeDisks_of_agentItem rfl rfl h.disks
  nics := normalizeNics_of_agentItem rfl h.nics
  snapshots :=
    normalizeSnapshots_of rfl fun s hs => normalizeSnapshot_agentItem (h.snapshots s hs)

/-- The canonical object of an item, from what is read of it. -/
lemma object_eq_normalized (hid : ((d.get "id").orElse (d.get "vmId")) = .str vm.id)
    (hname : d.get "name" = .str vm.name) (hstate : d.getD "state" (.str "Unknown") = .str vm.state)
    (hmetrics : d.get "metricsEnabled" = .bool vm.metricsEnabled)
    (hfirmware : firmwareOf env d = .str vm.firmware.name)
    (hguest : d.get "guestOs" = .ofOption vm.guestOs)
    (huptime : d.get "uptimeSec" = .ofInt? vm.uptimeSec) (hvcpu : vmVcpu d = .int vm.vcpu)
    (hdynamic : vmMemoryDynamic d = vm.memoryDynamic)
    (hboot : d.get "secureBoot" = .ofBool? vm.secureBoot)
    (htemplate : (d.get "secureBootTemplate").orElse .null = .ofOption vm.secureBootTemplate)
    (hnested : firstOf d ["nestedVirtualization", "nested"] = .bool vm.nestedVirtualization)
    (hstart : firstOf d ["autoStartAction", "automaticStart"] = .ofOption vm.autoStartAction)
    (hstop : firstOf d ["autoStopAction", "automaticStop"] = .ofOption vm.autoStopAction)
    (hpath : firstOf d ["configPath", "path"] = .ofOption vm.configPath)
    (hdvd : firstOf d ["dvdPath", "dvd"] = .ofOption vm.dvdPath)
    (hha : firstOf d ["highlyAvailable", "ha"] = .bool vm.highlyAvailable)
    (hnotes : d.get "notes" = .ofOption vm.notes)
    (hcreated : (d.get "createdAt").orElse (d.get "creationTime") =
      .ofOption (vm.createdAt.map Stamp.text)) :
    vm.parts.object env d = vm.normalized := by
  unfold VmParts.object
  rw [hid, hname, hstate, hmetrics, hfirmware, hguest, huptime, hvcpu, hdynamic, hboot, htemplate,
    hnested, hstart, hstop, hpath, hdvd, hha, hnotes, hcreated]
  rfl

/-- **The canonical object of the canonical spelling.** -/
theorem normalizeVm_item (hupper : KeepsCapitals env.py) (h : vm.Canonical env) :
    normalizeVm env vm.item = .ok vm.normalized := by
  refine normalizeVm_eq_ok.mpr ⟨vm.parts, parts_of_item h, Eq.symm ?_⟩
  have hid : (Json.str vm.id).truthy = true := by simpa [Json.truthy] using h.id
  exact object_eq_normalized (Json.orElse_of_truthy hid) rfl rfl rfl (firmwareOf_name hupper rfl)
    rfl rfl rfl (vmMemoryDynamic_of rfl rfl) rfl (ofOption_orElse h.secureBootTemplate)
    (firstOf_left rfl) (firstOf_left rfl) (firstOf_left rfl) (firstOf_left rfl) (firstOf_left rfl)
    (firstOf_left rfl) rfl (stamp_orElse vm.createdAt)

/-- **The canonical object of the agent's spelling is the same.** -/
theorem normalizeVm_agentItem (hupper : KeepsCapitals env.py) (h : vm.Canonical env) :
    normalizeVm env (vm.agentItem spelling) = .ok vm.normalized := by
  refine normalizeVm_eq_ok.mpr ⟨vm.parts, parts_of_agentItem h, Eq.symm ?_⟩
  have hid : (Json.str vm.id).truthy = true := by simpa [Json.truthy] using h.id
  have hfirmware : firmwareOf env (vm.agentItem spelling) = .str vm.firmware.name := by
    have hnamed : (vm.agentItem spelling).get "firmware" =
        if spelling.legacy then .null else .str vm.firmware.name := rfl
    have hnumbered : (vm.agentItem spelling).get "generation" =
        if spelling.legacy then .int vm.firmware.generation else .null := rfl
    cases hlegacy : spelling.legacy with
    | false =>
      rw [hlegacy] at hnamed
      exact firmwareOf_name hupper hnamed
    | true =>
      rw [hlegacy] at hnamed hnumbered
      exact firmwareOf_generation hupper hnamed hnumbered
  exact object_eq_normalized (Json.orElse_of_truthy hid) rfl rfl rfl hfirmware
    rfl rfl rfl (vmMemoryDynamic_of rfl rfl) rfl (ofOption_orElse h.secureBootTemplate)
    (firstOf_right rfl) (firstOf_right rfl) (firstOf_right rfl) (firstOf_right rfl)
    (firstOf_right rfl) (firstOf_right rfl) rfl rfl

end Item

end OpenVCenter
