import OpenVCenter.PartialWrite
import OpenVCenter.NormalizedVm
import OpenVCenter.System

set_option relaxedAutoImplicit false
set_option autoImplicit false

/-!
# What a lean payload overwrites

Two tables decide what a partial write does with a column: the keys that say the column was
reported, and the keys its value is read from. Where they disagree, a key resets a column the
payload has no value for.

## Main definitions

* `OpenVCenter.WritesCarried` — a column is overwritten with what the payload carries for it only.
* `OpenVCenter.ResetsNothing` — the rows on which the tables agree.

## Main results

* `OpenVCenter.writeVmRow_writesCarried_iff` — **when a partial write overwrites no other column**.
-/

namespace OpenVCenter

/-! ## What a payload carries -/

/-- The payload has one of the keys. -/
def carries (raw : Dict) (keys : List String) : Bool := keys.any fun k => raw.has k

/-- The payload has an object under a key, and a second key in it. -/
def carriesIn (raw : Dict) (key inner : String) : Bool :=
  Dict.has ((raw.get key).asDict?.getD []) inner

/-- The processor count, flat or in `cpu`. -/
def carriesVcpu (raw : Dict) : Bool := carries raw ["vcpu"] || carriesIn raw "cpu" "vcpus"

/-- The memory, in bytes, in MiB or in `memory`. -/
def carriesMemory (raw : Dict) : Bool :=
  carries raw ["memoryBytes", "memoryMb", "memoryMB"] || carriesIn raw "memory" "assignedBytes"

/-- The least memory. -/
def carriesMemoryMin (raw : Dict) : Bool :=
  carries raw ["memoryMinBytes"] || carriesIn raw "memory" "minBytes"

/-- The most memory. -/
def carriesMemoryMax (raw : Dict) : Bool :=
  carries raw ["memoryMaxBytes"] || carriesIn raw "memory" "maxBytes"

/-- The memory flag. -/
def carriesMemoryDynamic (raw : Dict) : Bool :=
  carries raw ["memoryDynamic"] || carriesIn raw "memory" "dynamic"

/-- A column keeps its value, or takes one the payload carries. -/
def Kept {α : Type} (carried : Bool) (value : α → Prop) (old new : α) : Prop :=
  new = old ∨ carried = true ∧ value new

/-- A column, or a child list, is overwritten only with what the payload carries for it under a
spelling `normalize_vm` reads; `item` is the payload normalized. The owner and the time of the write
are left out. -/
structure WritesCarried (env : Env) (raw item : Dict) (vm vm' : Vm) : Prop where
  id : vm'.id = vm.id
  vmUuid : vm'.vmUuid = vm.vmUuid
  folderId : vm'.folderId = vm.folderId
  tagIds : vm'.tagIds = vm.tagIds
  name : Kept (carries raw ["name"]) (· = item.get "name") vm.name vm'.name
  state : Kept (carries raw ["state"]) (· = item.get "state") vm.state vm'.state
  firmware : Kept (carries raw ["firmware", "generation"]) (· = item.get "firmware")
    vm.firmware vm'.firmware
  guestOs : Kept (carries raw ["guestOs"])
    (fun o => ∃ s, item.get "guestOs" = .str s ∧
      o = some (String.ofList ((env.py.strip s).toList.take 255))) vm.guestOs vm'.guestOs
  uptimeSec : Kept (carries raw ["uptimeSec"]) (· = item.get "uptimeSec") vm.uptimeSec vm'.uptimeSec
  vcpu : Kept (carriesVcpu raw) (fun n => env.py.int (item.get "vcpu") = .ok n) vm.vcpu vm'.vcpu
  memoryBytes : Kept (carriesMemory raw) (· = item.get "memoryBytes") vm.memoryBytes vm'.memoryBytes
  memoryMinBytes : Kept (carriesMemoryMin raw) (· = item.get "memoryMinBytes")
    vm.memoryMinBytes vm'.memoryMinBytes
  memoryMaxBytes : Kept (carriesMemoryMax raw) (· = item.get "memoryMaxBytes")
    vm.memoryMaxBytes vm'.memoryMaxBytes
  memoryDynamic : Kept (carriesMemoryDynamic raw) (· = (item.get "memoryDynamic").truthy)
    vm.memoryDynamic vm'.memoryDynamic
  cpuUsagePercent : Kept (carries raw ["cpuUsagePercent", "cpuUsagePct"])
    (· = item.get "cpuUsagePercent") vm.cpuUsagePercent vm'.cpuUsagePercent
  memoryDemandBytes : Kept (carries raw ["memoryDemandBytes", "memoryConsumedMb"])
    (· = item.get "memoryDemandBytes") vm.memoryDemandBytes vm'.memoryDemandBytes
  secureBoot : Kept (carries raw ["secureBoot"]) (· = item.get "secureBoot")
    vm.secureBoot vm'.secureBoot
  secureBootTemplate : Kept (carries raw ["secureBootTemplate"]) (· = item.get "secureBootTemplate")
    vm.secureBootTemplate vm'.secureBootTemplate
  nestedVirtualization : Kept (carries raw ["nestedVirtualization", "nested"])
    (· = (item.get "nestedVirtualization").truthy) vm.nestedVirtualization vm'.nestedVirtualization
  autoStartAction : Kept (carries raw ["autoStartAction", "automaticStart"])
    (· = item.get "autoStartAction") vm.autoStartAction vm'.autoStartAction
  autoStartDelaySec : Kept (carries raw ["autoStartDelaySec", "automaticStartDelay"])
    (· = item.get "autoStartDelaySec") vm.autoStartDelaySec vm'.autoStartDelaySec
  autoStopAction : Kept (carries raw ["autoStopAction", "automaticStop"])
    (· = item.get "autoStopAction") vm.autoStopAction vm'.autoStopAction
  configPath : Kept (carries raw ["configPath", "path"]) (· = item.get "configPath")
    vm.configPath vm'.configPath
  dvdPath : Kept (carries raw ["dvdPath", "dvd"]) (· = item.get "dvdPath") vm.dvdPath vm'.dvdPath
  highlyAvailable : Kept (carries raw ["highlyAvailable", "ha"])
    (· = (item.get "highlyAvailable").truthy) vm.highlyAvailable vm'.highlyAvailable
  metricsEnabled : Kept (carries raw ["metricsEnabled"]) (· = (item.get "metricsEnabled").truthy)
    vm.metricsEnabled vm'.metricsEnabled
  notes : Kept (carries raw ["notes"]) (· = item.get "notes") vm.notes vm'.notes
  vmCreatedAt : Kept (carries raw ["createdAt", "creationTime"])
    (· = parseDt env (item.get "createdAt")) vm.vmCreatedAt vm'.vmCreatedAt
  disks : Kept (carries raw ["disks", "vhds"]) (fun l => syncDisks env (item.get "disks") = .ok l)
    vm.disks vm'.disks
  nics : Kept (carries raw ["nics"]) (fun l => syncNics (item.get "nics") = .ok l) vm.nics vm'.nics
  snapshots : Kept (carries raw ["snapshots"])
    (fun l => syncSnapshots env (item.get "snapshots") = .ok l) vm.snapshots vm'.snapshots

/-! ## Where the tables disagree -/

/-- No key of the payload resets a column of the row. `powerState` reports a state no value is read
from, `memory` reports four columns whether or not it has their values, and a processor count that
is false replaces none but zero. -/
structure ResetsNothing (raw : Dict) (vm : Vm) : Prop where
  state : raw.has "powerState" = true → raw.has "state" = false → vm.state = .str "Unknown"
  vcpu : carries raw ["vcpu", "cpu"] = true → (vmVcpu raw).truthy = false → vm.vcpu ≠ 0
  memoryBytes : raw.has "memory" = true → carriesMemory raw = false → vm.memoryBytes = .int 0
  memoryMinBytes : raw.has "memory" = true → carriesMemoryMin raw = false →
    vm.memoryMinBytes = .null
  memoryMaxBytes : raw.has "memory" = true → carriesMemoryMax raw = false →
    vm.memoryMaxBytes = .null
  memoryDynamic : raw.has "memory" = true → carriesMemoryDynamic raw = false →
    vm.memoryDynamic = false

section

variable {env : Env} {now : Time} {raw item : Dict} {vm vm' : Vm}

/-! ## What is not carried is not read -/

/-- A key that is absent has its default. -/
lemma getD_of_not_has {d : Dict} {k : String} {v : Json} (h : d.has k = false) : d.getD k v = v := by
  have hfind : d.find? (fun e => decide (e.1 = k)) = none :=
    List.find?_eq_none.mpr fun e he hk => Bool.false_ne_true (h ▸ List.any_eq_true.mpr ⟨e, he, hk⟩)
  unfold Dict.getD
  rw [hfind]

/-- A key that is absent reads as `None`. -/
lemma get_of_not_has {d : Dict} {k : String} (h : d.has k = false) : d.get k = .null :=
  getD_of_not_has h

/-- So does the first of several that are absent. -/
lemma firstOf_of_not_carries {keys : List String} (h : carries raw keys = false) :
    firstOf raw keys = .null := by
  induction keys with
  | nil => rfl
  | cons k keys ih =>
    obtain ⟨hk, hkeys⟩ := Bool.or_eq_false_iff.mp h
    unfold firstOf
    rw [get_of_not_has hk, ih hkeys]
    rfl

/-- So does an inner key. -/
lemma vmMemObj_get_of_not_carriesIn {inner : String} (h : carriesIn raw "memory" inner = false) :
    (vmMemObj raw).get inner = .null :=
  get_of_not_has h

/-- So does the number of processors. -/
lemma vmVcpu_of_not_carriesVcpu (h : carriesVcpu raw = false) : vmVcpu raw = .null := by
  obtain ⟨hflat, hinner⟩ := Bool.or_eq_false_iff.mp h
  have hnone : raw.get "vcpu" = .null := get_of_not_has (Bool.or_eq_false_iff.mp hflat).1
  unfold vmVcpu
  rw [hnone]
  unfold carriesIn at hinner
  cases hcpu : raw.get "cpu" with
  | obj cpu =>
    rw [hcpu] at hinner
    exact get_of_not_has hinner
  | _ => rfl

/-- An item without a memory normalizes to none. -/
lemma memoryBytes_of_not_carries (h : carriesMemory raw = false)
    (hitem : normalizeVm env raw = .ok item) : item.get "memoryBytes" = .int 0 := by
  obtain ⟨hkeys, hinner⟩ := Bool.or_eq_false_iff.mp h
  obtain ⟨hbytes, hmib⟩ := Bool.or_eq_false_iff.mp hkeys
  obtain ⟨p, hp, rfl⟩ := normalizeVm_eq_ok.mp hitem
  have hfirst : firstOf raw ["memoryBytes"] = .null :=
    firstOf_of_not_carries (Bool.or_eq_false_iff.mpr ⟨hbytes, rfl⟩)
  have hbytes := hp.memoryBytes
  unfold vmMemoryBytes at hbytes
  rw [hfirst, firstOf_of_not_carries hmib, vmMemObj_get_of_not_carriesIn hinner] at hbytes
  have hzero : some 0 = p.memoryBytes :=
    Except.ok.inj ((asInt_int Binary64.representable_zero).symm.trans hbytes)
  show Json.int (p.memoryBytes.getD 0) = .int 0
  rw [← hzero]
  rfl

/-- Without a lower bound it has none. -/
lemma memoryMin_of_not_carries (h : carriesMemoryMin raw = false)
    (hitem : normalizeVm env raw = .ok item) : item.get "memoryMinBytes" = .null := by
  obtain ⟨hkeys, hinner⟩ := Bool.or_eq_false_iff.mp h
  obtain ⟨p, hp, rfl⟩ := normalizeVm_eq_ok.mp hitem
  have hmin := hp.memoryMinBytes
  unfold vmMemoryMin at hmin
  rw [firstOf_of_not_carries hkeys, vmMemObj_get_of_not_carriesIn hinner] at hmin
  show Json.ofInt? p.memoryMinBytes = .null
  rw [← Except.ok.inj hmin]
  rfl

/-- Nor has it an upper bound. -/
lemma memoryMax_of_not_carries (h : carriesMemoryMax raw = false)
    (hitem : normalizeVm env raw = .ok item) : item.get "memoryMaxBytes" = .null := by
  obtain ⟨hkeys, hinner⟩ := Bool.or_eq_false_iff.mp h
  obtain ⟨p, hp, rfl⟩ := normalizeVm_eq_ok.mp hitem
  have hmax := hp.memoryMaxBytes
  unfold vmMemoryMax at hmax
  rw [firstOf_of_not_carries hkeys, vmMemObj_get_of_not_carriesIn hinner] at hmax
  show Json.ofInt? p.memoryMaxBytes = .null
  rw [← Except.ok.inj hmax]
  rfl

/-- Nor is its memory dynamic. -/
lemma memoryDynamic_of_not_carries (h : carriesMemoryDynamic raw = false)
    (hitem : normalizeVm env raw = .ok item) : (item.get "memoryDynamic").truthy = false := by
  obtain ⟨hkeys, hinner⟩ := Bool.or_eq_false_iff.mp h
  obtain ⟨p, hp, rfl⟩ := normalizeVm_eq_ok.mp hitem
  show vmMemoryDynamic raw = false
  unfold vmMemoryDynamic
  rw [get_of_not_has (Bool.or_eq_false_iff.mp hkeys).1, vmMemObj_get_of_not_carriesIn hinner]
  rfl

/-- A false processor count is none, or zero. -/
lemma int_of_falsy (hempty : env.py.parseInt "" = none) {v : Json} {n : ℤ}
    (hv : v.truthy = false) (h : env.py.int v = .ok n) : n = 0 := by
  cases v with
  | null => exact absurd h (by rintro ⟨⟩)
  | bool b =>
    obtain rfl : b = false := hv
    exact (Except.ok.inj h).symm
  | int i =>
    obtain rfl : i = 0 := by simpa [Json.truthy] using hv
    exact (Except.ok.inj h).symm
  | float f =>
    rcases f with _ | _ | d
    · exact Bool.noConfusion hv
    · exact Bool.noConfusion hv
    · have hzero : d.value = 0 := by simpa [Json.truthy] using hv
      have htrunc := Except.ok.inj h
      rw [hzero] at htrunc
      simpa using htrunc.symm
  | str s =>
    obtain rfl : s = "" := by simpa [Json.truthy] using hv
    have hraises : env.py.int (.str "") = .error .valueError := by
      simp only [PyStd.int, hempty]
    exact absurd (hraises.symm.trans h) (by rintro ⟨⟩)
  | arr l => exact absurd h (by rintro ⟨⟩)
  | obj d => exact absurd h (by rintro ⟨⟩)

/-! ## Column by column -/

section Columns

variable {α : Type} {carried : Bool} {keys : List String} {value old : α}

/-- A reported column that is not carried is overwritten, unless it has the value already. -/
lemma kept_saidWhen_iff :
    Kept carried (· = value) old ((saidWhen raw keys value).getD old) ↔
      (carries raw keys = true → carried = false → old = value) := by
  have hsaid : saidWhen raw keys value = if carries raw keys then some value else none := rfl
  rw [hsaid]
  unfold Kept
  cases carries raw keys
  · simp
  · cases carried
    · simp [eq_comm]
    · simp

/-- A column written for its keys is kept without them. -/
lemma kept_saidWhen :
    Kept (carries raw keys) (· = value) old ((saidWhen raw keys value).getD old) :=
  kept_saidWhen_iff.mpr fun htrue hfalse => absurd (htrue.symm.trans hfalse) Bool.true_eq_false.mp

/-- A column that `memory` reports: it falls to the default when the payload has no value for it. -/
lemma kept_memory_iff {flat : List String} {inner : String} {default : α}
    (hdefault : (carries raw flat || carriesIn raw "memory" inner) = false → value = default) :
    Kept (carries raw flat || carriesIn raw "memory" inner) (· = value) old
        ((saidWhen raw (flat ++ ["memory"]) value).getD old) ↔
      (raw.has "memory" = true → (carries raw flat || carriesIn raw "memory" inner) = false →
        old = default) := by
  have hreported : carries raw (flat ++ ["memory"]) = (carries raw flat || raw.has "memory") := by
    simp [carries]
  rw [kept_saidWhen_iff, hreported]
  constructor
  · intro h hmemory hcarried
    rw [h (by rw [hmemory, Bool.or_true]) hcarried, hdefault hcarried]
  · intro h hreports hcarried
    rw [(Bool.or_eq_false_iff.mp hcarried).1, Bool.false_or] at hreports
    rw [h hreports hcarried, hdefault hcarried]

/-- A column written for a true value is kept without its keys. -/
lemma kept_saidTruthy {key : String} {old : Json} :
    Kept (carries raw keys) (· = item.get key) old ((saidTruthy raw item keys key).getD old) := by
  unfold saidTruthy
  split_ifs with hsaid
  · exact .inr ⟨(Bool.and_eq_true_iff.mp hsaid).1, rfl⟩
  · exact .inl rfl

/-- Children are kept without their keys. -/
lemma kept_saidChildren {children : Except Raised (List α)} {said : Option (List α)}
    {old : List α} (h : saidChildren raw keys children = .ok said) :
    Kept (carries raw keys) (fun l => children = .ok l) old (said.getD old) := by
  unfold saidChildren at h
  split_ifs at h with hreported
  · obtain ⟨l, hl, hsaid⟩ := Effect.except_bind_eq_ok.mp h
    obtain rfl := Except.ok.inj hsaid
    exact .inr ⟨hreported, hl⟩
  · obtain rfl := Except.ok.inj h
    exact .inl rfl

end Columns

/-- The state is kept exactly where `powerState` does not come alone, or the state is unknown
already. -/
lemma kept_saidState_iff (hitem : normalizeVm env raw = .ok item) :
    Kept (carries raw ["state"]) (· = item.get "state") vm.state
        ((saidState raw item).getD vm.state) ↔
      (raw.has "powerState" = true → raw.has "state" = false → vm.state = .str "Unknown") := by
  obtain ⟨p, -, rfl⟩ := normalizeVm_eq_ok.mp hitem
  have hvalue : (p.object env raw).get "state" = raw.getD "state" (.str "Unknown") := rfl
  have hcarries : carries raw ["state"] = raw.has "state" := Bool.or_false _
  have hreports : reports true raw ["state", "powerState"] =
      (raw.has "state" || raw.has "powerState") := by
    simp [reports]
  unfold saidState saidTruthy Kept
  rw [hvalue, hcarries, hreports]
  cases hstate : raw.has "state"
  · -- only `powerState` reports the state, and the value is the default
    rw [getD_of_not_has hstate]
    cases raw.has "powerState"
    · exact iff_of_true (.inl rfl) fun h => absurd h Bool.false_ne_true
    · constructor
      · rintro (hold | ⟨hcarried, -⟩) - -
        · exact hold.symm
        · exact absurd hcarried Bool.false_ne_true
      · exact fun h => .inl (h rfl rfl).symm
  · cases htruthy : (raw.getD "state" (.str "Unknown")).truthy
    · simp
    · simp

/-- The flag for metrics is kept. -/
lemma kept_saidMetricsEnabled :
    Kept (carries raw ["metricsEnabled"]) (· = (item.get "metricsEnabled").truthy)
      vm.metricsEnabled ((saidMetricsEnabled raw item).getD vm.metricsEnabled) := by
  unfold saidMetricsEnabled
  split_ifs with hnone
  · exact .inl rfl
  · refine .inr ⟨?_, rfl⟩
    refine eq_true_of_ne_false fun hcarries => hnone ?_
    rw [get_of_not_has (Bool.or_eq_false_iff.mp hcarries).1]
    rfl

/-- The guest system is kept. -/
lemma kept_saidGuestOs (hitem : normalizeVm env raw = .ok item) :
    Kept (carries raw ["guestOs"])
      (fun o => ∃ s, item.get "guestOs" = .str s ∧
        o = some (String.ofList ((env.py.strip s).toList.take 255)))
      vm.guestOs ((saidGuestOs env item).or vm.guestOs) := by
  obtain ⟨p, -, rfl⟩ := normalizeVm_eq_ok.mp hitem
  have hvalue : (p.object env raw).get "guestOs" = raw.get "guestOs" := rfl
  unfold saidGuestOs
  rw [hvalue]
  cases hguest : raw.get "guestOs" with
  | str s =>
    dsimp only
    split_ifs
    · exact .inl rfl
    · refine .inr ⟨?_, s, rfl, rfl⟩
      refine eq_true_of_ne_false fun hcarries => ?_
      rw [get_of_not_has (Bool.or_eq_false_iff.mp hcarries).1] at hguest
      exact absurd hguest (by rintro ⟨⟩)
  | _ => exact .inl rfl

/-- The time of creation is kept. -/
lemma kept_saidCreatedAt :
    Kept (carries raw ["createdAt", "creationTime"]) (· = parseDt env (item.get "createdAt"))
      vm.vmCreatedAt ((saidCreatedAt env raw item).getD vm.vmCreatedAt) := by
  unfold saidCreatedAt
  split_ifs with hsaid
  · exact .inr ⟨(Bool.and_eq_true_iff.mp hsaid).1, rfl⟩
  · exact .inl rfl

/-- Where the number of processors is kept. -/
lemma kept_saidVcpu_iff (hempty : env.py.parseInt "" = none)
    (hitem : normalizeVm env raw = .ok item) {vcpu : Option ℤ}
    (h : saidVcpu env raw item = .ok vcpu) :
    Kept (carriesVcpu raw) (fun n => env.py.int (item.get "vcpu") = .ok n) vm.vcpu
        (vcpu.getD (Said.orOne (reports true raw ["vcpu", "cpu"]) vm.vcpu)) ↔
      (carries raw ["vcpu", "cpu"] = true → (vmVcpu raw).truthy = false → vm.vcpu ≠ 0) := by
  obtain ⟨p, -, rfl⟩ := normalizeVm_eq_ok.mp hitem
  have hvalue : (p.object env raw).get "vcpu" = vmVcpu raw := rfl
  have hreports : reports true raw ["vcpu", "cpu"] = carries raw ["vcpu", "cpu"] := rfl
  unfold saidVcpu at h
  rw [hvalue, hreports] at h ⊢
  cases hcarries : carries raw ["vcpu", "cpu"]
  · rw [hcarries] at h
    obtain rfl := Except.ok.inj h
    refine iff_of_true (.inl ?_) (by simp)
    simp [Said.orOne]
  rw [hcarries, Bool.true_and] at h
  cases htruthy : (vmVcpu raw).truthy
  · -- a false count only replaces zero, and is none or zero itself
    rw [htruthy] at h
    obtain rfl := Except.ok.inj h
    by_cases hzero : vm.vcpu = 0
    · refine iff_of_false ?_ (fun hne => hne rfl rfl hzero)
      rintro (hold | ⟨-, hint⟩)
      · simp [Said.orOne, hzero] at hold
      · have hone := int_of_falsy hempty htruthy hint
        simp [Said.orOne, hzero] at hone
    · refine iff_of_true (.inl ?_) fun _ _ => hzero
      simp [Said.orOne, hzero]
  · rw [htruthy] at h
    obtain ⟨n, hn, hsaid⟩ := Effect.except_bind_eq_ok.mp h
    obtain rfl := Except.ok.inj hsaid
    refine iff_of_true (.inr ⟨?_, hn⟩) (by simp)
    refine eq_true_of_ne_false fun hnot => ?_
    rw [vmVcpu_of_not_carriesVcpu hnot] at htruthy
    exact Bool.false_ne_true htruthy

/-! ## The write -/

/-- **A partial write overwrites nothing but what the payload carries** exactly when no key of the
payload resets a column of the row.

**Proof sketch.** A partial write is what the payload says, applied to the row
(`writeVmRow_subset`). Column by column, what is said is kept without its keys (`kept_said…`); the
state, the number of processors and the columns of the memory are kept on a condition of their own,
and together these are `ResetsNothing`. -/
theorem writeVmRow_writesCarried_iff (hempty : env.py.parseInt "" = none) {hostId : String}
    {clusterId : Option String} (hitem : normalizeVm env raw = .ok item)
    (h : writeVmRow env now true raw item hostId clusterId vm = .ok vm') :
    WritesCarried env raw item vm vm' ↔ ResetsNothing raw vm := by
  rw [writeVmRow_subset] at h
  obtain ⟨said, hsaid, h⟩ := Effect.except_bind_eq_ok.mp h
  obtain rfl := Except.ok.inj h
  obtain ⟨vcpu, hvcpu, hsaid⟩ := Effect.except_bind_eq_ok.mp hsaid
  obtain ⟨disks, hdisks, hsaid⟩ := Effect.except_bind_eq_ok.mp hsaid
  obtain ⟨nics, hnics, hsaid⟩ := Effect.except_bind_eq_ok.mp hsaid
  obtain ⟨snapshots, hsnapshots, hsaid⟩ := Effect.except_bind_eq_ok.mp hsaid
  obtain rfl := Except.ok.inj hsaid
  have hstate := @kept_saidState_iff env raw item vm hitem
  have hcount := @kept_saidVcpu_iff env raw item vm hempty hitem _ hvcpu
  have hmemory := @kept_memory_iff raw _ _ vm.memoryBytes ["memoryBytes", "memoryMb", "memoryMB"]
    "assignedBytes" _ fun hnot => memoryBytes_of_not_carries hnot hitem
  have hmin := @kept_memory_iff raw _ _ vm.memoryMinBytes ["memoryMinBytes"]
    "minBytes" _ fun hnot => memoryMin_of_not_carries hnot hitem
  have hmax := @kept_memory_iff raw _ _ vm.memoryMaxBytes ["memoryMaxBytes"]
    "maxBytes" _ fun hnot => memoryMax_of_not_carries hnot hitem
  have hdynamic := @kept_memory_iff raw _ _ vm.memoryDynamic ["memoryDynamic"]
    "dynamic" _ fun hnot => memoryDynamic_of_not_carries hnot hitem
  constructor
  · intro hw
    exact
      { state := hstate.mp hw.state
        vcpu := hcount.mp hw.vcpu
        memoryBytes := hmemory.mp hw.memoryBytes
        memoryMinBytes := hmin.mp hw.memoryMinBytes
        memoryMaxBytes := hmax.mp hw.memoryMaxBytes
        memoryDynamic := hdynamic.mp hw.memoryDynamic }
  · intro hr
    exact
      { id := rfl, vmUuid := rfl, folderId := rfl, tagIds := rfl
        name := kept_saidTruthy
        state := hstate.mpr hr.state
        firmware := kept_saidTruthy
        guestOs := kept_saidGuestOs hitem
        uptimeSec := kept_saidWhen
        vcpu := hcount.mpr hr.vcpu
        memoryBytes := hmemory.mpr hr.memoryBytes
        memoryMinBytes := hmin.mpr hr.memoryMinBytes
        memoryMaxBytes := hmax.mpr hr.memoryMaxBytes
        memoryDynamic := hdynamic.mpr hr.memoryDynamic
        cpuUsagePercent := kept_saidWhen
        memoryDemandBytes := kept_saidWhen
        secureBoot := kept_saidWhen
        secureBootTemplate := kept_saidWhen
        nestedVirtualization := kept_saidWhen
        autoStartAction := kept_saidWhen
        autoStartDelaySec := kept_saidWhen
        autoStopAction := kept_saidWhen
        configPath := kept_saidWhen
        dvdPath := kept_saidWhen
        highlyAvailable := kept_saidWhen
        metricsEnabled := kept_saidMetricsEnabled
        notes := kept_saidWhen
        vmCreatedAt := kept_saidCreatedAt
        disks := kept_saidChildren hdisks
        nics := kept_saidChildren hnics
        snapshots := kept_saidChildren hsnapshots }

end

/-- A payload with the state under a key no value is read from. -/
def Demo.leanPayload : Dict := [("id", .str "g"), ("powerState", .str "Running")]

/-- A running VM. -/
def Demo.runningVm : Vm := { id := "v", vmUuid := some "g", hostId := "h", state := .str "Running" }

/-- The parts of a payload that has none of the keys they are read from. -/
def Demo.noParts : VmParts :=
  { memoryBytes := some 0, memoryMinBytes := none, memoryMaxBytes := none
    memoryDemandBytes := none, cpuUsagePercent := none, autoStartDelaySec := none
    disks := .arr [], nics := .arr [], snapshots := .arr [] }

/-- The state under the key it is read from. -/
def Demo.statePayload : Dict := [("id", .str "g"), ("state", .str "Off")]

/-- A payload with nothing that is reset writes what it carries. -/
theorem writeVmRow_writesCarried_iff_state : ∃ item vm',
    normalizeVm Demo.settings Demo.statePayload = .ok item ∧
    writeVmRow Demo.settings 0 true Demo.statePayload item "h" none Demo.runningVm = .ok vm' ∧
    WritesCarried Demo.settings Demo.statePayload item Demo.runningVm vm' := by
  have hparts : Demo.noParts.Of Demo.settings Demo.statePayload :=
    { memoryBytes := asInt_int Binary64.representable_zero
      memoryMinBytes := rfl, memoryMaxBytes := rfl
      memoryDemandBytes := rfl, cpuUsagePercent := rfl, autoStartDelaySec := rfl
      disks := rfl, nics := rfl, snapshots := rfl }
  have hitem := normalizeVm_eq_ok.mpr ⟨Demo.noParts, hparts, rfl⟩
  refine ⟨_, _, hitem, rfl, (writeVmRow_writesCarried_iff rfl hitem rfl).mpr ?_⟩
  exact ⟨fun h => absurd h (by decide), by decide, fun h => absurd h (by decide),
    fun h => absurd h (by decide), fun h => absurd h (by decide), fun h => absurd h (by decide)⟩

/-- The lean payload of the example writes an unknown state. -/
lemma Demo.write_leanPayload : ∃ item vm',
    normalizeVm OpenVCenter.Demo.settings Demo.leanPayload = .ok item ∧
    writeVmRow OpenVCenter.Demo.settings 0 true Demo.leanPayload item "h" none Demo.runningVm =
      .ok vm' ∧ vm'.state = .str "Unknown" := by
  have hparts : Demo.noParts.Of OpenVCenter.Demo.settings Demo.leanPayload :=
    { memoryBytes := asInt_int Binary64.representable_zero
      memoryMinBytes := rfl, memoryMaxBytes := rfl
      memoryDemandBytes := rfl, cpuUsagePercent := rfl, autoStartDelaySec := rfl
      disks := rfl, nics := rfl, snapshots := rfl }
  exact ⟨_, _, normalizeVm_eq_ok.mpr ⟨Demo.noParts, hparts, rfl⟩, rfl, rfl⟩

/-- The state of a running VM is lost. -/
theorem writeVmRow_writesCarried_counterexample :
    ¬ ∀ env : Env, env.py.parseInt "" = none → ∀ (now : Time) (raw item : Dict) (hostId : String)
      (clusterId : Option String) (vm vm' : Vm), normalizeVm env raw = .ok item →
      writeVmRow env now true raw item hostId clusterId vm = .ok vm' →
      WritesCarried env raw item vm vm' := by
  intro h
  obtain ⟨item, vm', hitem, hwrite, hstate⟩ := Demo.write_leanPayload
  rcases (h Demo.settings rfl 0 _ _ _ _ _ _ hitem hwrite).state with hold | ⟨hcarried, -⟩
  · rw [hstate] at hold
    exact absurd (Json.str.inj hold) (by decide)
  · exact absurd hcarried (by decide)

end OpenVCenter
