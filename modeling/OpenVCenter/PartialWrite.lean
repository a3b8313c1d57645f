import OpenVCenter.VmRow

set_option relaxedAutoImplicit false
set_option autoImplicit false

/-!
# Partial writes of a row

The object attached to a response is written column by column: a column takes the value the object
has for it, or keeps its own. What the object says does not depend on the row.

## Main definitions

* `OpenVCenter.Said` — what an object says of a row, with `OpenVCenter.Said.apply` and
  `OpenVCenter.Said.comp`.
* `OpenVCenter.saidOf` — what a raw item and its normal form say.

## Main results

* `OpenVCenter.writeVmRow_subset` — a partial write applies what the object says.
* `OpenVCenter.Said.apply_comp`, `OpenVCenter.Said.apply_self` — two writes are one write, and a
  write made twice is made once.
* `OpenVCenter.Said.bindable` — a write that fits one row fits every row that fits.
-/

namespace OpenVCenter

/-! ## What an object says -/

/-- What an object says of a row: a value for each column it reports. `atLeastOne` is the write of
a processor count that only replaces zero. -/
structure Said where
  name : Option Json
  state : Option Json
  metricsEnabled : Option Bool
  guestOs : Option String
  firmware : Option Json
  vcpu : Option ℤ
  atLeastOne : Bool
  memoryDynamic : Option Bool
  nestedVirtualization : Option Bool
  highlyAvailable : Option Bool
  uptimeSec : Option Json
  memoryBytes : Option Json
  memoryMinBytes : Option Json
  memoryMaxBytes : Option Json
  memoryDemandBytes : Option Json
  cpuUsagePercent : Option Json
  secureBoot : Option Json
  secureBootTemplate : Option Json
  autoStartAction : Option Json
  autoStartDelaySec : Option Json
  autoStopAction : Option Json
  configPath : Option Json
  dvdPath : Option Json
  notes : Option Json
  vmCreatedAt : Option (Option Time)
  disks : Option (List VmDisk)
  nics : Option (List VmNic)
  snapshots : Option (List VmSnapshot)

namespace Said

/-- A processor count, or one in place of zero. -/
def orOne (atLeastOne : Bool) (vcpu : ℤ) : ℤ := if atLeastOne ∧ vcpu = 0 then 1 else vcpu

/-- The row with what an object says of it. -/
def apply (p : Said) (vm : Vm) : Vm :=
  { vm with
    name := p.name.getD vm.name
    state := p.state.getD vm.state
    metricsEnabled := p.metricsEnabled.getD vm.metricsEnabled
    guestOs := p.guestOs.or vm.guestOs
    firmware := p.firmware.getD vm.firmware
    vcpu := p.vcpu.getD (orOne p.atLeastOne vm.vcpu)
    memoryDynamic := p.memoryDynamic.getD vm.memoryDynamic
    nestedVirtualization := p.nestedVirtualization.getD vm.nestedVirtualization
    highlyAvailable := p.highlyAvailable.getD vm.highlyAvailable
    uptimeSec := p.uptimeSec.getD vm.uptimeSec
    memoryBytes := p.memoryBytes.getD vm.memoryBytes
    memoryMinBytes := p.memoryMinBytes.getD vm.memoryMinBytes
    memoryMaxBytes := p.memoryMaxBytes.getD vm.memoryMaxBytes
    memoryDemandBytes := p.memoryDemandBytes.getD vm.memoryDemandBytes
    cpuUsagePercent := p.cpuUsagePercent.getD vm.cpuUsagePercent
    secureBoot := p.secureBoot.getD vm.secureBoot
    secureBootTemplate := p.secureBootTemplate.getD vm.secureBootTemplate
    autoStartAction := p.autoStartAction.getD vm.autoStartAction
    autoStartDelaySec := p.autoStartDelaySec.getD vm.autoStartDelaySec
    autoStopAction := p.autoStopAction.getD vm.autoStopAction
    configPath := p.configPath.getD vm.configPath
    dvdPath := p.dvdPath.getD vm.dvdPath
    notes := p.notes.getD vm.notes
    vmCreatedAt := p.vmCreatedAt.getD vm.vmCreatedAt
    disks := p.disks.getD vm.disks
    nics := p.nics.getD vm.nics
    snapshots := p.snapshots.getD vm.snapshots }

/-- What two objects say, the second one after the first. -/
def comp (q p : Said) : Said where
  name := q.name.or p.name
  state := q.state.or p.state
  metricsEnabled := q.metricsEnabled.or p.metricsEnabled
  guestOs := q.guestOs.or p.guestOs
  firmware := q.firmware.or p.firmware
  vcpu := q.vcpu.or (p.vcpu.map (orOne q.atLeastOne))
  atLeastOne := q.atLeastOne || p.atLeastOne
  memoryDynamic := q.memoryDynamic.or p.memoryDynamic
  nestedVirtualization := q.nestedVirtualization.or p.nestedVirtualization
  highlyAvailable := q.highlyAvailable.or p.highlyAvailable
  uptimeSec := q.uptimeSec.or p.uptimeSec
  memoryBytes := q.memoryBytes.or p.memoryBytes
  memoryMinBytes := q.memoryMinBytes.or p.memoryMinBytes
  memoryMaxBytes := q.memoryMaxBytes.or p.memoryMaxBytes
  memoryDemandBytes := q.memoryDemandBytes.or p.memoryDemandBytes
  cpuUsagePercent := q.cpuUsagePercent.or p.cpuUsagePercent
  secureBoot := q.secureBoot.or p.secureBoot
  secureBootTemplate := q.secureBootTemplate.or p.secureBootTemplate
  autoStartAction := q.autoStartAction.or p.autoStartAction
  autoStartDelaySec := q.autoStartDelaySec.or p.autoStartDelaySec
  autoStopAction := q.autoStopAction.or p.autoStopAction
  configPath := q.configPath.or p.configPath
  dvdPath := q.dvdPath.or p.dvdPath
  notes := q.notes.or p.notes
  vmCreatedAt := q.vmCreatedAt.or p.vmCreatedAt
  disks := q.disks.or p.disks
  nics := q.nics.or p.nics
  snapshots := q.snapshots.or p.snapshots

/-- An object that says nothing. -/
def nothing : Said where
  name := none
  state := none
  metricsEnabled := none
  guestOs := none
  firmware := none
  vcpu := none
  atLeastOne := false
  memoryDynamic := none
  nestedVirtualization := none
  highlyAvailable := none
  uptimeSec := none
  memoryBytes := none
  memoryMinBytes := none
  memoryMaxBytes := none
  memoryDemandBytes := none
  cpuUsagePercent := none
  secureBoot := none
  secureBootTemplate := none
  autoStartAction := none
  autoStartDelaySec := none
  autoStopAction := none
  configPath := none
  dvdPath := none
  notes := none
  vmCreatedAt := none
  disks := none
  nics := none
  snapshots := none

variable {p q : Said} {vm vm' : Vm}

/-- The default of an alternative. -/
lemma getD_or {α : Type} (a b : Option α) (x : α) : (a.or b).getD x = a.getD (b.getD x) := by
  cases a <;> rfl

/-- One processor at least, asked twice. -/
lemma orOne_orOne (a b : Bool) (n : ℤ) : orOne a (orOne b n) = orOne (a || b) n := by
  unfold orOne
  cases a <;> cases b <;> simp only [Bool.false_eq_true, false_and, if_false, true_and, Bool.or_self,
    Bool.or_true, Bool.or_false]
  by_cases hn : n = 0
  · simp [hn]
  · simp [hn]

/-- Two writes of the number of processors are one. -/
lemma vcpu_comp (b : Option ℤ) (x y : Bool) (n : ℤ) :
    (b.map (orOne x)).getD (orOne (x || y) n) = orOne x (b.getD (orOne y n)) := by
  rcases b with _ | b
  · exact (orOne_orOne x y n).symm
  · rfl

/-- Two writes are one. -/
theorem apply_comp (q p : Said) (vm : Vm) : (q.comp p).apply vm = q.apply (p.apply vm) := by
  simp only [apply, comp, getD_or, Option.or_assoc, vcpu_comp]

/-- Saying nothing writes nothing. -/
@[simp] theorem apply_nothing (vm : Vm) : nothing.apply vm = vm := by
  simp [apply, nothing, orOne]

/-- A number of processors written again. -/
lemma vcpu_self (a : Option ℤ) (x : Bool) (n : ℤ) :
    a.getD (orOne x (a.getD (orOne x n))) = a.getD (orOne x n) := by
  rcases a with _ | a
  · rw [Option.getD_none, Option.getD_none, orOne_orOne, Bool.or_self]
  · rfl

/-- A write made twice is made once. -/
theorem apply_self (p : Said) (vm : Vm) : p.apply (p.apply vm) = p.apply vm := by
  have hcol : ∀ {α : Type} (a : Option α) (x : α), a.getD (a.getD x) = a.getD x := by
    intro α a x
    cases a <;> rfl
  have hor : ∀ {α : Type} (a b : Option α), a.or (a.or b) = a.or b := by
    intro α a b
    cases a <;> rfl
  simp only [apply, hcol, hor, vcpu_self]

/-- A value that fits a column fits it whatever it replaces. -/
lemma check_getD {α : Type} {check : α → Bool} {a : Option α} {x y : α}
    (h : check (a.getD x) = true) (hy : check y = true) : check (a.getD y) = true := by
  cases a
  · exact hy
  · exact h

/-- Values that pass a check, said or kept. -/
lemma all_getD {α : Type} {check : α → Bool} {a : Option (List α)} {x y : List α}
    (h : (a.getD x).all check = true) (hy : y.all check = true) : (a.getD y).all check = true := by
  cases a
  · exact hy
  · exact h

/-- One processor at least fits the column. -/
lemma fitsInt_orOne {x : Bool} {n : ℤ} (h : Column.fitsInt 4 n = true) :
    Column.fitsInt 4 (orOne x n) = true := by
  unfold orOne
  split_ifs
  · decide
  · exact h

/-- A write that fits one row fits every row that fits: it says the same of both. -/
theorem bindable (h : (p.apply vm).bindable = true) (h' : vm'.bindable = true)
    (hguid : vm'.vmUuid = vm.vmUuid) : (p.apply vm').bindable = true := by
  simp only [Vm.bindable, Bool.and_eq_true, apply] at h h' ⊢
  obtain ⟨⟨⟨⟨⟨⟨⟨⟨⟨⟨⟨⟨⟨⟨⟨⟨⟨⟨⟨⟨⟨⟨⟨⟨h₁, h₂⟩, h₃⟩, h₄⟩, h₅⟩, h₆⟩, h₇⟩, h₈⟩, h₉⟩, h₁₀⟩, h₁₁⟩, h₁₂⟩, h₁₃⟩,
    h₁₄⟩, h₁₅⟩, h₁₆⟩, h₁₇⟩, h₁₈⟩, h₁₉⟩, h₂₀⟩, h₂₁⟩, -⟩, h₂₃⟩, h₂₄⟩, h₂₅⟩ := h
  obtain ⟨⟨⟨⟨⟨⟨⟨⟨⟨⟨⟨⟨⟨⟨⟨⟨⟨⟨⟨⟨⟨⟨⟨⟨-, g₂⟩, g₃⟩, g₄⟩, g₅⟩, g₆⟩, g₇⟩, g₈⟩, g₉⟩, g₁₀⟩, g₁₁⟩, g₁₂⟩, g₁₃⟩,
    g₁₄⟩, g₁₅⟩, g₁₆⟩, g₁₇⟩, g₁₈⟩, g₁₉⟩, g₂₀⟩, g₂₁⟩, g₂₂⟩, g₂₃⟩, g₂₄⟩, g₂₅⟩ := h'
  have hvcpu : Column.fitsInt 4 (p.vcpu.getD (orOne p.atLeastOne vm'.vcpu)) = true :=
    check_getD h₇ (fitsInt_orOne g₇)
  have hguest : Column.opt (Column.fits 255) (p.guestOs.or vm'.guestOs) = true := by
    cases hp : p.guestOs
    · exact g₅
    · rw [hp] at h₅
      exact h₅
  exact ⟨⟨⟨⟨⟨⟨⟨⟨⟨⟨⟨⟨⟨⟨⟨⟨⟨⟨⟨⟨⟨⟨⟨⟨hguid ▸ h₁, check_getD h₂ g₂⟩, check_getD h₃ g₃⟩, check_getD h₄ g₄⟩,
    hguest⟩, check_getD h₆ g₆⟩, hvcpu⟩, check_getD h₈ g₈⟩, check_getD h₉ g₉⟩, check_getD h₁₀ g₁₀⟩,
    check_getD h₁₁ g₁₁⟩, check_getD h₁₂ g₁₂⟩, check_getD h₁₃ g₁₃⟩, check_getD h₁₄ g₁₄⟩,
    check_getD h₁₅ g₁₅⟩, check_getD h₁₆ g₁₆⟩, check_getD h₁₇ g₁₇⟩, check_getD h₁₈ g₁₈⟩,
    check_getD h₁₉ g₁₉⟩, check_getD h₂₀ g₂₀⟩, check_getD h₂₁ g₂₁⟩, g₂₂⟩, all_getD h₂₃ g₂₃⟩,
    all_getD h₂₄ g₂₄⟩, all_getD h₂₅ g₂₅⟩

end Said

/-! ## Rows and objects -/

/-- What a row is looked up by: its key, its GUID and its host. -/
def Vm.address (vm : Vm) : String × Option String × String := (vm.id, vm.vmUuid, vm.hostId)

/-- What an address is. -/
lemma address_eq_iff {vm old : Vm} :
    old.address = vm.address ↔ old.id = vm.id ∧ old.vmUuid = vm.vmUuid ∧ old.hostId = vm.hostId := by
  simp [Vm.address]

/-- An object of an answer has the GUID of the row. -/
def IsAbout (env : Env) (raw item : Dict) (vm : Vm) : Prop :=
  normalizeVm env raw = .ok item ∧
    ∃ u, item.get "vmUuid" = .str u ∧ u ≠ "" ∧ vm.vmUuid = some u

/-! ## Reading an object -/

section SaidOf

variable (env : Env) (raw item : Dict)

/-- A value for a column, when one of its raw keys is reported. -/
def saidWhen {α : Type} (rawKeys : List String) (value : α) : Option α :=
  if reports true raw rawKeys then some value else none

/-- A value that is written only when it is true. -/
def saidTruthy (rawKeys : List String) (key : String) : Option Json :=
  if reports true raw rawKeys && (item.get key).truthy then some (item.get key) else none

/-- The state: a reported state that is false keeps that of the row. -/
def saidState : Option Json := saidTruthy raw item ["state", "powerState"] "state"

/-- The metering flag. -/
def saidMetricsEnabled : Option Bool :=
  if (raw.get "metricsEnabled").isNone then none else some (item.get "metricsEnabled").truthy

/-- The guest OS. -/
def saidGuestOs : Option String :=
  match item.get "guestOs" with
  | .str s =>
    if (env.py.strip s).isEmpty then none
    else some (String.ofList ((env.py.strip s).toList.take 255))
  | _ => none

/-- The processor count. -/
def saidVcpu : Except Raised (Option ℤ) :=
  if reports true raw ["vcpu", "cpu"] && (item.get "vcpu").truthy then do
    let vcpu ← env.py.int (item.get "vcpu")
    pure (some vcpu)
  else pure none

/-- The creation time. -/
def saidCreatedAt : Option (Option Time) :=
  if reports true raw ["createdAt", "creationTime"] && (item.get "createdAt").truthy then
    some (parseDt env (item.get "createdAt"))
  else none

/-- A child collection. -/
def saidChildren {α : Type} (rawKeys : List String) (children : Except Raised (List α)) :
    Except Raised (Option (List α)) :=
  if reports true raw rawKeys then do
    let children ← children
    pure (some children)
  else pure none

/-- What the object says; it is the object that raises, never the row. -/
def saidOf : Except Raised Said := do
  let vcpu ← saidVcpu env raw item
  let disks ← saidChildren raw ["disks", "vhds"] (syncDisks env (item.get "disks"))
  let nics ← saidChildren raw ["nics"] (syncNics (item.get "nics"))
  let snapshots ← saidChildren raw ["snapshots"] (syncSnapshots env (item.get "snapshots"))
  let scalar := fun key rawKeys => saidWhen raw rawKeys (item.get key)
  let flag := fun key rawKeys => saidWhen raw rawKeys (item.get key).truthy
  pure {
    name := saidTruthy raw item ["name"] "name"
    state := saidState raw item
    metricsEnabled := saidMetricsEnabled raw item
    guestOs := saidGuestOs env item
    firmware := saidTruthy raw item ["firmware", "generation"] "firmware"
    vcpu
    atLeastOne := reports true raw ["vcpu", "cpu"]
    memoryDynamic := flag "memoryDynamic" ["memoryDynamic", "memory"]
    nestedVirtualization := flag "nestedVirtualization" ["nestedVirtualization", "nested"]
    highlyAvailable := flag "highlyAvailable" ["highlyAvailable", "ha"]
    uptimeSec := scalar "uptimeSec" ["uptimeSec"]
    memoryBytes := scalar "memoryBytes" ["memoryBytes", "memoryMb", "memoryMB", "memory"]
    memoryMinBytes := scalar "memoryMinBytes" ["memoryMinBytes", "memory"]
    memoryMaxBytes := scalar "memoryMaxBytes" ["memoryMaxBytes", "memory"]
    memoryDemandBytes := scalar "memoryDemandBytes" ["memoryDemandBytes", "memoryConsumedMb"]
    cpuUsagePercent := scalar "cpuUsagePercent" ["cpuUsagePercent", "cpuUsagePct"]
    secureBoot := scalar "secureBoot" ["secureBoot"]
    secureBootTemplate := scalar "secureBootTemplate" ["secureBootTemplate"]
    autoStartAction := scalar "autoStartAction" ["autoStartAction", "automaticStart"]
    autoStartDelaySec := scalar "autoStartDelaySec" ["autoStartDelaySec", "automaticStartDelay"]
    autoStopAction := scalar "autoStopAction" ["autoStopAction", "automaticStop"]
    configPath := scalar "configPath" ["configPath", "path"]
    dvdPath := scalar "dvdPath" ["dvdPath", "dvd"]
    notes := scalar "notes" ["notes"]
    vmCreatedAt := saidCreatedAt env raw item
    disks
    nics
    snapshots }

end SaidOf

/-! ## A write is what the object says -/

section

variable {env : Env} {now : Time} {raw item : Dict} {vm : Vm}

/-- The columns of `OpenVCenter.vmScalarFields`, in their order. -/
def vmScalarColumns : List (Vm → Json) :=
  [Vm.uptimeSec, Vm.memoryBytes, Vm.memoryMinBytes, Vm.memoryMaxBytes, Vm.memoryDemandBytes,
    Vm.cpuUsagePercent, Vm.secureBoot, Vm.secureBootTemplate, Vm.autoStartAction,
    Vm.autoStartDelaySec, Vm.autoStopAction, Vm.configPath, Vm.dvdPath, Vm.notes]

/-- Each scalar field is written over its own column. -/
lemma writeVmScalars_zip :
    writeVmScalars true raw item vm = (vmScalarFields.zip vmScalarColumns).foldl
      (fun vm f => f.1.1 vm ((saidWhen raw f.1.2.2 (item.get f.1.2.1)).getD (f.2 vm))) vm := by
  have hown : List.Forall₂ (fun field column => ∀ vm, field.1 vm (column vm) = vm)
      vmScalarFields vmScalarColumns := by
    unfold vmScalarFields vmScalarColumns
    repeat (first | exact List.Forall₂.nil | refine List.Forall₂.cons (fun _ => rfl) ?_)
  unfold writeVmScalars
  generalize vmScalarFields = fields at hown ⊢
  generalize vmScalarColumns = columns at hown ⊢
  induction hown generalizing vm with
  | nil => rfl
  | cons h _ ih =>
    rw [List.foldl_cons, List.zip_cons_cons, List.foldl_cons, ih]
    congr 1
    unfold saidWhen
    split_ifs
    · rfl
    · exact (h vm).symm

/-- The numbers of a part are those it says. -/
lemma writeVmScalars_subset :
    writeVmScalars true raw item vm =
      let scalar := fun key rawKeys => saidWhen raw rawKeys (item.get key)
      { vm with
        uptimeSec := (scalar "uptimeSec" ["uptimeSec"]).getD vm.uptimeSec
        memoryBytes :=
          (scalar "memoryBytes" ["memoryBytes", "memoryMb", "memoryMB", "memory"]).getD
            vm.memoryBytes
        memoryMinBytes :=
          (scalar "memoryMinBytes" ["memoryMinBytes", "memory"]).getD vm.memoryMinBytes
        memoryMaxBytes :=
          (scalar "memoryMaxBytes" ["memoryMaxBytes", "memory"]).getD vm.memoryMaxBytes
        memoryDemandBytes :=
          (scalar "memoryDemandBytes" ["memoryDemandBytes", "memoryConsumedMb"]).getD
            vm.memoryDemandBytes
        cpuUsagePercent :=
          (scalar "cpuUsagePercent" ["cpuUsagePercent", "cpuUsagePct"]).getD vm.cpuUsagePercent
        secureBoot := (scalar "secureBoot" ["secureBoot"]).getD vm.secureBoot
        secureBootTemplate :=
          (scalar "secureBootTemplate" ["secureBootTemplate"]).getD vm.secureBootTemplate
        autoStartAction :=
          (scalar "autoStartAction" ["autoStartAction", "automaticStart"]).getD vm.autoStartAction
        autoStartDelaySec :=
          (scalar "autoStartDelaySec" ["autoStartDelaySec", "automaticStartDelay"]).getD
            vm.autoStartDelaySec
        autoStopAction :=
          (scalar "autoStopAction" ["autoStopAction", "automaticStop"]).getD vm.autoStopAction
        configPath := (scalar "configPath" ["configPath", "path"]).getD vm.configPath
        dvdPath := (scalar "dvdPath" ["dvdPath", "dvd"]).getD vm.dvdPath
        notes := (scalar "notes" ["notes"]).getD vm.notes } := by
  rw [writeVmScalars_zip]
  rfl

/-- The name of a part is the one it says. -/
lemma writeName_subset : writeName true raw item vm =
    { vm with name := (saidTruthy raw item ["name"] "name").getD vm.name } := by
  unfold writeName saidTruthy
  by_cases hc : (reports true raw ["name"] && (item.get "name").truthy) = true
  · rw [if_pos hc, if_pos hc]
    rfl
  · rw [if_neg hc, if_neg hc]
    rfl

/-- So is its state. -/
lemma writeState_subset : writeState true raw item vm =
    { vm with state := (saidState raw item).getD vm.state } := by
  unfold writeState saidState saidTruthy Json.orElse
  cases reports true raw ["state", "powerState"]
  · rfl
  · cases (item.get "state").truthy
    · rfl
    · rfl

/-- So is its flag for metrics. -/
lemma writeMetricsEnabled_subset : writeMetricsEnabled raw item vm =
    { vm with
      metricsEnabled := (saidMetricsEnabled raw item).getD vm.metricsEnabled } := by
  unfold writeMetricsEnabled saidMetricsEnabled
  split_ifs <;> rfl

/-- So is its guest system. -/
lemma writeGuestOs_subset : writeGuestOs env item vm =
    { vm with guestOs := (saidGuestOs env item).or vm.guestOs } := by
  unfold writeGuestOs saidGuestOs
  cases item.get "guestOs" with
  | str s =>
    dsimp only
    split_ifs
    · rfl
    · rfl
  | null | bool _ | int _ | float _ | arr _ | obj _ => rfl

/-- So is its firmware. -/
lemma writeFirmware_subset : writeFirmware true raw item vm =
    { vm with
      firmware := (saidTruthy raw item ["firmware", "generation"] "firmware").getD vm.firmware } := by
  unfold writeFirmware saidTruthy
  by_cases hc : (reports true raw ["firmware", "generation"] && (item.get "firmware").truthy) = true
  · rw [if_pos hc, if_pos hc]
    rfl
  · rw [if_neg hc, if_neg hc]
    rfl

/-- So is each of its flags. -/
lemma writeFlag_subset {set : Vm → Bool → Vm} {column : Vm → Bool}
    (hown : ∀ vm, set vm (column vm) = vm) (key : String) (rawKeys : List String) (vm : Vm) :
    writeFlag true raw item set key rawKeys vm =
      set vm ((saidWhen raw rawKeys (item.get key).truthy).getD (column vm)) := by
  unfold writeFlag saidWhen
  split_ifs
  · rfl
  · exact (hown vm).symm

/-- So is its time of creation. -/
lemma writeCreatedAt_subset : writeCreatedAt env true raw item vm =
    { vm with vmCreatedAt := (saidCreatedAt env raw item).getD vm.vmCreatedAt } := by
  unfold writeCreatedAt saidCreatedAt
  split_ifs <;> rfl

/-- So is its number of processors. -/
lemma writeVcpu_subset : writeVcpu env true raw item vm =
    saidVcpu env raw item >>= fun vcpu => pure { vm with
      vcpu := vcpu.getD (Said.orOne (reports true raw ["vcpu", "cpu"]) vm.vcpu) } := by
  unfold writeVcpu saidVcpu
  cases reports true raw ["vcpu", "cpu"]
  · rfl
  · cases ht : (item.get "vcpu").truthy
    · have hfall : ((item.get "vcpu").orElse (.int vm.vcpu)).orElse (.int 1) =
          .int (Said.orOne true vm.vcpu) := by
        unfold Json.orElse Said.orOne
        rw [ht]
        by_cases hzero : vm.vcpu = 0
        · simp [hzero, Json.truthy]
        · simp [hzero, Json.truthy]
      simp only [if_true, hfall]
      rfl
    · have hfall : ((item.get "vcpu").orElse (.int vm.vcpu)).orElse (.int 1) = item.get "vcpu" := by
        unfold Json.orElse
        simp [ht]
      simp only [if_true, hfall, Bool.true_and]
      rcases env.py.int (item.get "vcpu") with e | vcpu
      · rfl
      · rfl

/-- So are its children, of each kind. -/
lemma writeChildren_subset {α : Type} {rawKeys : List String} {children : Except Raised (List α)}
    {set : Vm → List α → Vm} {column : Vm → List α} (hown : ∀ vm, set vm (column vm) = vm) :
    (if reports true raw rawKeys then children >>= fun children => pure (set vm children)
      else pure vm : Except Raised Vm) =
    saidChildren raw rawKeys children >>= fun children =>
      pure (set vm (children.getD (column vm))) := by
  unfold saidChildren
  split_ifs
  · cases children <;> rfl
  · exact congrArg Except.ok (hown vm).symm

/-- The columns written before the processor count. -/
def writeHead (raw item : Dict) (env : Env) (vm : Vm) : Vm :=
  writeFirmware true raw item (writeGuestOs env item (writeMetricsEnabled raw item
    (writeState true raw item (writeName true raw item vm))))

/-- The columns written between the processor count and the child collections. -/
def writeMiddle (raw item : Dict) (env : Env) (vm : Vm) : Vm :=
  writeCreatedAt env true raw item (writeVmScalars true raw item
    (writeFlag true raw item (fun vm b => { vm with highlyAvailable := b })
      "highlyAvailable" ["highlyAvailable", "ha"]
      (writeFlag true raw item (fun vm b => { vm with nestedVirtualization := b })
        "nestedVirtualization" ["nestedVirtualization", "nested"]
        (writeFlag true raw item (fun vm b => { vm with memoryDynamic := b })
          "memoryDynamic" ["memoryDynamic", "memory"] vm))))

/-- The first columns that a part says. -/
lemma writeHead_subset : writeHead raw item env vm =
    { vm with
      name := (saidTruthy raw item ["name"] "name").getD vm.name
      state := (saidState raw item).getD vm.state
      metricsEnabled := (saidMetricsEnabled raw item).getD vm.metricsEnabled
      guestOs := (saidGuestOs env item).or vm.guestOs
      firmware := (saidTruthy raw item ["firmware", "generation"] "firmware").getD vm.firmware } := by
  unfold writeHead
  rw [writeName_subset, writeState_subset, writeMetricsEnabled_subset, writeGuestOs_subset,
    writeFirmware_subset]

/-- The columns in the middle. -/
lemma writeMiddle_subset : writeMiddle raw item env vm =
    let scalar := fun key rawKeys => saidWhen raw rawKeys (item.get key)
    let flag := fun key rawKeys => saidWhen raw rawKeys (item.get key).truthy
    { vm with
      memoryDynamic := (flag "memoryDynamic" ["memoryDynamic", "memory"]).getD vm.memoryDynamic
      nestedVirtualization :=
        (flag "nestedVirtualization" ["nestedVirtualization", "nested"]).getD
          vm.nestedVirtualization
      highlyAvailable := (flag "highlyAvailable" ["highlyAvailable", "ha"]).getD vm.highlyAvailable
      uptimeSec := (scalar "uptimeSec" ["uptimeSec"]).getD vm.uptimeSec
      memoryBytes :=
        (scalar "memoryBytes" ["memoryBytes", "memoryMb", "memoryMB", "memory"]).getD
          vm.memoryBytes
      memoryMinBytes :=
        (scalar "memoryMinBytes" ["memoryMinBytes", "memory"]).getD vm.memoryMinBytes
      memoryMaxBytes :=
        (scalar "memoryMaxBytes" ["memoryMaxBytes", "memory"]).getD vm.memoryMaxBytes
      memoryDemandBytes :=
        (scalar "memoryDemandBytes" ["memoryDemandBytes", "memoryConsumedMb"]).getD
          vm.memoryDemandBytes
      cpuUsagePercent :=
        (scalar "cpuUsagePercent" ["cpuUsagePercent", "cpuUsagePct"]).getD vm.cpuUsagePercent
      secureBoot := (scalar "secureBoot" ["secureBoot"]).getD vm.secureBoot
      secureBootTemplate :=
        (scalar "secureBootTemplate" ["secureBootTemplate"]).getD vm.secureBootTemplate
      autoStartAction :=
        (scalar "autoStartAction" ["autoStartAction", "automaticStart"]).getD vm.autoStartAction
      autoStartDelaySec :=
        (scalar "autoStartDelaySec" ["autoStartDelaySec", "automaticStartDelay"]).getD
          vm.autoStartDelaySec
      autoStopAction :=
        (scalar "autoStopAction" ["autoStopAction", "automaticStop"]).getD vm.autoStopAction
      configPath := (scalar "configPath" ["configPath", "path"]).getD vm.configPath
      dvdPath := (scalar "dvdPath" ["dvdPath", "dvd"]).getD vm.dvdPath
      notes := (scalar "notes" ["notes"]).getD vm.notes
      vmCreatedAt := (saidCreatedAt env raw item).getD vm.vmCreatedAt } := by
  have hdynamic := @writeFlag_subset raw item (fun vm b => { vm with memoryDynamic := b })
    Vm.memoryDynamic (fun _ => rfl) "memoryDynamic" ["memoryDynamic", "memory"]
  have hnested := @writeFlag_subset raw item (fun vm b => { vm with nestedVirtualization := b })
    Vm.nestedVirtualization (fun _ => rfl) "nestedVirtualization" ["nestedVirtualization", "nested"]
  have havailable := @writeFlag_subset raw item (fun vm b => { vm with highlyAvailable := b })
    Vm.highlyAvailable (fun _ => rfl) "highlyAvailable" ["highlyAvailable", "ha"]
  unfold writeMiddle
  rw [hdynamic, hnested, havailable, writeVmScalars_subset, writeCreatedAt_subset]

/-- The columns from the child collections on. -/
def writeTail (raw item : Dict) (env : Env) (now : Time) (vm : Vm) : Except Raised Vm := do
  let vm ← writeDisks env true raw item vm
  let vm ← writeNics true raw item vm
  let vm ← writeSnapshots env true raw item vm
  pure (vm.setRefreshed now)

/-- The children and the time of the refresh. -/
lemma writeTail_subset :
    writeTail raw item env now vm =
      saidChildren raw ["disks", "vhds"] (syncDisks env (item.get "disks")) >>= fun disks =>
      saidChildren raw ["nics"] (syncNics (item.get "nics")) >>= fun nics =>
      saidChildren raw ["snapshots"] (syncSnapshots env (item.get "snapshots")) >>= fun snapshots =>
      pure (Vm.setRefreshed now { vm with
        disks := disks.getD vm.disks
        nics := nics.getD vm.nics
        snapshots := snapshots.getD vm.snapshots }) := by
  have hdisks : ∀ vm, writeDisks env true raw item vm = _ := fun vm =>
    @writeChildren_subset raw vm VmDisk ["disks", "vhds"] (syncDisks env (item.get "disks"))
      (fun vm c => { vm with disks := c }) Vm.disks fun _ => rfl
  have hnics : ∀ vm, writeNics true raw item vm = _ := fun vm =>
    @writeChildren_subset raw vm VmNic ["nics"] (syncNics (item.get "nics"))
      (fun vm c => { vm with nics := c }) Vm.nics fun _ => rfl
  have hsnapshots : ∀ vm, writeSnapshots env true raw item vm = _ := fun vm =>
    @writeChildren_subset raw vm VmSnapshot ["snapshots"]
      (syncSnapshots env (item.get "snapshots")) (fun vm c => { vm with snapshots := c })
      Vm.snapshots fun _ => rfl
  unfold writeTail
  rw [hdisks]
  rcases saidChildren raw ["disks", "vhds"] (syncDisks env (item.get "disks")) with e | disks
  · rfl
  change (writeNics true raw item _ >>= _) = (_ >>= _)
  rw [hnics]
  rcases saidChildren raw ["nics"] (syncNics (item.get "nics")) with e | nics
  · rfl
  change (writeSnapshots env true raw item _ >>= _) = (_ >>= _)
  rw [hsnapshots]
  rcases saidChildren raw ["snapshots"] (syncSnapshots env (item.get "snapshots")) with
    e | snapshots
  · rfl
  · rfl

/-- A partial write applies what the object says, whatever the row. -/
theorem writeVmRow_subset (hostId : String) (clusterId : Option String) :
    writeVmRow env now true raw item hostId clusterId vm =
      saidOf env raw item >>= fun p =>
        pure (((p.apply vm).setOwner hostId clusterId).setRefreshed now) := by
  have hrun : writeVmRow env now true raw item hostId clusterId vm =
      writeVcpu env true raw item (writeHead raw item env (vm.setOwner hostId clusterId)) >>=
        fun vm => writeTail raw item env now (writeMiddle raw item env vm) := rfl
  rw [hrun, writeVcpu_subset]
  unfold saidOf
  rcases saidVcpu env raw item with e | vcpu
  · rfl
  change writeTail raw item env now _ = _
  rw [writeTail_subset, writeMiddle_subset, writeHead_subset]
  rcases saidChildren raw ["disks", "vhds"] (syncDisks env (item.get "disks")) with e | disks
  · rfl
  rcases saidChildren raw ["nics"] (syncNics (item.get "nics")) with e | nics
  · rfl
  rcases saidChildren raw ["snapshots"] (syncSnapshots env (item.get "snapshots")) with
    e | snapshots
  · rfl
  · rfl

end

end OpenVCenter
