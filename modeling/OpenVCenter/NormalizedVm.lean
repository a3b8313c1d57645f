import OpenVCenter.Conversions

set_option relaxedAutoImplicit false
set_option autoImplicit false

/-!
# What a normalized item is made of

The canonical object of an item copies most keys. What is converted, and may raise, are six numbers
and the three child lists; this file takes the object apart into these.

## Main definitions

* `OpenVCenter.VmParts` — what is converted; `OpenVCenter.VmParts.Of` — from which item.
* `OpenVCenter.VmParts.object` — the canonical object.

## Main results

* `OpenVCenter.normalizeVm_eq_ok` — what `normalize_vm` returns.
-/

namespace OpenVCenter

variable (env : Env) (item : Dict)

/-! ## What is read -/

/-- The processor count. -/
def vmVcpu : Json :=
  if (item.get "vcpu").isNone then
    match item.get "cpu" with
    | .obj cpu => Dict.get cpu "vcpus"
    | _ => .null
  else item.get "vcpu"

/-- `mem_obj`. -/
def vmMemObj : Dict := (item.get "memory").asDict?.getD []

/-- `memory_bytes`. -/
def vmMemoryBytes : Except Raised Json :=
  let v := (firstOf item ["memoryBytes"]).orElse ((vmMemObj item).get "assignedBytes")
  if v.isNone then do
    let n ← mibToBytes env (firstOf item ["memoryMb", "memoryMB"])
    pure (Json.int (n.getD 0))
  else pure v

/-- `memory_min`. -/
def vmMemoryMin : Json :=
  (firstOf item ["memoryMinBytes"]).orElse ((vmMemObj item).get "minBytes")

/-- `memory_max`. -/
def vmMemoryMax : Json :=
  (firstOf item ["memoryMaxBytes"]).orElse ((vmMemObj item).get "maxBytes")

/-- `memory_dynamic`. -/
def vmMemoryDynamic : Bool :=
  ((item.get "memoryDynamic").orElse ((vmMemObj item).get "dynamic")).truthy

/-- `memory_demand`. -/
def vmMemoryDemand : Except Raised Json :=
  let v := firstOf item ["memoryDemandBytes"]
  if v.isNone then do
    let n ← mibToBytes env (firstOf item ["memoryConsumedMb"])
    pure (Json.ofInt? n)
  else pure v

/-! ## The parts -/

/-- The converted values of an item. -/
structure VmParts where
  memoryBytes : Option ℤ
  memoryMinBytes : Option ℤ
  memoryMaxBytes : Option ℤ
  memoryDemandBytes : Option ℤ
  cpuUsagePercent : Option PyFloat
  autoStartDelaySec : Option ℤ
  disks : Json
  nics : Json
  snapshots : Json

/-- The values are those of the item. -/
structure VmParts.Of (p : VmParts) : Prop where
  memoryBytes : (vmMemoryBytes env item >>= asInt env) = .ok p.memoryBytes
  memoryMinBytes : asInt env (vmMemoryMin item) = .ok p.memoryMinBytes
  memoryMaxBytes : asInt env (vmMemoryMax item) = .ok p.memoryMaxBytes
  memoryDemandBytes : (vmMemoryDemand env item >>= asInt env) = .ok p.memoryDemandBytes
  cpuUsagePercent :
    asFloat env (firstOf item ["cpuUsagePercent", "cpuUsagePct"]) = .ok p.cpuUsagePercent
  autoStartDelaySec :
    asInt env (firstOf item ["autoStartDelaySec", "automaticStartDelay"]) = .ok p.autoStartDelaySec
  disks : normalizeDisks env item = .ok p.disks
  nics : normalizeNics env item = .ok p.nics
  snapshots : normalizeSnapshots item = .ok p.snapshots

/-- The canonical object of an item with these values. -/
def VmParts.object (p : VmParts) : Dict := [
  ("vmUuid", (item.get "id").orElse (item.get "vmId")),
  ("name", item.get "name"),
  ("state", item.getD "state" (.str "Unknown")),
  ("metricsEnabled", item.get "metricsEnabled"),
  ("firmware", firmwareOf env item),
  ("guestOs", item.get "guestOs"),
  ("uptimeSec", item.get "uptimeSec"),
  ("vcpu", vmVcpu item),
  ("memoryBytes", .int (p.memoryBytes.getD 0)),
  ("memoryMinBytes", .ofInt? p.memoryMinBytes),
  ("memoryMaxBytes", .ofInt? p.memoryMaxBytes),
  ("memoryDynamic", .bool (vmMemoryDynamic item)),
  ("memoryDemandBytes", .ofInt? p.memoryDemandBytes),
  ("cpuUsagePercent", .ofFloat? p.cpuUsagePercent),
  ("secureBoot", item.get "secureBoot"),
  ("secureBootTemplate", (item.get "secureBootTemplate").orElse .null),
  ("nestedVirtualization", .bool (firstOf item ["nestedVirtualization", "nested"]).truthy),
  ("autoStartAction", firstOf item ["autoStartAction", "automaticStart"]),
  ("autoStartDelaySec", .ofInt? p.autoStartDelaySec),
  ("autoStopAction", firstOf item ["autoStopAction", "automaticStop"]),
  ("configPath", firstOf item ["configPath", "path"]),
  ("dvdPath", firstOf item ["dvdPath", "dvd"]),
  ("highlyAvailable", .bool (firstOf item ["highlyAvailable", "ha"]).truthy),
  ("disks", p.disks),
  ("nics", p.nics),
  ("snapshots", p.snapshots),
  ("notes", item.get "notes"),
  ("createdAt", (item.get "createdAt").orElse (item.get "creationTime"))]

variable {env item}

/-- **What `normalize_vm` returns**: the object of the values of the item. -/
theorem normalizeVm_eq_ok {x : Dict} :
    normalizeVm env item = .ok x ↔ ∃ p : VmParts, p.Of env item ∧ x = p.object env item := by
  constructor
  · intro h
    obtain ⟨memory, hmemory, h⟩ := Effect.except_bind_eq_ok.mp h
    obtain ⟨demand, hdemand, h⟩ := Effect.except_bind_eq_ok.mp h
    obtain ⟨disks, hdisks, h⟩ := Effect.except_bind_eq_ok.mp h
    obtain ⟨nics, hnics, h⟩ := Effect.except_bind_eq_ok.mp h
    obtain ⟨snapshots, hsnapshots, h⟩ := Effect.except_bind_eq_ok.mp h
    obtain ⟨memoryBytes, hmemoryBytes, h⟩ := Effect.except_bind_eq_ok.mp h
    obtain ⟨memoryMin, hmemoryMin, h⟩ := Effect.except_bind_eq_ok.mp h
    obtain ⟨memoryMax, hmemoryMax, h⟩ := Effect.except_bind_eq_ok.mp h
    obtain ⟨memoryDemand, hmemoryDemand, h⟩ := Effect.except_bind_eq_ok.mp h
    obtain ⟨cpu, hcpu, h⟩ := Effect.except_bind_eq_ok.mp h
    obtain ⟨delay, hdelay, h⟩ := Effect.except_bind_eq_ok.mp h
    exact ⟨⟨memoryBytes, memoryMin, memoryMax, memoryDemand, cpu, delay, disks, nics, snapshots⟩,
      { memoryBytes := Effect.except_bind_eq_ok.mpr ⟨memory, hmemory, hmemoryBytes⟩
        memoryMinBytes := hmemoryMin
        memoryMaxBytes := hmemoryMax
        memoryDemandBytes := Effect.except_bind_eq_ok.mpr ⟨demand, hdemand, hmemoryDemand⟩
        cpuUsagePercent := hcpu
        autoStartDelaySec := hdelay
        disks := hdisks
        nics := hnics
        snapshots := hsnapshots }, (Except.ok.inj h).symm⟩
  · rintro ⟨p, hp, rfl⟩
    obtain ⟨memory, hmemory, hmemoryBytes⟩ := Effect.except_bind_eq_ok.mp hp.memoryBytes
    obtain ⟨demand, hdemand, hmemoryDemand⟩ := Effect.except_bind_eq_ok.mp hp.memoryDemandBytes
    refine Effect.except_bind_eq_ok.mpr ⟨memory, hmemory, ?_⟩
    refine Effect.except_bind_eq_ok.mpr ⟨demand, hdemand, ?_⟩
    refine Effect.except_bind_eq_ok.mpr ⟨p.disks, hp.disks, ?_⟩
    refine Effect.except_bind_eq_ok.mpr ⟨p.nics, hp.nics, ?_⟩
    refine Effect.except_bind_eq_ok.mpr ⟨p.snapshots, hp.snapshots, ?_⟩
    refine Effect.except_bind_eq_ok.mpr ⟨p.memoryBytes, hmemoryBytes, ?_⟩
    refine Effect.except_bind_eq_ok.mpr ⟨p.memoryMinBytes, hp.memoryMinBytes, ?_⟩
    refine Effect.except_bind_eq_ok.mpr ⟨p.memoryMaxBytes, hp.memoryMaxBytes, ?_⟩
    refine Effect.except_bind_eq_ok.mpr ⟨p.memoryDemandBytes, hmemoryDemand, ?_⟩
    refine Effect.except_bind_eq_ok.mpr ⟨p.cpuUsagePercent, hp.cpuUsagePercent, ?_⟩
    exact Effect.except_bind_eq_ok.mpr ⟨p.autoStartDelaySec, hp.autoStartDelaySec, rfl⟩

end OpenVCenter
