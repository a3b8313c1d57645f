import OpenVCenter.Session

set_option relaxedAutoImplicit false
set_option autoImplicit false

/-!
# Normalizing an inventory item

`services/inventory.py` from `_parse_dt` to `normalize_vm`: an agent's description of a VM in
its several spellings is mapped to one canonical object.

## Main definitions

* `OpenVCenter.normalizeVm` — the canonical object of an item, or what the item raises.
* `OpenVCenter.popThumbnail` — the decoded console image of an item.

## Design

The conversions of one item are listed in the order the source makes them, as an item may raise
at several of them: a disk size that is no number, a format that is no string, a list that
cannot be iterated.
-/

namespace OpenVCenter

variable (env : Env)

/-! ## Conversions -/

/-- `_parse_dt`. -/
def parseDt (value : Json) : Option Time :=
  if value.truthy then
    env.py.fromisoformat
      (String.ofList ((env.py.str value).toList.flatMap fun c =>
        if c = 'Z' then ['+', '0', '0', ':', '0', '0'] else [c]))
  else none

/-- `int(round(float(value)))` of a value that is not None, None for a value that is no number
(`_as_int`). -/
def asInt (value : Json) : Except Raised (Option ℤ) :=
  if value.isNone then .ok none
  else noneOnTypeOrValueError (env.py.float value >>= PyFloat.toIntRound)

/-- `_as_float`. -/
def asFloat (value : Json) : Except Raised (Option PyFloat) :=
  if value.isNone then .ok none
  else noneOnTypeOrValueError (env.py.float value)

/-- `_MIB`. -/
def mib : ℕ := 1024 ^ 2

/-- `_GIB`. -/
def gib : ℕ := 1024 ^ 3

/-- `_mib_to_bytes`. -/
def mibToBytes (value : Json) : Except Raised (Option ℤ) :=
  if value.isNone then .ok none
  else noneOnTypeOrValueError (env.py.float value >>= fun x => (x.scale mib).toIntRound)

/-- None or an integer, as a Python value. -/
def Json.ofInt? : Option ℤ → Json
  | some n => .int n
  | none => .null

/-- None or a double, as a Python value. -/
def Json.ofFloat? : Option PyFloat → Json
  | some x => .float x
  | none => .null

/-- `_first`: the first value of the keys that is not None. -/
def firstOf (item : Dict) : List String → Json
  | [] => .null
  | k :: ks => if (item.get k).isNone then firstOf item ks else item.get k

/-- `_split_ips`. -/
def splitIps : Json → List Json
  | .arr l => (l.filter Json.truthy).map fun v => .str (env.py.str v)
  | .str s => (env.py.splitList s).map .str
  | _ => []

/-- `v == 1`. -/
def Json.isOne : Json → Bool
  | .int i => decide (i = 1)
  | .bool b => b
  | .float (.fin d) => decide (d.value = 1)
  | _ => false

/-- `_firmware_of`. -/
def firmwareOf (item : Dict) : Json :=
  let fw := env.py.upper (env.py.str ((item.get "firmware").orElse (.str "")))
  if fw = "BIOS" ∨ fw = "UEFI" then .str fw
  else if (item.get "generation").isOne then .str "BIOS" else .str "UEFI"

/-- `s.upper()` of a value that must be a string. -/
def upperOf : Json → Except Raised Json
  | .str s => .ok (.str (env.py.upper s))
  | _ => .error .attributeError

/-- The objects of a list (`if isinstance(v, dict)`). -/
def dictsOf (l : List Json) : List Dict := l.filterMap Json.asDict?

/-! ## Thumbnails -/

/-- `MAX_THUMBNAIL_BYTES`. -/
def maxThumbnailBytes : ℕ := 256 * 1024

/-- `_pop_thumbnail`: the decoded image; the item loses its `thumbnail` key either way. -/
def popThumbnail (raw : Dict) : Option (List UInt8) × Dict :=
  let image := match raw.get "thumbnail" with
    | .str s =>
      if s.isEmpty then none
      else match env.py.b64decode s with
        | some image =>
          if image.length ≤ maxThumbnailBytes ∧ image.take 3 = [0xff, 0xd8, 0xff] then some image
          else none
        | none => none
    | _ => none
  (image, raw.erase "thumbnail")

/-! ## Disks, adapters, snapshots -/

/-- One entry of the agent's `vhds`. -/
def normalizeVhd (v : Dict) : Except Raised Json := do
  let size ← env.py.float ((v.get "sizeGb").orElse (.int 0))
  let sizeBytes ← (size.scale gib).toIntRound
  let usedBytes ← asInt env (v.get "usedBytes")
  let format ← upperOf env ((v.get "format").orElse (.str ""))
  pure (.obj [("id", ((v.get "diskId").orElse (v.get "id")).orElse (.str "")),
    ("path", v.getD "path" (.str "")), ("controller", v.getD "controller" (.str "")),
    ("sizeBytes", .int sizeBytes), ("usedBytes", .ofInt? usedBytes),
    ("type", (v.get "type").orElse (.str "")), ("format", format)])

/-- `item["disks"]`, or the agent's `vhds`. -/
def normalizeDisks (item : Dict) : Except Raised Json :=
  if (item.get "disks").isNone then do
    let vhds ← ((item.get "vhds").orElse (.arr [])).iterate
    let disks ← (dictsOf vhds).mapM (normalizeVhd env)
    pure (.arr disks)
  else pure (item.get "disks")

/-- One adapter in the agent's spelling. -/
def normalizeNic (n : Dict) : Json :=
  .obj [("id", n.getD "id" (.str "")), ("name", n.getD "name" (.str "")),
    ("switchName", ((n.get "switchName").orElse (n.get "networkId")).orElse (.str "")),
    ("vlanId", n.get "vlanId"), ("macAddress", n.getD "macAddress" (.str "")),
    ("ipAddresses", .arr (splitIps env (n.get "ipAddresses"))),
    ("connected", .bool (n.getD "connected" (.bool true)).truthy)]

/-- `nics[0]` of a truthy value. -/
def firstElement : Json → Except Raised Json
  | .arr (v :: _) => .ok v
  | .str s => .ok (.str (String.ofList (s.toList.take 1)))
  | .obj _ => .error .keyError
  | _ => .error .typeError

/-- The adapters: the first one decides whether the list is in the agent's spelling. -/
def normalizeNics (item : Dict) : Except Raised Json := do
  let nics := (item.get "nics").orElse (.arr [])
  if nics.truthy then
    match ← firstElement nics with
    | .obj first =>
      if Dict.has first "switchName" then pure nics
      else do
        let elems ← nics.iterate
        pure (.arr ((dictsOf elems).map (normalizeNic env)))
    | _ => pure nics
  else pure nics

/-- One snapshot. -/
def normalizeSnapshot (s : Dict) : Json :=
  .obj [("id", ((s.get "id").orElse (s.get "snapshotId")).orElse (.str "")),
    ("name", s.getD "name" (.str "")), ("parentId", (s.get "parentId").orElse (s.get "parentSnapshotId")),
    ("type", ((s.get "type").orElse (s.get "snapshotType")).orElse .null),
    ("createdAt", (s.get "createdAt").orElse (s.get "creationTime"))]

/-- The snapshots. -/
def normalizeSnapshots (item : Dict) : Except Raised Json := do
  let elems ← (if (item.get "snapshots").isNone then .arr [] else item.get "snapshots").iterate
  pure (.arr ((dictsOf elems).map normalizeSnapshot))

/-! ## The item -/

/-- `normalize_vm`. -/
def normalizeVm (item : Dict) : Except Raised Dict := do
  let vcpu := if (item.get "vcpu").isNone then
      match item.get "cpu" with
      | .obj cpu => Dict.get cpu "vcpus"
      | _ => .null
    else item.get "vcpu"
  let memObj := (item.get "memory").asDict?.getD []
  let memoryBytes ← (do
    let v := (firstOf item ["memoryBytes"]).orElse (memObj.get "assignedBytes")
    if v.isNone then do
      let n ← mibToBytes env (firstOf item ["memoryMb", "memoryMB"])
      pure (Json.int (n.getD 0))
    else pure v)
  let memoryMin := (firstOf item ["memoryMinBytes"]).orElse (memObj.get "minBytes")
  let memoryMax := (firstOf item ["memoryMaxBytes"]).orElse (memObj.get "maxBytes")
  let memoryDynamic := ((item.get "memoryDynamic").orElse (memObj.get "dynamic")).truthy
  let memoryDemand ← (do
    let v := firstOf item ["memoryDemandBytes"]
    if v.isNone then do
      let n ← mibToBytes env (firstOf item ["memoryConsumedMb"])
      pure (Json.ofInt? n)
    else pure v)
  let disks ← normalizeDisks env item
  let nics ← normalizeNics env item
  let snapshots ← normalizeSnapshots item
  let memoryBytes ← asInt env memoryBytes
  let memoryMinBytes ← asInt env memoryMin
  let memoryMaxBytes ← asInt env memoryMax
  let memoryDemandBytes ← asInt env memoryDemand
  let cpuUsagePercent ← asFloat env (firstOf item ["cpuUsagePercent", "cpuUsagePct"])
  let autoStartDelaySec ← asInt env (firstOf item ["autoStartDelaySec", "automaticStartDelay"])
  pure [
    ("vmUuid", (item.get "id").orElse (item.get "vmId")),
    ("name", item.get "name"),
    ("state", item.getD "state" (.str "Unknown")),
    ("metricsEnabled", item.get "metricsEnabled"),
    ("firmware", firmwareOf env item),
    ("guestOs", item.get "guestOs"),
    ("uptimeSec", item.get "uptimeSec"),
    ("vcpu", vcpu),
    ("memoryBytes", .int (memoryBytes.getD 0)),
    ("memoryMinBytes", .ofInt? memoryMinBytes),
    ("memoryMaxBytes", .ofInt? memoryMaxBytes),
    ("memoryDynamic", .bool memoryDynamic),
    ("memoryDemandBytes", .ofInt? memoryDemandBytes),
    ("cpuUsagePercent", .ofFloat? cpuUsagePercent),
    ("secureBoot", item.get "secureBoot"),
    ("secureBootTemplate", (item.get "secureBootTemplate").orElse .null),
    ("nestedVirtualization",
      .bool (firstOf item ["nestedVirtualization", "nested"]).truthy),
    ("autoStartAction", firstOf item ["autoStartAction", "automaticStart"]),
    ("autoStartDelaySec", .ofInt? autoStartDelaySec),
    ("autoStopAction", firstOf item ["autoStopAction", "automaticStop"]),
    ("configPath", firstOf item ["configPath", "path"]),
    ("dvdPath", firstOf item ["dvdPath", "dvd"]),
    ("highlyAvailable", .bool (firstOf item ["highlyAvailable", "ha"]).truthy),
    ("disks", disks),
    ("nics", nics),
    ("snapshots", snapshots),
    ("notes", item.get "notes"),
    ("createdAt", (item.get "createdAt").orElse (item.get "creationTime"))]

end OpenVCenter
