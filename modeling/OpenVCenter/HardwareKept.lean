import OpenVCenter.HardwareReads
import OpenVCenter.Integrity

set_option relaxedAutoImplicit false
set_option autoImplicit false

/-!
# The last known hardware of a host

A report is stored when `normalize_hardware` makes something of it, and served when that validates.
The two descriptions of the hardware differ: a report may replace what is served by what is not.

## Main definitions

* `OpenVCenter.Serves` — hardware is served for a host.
* `OpenVCenter.LegacyTyped` — the legacy payloads whose mapping validates.
* `OpenVCenter.ReportKept` — the reports that are served, or not stored.

## Main results

* `OpenVCenter.hostInventory_step` — a report is stored as it is normalized, or nothing changes.
* `OpenVCenter.serves_step_iff` — **when a host that is served is still served after a report**.
-/

namespace OpenVCenter

open Effect Fallible

variable {env : Env}

/-! ## What is stored -/

/-- What a report is normalized to. -/
def reported (env : Env) (payload : Json) : Option Dict :=
  match hardwareOf payload >>= normalizeHardware env with
  | .ok hardware => hardware
  | .error _ => none

/-- The `hardware` column refuses only what JSONB refuses. -/
lemma bindable_withHardware {host : Host} {hardware : Json} (h : host.bindable = true) :
    ({ host with hardware := hardware } : Host).bindable = !hardware.unstorable := by
  simp only [Host.bindable, Bool.and_eq_true] at h ⊢
  simp [h, Column.jsonb]

/-- A report is normalized, and then written unless nothing is left of it. -/
lemma applyHostInventory_read {w : World} {hostId : String} {payload : Json} {host : Host}
    (h : w.db.host hostId = some host) :
    applyHostInventory env hostId payload w =
      (Prog.ofExcept (hardwareOf payload >>= normalizeHardware env) >>= fun hardware =>
        (match hardware with
        | none => pure ()
        | some hardware =>
          modifyDb fun db => db.storeHost { host with hardware := .obj hardware } : M Unit)) w := by
  unfold applyHostInventory
  rw [Prog.read_bind_run]
  simp only [h]
  rcases hardwareOf payload <;> rfl

/-- A report writes its host, or nothing. -/
lemma applyHostInventory_run {w : World} {hostId : String} {payload : Json} {host : Host}
    (h : w.db.host hostId = some host) :
    match reported env payload with
    | some hardware => applyHostInventory env hostId payload w =
        (.ok (), { w with db := w.db.storeHost { host with hardware := .obj hardware } })
    | none => ∃ a, applyHostInventory env hostId payload w = (a, w) := by
  rw [applyHostInventory_read h, reported]
  rcases hardwareOf payload >>= normalizeHardware env with e | _ | hardware
  · exact ⟨.error e, rfl⟩
  · exact ⟨.ok (), rfl⟩
  · rfl

/-- A report that is normalized to what can be stored replaces the hardware of its host; any other
changes no row.

**Proof sketch.** The message of an unknown host and a report that is not normalized change nothing.
For a normalized one the store is consistent exactly when the hardware can be stored; the savepoint
keeps it then and rolls it back otherwise. -/
theorem hostInventory_step (s : Committed) (hostId : String) (payload : Json) :
    (∃ host hardware, s.world.db.host hostId = some host ∧ reported env payload = some hardware ∧
      (Json.obj hardware).unstorable = false ∧
      (System.step env s (.hostInventory hostId payload)).world.db =
        s.world.db.storeHost { host with hardware := .obj hardware }) ∨
    ((System.step env s (.hostInventory hostId payload)).world.db = s.world.db ∧
      ∀ host hardware, s.world.db.host hostId = some host → reported env payload = some hardware →
        (Json.obj hardware).unstorable = true) := by
  set w : World :=
    { s.world with txStart := s.world.now - Event.lag (.hostInventory hostId payload) } with hw
  have hc : w.db.Consistent := s.consistent
  have hstep : (System.step env s (.hostInventory hostId payload)).world =
      (savepoint (applyHostInventory env hostId payload) w).2 := rfl
  rw [hstep]
  rcases hhost : s.world.db.host hostId with _ | host
  · have hrun : applyHostInventory env hostId payload w = (.ok (), w) := by
      unfold applyHostInventory
      rw [Prog.read_bind_run]
      simp only [hw, hhost]
      rfl
    rw [savepoint_eq_ok.mpr ⟨hrun, hc⟩]
    exact Or.inr ⟨rfl, fun _ _ h => nomatch h⟩
  have hrun := @applyHostInventory_run env w hostId payload host hhost
  rcases hreported : reported env payload with _ | hardware
  · rw [hreported] at hrun
    obtain ⟨a, hrun⟩ := hrun
    refine Or.inr ⟨?_, fun _ _ _ h => nomatch h⟩
    rcases a with e | u
    · rw [savepoint_of_raise hrun]
      rfl
    · rw [savepoint_eq_ok.mpr ⟨hrun, hc⟩]
  rw [hreported] at hrun
  have hid : host.id = hostId := Table.key_of_lookup hhost
  have hfound : w.db.host ({ host with hardware := .obj hardware } : Host).id = some host := by
    rw [← hhost, ← hid]
  have hfits := hc.storeHost_iff hfound rfl rfl
  rw [bindable_withHardware (hc.host_bindable (Table.mem_of_lookup hfound))] at hfits
  rcases hstorable : (Json.obj hardware).unstorable with _ | _
  · rw [hstorable] at hfits
    rw [savepoint_eq_ok.mpr ⟨hrun, hfits.mpr rfl⟩]
    exact Or.inl ⟨host, hardware, rfl, rfl, hstorable, rfl⟩
  · obtain ⟨e, hback⟩ := savepoint_of_inconsistent hrun fun hc' => by
      rw [hstorable] at hfits
      cases hfits.mp hc'
    rw [hback]
    refine Or.inr ⟨rfl, ?_⟩
    rintro _ _ ⟨⟩ ⟨⟩
    exact hstorable

/-! ## Legacy reports -/

/-- The canonical form of a legacy report that has something in it. -/
def legacyObject (d : Dict) (storage : List Dict) (memoryBytes logical sockets cores : ℤ)
    (cpuPercent memoryPercent : PyFloat) : Dict :=
  [("cpu", .obj [("model", (d.get "cpuModel").orElse (.str "")), ("sockets", .int sockets),
      ("cores", .int cores), ("logical", .int logical)]),
    ("memoryBytes", .int memoryBytes), ("storage", .arr (storage.map .obj)),
    ("os", .obj [("caption", (d.get "osName").orElse (.str "")),
      ("version", (d.get "osVersion").orElse (.str ""))]),
    ("network", .arr []), ("vSwitches", .arr []),
    ("load", .obj [("cpuPercent", .float cpuPercent), ("memoryPercent", .float memoryPercent)])] ++
    legacySections d

/-- A value that is false, or a text. -/
def textOrNothing (v : Json) : Bool := !v.truthy || Schema.str v

/-- The texts of a volume are texts. -/
def legacyVolumeTyped (vol : Dict) : Bool :=
  textOrNothing ((vol.get "path").orElse (vol.get "name")) && textOrNothing (vol.get "name")

/-- The legacy payloads whose mapping validates: the texts are texts, the boot time is a date, the
nodes of the cluster are a list of texts; what is false counts as missing. -/
def legacyTyped (pydantic : Pydantic) (d : Dict) : Bool :=
  textOrNothing (d.get "cpuModel") && (legacyVolumes d).all legacyVolumeTyped &&
  textOrNothing (d.get "osName") && textOrNothing (d.get "osVersion") &&
  textOrNothing (d.get "hwManufacturer") && textOrNothing (d.get "hwModel") &&
  (!(d.get "lastBootTime").truthy || pydantic.datetime (d.get "lastBootTime")) &&
  (if (d.get "clusterState").truthy ∨ (d.get "isCluster").truthy then
    textOrNothing (d.get "clusterName") && textOrNothing (d.get "clusterState") &&
    (!(d.get "clusterNodes").truthy || Schema.list Schema.str (d.get "clusterNodes"))
  else true) &&
  textOrNothing (d.get "defaultVmPath") && textOrNothing (d.get "defaultVhdPath")

/-- A value that is true and that PostgreSQL does not store. -/
def unstorableText (v : Json) : Bool := v.truthy && v.unstorable

/-- A text of a volume cannot be stored. -/
def legacyVolumeUnstorable (vol : Dict) : Bool :=
  unstorableText ((vol.get "path").orElse (vol.get "name")) || unstorableText (vol.get "name")

/-- A number that is not finite. -/
def notFinite (env : Env) (v : Json) : Bool :=
  match env.py.float v with
  | .ok x => !x.isFinite
  | .error _ => false

/-- The legacy payloads whose mapping cannot be stored. -/
def legacyUnstorable (env : Env) (d : Dict) : Bool :=
  unstorableText (d.get "cpuModel") || (legacyVolumes d).any legacyVolumeUnstorable ||
  unstorableText (d.get "osName") || unstorableText (d.get "osVersion") ||
  notFinite env (d.get "cpuLoadPercent") || notFinite env (d.get "memoryUsagePercent") ||
  unstorableText (d.get "hwManufacturer") || unstorableText (d.get "hwModel") ||
  unstorableText (d.get "lastBootTime") ||
  (if (d.get "clusterState").truthy ∨ (d.get "isCluster").truthy then
    unstorableText (d.get "clusterName") || unstorableText (d.get "clusterState") ||
    unstorableText (d.get "clusterNodes")
  else false) ||
  unstorableText (d.get "defaultVmPath") || unstorableText (d.get "defaultVhdPath")

section

variable {pydantic : Pydantic}

/-- A false value gives the empty text. -/
lemma textOrNothing_of_falsy {v : Json} (h : v.truthy = false) : textOrNothing v = true := by
  rw [textOrNothing, h]
  rfl

/-- `value or ""` is a string exactly if the value is one or false. -/
@[simp] lemma str_orElse_empty (v : Json) : Schema.str (v.orElse (.str "")) = textOrNothing v := by
  unfold Json.orElse textOrNothing
  cases v.truthy <;> rfl

/-- `value or None` is a string or none exactly if the value is one or false. -/
@[simp] lemma orNone_str_orElse_null (v : Json) :
    Schema.orNone Schema.str (v.orElse .null) = textOrNothing v := by
  unfold Json.orElse textOrNothing
  cases v <;> cases hv : Json.truthy _ <;> simp_all [Schema.orNone, Schema.str, Json.truthy]

/-- The schema of a true value is that of its type. -/
lemma orNone_of_truthy {type : Json → Bool} {v : Json} (h : v.truthy = true) :
    Schema.orNone type v = type v := by
  cases v <;> simp_all [Schema.orNone, Json.truthy]

/-- An object is not none. -/
@[simp] lemma orNone_obj (type : Json → Bool) (d : Dict) :
    Schema.orNone type (.obj d) = type (.obj d) := rfl

/-- Neither is a float. -/
@[simp] lemma orNone_float (type : Json → Bool) (x : PyFloat) :
    Schema.orNone type (.float x) = type (.float x) := rfl

/-- An empty list is of every type. -/
@[simp] lemma list_nil (type : Json → Bool) : Schema.list type (.arr []) = true := rfl

/-- `value or []` is a list of a type exactly if the value is one or false. -/
@[simp] lemma list_orElse_empty (type : Json → Bool) (v : Json) :
    Schema.list type (v.orElse (.arr [])) = (!v.truthy || Schema.list type v) := by
  unfold Json.orElse
  cases v.truthy <;> rfl

/-- Which legacy objects the schema takes: those whose texts and volumes are of their types. -/
lemma validates_legacyObject {d : Dict} {storage : List Dict}
    {memoryBytes logical sockets cores : ℤ} {cpuPercent memoryPercent : PyFloat}
    (hstorage : storage.all (fun v => Schema.storageVolume pydantic (.obj v)) =
      (legacyVolumes d).all legacyVolumeTyped) :
    Schema.hostHardwareInventory pydantic (.obj (legacyObject d storage memoryBytes logical sockets
      cores cpuPercent memoryPercent)) = legacyTyped pydantic d := by
  have hvolumes : Schema.list (Schema.storageVolume pydantic) (.arr (storage.map .obj)) =
      (legacyVolumes d).all legacyVolumeTyped := by
    rw [← hstorage]
    exact List.all_map
  unfold legacyObject legacySections legacyTyped
  split_ifs
  all_goals simp_all [Schema.hostHardwareInventory, Schema.model, Schema.optional, Schema.valueOf,
    Schema.cpuInfo, Schema.osInfo, Schema.loadSnapshot, Schema.systemInfo, Schema.failoverCluster,
    Schema.hyperVPaths, pydantic.int_int, pydantic.float_float, pydantic.bool_bool,
    orNone_of_truthy, textOrNothing_of_falsy, Bool.and_assoc]


section Unstorable

/-! A value that is written out is stored by computation. -/

/-- JSONB takes `null`. -/
@[simp] lemma unstorable_null : Json.null.unstorable = false := rfl

/-- It takes a boolean. -/
@[simp] lemma unstorable_bool (b : Bool) : (Json.bool b).unstorable = false := rfl

/-- It takes an integer. -/
@[simp] lemma unstorable_int (n : ℤ) : (Json.int n).unstorable = false := rfl

/-- It refuses a string with a NUL or an unpaired surrogate. -/
@[simp] lemma unstorable_str (s : String) : (Json.str s).unstorable = hasNul s := rfl

/-- It refuses a list with something in it that it refuses. -/
@[simp] lemma unstorable_arr (l : List Json) :
    (Json.arr l).unstorable = Json.unstorableList l := rfl

/-- It refuses an object with a key or a value that it refuses. -/
@[simp] lemma unstorable_obj (d : Dict) : (Json.obj d).unstorable = Json.unstorableDict d := rfl

end Unstorable

/-- A false value stores as the empty text. -/
lemma unstorableText_of_falsy {v : Json} (h : v.truthy = false) : unstorableText v = false := by
  rw [unstorableText, h]
  rfl

/-- A true value stores as itself. -/
lemma unstorableText_of_truthy {v : Json} (h : v.truthy = true) :
    unstorableText v = v.unstorable := by
  rw [unstorableText, h]
  rfl

/-- `v or w` is stored with `v`, when `w` is stored. -/
lemma unstorable_orElse {v w : Json} (h : w.unstorable = false) :
    (v.orElse w).unstorable = unstorableText v := by
  unfold Json.orElse unstorableText
  cases v.truthy
  · exact h
  · rfl

/-- What JSONB refuses of `value or None`. -/
@[simp] lemma unstorable_orElse_null (v : Json) :
    (v.orElse .null).unstorable = unstorableText v := unstorable_orElse rfl

/-- What it refuses of `value or ""`. -/
@[simp] lemma unstorable_orElse_empty (v : Json) :
    (v.orElse (.str "")).unstorable = unstorableText v := unstorable_orElse rfl

/-- What it refuses of `value or []`. -/
@[simp] lemma unstorable_orElse_nil (v : Json) :
    (v.orElse (.arr [])).unstorable = unstorableText v := unstorable_orElse rfl

/-- It refuses a float that is not finite. -/
lemma unstorable_float {v : Json} {x : PyFloat} (h : num env v = .ok x) :
    (Json.float x).unstorable = notFinite env v := by
  unfold notFinite
  rcases num_cases env v with ⟨y, hfloat, hy, -⟩ | ⟨⟨e, hfloat⟩, hy, -⟩ | ⟨⟨e, hy⟩, -⟩
  · obtain rfl := Except.ok.inj (hy.symm.trans h)
    rw [hfloat]
    rcases y with _ | _ | _ <;> rfl
  · obtain rfl := Except.ok.inj (hy.symm.trans h)
    rw [hfloat, ofRat_zero]
    rfl
  · cases hy.symm.trans h

/-- It refuses a list of objects that has one it refuses. -/
lemma unstorableList_objects (l : List Dict) :
    Json.unstorableList (l.map .obj) = l.any fun d => (Json.obj d).unstorable := by
  induction l with
  | nil => rfl
  | cons d l ih => rw [List.map_cons, Json.unstorableList, ih, List.any_cons]

/-- It refuses a legacy object for its texts, its volumes and its two percentages. -/
lemma unstorable_legacyObject {d : Dict} {storage : List Dict}
    {memoryBytes logical sockets cores : ℤ} {cpuPercent memoryPercent : PyFloat}
    (hstorage : storage.any (fun v => (Json.obj v).unstorable) =
      (legacyVolumes d).any legacyVolumeUnstorable)
    (hcpu : num env (d.get "cpuLoadPercent") = .ok cpuPercent)
    (hmemory : num env (d.get "memoryUsagePercent") = .ok memoryPercent) :
    (Json.obj (legacyObject d storage memoryBytes logical sockets cores cpuPercent
      memoryPercent)).unstorable = legacyUnstorable env d := by
  have hkeys : ∀ k ∈ ["cpu", "model", "sockets", "cores", "logical", "memoryBytes", "storage", "os",
      "caption", "version", "network", "vSwitches", "load", "cpuPercent", "memoryPercent", "system",
      "manufacturer", "bootTime", "cluster", "clustered", "name", "state", "nodes", "hyperv",
      "defaultVmPath", "defaultVhdPath"], hasNul k = false := by
    decide
  simp only [List.forall_mem_cons] at hkeys
  unfold legacyObject legacySections legacyUnstorable
  split_ifs
  all_goals simp_all [Json.unstorableDict, Json.unstorableList, unstorableList_objects,
    unstorable_float hcpu, unstorable_float hmemory, unstorableText_of_falsy,
    unstorableText_of_truthy, Bool.or_assoc]

/-! ### The volumes of a legacy report -/

/-- The members of a volume of the legacy generation. -/
lemma legacyVolume_eq_ok {vol v : Dict} (h : legacyVolume env vol = .ok v) :
    ∃ total free : ℤ, v = [("path", legacyPath vol), ("label", (vol.get "name").orElse .null),
      ("totalBytes", .int total), ("freeBytes", .int free)] := by
  obtain ⟨total, -, h⟩ := Effect.except_bind_eq_ok.mp h
  obtain ⟨free, -, h⟩ := Effect.except_bind_eq_ok.mp h
  exact ⟨total, free, (Except.ok.inj h).symm⟩

/-- Which of them the schema takes. -/
lemma validates_legacyVolume {vol v : Dict} (h : legacyVolume env vol = .ok v) :
    Schema.storageVolume pydantic (.obj v) = legacyVolumeTyped vol := by
  obtain ⟨total, free, rfl⟩ := legacyVolume_eq_ok h
  simp [Schema.storageVolume, Schema.model, Schema.required, Schema.optional, Schema.valueOf,
    legacyPath, legacyVolumeTyped, pydantic.int_int]

/-- Which of them JSONB refuses. -/
lemma unstorable_legacyVolume {vol v : Dict} (h : legacyVolume env vol = .ok v) :
    (Json.obj v).unstorable = legacyVolumeUnstorable vol := by
  have hkeys : ∀ k ∈ ["path", "label", "totalBytes", "freeBytes"], hasNul k = false := by decide
  simp only [List.forall_mem_cons] at hkeys
  obtain ⟨total, free, rfl⟩ := legacyVolume_eq_ok h
  simp [Json.unstorableDict, legacyPath, legacyVolumeUnstorable, hkeys]

/-- Two lists that correspond agree on a test that their elements agree on. -/
lemma forall₂_all {α β : Type} {R : α → β → Prop} {p : β → Bool} {q : α → Bool} {xs : List α}
    {ys : List β} (h : List.Forall₂ R xs ys) (hpq : ∀ x y, R x y → p y = q x) :
    ys.all p = xs.all q := by
  induction h with
  | nil => rfl
  | cons hr _ ih => rw [List.all_cons, List.all_cons, hpq _ _ hr, ih]

/-- The separate system drive is in front, or nothing is. -/
lemma withDiskC_eq_ok {diskC : Json} {storage storage' : List Dict}
    (h : withDiskC env diskC storage = .ok storage') :
    storage' = storage ∨ ∃ total free : ℤ, storage' =
      [("path", .str "C:\\"), ("totalBytes", .int total), ("freeBytes", .int free)] :: storage := by
  cases diskC with
  | obj d =>
    obtain ⟨listed, -, h⟩ := Effect.except_bind_eq_ok.mp h
    cases listed with
    | true => exact Or.inl (Except.ok.inj h).symm
    | false =>
      obtain ⟨total, -, h⟩ := Effect.except_bind_eq_ok.mp h
      obtain ⟨free, -, h⟩ := Effect.except_bind_eq_ok.mp h
      exact Or.inr ⟨total, free, (Except.ok.inj h).symm⟩
  | _ => exact Or.inl (Except.ok.inj h).symm

/-- A property of the mapped volumes that the system drive has. -/
lemma all_withDiskC {diskC : Json} {vols storage storage' : List Dict} {p q : Dict → Bool}
    (hvolumes : List.Forall₂ (fun vol v => legacyVolume env vol = .ok v) vols storage)
    (hdisk : withDiskC env diskC storage = .ok storage')
    (hpq : ∀ vol v, legacyVolume env vol = .ok v → p v = q vol)
    (hdrive : ∀ total free : ℤ,
      p [("path", .str "C:\\"), ("totalBytes", .int total), ("freeBytes", .int free)] = true) :
    storage'.all p = vols.all q := by
  rcases withDiskC_eq_ok hdisk with rfl | ⟨total, free, rfl⟩
  · exact forall₂_all hvolumes hpq
  · rw [List.all_cons, hdrive, Bool.true_and]
    exact forall₂_all hvolumes hpq

/-- What a legacy report is mapped to. -/
lemma normalizeLegacy_eq_ok {d : Dict} {r : Option Dict} (h : normalizeLegacy env d = .ok r) :
    (unrecognized env d = true ∧ r = none) ∨
    (unrecognized env d = false ∧ ∃ c, r = some c ∧ (c.get "cpu").isDict = true ∧
      (∀ pydantic, Schema.hostHardwareInventory pydantic (.obj c) = legacyTyped pydantic d) ∧
      (Json.obj c).unstorable = legacyUnstorable env d) := by
  obtain ⟨elems, helems, h⟩ := Effect.except_bind_eq_ok.mp h
  obtain ⟨storage, hstorage, h⟩ := Effect.except_bind_eq_ok.mp h
  obtain ⟨storage', hdisk, h⟩ := Effect.except_bind_eq_ok.mp h
  obtain ⟨memoryBytes, hmemory, h⟩ := Effect.except_bind_eq_ok.mp h
  rw [iterate_storage helems] at hstorage
  have hvolumes := Fallible.mapM_eq_ok.mp hstorage
  rw [legacy_nothing hvolumes hdisk hmemory] at h
  cases hnothing : unrecognized env d with
  | true =>
    rw [hnothing] at h
    exact Or.inl ⟨rfl, (Except.ok.inj h).symm⟩
  | false =>
    rw [hnothing] at h
    obtain ⟨logical, -, h⟩ := Effect.except_bind_eq_ok.mp h
    obtain ⟨sockets, -, h⟩ := Effect.except_bind_eq_ok.mp h
    obtain ⟨cores, -, h⟩ := Effect.except_bind_eq_ok.mp h
    obtain ⟨cpuPercent, hcpu, h⟩ := Effect.except_bind_eq_ok.mp h
    obtain ⟨memoryPercent, hpercent, h⟩ := Effect.except_bind_eq_ok.mp h
    refine Or.inr ⟨rfl, _, (Except.ok.inj h).symm, ?_, fun pydantic => ?_, ?_⟩
    · simp [Json.isDict, Json.asDict?]
    · exact validates_legacyObject (all_withDiskC hvolumes hdisk
        (fun _ _ => validates_legacyVolume) fun total free => by
          simp [Schema.storageVolume, Schema.model, Schema.required, Schema.optional,
            Schema.valueOf, Schema.str, pydantic.int_int])
    · have hstored : storage'.all (fun v => !(Json.obj v).unstorable) =
          (legacyVolumes d).all fun vol => !legacyVolumeUnstorable vol :=
        all_withDiskC hvolumes hdisk
          (fun _ _ hv => congrArg (! ·) (unstorable_legacyVolume hv)) fun _ _ => rfl
      rw [← List.not_any_eq_all_not, ← List.not_any_eq_all_not, Bool.not_inj_iff] at hstored
      exact unstorable_legacyObject hstored hcpu hpercent

/-! ## Served and kept -/

variable (env) (pydantic)

/-- Hardware is served for the host. -/
def Serves (db : Db) (hostId : String) : Prop :=
  ∃ host served, db.host hostId = some host ∧
    hardwareOut env pydantic host.hardware = .ok (some served)

/-- The report is served, or not stored: in the canonical form it validates or has something that
cannot be stored; in the legacy form it cannot be read, is not recognized, cannot be stored, or its
texts are texts; in any other form nothing is stored. -/
def ReportKept (payload : Json) : Prop :=
  match hardwareOf payload with
  | .ok (.obj d) =>
    if (Dict.get d "cpu").isDict then
      (Json.obj d).unstorable = true ∨ Schema.hostHardwareInventory pydantic (.obj d) = true
    else
      LegacyReads env d →
        unrecognized env d = true ∨ legacyUnstorable env d = true ∨ legacyTyped pydantic d = true
  | _ => True

variable {env pydantic}

/-- An object with a `cpu` object is kept as it is. -/
lemma normalizeHardware_canonical {d : Dict} (h : (d.get "cpu").isDict = true) :
    normalizeHardware env (.obj d) = .ok (some d) := by
  rcases d with _ | ⟨entry, d⟩
  · cases h
  · exact if_pos h

/-- Any other object is unrecognized, or is read as one of the legacy generation. -/
lemma normalizeHardware_legacy {d : Dict} (h : ¬ (d.get "cpu").isDict = true) :
    normalizeHardware env (.obj d) = .ok none ∧ unrecognized env d = true ∨
      normalizeHardware env (.obj d) = normalizeLegacy env d := by
  rcases d with _ | ⟨entry, d⟩
  · exact Or.inl ⟨rfl, rfl⟩
  · exact Or.inr (if_neg h)

/-- A canonical value is served when it validates. -/
lemma hardwareOut_canonical {d : Dict} (h : (d.get "cpu").isDict = true) :
    (∃ served, hardwareOut env pydantic (.obj d) = .ok (some served)) ↔
      Schema.hostHardwareInventory pydantic (.obj d) = true := by
  have hout : hardwareOut env pydantic (.obj d) =
      if Schema.hostHardwareInventory pydantic (.obj d) then .ok (some d) else .ok none := by
    unfold hardwareOut
    rw [normalizeHardware_canonical h]
    rfl
  rw [hout]
  split_ifs with hvalid
  · exact iff_of_true ⟨d, rfl⟩ hvalid
  · refine iff_of_false ?_ hvalid
    rintro ⟨_, ⟨⟩⟩

/-- What is made of a report of any form. -/
lemma reported_cases (payload : Json) :
    (reported env payload = none ∧ ReportKept env pydantic payload) ∨
      ∃ hardware, reported env payload = some hardware ∧ (hardware.get "cpu").isDict = true ∧
        (ReportKept env pydantic payload ↔ (Json.obj hardware).unstorable = true ∨
          Schema.hostHardwareInventory pydantic (.obj hardware) = true) := by
  unfold reported ReportKept
  rcases hardwareOf payload with e | raw
  · exact Or.inl ⟨rfl, trivial⟩
  show (match normalizeHardware env raw with
      | .ok hardware => hardware
      | .error _ => none) = none ∧ _ ∨ ∃ hardware, (match normalizeHardware env raw with
      | .ok hardware => hardware
      | .error _ => none) = some hardware ∧ _
  rcases raw with _ | _ | _ | _ | _ | _ | d
  case obj =>
    dsimp only
    split_ifs with hcpu
    · rw [normalizeHardware_canonical hcpu]
      exact Or.inr ⟨d, rfl, hcpu, Iff.rfl⟩
    · rcases @normalizeHardware_legacy env d hcpu with ⟨hnone, hnothing⟩ | hlegacy
      · rw [hnone]
        exact Or.inl ⟨rfl, fun _ => Or.inl hnothing⟩
      · rw [hlegacy]
        rcases hr : normalizeLegacy env d with e | r
        · refine Or.inl ⟨rfl, fun hreads => ?_⟩
          obtain ⟨r, hok⟩ := returns_normalizeLegacy.mpr hreads
          cases hr.symm.trans hok
        · have hreads : LegacyReads env d := returns_normalizeLegacy.mp ⟨r, hr⟩
          rcases normalizeLegacy_eq_ok hr with ⟨hnothing, rfl⟩ |
            ⟨hsome, c, rfl, hc, hvalid, hstored⟩
          · exact Or.inl ⟨rfl, fun _ => Or.inl hnothing⟩
          · refine Or.inr ⟨c, rfl, hc, ?_⟩
            rw [hvalid, hstored, hsome]
            simp [hreads]
  all_goals exact Or.inl ⟨rfl, trivial⟩

/-- What is served of a host whose hardware is replaced. -/
lemma serves_storeHost {db : Db} {hostId : String} {host : Host} {hardware : Dict}
    (hhost : db.host hostId = some host) (hcpu : (hardware.get "cpu").isDict = true) :
    Serves env pydantic (db.storeHost { host with hardware := .obj hardware }) hostId ↔
      Schema.hostHardwareInventory pydantic (.obj hardware) = true := by
  have hid : host.id = hostId := Table.key_of_lookup hhost
  let after : Host := { host with hardware := .obj hardware }
  have hfound : Table.lookup Host.id after.id db.hosts = some host := by
    rw [← hhost, ← hid]
    rfl
  have hafter : (db.storeHost after).host hostId = some after := by
    rw [← hid]
    exact Table.lookup_store_self hfound
  rw [← @hardwareOut_canonical env pydantic _ hcpu]
  constructor
  · rintro ⟨found, served, hfound', hserved⟩
    obtain rfl : after = found := Option.some.inj (hafter.symm.trans hfound')
    exact ⟨served, hserved⟩
  · rintro ⟨served, hserved⟩
    exact ⟨after, served, hafter, hserved⟩

/-- **A host that is served is still served after a report** exactly when the report is served, or
not stored. -/
theorem serves_step_iff (s : Committed) (hostId : String) (payload : Json) :
    (Serves env pydantic s.world.db hostId →
      Serves env pydantic (System.step env s (.hostInventory hostId payload)).world.db hostId) ↔
    (Serves env pydantic s.world.db hostId → ReportKept env pydantic payload) := by
  refine imp_congr_right fun hserved => ?_
  obtain ⟨host, _, hhost, -⟩ := id hserved
  rcases @reported_cases env pydantic payload with
    ⟨hnone, hkept⟩ | ⟨hardware, hsome, hcpu, hkept⟩
  · refine iff_of_true ?_ hkept
    rcases @hostInventory_step env s hostId payload with ⟨_, _, -, hreported, -⟩ | ⟨hdb, -⟩
    · cases hnone.symm.trans hreported
    · rwa [hdb]
  rw [hkept]
  rcases @hostInventory_step env s hostId payload with
    ⟨host', hardware', hhost', hreported, hstorable, hdb⟩ | ⟨hdb, hunstorable⟩
  · obtain rfl : hardware = hardware' := Option.some.inj (hsome.symm.trans hreported)
    rw [hdb, serves_storeHost hhost' hcpu, hstorable]
    simp
  · rw [hdb]
    exact iff_of_true hserved (Or.inl (hunstorable host hardware hhost hsome))

/-- A host that has reported. -/
def Demo.served : Committed where
  world := { now := 0, txStart := 0,
             db := { hosts := [{ Demo.host with hardware := .obj [("cpu", .obj [])] }] } }
  consistent := by decide

/-- A report that has a number for the processor model. -/
def Demo.untyped : Dict := [("cpu", .obj [("model", .int 5)])]

/-- A report in the canonical form that does not validate takes the place of one that does. -/
theorem serves_step_counterexample :
    ¬ ∀ (env : Env) (pydantic : Pydantic) (s : Committed) (hostId : String) (payload : Json),
      Serves env pydantic s.world.db hostId →
        Serves env pydantic (System.step env s (.hostInventory hostId payload)).world.db
          hostId := by
  intro h
  have hafter := h Demo.settings Demo.pydantic Demo.served "h"
    (.obj [("hardware", .obj Demo.untyped)]) ⟨_, _, rfl, rfl⟩
  rcases @hostInventory_step Demo.settings Demo.served "h"
      (.obj [("hardware", .obj Demo.untyped)]) with
    ⟨host, hardware, hhost, hreported, -, hdb⟩ | ⟨-, hkept⟩
  · obtain rfl : Demo.untyped = hardware := Option.some.inj hreported
    rw [hdb, serves_storeHost hhost rfl] at hafter
    exact Bool.noConfusion hafter
  · exact Bool.noConfusion (hkept _ Demo.untyped rfl rfl)

end

end OpenVCenter
