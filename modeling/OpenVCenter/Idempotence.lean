import OpenVCenter.Nics

set_option relaxedAutoImplicit false
set_option autoImplicit false

/-!
# Normalizing twice

`normalize_vm` is meant to leave a canonical object as it is. It reads the identity of the VM under
other keys than the one it writes, and drops a false value where the agent's keys have an
alternative.

## Main definitions

* `OpenVCenter.KeepsCapitals` — what is used of `str.upper`.
* `OpenVCenter.Fixed` — the items whose canonical object is a fixed point.

## Main results

* `OpenVCenter.normalizeVm_normalizeVm` — the canonical object of a canonical object.
* `OpenVCenter.normalizeVm_idempotent_iff` — **when normalizing twice is normalizing once**.
-/

namespace OpenVCenter

open Binary64 (Representable)

variable {env : Env}

/-- A text of capital letters is its own upper case. -/
def KeepsCapitals (py : PyStd) : Prop :=
  ∀ s : String, s.toList.all Char.isUpper = true → py.upper s = s

/-! ## The parts of a canonical object -/

section Parts

variable {x : Dict}

/-- The bytes of a normalized item are read back. -/
lemma vmMemoryBytes_canonical {n : ℤ} (hbytes : x.get "memoryBytes" = .int n)
    (hmemory : x.get "memory" = .null) (hmb : x.get "memoryMb" = .null)
    (hMB : x.get "memoryMB" = .null) (hn : Representable n) :
    (vmMemoryBytes env x >>= asInt env) = .ok (some n) := by
  have hobject : vmMemObj x = [] := by
    unfold vmMemObj
    rw [hmemory]
    rfl
  have hmib : firstOf x ["memoryMb", "memoryMB"] = .null := by
    simp [firstOf, hmb, hMB]
  have hfirst : firstOf x ["memoryBytes"] = .int n := by
    simp [firstOf, hbytes, Json.isNone]
  unfold vmMemoryBytes
  rw [hobject, hmib, hfirst]
  by_cases hzero : n = 0
  · rw [hzero]
    exact asInt_int Binary64.representable_zero
  · have htrue : (Json.int n).truthy = true := by simpa [Json.truthy] using hzero
    rw [Json.orElse_of_truthy htrue]
    exact asInt_int hn

/-- An integer or None, where 0 counts as None. -/
def nonZero : Option ℤ → Option ℤ
  | some 0 => none
  | o => o

/-- An optional integer is read back, but for zero. -/
lemma asInt_ofInt?_orElse {o : Option ℤ} (h : ∀ n ∈ o, Representable n) :
    asInt env ((Json.ofInt? o).orElse .null) = .ok (nonZero o) := by
  rcases o with _ | n
  · rfl
  · by_cases hzero : n = 0
    · rw [hzero]
      rfl
    · have htrue : (Json.ofInt? (some n)).truthy = true := by
        simpa [Json.ofInt?, Json.truthy] using hzero
      have hself : nonZero (some n) = some n := by
        unfold nonZero
        split
        · rename_i heq
          exact absurd (Option.some.inj heq) hzero
        · rfl
      rw [Json.orElse_of_truthy htrue, hself]
      exact asInt_ofInt? h

end Parts

/-! ## The lists -/

/-- The adapters depend on their key only. -/
lemma normalizeNics_congr {item x : Dict} (h : x.get "nics" = item.get "nics") :
    normalizeNics env x = normalizeNics env item := by
  unfold normalizeNics
  rw [h]

/-- The adapters are taken as they are, missing, or read in the agent's spelling. -/
lemma normalizeNics_eq_ok {item : Dict} {nics : Json} (h : normalizeNics env item = .ok nics) :
    nics = item.get "nics" ∨ nics = .arr [] ∨
      ∃ first rest, nics = .arr ((first :: rest).map (normalizeNic env)) := by
  unfold normalizeNics at h
  generalize item.get "nics" = v at h ⊢
  cases hv : v.truthy with
  | false =>
    rw [Json.orElse_of_falsy hv] at h
    exact Or.inr (Or.inl (Except.ok.inj h).symm)
  | true =>
    rw [Json.orElse_of_truthy hv] at h
    simp only [hv, if_true] at h
    cases v with
    | arr l =>
      rcases l with _ | ⟨v, rest⟩
      · cases hv
      cases v with
      | obj first =>
        replace h : (if Dict.has first "switchName" = true then
            Except.ok (.arr (.obj first :: rest))
          else .ok (.arr ((dictsOf (.obj first :: rest)).map (normalizeNic env)))) =
            (Except.ok nics : Except Raised Json) := h
        split_ifs at h
        · exact Or.inl (Except.ok.inj h).symm
        · exact Or.inr (Or.inr ⟨first, dictsOf rest, (Except.ok.inj h).symm⟩)
      | _ => exact Or.inl (Except.ok.inj h).symm
    | str s => exact Or.inl (Except.ok.inj h).symm
    | _ => cases h

/-- Adapters that were normalized stay as they are. -/
lemma normalizeNics_twice {item x : Dict} {nics : Json} (h : normalizeNics env item = .ok nics)
    (hx : x.get "nics" = nics) : normalizeNics env x = .ok nics := by
  rcases normalizeNics_eq_ok h with rfl | rfl | ⟨first, rest, rfl⟩
  · rw [normalizeNics_congr hx, h]
  · unfold normalizeNics
    rw [hx]
    rfl
  · unfold normalizeNics
    rw [hx]
    rfl

/-- The disks are canonical objects, or what the item has. -/
lemma normalizeDisks_twice {item x : Dict} {disks : Json} (h : normalizeDisks env item = .ok disks)
    (hx : x.get "disks" = disks) : normalizeDisks env x = .ok disks := by
  have hsome : disks.isNone = false := by
    unfold normalizeDisks at h
    split_ifs at h with hnone
    · obtain ⟨vhds, -, h⟩ := Effect.except_bind_eq_ok.mp h
      obtain ⟨elems, -, h⟩ := Effect.except_bind_eq_ok.mp h
      rw [← Except.ok.inj h]
      rfl
    · rw [← Except.ok.inj h]
      exact Bool.eq_false_iff.mpr hnone
  unfold normalizeDisks
  rw [hx, hsome]
  rfl

/-- The snapshots of an item. -/
def snapshotsOf (item : Dict) : List Dict := objectsIn (item.get "snapshots")

/-- The snapshots of an item, one by one. -/
lemma normalizeSnapshots_eq_ok {item : Dict} {snapshots : Json}
    (h : normalizeSnapshots item = .ok snapshots) :
    snapshots = .arr ((snapshotsOf item).map normalizeSnapshot) := by
  obtain ⟨elems, helems, h⟩ := Effect.except_bind_eq_ok.mp h
  rw [← Except.ok.inj h, dictsOf_iterate helems, snapshotsOf]
  split_ifs with hnone
  · rw [Json.isNone_iff.mp hnone]
    rfl
  · rfl

/-- A snapshot read in the canonical form. -/
def canonicalSnapshot (s : Dict) : Dict :=
  [("id", ((s.get "id").orElse (s.get "snapshotId")).orElse (.str "")),
    ("name", s.getD "name" (.str "")),
    ("parentId", (s.get "parentId").orElse (s.get "parentSnapshotId")),
    ("type", ((s.get "type").orElse (s.get "snapshotType")).orElse .null),
    ("createdAt", (s.get "createdAt").orElse (s.get "creationTime"))]

/-- Snapshots normalized twice. -/
lemma normalizeSnapshots_twice {item x : Dict} {snapshots : Json}
    (h : normalizeSnapshots item = .ok snapshots) (hx : x.get "snapshots" = snapshots) :
    normalizeSnapshots x = .ok (.arr (((snapshotsOf item).map canonicalSnapshot).map
      normalizeSnapshot)) := by
  rw [normalizeSnapshots_eq_ok h] at hx
  have hobjects : (snapshotsOf item).map normalizeSnapshot =
      ((snapshotsOf item).map canonicalSnapshot).map .obj := by
    rw [List.map_map]
    rfl
  unfold normalizeSnapshots
  rw [hx, hobjects]
  show Except.ok (Json.arr ((dictsOf _).map normalizeSnapshot)) = _
  rw [dictsOf_objects]

/-! ## Fixed values -/

/-- A value that is None, or true. -/
def nullOrTrue (v : Json) : Bool := v.isNone || v.truthy

/-- `v or w`, twice, when `w` is missing the second time: a false value is dropped. -/
lemma orElse_null_eq_self {v : Json} : v.orElse .null = v ↔ nullOrTrue v = true := by
  unfold nullOrTrue
  rw [Bool.or_eq_true, Json.isNone_iff]
  cases hv : v.truthy with
  | true => exact iff_of_true (Json.orElse_of_truthy hv) (Or.inr rfl)
  | false =>
    rw [Json.orElse_of_falsy hv, or_iff_left Bool.false_ne_true]
    exact eq_comm

/-- A snapshot whose canonical form is a fixed point: its parent and its time are None, or true. -/
def fixedSnapshot (s : Dict) : Bool :=
  nullOrTrue ((s.get "parentId").orElse (s.get "parentSnapshotId")) &&
    nullOrTrue ((s.get "createdAt").orElse (s.get "creationTime"))

/-- A snapshot normalized twice is the same exactly if it is fixed. -/
lemma normalizeSnapshot_twice {s : Dict} :
    normalizeSnapshot (canonicalSnapshot s) = normalizeSnapshot s ↔ fixedSnapshot s = true := by
  have hid : ∀ v : Json, ((v.orElse (.str "")).orElse .null).orElse (.str "") =
      v.orElse (.str "") := by
    intro v
    cases hv : v.truthy with
    | true => simp only [Json.orElse_of_truthy hv]
    | false =>
      rw [Json.orElse_of_falsy hv]
      rfl
  have htype : ∀ v : Json, (v.orElse .null).orElse .null = v.orElse .null := by
    intro v
    unfold Json.orElse
    cases hv : v.truthy <;> simp [hv]
  unfold fixedSnapshot
  rw [Bool.and_eq_true, ← orElse_null_eq_self, ← orElse_null_eq_self]
  simp [normalizeSnapshot, canonicalSnapshot, hid, htype]

/-- The value is a number that is rounded to 0. -/
def convertsToZero (env : Env) (v : Json) : Bool :=
  match env.py.float v with
  | .ok (.fin d) => decide (|d.value| ≤ 1 / 2)
  | _ => false

/-- What `_as_int` reads as zero. -/
lemma asInt_eq_zero {v : Json} {o : Option ℤ} (h : asInt env v = .ok o) :
    o = some 0 ↔ convertsToZero env v = true := by
  unfold asInt at h
  unfold convertsToZero
  split_ifs at h with hnone
  · obtain rfl := Json.isNone_iff.mp hnone
    rw [← Except.ok.inj h]
    exact iff_of_false (by simp) Bool.false_ne_true
  · rcases float_cases env v with ⟨x, hx, -⟩ | ⟨hx, -⟩ | ⟨hx | hx, -⟩
    · rw [hx] at h ⊢
      rcases x with _ | s | d
      · rw [← Except.ok.inj h]
        exact iff_of_false (by simp) Bool.false_ne_true
      · cases h
      · rw [← Except.ok.inj h, Option.some.injEq, Binary64.roundHalfEven_eq_zero]
        exact decide_eq_true_iff.symm
    · rw [hx] at h
      cases h
    · rw [hx] at h ⊢
      rw [← Except.ok.inj h]
      exact iff_of_false (by simp) Bool.false_ne_true
    · rw [hx] at h ⊢
      rw [← Except.ok.inj h]
      exact iff_of_false (by simp) Bool.false_ne_true

/-- Dropping zero changes every optional integer but zero. -/
lemma ofInt?_nonZero {o : Option ℤ} : Json.ofInt? (nonZero o) = .ofInt? o ↔ o ≠ some 0 := by
  rcases o with _ | n
  · simp [nonZero]
  · by_cases hzero : n = 0
    · rw [hzero]
      exact iff_of_false nofun fun h => h rfl
    · have hself : nonZero (some n) = some n := by
        unfold nonZero
        split
        · rename_i heq
          exact absurd (Option.some.inj heq) hzero
        · rfl
      rw [hself]
      exact iff_of_true rfl (by simpa using hzero)

/-- The firmware is one of two texts of capitals, and read as it is. -/
lemma firmwareOf_twice (hupper : KeepsCapitals env.py) {item x : Dict}
    (hx : x.get "firmware" = firmwareOf env item) : firmwareOf env x = firmwareOf env item := by
  have hfirmware : firmwareOf env item = .str "BIOS" ∨ firmwareOf env item = .str "UEFI" := by
    unfold firmwareOf
    dsimp only
    split_ifs with hnamed
    · rcases hnamed with hbios | huefi
      · exact Or.inl (congrArg Json.str hbios)
      · exact Or.inr (congrArg Json.str huefi)
    · exact Or.inl rfl
    · exact Or.inr rfl
  have hread : ∀ s : String, s.toList.all Char.isUpper = true → s = "BIOS" ∨ s = "UEFI" →
      x.get "firmware" = .str s → firmwareOf env x = .str s := by
    intro s hcapitals hs hget
    have htrue : (Json.str s).truthy = true := by
      rcases hs with rfl | rfl <;> rfl
    unfold firmwareOf
    rw [hget, Json.orElse_of_truthy htrue, PyStd.str, hupper s hcapitals]
    exact if_pos hs
  rcases hfirmware with h | h
  · rw [h] at hx ⊢
    exact hread "BIOS" rfl (Or.inl rfl) hx
  · rw [h] at hx ⊢
    exact hread "UEFI" rfl (Or.inr rfl) hx

/-- The first of two keys, when the second is missing. -/
lemma firstOf_pair {d : Dict} {a b : String} (h : d.get b = .null) :
    firstOf d [a, b] = d.get a := by
  unfold firstOf
  split_ifs with ha
  · rw [Json.isNone_iff.mp ha]
    simp [firstOf, h]
  · rfl

/-! ## Normalizing twice -/

/-- What is converted of the canonical object. -/
def VmParts.again (p : VmParts) (item : Dict) : VmParts :=
  { p with
    memoryBytes := some (p.memoryBytes.getD 0)
    memoryMinBytes := nonZero p.memoryMinBytes
    memoryMaxBytes := nonZero p.memoryMaxBytes
    snapshots := .arr (((snapshotsOf item).map canonicalSnapshot).map normalizeSnapshot) }

/-- A normalized item has no memory object. -/
lemma vmMemObj_object {item : Dict} {p : VmParts} : vmMemObj (p.object env item) = [] := by
  simp [vmMemObj, VmParts.object, Json.asDict?]

/-- The first of one key. -/
lemma firstOf_single {d : Dict} {k : String} : firstOf d [k] = d.get k := by
  unfold firstOf
  split_ifs with hk
  · exact (Json.isNone_iff.mp hk).symm
  · rfl

/-- The parts of a normalized item, read again.

**Proof sketch.** Each part is read from the object that was built: the numbers come back because
what a reader returns is representable, and a key of the object stands in front of every other
spelling. -/
lemma again_of {item : Dict} {p : VmParts} (hp : p.Of env item) :
    (p.again item).Of env (p.object env item) where
  memoryBytes := by
    obtain ⟨v, -, hv⟩ := Effect.except_bind_eq_ok.mp hp.memoryBytes
    have hrepresentable := representable_of_asInt hv
    refine vmMemoryBytes_canonical (by simp [VmParts.object]) (by simp [VmParts.object])
      (by simp [VmParts.object]) (by simp [VmParts.object]) ?_
    cases hbytes : p.memoryBytes with
    | none => exact Binary64.representable_zero
    | some n => exact hrepresentable n hbytes
  memoryMinBytes := by
    have hmin : vmMemoryMin (p.object env item) = (Json.ofInt? p.memoryMinBytes).orElse .null := by
      rw [vmMemoryMin, vmMemObj_object, firstOf_single]
      simp [VmParts.object]
    rw [hmin]
    exact asInt_ofInt?_orElse (representable_of_asInt hp.memoryMinBytes)
  memoryMaxBytes := by
    have hmax : vmMemoryMax (p.object env item) = (Json.ofInt? p.memoryMaxBytes).orElse .null := by
      rw [vmMemoryMax, vmMemObj_object, firstOf_single]
      simp [VmParts.object]
    rw [hmax]
    exact asInt_ofInt?_orElse (representable_of_asInt hp.memoryMaxBytes)
  memoryDemandBytes := by
    obtain ⟨v, -, hv⟩ := Effect.except_bind_eq_ok.mp hp.memoryDemandBytes
    have hdemand : firstOf (p.object env item) ["memoryDemandBytes"] =
        .ofInt? p.memoryDemandBytes := by
      rw [firstOf_single]
      simp [VmParts.object]
    have hconsumed : firstOf (p.object env item) ["memoryConsumedMb"] = .null := by
      rw [firstOf_single]
      simp [VmParts.object]
    unfold vmMemoryDemand
    rw [hdemand, hconsumed]
    show _ = Except.ok p.memoryDemandBytes
    cases hbytes : p.memoryDemandBytes with
    | none => rfl
    | some n => exact asInt_int (representable_of_asInt hv n hbytes)
  cpuUsagePercent := by
    have hcpu : firstOf (p.object env item) ["cpuUsagePercent", "cpuUsagePct"] =
        .ofFloat? p.cpuUsagePercent := by
      rw [firstOf_pair (by simp [VmParts.object])]
      simp [VmParts.object]
    rw [hcpu]
    exact asFloat_ofFloat? _
  autoStartDelaySec := by
    have hdelay : firstOf (p.object env item) ["autoStartDelaySec", "automaticStartDelay"] =
        .ofInt? p.autoStartDelaySec := by
      rw [firstOf_pair (by simp [VmParts.object])]
      simp [VmParts.object]
    rw [hdelay]
    exact asInt_ofInt? (representable_of_asInt hp.autoStartDelaySec)
  disks := normalizeDisks_twice hp.disks (by simp [VmParts.object, VmParts.again])
  nics := normalizeNics_twice hp.nics (by simp [VmParts.object, VmParts.again])
  snapshots := normalizeSnapshots_twice hp.snapshots (by simp [VmParts.object])

/-- **The canonical object of a canonical object.** -/
theorem normalizeVm_object {item : Dict} {p : VmParts} (hp : p.Of env item) :
    normalizeVm env (p.object env item) = .ok ((p.again item).object env (p.object env item)) :=
  normalizeVm_eq_ok.mpr ⟨p.again item, again_of hp, rfl⟩

/-- The firmware is read back. -/
lemma firmwareOf_object (hupper : KeepsCapitals env.py) {item : Dict} {p : VmParts} :
    firmwareOf env (p.object env item) = firmwareOf env item :=
  firmwareOf_twice hupper (by simp [VmParts.object])

/-- So is the number of processors. -/
lemma vmVcpu_object {item : Dict} {p : VmParts} : vmVcpu (p.object env item) = vmVcpu item := by
  have hvcpu : (p.object env item).get "vcpu" = vmVcpu item := by simp [VmParts.object]
  have hcpu : (p.object env item).get "cpu" = .null := by simp [VmParts.object]
  rw [vmVcpu, hvcpu, hcpu]
  split_ifs with hnone
  · exact (Json.isNone_iff.mp hnone).symm
  · rfl

/-- The canonical object is a fixed point when what is dropped the second time was not there. -/
lemma again_eq_iff (hupper : KeepsCapitals env.py) {item : Dict} {p : VmParts} :
    (p.again item).object env (p.object env item) = p.object env item ↔
      ((item.get "id").orElse (item.get "vmId")).isNone = true ∧ p.memoryMinBytes ≠ some 0 ∧
      p.memoryMaxBytes ≠ some 0 ∧ p.snapshots = (p.again item).snapshots ∧
      nullOrTrue ((item.get "createdAt").orElse (item.get "creationTime")) = true := by
  have hdynamic : vmMemoryDynamic (p.object env item) = vmMemoryDynamic item := by
    have hflag : (p.object env item).get "memoryDynamic" = .bool (vmMemoryDynamic item) := by
      simp [VmParts.object]
    rw [vmMemoryDynamic, hflag, vmMemObj_object]
    cases vmMemoryDynamic item <;> rfl
  have htemplate : ∀ v : Json, (v.orElse .null).orElse .null = v.orElse .null := by
    intro v
    cases hv : v.truthy with
    | true => simp only [Json.orElse_of_truthy hv]
    | false => rw [Json.orElse_of_falsy hv, Json.null_orElse]
  have hpair : ∀ a b : String, (p.object env item).get b = .null →
      firstOf (p.object env item) [a, b] = (p.object env item).get a := fun a b => firstOf_pair
  rw [VmParts.object, firmwareOf_object hupper, vmVcpu_object, hdynamic,
    hpair "nestedVirtualization" "nested" (by simp [VmParts.object]),
    hpair "autoStartAction" "automaticStart" (by simp [VmParts.object]),
    hpair "autoStopAction" "automaticStop" (by simp [VmParts.object]),
    hpair "configPath" "path" (by simp [VmParts.object]),
    hpair "dvdPath" "dvd" (by simp [VmParts.object]),
    hpair "highlyAvailable" "ha" (by simp [VmParts.object])]
  rw [← orElse_null_eq_self, ← ofInt?_nonZero, ← ofInt?_nonZero, Json.isNone_iff]
  have hbool : ∀ b, (Json.bool b).truthy = b := fun _ => rfl
  simp only [VmParts.object, VmParts.again, htemplate, hbool, List.cons.injEq, Prod.mk.injEq,
    Dict.get_cons, Dict.get_nil, Dict.getD_cons, true_and, and_true, reduceIte, String.reduceEq,
    Option.getD_some]
  constructor
  · rintro ⟨hid, hmin, hmax, hsnapshots, hcreated⟩
    exact ⟨hid.symm, hmin, hmax, hsnapshots.symm, hcreated⟩
  · rintro ⟨hid, hmin, hmax, hsnapshots, hcreated⟩
    exact ⟨hid.symm, hmin, hmax, hsnapshots.symm, hcreated⟩

/-- The items whose canonical object is a fixed point: no identity, no memory bound that is rounded
to 0, and None or true for the times and for the parents of the snapshots. -/
structure Fixed (env : Env) (item : Dict) : Prop where
  identity : ((item.get "id").orElse (item.get "vmId")).isNone = true
  memoryMin : convertsToZero env (vmMemoryMin item) = false
  memoryMax : convertsToZero env (vmMemoryMax item) = false
  snapshots : ∀ s ∈ snapshotsOf item, fixedSnapshot s = true
  createdAt : nullOrTrue ((item.get "createdAt").orElse (item.get "creationTime")) = true

/-- **Normalizing twice is normalizing once** exactly for the items that have no identity and
nothing false that is dropped the second time. -/
theorem normalizeVm_idempotent_iff (hupper : KeepsCapitals env.py) {item x : Dict}
    (h : normalizeVm env item = .ok x) : normalizeVm env x = .ok x ↔ Fixed env item := by
  obtain ⟨p, hp, rfl⟩ := normalizeVm_eq_ok.mp h
  have hsnapshots : p.snapshots = (p.again item).snapshots ↔
      ∀ s ∈ snapshotsOf item, fixedSnapshot s = true := by
    rw [normalizeSnapshots_eq_ok hp.snapshots]
    simp only [VmParts.again, Json.arr.injEq, List.map_map, List.map_inj_left, Function.comp_apply]
    exact forall₂_congr fun s _ => eq_comm.trans normalizeSnapshot_twice
  rw [normalizeVm_object hp, Except.ok.injEq, again_eq_iff hupper, hsnapshots, ne_eq, ne_eq,
    asInt_eq_zero hp.memoryMinBytes, asInt_eq_zero hp.memoryMaxBytes, Bool.not_eq_true,
    Bool.not_eq_true]
  exact ⟨fun ⟨h₁, h₂, h₃, h₄, h₅⟩ => ⟨h₁, h₂, h₃, h₄, h₅⟩,
    fun ⟨h₁, h₂, h₃, h₄, h₅⟩ => ⟨h₁, h₂, h₃, h₄, h₅⟩⟩

/-- An item with an identity and a name. -/
def Demo.item : Dict := [("id", .str "g"), ("name", .str "vm")]

/-- The example item can be normalized. -/
lemma Demo.normalizeVm_item : ∃ x, normalizeVm OpenVCenter.Demo.settings Demo.item = .ok x := by
  let p : VmParts :=
    { memoryBytes := some 0, memoryMinBytes := none, memoryMaxBytes := none
      memoryDemandBytes := none, cpuUsagePercent := none, autoStartDelaySec := none
      disks := .arr [], nics := .arr [], snapshots := .arr [] }
  have hparts : p.Of OpenVCenter.Demo.settings Demo.item :=
    { memoryBytes := asInt_int Binary64.representable_zero
      memoryMinBytes := rfl, memoryMaxBytes := rfl
      memoryDemandBytes := rfl, cpuUsagePercent := rfl, autoStartDelaySec := rfl
      disks := rfl, nics := rfl, snapshots := rfl }
  exact ⟨_, normalizeVm_eq_ok.mpr ⟨p, hparts, rfl⟩⟩

/-- The example's upper case keeps capitals. -/
lemma Demo.keepsCapitals : KeepsCapitals OpenVCenter.Demo.py := by
  intro s hs
  have hchars : s.toList.map Char.toUpper = s.toList.map id := by
    refine List.map_congr_left fun c hc => ?_
    have hcapital := of_decide_eq_true (List.all_eq_true.mp hs c hc)
    unfold Char.toUpper
    rw [dif_neg]
    · rfl
    · rintro ⟨hsmall, -⟩
      exact absurd (UInt32.le_trans hsmall hcapital.2) (by decide)
  show String.ofList (s.toList.map Char.toUpper) = s
  rw [hchars, List.map_id, String.ofList_toList]

/-- The example item, normalized twice. -/
theorem normalizeVm_idempotent_iff_item :
    ∃ x, normalizeVm Demo.settings Demo.item = .ok x ∧
      (normalizeVm Demo.settings x = .ok x ↔ Fixed Demo.settings Demo.item) := by
  obtain ⟨x, hx⟩ := Demo.normalizeVm_item
  exact ⟨x, hx, normalizeVm_idempotent_iff Demo.keepsCapitals hx⟩

/-- The second time the identity is gone. -/
theorem normalizeVm_idempotent_counterexample :
    ¬ ∀ (env : Env), KeepsCapitals env.py → ∀ item x : Dict, normalizeVm env item = .ok x →
      normalizeVm env x = .ok x := by
  intro h
  obtain ⟨x, hx⟩ := Demo.normalizeVm_item
  have htwice := h Demo.settings Demo.keepsCapitals Demo.item x hx
  obtain ⟨p, hp, rfl⟩ := normalizeVm_eq_ok.mp hx
  rw [normalizeVm_object hp, Except.ok.injEq, again_eq_iff Demo.keepsCapitals] at htwice
  exact Bool.noConfusion htwice.1

end OpenVCenter
