import OpenVCenter.Conversions
import OpenVCenter.HardwareSchema

set_option relaxedAutoImplicit false
set_option autoImplicit false

/-!
# What the stored hardware of a host can raise

`_hardware_out` catches a value that does not validate. The mapping of a legacy payload runs before,
outside of the guard, and raises at a list that is none, a path that is no text and a size that is
no finite number.

## Main definitions

* `OpenVCenter.finiteTimes` — a number that `_num` makes finite, also multiplied.
* `OpenVCenter.LegacyReads` — the legacy payloads whose mapping returns.
* `OpenVCenter.HardwareReads` — the stored values that are read.

## Main results

* `OpenVCenter.returns_hardwareOut_iff` — **when `_hardware_out` returns**.
-/

namespace OpenVCenter

open Fallible (Returns)

variable (env : Env)

/-! ## Numbers -/

/-- The value is no number, or one that is finite as it is and multiplied by `c`. -/
def finiteTimes (c : ℕ) (v : Json) : Bool :=
  !beyondDoubles v && match env.py.float v with
    | .ok x => (x.scale c).isFinite
    | .error _ => true

/-- The value is no number, or one that multiplied by `c` is at most a half. -/
def roundsToZero (c : ℕ) (v : Json) : Bool :=
  match env.py.float v with
  | .ok (.fin d) => decide (|d.value * c| ≤ 1 / 2)
  | .ok _ => false
  | .error _ => true

variable {env}

variable (env) in
/-- `num` converts, gives zero, or raises on integers beyond the doubles. -/
lemma num_cases (v : Json) :
    (∃ x, env.py.float v = .ok x ∧ num env v = .ok x ∧ beyondDoubles v = false) ∨
      ((∃ e, env.py.float v = .error e) ∧ num env v = .ok (.ofRat 0) ∧ beyondDoubles v = false) ∨
      (∃ e, num env v = .error e) ∧ beyondDoubles v = true := by
  unfold num
  rcases float_cases env v with ⟨x, hx, hb⟩ | ⟨hx, hb⟩ | ⟨hx | hx, hb⟩ <;> rw [hx]
  · exact Or.inl ⟨x, rfl, rfl, hb⟩
  · exact Or.inr (Or.inr ⟨⟨_, rfl⟩, hb⟩)
  · exact Or.inr (Or.inl ⟨⟨_, rfl⟩, rfl, hb⟩)
  · exact Or.inr (Or.inl ⟨⟨_, rfl⟩, rfl, hb⟩)

/-- Where `num` returns. -/
lemma returns_num {v : Json} : Returns (num env v) ↔ beyondDoubles v = false := by
  rcases num_cases env v with ⟨x, -, hx, hb⟩ | ⟨-, hx, hb⟩ | ⟨⟨e, hx⟩, hb⟩ <;> rw [hx, hb]
  · exact iff_of_true ⟨x, rfl⟩ rfl
  · exact iff_of_true ⟨_, rfl⟩ rfl
  · exact iff_of_false (Fallible.not_returns_error e) (by simp)

/-- The float zero. -/
lemma ofRat_zero : PyFloat.ofRat 0 = .fin ⟨0, Binary64.representable_zero⟩ :=
  PyFloat.ofRat_of_representable Binary64.representable_zero

/-- Zero scaled is zero. -/
lemma scale_zero (c : ℕ) :
    (PyFloat.ofRat 0).scale c = .fin ⟨0, Binary64.representable_zero⟩ := by
  rw [ofRat_zero, PyFloat.scale_fin, zero_mul, ofRat_zero]

/-- A conversion after `_num`, of the number itself or of its product. -/
lemma returns_num_bind {c : ℕ} {v : Json} {f : PyFloat → Except Raised ℤ}
    (hf : ∀ x, Returns (f x) ↔ (x.scale c).isFinite = true) :
    Returns (num env v >>= f) ↔ finiteTimes env c v = true := by
  unfold finiteTimes
  rcases num_cases env v with ⟨x, hfloat, hx, hb⟩ | ⟨⟨e, hfloat⟩, hx, hb⟩ | ⟨⟨e, hx⟩, hb⟩
  · rw [hfloat, hx, hb]
    exact hf x
  · rw [hfloat, hx, hb]
    refine iff_of_true ((hf _).mpr ?_) rfl
    rw [scale_zero]
    rfl
  · rw [hx, hb]
    exact iff_of_false (Fallible.not_returns_error e) (by simp)

/-- Where a scaled number is read. -/
lemma returns_numTimes {c : ℕ} {v : Json} :
    Returns (numTimes env c v) ↔ finiteTimes env c v = true :=
  returns_num_bind fun _ => PyFloat.returns_toIntRound

/-- Where an integer is read. -/
lemma returns_numInt {v : Json} : Returns (numInt env v) ↔ finiteTimes env 1 v = true := by
  refine returns_num_bind fun x => ?_
  rw [PyFloat.scale_one]
  exact PyFloat.returns_toIntTrunc

/-- A size in MiB is rounded to no byte exactly when it is half a byte at most. -/
lemma numTimes_mib_eq_zero {v : Json} {n : ℤ} (h : numTimes env mib v = .ok n) :
    n = 0 ↔ roundsToZero env mib v = true := by
  unfold numTimes at h
  unfold roundsToZero
  rcases num_cases env v with ⟨x, hfloat, hx, -⟩ | ⟨⟨e, hfloat⟩, hx, -⟩ | ⟨⟨e, hx⟩, -⟩
  · rw [hx] at h
    rw [hfloat]
    rcases x with _ | s | d
    · cases h
    · cases h
    · replace h : (PyFloat.ofRat (d.value * mib)).toIntRound = .ok n := h
      have hpower : d.value * mib = d.value * 2 ^ 20 := by norm_num [mib]
      rcases lt_or_ge |d.value * mib| (2 ^ 1024) with hrange | hrange
      · have hexact : Binary64.Representable (d.value * mib) := by
          rw [hpower] at hrange ⊢
          exact Binary64.representable_mul_pow d.representable 20 hrange
        rw [PyFloat.ofRat_of_representable hexact] at h
        obtain rfl := Except.ok.inj h
        exact Binary64.roundHalfEven_eq_zero.trans decide_eq_true_iff.symm
      · have hinf : PyFloat.ofRat (d.value * mib) = .inf (decide (d.value * mib < 0)) := by
          unfold PyFloat.ofRat
          rw [Binary64.round_eq_none hrange]
        rw [hinf] at h
        cases h
  · rw [hx] at h
    rw [hfloat]
    replace h : ((PyFloat.ofRat 0).scale mib).toIntRound = .ok n := h
    rw [scale_zero] at h
    obtain rfl := Except.ok.inj h
    exact iff_of_true (Binary64.roundHalfEven_intCast 0) rfl
  · rw [hx] at h
    cases h

/-! ## Volumes -/

variable (env)

/-- The volumes of a legacy payload. -/
def legacyVolumes (d : Dict) : List Dict := objectsIn ((d.get "storage").orElse (.arr []))

/-- The path of a volume. -/
def legacyPath (vol : Dict) : Json := ((vol.get "path").orElse (vol.get "name")).orElse (.str "")

/-- The separate system drive can be looked for: the paths of the volumes up to the first `C:` are
texts, and if there is none, its sizes are finite. -/
def systemDriveReads (diskC : Dict) : List Dict → Bool
  | [] => finiteTimes env gib (diskC.get "totalGb") && finiteTimes env gib (diskC.get "freeGb")
  | vol :: vols =>
    match isCDrive [("path", legacyPath vol)] with
    | .ok listed => listed || systemDriveReads diskC vols
    | .error _ => false

/-- The legacy payload has nothing that is recognized. -/
def unrecognized (d : Dict) : Bool :=
  !(d.get "cpuModel").truthy && !(d.get "osName").truthy &&
    roundsToZero env mib (d.get "memoryCapacityMB") && (legacyVolumes d).isEmpty &&
    !(d.get "diskC").isDict

/-- The legacy payloads whose mapping returns. -/
structure LegacyReads (d : Dict) : Prop where
  storage : (d.get "storage").isTrueScalar = false
  volumes : ∀ vol ∈ legacyVolumes d, finiteTimes env gib (vol.get "totalGb") = true ∧
    finiteTimes env gib (vol.get "freeGb") = true
  systemDrive : ∀ diskC, d.get "diskC" = .obj diskC →
    systemDriveReads env diskC (legacyVolumes d) = true
  memory : finiteTimes env mib (d.get "memoryCapacityMB") = true
  processors : unrecognized env d = true ∨
    finiteTimes env 1 (d.get "logicalProcessors") = true ∧
    finiteTimes env 1 (d.get "cpuSockets") = true ∧ finiteTimes env 1 (d.get "cpuCores") = true ∧
    beyondDoubles (d.get "cpuLoadPercent") = false ∧
    beyondDoubles (d.get "memoryUsagePercent") = false

/-- The stored values that are read: what is no object, what has a `cpu` object, and the legacy
payloads whose mapping returns. -/
def HardwareReads : Json → Prop
  | .obj d => d = [] ∨ (Dict.get d "cpu").isDict = true ∨ LegacyReads env d
  | _ => True

variable {env}

/-- The volumes of a legacy report. -/
lemma iterate_storage {d : Dict} {elems : List Json}
    (h : ((d.get "storage").orElse (.arr [])).iterate = .ok elems) :
    dictsOf elems = legacyVolumes d := dictsOf_iterate h

/-- Where a volume is read. -/
lemma returns_legacyVolume {vol : Dict} :
    Returns (legacyVolume env vol) ↔ finiteTimes env gib (vol.get "totalGb") = true ∧
      finiteTimes env gib (vol.get "freeGb") = true := by
  unfold legacyVolume
  rw [← returns_numTimes, ← returns_numTimes]
  exact Fallible.returns_bind fun _ _ => Fallible.returns_bind_pure

/-- The path of a volume. -/
lemma legacyVolume_path {vol v : Dict} (h : legacyVolume env vol = .ok v) :
    v.get "path" = legacyPath vol := by
  obtain ⟨total, -, h⟩ := Effect.except_bind_eq_ok.mp h
  obtain ⟨free, -, h⟩ := Effect.except_bind_eq_ok.mp h
  obtain rfl := Except.ok.inj h
  simp [legacyPath]

/-- The search for the system drive, and what is done without one. -/
lemma returns_anyCDrive {α : Type} {vols storage : List Dict} {diskC : Dict} {found : α}
    {missing : Except Raised α}
    (h : List.Forall₂ (fun vol v => legacyVolume env vol = .ok v) vols storage)
    (hmissing : Returns missing ↔ finiteTimes env gib (diskC.get "totalGb") = true ∧
      finiteTimes env gib (diskC.get "freeGb") = true) :
    Returns (anyCDrive storage >>= fun listed => if listed then pure found else missing) ↔
      systemDriveReads env diskC vols = true := by
  induction h with
  | nil =>
    rw [systemDriveReads, Bool.and_eq_true, ← hmissing]
    exact Iff.rfl
  | @cons vol v vols storage hv _ ih =>
    have hpath : isCDrive [("path", legacyPath vol)] = isCDrive v := by
      unfold isCDrive
      rw [legacyVolume_path hv]
      rfl
    rw [systemDriveReads, hpath, anyCDrive]
    rcases isCDrive v with e | _ | _
    · exact iff_of_false (Fallible.not_returns_error e) Bool.false_ne_true
    · exact ih
    · exact iff_of_true ⟨found, rfl⟩ rfl

/-- Where the system drive is read. -/
lemma returns_withDiskC {vols storage : List Dict} {diskC : Json}
    (h : List.Forall₂ (fun vol v => legacyVolume env vol = .ok v) vols storage) :
    Returns (withDiskC env diskC storage) ↔
      ∀ d, diskC = .obj d → systemDriveReads env d vols = true := by
  cases diskC with
  | obj d =>
    simp only [Json.obj.injEq, forall_eq']
    refine returns_anyCDrive h ?_
    rw [← returns_numTimes, ← returns_numTimes]
    exact Fallible.returns_bind fun _ _ => Fallible.returns_bind_pure
  | _ => exact iff_of_true ⟨storage, rfl⟩ nofun

/-- There is a volume exactly when one is listed or the system drive is given apart. -/
lemma withDiskC_isEmpty {vols storage storage' : List Dict} {diskC : Json}
    (h : List.Forall₂ (fun vol v => legacyVolume env vol = .ok v) vols storage)
    (hdisk : withDiskC env diskC storage = .ok storage') :
    storage'.isEmpty = (vols.isEmpty && !diskC.isDict) := by
  have hvols : storage.isEmpty = vols.isEmpty := by
    cases h <;> rfl
  cases diskC with
  | obj d =>
    obtain ⟨listed, hlisted, hdisk⟩ := Effect.except_bind_eq_ok.mp hdisk
    cases listed with
    | true =>
      obtain rfl := Except.ok.inj hdisk
      rcases storage with _ | ⟨v, storage⟩
      · cases hlisted
      · simp [Json.isDict, Json.asDict?]
    | false =>
      obtain ⟨total, -, hdisk⟩ := Effect.except_bind_eq_ok.mp hdisk
      obtain ⟨free, -, hdisk⟩ := Effect.except_bind_eq_ok.mp hdisk
      obtain rfl := Except.ok.inj hdisk
      simp [Json.isDict, Json.asDict?]
  | _ =>
    obtain rfl := Except.ok.inj hdisk
    simp [hvols, Json.isDict, Json.asDict?]

/-- `v or ""` is true when `v` is. -/
lemma truthy_orElse_empty (v : Json) : (v.orElse (.str "")).truthy = v.truthy := by
  cases hv : v.truthy with
  | true => rw [Json.orElse_of_truthy hv, hv]
  | false =>
    rw [Json.orElse_of_falsy hv]
    rfl

/-- Nothing is made of a legacy payload that is not recognized. -/
lemma legacy_nothing {d : Dict} {storage storage' : List Dict} {memoryBytes : ℤ}
    (hvolumes : List.Forall₂ (fun vol v => legacyVolume env vol = .ok v) (legacyVolumes d) storage)
    (hdisk : withDiskC env (d.get "diskC") storage = .ok storage')
    (hmemory : numTimes env mib (d.get "memoryCapacityMB") = .ok memoryBytes) :
    (!((d.get "cpuModel").orElse (.str "")).truthy &&
      !((d.get "osName").orElse (.str "")).truthy && decide (memoryBytes = 0) &&
        storage'.isEmpty) = unrecognized env d := by
  have hzero : decide (memoryBytes = 0) = roundsToZero env mib (d.get "memoryCapacityMB") := by
    rw [Bool.eq_iff_iff, decide_eq_true_iff]
    exact numTimes_mib_eq_zero hmemory
  rw [truthy_orElse_empty, truthy_orElse_empty, withDiskC_isEmpty hvolumes hdisk, hzero,
    unrecognized]
  simp only [Bool.and_assoc]

/-- Where a legacy report is read. -/
lemma returns_normalizeLegacy {d : Dict} :
    Returns (normalizeLegacy env d) ↔ LegacyReads env d := by
  have hstages : Returns (normalizeLegacy env d) ↔
      Returns ((d.get "storage").orElse (.arr [])).iterate ∧
      (∀ vol ∈ legacyVolumes d, Returns (legacyVolume env vol)) ∧
      (∀ diskC, d.get "diskC" = .obj diskC →
        systemDriveReads env diskC (legacyVolumes d) = true) ∧
      Returns (numTimes env mib (d.get "memoryCapacityMB")) ∧
      (unrecognized env d = true ∨
        Returns (numInt env (d.get "logicalProcessors")) ∧
        Returns (numInt env (d.get "cpuSockets")) ∧ Returns (numInt env (d.get "cpuCores")) ∧
        Returns (num env (d.get "cpuLoadPercent")) ∧
        Returns (num env (d.get "memoryUsagePercent"))) := by
    refine Fallible.returns_bind fun elems helems => ?_
    rw [iterate_storage helems, ← Fallible.returns_mapM]
    refine Fallible.returns_bind fun storage hstorage => ?_
    have hvolumes := Fallible.mapM_eq_ok.mp hstorage
    rw [← returns_withDiskC hvolumes]
    refine Fallible.returns_bind fun storage' hdisk => ?_
    refine Fallible.returns_bind fun memoryBytes hmemory => ?_
    rw [legacy_nothing hvolumes hdisk hmemory]
    cases unrecognized env d with
    | true => exact iff_of_true ⟨none, rfl⟩ (Or.inl rfl)
    | false =>
      refine Iff.trans ?_ (or_iff_right Bool.false_ne_true).symm
      refine Fallible.returns_bind fun logical _ => ?_
      refine Fallible.returns_bind fun sockets _ => ?_
      refine Fallible.returns_bind fun cores _ => ?_
      refine Fallible.returns_bind fun cpuPercent _ => ?_
      exact Fallible.returns_bind_pure
  simp only [hstages, returns_iterate, returns_legacyVolume, returns_numTimes, returns_numInt,
    returns_num]
  exact ⟨fun ⟨h₁, h₂, h₃, h₄, h₅⟩ => ⟨h₁, h₂, h₃, h₄, h₅⟩,
    fun ⟨h₁, h₂, h₃, h₄, h₅⟩ => ⟨h₁, h₂, h₃, h₄, h₅⟩⟩

/-! ## The stored hardware -/

/-- Where a report is read. -/
lemma returns_normalizeHardware {raw : Json} :
    Returns (normalizeHardware env raw) ↔ HardwareReads env raw := by
  rcases raw with _ | _ | _ | _ | _ | _ | (_ | ⟨entry, d⟩)
  case obj.cons =>
    show Returns (if _ then _ else _) ↔ _ ∨ _ ∨ _
    rw [or_iff_right (List.cons_ne_nil entry d)]
    split_ifs with hcpu
    · exact iff_of_true ⟨_, rfl⟩ (Or.inl hcpu)
    · rw [or_iff_right hcpu]
      exact returns_normalizeLegacy
  case obj.nil => exact iff_of_true ⟨none, rfl⟩ (Or.inl rfl)
  all_goals exact iff_of_true ⟨none, rfl⟩ trivial

/-- **`_hardware_out` returns** exactly when the stored value is no object, has a `cpu` object, or
is a legacy payload whose lists, paths and sizes can be read. -/
theorem returns_hardwareOut_iff (pydantic : Pydantic) (raw : Json) :
    Returns (hardwareOut env pydantic raw) ↔ HardwareReads env raw := by
  rw [← returns_normalizeHardware]
  refine Fallible.returns_bind_of fun canonical => ?_
  rcases canonical with _ | canonical
  · exact ⟨none, rfl⟩
  · show Returns (if _ then _ else _)
    split_ifs
    · exact ⟨some canonical, rfl⟩
    · exact ⟨none, rfl⟩

/-- A legacy payload whose storage is a number cannot be served. -/
theorem returns_hardwareOut_counterexample :
    ¬ ∀ (env : Env) (pydantic : Pydantic) (raw : Json), Returns (hardwareOut env pydantic raw) := by
  intro h
  obtain ⟨served, hserved⟩ := h Demo.settings Demo.pydantic
    (.obj [("cpuModel", .str "cpu"), ("storage", .int 5)])
  cases hserved

end OpenVCenter
