import OpenVCenter.NormalizedVm
import OpenVCenter.Nics

set_option relaxedAutoImplicit false
set_option autoImplicit false

/-!
# What an item of an inventory can raise

`apply_vm_inventory` normalizes each item and writes it onto its row. Most values are converted
under a guard; this file has the ones that are not, for a full inventory.

## Main definitions

* `OpenVCenter.ItemReads` — the items that raise nothing.

## Main results

* `OpenVCenter.returns_item_iff` — **when an item is normalized and written**.
-/

namespace OpenVCenter

open Fallible

variable {env : Env}

/-! ## Parts -/

/-- Normalizing an item returns exactly if the reads of its parts do. -/
lemma returns_parts {raw : Dict} : Returns (normalizeVm env raw) ↔
    Returns (vmMemoryBytes env raw >>= asInt env) ∧ Returns (asInt env (vmMemoryMin raw)) ∧
    Returns (asInt env (vmMemoryMax raw)) ∧ Returns (vmMemoryDemand env raw >>= asInt env) ∧
    Returns (asFloat env (firstOf raw ["cpuUsagePercent", "cpuUsagePct"])) ∧
    Returns (asInt env (firstOf raw ["autoStartDelaySec", "automaticStartDelay"])) ∧
    Returns (normalizeDisks env raw) ∧ Returns (normalizeNics env raw) ∧
    Returns (normalizeSnapshots raw) := by
  constructor
  · rintro ⟨x, hx⟩
    obtain ⟨p, hp, -⟩ := normalizeVm_eq_ok.mp hx
    exact ⟨⟨_, hp.memoryBytes⟩, ⟨_, hp.memoryMinBytes⟩, ⟨_, hp.memoryMaxBytes⟩,
      ⟨_, hp.memoryDemandBytes⟩, ⟨_, hp.cpuUsagePercent⟩, ⟨_, hp.autoStartDelaySec⟩,
      ⟨_, hp.disks⟩, ⟨_, hp.nics⟩, ⟨_, hp.snapshots⟩⟩
  · rintro ⟨⟨_, h₁⟩, ⟨_, h₂⟩, ⟨_, h₃⟩, ⟨_, h₄⟩, ⟨_, h₅⟩, ⟨_, h₆⟩, ⟨_, h₇⟩, ⟨_, h₈⟩, ⟨_, h₉⟩⟩
    exact ⟨_, normalizeVm_eq_ok.mpr ⟨⟨_, _, _, _, _, _, _, _, _⟩,
      ⟨h₁, h₂, h₃, h₄, h₅, h₆, h₇, h₈, h₉⟩, rfl⟩⟩

/-- The processor count of a full inventory. -/
def fullVcpu (vcpu : Json) : Json := (vcpu.orElse (.int 1)).orElse (.int 1)

/-- The write of a full inventory raises at the processor count and the child lists only. -/
lemma returns_writeVmRow {now : Time} {raw item : Dict} {hostId : String}
    {clusterId : Option String} {vm : Vm} :
    Returns (writeVmRow env now false raw item hostId clusterId vm) ↔
      Returns (env.py.int (fullVcpu (item.get "vcpu"))) ∧
      Returns (syncDisks env (item.get "disks")) ∧ Returns (syncNics (item.get "nics")) ∧
      Returns (syncSnapshots env (item.get "snapshots")) := by
  unfold writeVmRow
  have hvcpu : ∀ vm, Returns (writeVcpu env false raw item vm) ↔
      Returns (env.py.int (fullVcpu (item.get "vcpu"))) := fun vm => returns_bind_pure
  have hdisks : ∀ vm, Returns (writeDisks env false raw item vm) ↔
      Returns (syncDisks env (item.get "disks")) := fun vm => returns_bind_pure
  have hnics : ∀ vm, Returns (writeNics false raw item vm) ↔
      Returns (syncNics (item.get "nics")) := fun vm => returns_bind_pure
  have hsnapshots : ∀ vm, Returns (writeSnapshots env false raw item vm) ↔
      Returns (syncSnapshots env (item.get "snapshots")) := fun vm => returns_bind_pure
  rw [← hvcpu]
  refine returns_bind fun vm₁ _ => ?_
  rw [← hdisks]
  refine returns_bind fun vm₂ _ => ?_
  rw [← hnics]
  refine returns_bind fun vm₃ _ => ?_
  rw [← hsnapshots]
  exact returns_bind_pure

/-- An item raises nothing when its numbers, its processor count and its child lists do not. -/
lemma returns_item {now : Time} {raw : Dict} {hostId : String} {clusterId : Option String}
    {vm : Vm} :
    Returns (normalizeVm env raw >>= fun item =>
        writeVmRow env now false raw item hostId clusterId vm) ↔
      (Returns (vmMemoryBytes env raw >>= asInt env) ∧ Returns (asInt env (vmMemoryMin raw)) ∧
        Returns (asInt env (vmMemoryMax raw)) ∧ Returns (vmMemoryDemand env raw >>= asInt env) ∧
        Returns (asFloat env (firstOf raw ["cpuUsagePercent", "cpuUsagePct"])) ∧
        Returns (asInt env (firstOf raw ["autoStartDelaySec", "automaticStartDelay"]))) ∧
      Returns (env.py.int (fullVcpu (vmVcpu raw))) ∧
      Returns (normalizeDisks env raw >>= syncDisks env) ∧
      Returns (normalizeNics env raw >>= syncNics) ∧
      Returns (normalizeSnapshots raw >>= syncSnapshots env) := by
  constructor
  · rintro ⟨vm', h⟩
    obtain ⟨item, hitem, hwrite⟩ := Effect.except_bind_eq_ok.mp h
    obtain ⟨h₁, h₂, h₃, h₄, h₅, h₆, -, -, -⟩ := returns_parts.mp ⟨item, hitem⟩
    obtain ⟨p, hp, rfl⟩ := normalizeVm_eq_ok.mp hitem
    obtain ⟨hvcpu, hdisks, hnics, hsnapshots⟩ := returns_writeVmRow.mp ⟨vm', hwrite⟩
    refine ⟨⟨h₁, h₂, h₃, h₄, h₅, h₆⟩, ?_, ?_, ?_, ?_⟩
    · simpa [VmParts.object] using hvcpu
    · exact returns_bind_iff.mpr ⟨p.disks, hp.disks, by simpa [VmParts.object] using hdisks⟩
    · exact returns_bind_iff.mpr ⟨p.nics, hp.nics, by simpa [VmParts.object] using hnics⟩
    · exact returns_bind_iff.mpr
        ⟨p.snapshots, hp.snapshots, by simpa [VmParts.object] using hsnapshots⟩
  · rintro ⟨⟨h₁, h₂, h₃, h₄, h₅, h₆⟩, hvcpu, hdisks, hnics, hsnapshots⟩
    obtain ⟨disks, hd, hdisks⟩ := returns_bind_iff.mp hdisks
    obtain ⟨nics, hn, hnics⟩ := returns_bind_iff.mp hnics
    obtain ⟨snapshots, hs, hsnapshots⟩ := returns_bind_iff.mp hsnapshots
    obtain ⟨item, hitem⟩ := returns_parts.mpr
      ⟨h₁, h₂, h₃, h₄, h₅, h₆, ⟨disks, hd⟩, ⟨nics, hn⟩, ⟨snapshots, hs⟩⟩
    refine returns_bind_iff.mpr ⟨item, hitem, returns_writeVmRow.mpr ?_⟩
    obtain ⟨p, hp, rfl⟩ := normalizeVm_eq_ok.mp hitem
    obtain rfl : p.disks = disks := Except.ok.inj (hp.disks.symm.trans hd)
    obtain rfl : p.nics = nics := Except.ok.inj (hp.nics.symm.trans hn)
    obtain rfl : p.snapshots = snapshots := Except.ok.inj (hp.snapshots.symm.trans hs)
    simpa [VmParts.object] using ⟨hvcpu, hdisks, hnics, hsnapshots⟩

/-! ## Numbers -/

/-- The number, or the one in MiB that stands in for it, is not too large. -/
def sizeReads (env : Env) (v inMib : Json) : Bool :=
  if v.isNone then !tooLarge env mib inMib else !tooLarge env 1 v

/-- The processor count is missing, false, or a number `int()` reads. -/
def countReads (env : Env) : Json → Bool
  | .float f => f.isFinite
  | .str s => s.isEmpty || (env.py.parseInt s).isSome
  | .arr l => l.isEmpty
  | .obj d => d.isEmpty
  | _ => true

/-- A size in bytes or in mebibytes is read. -/
lemma returns_sizeOrMib {v inMib : Json} {f : Option ℤ → Json}
    (hf : ∀ o : Option ℤ, (∀ n ∈ o, Binary64.Representable n) → Returns (asInt env (f o))) :
    Returns ((if v.isNone then mibToBytes env inMib >>= fun n => pure (f n) else pure v) >>=
      asInt env) ↔ sizeReads env v inMib = true := by
  unfold sizeReads
  split_ifs with hv
  · rw [Bool.not_eq_true', ← returns_mibToBytes]
    constructor
    · rintro ⟨o, h⟩
      obtain ⟨w, hw, -⟩ := Effect.except_bind_eq_ok.mp h
      obtain ⟨n, hn, -⟩ := Effect.except_bind_eq_ok.mp hw
      exact ⟨n, hn⟩
    · rintro ⟨n, hn⟩
      refine returns_bind_iff.mpr ⟨f n, ?_, hf n (representable_of_mibToBytes hn)⟩
      rw [hn]
      rfl
  · rw [Bool.not_eq_true', ← returns_asInt]
    exact Iff.rfl

/-- A number of processors is read.

**Proof sketch.** By the kind of the value. What is false counts as one. Of the rest `int` takes
every integer, the finite floats and the texts that can be parsed. -/
lemma returns_count {v : Json} :
    Returns (env.py.int (fullVcpu v)) ↔ countReads env v = true := by
  have hone : ∀ w : Json, (w.orElse (.int 1)).orElse (.int 1) = w.orElse (.int 1) := by
    intro w
    unfold Json.orElse
    cases hw : w.truthy <;> simp [hw]
  rw [fullVcpu, hone]
  cases v with
  | null => exact iff_of_true ⟨1, rfl⟩ rfl
  | bool b => cases b <;> exact iff_of_true ⟨1, rfl⟩ rfl
  | int i =>
    refine iff_of_true ?_ rfl
    unfold Json.orElse
    split_ifs
    · exact ⟨i, rfl⟩
    · exact ⟨1, rfl⟩
  | float f =>
    unfold Json.orElse
    split_ifs with hf
    · exact PyFloat.returns_toIntTrunc
    · rcases f with _ | _ | d
      · exact absurd rfl hf
      · exact absurd rfl hf
      · exact iff_of_true ⟨1, rfl⟩ rfl
  | str s =>
    have hreads : countReads env (.str s) = (s.isEmpty || (env.py.parseInt s).isSome) := rfl
    rw [hreads]
    unfold Json.orElse
    split_ifs with hs
    · have hempty : s.isEmpty = false := by simpa [Json.truthy] using hs
      rw [hempty, Bool.false_or]
      rcases hparse : env.py.parseInt s with _ | i
      · have hint : env.py.int (.str s) = .error .valueError := by simp only [PyStd.int, hparse]
        rw [hint]
        exact iff_of_false (not_returns_error _) Bool.false_ne_true
      · have hint : env.py.int (.str s) = .ok i := by simp only [PyStd.int, hparse]
        exact iff_of_true ⟨i, hint⟩ rfl
    · have hempty : s.isEmpty = true := by simpa [Json.truthy] using hs
      rw [hempty]
      exact iff_of_true ⟨1, rfl⟩ rfl
  | arr l =>
    rcases l with _ | ⟨w, l⟩
    · exact iff_of_true ⟨1, rfl⟩ rfl
    · exact iff_of_false (not_returns_error _) Bool.false_ne_true
  | obj d =>
    rcases d with _ | ⟨w, d⟩
    · exact iff_of_true ⟨1, rfl⟩ rfl
    · exact iff_of_false (not_returns_error _) Bool.false_ne_true

/-! ## Lists of objects -/

/-- The elements are objects with a property. -/
def AllObjects (P : Dict → Prop) : Json → Prop
  | .arr l => ∀ v ∈ l, ∃ d, v = .obj d ∧ P d
  | .str s => s.isEmpty = true
  | .obj d => d = []
  | _ => False

/-- Elements with their positions. -/
lemma forall_mem_zipIdx {α : Type} {P : α → Prop} {l : List α} :
    (∀ e ∈ l.zipIdx, P e.1) ↔ ∀ x ∈ l, P x := by
  constructor
  · intro h x hx
    obtain ⟨i, hi, rfl⟩ := List.getElem_of_mem hx
    exact h (l[i], i) (List.mem_zipIdx_iff_getElem?.mpr (List.getElem?_eq_getElem hi))
  · exact fun h e he => h e.1 (List.fst_mem_of_mem_zipIdx he)

/-- A function of the objects of a list returns exactly if it returns at each of them. -/
lemma returns_mapObjects {α : Type} {f : ℕ → Dict → Except Raised α} {P : Dict → Prop}
    (hf : ∀ i d, Returns (f i d) ↔ P d) {v : Json} :
    Returns (mapObjects f v) ↔ AllObjects P v := by
  have helement : ∀ e : Json × ℕ, Returns (e.1.asDict >>= fun d => f e.2 d) ↔
      ∃ d, e.1 = .obj d ∧ P d := by
    rintro ⟨v, i⟩
    cases v with
    | obj d =>
      show Returns (f i d) ↔ _
      rw [hf]
      simp
    | _ => exact iff_of_false (not_returns_error _) (by simp)
  have hloop : ∀ elems : List Json,
      Returns (elems.zipIdx.mapM fun e => e.1.asDict >>= fun d => f e.2 d) ↔
        ∀ v ∈ elems, ∃ d, v = .obj d ∧ P d := by
    intro elems
    simp only [returns_mapM, helement]
    exact forall_mem_zipIdx (P := fun v : Json => ∃ d, v = .obj d ∧ P d)
  unfold mapObjects AllObjects
  cases v with
  | arr l => exact hloop l
  | str s =>
    have hempty : s.isEmpty = true ↔ s.toList = [] := by
      rw [String.isEmpty_iff, ← String.toList_inj]
      rfl
    refine (hloop _).trans (Iff.trans ?_ hempty.symm)
    rcases s.toList with _ | ⟨c, text⟩ <;> simp
  | obj d =>
    refine (hloop _).trans ?_
    rcases d with _ | ⟨entry, d⟩ <;> simp
  | _ => exact iff_of_false (not_returns_error _) not_false

/-! ## Disks -/

variable (env)

/-- A disk of the agent's: its size is a finite number, also in bytes, its use is not too large, and
its format is a text, or false. -/
def vhdReads (v : Dict) : Prop :=
  (∃ x, env.py.float ((v.get "sizeGb").orElse (.int 0)) = .ok x ∧ (x.scale gib).isFinite = true) ∧
  tooLarge env 1 (v.get "usedBytes") = false ∧ ∃ s, (v.get "format").orElse (.str "") = .str s

/-- A disk in the canonical form: neither size is too large. -/
def diskReads (d : Dict) : Prop :=
  tooLarge env 1 (d.get "sizeBytes") = false ∧ tooLarge env 1 (d.get "usedBytes") = false

/-- The disks of an item, in the canonical form where there is one. -/
def DisksRead (raw : Dict) : Prop :=
  if (raw.get "disks").isNone then
    (raw.get "vhds").isTrueScalar = false ∧
      ∀ v ∈ objectsIn ((raw.get "vhds").orElse (.arr [])), vhdReads env v
  else AllObjects (diskReads env) (raw.get "disks")

variable {env}

/-- Where the disks are read. -/
lemma returns_syncDisks {v : Json} : Returns (syncDisks env v) ↔ AllObjects (diskReads env) v := by
  refine returns_mapObjects fun i d => ?_
  unfold diskReads
  rw [← returns_asInt, ← returns_asInt]
  exact returns_bind fun _ _ => returns_bind_pure

/-- Where a text is put in capitals. -/
lemma returns_upperOf {v : Json} : Returns (upperOf env v) ↔ ∃ s, v = .str s := by
  cases v with
  | str s => exact iff_of_true ⟨_, rfl⟩ ⟨s, rfl⟩
  | _ => exact iff_of_false (not_returns_error _) (by simp)

/-- Where a virtual disk of the agent is read. -/
lemma returns_normalizeVhd {v : Dict} : Returns (normalizeVhd env v) ↔ vhdReads env v := by
  have hrest : ∀ size : PyFloat, Returns ((size.scale gib).toIntRound >>= fun sizeBytes =>
      asInt env (v.get "usedBytes") >>= fun usedBytes =>
        upperOf env ((v.get "format").orElse (.str "")) >>= fun format =>
          pure (Json.obj [("id", ((v.get "diskId").orElse (v.get "id")).orElse (.str "")),
            ("path", v.getD "path" (.str "")), ("controller", v.getD "controller" (.str "")),
            ("sizeBytes", .int sizeBytes), ("usedBytes", .ofInt? usedBytes),
            ("type", (v.get "type").orElse (.str "")), ("format", format)])) ↔
      (size.scale gib).isFinite = true ∧ tooLarge env 1 (v.get "usedBytes") = false ∧
        ∃ s, (v.get "format").orElse (.str "") = .str s := by
    intro size
    rw [← PyFloat.returns_toIntRound, ← returns_asInt, ← returns_upperOf]
    refine returns_bind fun _ _ => ?_
    refine returns_bind fun _ _ => ?_
    exact returns_bind_pure
  unfold normalizeVhd vhdReads
  refine returns_bind_iff.trans ?_
  simp only [hrest]
  constructor
  · rintro ⟨x, hx, hfinite, hrest⟩
    exact ⟨⟨x, hx, hfinite⟩, hrest⟩
  · rintro ⟨⟨x, hx, hfinite⟩, hrest⟩
    exact ⟨x, hx, hfinite, hrest⟩

/-- A disk of the agent's is written once it is normalized. -/
lemma diskReads_of_normalizeVhd {v : Dict} {w : Json} (h : normalizeVhd env v = .ok w) :
    ∃ d, w = .obj d ∧ diskReads env d := by
  obtain ⟨size, -, h⟩ := Effect.except_bind_eq_ok.mp h
  obtain ⟨sizeBytes, hsize, h⟩ := Effect.except_bind_eq_ok.mp h
  obtain ⟨usedBytes, hused, h⟩ := Effect.except_bind_eq_ok.mp h
  obtain ⟨format, -, h⟩ := Effect.except_bind_eq_ok.mp h
  refine ⟨_, (Except.ok.inj h).symm, ?_, ?_⟩
  · exact returns_asInt.mp ⟨_, by simpa using asInt_int (PyFloat.representable_of_toIntRound hsize)⟩
  · exact returns_asInt.mp ⟨_, by simpa using asInt_ofInt? (representable_of_asInt hused)⟩

/-- Where the disks of an item are read. -/
lemma returns_disks {raw : Dict} :
    Returns (normalizeDisks env raw >>= syncDisks env) ↔ DisksRead env raw := by
  unfold normalizeDisks DisksRead
  split_ifs with hnone
  · constructor
    · rintro ⟨rows, h⟩
      obtain ⟨disks, hdisks, -⟩ := Effect.except_bind_eq_ok.mp h
      obtain ⟨vhds, hvhds, hdisks⟩ := Effect.except_bind_eq_ok.mp hdisks
      obtain ⟨elems, helems, -⟩ := Effect.except_bind_eq_ok.mp hdisks
      refine ⟨returns_iterate.mp ⟨vhds, hvhds⟩, fun v hv => ?_⟩
      rw [← dictsOf_iterate hvhds] at hv
      exact returns_normalizeVhd.mp (returns_mapM.mp ⟨elems, helems⟩ v hv)
    · rintro ⟨hlist, hvhds⟩
      obtain ⟨vhds, hiterate⟩ := returns_iterate.mpr hlist
      rw [← dictsOf_iterate hiterate] at hvhds
      obtain ⟨elems, helems⟩ := returns_mapM.mpr fun v hv => returns_normalizeVhd.mpr (hvhds v hv)
      refine returns_bind_iff.mpr ⟨.arr elems, ?_, returns_syncDisks.mpr fun w hw => ?_⟩
      · rw [hiterate]
        show ((dictsOf vhds).mapM (normalizeVhd env) >>= fun disks => pure (Json.arr disks)) = _
        rw [helems]
        rfl
      · obtain ⟨v, -, hv⟩ := mem_of_mapM_eq_ok helems hw
        exact diskReads_of_normalizeVhd hv
  · exact returns_syncDisks

/-! ## Adapters -/

/-- The addresses of an adapter can be iterated. -/
def nicReads (n : Dict) : Prop := (n.get "ipAddresses").isTrueScalar = false

/-- The adapters of an item: a list whose first element is an object, and if that is in the
canonical form, all are objects with addresses that can be iterated; or a false value. -/
def NicsRead : Json → Prop
  | .arr (.obj first :: rest) =>
    Dict.has first "switchName" = true → AllObjects nicReads (.arr (.obj first :: rest))
  | .arr (_ :: _) => False
  | v => v.truthy = false

/-- Where an adapter is read. -/
lemma returns_nicRow {i : ℕ} {n : Dict} : Returns (nicRow i n) ↔ nicReads n := by
  unfold nicRow nicReads
  rw [← returns_iterate]
  exact returns_bind_pure

/-- Where adapters are read. -/
lemma returns_syncNics {v : Json} : Returns (syncNics v) ↔ AllObjects nicReads v :=
  returns_mapObjects fun _ n => returns_nicRow (n := n)

/-- The adapters in the agent's spelling are always written. -/
lemma returns_syncNics_agent (l : List Dict) :
    Returns (syncNics (.arr (l.map (normalizeNic env)))) := by
  refine returns_syncNics.mpr fun v hv => ?_
  obtain ⟨n, -, rfl⟩ := List.mem_map.mp hv
  exact ⟨agentNic env n, rfl, isTrueScalar_agentNic n⟩

/-- Where the adapters of an item are read.

**Proof sketch.** By cases on the value under `nics`. One that is false is read as no adapters; a
list is read when its entries are objects, or when it starts with an object in the spelling of the
agent; no other value is read. -/
lemma returns_nics {raw : Dict} :
    Returns (normalizeNics env raw >>= syncNics) ↔ NicsRead (raw.get "nics") := by
  unfold normalizeNics
  generalize raw.get "nics" = v
  cases hv : v.truthy with
  | false =>
    rw [Json.orElse_of_falsy hv]
    have hread : NicsRead v := by
      unfold NicsRead
      split
      · cases hv
      · cases hv
      · exact hv
    exact iff_of_true ⟨[], rfl⟩ hread
  | true =>
    rw [Json.orElse_of_truthy hv]
    simp only [hv, if_true]
    cases v with
    | arr l =>
      rcases l with _ | ⟨v, rest⟩
      · cases hv
      have hhead : (∀ d, v ≠ .obj d) → ¬ Returns (syncNics (.arr (v :: rest))) := by
        intro hv h
        obtain ⟨d, hd, -⟩ := returns_syncNics.mp h v List.mem_cons_self
        exact hv d hd
      cases v with
      | obj first =>
        show Returns ((if Dict.has first "switchName" = true then _ else _) >>= syncNics) ↔
          (Dict.has first "switchName" = true → AllObjects nicReads (.arr (.obj first :: rest)))
        split_ifs with hfirst
        · rw [← returns_syncNics]
          exact ⟨fun h _ => h, fun h => h hfirst⟩
        · refine iff_of_true ?_ fun h => absurd h hfirst
          exact returns_syncNics_agent (dictsOf (.obj first :: rest))
      | _ => exact iff_of_false (hhead nofun) id
    | str s =>
      have hempty : ¬ s.isEmpty = true := by simpa [Json.truthy] using hv
      have hwrite : ¬ Returns (syncNics (.str s)) := fun h => hempty (returns_syncNics.mp h)
      exact iff_of_false hwrite (by simp [NicsRead, hv])
    | null => cases hv
    | _ => exact iff_of_false (not_returns_error _) (by simp [NicsRead, hv])

/-! ## Snapshots -/

/-- The snapshots of an item: no value, or one that can be iterated. -/
def snapshotsRead : Json → Bool
  | .bool _ | .int _ | .float _ => false
  | _ => true

/-- Where the snapshots of an item are read. -/
lemma returns_snapshots {raw : Dict} :
    Returns (normalizeSnapshots raw >>= syncSnapshots env) ↔
      snapshotsRead (raw.get "snapshots") = true := by
  have hsync : ∀ v, Returns (syncSnapshots env v) ↔ AllObjects (fun _ => True) v := fun v =>
    returns_mapObjects fun _ _ => iff_of_true (returns_pure _) trivial
  have hnormalized : ∀ l : List Dict,
      Returns (syncSnapshots env (.arr (l.map normalizeSnapshot))) := by
    intro l
    refine (hsync _).mpr fun v hv => ?_
    obtain ⟨s, -, rfl⟩ := List.mem_map.mp hv
    exact ⟨_, rfl, trivial⟩
  unfold normalizeSnapshots
  generalize raw.get "snapshots" = v
  cases v with
  | null => exact iff_of_true (hnormalized []) rfl
  | arr l => exact iff_of_true (hnormalized (dictsOf l)) rfl
  | str s => exact iff_of_true (hnormalized _) rfl
  | obj d => exact iff_of_true (hnormalized _) rfl
  | _ => exact iff_of_false (not_returns_error _) Bool.false_ne_true

/-! ## The item -/

/-- The items of a full inventory that raise nothing: every number and every list that is not
converted under a guard is of its kind, and no number is too large. -/
structure ItemReads (env : Env) (raw : Dict) : Prop where
  memory : sizeReads env ((firstOf raw ["memoryBytes"]).orElse ((vmMemObj raw).get "assignedBytes"))
    (firstOf raw ["memoryMb", "memoryMB"]) = true
  memoryMin : tooLarge env 1 (vmMemoryMin raw) = false
  memoryMax : tooLarge env 1 (vmMemoryMax raw) = false
  memoryDemand : sizeReads env (firstOf raw ["memoryDemandBytes"])
    (firstOf raw ["memoryConsumedMb"]) = true
  cpuUsage : beyondDoubles (firstOf raw ["cpuUsagePercent", "cpuUsagePct"]) = false
  autoStartDelay : tooLarge env 1 (firstOf raw ["autoStartDelaySec", "automaticStartDelay"]) = false
  vcpu : countReads env (vmVcpu raw) = true
  disks : DisksRead env raw
  nics : NicsRead (raw.get "nics")
  snapshots : snapshotsRead (raw.get "snapshots") = true

/-- **An item of a full inventory is normalized and written** exactly when nothing in it raises. -/
theorem returns_item_iff (raw : Dict) (now : Time) (hostId : String) (clusterId : Option String)
    (vm : Vm) :
    Returns (normalizeVm env raw >>= fun item =>
      writeVmRow env now false raw item hostId clusterId vm) ↔ ItemReads env raw := by
  have hmemory : Returns (vmMemoryBytes env raw >>= asInt env) ↔ sizeReads env
      ((firstOf raw ["memoryBytes"]).orElse ((vmMemObj raw).get "assignedBytes"))
      (firstOf raw ["memoryMb", "memoryMB"]) = true :=
    returns_sizeOrMib fun o ho => ⟨some (o.getD 0), asInt_int (by
      cases o with
      | none => exact Binary64.representable_zero
      | some n => exact ho n rfl)⟩
  have hdemand : Returns (vmMemoryDemand env raw >>= asInt env) ↔ sizeReads env
      (firstOf raw ["memoryDemandBytes"]) (firstOf raw ["memoryConsumedMb"]) = true :=
    returns_sizeOrMib fun o ho => ⟨o, asInt_ofInt? ho⟩
  rw [returns_item, hmemory, hdemand, returns_asInt, returns_asInt, returns_asInt, returns_asFloat,
    returns_count, returns_disks, returns_nics, returns_snapshots]
  constructor
  · rintro ⟨⟨h₁, h₂, h₃, h₄, h₅, h₆⟩, h₇, h₈, h₉, h₁₀⟩
    exact ⟨h₁, h₂, h₃, h₄, h₅, h₆, h₇, h₈, h₉, h₁₀⟩
  · rintro ⟨h₁, h₂, h₃, h₄, h₅, h₆, h₇, h₈, h₉, h₁₀⟩
    exact ⟨⟨h₁, h₂, h₃, h₄, h₅, h₆⟩, h₇, h₈, h₉, h₁₀⟩

/-- An item whose snapshots are a number cannot be read. -/
theorem returns_item_counterexample :
    ¬ ∀ (env : Env) (raw : Dict) (now : Time) (hostId : String) (clusterId : Option String)
      (vm : Vm), Returns (normalizeVm env raw >>= fun item =>
        writeVmRow env now false raw item hostId clusterId vm) := by
  intro h
  have hreads := returns_item.mp
    (h Demo.settings [("id", .str "g"), ("snapshots", .int 0)] 0 "h" none
      { id := "", vmUuid := some "g", hostId := "h" })
  have hsnapshots := returns_snapshots.mp hreads.2.2.2.2
  exact Bool.noConfusion hsnapshots

end OpenVCenter
