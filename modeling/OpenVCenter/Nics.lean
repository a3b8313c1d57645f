import OpenVCenter.NormalizedVm
import OpenVCenter.System
import OpenVCenter.VmRow

set_option relaxedAutoImplicit false
set_option autoImplicit false

/-!
# The adapters of a VM

`normalize_vm` reads the whole list of adapters in the agent's spelling, or takes it as it is,
by whether the first adapter has a `switchName`. The row of another adapter depends on it.

## Main definitions

* `OpenVCenter.nicRow` — the row of an adapter as it is, `OpenVCenter.agentNic` — the adapter read
  in the agent's spelling.
* `OpenVCenter.nicRowsAlone` — the rows of adapters that are each alone in the list of a VM.
* `OpenVCenter.SameEitherWay` — both spellings give an adapter one row.

## Main results

* `OpenVCenter.nicRows_eq_alone_iff` — **when the rows are those of the adapters alone**.
-/

namespace OpenVCenter

open Fallible (Returns)

variable (env : Env)

/-! ## One adapter -/

/-- The row of an adapter but for its addresses. -/
def nicWith (i : ℕ) (n : Dict) (ipAddresses : List Json) : VmNic where
  position := i
  nicId := (n.get "id").orElse .null
  name := (n.get "name").orElse (.str "")
  switchName := (n.get "switchName").orElse .null
  vlanId := accessVlan (n.get "vlanId")
  macAddress := (n.get "macAddress").orElse .null
  ipAddresses := ipAddresses
  connected := (n.getD "connected" (.bool true)).truthy

/-- The row of an adapter as it is. -/
def nicRow (i : ℕ) (n : Dict) : Except Raised VmNic :=
  ((n.get "ipAddresses").orElse (.arr [])).iterate >>= fun ips => pure (nicWith i n ips)

/-- The adapter read in the agent's spelling. -/
def agentNic (n : Dict) : Dict :=
  [("id", n.getD "id" (.str "")), ("name", n.getD "name" (.str "")),
    ("switchName", ((n.get "switchName").orElse (n.get "networkId")).orElse (.str "")),
    ("vlanId", n.get "vlanId"), ("macAddress", n.getD "macAddress" (.str "")),
    ("ipAddresses", .arr (splitIps env (n.get "ipAddresses"))),
    ("connected", .bool (n.getD "connected" (.bool true)).truthy)]

/-- What the adapter alone in the list of a VM is read as. -/
def readAlone (n : Dict) : Dict := if n.has "switchName" then n else agentNic env n

/-- A text that is not empty. -/
def Json.isWord : Json → Bool
  | .str s => !s.isEmpty
  | _ => false

/-- The addresses are the same taken one by one and as the agent writes them: no value, texts that
are not empty, or a text of one character that separates nothing. -/
def plainAddresses : Json → Bool
  | .arr l => l.all Json.isWord
  | .str s => match s.toList with
    | [] => true
    | [c] => !env.py.isListSep c
    | _ => false
  | v => !v.truthy

/-- Both spellings give the adapter one row: its switch is not given as the agent's network, and its
addresses are plain. -/
def SameEitherWay (n : Dict) : Prop :=
  ((n.get "switchName").truthy = true ∨ (n.get "networkId").truthy = false) ∧
    plainAddresses env (n.get "ipAddresses") = true

/-- Whether an adapter reads the same either way can be decided. -/
instance (n : Dict) : Decidable (SameEitherWay env n) := inferInstanceAs (Decidable (_ ∧ _))

variable {env}

/-- An adapter's row fails on addresses that are a true scalar. -/
lemma nicRow_eq_error {i : ℕ} {n : Dict} {e : Raised} :
    nicRow i n = .error e ↔ e = .typeError ∧ (n.get "ipAddresses").isTrueScalar = true := by
  unfold nicRow
  rw [← iterate_orElse_eq_error]
  rcases ((n.get "ipAddresses").orElse (.arr [])).iterate with e' | ips
  · exact ⟨fun h => congrArg _ (Except.error.inj h), fun h => congrArg _ (Except.error.inj h)⟩
  · exact iff_of_false nofun nofun

/-- `d.get(k, default) or v` for a default that is falsy. -/
lemma orElse_getD {d : Dict} {k : String} {default v : Json} (h : default.truthy = false) :
    (d.getD k default).orElse v = (d.get k).orElse v := by
  unfold Dict.get Dict.getD
  cases d.find? fun e => decide (e.1 = k) with
  | none => exact Json.orElse_of_falsy h
  | some e => rfl

/-- The row of an adapter in the agent's spelling. -/
lemma nicRow_agentNic {i : ℕ} {n : Dict} :
    nicRow i (agentNic env n) =
      .ok { nicWith i n (splitIps env (n.get "ipAddresses")) with
        switchName := (((n.get "switchName").orElse (n.get "networkId")).orElse (.str "")).orElse
          .null } := by
  have haddresses : (Json.orElse (.arr (splitIps env (n.get "ipAddresses"))) (.arr [])).iterate =
      .ok (splitIps env (n.get "ipAddresses")) := by
    cases splitIps env (n.get "ipAddresses") <;> rfl
  have hempty : (Json.str "").truthy = false := rfl
  unfold nicRow
  rw [show (agentNic env n).get "ipAddresses" = .arr (splitIps env (n.get "ipAddresses")) by
    simp [agentNic], haddresses]
  simp [nicWith, agentNic, orElse_getD hempty, Json.truthy, pure, Except.pure, bind, Except.bind]

/-- The elements of a list are read the same when they are texts that are not empty. -/
lemma eq_map_str_iff {l : List Json} :
    l = (l.filter Json.truthy).map (fun v => .str (env.py.str v)) ↔
      l.all Json.isWord = true := by
  induction l with
  | nil => simp
  | cons v l ih =>
    have hlength : ((l.filter Json.truthy).map fun v => Json.str (env.py.str v)).length ≤
        l.length := by
      rw [List.length_map]
      exact List.length_filter_le _ _
    cases hv : v.truthy with
    | false =>
      rw [List.filter_cons_of_neg (by simp [hv])]
      constructor
      · intro h
        have hcons := congrArg List.length h
        rw [List.length_cons] at hcons
        omega
      · intro h
        cases v <;> simp_all [Json.truthy, Json.isWord]
    | true =>
      rw [List.filter_cons_of_pos hv, List.map_cons, List.cons.injEq, ih, List.all_cons,
        Bool.and_eq_true]
      refine and_congr_left' ?_
      cases v <;> simp_all [Json.truthy, PyStd.str, Json.isWord]

/-- A text is read the same when it is one character at most, and that no separator. -/
lemma map_singleton_eq_splitList_iff {s : String} :
    s.toList.map (fun c => Json.str (String.singleton c)) = (env.py.splitList s).map .str ↔
      plainAddresses env (.str s) = true := by
  have hstr : Function.Injective fun w : List Char => Json.str (String.ofList w) :=
    fun _ _ h => String.ofList_injective (Json.str.inj h)
  have hwords : s.toList.map (fun c => Json.str (String.singleton c)) =
        (env.py.splitList s).map .str ↔
      Separated.words env.py.isListSep s.toList = s.toList.map fun c => [c] := by
    rw [PyStd.splitList_eq, List.map_map, eq_comm, ← (List.map_injective_iff.mpr hstr).eq_iff,
      List.map_map]
    simp only [Function.comp_def, String.singleton_eq_ofList]
  rw [hwords, Separated.words_eq_map_singleton_iff]
  simp only [plainAddresses]
  generalize s.toList = text
  rcases text with _ | ⟨c, _ | ⟨c', text⟩⟩ <;> simp

/-- The addresses are read the same exactly when they are plain. -/
lemma iterate_eq_splitIps {v : Json} :
    (v.orElse (.arr [])).iterate = .ok (splitIps env v) ↔ plainAddresses env v = true := by
  cases v with
  | arr l =>
    have hself : Json.orElse (.arr l) (.arr []) = .arr l := by
      cases l <;> rfl
    rw [hself]
    refine Iff.trans ⟨Except.ok.inj, congrArg Except.ok⟩ eq_map_str_iff
  | str s =>
    rw [← map_singleton_eq_splitList_iff]
    cases hs : Json.truthy (.str s) with
    | true =>
      rw [Json.orElse_of_truthy hs]
      exact ⟨Except.ok.inj, congrArg Except.ok⟩
    | false =>
      have hempty : s = "" := by simpa [Json.truthy] using hs
      rw [hempty]
      exact iff_of_true rfl rfl
  | obj d =>
    cases d <;> simp [Json.orElse, Json.truthy, Json.iterate, splitIps, plainAddresses]
  | null => simp [Json.iterate, splitIps, plainAddresses, Json.truthy]
  | bool b => cases b <;> simp [Json.orElse, Json.iterate, splitIps, plainAddresses, Json.truthy]
  | int i =>
    by_cases hi : i = 0 <;>
      simp [Json.orElse, Json.iterate, splitIps, plainAddresses, Json.truthy, hi]
  | float f =>
    cases hf : Json.truthy (.float f) <;>
      simp [Json.orElse, Json.iterate, splitIps, plainAddresses, hf]

/-- The switch is read the same exactly when it is not given as the agent's network. -/
lemma switch_eq_iff {v w : Json} :
    v.orElse .null = ((v.orElse w).orElse (.str "")).orElse .null ↔
      v.truthy = true ∨ w.truthy = false := by
  have hempty : (Json.str "").truthy = false := rfl
  cases hv : v.truthy with
  | true => simp [Json.orElse, hv]
  | false =>
    rw [Json.orElse_of_falsy hv, Json.orElse_of_falsy hv]
    cases hw : w.truthy with
    | true =>
      rw [Json.orElse_of_truthy hw, Json.orElse_of_truthy hw]
      refine iff_of_false ?_ (by simp)
      rintro rfl
      cases hw
    | false => simp [Json.orElse_of_falsy hw, Json.orElse_of_falsy hempty]

/-- **Both spellings give an adapter one row** exactly when the adapter says the same in both. -/
lemma nicRow_agentNic_iff {i : ℕ} {n : Dict} :
    nicRow i n = nicRow i (agentNic env n) ↔ SameEitherWay env n := by
  unfold SameEitherWay
  rw [nicRow_agentNic, ← switch_eq_iff, ← iterate_eq_splitIps, nicRow]
  constructor
  · intro h
    obtain ⟨ips, hips, hrow⟩ := Effect.except_bind_eq_ok.mp h
    have hrow := Except.ok.inj hrow
    obtain rfl : ips = splitIps env (n.get "ipAddresses") := congrArg VmNic.ipAddresses hrow
    exact ⟨congrArg VmNic.switchName hrow, hips⟩
  · rintro ⟨hswitch, hips⟩
    rw [hips, ← hswitch]
    rfl

/-! ## The adapters of a VM -/

section Rows

variable (env)

/-- The rows of the adapters of an item. -/
def nicRows (item : Dict) : Except Raised (List VmNic) := do
  let normalized ← normalizeVm env item
  syncNics (normalized.get "nics")

/-- The rows of the adapters when each is alone in the list of a VM, numbered in order. -/
def nicRowsAlone (l : List Dict) : Except Raised (List VmNic) := do
  let rows ← l.zipIdx.mapM fun e => do
    let rows ← nicRows env [("nics", .arr [.obj e.1])]
    pure (rows.map fun row => { row with position := e.2 })
  pure rows.flatten

/-- What an adapter is read as in a list whose first one is `first`. -/
def readAfter (first n : Dict) : Dict := if first.has "switchName" then n else agentNic env n

/-- No row depends on the other adapters: each adapter is spelled as the first one is or has one row
in both spellings, or one alone has addresses that cannot be read either. -/
def Independent (l : List Dict) : Prop :=
  ∀ first ∈ l.head?,
    (∀ n ∈ l, n.has "switchName" = first.has "switchName" ∨ SameEitherWay env n) ∨
      first.has "switchName" = true ∧
        ∃ n ∈ l, n.has "switchName" = true ∧ (n.get "ipAddresses").isTrueScalar = true

variable {env}

/-- The rows of a list of objects. -/
lemma syncNics_objects (l : List Dict) :
    syncNics (.arr (l.map .obj)) = l.zipIdx.mapM fun e => nicRow e.2 e.1 := by
  show ((l.map Json.obj).zipIdx.mapM _ : Except Raised (List VmNic)) = _
  rw [List.zipIdx_map, List.mapM_map]
  rfl

/-- A list of objects has objects only. -/
lemma dictsOf_objects (l : List Dict) : dictsOf (l.map .obj) = l := by
  rw [dictsOf, List.filterMap_map]
  exact List.filterMap_some

/-- A normalized item has the adapters that `_normalize_nics` gives. -/
lemma normalizeVm_nics {item normalized : Dict} (h : normalizeVm env item = .ok normalized) :
    normalizeNics env item = .ok (normalized.get "nics") := by
  obtain ⟨p, hp, rfl⟩ := normalizeVm_eq_ok.mp h
  simpa [VmParts.object] using hp.nics

/-- A list of adapters is read by the spelling of the first. -/
lemma normalizeNics_cons {item first : Dict} {l : List Dict}
    (h : item.get "nics" = .arr ((first :: l).map .obj)) :
    normalizeNics env item =
      .ok (.arr (((first :: l).map (readAfter env first)).map .obj)) := by
  unfold normalizeNics readAfter
  rw [h, Json.orElse_of_truthy rfl]
  show (if first.has "switchName" = true then _ else _) = _
  split_ifs with hfirst
  · rw [List.map_id']
    rfl
  · show Except.ok (Json.arr ((dictsOf ((first :: l).map Json.obj)).map (normalizeNic env))) = _
    rw [dictsOf_objects, List.map_map]
    rfl

/-- An item with adapters and nothing else. -/
lemma normalizeVm_adapters {v nics : Json} (h : normalizeNics env [("nics", v)] = .ok nics) :
    ∃ normalized, normalizeVm env [("nics", v)] = .ok normalized ∧
      normalized.get "nics" = nics := by
  let p : VmParts :=
    { memoryBytes := some 0, memoryMinBytes := none, memoryMaxBytes := none
      memoryDemandBytes := none, cpuUsagePercent := none, autoStartDelaySec := none
      disks := .arr [], nics := nics, snapshots := .arr [] }
  have hparts : p.Of env [("nics", v)] :=
    { memoryBytes := asInt_int Binary64.representable_zero
      memoryMinBytes := rfl, memoryMaxBytes := rfl
      memoryDemandBytes := rfl, cpuUsagePercent := rfl, autoStartDelaySec := rfl
      disks := rfl, nics := h, snapshots := rfl }
  exact ⟨p.object env [("nics", v)], normalizeVm_eq_ok.mpr ⟨p, hparts, rfl⟩,
    by simp [VmParts.object, p]⟩

/-- The rows of an adapter that is alone. -/
lemma nicRows_singleton (n : Dict) :
    nicRows env [("nics", .arr [.obj n])] =
      nicRow 0 (readAlone env n) >>= fun row => pure [row] := by
  have hadapters : normalizeNics env [("nics", .arr [.obj n])] =
      .ok (.arr [.obj (readAlone env n)]) := normalizeNics_cons (l := []) rfl
  obtain ⟨normalized, hitem, hnics⟩ := normalizeVm_adapters hadapters
  unfold nicRows
  rw [hitem]
  show syncNics (normalized.get "nics") = _
  rw [hnics]
  refine (syncNics_objects [readAlone env n]).trans ?_
  rw [List.zipIdx_singleton, List.mapM_cons]
  rfl

/-- The position of an adapter is in its row only. -/
lemma nicRow_position (i : ℕ) (n : Dict) :
    nicRow i n = nicRow 0 n >>= fun row => pure { row with position := i } := by
  unfold nicRow
  rcases ((n.get "ipAddresses").orElse (.arr [])).iterate with e | ips <;> rfl

/-- The rows of adapters read each alone. -/
lemma nicRowsAlone_eq (l : List Dict) :
    nicRowsAlone env l = l.zipIdx.mapM fun e => nicRow e.2 (readAlone env e.1) := by
  have helement : ∀ e : Dict × ℕ,
      (nicRows env [("nics", .arr [.obj e.1])] >>= fun rows =>
        pure (rows.map fun row => { row with position := e.2 })) =
      nicRow e.2 (readAlone env e.1) >>= fun row => pure [row] := by
    intro e
    rw [nicRows_singleton, nicRow_position e.2]
    rcases nicRow 0 (readAlone env e.1) with err | row <;> rfl
  unfold nicRowsAlone
  simp only [helement]
  exact Fallible.mapM_singleton_flatten

/-- An adapter reads as if alone exactly if it has the first one's spelling, or reads the same
either way. -/
lemma nicRow_readAfter {i : ℕ} {first n : Dict} :
    nicRow i (readAfter env first n) = nicRow i (readAlone env n) ↔
      n.has "switchName" = first.has "switchName" ∨ SameEitherWay env n := by
  unfold readAfter readAlone
  cases hn : n.has "switchName" <;> cases hfirst : first.has "switchName"
  · simp
  · simpa using nicRow_agentNic_iff
  · simpa [eq_comm] using nicRow_agentNic_iff
  · simp

/-- The loops over adapters that are read one way and another. -/
lemma exists_zipIdx_error {f : Dict → Dict} {l : List Dict} :
    (∃ e ∈ l.zipIdx, nicRow e.2 (f e.1) = .error .typeError) ↔
      ∃ n ∈ l, ((f n).get "ipAddresses").isTrueScalar = true := by
  simp only [nicRow_eq_error, true_and]
  constructor
  · rintro ⟨e, he, h⟩
    exact ⟨e.1, List.fst_mem_of_mem_zipIdx he, h⟩
  · rintro ⟨n, hn, h⟩
    obtain ⟨i, hi, rfl⟩ := List.getElem_of_mem hn
    exact ⟨(l[i], i), List.mem_zipIdx_iff_getElem?.mpr (List.getElem?_eq_getElem hi), h⟩

/-- In the agent's spelling the addresses are a list. -/
lemma isTrueScalar_agentNic (n : Dict) :
    ((agentNic env n).get "ipAddresses").isTrueScalar = false := by
  simp [agentNic, Json.isTrueScalar]

/-- Addresses that are a true scalar, once read. -/
lemma isTrueScalar_readAfter {first n : Dict} :
    ((readAfter env first n).get "ipAddresses").isTrueScalar = true ↔
      first.has "switchName" = true ∧ (n.get "ipAddresses").isTrueScalar = true := by
  unfold readAfter
  split_ifs with h
  · rw [and_iff_right h]
  · rw [isTrueScalar_agentNic]
    exact iff_of_false Bool.false_ne_true fun h' => h h'.1

/-- An adapter alone is read by its own spelling. -/
lemma readAlone_eq (n : Dict) : readAlone env n = readAfter env n n := rfl

/-- **The rows of the adapters of a VM are those of the adapters alone** exactly when no row depends
on the other adapters. -/
theorem nicRows_eq_alone_iff {item normalized : Dict} {l : List Dict}
    (hitem : normalizeVm env item = .ok normalized) (hnics : item.get "nics" = .arr (l.map .obj)) :
    syncNics (normalized.get "nics") = nicRowsAlone env l ↔ Independent env l := by
  have hnormalized := normalizeVm_nics hitem
  rcases l with _ | ⟨first, l⟩
  · have hnone : normalizeNics env item = .ok (.arr []) := by
      unfold normalizeNics
      rw [hnics]
      rfl
    rw [← Except.ok.inj (hnone.symm.trans hnormalized)]
    exact iff_of_true rfl fun _ h => nomatch h
  rw [normalizeNics_cons hnics] at hnormalized
  rw [← Except.ok.inj hnormalized, syncNics_objects, List.zipIdx_map, List.mapM_map,
    nicRowsAlone_eq]
  generalize hlist : first :: l = nics
  have hfirst : nics.head? = some first := hlist ▸ rfl
  -- the two loops raise the same exception or none
  have hraise := Fallible.mapM_eq_mapM_iff (l := nics.zipIdx)
    (f := fun e => nicRow e.2 (readAfter env first e.1))
    (g := fun e => nicRow e.2 (readAlone env e.1))
    (fun _ _ _ h => (nicRow_eq_error.mp h).1) (fun _ _ _ h => (nicRow_eq_error.mp h).1)
  refine hraise.trans ?_
  have heach : (∀ e ∈ nics.zipIdx,
        nicRow e.2 (readAfter env first e.1) = nicRow e.2 (readAlone env e.1)) ↔
      ∀ n ∈ nics, n.has "switchName" = first.has "switchName" ∨ SameEitherWay env n := by
    simp only [nicRow_readAfter]
    constructor
    · intro h n hn
      obtain ⟨i, hi, rfl⟩ := List.getElem_of_mem hn
      exact h (nics[i], i) (List.mem_zipIdx_iff_getElem?.mpr (List.getElem?_eq_getElem hi))
    · exact fun h e he => h e.1 (List.fst_mem_of_mem_zipIdx he)
  rw [heach, exists_zipIdx_error, exists_zipIdx_error]
  simp only [isTrueScalar_readAfter, readAlone_eq, Independent, hfirst, Option.mem_some_iff,
    forall_eq']
  refine or_congr_right ⟨?_, ?_⟩
  · rintro ⟨⟨_, _, h, -⟩, n, hn, hswitch, hraises⟩
    exact ⟨h, n, hn, hswitch, hraises⟩
  · rintro ⟨h, n, hn, hswitch, hraises⟩
    exact ⟨⟨n, hn, h, hraises⟩, n, hn, hswitch, hraises⟩

/-- Two adapters in the agent's form. -/
def Demo.agentNics : List Dict :=
  [[("name", .str "a"), ("networkId", .str "lan")],
    [("name", .str "b"), ("networkId", .str "wan")]]

/-- Adapters of one form are read as they are alone. -/
theorem nicRows_eq_alone_iff_agent :
    ∃ normalized, normalizeVm Demo.settings [("nics", .arr (Demo.agentNics.map .obj))] =
        .ok normalized ∧
      syncNics (normalized.get "nics") = nicRowsAlone Demo.settings Demo.agentNics := by
  obtain ⟨normalized, hitem, -⟩ := @normalizeVm_adapters OpenVCenter.Demo.settings
    (.arr (Demo.agentNics.map .obj)) _ rfl
  refine ⟨normalized, hitem, (nicRows_eq_alone_iff hitem rfl).mpr fun first hfirst => Or.inl ?_⟩
  obtain rfl := Option.some.inj hfirst
  have hnone : Demo.agentNics.all (fun n => decide (n.has "switchName" = false)) = true := by decide
  exact fun n hn => Or.inl (of_decide_eq_true (List.all_eq_true.mp hnone n hn))

/-- An adapter in canonical form, then one in the agent's. -/
def Demo.mixedNics : List Dict :=
  [[("name", .str "a"), ("switchName", .str "lan")],
    [("name", .str "b"), ("networkId", .str "wan")]]

/-- The VM with these adapters. -/
def Demo.mixedItem : Dict := [("nics", .arr (Demo.mixedNics.map .obj))]

/-- The mixed item of the example can be normalized. -/
lemma Demo.normalizeVm_mixedItem :
    ∃ normalized, normalizeVm OpenVCenter.Demo.settings Demo.mixedItem = .ok normalized ∧
      normalized.get "nics" = .arr (Demo.mixedNics.map .obj) :=
  normalizeVm_adapters rfl

/-- The switch of an adapter is lost behind an adapter in the other spelling. -/
theorem nicRows_eq_alone_counterexample :
    ¬ ∀ (env : Env) (item normalized : Dict) (l : List Dict),
      normalizeVm env item = .ok normalized → item.get "nics" = .arr (l.map .obj) →
        syncNics (normalized.get "nics") = nicRowsAlone env l := by
  intro h
  obtain ⟨normalized, hitem, hnics⟩ := Demo.normalizeVm_mixedItem
  have hrows := h Demo.settings _ normalized Demo.mixedNics hitem rfl
  rw [hnics, nicRowsAlone_eq] at hrows
  have hswitches : some [Json.str "lan", .null] = some [Json.str "lan", .str "wan"] :=
    congrArg (fun rows => rows.toOption.map (List.map VmNic.switchName)) hrows
  simp at hswitches

end Rows

end OpenVCenter
