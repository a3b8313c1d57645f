import OpenVCenter.TerminalResponse
import OpenVCenter.Wire

set_option relaxedAutoImplicit false
set_option autoImplicit false

/-!
# Responses as they are received

A response is validated as it comes from `json.loads`, so that any string in it may have a surrogate
without a partner. The thumbnails are stripped first; what is left goes into the task record, which
takes texts only. A response that is not readable then raises outside every savepoint.

## Main definitions

* `OpenVCenter.WireResponse` — an `AgentResponse` whose strings need not be texts.
* `OpenVCenter.WireResponse.readable?` — the envelope that is left of it without its thumbnails, if
  all strings of that are texts.
* `OpenVCenter.receiveResponse`, `OpenVCenter.arrived` — the handler, and the state behind it.

## Main results

* `OpenVCenter.arrived_eq_step` — what is received is a step of the system.
* `OpenVCenter.arrived_of_texts` — where all strings are texts, the step of that envelope.
* `OpenVCenter.response_settles_iff` — a terminal response settles its task exactly when it is
  readable, its lifecycle change lands and the version it stamps, if any, fits.
-/

namespace OpenVCenter

open Effect

variable {env : Env} {w : World} {hostId id : String} {resp : AgentResponse} {task : Task}

/-! ## Stripping twice -/

/-- Images are taken out of a list once. -/
lemma stripVms_stripVms (v : Json) : stripVms (stripVms v) = stripVms v := by
  cases v with
  | arr l =>
    simp only [stripVms, List.map_map]
    congr 1
    refine List.map_congr_left fun a _ => ?_
    cases a with
    | obj d =>
      show Json.obj ((Dict.erase d "thumbnail").filter _) = Json.obj (Dict.erase d "thumbnail")
      unfold Dict.erase
      rw [List.filter_filter]
      simp only [Bool.and_self]
    | null | bool | int | float | str | arr => rfl
  | null | bool | int | float | str | obj => rfl

/-- Images are taken out of an object once. -/
lemma dropThumbnails_dropThumbnails (d : Dict) :
    dropThumbnails (dropThumbnails d) = dropThumbnails d := by
  have herased : Dict.erase (dropThumbnails d) "thumbnail" = dropThumbnails d := by
    unfold dropThumbnails Dict.erase
    refine List.filter_eq_self.mpr fun e he => ?_
    obtain ⟨a, ha, rfl⟩ := List.mem_map.mp he
    have hne := (List.mem_filter.mp ha).2
    split_ifs <;> exact hne
  have hsame : ∀ e ∈ dropThumbnails d,
      (if e.1 = "vms" then (e.1, stripVms e.2) else e) = id e := by
    intro e he
    obtain ⟨a, -, rfl⟩ := List.mem_map.mp he
    by_cases hk : a.1 = "vms"
    · simp only [hk, if_true, stripVms_stripVms, id]
    · simp only [hk, if_false, id]
  calc dropThumbnails (dropThumbnails d)
      = (Dict.erase (dropThumbnails d) "thumbnail").map fun e =>
          if e.1 = "vms" then (e.1, stripVms e.2) else e := rfl
    _ = (dropThumbnails d).map id := by rw [herased, List.map_congr_left hsame]
    _ = dropThumbnails d := List.map_id _

/-- The list of an object without its images. -/
lemma get_dropThumbnails_vms (d : Dict) :
    (dropThumbnails d).get "vms" = stripVms (d.get "vms") := by
  unfold dropThumbnails
  induction d with
  | nil => rfl
  | cons e d ih =>
    obtain ⟨k, v⟩ := e
    unfold Dict.erase at ih ⊢
    rw [List.filter_cons, Dict.get_cons]
    by_cases ht : k = "thumbnail"
    · subst ht
      simpa using ih
    · by_cases hk : k = "vms"
      · subst hk
        simp
      · simpa [ht, hk] using ih

/-- Whether the list can be iterated does not depend on the images. -/
lemma hasIterableVms_dropThumbnails (d : Dict) :
    hasIterableVms (dropThumbnails d) = hasIterableVms d := by
  unfold hasIterableVms
  rw [get_dropThumbnails_vms]
  generalize d.get "vms" = v
  cases v with
  | arr l => cases l <;> rfl
  | null | bool | int | float | str | obj => rfl

/-- Images are taken out of a response once. -/
lemma stripped_stripped (resp : AgentResponse) : resp.stripped.stripped = resp.stripped := by
  have hstatus : (resp.vmStatus.map dropThumbnails).map dropThumbnails =
      resp.vmStatus.map dropThumbnails := by
    rw [Option.map_map]
    exact congrArg (resp.vmStatus.map ·) (funext dropThumbnails_dropThumbnails)
  unfold AgentResponse.stripped
  rcases resp.result with _ | t | d
  · simp only [hstatus]
  · simp only [hstatus]
  · simp only [hstatus, dropThumbnails_dropThumbnails]

/-- Whether they can be taken out does not depend on them. -/
lemma strippable_stripped (resp : AgentResponse) : resp.stripped.strippable = resp.strippable := by
  unfold AgentResponse.strippable AgentResponse.stripped
  rcases resp.vmStatus with _ | v
  · rcases resp.result with _ | t | d
    · rfl
    · rfl
    · simp [ResponseResult.asDict?, hasIterableVms_dropThumbnails]
  · rcases resp.result with _ | t | d
    · simp [ResponseResult.asDict?, hasIterableVms_dropThumbnails]
    · simp [ResponseResult.asDict?, hasIterableVms_dropThumbnails]
    · simp [ResponseResult.asDict?, hasIterableVms_dropThumbnails]

/-- A response is handled as what is left of it without its thumbnails. -/
lemma applyResponse_stripped :
    applyResponse env hostId resp.stripped = applyResponse env hostId resp := by
  have hlifecycle : applyLifecycle env resp.stripped = applyLifecycle env resp := by
    unfold applyLifecycle
    rw [stripResponseThumbnails_eq, stripResponseThumbnails_eq, strippable_stripped,
      stripped_stripped]
  unfold applyResponse
  rw [hlifecycle, stripped_id]

/-! ## Envelopes -/

/-- The field `result: dict[str, Any] | str | None`. -/
inductive WireResult where
  | none
  | text (s : PyStr)
  | object (d : WireDict)

/-- `AgentResponse`, validated. -/
structure WireResponse where
  id : PyStr
  function : PyStr
  status : PyStr
  progress : Option ℤ := none
  progressMessage : Option PyStr := none
  result : WireResult := .none
  error : Option PyStr := none
  vmId : Option PyStr := none
  vmState : Option PyStr := none
  vmStatus : Option WireDict := none
  template : Option WireDict := none
  finishedAt : Option PyStr := none

/-- The field, when all its strings are texts. -/
def WireResult.read? : WireResult → Option ResponseResult
  | .none => some .none
  | .text s => s.text?.map .text
  | .object d => (Wire.jsonDict? d).map .object

/-- `resp.vm_status` without thumbnails. -/
def stripWireStatus : Option WireDict → Except Raised (Option WireDict)
  | some d => do
    let d ← d.stripThumbnails
    pure (some d)
  | none => pure none

/-- `resp.result` without thumbnails. -/
def WireResult.strip : WireResult → Except Raised WireResult
  | .object d => do
    let d ← d.stripThumbnails
    pure (.object d)
  | r => pure r

namespace WireResponse

variable (wire : WireResponse)

/-- `_strip_response_thumbnails`. -/
def stripThumbnails : Except Raised WireResponse := do
  let vmStatus ← stripWireStatus wire.vmStatus
  let result ← wire.result.strip
  pure { wire with vmStatus := vmStatus, result := result }

/-- The envelope, when all its strings are texts. -/
def envelope? : Option AgentResponse := do
  let id ← wire.id.text?
  let function ← wire.function.text?
  let status ← wire.status.text?
  let progressMessage ← readOptional PyStr.text? wire.progressMessage
  let result ← wire.result.read?
  let error ← readOptional PyStr.text? wire.error
  let vmId ← readOptional PyStr.text? wire.vmId
  let vmState ← readOptional PyStr.text? wire.vmState
  let vmStatus ← readOptional Wire.jsonDict? wire.vmStatus
  let template ← readOptional Wire.jsonDict? wire.template
  let finishedAt ← readOptional PyStr.text? wire.finishedAt
  pure { id, function, status, progress := wire.progress, progressMessage, result, error, vmId,
         vmState, vmStatus, template, finishedAt }

/-- What is left of the response without its thumbnails, when all strings of that are texts. -/
def readable? : Option AgentResponse :=
  match wire.stripThumbnails with
  | .ok stripped => stripped.envelope?
  | .error _ => none

/-- `"succeeded" if resp.status == "succeeded" else "failed"`. -/
def givenStatus : TaskStatus :=
  if wire.status.isText "succeeded" then .succeeded else .failed

end WireResponse

/-! ## The handler -/

/-- `apply_response` of what is received. An identifier that is no text fails as a parameter of the
query for the task. Once the thumbnails are stripped, the rest goes into the task record, whose write
fails behind the settled events if a string is no text; nothing has gone to the cache by then. -/
def receiveResponse (env : Env) (hostId : String) (wire : WireResponse) : M Unit := do
  let w ← Prog.read
  match wire.id.text? with
  | none => Prog.raise .dataError
  | some id =>
    match w.db.taskOfHost hostId id with
    | none => pure ()
    | some _ => do
      let wire ← Prog.ofExcept wire.stripThumbnails
      match wire.envelope? with
      | some resp => applyResponse env hostId resp
      | none => Prog.raise .dataError

/-- The state behind a response that is received. -/
def arrived (env : Env) (s : Committed) (hostId : String) (wire : WireResponse) : Committed where
  world := (sessionScope (receiveResponse env hostId wire) (atStart s.world)).2
  consistent := savepoint_consistent s.consistent

/-- Committed states of one world are one. -/
lemma Committed.ext_world {s t : Committed} (h : s.world = t.world) : s = t := by
  cases s
  cases t
  cases h
  rfl

section Receive

variable {wire stripped : WireResponse} {s : Committed}

/-- Taking the images out leaves the identifier and the status. -/
lemma stripThumbnails_texts (h : wire.stripThumbnails = .ok stripped) :
    stripped.id = wire.id ∧ stripped.status = wire.status := by
  unfold WireResponse.stripThumbnails at h
  obtain ⟨_, -, h⟩ := except_bind_eq_ok.mp h
  obtain ⟨_, -, h⟩ := except_bind_eq_ok.mp h
  cases h
  exact ⟨rfl, rfl⟩

/-- The texts of an envelope that is read. -/
lemma envelope_texts (h : wire.envelope? = some resp) :
    wire.id = .text resp.id ∧ wire.status = .text resp.status := by
  unfold WireResponse.envelope? at h
  simp only [Option.bind_eq_bind, Option.bind_eq_some_iff, Option.pure_def, Option.some.injEq] at h
  obtain ⟨i, hid, f, -, t, hstatus, _, -, _, -, _, -, _, -, _, -, _, -, _, -, _, -, rfl⟩ := h
  exact ⟨PyStr.text?_eq_some.mp hid, PyStr.text?_eq_some.mp hstatus⟩

/-- A readable response keeps its identifier and its status. -/
lemma readable_texts (h : wire.readable? = some resp) :
    wire.id = .text resp.id ∧ wire.status = .text resp.status := by
  unfold WireResponse.readable? at h
  rcases hstrip : wire.stripThumbnails with e | stripped
  · rw [hstrip] at h
    cases h
  · rw [hstrip] at h
    obtain ⟨hid, hstatus⟩ := envelope_texts h
    obtain ⟨hsameId, hsameStatus⟩ := stripThumbnails_texts hstrip
    exact ⟨hsameId ▸ hid, hsameStatus ▸ hstatus⟩

/-- A readable response is handled as its envelope. -/
theorem receiveResponse_readable (h : wire.readable? = some resp) :
    receiveResponse env hostId wire = applyResponse env hostId resp := by
  funext w
  obtain ⟨hid, -⟩ := readable_texts h
  unfold WireResponse.readable? at h
  unfold receiveResponse
  rw [Prog.read_bind_run, hid]
  dsimp only [PyStr.text?]
  rcases htask : w.db.taskOfHost hostId resp.id with _ | task
  · exact (applyResponse_unknown htask).symm
  · rcases hstrip : wire.stripThumbnails with e | stripped
    · rw [hstrip] at h
      cases h
    · rw [hstrip] at h
      dsimp only at h ⊢
      rw [Prog.ofExcept_ok, Prog.pure_bind_run, h]

/-- A response that is not readable leaves the state as it was. -/
theorem receiveResponse_unreadable (h : wire.readable? = none) :
    (receiveResponse env hostId wire w).2 = w := by
  unfold WireResponse.readable? at h
  unfold receiveResponse
  rw [Prog.read_bind_run]
  rcases wire.id.text? with _ | i
  · rfl
  · dsimp only
    rcases w.db.taskOfHost hostId i with _ | task
    · rfl
    · rcases hstrip : wire.stripThumbnails with e | stripped
      · rfl
      · rw [hstrip] at h
        dsimp only at h ⊢
        rw [Prog.ofExcept_ok, Prog.pure_bind_run, h]
        rfl

/-- A session of a handler that leaves the state as it was. -/
lemma sessionScope_same {m : M Unit} (h : (m w).2 = w) :
    (sessionScope m w).2 = w := by
  rcases savepoint_cases m w with ⟨a, t, hm, -, hrun⟩ | ⟨e, hrun⟩
  · rw [sessionScope, hrun]
    rwa [hm] at h
  · rw [sessionScope, hrun, h]
    rfl

/-- A response that cannot be read changes nothing. -/
lemma receive_unreadable (h : wire.readable? = none) :
    (arrived env s hostId wire).world = atStart s.world :=
  sessionScope_same (receiveResponse_unreadable h)

/-- An envelope that cannot be stripped leaves the state as it was. -/
lemma step_not_strippable (h : ¬ resp.strippable = true) :
    (System.step env s (.response hostId resp)).world = atStart s.world := by
  rw [step_response]
  refine sessionScope_same ?_
  rcases htask : (atStart s.world).db.taskOfHost hostId resp.id with _ | task
  · rw [applyResponse_unknown htask]
  · rw [applyResponse_not_strippable htask h]

/-- **What is received is a step of the system**, whatever its strings are. -/
theorem arrived_eq_step (env : Env) (hostId : String) (wire : WireResponse) :
    ∃ resp, ∀ s, arrived env s hostId wire = System.step env s (.response hostId resp) := by
  rcases hread : wire.readable? with _ | resp
  · refine ⟨{ id := "", function := "", status := "", vmStatus := some [("vms", .int 1)] },
      fun s => Committed.ext_world ?_⟩
    rw [receive_unreadable hread, step_not_strippable (by decide)]
  · refine ⟨resp, fun s => Committed.ext_world ?_⟩
    show (sessionScope (receiveResponse env hostId wire) (atStart s.world)).2 = _
    rw [receiveResponse_readable hread, step_response]

/-! ## Responses whose strings are texts -/

/-- Taking the images out of the status of a VM, on the wire and as it is read. -/
lemma stripWireStatus_json {o : Option WireDict} {o' : Option Dict}
    (h : readOptional Wire.jsonDict? o = some o') :
    (o'.all hasIterableVms = false ∧ stripWireStatus o = .error .typeError) ∨
      (o'.all hasIterableVms = true ∧ ∃ stripped, stripWireStatus o = .ok stripped ∧
        readOptional Wire.jsonDict? stripped = some (o'.map dropThumbnails)) := by
  cases o with
  | none =>
    cases h
    exact Or.inr ⟨rfl, none, rfl, rfl⟩
  | some d =>
    obtain ⟨d', hd, rfl⟩ := Option.map_eq_some_iff.mp h
    rcases WireDict.stripThumbnails_json hd with ⟨hnot, hstrip⟩ | ⟨hvms, stripped, hstrip, hread⟩
    · refine Or.inl ⟨hnot, ?_⟩
      show (d.stripThumbnails >>= fun d => pure (some d)) = _
      rw [hstrip]
      rfl
    · refine Or.inr ⟨hvms, some stripped, ?_, Option.map_eq_some_iff.mpr ⟨_, hread, rfl⟩⟩
      show (d.stripThumbnails >>= fun d => pure (some d)) = _
      rw [hstrip]
      rfl

/-- `result` without thumbnails. -/
def ResponseResult.dropThumbnails : ResponseResult → ResponseResult
  | .object d => .object (OpenVCenter.dropThumbnails d)
  | r => r

/-- Taking the images out of a result, on the wire and as it is read. -/
lemma stripResult_json {r : WireResult} {r' : ResponseResult} (h : r.read? = some r') :
    (r'.asDict?.all hasIterableVms = false ∧ r.strip = .error .typeError) ∨
      (r'.asDict?.all hasIterableVms = true ∧ ∃ stripped, r.strip = .ok stripped ∧
        stripped.read? = some r'.dropThumbnails) := by
  cases r with
  | none =>
    cases h
    exact Or.inr ⟨rfl, .none, rfl, rfl⟩
  | text s =>
    obtain ⟨t, -, rfl⟩ := Option.map_eq_some_iff.mp h
    exact Or.inr ⟨rfl, .text s, rfl, h⟩
  | object d =>
    obtain ⟨d', hd, rfl⟩ := Option.map_eq_some_iff.mp h
    rcases WireDict.stripThumbnails_json hd with ⟨hnot, hstrip⟩ | ⟨hvms, stripped, hstrip, hread⟩
    · refine Or.inl ⟨hnot, ?_⟩
      show (d.stripThumbnails >>= fun d => pure (WireResult.object d)) = _
      rw [hstrip]
      rfl
    · refine Or.inr ⟨hvms, .object stripped, ?_, Option.map_eq_some_iff.mpr ⟨_, hread, rfl⟩⟩
      show (d.stripThumbnails >>= fun d => pure (WireResult.object d)) = _
      rw [hstrip]
      rfl

/-- Stripping and reading a response whose strings are texts commute. -/
lemma strip_envelope (h : wire.envelope? = some resp) :
    (¬ resp.strippable = true ∧ wire.stripThumbnails = .error .typeError) ∨
      ∃ stripped, wire.stripThumbnails = .ok stripped ∧ stripped.envelope? = some resp.stripped := by
  unfold WireResponse.envelope? at h
  simp only [Option.bind_eq_bind, Option.bind_eq_some_iff, Option.pure_def, Option.some.injEq] at h
  obtain ⟨i, hid, f, hfunction, st, hstatus, m, hmessage, r, hresult, e, herror, vi, hvmId, vs,
    hvmState, v, hvmStatus, t, htemplate, fin, hfinished, rfl⟩ := h
  unfold AgentResponse.strippable WireResponse.stripThumbnails
  rcases stripWireStatus_json hvmStatus with ⟨hnot, hstrip⟩ | ⟨hvms, status', hstrip, hread⟩
  · refine Or.inl ⟨by simp [hnot], ?_⟩
    rw [hstrip]
    rfl
  · rcases stripResult_json hresult with ⟨hnot, hstrip'⟩ | ⟨hvms', result', hstrip', hread'⟩
    · refine Or.inl ⟨by simp [hnot], ?_⟩
      rw [hstrip, hstrip']
      rfl
    · refine Or.inr ⟨{ wire with vmStatus := status', result := result' }, ?_, ?_⟩
      · rw [hstrip, hstrip']
        rfl
      · simp only [WireResponse.envelope?, hid, hfunction, hstatus, hmessage, herror, hvmId,
          hvmState, htemplate, hfinished, hread, hread', Option.bind_eq_bind, Option.bind_some,
          Option.pure_def]
        cases r <;> rfl

/-- **Where all strings are texts**, what is received is the step of the envelope. -/
theorem arrived_of_texts (h : wire.envelope? = some resp) :
    arrived env s hostId wire = System.step env s (.response hostId resp) := by
  refine Committed.ext_world ?_
  rcases strip_envelope h with ⟨hnot, hstrip⟩ | ⟨stripped, hstrip, hread⟩
  · have hunread : wire.readable? = none := by
      unfold WireResponse.readable?
      rw [hstrip]
    rw [receive_unreadable hunread, step_not_strippable hnot]
  · have hreadable : wire.readable? = some resp.stripped := by
      unfold WireResponse.readable?
      rw [hstrip]
      exact hread
    show (sessionScope (receiveResponse env hostId wire) (atStart s.world)).2 = _
    rw [receiveResponse_readable hreadable, applyResponse_stripped, step_response]

/-! ## The end of the task -/

/-- The status that a readable response gives. -/
lemma givenStatus_readable (h : wire.readable? = some resp) :
    wire.givenStatus = terminalStatus resp := by
  unfold WireResponse.givenStatus terminalStatus
  rw [(readable_texts h).2]
  simp

/-- The status that is given is a terminal one. -/
lemma givenStatus_isTerminal : wire.givenStatus.isTerminal = true := by
  unfold WireResponse.givenStatus
  split_ifs <;> rfl

/-- A terminal response leaves its active task committed in its terminal status, its audit events
settled, exactly when it is readable without its thumbnails, its lifecycle change lands and the
version it stamps, if any, fits. -/
theorem response_settles_iff (s : Committed) (hid : wire.id = .text id)
    (h : s.world.db.taskOfHost hostId id = some task) (hactive : task.status.isTerminal = false)
    (hterminal : wire.status ≠ .text "running") :
    Settled wire.givenStatus task s.world.db (arrived env s hostId wire).world.db ↔
      ∃ resp, wire.readable? = some resp ∧ Lands env s.world.now resp ∧
        StampFits env s.world.db hostId resp task := by
  rcases hread : wire.readable? with _ | resp
  · refine iff_of_false ?_ fun ⟨_, hnone, _⟩ => nomatch hnone
    refine not_settled_of_same (task_of_taskOfHost h) hactive givenStatus_isTerminal ?_
    rw [receive_unreadable hread]
    rfl
  · obtain ⟨hsameId, hsameStatus⟩ := readable_texts hread
    obtain rfl : resp.id = id := PyStr.text.inj (hsameId.symm.trans hid)
    have hstep : (arrived env s hostId wire).world =
        (System.step env s (.response hostId resp)).world := by
      show (sessionScope (receiveResponse env hostId wire) (atStart s.world)).2 = _
      rw [receiveResponse_readable hread, step_response]
    have hrunning : resp.status ≠ "running" := fun heq => hterminal (by rw [hsameStatus, heq])
    rw [hstep, givenStatus_readable hread, envelope_settles_iff s h hactive hrunning]
    simp

end Receive

/-- A string that is the first half of a pair of surrogates. -/
def Demo.half : Garbled where
  points := [0xd800]
  codePoints := ⟨by decide, .singleton _⟩
  surrogate := ⟨0xd800, List.mem_singleton_self _, Or.inl ⟨le_rfl, by decide⟩⟩

/-- The end of a start, with a thumbnail that is no text. -/
def Demo.startedWire : WireResponse where
  id := .text "x"
  function := .text "vm_start"
  status := .text "succeeded"
  vmStatus := some [(.text "thumbnail", .str (.garbled Demo.half))]

/-- The plain end of a start settles it, whatever its thumbnail is. -/
theorem response_settles_started :
    ∃ task, Settled .succeeded task Demo.startQueued.world.db
      (arrived Demo.settings Demo.startQueued "h" Demo.startedWire).world.db := by
  obtain ⟨task, htask⟩ : ∃ task, Demo.startQueued.world.db.taskOfHost "h" "x" = some task :=
    Option.isSome_iff_exists.mp (by decide +kernel)
  have hqueued : ∀ t ∈ Demo.startQueued.world.db.taskOfHost "h" "x",
      t.status.isTerminal = false ∧ t.kind = .vm_start := by decide +kernel
  obtain ⟨hactive, hkind⟩ := hqueued task htask
  have hlands : Lands Demo.settings Demo.startQueued.world.now
      { Demo.started with vmStatus := some [] } := by decide +kernel
  have hfits : StampFits Demo.settings Demo.startQueued.world.db "h"
      { Demo.started with vmStatus := some [] } task :=
    fun hupgrade => by rw [hkind] at hupgrade; cases hupgrade
  have hrunning : Demo.startedWire.status ≠ .text "running" :=
    fun heq => absurd (PyStr.text.inj heq) (by decide)
  exact ⟨task, (response_settles_iff Demo.startQueued rfl htask hactive hrunning).mpr
    ⟨_, rfl, hlands, hfits⟩⟩

/-- The end of a start to which the agent attached an object whose `vms` is a number. -/
def Demo.malformed : WireResponse :=
  { Demo.startedWire with vmStatus := some [(.text "vms", .int 5)] }

/-- Not every terminal response settles its active task: the malformed one raises while its
thumbnails are stripped, and the task stays queued. -/
theorem response_settles_counterexample :
    ¬ ∀ (env : Env) (s : Committed) (hostId id : String) (wire : WireResponse) (task : Task),
      System.Reachable env s → wire.id = .text id →
      s.world.db.taskOfHost hostId id = some task → task.status.isTerminal = false →
      wire.status ≠ .text "running" →
      Settled wire.givenStatus task s.world.db (arrived env s hostId wire).world.db := by
  intro h
  obtain ⟨task, htask⟩ : ∃ task, Demo.startQueued.world.db.taskOfHost "h" "x" = some task :=
    Option.isSome_iff_exists.mp (by decide +kernel)
  have hactive : ∀ t ∈ Demo.startQueued.world.db.taskOfHost "h" "x",
      t.status.isTerminal = false := by decide +kernel
  have hrunning : Demo.malformed.status ≠ .text "running" :=
    fun heq => absurd (PyStr.text.inj heq) (by decide)
  have hsettled := h Demo.settings Demo.startQueued "h" "x" Demo.malformed task
    Demo.startQueued_reachable rfl htask (hactive task htask) hrunning
  have hunread : Demo.malformed.readable? = none := rfl
  exact not_settled_of_same (task_of_taskOfHost htask) (hactive task htask) givenStatus_isTerminal
    (by rw [receive_unreadable hunread]; rfl) hsettled

end OpenVCenter
