import Mathlib.Data.List.Perm.Basic
import OpenVCenter.AgentStore
import OpenVCenter.Foundations.Blobs
import OpenVCenter.InstallScript
import OpenVCenter.Organization
import OpenVCenter.TagAudit
import OpenVCenter.Teardown
import OpenVCenter.UrlTokens

set_option relaxedAutoImplicit false
set_option autoImplicit false

/-!
# The agent binaries

`api/routes/agent_binaries.py`: uploaded builds of the agent. A row of `agent_binaries` is the
catalogue entry, and the bytes are in the store. At most one build of a hypervisor is active, which a
partial unique index enforces.

## Main definitions

* `OpenVCenter.AgentBuild`, `OpenVCenter.Depot` — a row with all its columns; the rows, the bytes and
  the rest of the database.
* `OpenVCenter.Catalogued` — the constraints of the table.
* `OpenVCenter.setActive` — `_set_active`, one row after the other.
* `OpenVCenter.receive` — the loop that reads an upload.
* `OpenVCenter.uploadBuild`, `OpenVCenter.updateBuild`, `OpenVCenter.deleteBuild`,
  `OpenVCenter.downloadBuild`, `OpenVCenter.resolveUpgradeBinary` — the routes.
* `OpenVCenter.DepotRequest`, `OpenVCenter.Depot.step` — the requests, among the events of the rest
  of the system.

## Main results

* `OpenVCenter.setActive_run` — the index holds after each row that an activation writes, in any order.
* `OpenVCenter.receive_chunks` — what the loop makes of a file.

## Design

A flush writes its rows one by one, in an order of its own, and the database checks the constraints
with each. What the statements on the database raise is given by the faults, before and after the
call to the store. A request is one transaction; two of them do not overlap.
-/

namespace OpenVCenter

open Effect

/-! ## Rows -/

/-- `models/agent_binary.py`. -/
structure AgentBuild extends AgentBinary where
  filename : String
  sizeBytes : ℕ
  checksumSha256 : String
  contentType : String
  storageBackend : String
  notes : Option String
  uploadedBy : String

namespace AgentBuild

open Column in
/-- The values fit the columns of `agent_binaries`. -/
def bindable (b : AgentBuild) : Bool :=
  fits 64 b.version && fits 32 b.hypervisor && fits 255 b.filename && fitsInt 8 b.sizeBytes &&
  fits 64 b.checksumSha256 && fits 128 b.contentType && fits 16 b.storageBackend &&
  fits 512 b.storageKey && b.notes.all isText && fits 255 b.uploadedBy

/-- The build is no longer the active one. -/
def demoted (b : AgentBuild) : AgentBuild := { b with isActive := false }

/-- The build is the active one. -/
def promoted (b : AgentBuild) : AgentBuild := { b with isActive := true }

end AgentBuild

/-- The primary key, `uq_agent_binaries_version_hypervisor` and
`uq_agent_binaries_active_per_hypervisor`. -/
structure Catalogued (builds : List AgentBuild) : Prop where
  ids : (builds.map (·.id)).Nodup
  versions : Table.Unique (·.id) (fun b => (b.version, b.hypervisor)) builds
  active : Table.Unique (·.id) (·.hypervisor) (builds.filter (·.isActive))

/-- Whether builds are catalogued can be decided. -/
instance (builds : List AgentBuild) : Decidable (Catalogued builds) :=
  decidable_of_iff ((builds.map (·.id)).Nodup ∧
    Table.Unique (·.id) (fun b => (b.version, b.hypervisor)) builds ∧
    Table.Unique (·.id) (·.hypervisor) (builds.filter (·.isActive)))
    ⟨fun h => ⟨h.1, h.2.1, h.2.2⟩, fun h => ⟨h.ids, h.versions, h.active⟩⟩

/-- The values of the table fit their columns, and meet its constraints. -/
structure TableValid (builds : List AgentBuild) : Prop extends Catalogued builds where
  bindable : ∀ b ∈ builds, b.bindable = true

/-- The database with `agent_binaries`, and the bytes of the store by their keys. -/
structure Depot where
  world : World
  builds : List AgentBuild
  objects : String → Option (List UInt8)

namespace Depot

/-- `db.get(AgentBinary, id)`. -/
def build (d : Depot) (id : String) : Option AgentBuild := Table.lookup (·.id) id d.builds

/-- The rollback of a request: what is in the store stays. -/
def rollback (old new : Depot) : Depot :=
  { new with world := OpenVCenter.rollback old.world new.world, builds := old.builds }

end Depot

/-- What the routes take from their deployment: the name of the backend, `hexdigest` of the bytes
that were hashed, `str.lower`, and the order in which a flush writes its rows. -/
structure DepotSettings where
  backend : String
  sha256 : List UInt8 → String
  lower : String → String
  arrange : List AgentBuild → List AgentBuild
  arrange_perm : ∀ builds, (arrange builds).Perm builds

/-- What the statements on the database raise before the call to the store and after it, and what the
commit does. `storeText` is the message of an `AgentStoreError`. -/
structure UploadFaults where
  before : Option Failure
  after : Option Failure
  commit : Option Failure
  storeText : String

/-! ## Statements -/

/-- A handler on the rest of the database. -/
def onDepot {α : Type} (m : M α) : Prog Depot Failure α := fun d =>
  match m d.world with
  | (.ok a, w) => (.ok a, { d with world := w })
  | (.error e, w) => (.error (.raised e), { d with world := w })

/-- The constraints of the table, after a statement. -/
def checkBuilds : Prog Depot Failure Unit := do
  let d ← Prog.read
  if !d.builds.all AgentBuild.bindable then Prog.raise (.raised .dataError)
  else if Catalogued d.builds then pure () else Prog.raise (.raised .integrityError)

/-- The `INSERT` of a row. -/
def insertBuild (b : AgentBuild) : Prog Depot Failure Unit := do
  Prog.modify fun d => { d with builds := d.builds ++ [b] }
  checkBuilds

/-- The `UPDATE` of a row. -/
def writeBuild (b : AgentBuild) : Prog Depot Failure Unit := do
  Prog.modify fun d => { d with builds := Table.store (·.id) b d.builds }
  checkBuilds

/-- A request: its statements, and the commit of `get_session`. -/
def depotRequest {α : Type} (commit : Option Failure) (m : Prog Depot Failure α) :
    Prog Depot Failure α :=
  Prog.transact Depot.rollback
    (do
      onDepot flush
      checkBuilds
      Prog.ofExcept (Prog.outcome commit)) m

/-- `_require_admin`. -/
def requireAdmin (isAdmin : Bool) : Prog Depot Failure Unit :=
  if isAdmin then pure ()
  else Prog.raise (.raised (forbiddenTo "Only an administrator can manage agent binaries"))

section Routes

variable (env : Env) (cfg : DepotSettings)

/-- A flush of changed rows. -/
def flushBuilds (pending : List AgentBuild) : Prog Depot Failure Unit :=
  (cfg.arrange pending).foldlM (fun _ b => writeBuild b) ()

/-- The other active builds of the hypervisor. -/
def currentBuilds (binary : AgentBuild) (builds : List AgentBuild) : List AgentBuild :=
  builds.filter fun b => decide (b.hypervisor = binary.hypervisor) && b.isActive &&
    decide (b.id ≠ binary.id)

/-- `_set_active`. The query flushes what is pending of the build. -/
def setActive (binary : AgentBuild) : Prog Depot Failure AgentBuild := do
  flushBuilds cfg [binary]
  let d ← Prog.read
  flushBuilds cfg ((currentBuilds binary d.builds).map AgentBuild.demoted)
  pure binary.promoted

/-! ## Uploads -/

/-- `_MAX_UPLOAD_BYTES`. -/
def maxUploadBytes : ℕ := 128 * 1024 * 1024

/-- `_CHUNK`. -/
def uploadChunk : ℕ := 1 <<< 20

/-- `b"MZ"`. -/
def mz : List UInt8 := [0x4d, 0x5a]

/-- What has been read of an upload: its size, what was hashed and what was written. -/
structure Received where
  size : ℕ := 0
  hashed : List UInt8 := []
  written : List UInt8 := []

/-- The upload is over the limit. -/
def uploadTooLarge : Raised := .apiError {
  code := "TOO_LARGE"
  message := "Agent binary exceeds the " ++ toString (maxUploadBytes / (1024 * 1024)) ++ " MiB limit"
  statusCode := 413 }

/-- One chunk of an upload. -/
def takeChunk (u : Received) (chunk : List UInt8) : Except Raised Received :=
  if u.size = 0 ∧ ¬ mz <+: chunk then .error (invalid "uploaded file is not a Windows executable")
  else if maxUploadBytes < u.size + chunk.length then .error uploadTooLarge
  else .ok {
    size := u.size + chunk.length
    hashed := u.hashed ++ chunk
    written := u.written ++ chunk }

/-- The loop over the chunks of an upload, and the check behind it. -/
def receive (chunks : List (List UInt8)) : Except Raised Received := do
  let u ← chunks.foldlM takeChunk {}
  if u.size = 0 then .error (invalid "uploaded file is empty") else .ok u

/-- `file.read(n)` until it is empty. -/
def readChunks (n : ℕ) (content : List UInt8) : List (List UInt8) :=
  if _h : n = 0 ∨ content = [] then []
  else content.take n :: readChunks n (content.drop n)
  termination_by content.length
  decreasing_by
    simp only [not_or] at _h
    have := List.length_pos_of_ne_nil _h.2
    rw [List.length_drop]
    omega

/-- `Path(path).name`. -/
def pathName (path : String) : String :=
  String.ofList (((path.toList.splitOn '/').filter fun n =>
    decide (n ≠ [] ∧ n ≠ ['.'])).getLast?.getD [])

/-- `object_key`. -/
def objectKey (binaryId filename : String) : String := binaryId ++ "/" ++ filename

/-- The form of an upload. -/
structure UploadForm where
  filename : Option String
  contentType : Option String
  content : List UInt8
  version : String
  hypervisor : String
  notes : Option String
  makeActive : Bool

/-- `AgentStoreError` becomes a 502. -/
def storageError (text : String) : Failure → Failure
  | .agentStoreError =>
    .raised (.apiError { code := "STORAGE_ERROR", message := text, statusCode := 502 })
  | e => e

/-- The check of the file's extension. -/
def requireExe (filename : Option String) : Except Raised Unit :=
  if ".exe".toList <:+ (cfg.lower (filename.getD "")).toList then .ok ()
  else .error (invalid "agent binary must be an .exe file")

/-- The query for a build of the same version. -/
def requireNewVersion (version hypervisor : String) (builds : List AgentBuild) :
    Except Raised Unit :=
  match builds.filter fun b => decide (b.version = version ∧ b.hypervisor = hypervisor) with
  | [] => .ok ()
  | [_] => .error (.apiError {
      code := "DUPLICATE"
      message := "Agent binary " ++ version ++ " (" ++ hypervisor ++ ") already exists"
      statusCode := 409 })
  | _ => .error .multipleResultsFound

/-- The row of an upload, with its key. -/
def uploadedBuild (user : User) (form : UploadForm) (version id : String) (received : Received) :
    AgentBuild :=
  let filename := pathName ((nonEmpty form.filename).getD "ovc-agent.exe")
  { id := id, version := version, hypervisor := form.hypervisor
    storageKey := objectKey id filename, isActive := false
    filename := filename
    sizeBytes := received.size
    checksumSha256 := cfg.sha256 received.hashed
    contentType := (nonEmpty form.contentType).getD "application/octet-stream"
    storageBackend := cfg.backend
    notes := nonEmpty form.notes
    uploadedBy := user.email }

/-- `upload_agent_binary` up to the call to the store: the row, with the key it is to have, and the
bytes. -/
def stageUpload (faults : UploadFaults) (isAdmin : Bool) (user : User) (form : UploadForm) :
    Prog Depot Failure (AgentBuild × List UInt8) := do
  requireAdmin isAdmin
  let version ← onDepot (Prog.ofExcept (uploadedVersion env.py form.version))
  onDepot (Prog.ofExcept (requireExe cfg form.filename))
  Prog.ofExcept (Prog.outcome faults.before)
  let d ← Prog.read
  onDepot (Prog.ofExcept (requireNewVersion version form.hypervisor d.builds))
  let received ← onDepot (Prog.ofExcept (receive (readChunks uploadChunk form.content)))
  let id ← onDepot (newId env)
  let binary := uploadedBuild cfg user form version id received
  insertBuild { binary with storageKey := "" }
  pure (binary, received.written)

/-- `put_file`. -/
def putObject (key : String) (bytes : List UInt8) (d : Depot) : Depot :=
  { d with objects := Function.update d.objects key (some bytes) }

/-- The call to the store. -/
def putFile (faults : UploadFaults) (put : Answer Failure) (key : String) (bytes : List UInt8) :
    Prog Depot Failure Unit := fun d =>
  (Prog.outcome (put.raised.map (storageError faults.storeText)),
    if put.applied then putObject key bytes d else d)

/-- `if make_active: await _set_active(db, binary)`. -/
def setActiveIf (makeActive : Bool) (binary : AgentBuild) : Prog Depot Failure AgentBuild :=
  if makeActive then setActive cfg binary else pure binary

/-- `upload_agent_binary` behind the call to the store. -/
def recordUpload (faults : UploadFaults) (user : User) (makeActive : Bool) (binary : AgentBuild) :
    Prog Depot Failure AgentBuild := do
  Prog.ofExcept (Prog.outcome faults.after)
  let binary ← setActiveIf cfg makeActive binary
  flushBuilds cfg [binary]
  onDepot (record env (some user) "agent_binary.upload" binary.ref none
    (.obj [("hypervisor", .str binary.hypervisor), ("sizeBytes", .int binary.sizeBytes),
      ("sha256", .str binary.checksumSha256), ("makeActive", .bool makeActive)]))
  pure binary

/-- `upload_agent_binary` from the call to the store on. -/
def finishUpload (faults : UploadFaults) (put : Answer Failure) (user : User) (makeActive : Bool)
    (binary : AgentBuild) (bytes : List UInt8) : Prog Depot Failure AgentBuild := do
  putFile faults put binary.storageKey bytes
  recordUpload env cfg faults user makeActive binary

/-- `POST /agent-binaries`. -/
def uploadBuild (faults : UploadFaults) (put : Answer Failure) (isAdmin : Bool) (user : User)
    (form : UploadForm) : Prog Depot Failure AgentBuild :=
  depotRequest faults.commit do
    let (binary, bytes) ← stageUpload env cfg faults isAdmin user form
    finishUpload env cfg faults put user form.makeActive binary bytes

/-! ## Changes and deletes -/

/-- The body of a `PATCH`: the fields that are set. -/
structure BuildPatch where
  notes : Option (Option String)
  isActive : Option (Option Bool)

/-- The values that an update is compared by. -/
def AgentBuild.audited (b : AgentBuild) : List (String × (Option String ⊕ Bool)) :=
  [("notes", .inl b.notes), ("isActive", .inr b.isActive)]

/-- A value of the audit diff. -/
def auditedJson : Option String ⊕ Bool → Json
  | .inl notes => .ofOption notes
  | .inr isActive => .bool isActive

/-- `db.get(AgentBinary, binary_id)`, and 404. -/
def getBuild (binaryId : String) : Prog Depot Failure AgentBuild := do
  let d ← Prog.read
  onDepot (M.ofOption (notFound "Agent binary") (d.build binaryId))

/-- The build with its new notes. -/
def BuildPatch.noted (body : BuildPatch) (binary : AgentBuild) : AgentBuild :=
  match body.notes with
  | some notes => { binary with notes := nonEmpty notes }
  | none => binary

/-- What the body says of `is_active`. -/
def applyIsActive (isActive : Option (Option Bool)) (binary : AgentBuild) :
    Prog Depot Failure AgentBuild :=
  match isActive with
  | some (some true) => setActive cfg binary
  | some (some false) => pure binary.demoted
  | _ => pure binary

/-- The audit event of an update that has changed something. -/
def recordUpdate (user : User) (before binary : AgentBuild) : Prog Depot Failure Unit :=
  match changes auditedJson before.audited binary.audited with
  | some diff => onDepot (record env (some user) "agent_binary.update" binary.ref none diff)
  | none => pure ()

/-- `update_agent_binary`, before its commit. -/
def updateBody (statement : Option Failure) (isAdmin : Bool) (user : User) (binaryId : String)
    (body : BuildPatch) : Prog Depot Failure AgentBuild := do
  requireAdmin isAdmin
  Prog.ofExcept (Prog.outcome statement)
  let before ← getBuild binaryId
  let binary ← applyIsActive cfg body.isActive (body.noted before)
  flushBuilds cfg [binary]
  recordUpdate env user before binary
  pure binary

/-- `PATCH /agent-binaries/{binary_id}`. -/
def updateBuild (faults : Faults) (isAdmin : Bool) (user : User) (binaryId : String)
    (body : BuildPatch) : Prog Depot Failure AgentBuild :=
  depotRequest faults.commit (updateBody env cfg faults.statement isAdmin user binaryId body)

/-- `DELETE /agent-binaries/{binary_id}` up to the call to the store. -/
def stageDelete (faults : Faults) (isAdmin : Bool) (user : User) (binaryId : String) :
    Prog Depot Failure AgentBuild := do
  requireAdmin isAdmin
  Prog.ofExcept (Prog.outcome faults.statement)
  let binary ← getBuild binaryId
  if binary.isActive then
    Prog.raise (.raised (.apiError {
      code := "ACTIVE_BINARY"
      message := "Promote another build to active before deleting this one"
      statusCode := 409 }))
  else do
    onDepot (record env (some user) "agent_binary.delete" binary.ref none
      (.obj [("hypervisor", .str binary.hypervisor)]))
    pure binary

/-- `AgentBinaryStore.delete`. -/
def dropObject (key : String) (d : Depot) : Depot :=
  { d with objects := Function.update d.objects key none }

/-- `DELETE /agent-binaries/{binary_id}`. -/
def deleteBuild (faults : Faults) (answer : Answer Failure) (isAdmin : Bool) (user : User)
    (binaryId : String) : Prog Depot Failure Unit :=
  depotRequest faults.commit do
    let binary ← stageDelete env faults isAdmin user binaryId
    Prog.catching Failure.isAgentStoreError (Prog.call answer (dropObject binary.storageKey))
    Prog.modify fun d =>
      { d with builds := Table.deleteWhere (fun b => decide (b.id = binary.id)) d.builds }

/-! ## Reads -/

/-- What a download streams, with its headers. -/
structure BinaryDownload where
  body : List UInt8
  mediaType : String
  contentLength : ℕ
  filename : String

/-- `GET /agent-binaries/{binary_id}/download`, streamed to its end. -/
def downloadBuild (mac : Mac) (time : ℤ) (d : Depot) (binaryId : String)
    (exp token : Option String) : Except Failure BinaryDownload :=
  match d.build binaryId with
  | none => .error (.raised (notFound "Agent binary"))
  | some binary =>
    if cfg.backend ≠ "local" then .error (.raised (notFound "Agent binary"))
    else
      match verifyDownload env.py mac time binaryId exp token with
      | .error e => .error (.raised e)
      | .ok false => .error (.raised (.apiError {
          code := "FORBIDDEN", message := "Invalid or expired download token", statusCode := 403 }))
      | .ok true =>
        match d.objects binary.storageKey with
        | none => .error .agentStoreError
        | some bytes => .ok {
            body := bytes
            mediaType := (nonEmpty (some binary.contentType)).getD "application/octet-stream"
            contentLength := binary.sizeBytes
            filename := binary.filename }

/-- `active_agent_binary`. -/
def activeAgentBinary (builds : List AgentBuild) (hypervisor : String) :
    Except Raised (Option AgentBuild) :=
  match builds.filter fun b => decide (b.hypervisor = hypervisor) && b.isActive with
  | [] => .ok none
  | [b] => .ok (some b)
  | _ => .error .multipleResultsFound

/-- `resolve_upgrade_binary`. -/
def resolveUpgradeBinary (d : Depot) (hypervisor : String) (binaryId : Option String) :
    Except Raised AgentBuild := do
  let binary ← match binaryId with
    | some id =>
      match d.build id with
      | some binary => .ok binary
      | none => .error (.apiError {
          code := "NOT_FOUND", message := "Agent binary not found", statusCode := 404 })
    | none =>
      match activeAgentBinary d.builds hypervisor with
      | .error e => .error e
      | .ok (some binary) => .ok binary
      | .ok none => .error (.apiError {
          code := "NO_ACTIVE_AGENT_BINARY"
          message := "No active agent binary for hypervisor '" ++ hypervisor ++
            "' - upload one in Agent Management first"
          statusCode := 409 })
  if binary.hypervisor ≠ hypervisor then
    .error (invalid ("Agent binary is for '" ++ binary.hypervisor ++ "', host runs '" ++
      hypervisor ++ "'"))
  else .ok binary

/-! ## Runs -/

/-- What can happen: a request on the binaries, or anything else. -/
inductive DepotRequest where
  | upload (faults : UploadFaults) (put : Answer Failure) (isAdmin : Bool) (user : User)
      (form : UploadForm)
  | update (faults : Faults) (isAdmin : Bool) (user : User) (binaryId : String) (body : BuildPatch)
  | delete (faults : Faults) (answer : Answer Failure) (isAdmin : Bool) (user : User)
      (binaryId : String)
  | system (e : Event)

namespace Depot

/-- The depot after a request, whether it is answered or rolled back. -/
def step (d : Depot) : DepotRequest → Depot
  | .upload faults put isAdmin user form =>
    (uploadBuild env cfg faults put isAdmin user form d).2
  | .update faults isAdmin user binaryId body =>
    (updateBuild env cfg faults isAdmin user binaryId body d).2
  | .delete faults answer isAdmin user binaryId =>
    (deleteBuild env faults answer isAdmin user binaryId d).2
  | .system e => { d with world := d.world.step env e }

/-- The depot after some requests. -/
abbrev run (d : Depot) (rs : List DepotRequest) : Depot := Machine.run (step env cfg) d rs

/-- Nothing has been uploaded yet. -/
structure Initial (d : Depot) : Prop where
  builds : d.builds = []
  objects : d.objects = fun _ => none

end Depot

end Routes

/-! ## Reading -/

section Reading

variable {n : ℕ}

/-- Nothing is read of nothing. -/
lemma readChunks_nil : readChunks n [] = [] := by
  unfold readChunks
  simp

/-- Else a chunk is read, and then the rest. -/
lemma readChunks_of_ne {content : List UInt8} (hn : n ≠ 0) (h : content ≠ []) :
    readChunks n content = content.take n :: readChunks n (content.drop n) := by
  conv_lhs => unfold readChunks
  simp [hn, h]

/-- The chunks of a file are the file. -/
lemma flatten_readChunks (hn : n ≠ 0) (content : List UInt8) :
    (readChunks n content).flatten = content := by
  induction hlength : content.length using Nat.strong_induction_on generalizing content with
  | _ k ih =>
    by_cases h : content = []
    · rw [h, readChunks_nil]
      rfl
    · have hpos := List.length_pos_of_ne_nil h
      have hshorter : (content.drop n).length < k := by
        rw [List.length_drop]
        omega
      rw [readChunks_of_ne hn h, List.flatten_cons, ih _ hshorter (content.drop n) rfl,
        List.take_append_drop]

/-- A chunk is taken unless the upload is too large. -/
lemma takeChunk_run {u : Received} {chunk : List UInt8} (h : u.size = 0 → mz <+: chunk) :
    takeChunk u chunk =
      if maxUploadBytes < u.size + chunk.length then .error uploadTooLarge
      else .ok {
        size := u.size + chunk.length
        hashed := u.hashed ++ chunk
        written := u.written ++ chunk } := by
  unfold takeChunk
  rw [if_neg fun hbad => hbad.2 (h hbad.1)]

/-- The loop behind the first chunk. -/
lemma takeChunks (chunks : List (List UInt8)) {u : Received} (hu : u.size ≠ 0)
    (hfits : u.size ≤ maxUploadBytes) : chunks.foldlM takeChunk u =
      if maxUploadBytes < u.size + chunks.flatten.length then .error uploadTooLarge
      else .ok {
        size := u.size + chunks.flatten.length
        hashed := u.hashed ++ chunks.flatten
        written := u.written ++ chunks.flatten } := by
  induction chunks generalizing u with
  | nil =>
    rw [if_neg (by simpa using hfits)]
    simp [pure, Except.pure]
  | cons chunk chunks ih =>
    rw [List.foldlM_cons, List.flatten_cons, List.length_append,
      takeChunk_run fun hzero => absurd hzero hu]
    by_cases hlarge : maxUploadBytes < u.size + chunk.length
    · rw [if_pos hlarge, if_pos (by omega)]
      rfl
    · rw [if_neg hlarge, except_ok_bind]
      have hrest := ih (u := {
        size := u.size + chunk.length
        hashed := u.hashed ++ chunk
        written := u.written ++ chunk }) (by simp [hu]) (by simpa using hlarge)
      simp only [List.append_assoc, Nat.add_assoc] at hrest
      exact hrest

/-- **What the loop makes of a file**: it is taken as it is when it starts like an executable and is
within the limit.

**Proof sketch.** The first chunk decides whether the file is an executable, since it has the two
bytes of the mark. The others only add to the length, which is checked after each and so against the
whole file. -/
theorem receive_chunks (hn : 2 ≤ n) (content : List UInt8) : receive (readChunks n content) =
    if content = [] then .error (invalid "uploaded file is empty")
    else if ¬ mz <+: content then .error (invalid "uploaded file is not a Windows executable")
    else if maxUploadBytes < content.length then .error uploadTooLarge
    else .ok { size := content.length, hashed := content, written := content } := by
  unfold receive
  by_cases h : content = []
  · subst h
    rw [readChunks_nil, if_pos rfl]
    rfl
  rw [readChunks_of_ne (by omega) h, if_neg h, List.foldlM_cons]
  have hmz : mz <+: content.take n ↔ mz <+: content := by
    rw [List.prefix_take_iff]
    exact and_iff_left hn
  have hparts : content.take n ++ (readChunks n (content.drop n)).flatten = content := by
    rw [flatten_readChunks (by omega), List.take_append_drop]
  have hlength : (content.take n).length + (readChunks n (content.drop n)).flatten.length =
      content.length := by
    rw [← List.length_append, hparts]
  have hpos : (content.take n).length ≠ 0 := by
    have := List.length_pos_of_ne_nil h
    rw [List.length_take]
    omega
  by_cases hexe : mz <+: content
  · rw [if_neg (not_not.mpr hexe), takeChunk_run fun _ => hmz.mpr hexe]
    simp only [Nat.zero_add, List.nil_append]
    by_cases hlarge : maxUploadBytes < (content.take n).length
    · rw [if_pos hlarge, if_pos (by omega)]
      rfl
    · rw [if_neg hlarge, except_ok_bind, takeChunks _ hpos (not_lt.mp hlarge), hlength]
      by_cases htotal : maxUploadBytes < content.length
      · rw [if_pos htotal, if_pos htotal]
        rfl
      · rw [if_neg htotal, if_neg htotal, except_ok_bind, hparts]
        have hne : content.length ≠ 0 := by omega
        rw [if_neg hne]
  · have hrefused : takeChunk {} (content.take n) =
        .error (invalid "uploaded file is not a Windows executable") :=
      if_pos ⟨rfl, fun hin => hexe (hmz.mp hin)⟩
    rw [if_pos hexe, hrefused]
    rfl

end Reading

/-! ## Activation -/

section Activation

variable {builds : List AgentBuild} {b binary old : AgentBuild} {d t : Depot}

/-- Valid builds pass their check. -/
lemma checkBuilds_of_valid (h : TableValid d.builds) : checkBuilds d = (.ok (), d) := by
  unfold checkBuilds
  rw [Prog.read_bind_run, if_neg (by simpa using h.bindable), if_pos h.toCatalogued]
  rfl

/-- They are all that pass it. -/
lemma checkBuilds_eq_ok : checkBuilds d = (.ok (), t) ↔ TableValid d.builds ∧ t = d := by
  constructor
  · intro h
    unfold checkBuilds at h
    rw [Prog.read_bind_run] at h
    split_ifs at h with hfit hkeys
    · cases h
    · cases h
      exact ⟨⟨hkeys, by simpa using hfit⟩, rfl⟩
    · cases h
  · rintro ⟨hvalid, rfl⟩
    exact checkBuilds_of_valid hvalid

/-- A build is written if the table stays valid. -/
lemma writeBuild_eq_ok : writeBuild b d = (.ok (), t) ↔
    TableValid (Table.store (·.id) b d.builds) ∧
      t = { d with builds := Table.store (·.id) b d.builds } := by
  unfold writeBuild
  rw [Prog.modify_bind_run]
  exact checkBuilds_eq_ok

/-- A flush of one row is its statement. -/
lemma flushBuilds_singleton (cfg : DepotSettings) : flushBuilds cfg [b] = writeBuild b := by
  unfold flushBuilds
  rw [List.perm_singleton.mp (cfg.arrange_perm [b])]
  exact bind_pure (writeBuild b)

/-- A row is written over by one with the same values in the unique indexes.

**Proof sketch.** The store keeps identifiers, versions and hypervisors, so two rows that clash in
an index clash in the old table. The active rows are compared pairwise, split on whether each is the
stored one. -/
lemma valid_store (h : TableValid builds) (hold : old ∈ builds) (hid : binary.id = old.id)
    (hversion : binary.version = old.version) (hhypervisor : binary.hypervisor = old.hypervisor)
    (hactive : binary.isActive = true → ∀ x ∈ builds, x.isActive = true →
      x.hypervisor = binary.hypervisor → x.id = binary.id)
    (hfits : binary.bindable = true) : TableValid (Table.store (·.id) binary builds) := by
  have hindex : (Table.store (·.id) binary builds).map (fun b => (b.id, b.version, b.hypervisor)) =
      builds.map (fun b => (b.id, b.version, b.hypervisor)) := by
    refine Table.map_store fun x hx hkey => ?_
    obtain rfl := Table.eq_of_mem_of_key h.ids hx hold (hkey.trans hid)
    simp [hid, hversion, hhypervisor]
  have hback : ∀ x ∈ Table.store (·.id) binary builds, ∃ y ∈ builds, y.id = x.id ∧
      y.version = x.version ∧ y.hypervisor = x.hypervisor := by
    intro x hx
    have hmem := List.mem_map_of_mem (f := fun b => (b.id, b.version, b.hypervisor)) hx
    rw [hindex] at hmem
    obtain ⟨y, hy, heq⟩ := List.mem_map.mp hmem
    simp only [Prod.mk.injEq] at heq
    exact ⟨y, hy, heq⟩
  refine ⟨⟨?_, ?_, ?_⟩, ?_⟩
  · rw [Table.map_key_store]
    exact h.ids
  · intro x hx y hy heq
    obtain ⟨x', hx', hxid, hxversion, hxhyp⟩ := hback x hx
    obtain ⟨y', hy', hyid, hyversion, hyhyp⟩ := hback y hy
    simp only [Prod.mk.injEq] at heq
    have hkeys := h.versions x' hx' y' hy' (by simp [hxversion, hyversion, hxhyp, hyhyp, heq])
    exact hxid.symm.trans (hkeys.trans hyid)
  · intro x hx y hy heq
    obtain ⟨hxstored, hxactive⟩ := List.mem_filter.mp hx
    obtain ⟨hystored, hyactive⟩ := List.mem_filter.mp hy
    rcases Table.mem_store.mp hxstored with ⟨hxin, -⟩ | ⟨rfl, -⟩
    · rcases Table.mem_store.mp hystored with ⟨hyin, -⟩ | ⟨rfl, -⟩
      · exact h.active x (List.mem_filter.mpr ⟨hxin, hxactive⟩) y
          (List.mem_filter.mpr ⟨hyin, hyactive⟩) heq
      · exact hactive hyactive x hxin hxactive heq
    · rcases Table.mem_store.mp hystored with ⟨hyin, -⟩ | ⟨rfl, -⟩
      · exact (hactive hxactive y hyin hyactive heq.symm).symm
      · rfl
  · intro x hx
    rcases Table.mem_store.mp hx with ⟨hx, -⟩ | ⟨rfl, -⟩
    · exact h.bindable x hx
    · exact hfits

/-- A build that is not active is demoted already. -/
lemma demoted_of_inactive (h : b.isActive = false) : b.demoted = b := by
  unfold AgentBuild.demoted
  rw [← h]

/-- Active builds are demoted, whichever they are. -/
lemma valid_demoted (h : TableValid builds) (hb : b ∈ builds) :
    TableValid (Table.store (·.id) b.demoted builds) :=
  valid_store h hb rfl rfl rfl (fun hactive => by cases hactive) (h.bindable b hb)

/-- The demoted build is stored in its place. -/
lemma store_demoted (h : TableValid builds) (hb : b ∈ builds) :
    Table.store (·.id) b.demoted builds =
      builds.map fun x => if x.id = b.id then x.demoted else x := by
  refine List.map_congr_left fun x hx => ?_
  by_cases hkey : x.id = b.id
  · obtain rfl := Table.eq_of_mem_of_key h.ids hx hb hkey
    rfl
  · have hne : ¬ x.id = b.demoted.id := hkey
    rw [if_neg hne, if_neg hkey]

/-- The index holds after each of the rows that are demoted, in any order. -/
lemma demotions_run (l : List AgentBuild) (hvalid : TableValid d.builds)
    (hl : ∀ x ∈ l, ∃ b ∈ d.builds, x = b.demoted) :
    l.foldlM (fun _ b => writeBuild b) () d =
      (.ok (), { d with
        builds := d.builds.map (fun b => if b.id ∈ l.map (·.id) then b.demoted else b) }) ∧
    TableValid (d.builds.map fun b => if b.id ∈ l.map (·.id) then b.demoted else b) := by
  induction l generalizing d with
  | nil =>
    simp only [List.map_nil, List.not_mem_nil, if_false, List.map_id']
    exact ⟨rfl, hvalid⟩
  | cons x l ih =>
    obtain ⟨b, hb, rfl⟩ := hl x List.mem_cons_self
    set d₁ : Depot := { d with builds := Table.store (·.id) b.demoted d.builds } with hd₁
    have hwrite : writeBuild b.demoted d = (.ok (), d₁) :=
      writeBuild_eq_ok.mpr ⟨valid_demoted hvalid hb, rfl⟩
    have hbuilds : d₁.builds = d.builds.map fun x => if x.id = b.id then x.demoted else x :=
      store_demoted hvalid hb
    have hrest := ih (d := d₁) (valid_demoted hvalid hb) fun y hy => by
      obtain ⟨c, hc, rfl⟩ := hl y (List.mem_cons_of_mem _ hy)
      rw [hbuilds]
      refine ⟨_, List.mem_map_of_mem hc, ?_⟩
      split_ifs <;> rfl
    have hmap : d₁.builds.map (fun c => if c.id ∈ l.map (·.id) then c.demoted else c) =
        d.builds.map fun c => if c.id ∈ (b.demoted :: l).map (·.id) then c.demoted else c := by
      rw [hbuilds, List.map_map]
      refine List.map_congr_left fun c _ => ?_
      have hkey : b.demoted.id = b.id := rfl
      have hckey : c.demoted.id = c.id := rfl
      simp only [Function.comp_apply, List.map_cons, List.mem_cons, hkey]
      by_cases hcb : c.id = b.id
      · rw [if_pos hcb, if_pos (Or.inl hcb)]
        split_ifs <;> rfl
      · rw [if_neg hcb]
        simp [hcb]
    rw [hmap] at hrest
    rw [List.foldlM_cons, Prog.bind_run_ok hwrite]
    exact hrest

/-- The table once a build is the active one. -/
def activated (binary : AgentBuild) (builds : List AgentBuild) : List AgentBuild :=
  builds.map fun b =>
    if b.id = binary.id then binary.promoted
    else if b.hypervisor = binary.hypervisor then b.demoted else b

/-- **An activation meets the constraints with each row it writes**, in whatever order its flushes
write them: it raises nothing, and leaves the build as the only active one of its hypervisor.

**Proof sketch.** Follow the three flushes. The first writes what is pending of the build (`d₁`),
the second demotes the other active builds of its hypervisor in any order (`d₂`, by
`demotions_run`), and the last writes the build itself, when no other is active any more. Row by row
the result is `activated`. -/
theorem setActive_run (cfg : DepotSettings) (hvalid : TableValid d.builds) (hold : old ∈ d.builds)
    (hid : binary.id = old.id) (hversion : binary.version = old.version)
    (hhypervisor : binary.hypervisor = old.hypervisor) (hactive : binary.isActive = old.isActive)
    (hfits : binary.bindable = true) :
    (setActive cfg binary >>= fun b => flushBuilds cfg [b] >>= fun _ => pure b) d =
      (.ok binary.promoted, { d with builds := activated binary d.builds }) ∧
    TableValid (activated binary d.builds) := by
  have hpending : ∀ x ∈ d.builds, x.id = old.id → x = old := fun x hx hkey =>
    Table.eq_of_mem_of_key hvalid.ids hx hold hkey
  -- what is pending of the build is written by the query
  set d₁ : Depot := { d with builds := Table.store (·.id) binary d.builds } with hd₁
  have hvalid₁ : TableValid d₁.builds := by
    refine valid_store hvalid hold hid hversion hhypervisor (fun hon x hx hxon hxhyp => ?_) hfits
    rw [hid]
    exact hvalid.active x (List.mem_filter.mpr ⟨hx, hxon⟩) old
      (List.mem_filter.mpr ⟨hold, hactive ▸ hon⟩) (hxhyp.trans hhypervisor)
  have hfirst : flushBuilds cfg [binary] d = (.ok (), d₁) := by
    rw [flushBuilds_singleton]
    exact writeBuild_eq_ok.mpr ⟨hvalid₁, rfl⟩
  -- the other active builds of the hypervisor are demoted
  set current := currentBuilds binary d₁.builds with hcurrent
  have hmem : ∀ x ∈ cfg.arrange (current.map AgentBuild.demoted), ∃ b ∈ d₁.builds,
      x = b.demoted := by
    intro x hx
    obtain ⟨b, hb, rfl⟩ := List.mem_map.mp ((cfg.arrange_perm _).mem_iff.mp hx)
    exact ⟨b, List.mem_of_mem_filter hb, rfl⟩
  obtain ⟨hsecond, hvalid₂⟩ := demotions_run _ hvalid₁ hmem
  set ids := (cfg.arrange (current.map AgentBuild.demoted)).map (·.id) with hids
  set d₂ : Depot := { d₁ with
    builds := d₁.builds.map (fun b => if b.id ∈ ids then b.demoted else b) } with hd₂
  have hdemoted : ∀ x ∈ d₁.builds, x.id ∈ ids ↔
      x.hypervisor = binary.hypervisor ∧ x.isActive = true ∧ x.id ≠ binary.id := by
    intro x hx
    rw [hids, ((cfg.arrange_perm _).map _).mem_iff, List.map_map]
    constructor
    · intro hin
      obtain ⟨y, hy, hkey⟩ := List.mem_map.mp hin
      obtain ⟨hyin, hytest⟩ := List.mem_filter.mp hy
      obtain rfl : y = x := Table.eq_of_mem_of_key hvalid₁.ids hyin hx hkey
      simpa [and_assoc] using hytest
    · intro htest
      refine List.mem_map.mpr ⟨x, List.mem_filter.mpr ⟨hx, ?_⟩, rfl⟩
      simpa [and_assoc] using htest
  -- the build itself is written last
  have hbinary₁ : binary ∈ d₁.builds := Table.mem_store.mpr (Or.inr ⟨rfl, old, hold, hid.symm⟩)
  have hbinary : binary ∈ d₂.builds := by
    refine List.mem_map.mpr ⟨binary, hbinary₁, if_neg fun hin => ?_⟩
    exact ((hdemoted binary hbinary₁).mp hin).2.2 rfl
  have hvalid₃ : TableValid (Table.store (·.id) binary.promoted d₂.builds) := by
    refine valid_store hvalid₂ hbinary rfl rfl rfl (fun _ x hx hxon hxhyp => ?_) hfits
    obtain ⟨y, hy, rfl⟩ := List.mem_map.mp hx
    by_cases hin : y.id ∈ ids
    · rw [if_pos hin] at hxon
      cases hxon
    · rw [if_neg hin] at hxon hxhyp ⊢
      by_contra hne
      exact hin ((hdemoted y hy).mpr ⟨hxhyp, hxon, hne⟩)
  have hrows : Table.store (·.id) binary.promoted d₂.builds = activated binary d.builds := by
    have hkey : binary.promoted.id = binary.id := rfl
    show (((d.builds.map _).map _).map _ : List AgentBuild) = d.builds.map _
    rw [List.map_map, List.map_map]
    refine List.map_congr_left fun x hx => ?_
    simp only [Function.comp_apply, hkey]
    by_cases hxid : x.id = binary.id
    · have hnot : binary.id ∉ ids := fun hin => ((hdemoted binary hbinary₁).mp hin).2.2 rfl
      rw [if_pos hxid, if_pos hxid, if_neg hnot, if_pos rfl]
    · have hx₁ : x ∈ d₁.builds := Table.mem_store.mpr (Or.inl ⟨hx, hxid⟩)
      have hdemotedKey : x.demoted.id = x.id := rfl
      rw [if_neg hxid, if_neg hxid]
      by_cases hhyp : x.hypervisor = binary.hypervisor
      · rw [if_pos hhyp]
        by_cases hin : x.id ∈ ids
        · rw [if_pos hin, hdemotedKey, if_neg hxid]
        · -- it was not active
          have hoff : x.isActive = false := by
            rw [← Bool.not_eq_true]
            exact fun hon => hin ((hdemoted x hx₁).mpr ⟨hhyp, hon, hxid⟩)
          rw [if_neg hin, if_neg hxid, demoted_of_inactive hoff]
      · have hin : x.id ∉ ids := fun hin => hhyp ((hdemoted x hx₁).mp hin).1
        rw [if_neg hhyp, if_neg hin, if_neg hxid]
  have hthird : flushBuilds cfg [binary.promoted] d₂ =
      (.ok (), { d with builds := activated binary d.builds }) := by
    rw [flushBuilds_singleton]
    refine writeBuild_eq_ok.mpr ⟨hvalid₃, ?_⟩
    rw [hrows]
  have hset : setActive cfg binary d = (.ok binary.promoted, d₂) := by
    have hflush : flushBuilds cfg (current.map AgentBuild.demoted) d₁ = (.ok (), d₂) := hsecond
    unfold setActive
    rw [Prog.bind_run_ok hfirst, Prog.read_bind_run, Prog.bind_run_ok hflush]
    rfl
  refine ⟨?_, hrows ▸ hvalid₃⟩
  rw [Prog.bind_run_ok hset, Prog.bind_run_ok hthird]
  rfl

end Activation

end OpenVCenter
