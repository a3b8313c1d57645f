import OpenVCenter.Foundations.External
import OpenVCenter.Rbac
import OpenVCenter.System

set_option relaxedAutoImplicit false
set_option autoImplicit false

/-!
# Deletes that reach outside

`DELETE /hosts/{host_id}` tears down the queues and the broker user of the host, and
`DELETE /agent-binaries/{binary_id}` removes the stored bytes. Both do so before the transaction is
committed.

## Main definitions

* `OpenVCenter.Site` — the database with the broker and the store of agent binaries.
* `OpenVCenter.deprovisionHostMessaging`, `OpenVCenter.removeHostRoute`,
  `OpenVCenter.deleteAgentBinary` — the service and the routes, under the answers of the broker and
  of the store and under the faults of the database.
* `OpenVCenter.HostSpared`, `OpenVCenter.BinarySpared` — nothing is taken that a rollback would
  need.

## Main results

* `OpenVCenter.deprovision_run` — what the teardown of a host leaves, and what it raises.
* `OpenVCenter.rolledBack_kept_iff` — **a request that is rolled back leaves what the surviving row
  needs** exactly when it is spared.

## Design

Where a statement on the database fails is not told apart: the rollback undoes all of them, and none
comes after the calls outside but the commit.
-/

namespace OpenVCenter

open Effect

variable (env : Env)

/-! ## The site -/

/-- What a request raises: a handler's raise, `AgentStoreError`, or `CancelledError`, which is no
`Exception`. -/
inductive Failure where
  | raised (e : Raised)
  | agentStoreError
  | cancelled

/-- `except Exception`. -/
def Failure.isException : Failure → Bool
  | .cancelled => false
  | _ => true

/-- `except AgentStoreError`. -/
def Failure.isAgentStoreError : Failure → Bool
  | .agentStoreError => true
  | _ => false

/-- `models/agent_binary.py`, what its deletion reads. -/
structure AgentBinary where
  id : String
  version : String
  hypervisor : String
  storageKey : String
  isActive : Bool

/-- The database, with `agent_binaries` and `hosts.agent_rmq_user`; the queues and the users of the
broker; and the keys of the store. -/
structure Site where
  world : World
  binaries : List AgentBinary
  agentRmqUser : String → Option String
  queues : List String
  users : List String
  objects : List String

/-- A handler on the database of the site. -/
def onWorld {α : Type} (m : M α) : Prog Site Failure α := fun s =>
  match m s.world with
  | (.ok a, w) => (.ok a, { s with world := w })
  | (.error e, w) => (.error (.raised e), { s with world := w })

/-- What the statements on the database raise, and what the commit does. -/
structure Faults where
  statement : Option Failure
  commit : Option Failure

/-- The rollback of a request: what is outside the database stays. -/
def Site.rollback (old new : Site) : Site :=
  { new with world := OpenVCenter.rollback old.world new.world, binaries := old.binaries }

/-- The commit of `get_session`. -/
def siteCommit (faults : Faults) : Prog Site Failure Unit := do
  onWorld flush
  Prog.ofExcept (Prog.outcome faults.commit)

/-- A request: its statements, and the commit. -/
def siteRequest (faults : Faults) (m : Prog Site Failure Unit) : Prog Site Failure Unit :=
  Prog.transact Site.rollback (siteCommit faults) do
    Prog.ofExcept (Prog.outcome faults.statement)
    m

/-! ## Hosts -/

/-- `QueueKind`. -/
inductive QueueKind where
  | request | response | agentStatus | vmInventory | hostInventory | templateInventory
  | isoInventory | vmMetrics | hostMetrics
  deriving DecidableEq

namespace QueueKind

/-- The value of the kind. -/
def value : QueueKind → String
  | request => "request"
  | response => "response"
  | agentStatus => "agent_status"
  | vmInventory => "vm_inventory"
  | hostInventory => "host_inventory"
  | templateInventory => "template_inventory"
  | isoInventory => "iso_inventory"
  | vmMetrics => "vm_metrics"
  | hostMetrics => "host_metrics"

/-- `ALL_KINDS`. -/
def all : List QueueKind :=
  [request, response, agentStatus, vmInventory, hostInventory, templateInventory, isoInventory,
    vmMetrics, hostMetrics]

end QueueKind

/-- `queue_name`. -/
def queueName (hostRef : String) (kind : QueueKind) : String := hostRef ++ "." ++ kind.value

/-- How the calls to the broker end: the channel is opened, each queue deleted, the channel closed;
the user is deleted and the client closed. -/
structure BrokerAnswers where
  channel : Answer Failure
  queue : QueueKind → Answer Failure
  close : Answer Failure
  user : Answer Failure
  closeClient : Answer Failure

/-- `queue_delete`: a queue that is gone is no error. -/
def deleteQueue (name : String) (s : Site) : Site :=
  { s with queues := s.queues.filter fun q => decide (q ≠ name) }

/-- `delete_user`: a user that is gone is no error. -/
def deleteUser (name : String) (s : Site) : Site :=
  { s with users := s.users.filter fun u => decide (u ≠ name) }

/-- `delete_host_queues`. -/
def deleteHostQueues (answers : BrokerAnswers) (hostRef : String) : Prog Site Failure Unit :=
  QueueKind.all.foldlM (fun _ kind =>
    Prog.call (answers.queue kind) (deleteQueue (queueName hostRef kind))) ()

/-- `deprovision_host_messaging`: best effort, but for what is no `Exception`. -/
def deprovisionHostMessaging (answers : BrokerAnswers) (hostRef : String)
    (agentRmqUser : Option String) : Prog Site Failure Unit := do
  Prog.catching Failure.isException do
    Prog.call answers.channel id
    Prog.ensuring (deleteHostQueues answers hostRef) (Prog.call answers.close id)
  match nonEmpty agentRmqUser with
  | some user =>
    Prog.catching Failure.isException
      (Prog.ensuring (Prog.call answers.user (deleteUser user)) (Prog.call answers.closeClient id))
  | none => pure ()

/-- `forbidden(message)`. -/
def forbiddenTo (message : String) : Raised :=
  .apiError { code := "FORBIDDEN", message, statusCode := 403 }

/-- `DELETE /hosts/{host_id}`. -/
def removeHostRoute (faults : Faults) (answers : BrokerAnswers) (isAdmin : Bool) (user : User)
    (hostId : String) : Prog Site Failure Unit :=
  siteRequest faults do
    let s ← Prog.read
    let host ← onWorld (M.ofOption (notFound "Host") (s.world.db.host hostId))
    if !isAdmin then Prog.raise (.raised (forbiddenTo "Only an administrator can remove hosts"))
    else do
      onWorld (removeHost env user hostId)
      deprovisionHostMessaging answers host.shortId (s.agentRmqUser host.id)

/-! ## Agent binaries -/

/-- `_ref` of an agent binary. -/
def AgentBinary.ref (b : AgentBinary) : TargetRef :=
  ⟨"agent_binary", some b.id, .str b.version, none, none⟩

/-- `AgentBinaryStore.delete`: bytes that are gone are no error. -/
def deleteObject (key : String) (s : Site) : Site :=
  { s with objects := s.objects.filter fun k => decide (k ≠ key) }

/-- `db.get(AgentBinary, id)`. -/
def Site.binary (s : Site) (id : String) : Option AgentBinary :=
  Table.lookup AgentBinary.id id s.binaries

/-- `DELETE /agent-binaries/{binary_id}`. -/
def deleteAgentBinary (faults : Faults) (answer : Answer Failure) (isAdmin : Bool) (user : User)
    (binaryId : String) : Prog Site Failure Unit :=
  siteRequest faults do
    if !isAdmin then
      Prog.raise (.raised (forbiddenTo "Only an administrator can manage agent binaries"))
    else do
      let s ← Prog.read
      let binary ← onWorld (M.ofOption (notFound "Agent binary") (s.binary binaryId))
      if binary.isActive then
        Prog.raise (.raised (.apiError {
          code := "ACTIVE_BINARY"
          message := "Promote another build to active before deleting this one"
          statusCode := 409 }))
      else do
        onWorld (record env (some user) "agent_binary.delete" binary.ref none
          (.obj [("hypervisor", .str binary.hypervisor)]))
        Prog.catching Failure.isAgentStoreError (Prog.call answer (deleteObject binary.storageKey))
        Prog.modify fun s =>
          { s with binaries := Table.deleteWhere (fun b => decide (b.id = binary.id)) s.binaries }

/-! ## What is taken -/

namespace BrokerAnswers

variable (answers : BrokerAnswers)

/-- The deletes of queues that take effect. -/
def deletedQueues : List QueueKind :=
  if answers.channel.raised.isSome then [] else effective answers.queue QueueKind.all

/-- What the first block of the teardown passes on. -/
def queuesRaise : Option Failure :=
  (answers.channel.raised.or (answers.close.raised.or
    (firstRaised answers.queue QueueKind.all))).filter fun e => !e.isException

/-- The user is deleted. -/
def deletesUser : Bool := answers.queuesRaise.isNone && answers.user.applied

/-- What the teardown passes on; the second block is for a host with a user. -/
def raise (agentRmqUser : Option String) : Option Failure :=
  answers.queuesRaise.or (if (nonEmpty agentRmqUser).isSome then
    (answers.closeClient.raised.or answers.user.raised).filter fun e => !e.isException else none)

/-- The site after the teardown. -/
def after (hostRef : String) (agentRmqUser : Option String) (s : Site) : Site :=
  { s with
    queues := s.queues.filter fun q =>
      decide (q ∉ answers.deletedQueues.map (queueName hostRef))
    users := s.users.filter fun u =>
      decide (¬ (answers.deletesUser = true ∧ nonEmpty agentRmqUser = some u)) }

end BrokerAnswers

section Runs

variable {env} {answers : BrokerAnswers} {hostRef : String} {s t : Site}

/-- The queues are deleted one after another. -/
lemma foldl_deleteQueue (names : List String) (s : Site) :
    names.foldl (fun s name => deleteQueue name s) s =
      { s with queues := s.queues.filter fun q => decide (q ∉ names) } := by
  induction names generalizing s with
  | nil => simp
  | cons name names ih =>
    rw [List.foldl_cons, ih]
    unfold deleteQueue
    simp only [List.filter_filter, List.mem_cons, not_or]
    congr 1
    refine List.filter_congr fun q _ => ?_
    by_cases hq : q = name
    · simp [hq]
    · simp [hq]

/-- What is deleted of a host's queues, and what is raised. -/
lemma deleteHostQueues_run : deleteHostQueues answers hostRef s =
    (Prog.outcome (firstRaised answers.queue QueueKind.all),
      { s with queues := s.queues.filter fun q =>
          decide (q ∉ (effective answers.queue QueueKind.all).map (queueName hostRef)) }) := by
  unfold deleteHostQueues
  rw [← foldl_deleteQueue, List.foldl_map]
  exact calls_run answers.queue (fun kind => deleteQueue (queueName hostRef kind)) _ s

/-- **The teardown of a host**: what it leaves, and what it raises.

**Proof sketch.** The queues are deleted on a channel of their own under one `try`, the account under
another. What is no `Exception` ends the teardown in the first block; any other failure of the first
block is caught, and the second is run on what the first has left. -/
theorem deprovision_run (agentRmqUser : Option String) :
    deprovisionHostMessaging answers hostRef agentRmqUser s =
      (Prog.outcome (answers.raise agentRmqUser), answers.after hostRef agentRmqUser s) := by
  set gone : Site :=
    { s with queues := s.queues.filter fun q =>
        decide (q ∉ answers.deletedQueues.map (queueName hostRef)) } with hgone
  have hqueues : Prog.catching Failure.isException (do
      Prog.call answers.channel id
      Prog.ensuring (deleteHostQueues answers hostRef) (Prog.call answers.close id)) s =
      (Prog.outcome answers.queuesRaise, gone) := by
    rw [Prog.catching_run (Prog.outcome_bind_run _ (Prog.call_id_run _ _)
      (Prog.ensuring_run deleteHostQueues_run (Prog.call_id_run _ _)))]
    refine congrArg (Prod.mk _) ?_
    rw [hgone]
    unfold BrokerAnswers.deletedQueues
    cases answers.channel.raised with
    | none => rfl
    | some e => simp
  have huser : ∀ user, Prog.catching Failure.isException
      (Prog.ensuring (Prog.call answers.user (deleteUser user))
        (Prog.call answers.closeClient id)) gone =
      (Prog.outcome ((answers.closeClient.raised.or answers.user.raised).filter
          fun e => !e.isException),
        if answers.user.applied then deleteUser user gone else gone) :=
    fun user => Prog.catching_run (Prog.ensuring_run rfl (Prog.call_id_run _ _))
  unfold deprovisionHostMessaging
  cases hnamed : nonEmpty agentRmqUser with
  | none =>
    rw [Prog.outcome_bind_run none hqueues rfl]
    refine Prod.ext ?_ ?_
    · simp [BrokerAnswers.raise, hnamed]
    · simp [BrokerAnswers.after, hnamed, hgone]
  | some user =>
    rw [Prog.outcome_bind_run _ hqueues (huser user)]
    refine Prod.ext ?_ ?_
    · simp [BrokerAnswers.raise, hnamed]
    · simp only [BrokerAnswers.after, hnamed, BrokerAnswers.deletesUser]
      cases answers.queuesRaise with
      | some e => simp [hgone]
      | none =>
        cases answers.user.applied with
        | false => simp [hgone]
        | true => simp [hgone, deleteUser, eq_comm]

/-! ## Requests -/

/-- The commit raises when the flush does, or the connection. -/
lemma siteCommit_run (faults : Faults) (t : Site) :
    (siteCommit faults t).2 = t ∧
      (siteCommit faults t = (.ok (), t) ↔ t.world.db.Consistent ∧ faults.commit = none) := by
  have hstate := flush_state t.world
  rcases hflush : flush t.world with ⟨e | _, w⟩
  · rw [hflush] at hstate
    obtain rfl : w = t.world := hstate
    have hraise : onWorld flush t = (.error (.raised e), t) := by
      unfold onWorld
      rw [hflush]
    have hrun : siteCommit faults t = (.error (.raised e), t) := Prog.bind_run_error hraise
    rw [hrun]
    refine ⟨rfl, iff_of_false (by rintro ⟨⟩) fun hc => ?_⟩
    rw [flush_eq_ok.mpr ⟨hc.1, rfl⟩] at hflush
    cases hflush
  · obtain ⟨hc, rfl⟩ := flush_eq_ok.mp hflush
    have hreturn : onWorld flush t = (.ok (), t) := by
      unfold onWorld
      rw [hflush]
    have hrun : siteCommit faults t = Prog.ofExcept (Prog.outcome faults.commit) t :=
      Prog.bind_run_ok hreturn
    rw [hrun]
    rcases faults.commit with _ | e
    · exact ⟨rfl, iff_of_true rfl ⟨hc, rfl⟩⟩
    · exact ⟨rfl, iff_of_false (by rintro ⟨⟩) fun h => Option.some_ne_none e h.2⟩

/-- What a body leaves has `K` when the request is rolled back after it: the body has raised, or the
commit does. -/
def KeptIfFailed (faults : Faults) (K : Site → Prop) (r : Except Failure Unit × Site) : Prop :=
  (∀ e t, r = (.error e, t) → K t) ∧
    ∀ t, r = (.ok (), t) → ¬ (t.world.db.Consistent ∧ faults.commit = none) → K t

/-- A body that is refused. -/
lemma keptIfFailed_raise {faults : Faults} {K : Site → Prop} {e : Failure} {t : Site} (h : K t) :
    KeptIfFailed faults K (.error e, t) := by
  refine ⟨fun e' u hu => ?_, fun u hu => nomatch hu⟩
  obtain rfl : t = u := congrArg Prod.snd hu
  exact h

/-- A body that ends in calls outside the database, once its statements have gone through. -/
lemma keptIfFailed_outcome_iff {faults : Faults} {K : Site → Prop} {o : Option Failure} {t : Site}
    (hc : t.world.db.Consistent) :
    KeptIfFailed faults K (Prog.outcome o, t) ↔ (o = none ∧ faults.commit = none) ∨ K t := by
  rcases o with _ | e
  · constructor
    · rintro ⟨-, hcommitted⟩
      by_cases hcommit : faults.commit = none
      · exact .inl ⟨rfl, hcommit⟩
      · exact .inr (hcommitted t rfl fun h => hcommit h.2)
    · intro h
      refine ⟨(fun e u hu => nomatch hu), fun u hu hnot => ?_⟩
      obtain rfl : t = u := congrArg Prod.snd hu
      rcases h with ⟨-, hcommit⟩ | h
      · exact absurd ⟨hc, hcommit⟩ hnot
      · exact h
  · constructor
    · rintro ⟨hraised, -⟩
      exact .inr (hraised e t rfl)
    · rintro (⟨h, -⟩ | h)
      · cases h
      · exact keptIfFailed_raise h

/-- A request that is rolled back, for what the rollback leaves alone: the body has raised, or the
commit has. -/
lemma siteRequest_error_iff {faults : Faults} {m : Prog Site Failure Unit} {K : Site → Prop}
    (hroll : ∀ t, K (Site.rollback s t) ↔ K t) (hs : K s) :
    (∀ e t, siteRequest faults m s = (.error e, t) → K t) ↔
      (faults.statement = none → KeptIfFailed faults K (m s)) := by
  unfold siteRequest KeptIfFailed
  rcases hstatement : faults.statement with _ | raised
  · have hbody : (do
        Prog.ofExcept (Prog.outcome none)
        m : Prog Site Failure Unit) = m := rfl
    rw [hbody]
    rcases hm : m s with ⟨e | _, t⟩
    · rw [Prog.transact_of_raise hm]
      simp [hroll]
    · obtain ⟨hstate, hcommit⟩ := siteCommit_run faults t
      by_cases hc : t.world.db.Consistent ∧ faults.commit = none
      · rw [Prog.transact_eq_ok.mpr ⟨t, hm, hcommit.mpr hc⟩]
        simp [hc]
      · rcases Prog.transact_cases (fun t => (siteCommit_run faults t).1) m s with
          ⟨_, u, hm', hok, -⟩ | ⟨e, hrun⟩
        · rw [hm] at hm'
          cases hm'
          exact absurd (hcommit.mp hok) hc
        · rw [hrun, hm]
          constructor
          · intro h _
            refine ⟨(fun _ _ hraised => nomatch hraised), fun u hu _ => ?_⟩
            obtain rfl : t = u := congrArg Prod.snd hu
            exact (hroll t).mp (h e _ rfl)
          · rintro h _ _ ⟨⟩
            exact (hroll t).mpr ((h rfl).2 t rfl hc)
  · have hbody : (do
        Prog.ofExcept (Prog.outcome (some raised))
        m : Prog Site Failure Unit) s = (.error raised, s) := rfl
    rw [Prog.transact_of_raise hbody]
    simp [hroll, hs]

/-- A removal that returns has flushed. -/
lemma removeHost_consistent {user : User} {hostId : String} {w w' : World}
    (h : removeHost env user hostId w = (.ok (), w')) : w'.db.Consistent := by
  obtain ⟨_, _, -, h⟩ := Prog.bind_eq_ok.mp h
  obtain ⟨_, _, -, h⟩ := Prog.bind_eq_ok.mp h
  obtain ⟨_, _, -, h⟩ := Prog.bind_eq_ok.mp h
  obtain ⟨_, _, -, h⟩ := Prog.bind_eq_ok.mp h
  obtain ⟨_, _, -, h⟩ := Prog.bind_eq_ok.mp h
  obtain ⟨hc, rfl⟩ := flush_eq_ok.mp h
  exact hc

/-! ## What a rollback leaves -/

/-- The queues and the broker user of the host are still there. -/
def HostResourcesKept (s t : Site) (hostId : String) : Prop :=
  ∀ host, s.world.db.host hostId = some host →
    (∀ kind, queueName host.shortId kind ∈ s.queues → queueName host.shortId kind ∈ t.queues) ∧
    ∀ u, nonEmpty (s.agentRmqUser host.id) = some u → u ∈ s.users → u ∈ t.users

/-- The bytes of the binary are still there. -/
def BinaryResourcesKept (s t : Site) (binaryId : String) : Prop :=
  ∀ binary, s.binary binaryId = some binary →
    binary.storageKey ∈ s.objects → binary.storageKey ∈ t.objects

/-- The teardown deletes nothing that is there. -/
def BrokerAnswers.TakesNothing (answers : BrokerAnswers) (hostRef : String)
    (agentRmqUser : Option String) (s : Site) : Prop :=
  (∀ kind ∈ answers.deletedQueues, queueName hostRef kind ∉ s.queues) ∧
  (answers.deletesUser = true → ∀ u, nonEmpty agentRmqUser = some u → u ∉ s.users)

/-- A removal that comes to the teardown takes nothing, or nothing fails any more. -/
def HostSpared (env : Env) (faults : Faults) (answers : BrokerAnswers) (isAdmin : Bool)
    (user : User) (hostId : String) (s : Site) : Prop :=
  faults.statement = none → isAdmin = true →
    ∀ host, s.world.db.host hostId = some host → ∀ w,
      removeHost env user hostId s.world = (.ok (), w) →
      (answers.raise (s.agentRmqUser host.id) = none ∧ faults.commit = none) ∨
        answers.TakesNothing host.shortId (s.agentRmqUser host.id) s

/-- A deletion that comes to the store takes nothing, or nothing fails any more. -/
def BinarySpared (env : Env) (faults : Faults) (answer : Answer Failure) (isAdmin : Bool)
    (user : User) (binaryId : String) (s : Site) : Prop :=
  faults.statement = none → isAdmin = true →
    ∀ binary, s.binary binaryId = some binary → binary.isActive = false → ∀ w,
      record env (some user) "agent_binary.delete" binary.ref none
        (.obj [("hypervisor", .str binary.hypervisor)]) s.world = (.ok (), w) →
      (answer.raised.all Failure.isAgentStoreError = true ∧ faults.commit = none) ∨
        (answer.applied = true → binary.storageKey ∉ s.objects)

/-- Nothing is taken exactly if every queue and the account stay. -/
lemma takesNothing_iff {agentRmqUser : Option String} :
    answers.TakesNothing hostRef agentRmqUser s ↔
      (∀ kind, queueName hostRef kind ∈ s.queues →
        queueName hostRef kind ∈ (answers.after hostRef agentRmqUser s).queues) ∧
      ∀ u, nonEmpty agentRmqUser = some u → u ∈ s.users →
        u ∈ (answers.after hostRef agentRmqUser s).users := by
  unfold BrokerAnswers.TakesNothing BrokerAnswers.after
  simp only [List.mem_filter, decide_eq_true_eq]
  constructor
  · rintro ⟨hqueues, husers⟩
    refine ⟨fun kind hthere => ⟨hthere, fun htaken => ?_⟩, fun u hu hthere =>
      ⟨hthere, fun htaken => husers htaken.1 u hu hthere⟩⟩
    obtain ⟨other, hother, hname⟩ := List.mem_map.mp htaken
    exact hqueues other hother (hname ▸ hthere)
  · rintro ⟨hqueues, husers⟩
    refine ⟨fun kind hkind hthere => (hqueues kind hthere).2 (List.mem_map_of_mem hkind),
      fun hdeletes u hu hthere => (husers u hu hthere).2 ⟨hdeletes, hu⟩⟩

/-- **The removal of a host**, rolled back.

**Proof sketch.** An unknown host, a caller without the role and a refused removal touch no queue
and no broker user. A removal that goes through takes what the host has of these and then commits,
so the resources are kept exactly when there is nothing to take. -/
lemma removeHostRoute_kept_iff (faults : Faults) (answers : BrokerAnswers) (isAdmin : Bool)
    (user : User) (hostId : String) (s : Site) :
    (∀ e t, removeHostRoute env faults answers isAdmin user hostId s = (.error e, t) →
      HostResourcesKept s t hostId) ↔ HostSpared env faults answers isAdmin user hostId s := by
  unfold removeHostRoute HostSpared
  refine (siteRequest_error_iff (K := fun t => HostResourcesKept s t hostId) (fun _ => Iff.rfl)
    fun _ _ => ⟨fun _ => id, fun _ _ => id⟩).trans (forall_congr' fun _ => ?_)
  have hsame : ∀ t : Site, t.queues = s.queues → t.users = s.users → HostResourcesKept s t hostId :=
    fun t hqueues husers _ _ => ⟨fun _ h => hqueues ▸ h, fun _ _ h => husers ▸ h⟩
  rw [Prog.read_bind_run]
  rcases hhost : s.world.db.host hostId with _ | host
  · exact iff_of_true (keptIfFailed_raise (hsame s rfl rfl)) fun _ _ h => nomatch h
  cases isAdmin with
  | false => exact iff_of_true (keptIfFailed_raise (hsame s rfl rfl)) fun h => nomatch h
  | true =>
    change KeptIfFailed faults _ ((onWorld (removeHost env user hostId) >>= fun _ => _) s) ↔ _
    rcases hremove : removeHost env user hostId s.world with ⟨e | _, w⟩
    · have hraise : onWorld (removeHost env user hostId) s =
          (.error (.raised e), { s with world := w }) := by
        unfold onWorld
        rw [hremove]
      rw [Prog.bind_run_error hraise]
      exact iff_of_true (keptIfFailed_raise (hsame _ rfl rfl)) fun _ _ _ w' h => nomatch h
    · have hreturn : onWorld (removeHost env user hostId) s = (.ok (), { s with world := w }) := by
        unfold onWorld
        rw [hremove]
      have hc : w.db.Consistent := removeHost_consistent hremove
      rw [Prog.bind_run_ok hreturn, deprovision_run]
      set gone := answers.after host.shortId (s.agentRmqUser host.id) { s with world := w }
      have hkept : HostResourcesKept s gone hostId ↔
          answers.TakesNothing host.shortId (s.agentRmqUser host.id) s := by
        refine Iff.trans ?_ takesNothing_iff.symm
        unfold HostResourcesKept
        rw [hhost]
        constructor
        · exact fun h => h host rfl
        · rintro h _ ⟨⟩
          exact h
      have hcommit : gone.world.db.Consistent := hc
      rw [keptIfFailed_outcome_iff hcommit, hkept]
      constructor
      · rintro h - _ ⟨⟩ _ ⟨⟩
        exact h
      · exact fun h => h rfl host rfl w rfl

/-- The deletion of the bytes: what it raises past its handler, and what it leaves. -/
lemma deleteObject_run (answer : Answer Failure) (key : String) (s : Site) :
    Prog.catching Failure.isAgentStoreError (Prog.call answer (deleteObject key)) s =
      (Prog.outcome (answer.raised.filter fun e => !e.isAgentStoreError),
        if answer.applied then deleteObject key s else s) :=
  Prog.catching_run rfl

/-- The site once the store has answered the deletion of an object. -/
def Site.dropped (s : Site) (w : World) (answer : Answer Failure) (key : String) : Site :=
  if answer.applied then deleteObject key { s with world := w } else { s with world := w }

/-- The bytes are still there unless the store has deleted them. -/
lemma dropped_kept_iff {w : World} {answer : Answer Failure} {binaryId : String}
    {binary : AgentBinary} {t : Site} (hbinary : s.binary binaryId = some binary)
    (ht : t.objects = (s.dropped w answer binary.storageKey).objects) :
    BinaryResourcesKept s t binaryId ↔
      (answer.applied = true → binary.storageKey ∉ s.objects) := by
  unfold BinaryResourcesKept
  rw [hbinary, ht]
  unfold Site.dropped
  cases answer.applied with
  | false => exact iff_of_true (fun _ _ h => h) (by simp)
  | true =>
    rw [if_pos rfl]
    constructor
    · intro h _ hthere
      have hstill := h binary rfl hthere
      simp [deleteObject] at hstill
    · rintro h _ ⟨⟩ hthere
      exact absurd hthere (h rfl)

/-- The handler around the call leaves what is not an error of the store. -/
lemma filter_storeError_eq_none {raised : Option Failure} :
    (raised.filter fun e => !e.isAgentStoreError) = none ↔
      raised.all Failure.isAgentStoreError = true := by
  rcases raised with _ | e
  · simp
  · cases h : e.isAgentStoreError <;> simp [h]

/-- **The deletion of a binary**, rolled back.

**Proof sketch.** By the guards in the order of the source: each of them refuses before anything is
taken. Past them the object goes, and the request fails exactly if the store raises an exception
that is not its own, or the commit fails; the two cases compare the object with what is left. -/
lemma deleteAgentBinary_kept_iff (faults : Faults) (answer : Answer Failure) (isAdmin : Bool)
    (user : User) (binaryId : String) (s : Site) :
    (∀ e t, deleteAgentBinary env faults answer isAdmin user binaryId s = (.error e, t) →
      BinaryResourcesKept s t binaryId) ↔ BinarySpared env faults answer isAdmin user binaryId s := by
  unfold deleteAgentBinary BinarySpared
  refine (siteRequest_error_iff (K := fun t => BinaryResourcesKept s t binaryId) (fun _ => Iff.rfl)
    fun _ _ => id).trans (forall_congr' fun _ => ?_)
  have hsame : ∀ t : Site, t.objects = s.objects → BinaryResourcesKept s t binaryId :=
    fun t hobjects _ _ h => hobjects ▸ h
  -- the guards refuse before anything is taken
  cases isAdmin with
  | false => exact iff_of_true (keptIfFailed_raise (hsame s rfl)) fun h => nomatch h
  | true =>
    change KeptIfFailed faults _ ((Prog.read >>= fun _ => _) s) ↔ _
    rw [Prog.read_bind_run]
    rcases hbinary : s.binary binaryId with _ | binary
    · exact iff_of_true (keptIfFailed_raise (hsame s rfl)) fun _ _ h => nomatch h
    change KeptIfFailed faults _ ((if binary.isActive = true then Prog.raise _ else _ :
      Prog Site Failure Unit) s) ↔ _
    by_cases hactive : binary.isActive = true
    · rw [if_pos hactive]
      refine iff_of_true (keptIfFailed_raise (hsame s rfl)) ?_
      rintro - _ ⟨⟩ hinactive
      rw [hactive] at hinactive
      cases hinactive
    rw [if_neg hactive]
    rcases hrecord : record env (some user) "agent_binary.delete" binary.ref none
      (.obj [("hypervisor", .str binary.hypervisor)]) s.world with ⟨e | _, w⟩
    · have hraise : onWorld (record env (some user) "agent_binary.delete" binary.ref none
          (.obj [("hypervisor", .str binary.hypervisor)])) s =
          (.error (.raised e), { s with world := w }) := by
        unfold onWorld
        rw [hrecord]
      rw [Prog.bind_run_error hraise]
      refine iff_of_true (keptIfFailed_raise (hsame _ rfl)) ?_
      rintro - _ ⟨⟩ - w' h
      rw [hrecord] at h
      cases h
    -- past them the object goes, and what may fail is the store or the commit
    have hreturn : onWorld (record env (some user) "agent_binary.delete" binary.ref none
        (.obj [("hypervisor", .str binary.hypervisor)])) s = (.ok (), { s with world := w }) := by
      unfold onWorld
      rw [hrecord]
    set raised := answer.raised.filter fun e => !e.isAgentStoreError with hraised
    set dropped := s.dropped w answer binary.storageKey with hdropped
    obtain ⟨t, hrun, hworld, hobjects⟩ : ∃ t : Site,
        (Prog.catching Failure.isAgentStoreError (Prog.call answer (deleteObject binary.storageKey))
          >>= fun _ => Prog.modify fun s => { s with
            binaries := Table.deleteWhere (fun b => decide (b.id = binary.id)) s.binaries })
          { s with world := w } = (Prog.outcome raised, t) ∧
        t.world = dropped.world ∧ t.objects = dropped.objects := by
      have hcall := deleteObject_run answer binary.storageKey { s with world := w }
      rcases hfails : raised with _ | e
      · rw [← hraised, hfails] at hcall
        exact ⟨_, Prog.bind_run_ok hcall, rfl, rfl⟩
      · rw [← hraised, hfails] at hcall
        exact ⟨_, Prog.bind_run_error hcall, rfl, rfl⟩
    have hc : t.world.db.Consistent := by
      rw [hworld, hdropped]
      unfold Site.dropped
      have hflushed : w.db.Consistent := (record_eq_ok hrecord).1
      split_ifs
      · exact hflushed
      · exact hflushed
    rw [Prog.bind_run_ok hreturn]
    refine Iff.trans (iff_of_eq (congrArg (KeptIfFailed faults _) hrun)) ?_
    rw [keptIfFailed_outcome_iff hc, hraised, filter_storeError_eq_none,
      dropped_kept_iff hbinary hobjects]
    constructor
    · rintro h - _ ⟨⟩ - _ -
      exact h
    · exact fun h => h rfl binary rfl (Bool.eq_false_of_not_eq_true hactive) w hrecord

/-- **A request that is rolled back leaves what the surviving row needs** exactly when it is spared:
nothing fails once something is taken. -/
theorem rolledBack_kept_iff (env : Env) (faults : Faults) (user : User) (isAdmin : Bool) (s : Site) :
    (∀ answers hostId, (∀ e t,
      removeHostRoute env faults answers isAdmin user hostId s = (.error e, t) →
        HostResourcesKept s t hostId) ↔ HostSpared env faults answers isAdmin user hostId s) ∧
    ∀ answer binaryId, (∀ e t,
      deleteAgentBinary env faults answer isAdmin user binaryId s = (.error e, t) →
        BinaryResourcesKept s t binaryId) ↔ BinarySpared env faults answer isAdmin user binaryId s :=
  ⟨fun answers hostId => removeHostRoute_kept_iff faults answers isAdmin user hostId s,
    fun answer binaryId => deleteAgentBinary_kept_iff faults answer isAdmin user binaryId s⟩

end Runs

/-- The site of one host with its request queue. -/
def Demo.site : Site where
  world := OpenVCenter.Demo.start.world
  binaries := []
  agentRmqUser _ := none
  queues := ["s.request"]
  users := []
  objects := []

/-- All calls to the broker succeed. -/
def Demo.answers : BrokerAnswers :=
  { channel := .done, queue := fun _ => .done, close := .done, user := .done, closeClient := .done }

/-- The commit loses its connection. -/
def Demo.lost : Faults := { statement := none, commit := some (.raised .connectionError) }

/-- All calls succeed, and the commit loses its connection: the queue of the host is gone. -/
theorem rolledBack_kept_counterexample :
    ¬ ∀ (env : Env) (faults : Faults) (answers : BrokerAnswers) (user : User) (hostId : String)
      (s t : Site) (e : Failure),
      removeHostRoute env faults answers true user hostId s = (.error e, t) →
        HostResourcesKept s t hostId := by
  intro h
  have hfails : (removeHostRoute Demo.settings Demo.lost Demo.answers true Demo.user "h"
      Demo.site).1.toOption = none := by
    decide +kernel
  have hqueues : (removeHostRoute Demo.settings Demo.lost Demo.answers true Demo.user "h"
      Demo.site).2.queues = [] := by
    decide +kernel
  rcases hrun : removeHostRoute Demo.settings Demo.lost Demo.answers true Demo.user "h"
    Demo.site with ⟨e | _, t⟩
  · rw [hrun] at hqueues
    have hkept := (h _ _ _ _ _ _ _ _ hrun Demo.host rfl).1 .request (by decide)
    rw [show t.queues = [] from hqueues] at hkept
    cases hkept
  · rw [hrun] at hfails
    cases hfails

end OpenVCenter
