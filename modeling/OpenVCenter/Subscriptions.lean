import Mathlib.Data.List.AList
import OpenVCenter.Teardown

set_option relaxedAutoImplicit false
set_option autoImplicit false

/-!
# The subscriptions of the worker

`refresh_subscriptions` of `worker/main.py`: a pass forgets the hosts that are gone and subscribes
to the queues of every host that is not consumed yet, on a channel of its own. Each call to the
broker may fail; what fails once the channel is open is caught.

## Main definitions

* `OpenVCenter.Monitor` — what the worker keeps of its hosts, and the channels of its connection.
* `OpenVCenter.SubscribeAnswers` — how the calls of one subscription end.
* `OpenVCenter.subscribeHost`, `OpenVCenter.unsubscribeHost`, `OpenVCenter.refreshSubscriptions` —
  the functions of the worker.
* `OpenVCenter.PassEnds` — how a pass is to end, whichever calls fail.

## Main results

* `OpenVCenter.refreshSubscriptions_wellFormed` — no two hosts have one channel, after any pass.
* `OpenVCenter.passEnds_iff` — **a pass ends as it is to** exactly when no pending host but the last
  fails as its channel is opened.
-/

namespace OpenVCenter

open Effect

variable {ε : Type}

/-! ## The worker -/

/-- `CONSUMED_KINDS`. -/
def consumedKinds : List QueueKind :=
  [.response, .agentStatus, .vmInventory, .hostInventory, .templateInventory, .isoInventory,
    .vmMetrics, .hostMetrics]

/-- A consumer: its channel, its queue, and the host its handler is for. -/
structure Consumer where
  channel : ℕ
  queue : String
  hostId : String

/-- `host_channels` and `_host_last_message_at` by short id, with the channels of the connection,
numbered as they are opened. `attempted` are the calls of `_subscribe_host`. -/
structure Monitor where
  hostChannels : AList fun _ : String => ℕ := ∅
  hostLastMessageAt : AList fun _ : String => ℕ := ∅
  nextChannel : ℕ := 0
  openChannels : List ℕ := []
  queues : List String := []
  consumers : List Consumer := []
  attempted : List String := []

namespace Monitor

/-- A channel is opened. -/
def openChannel (s : Monitor) : Monitor :=
  { s with nextChannel := s.nextChannel + 1, openChannels := s.nextChannel :: s.openChannels }

/-- A channel is closed, and its consumers with it. -/
def closeChannel (channel : ℕ) (s : Monitor) : Monitor :=
  { s with
    openChannels := s.openChannels.filter fun c => decide (c ≠ channel)
    consumers := s.consumers.filter fun x => decide (x.channel ≠ channel) }

/-- A queue is declared: one that is there stays. -/
def declareQueue (name : String) (s : Monitor) : Monitor := { s with queues := s.queues.insert name }

/-- A queue is consumed. -/
def consume (x : Consumer) (s : Monitor) : Monitor := { s with consumers := s.consumers ++ [x] }

/-- Every host has a channel of its own, which has been opened. -/
structure WellFormed (s : Monitor) : Prop where
  own : ∀ h k c, s.hostChannels.lookup h = some c → s.hostChannels.lookup k = some c → h = k
  opened : ∀ h c, s.hostChannels.lookup h = some c → c < s.nextChannel

/-- The worker starts without subscriptions. -/
lemma wellFormed_start : ({} : Monitor).WellFormed := by
  constructor
  · intro h k c hlookup
    cases hlookup
  · intro h c hlookup
    cases hlookup

end Monitor

/-- How the calls of one subscription end, and the clock after them. -/
structure SubscribeAnswers (ε : Type) where
  channel : Answer ε
  setQos : Answer ε
  declare : QueueKind → Answer ε
  consume : QueueKind → Answer ε
  close : Answer ε
  monotonic : ℕ

/-- `await connection.channel()`. -/
def openChannel (answer : Answer ε) : Prog Monitor ε ℕ := do
  let s ← Prog.read
  Prog.call answer Monitor.openChannel
  pure s.nextChannel

/-- `declare_host_queues`. -/
def declareHostQueues (answers : QueueKind → Answer ε) (hostRef : String) : Prog Monitor ε Unit :=
  QueueKind.all.foldlM (fun _ kind =>
    Prog.call (answers kind) (Monitor.declareQueue (queueName hostRef kind))) ()

/-- The consumer of a queue of a host. -/
def hostConsumer (hostId shortId : String) (channel : ℕ) (kind : QueueKind) : Consumer :=
  ⟨channel, queueName shortId kind, hostId⟩

/-- What `_subscribe_host` tries. -/
def consumeHost (answers : SubscribeAnswers ε) (hostId shortId : String) (channel : ℕ) :
    Prog Monitor ε Unit := do
  Prog.call answers.setQos id
  declareHostQueues answers.declare shortId
  consumedKinds.foldlM (fun _ kind => Prog.call (answers.consume kind)
    (Monitor.consume (hostConsumer hostId shortId channel kind))) ()

/-- The `try` of `_subscribe_host`: a channel that something fails on is closed. -/
def tryConsumeHost (answers : SubscribeAnswers ε) (hostId shortId : String) (channel : ℕ) :
    Prog Monitor ε Bool :=
  Prog.recovering
    (do
      consumeHost answers hostId shortId channel
      pure true)
    (do
      Prog.catching (fun _ => true) (Prog.call answers.close (Monitor.closeChannel channel))
      pure false)

/-- `_subscribe_host`. The channel is opened outside the `try`. -/
def subscribeHost (answers : SubscribeAnswers ε) (hostId shortId : String) :
    Prog Monitor ε (Option ℕ) := do
  Prog.modify fun s => { s with attempted := s.attempted ++ [shortId] }
  let channel ← openChannel answers.channel
  let consumed ← tryConsumeHost answers hostId shortId channel
  if consumed then
    Prog.modify fun s =>
      { s with hostLastMessageAt := s.hostLastMessageAt.insert shortId answers.monotonic }
    pure (some channel)
  else pure none

/-- `unsubscribe_host`. -/
def unsubscribeHost (close : Answer ε) (shortId : String) : Prog Monitor ε Unit := do
  Prog.modify fun s => { s with hostLastMessageAt := s.hostLastMessageAt.erase shortId }
  let s ← Prog.read
  Prog.modify fun s => { s with hostChannels := s.hostChannels.erase shortId }
  match s.hostChannels.lookup shortId with
  | some channel =>
    Prog.catching (fun _ => true) (Prog.call close (Monitor.closeChannel channel))
  | none => pure ()

/-- `host_channels.keys() - known_short_ids`. -/
def Monitor.gone (s : Monitor) (hosts : List (String × String)) : List String :=
  s.hostChannels.keys.filter fun h => decide (h ∉ hosts.map Prod.snd)

/-- The known hosts that are not subscribed. -/
def Monitor.pending (s : Monitor) (hosts : List (String × String)) : List (String × String) :=
  hosts.filter fun host => decide (host.2 ∉ s.hostChannels)

/-- One round of the loop over the pending hosts. -/
def subscribePending (answers : String → SubscribeAnswers ε) (host : String × String) :
    Prog Monitor ε Unit := do
  let channel ← subscribeHost (answers host.2) host.1 host.2
  match channel with
  | none => pure ()
  | some channel =>
    Prog.modify fun s => { s with hostChannels := s.hostChannels.insert host.2 channel }

/-- `refresh_subscriptions`. `known` is what `_known_hosts` returns or raises: the identifier and
the short id of each host. -/
def refreshSubscriptions (known : Except ε (List (String × String))) (closes : String → Answer ε)
    (answers : String → SubscribeAnswers ε) : Prog Monitor ε Unit := do
  let hosts ← Prog.ofExcept known
  let s ← Prog.read
  (s.gone hosts).foldlM (fun _ h => unsubscribeHost (closes h) h) ()
  let s ← Prog.read
  (s.pending hosts).foldlM (fun _ host => subscribePending answers host) ()

/-! ## What a subscription does -/

namespace SubscribeAnswers

variable (a : SubscribeAnswers ε)

/-- The channel is opened. -/
def opens : Bool := a.channel.raised.isNone

/-- What is raised once the channel is open. -/
def fault : Option ε :=
  a.setQos.raised.or ((firstRaised a.declare QueueKind.all).or
    (firstRaised a.consume consumedKinds))

/-- No step of the subscription fails. -/
def subscribes : Bool := a.opens && a.fault.isNone

end SubscribeAnswers

section Steps

variable {a : SubscribeAnswers ε} {hostId shortId : String} {channel : ℕ} {s t : Monitor}

/-- The frame of what happens on a channel: the host map stays, and the other channels keep their
consumers. -/
def channelFrame (channel : ℕ) : Frame Monitor where
  rel s t := t.hostChannels = s.hostChannels ∧ t.attempted = s.attempted ∧
    t.nextChannel = s.nextChannel ∧ ∀ x ∈ s.consumers, x.channel ≠ channel → x ∈ t.consumers
  refl _ := ⟨rfl, rfl, rfl, fun _ hx _ => hx⟩
  trans h h' := ⟨h'.1.trans h.1, h'.2.1.trans h.2.1, h'.2.2.1.trans h.2.2.1,
    fun x hx hne => h'.2.2.2 x (h.2.2.2 x hx hne) hne⟩

variable (a hostId shortId) in
/-- Consuming touches one channel. -/
lemma keeps_consumeHost (channel : ℕ) :
    Keeps (channelFrame channel) (consumeHost a hostId shortId channel) := by
  have hdeclare : ∀ kind ∈ QueueKind.all, Keeps (channelFrame channel)
      (Prog.call (a.declare kind) (Monitor.declareQueue (queueName shortId kind))) :=
    fun _ _ => keeps_call fun _ => ⟨rfl, rfl, rfl, fun _ hx _ => hx⟩
  have hconsume : ∀ kind ∈ consumedKinds, Keeps (channelFrame channel)
      (Prog.call (a.consume kind) (Monitor.consume (hostConsumer hostId shortId channel kind))) :=
    fun _ _ => keeps_call fun _ =>
      ⟨rfl, rfl, rfl, fun _ hx _ => List.mem_append_left _ hx⟩
  refine keeps_bind (keeps_call fun s => (channelFrame channel).refl s) fun _ => ?_
  exact keeps_bind (keeps_foldlM (fun _ => hdeclare) ()) fun _ => keeps_foldlM (fun _ => hconsume) ()

/-- So does closing it. -/
lemma keeps_closeChannel (answer : Answer ε) (channel : ℕ) : Keeps (channelFrame channel)
    (Prog.catching (fun _ => true) (Prog.call answer (Monitor.closeChannel channel))) := by
  refine keeps_catching (keeps_call fun s => ⟨rfl, rfl, rfl, fun x hx hne => ?_⟩)
  exact List.mem_filter.mpr ⟨hx, by simpa using hne⟩

/-- The consumers that a sequence of consumes adds. -/
lemma mem_foldl_consume (xs : List Consumer) (s : Monitor) :
    ∀ x ∈ xs, x ∈ (xs.foldl (fun s x => s.consume x) s).consumers := by
  have hconsumers : ∀ (xs : List Consumer) (s : Monitor),
      (xs.foldl (fun s x => s.consume x) s).consumers = s.consumers ++ xs := by
    intro xs
    induction xs with
    | nil => simp
    | cons x xs ih =>
      intro s
      rw [List.foldl_cons, ih]
      simp [Monitor.consume]
  intro x hx
  rw [hconsumers]
  exact List.mem_append_right _ hx

/-- Without an exception all answers take effect. -/
lemma effective_of_firstRaised {α : Type} {answers : α → Answer ε} {l : List α}
    (h : firstRaised answers l = none) : effective answers l = l := by
  induction l with
  | nil => rfl
  | cons x l ih =>
    unfold firstRaised at h
    rw [List.findSome?_cons] at h
    unfold effective
    rcases hx : answers x with _ | ⟨e, _⟩
    · rw [hx] at h
      rw [ih h]
    · rw [hx] at h
      cases h

variable (a hostId shortId channel) in
/-- What is raised once the channel is open. -/
lemma consumeHost_run (s : Monitor) : ∃ t,
    consumeHost a hostId shortId channel s = (Prog.outcome a.fault, t) ∧
      (a.fault = none → ∀ kind ∈ consumedKinds,
        hostConsumer hostId shortId channel kind ∈ t.consumers) := by
  have hdeclare := calls_run a.declare
    (fun kind => Monitor.declareQueue (queueName shortId kind)) QueueKind.all s
  have hconsume := calls_run a.consume
    (fun kind => Monitor.consume (hostConsumer hostId shortId channel kind)) consumedKinds
    ((effective a.declare QueueKind.all).foldl
      (fun s kind => Monitor.declareQueue (queueName shortId kind) s) s)
  have hrest := Prog.outcome_bind_run (f := fun _ => consumedKinds.foldlM (fun _ kind =>
    Prog.call (a.consume kind) (Monitor.consume (hostConsumer hostId shortId channel kind))) ())
    _ hdeclare hconsume
  refine ⟨_, Prog.outcome_bind_run _ (Prog.call_id_run a.setQos s) hrest, fun hfault => ?_⟩
  unfold SubscribeAnswers.fault at hfault
  simp only [Option.or_eq_none_iff] at hfault
  obtain ⟨hqos, hdeclared, hconsumed⟩ := hfault
  rw [hqos, hdeclared, effective_of_firstRaised hconsumed]
  intro kind hkind
  have hmem := mem_foldl_consume (consumedKinds.map (hostConsumer hostId shortId channel))
    ((effective a.declare QueueKind.all).foldl
      (fun s kind => Monitor.declareQueue (queueName shortId kind) s) s)
    _ (List.mem_map_of_mem hkind)
  rwa [List.foldl_map] at hmem

/-- What a subscription leaves, whether it succeeds or not: the host map is as it was, and what
consumed on the older channels still does. -/
structure Attempted (shortId : String) (s t : Monitor) : Prop where
  hostChannels : t.hostChannels = s.hostChannels
  attempted : t.attempted = s.attempted ++ [shortId]
  nextChannel : s.nextChannel ≤ t.nextChannel
  consumers : ∀ x ∈ s.consumers, x.channel < s.nextChannel → x ∈ t.consumers

variable (hostId shortId) in
/-- A channel that is not opened: the exception passes on. -/
lemma subscribeHost_refused (h : a.opens = false) (s : Monitor) :
    ∃ e t, subscribeHost a hostId shortId s = (.error e, t) ∧ Attempted shortId s t := by
  unfold SubscribeAnswers.opens at h
  unfold subscribeHost openChannel Prog.call
  rcases hanswer : a.channel with _ | ⟨e, applied⟩
  · rw [hanswer] at h
    cases h
  · refine ⟨e, _, rfl, ?_⟩
    cases applied
    · exact ⟨rfl, rfl, le_rfl, fun _ hx _ => hx⟩
    · exact ⟨rfl, rfl, Nat.le_succ _, fun _ hx _ => hx⟩

/-- The channel of a subscription is opened. -/
lemma openChannel_run (h : a.opens = true) (s : Monitor) :
    openChannel a.channel s = (.ok s.nextChannel, s.openChannel) := by
  unfold SubscribeAnswers.opens at h
  unfold openChannel Prog.call
  rcases hanswer : a.channel with _ | ⟨e, applied⟩
  · rfl
  · rw [hanswer] at h
    cases h

variable (hostId shortId) in
/-- A step that fails on the channel: the channel is closed, and the host left out. -/
lemma subscribeHost_failed (h : a.opens = true) (hfault : a.fault ≠ none) (s : Monitor) :
    ∃ t, subscribeHost a hostId shortId s = (.ok none, t) ∧ Attempted shortId s t := by
  set began : Monitor := { s with attempted := s.attempted ++ [shortId] } with hbegan
  obtain ⟨e, he⟩ := Option.ne_none_iff_exists'.mp hfault
  obtain ⟨t, hrun, -⟩ := consumeHost_run a hostId shortId s.nextChannel began.openChannel
  have hframe := keeps_consumeHost a hostId shortId s.nextChannel began.openChannel
  have hclosed := keeps_closeChannel a.close s.nextChannel t
  rw [hrun] at hframe
  rw [he] at hrun
  have htry : tryConsumeHost a hostId shortId s.nextChannel began.openChannel = (.ok false,
      (Prog.catching (fun _ => true)
        (Prog.call a.close (Monitor.closeChannel s.nextChannel)) t).2) := by
    obtain ⟨⟨⟩, hclose⟩ :=
      returns_catching (Prog.call a.close (Monitor.closeChannel s.nextChannel)) t
    exact (Prog.recovering_of_error (Prog.bind_run_error hrun)).trans (Prog.bind_run_ok hclose)
  obtain ⟨hmap, hattempted, hnext, hconsumers⟩ :=
    (channelFrame s.nextChannel).trans hframe hclosed
  refine ⟨_, ?_, ⟨hmap, hattempted, ?_, fun x hx hlt => hconsumers x hx (by omega)⟩⟩
  · unfold subscribeHost
    rw [Prog.modify_bind_run, Prog.bind_run_ok (openChannel_run h began), Prog.bind_run_ok htry]
    rfl
  · rw [hnext]
    exact Nat.le_succ _

variable (hostId shortId) in
/-- A subscription that succeeds: its channel is new, and consumes every queue it is to. -/
lemma subscribeHost_subscribed (h : a.subscribes = true) (s : Monitor) :
    ∃ t, subscribeHost a hostId shortId s = (.ok (some s.nextChannel), t) ∧
      Attempted shortId s t ∧ s.nextChannel < t.nextChannel ∧
      ∀ kind ∈ consumedKinds, hostConsumer hostId shortId s.nextChannel kind ∈ t.consumers := by
  unfold SubscribeAnswers.subscribes at h
  rw [Bool.and_eq_true, Option.isNone_iff_eq_none] at h
  set began : Monitor := { s with attempted := s.attempted ++ [shortId] } with hbegan
  obtain ⟨t, hrun, hconsumed⟩ := consumeHost_run a hostId shortId s.nextChannel began.openChannel
  have hframe := keeps_consumeHost a hostId shortId s.nextChannel began.openChannel
  rw [hrun] at hframe
  rw [h.2] at hrun
  obtain ⟨hmap, hattempted, hnext, hconsumers⟩ := hframe
  have hnextChannel : t.nextChannel = s.nextChannel + 1 := hnext
  have htry : tryConsumeHost a hostId shortId s.nextChannel began.openChannel = (.ok true, t) :=
    Prog.recovering_of_ok (Prog.bind_run_ok hrun)
  refine ⟨{ t with hostLastMessageAt := t.hostLastMessageAt.insert shortId a.monotonic }, ?_,
    ⟨hmap, hattempted, by rw [hnextChannel]; exact Nat.le_succ _,
      fun x hx hlt => hconsumers x hx (by omega)⟩, by rw [hnextChannel]; exact Nat.lt_succ_self _,
    hconsumed h.2⟩
  unfold subscribeHost
  rw [Prog.modify_bind_run, Prog.bind_run_ok (openChannel_run h.1 began), Prog.bind_run_ok htry]
  rfl

end Steps

/-! ## The loop over the pending hosts -/

section Loop

variable {answers : String → SubscribeAnswers ε} {closes : String → Answer ε}
  {hosts rest : List (String × String)} {host : String × String} {s t u : Monitor}

/-- What the loop leaves when it has come to these hosts. -/
structure Looped (answers : String → SubscribeAnswers ε) (hosts : List (String × String))
    (s t : Monitor) : Prop where
  wellFormed : t.WellFormed
  attempted : t.attempted = s.attempted ++ hosts.map Prod.snd
  nextChannel : s.nextChannel ≤ t.nextChannel
  consumers : ∀ x ∈ s.consumers, x.channel < s.nextChannel → x ∈ t.consumers
  others : ∀ k, (∀ host ∈ hosts, host.2 = k → (answers k).subscribes = false) →
    t.hostChannels.lookup k = s.hostChannels.lookup k
  subscribed : ∀ host ∈ hosts, (answers host.2).subscribes = true →
    ∃ c < t.nextChannel, s.nextChannel ≤ c ∧ t.hostChannels.lookup host.2 = some c ∧
      ∃ hostId, (hostId, host.2) ∈ hosts ∧
        ∀ kind ∈ consumedKinds, hostConsumer hostId host.2 c kind ∈ t.consumers

/-- A loop over no hosts. -/
lemma Looped.nil (hs : s.WellFormed) : Looped answers [] s s where
  wellFormed := hs
  attempted := by simp
  nextChannel := le_rfl
  consumers _ hx _ := hx
  others _ _ := rfl
  subscribed host hhost := absurd hhost List.not_mem_nil

/-- The loop goes on. -/
lemma Looped.cons (h : Looped answers [host] s t) (h' : Looped answers rest t u) :
    Looped answers (host :: rest) s u where
  wellFormed := h'.wellFormed
  attempted := by rw [h'.attempted, h.attempted, List.append_assoc]; rfl
  nextChannel := h.nextChannel.trans h'.nextChannel
  consumers x hx hlt := h'.consumers x (h.consumers x hx hlt) (hlt.trans_le h.nextChannel)
  others k hk := by
    rw [h'.others k fun other hother => hk other (List.mem_cons_of_mem _ hother)]
    exact h.others k fun other hother => hk other (by
      rw [List.mem_singleton.mp hother]
      exact List.mem_cons_self)
  subscribed other hother hsub := by
    by_cases hlater : ∃ later ∈ rest, later.2 = other.2
    · obtain ⟨later, hmem, heq⟩ := hlater
      obtain ⟨c, hc, hle, hlookup, hostId, hid, hconsumers⟩ :=
        h'.subscribed later hmem (by rwa [heq])
      rw [heq] at hlookup hid hconsumers
      exact ⟨c, hc, h.nextChannel.trans hle, hlookup, hostId, List.mem_cons_of_mem _ hid,
        hconsumers⟩
    · -- no later host has this short id, so what this round has left stays
      obtain rfl : other = host := by
        refine (List.mem_cons.mp hother).resolve_right fun hmem => hlater ⟨other, hmem, rfl⟩
      obtain ⟨c, hc, hle, hlookup, hostId, hid, hconsumers⟩ :=
        h.subscribed other List.mem_cons_self hsub
      refine ⟨c, hc.trans_le h'.nextChannel, hle, ?_, hostId, ?_, fun kind hkind => ?_⟩
      · rw [h'.others _ fun later hmem heq => absurd ⟨later, hmem, heq⟩ hlater]
        exact hlookup
      · rw [List.mem_singleton.mp hid]
        exact List.mem_cons_self
      · exact h'.consumers _ (hconsumers kind hkind) hc

/-- The host map with a new channel in it. -/
lemma Monitor.WellFormed.insert (hs : s.WellFormed) (ht : t.hostChannels = s.hostChannels)
    (hlt : s.nextChannel < t.nextChannel) (h : String) :
    ({ t with hostChannels := t.hostChannels.insert h s.nextChannel } : Monitor).WellFormed := by
  have hlookup : ∀ k c, (t.hostChannels.insert h s.nextChannel).lookup k = some c →
      k = h ∧ c = s.nextChannel ∨ k ≠ h ∧ s.hostChannels.lookup k = some c := by
    intro k c hk
    by_cases heq : k = h
    · subst heq
      rw [AList.lookup_insert] at hk
      exact Or.inl ⟨rfl, (Option.some.inj hk).symm⟩
    · rw [AList.lookup_insert_ne heq, ht] at hk
      exact Or.inr ⟨heq, hk⟩
  constructor
  · intro k l c hk hl
    rcases hlookup k c hk with ⟨rfl, rfl⟩ | ⟨-, hk⟩
    · rcases hlookup l s.nextChannel hl with ⟨rfl, -⟩ | ⟨-, hl⟩
      · rfl
      · exact absurd (hs.opened l _ hl) (lt_irrefl _)
    · rcases hlookup l c hl with ⟨-, rfl⟩ | ⟨-, hl⟩
      · exact absurd (hs.opened k _ hk) (lt_irrefl _)
      · exact hs.own k l c hk hl
  · intro k c hk
    rcases hlookup k c hk with ⟨-, rfl⟩ | ⟨-, hk⟩
    · exact hlt
    · exact (hs.opened k c hk).trans hlt

/-- A host that is not subscribed leaves the host map as it is. -/
lemma Attempted.looped (hs : s.WellFormed) (h : Attempted host.2 s t)
    (hsub : (answers host.2).subscribes = false) : Looped answers [host] s t where
  wellFormed := by
    refine ⟨fun k l c => ?_, fun k c hk => ?_⟩
    · rw [h.hostChannels]
      exact hs.own k l c
    · rw [h.hostChannels] at hk
      exact (hs.opened k c hk).trans_le h.nextChannel
  attempted := h.attempted
  nextChannel := h.nextChannel
  consumers := h.consumers
  others k _ := by rw [h.hostChannels]
  subscribed other hother hyes := by
    rw [List.mem_singleton.mp hother, hsub] at hyes
    cases hyes

variable (answers) in
/-- **One round of the loop**: it raises when the channel is not opened, and goes on otherwise. -/
lemma subscribePending_run (hs : s.WellFormed) (host : String × String) :
    ∃ r t, subscribePending answers host s = (r, t) ∧ Looped answers [host] s t ∧
      if (answers host.2).opens then r = .ok () else ∃ e, r = .error e := by
  by_cases hopens : (answers host.2).opens = true
  · by_cases hsub : (answers host.2).subscribes = true
    · obtain ⟨t, hrun, hattempted, hlt, hconsumers⟩ :=
        subscribeHost_subscribed host.1 host.2 hsub s
      refine ⟨_, _, Prog.bind_run_ok hrun, ?_, by rw [if_pos hopens]; rfl⟩
      exact {
        wellFormed := hs.insert hattempted.hostChannels hlt host.2
        attempted := hattempted.attempted
        nextChannel := hattempted.nextChannel
        consumers := hattempted.consumers
        others := fun k hk => by
          have hne : k ≠ host.2 := by
            rintro rfl
            have hno := hk host List.mem_cons_self rfl
            rw [hsub] at hno
            cases hno
          exact (AList.lookup_insert_ne hne).trans (by rw [hattempted.hostChannels])
        subscribed := fun other hother _ => by
          rw [List.mem_singleton.mp hother]
          exact ⟨s.nextChannel, hlt, le_rfl, AList.lookup_insert _, host.1, List.mem_cons_self,
            hconsumers⟩ }
    · have hfault : (answers host.2).fault ≠ none := by
        intro hnone
        exact hsub (by rw [SubscribeAnswers.subscribes, hopens, hnone]; rfl)
      obtain ⟨t, hrun, hattempted⟩ :=
        subscribeHost_failed host.1 host.2 hopens hfault s
      exact ⟨_, t, Prog.bind_run_ok hrun, hattempted.looped hs (Bool.eq_false_iff.mpr hsub),
        by rw [if_pos hopens]⟩
  · have hclosed := Bool.eq_false_iff.mpr hopens
    obtain ⟨e, t, hrun, hattempted⟩ :=
      subscribeHost_refused host.1 host.2 hclosed s
    refine ⟨_, t, Prog.bind_run_error hrun, hattempted.looped hs ?_, by
      rw [if_neg hopens]; exact ⟨e, rfl⟩⟩
    rw [SubscribeAnswers.subscribes, hclosed, Bool.false_and]

/-- The hosts that the loop comes to: up to the first whose channel is not opened. -/
def reached (answers : String → SubscribeAnswers ε) :
    List (String × String) → List (String × String)
  | [] => []
  | host :: rest => host :: if (answers host.2).opens then reached answers rest else []

variable (answers) in
/-- **The loop**, by the hosts it comes to. -/
lemma subscribeAll_run (hs : s.WellFormed) (hosts : List (String × String)) :
    ∃ r t, hosts.foldlM (fun _ host => subscribePending answers host) () s = (r, t) ∧
      Looped answers (reached answers hosts) s t := by
  induction hosts generalizing s with
  | nil => exact ⟨_, s, rfl, Looped.nil hs⟩
  | cons host rest ih =>
    obtain ⟨r, t, hrun, hround, hopens⟩ := subscribePending_run answers hs host
    rw [List.foldlM_cons, reached]
    by_cases h : (answers host.2).opens = true
    · rw [if_pos h] at hopens ⊢
      rw [hopens] at hrun
      obtain ⟨r', u, hrest, hlooped⟩ := ih hround.wellFormed
      exact ⟨r', u, (Prog.bind_run_ok hrun).trans hrest, hround.cons hlooped⟩
    · rw [if_neg h] at hopens ⊢
      obtain ⟨e, rfl⟩ := hopens
      exact ⟨_, t, Prog.bind_run_error hrun, hround⟩

/-- The loop comes to every host when no channel but the last fails to open. -/
lemma length_reached_iff (hosts : List (String × String)) :
    (reached answers hosts).length = hosts.length ↔
      ∀ host ∈ hosts.dropLast, (answers host.2).opens = true := by
  induction hosts with
  | nil => simp [reached]
  | cons host rest ih =>
    cases rest with
    | nil =>
      simp [reached]
    | cons next rest =>
      rw [reached, List.dropLast_cons_cons, List.forall_mem_cons, ← ih]
      by_cases h : (answers host.2).opens = true
      · simp [h]
      · simp [h]

/-- The hosts that are reached come first. -/
lemma reached_isPrefix (hosts : List (String × String)) : reached answers hosts <+: hosts := by
  induction hosts with
  | nil => exact List.prefix_rfl
  | cons host rest ih =>
    rw [reached]
    split_ifs
    · exact (List.prefix_cons_inj host).mpr ih
    · exact (List.prefix_cons_inj host).mpr (List.nil_prefix)

end Loop

/-! ## The hosts that are gone -/

section Gone

variable {closes : String → Answer ε} {hosts : List (String × String)} {gone : List String}
  {s t : Monitor}

/-- What is left when some hosts have been forgotten. -/
structure Forgotten (gone : List String) (s t : Monitor) : Prop where
  lookup : ∀ k, t.hostChannels.lookup k = if k ∈ gone then none else s.hostChannels.lookup k
  attempted : t.attempted = s.attempted
  nextChannel : t.nextChannel = s.nextChannel
  consumers : ∀ x ∈ s.consumers, (∀ h ∈ gone, s.hostChannels.lookup h ≠ some x.channel) →
    x ∈ t.consumers

/-- A host is unsubscribed whatever its channel answers. -/
lemma unsubscribeHost_run (close : Answer ε) (shortId : String) (s : Monitor) :
    ∃ t, unsubscribeHost close shortId s = (.ok (), t) ∧ Forgotten [shortId] s t := by
  set dropped : Monitor := { s with
    hostLastMessageAt := s.hostLastMessageAt.erase shortId
    hostChannels := s.hostChannels.erase shortId } with hdropped
  have hlookup : ∀ k, dropped.hostChannels.lookup k =
      if k ∈ [shortId] then none else s.hostChannels.lookup k := by
    intro k
    simp only [List.mem_singleton]
    split_ifs with heq
    · rw [heq]
      exact AList.lookup_erase _ _
    · exact AList.lookup_erase_ne heq
  cases hchannel : s.hostChannels.lookup shortId with
  | none =>
    refine ⟨dropped, ?_, ⟨hlookup, rfl, rfl, fun _ hx _ => hx⟩⟩
    unfold unsubscribeHost
    simp only [Prog.modify_bind_run, Prog.read_bind_run, hchannel]
    rfl
  | some channel =>
    obtain ⟨⟨⟩, hclose⟩ :=
      returns_catching (Prog.call close (Monitor.closeChannel channel)) dropped
    obtain ⟨hmap, hattempted, hnext, hconsumers⟩ := keeps_closeChannel close channel dropped
    refine ⟨_, ?_, ⟨fun k => ?_, hattempted, hnext, fun x hx hother => ?_⟩⟩
    · unfold unsubscribeHost
      simp only [Prog.modify_bind_run, Prog.read_bind_run, hchannel]
      exact hclose
    · rw [hmap]
      exact hlookup k
    · refine hconsumers x hx fun heq => hother shortId List.mem_cons_self ?_
      rw [hchannel, heq]

/-- **The hosts that are gone are forgotten**, whether their channels close or not. -/
lemma unsubscribeAll_run (closes : String → Answer ε) (gone : List String) (s : Monitor) :
    ∃ t, gone.foldlM (fun _ h => unsubscribeHost (closes h) h) () s = (.ok (), t) ∧
      Forgotten gone s t := by
  induction gone generalizing s with
  | nil => exact ⟨s, rfl, ⟨fun _ => rfl, rfl, rfl, fun _ hx _ => hx⟩⟩
  | cons h gone ih =>
    obtain ⟨t, hrun, hone⟩ := unsubscribeHost_run (closes h) h s
    obtain ⟨u, hrest, hall⟩ := ih t
    refine ⟨u, (Prog.bind_run_ok hrun).trans hrest, ⟨fun k => ?_,
      hall.attempted.trans hone.attempted, hall.nextChannel.trans hone.nextChannel,
      fun x hx hother => ?_⟩⟩
    · rw [hall.lookup, hone.lookup]
      by_cases hk : k ∈ gone
      · simp [hk]
      · simp [hk]
    · refine hall.consumers x (hone.consumers x hx fun k hk => ?_) fun k hk => ?_
      · rw [List.mem_singleton.mp hk]
        exact hother h List.mem_cons_self
      · rw [hone.lookup]
        split_ifs
        · exact Option.some_ne_none _ |>.symm
        · exact hother k (List.mem_cons_of_mem _ hk)

/-- What is left is well formed. -/
lemma Forgotten.wellFormed (h : Forgotten gone s t) (hs : s.WellFormed) : t.WellFormed := by
  have hlookup : ∀ k c, t.hostChannels.lookup k = some c → s.hostChannels.lookup k = some c := by
    intro k c hk
    rw [h.lookup] at hk
    split_ifs at hk
    exact hk
  refine ⟨fun k l c hk hl => hs.own k l c (hlookup k c hk) (hlookup l c hl), fun k c hk => ?_⟩
  rw [h.nextChannel]
  exact hs.opened k c (hlookup k c hk)

/-- The hosts to be forgotten. -/
lemma mem_gone {k : String} :
    k ∈ s.gone hosts ↔ k ∈ s.hostChannels ∧ k ∉ hosts.map Prod.snd := by
  unfold Monitor.gone
  rw [List.mem_filter, decide_eq_true_eq, AList.mem_keys]

/-- After the hosts that are gone, the host map has the known ones that were subscribed. -/
lemma Forgotten.lookup_gone (h : Forgotten (s.gone hosts) s t) (k : String) :
    t.hostChannels.lookup k =
      if k ∈ hosts.map Prod.snd then s.hostChannels.lookup k else none := by
  rw [h.lookup]
  by_cases hknown : k ∈ hosts.map Prod.snd
  · rw [if_pos hknown, if_neg fun hgone => (mem_gone.mp hgone).2 hknown]
  · rw [if_neg hknown]
    by_cases hmem : k ∈ s.hostChannels
    · rw [if_pos (mem_gone.mpr ⟨hmem, hknown⟩)]
    · rw [if_neg fun hgone => hmem (mem_gone.mp hgone).1]
      exact AList.lookup_eq_none.mpr hmem

/-- Forgetting them leaves the pending ones. -/
lemma Forgotten.pending (h : Forgotten (s.gone hosts) s t) : t.pending hosts = s.pending hosts := by
  refine List.filter_congr fun host hhost => ?_
  rw [decide_eq_decide, ← AList.lookup_eq_none, ← AList.lookup_eq_none, h.lookup_gone,
    if_pos (List.mem_map_of_mem hhost)]

end Gone

/-! ## A pass -/

section Pass

variable {answers : String → SubscribeAnswers ε} {closes : String → Answer ε}
  {hosts : List (String × String)} {s t : Monitor}

/-- How a pass is to end: every pending host has been attempted, and the subscribed hosts are the
known ones that were subscribed or whose subscription succeeded, each with a channel of its own.
The former keep their channel and its consumers; the new channels consume the queues of their
host. -/
structure PassEnds (answers : String → SubscribeAnswers ε) (hosts : List (String × String))
    (s t : Monitor) : Prop where
  attempted : t.attempted = s.attempted ++ (s.pending hosts).map Prod.snd
  subscribed : ∀ h, h ∈ t.hostChannels ↔
    h ∈ hosts.map Prod.snd ∧ (h ∈ s.hostChannels ∨ (answers h).subscribes = true)
  own : ∀ h k c, t.hostChannels.lookup h = some c → t.hostChannels.lookup k = some c → h = k
  kept : ∀ h ∈ hosts.map Prod.snd, h ∈ s.hostChannels →
    t.hostChannels.lookup h = s.hostChannels.lookup h ∧
      ∀ x ∈ s.consumers, s.hostChannels.lookup h = some x.channel → x ∈ t.consumers
  consumed : ∀ h c, t.hostChannels.lookup h = some c → h ∉ s.hostChannels →
    ∃ hostId, (hostId, h) ∈ hosts ∧
      ∀ kind ∈ consumedKinds, hostConsumer hostId h c kind ∈ t.consumers

/-- A pass: the hosts that are gone are forgotten, and the loop comes to some of the pending ones. -/
lemma refreshSubscriptions_run (hs : s.WellFormed) (closes : String → Answer ε)
    (answers : String → SubscribeAnswers ε) (hosts : List (String × String)) :
    ∃ u, Forgotten (s.gone hosts) s u ∧
      Looped answers (reached answers (s.pending hosts)) u
        (refreshSubscriptions (.ok hosts) closes answers s).2 := by
  obtain ⟨u, hforget, hgone⟩ := unsubscribeAll_run closes (s.gone hosts) s
  obtain ⟨r, t, hloop, hlooped⟩ :=
    subscribeAll_run answers (hgone.wellFormed hs) (u.pending hosts)
  have hrun : refreshSubscriptions (.ok hosts) closes answers s = (r, t) := by
    unfold refreshSubscriptions
    rw [Prog.ofExcept_ok, Prog.pure_bind_run, Prog.read_bind_run, Prog.bind_run_ok hforget]
    exact hloop
  rw [hgone.pending] at hlooped
  exact ⟨u, hgone, by rwa [hrun]⟩

/-- **No two hosts have one channel** after a pass, whichever calls fail. -/
theorem refreshSubscriptions_wellFormed (hs : s.WellFormed)
    (known : Except ε (List (String × String))) :
    (refreshSubscriptions known closes answers s).2.WellFormed := by
  cases known with
  | error e => exact hs
  | ok hosts =>
    obtain ⟨u, -, hlooped⟩ := refreshSubscriptions_run hs closes answers hosts
    exact hlooped.wellFormed

/-- A pass that has come to every pending host ends as it is to.

**Proof sketch.** Put the two halves of a pass together: the first has forgotten the hosts that are
gone (`Forgotten`), the loop has gone through the pending ones (`Looped`). A host is subscribed
afterwards if it was and is still listed, or if it is pending and its channel answers; its consumers
are those of its own channel. -/
lemma Looped.passEnds {u : Monitor} (hs : s.WellFormed) (hgone : Forgotten (s.gone hosts) s u)
    (h : Looped answers (s.pending hosts) u t) : PassEnds answers hosts s t := by
  have hpending : ∀ host, host ∈ s.pending hosts ↔ host ∈ hosts ∧ host.2 ∉ s.hostChannels := by
    intro host
    unfold Monitor.pending
    rw [List.mem_filter, decide_eq_true_eq]
  -- the hosts that the loop does not subscribe are as the first half has left them
  have hothers : ∀ k, k ∈ s.hostChannels ∨ k ∉ hosts.map Prod.snd ∨
      (answers k).subscribes = false → t.hostChannels.lookup k =
        if k ∈ hosts.map Prod.snd then s.hostChannels.lookup k else none := by
    intro k hk
    rw [← hgone.lookup_gone]
    refine h.others k fun host hhost heq => ?_
    obtain ⟨hmem, hnew⟩ := (hpending host).mp hhost
    rw [heq] at hnew
    rcases hk with hold | hunknown | hno
    · exact absurd hold hnew
    · exact absurd (heq ▸ List.mem_map_of_mem hmem) hunknown
    · exact hno
  have hnewly : ∀ k, k ∈ hosts.map Prod.snd → k ∉ s.hostChannels →
      (answers k).subscribes = true → ∃ c, t.hostChannels.lookup k = some c ∧
        ∃ hostId, (hostId, k) ∈ hosts ∧
          ∀ kind ∈ consumedKinds, hostConsumer hostId k c kind ∈ t.consumers := by
    intro k hknown hnew hsub
    obtain ⟨host, hhost, rfl⟩ := List.mem_map.mp hknown
    obtain ⟨c, -, -, hlookup, hostId, hid, hconsumers⟩ :=
      h.subscribed host ((hpending host).mpr ⟨hhost, hnew⟩) hsub
    exact ⟨c, hlookup, hostId, ((hpending _).mp hid).1, hconsumers⟩
  constructor
  · rw [h.attempted, hgone.attempted]
  · intro k
    rw [← AList.lookup_isSome]
    by_cases hnewly' : k ∈ hosts.map Prod.snd ∧ k ∉ s.hostChannels ∧ (answers k).subscribes = true
    · obtain ⟨c, hlookup, -⟩ := hnewly k hnewly'.1 hnewly'.2.1 hnewly'.2.2
      rw [hlookup]
      simp [hnewly'.1, hnewly'.2.2]
    · rw [hothers k (by
        rw [Bool.eq_false_iff]
        tauto)]
      split_ifs with hknown
      · rw [AList.lookup_isSome]
        tauto
      · simp [hknown]
  · exact h.wellFormed.own
  · intro k hknown hold
    refine ⟨(hothers k (Or.inl hold)).trans (if_pos hknown), fun x hx hchannel => ?_⟩
    refine h.consumers x (hgone.consumers x hx fun l hl heq => ?_) ?_
    · have hsame := hs.own l k x.channel heq hchannel
      exact (mem_gone.mp hl).2 (hsame ▸ hknown)
    · rw [hgone.nextChannel]
      exact hs.opened k _ hchannel
  · intro k c hlookup hnew
    have hsub : k ∈ hosts.map Prod.snd ∧ (answers k).subscribes = true := by
      by_contra hno
      rw [hothers k (by
        rw [Bool.eq_false_iff]
        tauto), AList.lookup_eq_none.mpr hnew, ite_self] at hlookup
      cases hlookup
    obtain ⟨c', hlookup', hconsumers⟩ := hnewly k hsub.1 hnew hsub.2
    rw [hlookup] at hlookup'
    obtain rfl := Option.some.inj hlookup'
    exact hconsumers

/-- **A pass ends as it is to**, whichever calls fail, exactly when no pending host but the last
fails as its channel is opened. -/
theorem passEnds_iff (hs : s.WellFormed) (closes : String → Answer ε)
    (answers : String → SubscribeAnswers ε) (hosts : List (String × String)) :
    PassEnds answers hosts s (refreshSubscriptions (.ok hosts) closes answers s).2 ↔
      ∀ host ∈ (s.pending hosts).dropLast, (answers host.2).opens = true := by
  obtain ⟨u, hgone, hlooped⟩ := refreshSubscriptions_run hs closes answers hosts
  rw [← length_reached_iff]
  constructor
  · intro h
    have hattempted := hlooped.attempted
    rw [h.attempted, hgone.attempted, List.append_cancel_left_eq] at hattempted
    simpa using (congrArg List.length hattempted).symm
  · intro h
    rw [(reached_isPrefix (s.pending hosts)).eq_of_length h] at hlooped
    exact hlooped.passEnds hs hgone

end Pass

namespace Demo

/-- A subscription that succeeds. -/
def subscribed : SubscribeAnswers String := ⟨.done, .done, fun _ => .done, fun _ => .done, .done, 0⟩

/-- A subscription whose channel is not opened. -/
def refused : SubscribeAnswers String := { subscribed with channel := .failed "closed" false }

/-- The first of two hosts cannot be subscribed. -/
def firstRefused (h : String) : SubscribeAnswers String := if h = "a" then refused else subscribed

end Demo

/-- The last host of a pass may be refused its channel. -/
theorem passEnds_iff_refused :
    PassEnds Demo.firstRefused [("2", "b"), ("1", "a")] {}
      (refreshSubscriptions (.ok [("2", "b"), ("1", "a")]) (fun _ => .done)
        Demo.firstRefused {}).2 :=
  (passEnds_iff Monitor.wellFormed_start _ _ _).mpr (by decide)

/-- A host whose channel is not opened keeps the next one from being attempted. -/
theorem passEnds_counterexample :
    ¬ PassEnds Demo.firstRefused [("1", "a"), ("2", "b")] {}
      (refreshSubscriptions (.ok [("1", "a"), ("2", "b")]) (fun _ => .done)
        Demo.firstRefused {}).2 := by
  intro h
  exact absurd h.attempted (by decide)

end OpenVCenter
