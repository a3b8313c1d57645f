import OpenVCenter.Foundations.Regex
import OpenVCenter.Teardown
import Mathlib.Data.Bool.AllAny

set_option relaxedAutoImplicit false
set_option autoImplicit false

/-!
# The permissions of an agent

`agent_permission_pattern` and `agent_write_pattern` of `messaging/queues.py`: RabbitMQ holds what
the agent of a host may configure, write and read against these patterns. The handle of the host is
put into them as it is.

## Main definitions

* `OpenVCenter.Handle` — the handle of a host: letters and digits.
* `OpenVCenter.agentPermissionPattern`, `OpenVCenter.agentWritePattern` — the patterns.
* `OpenVCenter.agentPermissions` — the permissions that `ensure_host_agent_user` sets with them.
* `OpenVCenter.queueBody` — the texts that the part behind the handle goes over.

## Main results

* `OpenVCenter.read_agentPermissionPattern`, `OpenVCenter.read_agentWritePattern` — what the
  patterns stand for, whatever the handle.
* `OpenVCenter.queueName_iff` — a name of a queue is in the language of a handle exactly when it is
  a queue of that handle.
* `OpenVCenter.agentPermissions_exact` — **an agent may use the queues of its host**, and no others.
-/

namespace OpenVCenter

open Regex

/-! ## Patterns -/

/-- `str.isalnum` of a character: the letters and digits of ASCII; beyond ASCII any character. -/
def isAlnum (c : Char) : Bool := c.isAlphanum || decide (128 ≤ c.toNat)

/-- The handle of a host. -/
structure Handle where
  text : String
  nonempty : text ≠ ""
  alnum : ∀ c ∈ text.toList, isAlnum c = true

/-- `_QUEUE_BODY`. -/
def queueBodyPattern : String := "(request|response|agent_status|.*_inventory|.*_metrics)"

/-- `agent_permission_pattern`. -/
def agentPermissionPattern (hostRef : String) : String :=
  "^" ++ hostRef ++ "\\." ++ queueBodyPattern ++ "$"

/-- `agent_write_pattern`. -/
def agentWritePattern (hostRef : String) : String :=
  "^(" ++ hostRef ++ "\\." ++ queueBodyPattern ++ "|amq\\.default|)$"

/-- What RabbitMQ holds of a user in a virtual host. -/
structure Permissions where
  configure : String
  write : String
  read : String

/-- The permissions that `ensure_host_agent_user` sets for the agent of a host. -/
def agentPermissions (shortId : String) : Permissions where
  configure := agentPermissionPattern shortId
  write := agentWritePattern shortId
  read := agentPermissionPattern shortId

/-! ## What the patterns stand for -/

/-- The part behind the handle. -/
def queueBodyRegex : Regex :=
  alt (alt (alt (alt (lits "request".toList) (lits "response".toList))
    (lits "agent_status".toList))
    (seqs (star any :: "_inventory".toList.map lit)))
    (seqs (star any :: "_metrics".toList.map lit))

/-- The texts that it goes over. -/
def queueBody : Language Char :=
  {"request".toList} + {"response".toList} + {"agent_status".toList} +
    oneLine * {"_inventory".toList} + oneLine * {"_metrics".toList}

/-- The expression for the body of a queue's name. -/
lemma denotes_queueBodyRegex : Denotes queueBodyRegex queueBody := by
  have hnames := ((Denotes.lits "request".toList).alt (Denotes.lits "response".toList)).alt
    (Denotes.lits "agent_status".toList)
  have hinventory := Denotes.any_star.seq (Denotes.lits "_inventory".toList)
  have hmetrics := Denotes.any_star.seq (Denotes.lits "_metrics".toList)
  exact (hnames.alt hinventory).alt hmetrics

/-- The queues of a host, as an expression. -/
def ownParts (h : Handle) : List Regex :=
  h.text.toList.map lit ++ [lit '.', queueBodyRegex]

/-- The texts of a handle, a dot, and a text of the part behind it. -/
def ownQueues (h : Handle) : Language Char := {h.text.toList} * ({['.']} * queueBody)

/-- Literals before other expressions. -/
lemma spans_seqs_lits {text : List Char} {rs : List Regex} {p q : Position} :
    spans (seqs (text.map lit ++ rs)) p q ↔ spans (seq (lits text) (seqs rs)) p q := by
  induction text generalizing p with
  | nil =>
    show spans (seqs rs) p q ↔ ∃ m, p = m ∧ spans (seqs rs) m q
    simp
  | cons c text ih =>
    show (∃ m, spans (lit c) p m ∧ spans (seqs (text.map lit ++ rs)) m q) ↔
      ∃ m, (∃ m', spans (lit c) p m' ∧ spans (lits text) m' m) ∧ spans (seqs rs) m q
    constructor
    · rintro ⟨m, hc, h⟩
      obtain ⟨m', htext, hrs⟩ := ih.mp h
      exact ⟨m', ⟨m, hc, htext⟩, hrs⟩
    · rintro ⟨m', ⟨m, hc, htext⟩, hrs⟩
      exact ⟨m, hc, ih.mpr ⟨m', htext, hrs⟩⟩

/-- The expression for a host's own queues. -/
lemma denotes_ownParts (h : Handle) : Denotes (seqs (ownParts h)) (ownQueues h) := by
  intro before behind q
  refine spans_seqs_lits.trans ?_
  have hbody : Denotes (seqs [lit '.', queueBodyRegex]) ({['.']} * queueBody) := by
    have hlast := (Denotes.lit '.').seq (denotes_queueBodyRegex.seq Denotes.empty)
    rwa [mul_one] at hlast
  exact (Denotes.lits h.text.toList).seq hbody before behind q

/-- The characters of a handle stand for themselves in a pattern, and are no dot. -/
lemma isPlain_of_isAlnum {c : Char} (hc : isAlnum c = true) : isPlain c = true ∧ c ≠ '.' := by
  have hspecial : ∀ d ∈ ['\\', '^', '$', '.', '|', '(', ')', '*', '+', '?', '[', ']', '{', '}'],
      isAlnum d = false := List.all_iff_forall_prop.mp (by decide)
  constructor
  · refine decide_eq_true fun hmem => ?_
    rw [hspecial c hmem] at hc
    cases hc
  · rintro rfl
    cases hc

/-- A handle has no dot. -/
lemma Handle.dot_not_mem (h : Handle) : '.' ∉ h.text.toList :=
  fun hdot => (isPlain_of_isAlnum (h.alnum '.' hdot)).2 rfl

/-- The part behind the handle is read as its expression, in any group. -/
lemma readFrom_queueBody (g : Group) (outer : List Group) (pattern : List Char) :
    readFrom ⟨g, outer, false⟩ (("\\." ++ queueBodyPattern).toList ++ pattern) =
      readFrom ⟨(g.add (lit '.')).add queueBodyRegex, outer, false⟩ pattern := rfl

/-- A handle and the part behind it are read as the queues of the host, in any group. -/
lemma readFrom_own (h : Handle) (g : Group) (outer : List Group) (pattern : List Char) :
    readFrom ⟨g, outer, false⟩
        (h.text.toList ++ (("\\." ++ queueBodyPattern).toList ++ pattern)) =
      readFrom ⟨⟨g.complete, (ownParts h).reverse ++ g.parts⟩, outer, false⟩ pattern := by
  rw [readFrom_plain_append (fun c hc => (isPlain_of_isAlnum (h.alnum c hc)).1) rfl,
    readFrom_queueBody]
  simp [Group.add, ownParts]

/-- **The configure and read pattern** of any handle: its queues, between anchors. -/
theorem read_agentPermissionPattern (h : Handle) :
    read (agentPermissionPattern h.text).toList =
      some (seqs (start :: (ownParts h ++ [stop]))) := by
  have hlist : (agentPermissionPattern h.text).toList =
      '^' :: (h.text.toList ++ (("\\." ++ queueBodyPattern).toList ++ ['$'])) := by
    unfold agentPermissionPattern
    simp only [String.toList_append, List.append_assoc]
    rfl
  have hstart : ∀ pattern, read ('^' :: pattern) = readFrom ⟨⟨none, [start]⟩, [], false⟩ pattern :=
    fun _ => rfl
  have hstop : ∀ parts, readFrom ⟨⟨none, parts⟩, [], false⟩ ['$'] =
      some (seqs (stop :: parts).reverse) := fun _ => rfl
  rw [hlist, hstart, readFrom_own, hstop]
  simp

/-- What the write pattern adds. -/
def publishRegex (h : Handle) : Regex :=
  alt (alt (seqs (ownParts h)) (lits "amq.default".toList)) empty

/-- **The write pattern** of any handle. -/
theorem read_agentWritePattern (h : Handle) :
    read (agentWritePattern h.text).toList =
      some (seqs (start :: ([publishRegex h] ++ [stop]))) := by
  have hlist : (agentWritePattern h.text).toList =
      '^' :: '(' :: (h.text.toList ++ (("\\." ++ queueBodyPattern).toList ++
        "|amq\\.default|)$".toList)) := by
    unfold agentWritePattern
    simp only [String.toList_append, List.append_assoc]
    rfl
  have hstart : ∀ pattern, read ('^' :: '(' :: pattern) =
      readFrom ⟨⟨none, []⟩, [⟨none, [start]⟩], false⟩ pattern := fun _ => rfl
  have hrest : ∀ parts, readFrom ⟨⟨none, parts⟩, [⟨none, [start]⟩], false⟩
      "|amq\\.default|)$".toList =
        some (seqs [start,
          alt (alt (seqs parts.reverse) (lits "amq.default".toList)) empty, stop]) :=
    fun _ => rfl
  rw [hlist, hstart, readFrom_own, hrest]
  simp [publishRegex]

/-! ## What the patterns match -/

/-- What a host may configure and read: its own queues. -/
lemma found_agentPermissionPattern (h : Handle) (name : String) :
    Regex.Found (agentPermissionPattern h.text) name ↔ name.toList ∈ ownQueues h :=
  found_anchored (read_agentPermissionPattern h) (denotes_ownParts h)

/-- What it may write: those, and the default exchange. -/
lemma found_agentWritePattern (h : Handle) (name : String) :
    Regex.Found (agentWritePattern h.text) name ↔
      name.toList ∈ ownQueues h ∨ name = "amq.default" ∨ name = "" := by
  have hpublish : Denotes (seqs [publishRegex h]) (ownQueues h + {"amq.default".toList} + 1) := by
    have halt := ((denotes_ownParts h).alt (Denotes.lits "amq.default".toList)).alt Denotes.empty
    have hseq := halt.seq Denotes.empty
    rwa [mul_one] at hseq
  have hname : ∀ w : String, name.toList = w.toList ↔ name = w := fun w => String.toList_inj
  rw [found_anchored (read_agentWritePattern h) hpublish, Language.mem_add, Language.mem_add,
    or_assoc]
  refine or_congr_right (or_congr ?_ ?_)
  · exact hname "amq.default"
  · exact hname ""

/-- Every kind of queue has a name that the part behind the handle goes over. -/
lemma value_mem_queueBody (kind : QueueKind) : kind.value.toList ∈ queueBody := by
  have hsuffix : ∀ (w suffix : List Char), '\n' ∉ w →
      w ++ suffix ∈ (oneLine * {suffix} : Language Char) :=
    fun w suffix hw => Language.mem_mul.mpr ⟨w, hw, suffix, rfl, rfl⟩
  unfold queueBody
  simp only [Language.mem_add]
  cases kind with
  | request => exact Or.inl (Or.inl (Or.inl (Or.inl rfl)))
  | response => exact Or.inl (Or.inl (Or.inl (Or.inr rfl)))
  | agentStatus => exact Or.inl (Or.inl (Or.inr rfl))
  | vmInventory => exact Or.inl (Or.inr (hsuffix "vm".toList _ (by decide)))
  | hostInventory => exact Or.inl (Or.inr (hsuffix "host".toList _ (by decide)))
  | templateInventory => exact Or.inl (Or.inr (hsuffix "template".toList _ (by decide)))
  | isoInventory => exact Or.inl (Or.inr (hsuffix "iso".toList _ (by decide)))
  | vmMetrics => exact Or.inr (hsuffix "vm".toList _ (by decide))
  | hostMetrics => exact Or.inr (hsuffix "host".toList _ (by decide))

/-- Two texts up to their first dot. -/
lemma append_dot_inj {a b c d : List Char} (ha : '.' ∉ a) (hb : '.' ∉ b)
    (h : a ++ '.' :: c = b ++ '.' :: d) : a = b ∧ c = d := by
  induction a generalizing b with
  | nil =>
    cases b with
    | nil => exact ⟨rfl, List.tail_eq_of_cons_eq h⟩
    | cons x b =>
      obtain ⟨rfl, -⟩ := List.cons.inj h
      exact absurd List.mem_cons_self hb
  | cons x a ih =>
    cases b with
    | nil =>
      obtain ⟨rfl, -⟩ := List.cons.inj h
      exact absurd List.mem_cons_self ha
    | cons y b =>
      obtain ⟨rfl, htail⟩ := List.cons.inj h
      obtain ⟨rfl, rfl⟩ := ih (fun hmem => ha (List.mem_cons_of_mem _ hmem))
        (fun hmem => hb (List.mem_cons_of_mem _ hmem)) htail
      exact ⟨rfl, rfl⟩

/-- **A queue of a host is a queue of its own handle only.** -/
lemma queueName_iff (h k : Handle) (kind : QueueKind) :
    (queueName k.text kind).toList ∈ ownQueues h ↔ h.text = k.text := by
  have hname : (queueName k.text kind).toList = k.text.toList ++ '.' :: kind.value.toList := by
    simp [queueName]
  rw [hname]
  constructor
  · intro hmem
    obtain ⟨_, rfl, rest, hrest, heq⟩ := Language.mem_mul.mp hmem
    obtain ⟨_, rfl, body, -, rfl⟩ := Language.mem_mul.mp hrest
    exact String.toList_inj.mp (append_dot_inj h.dot_not_mem k.dot_not_mem heq).1
  · intro heq
    refine Language.mem_mul.mpr ⟨k.text.toList, by rw [heq]; rfl, _, ?_, rfl⟩
    exact Language.mem_mul.mpr ⟨['.'], rfl, _, value_mem_queueBody kind, rfl⟩

/-- No queue of a host is the default exchange. -/
lemma queueName_ne_exchange (k : Handle) (kind : QueueKind) :
    queueName k.text kind ≠ "amq.default" ∧ queueName k.text kind ≠ "" := by
  have hname : (queueName k.text kind).toList = k.text.toList ++ '.' :: kind.value.toList := by
    simp [queueName]
  constructor
  · intro heq
    have hlist : k.text.toList ++ '.' :: kind.value.toList =
        "amq".toList ++ '.' :: "default".toList := by
      rw [← hname, heq]
      rfl
    have hvalue := (append_dot_inj k.dot_not_mem (by decide) hlist).2
    revert hvalue
    cases kind <;> decide
  · intro heq
    rw [heq] at hname
    simpa using congrArg List.length hname

/-- **The patterns of a host** match its own queues and no queue of another, whatever the two
handles and the kind; the write pattern also matches the default exchange, by either of its
names. -/
theorem agentPermissions_exact (h k : Handle) (kind : QueueKind) :
    (Regex.Found (agentPermissions h.text).configure (queueName k.text kind) ↔ h.text = k.text) ∧
    (Regex.Found (agentPermissions h.text).read (queueName k.text kind) ↔ h.text = k.text) ∧
    (Regex.Found (agentPermissions h.text).write (queueName k.text kind) ↔ h.text = k.text) ∧
    Regex.Found (agentPermissions h.text).write "amq.default" ∧
    Regex.Found (agentPermissions h.text).write "" := by
  have hown : Regex.Found (agentPermissionPattern h.text) (queueName k.text kind) ↔
      h.text = k.text := by
    rw [found_agentPermissionPattern, queueName_iff]
  obtain ⟨hdefault, hempty⟩ := queueName_ne_exchange k kind
  refine ⟨hown, hown, ?_, (found_agentWritePattern h _).mpr (Or.inr (Or.inl rfl)),
    (found_agentWritePattern h _).mpr (Or.inr (Or.inr rfl))⟩
  show Regex.Found (agentWritePattern h.text) _ ↔ _
  rw [found_agentWritePattern, queueName_iff]
  simp [hdefault, hempty]

/-- A host. -/
def Demo.left : Handle where
  text := "a1b2c3"
  nonempty := by decide
  alnum := List.all_eq_true.mp (by decide)

/-- The handle of the other host. -/
def Demo.right : Handle where
  text := "a1b2c3d"
  nonempty := by decide
  alnum := List.all_eq_true.mp (by decide)

/-- An agent reads the inventories of its host and not those of a host whose handle is longer. -/
theorem agentPermissions_exact_handles :
    Regex.Found (agentPermissions "a1b2c3").read "a1b2c3.vm_inventory" ∧
      ¬ Regex.Found (agentPermissions "a1b2c3").read "a1b2c3d.vm_inventory" ∧
      Regex.Found (agentPermissions "a1b2c3").write "amq.default" := by
  obtain ⟨-, hown, -, hdefault, -⟩ := agentPermissions_exact Demo.left Demo.left .vmInventory
  obtain ⟨-, hother, -, -, -⟩ := agentPermissions_exact Demo.left Demo.right .vmInventory
  exact ⟨hown.mpr rfl, fun hfound => absurd (hother.mp hfound) (by decide), hdefault⟩

end OpenVCenter
