import Mathlib.Data.Prod.Lex
import OpenVCenter.Foundations.Base64
import OpenVCenter.Foundations.Keyset
import OpenVCenter.Datetime
import OpenVCenter.Session

set_option relaxedAutoImplicit false
set_option autoImplicit false

/-!
# Listing the audit log

`list_events` of `services/audit.py`: newest first, a page at a time, from the event that a cursor
names.

## Main definitions

* `OpenVCenter.ListedEvent` — an event with its timestamp and identifier as Python has them.
* `OpenVCenter.encodeCursor`, `OpenVCenter.decodeCursor` — the cursor of an event.
* `OpenVCenter.AuditFilter`, `OpenVCenter.listEvents` — a page of the matching events.

## Main results

* `OpenVCenter.decodeCursor_encodeCursor` — a cursor names its event.
* `OpenVCenter.walk_listEvents` — **the pages visit every matching event once**.
-/

namespace OpenVCenter

/-! ## Events -/

/-- An event as it is loaded: its key is a UUID, and its timestamp an aware `datetime`. -/
structure ListedEvent where
  row : AuditEvent
  uuid : Uuid
  timestamp : Datetime
  id_eq : row.id = String.ofList uuid.text
  aware : timestamp.utcoffset.isSome = true
  occurredAt_eq : row.occurredAt = timestamp.instant

namespace ListedEvent

/-- What PostgreSQL compares of two events: the instant, then the identifier. -/
def key (e : ListedEvent) : Time ×ₗ Uuid := toLex (e.row.occurredAt, e.uuid)

end ListedEvent

/-! ## Cursors -/

/-- `encode_cursor`. The padding of the base64 text is stripped. -/
def encodeCursor (e : ListedEvent) : String :=
  let raw := String.ofList e.timestamp.isoformat ++ "|" ++ e.row.id
  String.ofList (Base64.encode raw.toByteArray.data.toList)

/-- `ApiError("INVALID", "Invalid audit cursor")`. -/
def invalidCursor : Raised :=
  .apiError { code := "INVALID", message := "Invalid audit cursor" }

/-- `decode_cursor`. -/
def decodeCursor (other : OtherTexts) (cursor : String) : Except Raised (Datetime × Uuid) :=
  match Base64.decode (cursor.toList ++ Base64.padding cursor.toList.length) with
  | none => .error invalidCursor
  | some bytes =>
    match String.fromUTF8? ⟨bytes.toArray⟩ with
    | none => .error invalidCursor
    | some raw =>
      match raw.toList.dropWhile fun c => decide (c ≠ '|') with
      | [] => .error invalidCursor
      | _ :: eventId =>
        match fromisoformat other (raw.toList.takeWhile fun c => decide (c ≠ '|')),
          parseUuid other eventId with
        | some occurredAt, some eventId =>
          if occurredAt.utcoffset.isNone then .error invalidCursor else .ok (occurredAt, eventId)
        | _, _ => .error invalidCursor

/-! ## Listing -/

/-- `AuditFilter`. -/
structure AuditFilter where
  actor : Option String := none
  action : Option String := none
  targetType : Option String := none
  targetId : Option String := none
  hostId : Option String := none
  clusterId : Option String := none
  outcome : Option String := none
  since : Option Datetime := none
  until_ : Option Datetime := none
  q : Option String := none

/-- The text of an outcome. -/
def AuditOutcome.name : AuditOutcome → String
  | .pending => "pending"
  | .succeeded => "succeeded"
  | .failed => "failed"
  | .timeout => "timeout"

namespace AuditFilter

/-- A condition of the query that is there when the filter has a value. -/
def cond {α : Type} (value : Option α) (test : α → Bool) : Bool := value.all test

/-- The conditions of the query. `ilike` is PostgreSQL's `ILIKE`: the text, then the pattern. -/
def matchesRow (ilike : String → String → Bool) (flt : AuditFilter) (e : AuditEvent) : Bool :=
  let like (text : Option String) (part : String) : Bool := text.any fun t => ilike t s!"%{part}%"
  let name : Option String := match e.targetName with
    | .str s => some s
    | _ => none
  cond (nonEmpty flt.actor) (fun a => like e.actorEmail a || like e.actorName a) &&
  cond (nonEmpty flt.action) (fun a => decide (e.action = a)) &&
  cond (nonEmpty flt.targetType) (fun t => decide (e.targetType = t)) &&
  cond (nonEmpty flt.targetId) (fun t => decide (e.targetId = some t)) &&
  cond (nonEmpty flt.hostId) (fun h => decide (e.hostId = some h)) &&
  cond (nonEmpty flt.clusterId) (fun c => decide (e.clusterId = some c)) &&
  cond (nonEmpty flt.outcome) (fun o => decide (e.outcome.name = o)) &&
  cond flt.since (fun t => decide (t.instant ≤ e.occurredAt)) &&
  cond flt.until_ (fun t => decide (e.occurredAt < t.instant)) &&
  cond (nonEmpty flt.q) fun q =>
    like name q || like e.actorEmail q || like e.actorName q

end AuditFilter

section Listing

variable (other : OtherTexts) (ilike : String → String → Bool) (events : List ListedEvent)
  (flt : AuditFilter) (limit : ℕ)

/-- The events of the query. -/
def matching : List ListedEvent := events.filter fun e => flt.matchesRow ilike e.row

/-- The rows of the query, `ORDER BY occurred_at DESC, id DESC LIMIT limit`. -/
def newestFirst (limit : ℕ) (rows : List ListedEvent) : List ListedEvent :=
  (Keyset.descending ListedEvent.key rows).take limit

/-- The rows of a page, and the cursor of the next one. -/
def fetchPage (rows : List ListedEvent) : List ListedEvent × Option String :=
  let rows := newestFirst (limit + 1) rows
  if limit < rows.length then
    let rows := rows.take limit
    (rows, rows.getLast?.map encodeCursor)
  else (rows, none)

/-- `list_events`. -/
def listEvents (cursor : Option String) : Except Raised (List ListedEvent × Option String) :=
  let stmt := matching ilike events flt
  match nonEmpty cursor with
  | some cursor => do
    let (occurredAt, eventId) ← decodeCursor other cursor
    pure (fetchPage limit
      (stmt.filter fun e => decide (e.key < toLex (occurredAt.instant, eventId))))
  | none => pure (fetchPage limit stmt)

end Listing

/-! ## Cursors name their events -/

/-- The text of a timestamp has no separator of the cursor. -/
private lemma bar_not_mem_isoformat (d : Datetime) : ∀ c ∈ d.isoformat, c ≠ '|' :=
  d.ne_of_mem_isoformat (by decide)

/-- **A cursor names its event.** -/
theorem decodeCursor_encodeCursor (other : OtherTexts) (e : ListedEvent) :
    decodeCursor other (encodeCursor e) = .ok (e.timestamp, e.uuid) := by
  have hbytes : ∀ raw : String,
      String.fromUTF8? ⟨raw.toByteArray.data.toList.toArray⟩ = some raw := by
    intro raw
    unfold String.fromUTF8?
    rw [dif_pos raw.isValidUTF8]
    rfl
  have hraw : (String.ofList e.timestamp.isoformat ++ "|" ++ e.row.id).toList =
      e.timestamp.isoformat ++ '|' :: e.uuid.text := by
    rw [e.id_eq]
    simp
  have hts : (e.timestamp.isoformat ++ '|' :: e.uuid.text).takeWhile
      (fun c => decide (c ≠ '|')) = e.timestamp.isoformat := by
    rw [List.takeWhile_append_of_pos fun c hc => by
      simpa using bar_not_mem_isoformat e.timestamp c hc]
    simp
  have hid : (e.timestamp.isoformat ++ '|' :: e.uuid.text).dropWhile
      (fun c => decide (c ≠ '|')) = '|' :: e.uuid.text := by
    rw [List.dropWhile_append_of_pos fun c hc => by
      simpa using bar_not_mem_isoformat e.timestamp c hc]
    simp
  have haware : e.timestamp.utcoffset.isNone = false := by
    rw [Option.isNone_eq_false_iff]
    exact e.aware
  unfold decodeCursor encodeCursor
  simp only [String.toList_ofList, Base64.decode_encode, hbytes, hraw, hts, hid,
    fromisoformat_isoformat, parseUuid_text, haware, Bool.false_eq_true, if_false]

/-! ## The pages -/

section Pages

variable {other : OtherTexts} {ilike : String → String → Bool} {events : List ListedEvent}
  {flt : AuditFilter} {limit : ℕ}

/-- A cursor is no empty text. -/
lemma nonEmpty_encodeCursor (e : ListedEvent) :
    nonEmpty (some (encodeCursor e)) = some (encodeCursor e) := by
  have hraw : String.ofList e.timestamp.isoformat ++ "|" ++ e.row.id ≠ "" := by
    intro heq
    simpa using congrArg String.toList heq
  have hbytes : (String.ofList e.timestamp.isoformat ++ "|" ++
      e.row.id).toByteArray.data.toList ≠ [] := by
    intro heq
    refine hraw (String.utf8ByteSize_eq_zero_iff.mp ?_)
    exact congrArg List.length heq
  have hne : encodeCursor e ≠ "" := by
    intro heq
    refine Base64.encode_ne_nil hbytes ?_
    simpa [encodeCursor] using congrArg String.toList heq
  simp [nonEmpty, hne]

/-- What a page is cut from. -/
private lemma fetchPage_eq (rows : List ListedEvent) :
    fetchPage limit rows =
      Keyset.cut encodeCursor limit (Keyset.descending ListedEvent.key rows) := by
  have hlength : ∀ l : List ListedEvent,
      limit < (l.take (limit + 1)).length ↔ limit < l.length := by
    intro l
    rw [List.length_take]
    omega
  have htake : ∀ l : List ListedEvent, (l.take (limit + 1)).take limit = l.take limit := by
    intro l
    rw [List.take_take, Nat.min_eq_left (Nat.le_succ limit)]
  unfold fetchPage newestFirst Keyset.cut
  simp only [hlength, htake]
  split_ifs with hmore
  · rfl
  · rw [List.take_of_length_le (by omega)]

/-- The first page. -/
lemma listEvents_none : listEvents other ilike events flt limit none =
    .ok (Keyset.cut encodeCursor limit
      (Keyset.descending ListedEvent.key (matching ilike events flt))) := by
  rw [← fetchPage_eq]
  rfl

/-- The page at the cursor of an event. -/
lemma listEvents_cursor (e : ListedEvent) :
    listEvents other ilike events flt limit (some (encodeCursor e)) =
      .ok (Keyset.cut encodeCursor limit (Keyset.descending ListedEvent.key
        ((matching ilike events flt).filter fun b => decide (b.key < e.key)))) := by
  have hkey : e.key = toLex (e.timestamp.instant, e.uuid) := by
    unfold ListedEvent.key
    rw [e.occurredAt_eq]
  rw [← fetchPage_eq, hkey]
  unfold listEvents
  rw [nonEmpty_encodeCursor]
  simp only [decodeCursor_encodeCursor]
  rfl

/-- Events with distinct identifiers have distinct keys. -/
lemma key_nodup (h : (events.map fun e => e.row.id).Nodup) :
    ((matching ilike events flt).map ListedEvent.key).Nodup := by
  have hids : ((matching ilike events flt).map fun e => e.row.id).Nodup :=
    h.sublist (List.filter_sublist.map _)
  refine List.Nodup.of_map (fun k : Time ×ₗ Uuid => String.ofList (Uuid.text (ofLex k).2)) ?_
  rw [List.map_map]
  have heq : (matching ilike events flt).map (fun e => e.row.id) =
      (matching ilike events flt).map
        ((fun k : Time ×ₗ Uuid => String.ofList (Uuid.text (ofLex k).2)) ∘ ListedEvent.key) :=
    List.map_congr_left fun e _ => e.id_eq
  rwa [heq] at hids

/-- **The pages visit every event once that the filter selects**, newest first: from the first page
on, following each cursor until there is none. Every cursor names its event. -/
theorem walk_listEvents (other : OtherTexts) (ilike : String → String → Bool)
    (flt : AuditFilter) (hids : (events.map fun e => e.row.id).Nodup) (hlimit : 1 ≤ limit) :
    (∃ visited : List ListedEvent,
      (∀ fuel > (events.filter fun e => flt.matchesRow ilike e.row).length,
        Keyset.walk (listEvents other ilike events flt limit) fuel none = .ok (some visited)) ∧
      visited.Perm (events.filter fun e => flt.matchesRow ilike e.row) ∧
      (∀ e, e ∈ visited ↔ e ∈ events ∧ flt.matchesRow ilike e.row = true) ∧
      visited.Pairwise fun a b => b.key < a.key) ∧
    ∀ e : ListedEvent, decodeCursor other (encodeCursor e) = .ok (e.timestamp, e.uuid) := by
  have hperm : (Keyset.descending ListedEvent.key (matching ilike events flt)).Perm
      (events.filter fun e => flt.matchesRow ilike e.row) := Keyset.descending_perm
  refine ⟨⟨Keyset.descending ListedEvent.key (matching ilike events flt), ?_, hperm,
    fun e => hperm.mem_iff.trans List.mem_filter, Keyset.descending_pairwise (key_nodup hids)⟩,
    decodeCursor_encodeCursor other⟩
  intro fuel hfuel
  exact Keyset.walk_eq (key_nodup hids) hlimit listEvents_none
    (fun e _ => listEvents_cursor e) hfuel

end Pages

/-- 1970-01-01, at midnight in UTC. -/
def Demo.midnight : Datetime := ⟨1970, 1, 1, 0, 0, 0, 0, some 0, by decide⟩

/-- An event of that instant. -/
def Demo.loggedAt (uuid : Uuid) : ListedEvent where
  row := {
    id := String.ofList uuid.text, occurredAt := Demo.midnight.instant, actorType := .system
    actorEmail := none, actorName := none, action := "vm.delete", targetType := "vm"
    targetId := none, targetName := .null, hostId := none, clusterId := none, taskId := none
    outcome := .succeeded, details := .null }
  uuid := uuid
  timestamp := Demo.midnight
  id_eq := rfl
  aware := rfl
  occurredAt_eq := rfl

/-- The identifier of an event. -/
def Demo.eventId : Uuid := 3

/-- An event of another action. -/
def Demo.renamed : ListedEvent :=
  { Demo.loggedAt Demo.eventId with
    row := { (Demo.loggedAt Demo.eventId).row with action := "vm.rename" } }

/-- The filter on deletions. -/
def Demo.deletions : AuditFilter := { action := some "vm.delete" }

/-- Two events of one instant and none of another action, a page each. -/
theorem walk_listEvents_tie :
    ∃ visited : List ListedEvent,
      Keyset.walk (listEvents ⟨fun _ => none, fun _ => none⟩ (fun _ _ => false)
        [Demo.loggedAt 1, Demo.renamed, Demo.loggedAt 2] Demo.deletions 1) 3 none =
          .ok (some visited) ∧
      visited.Perm [Demo.loggedAt 1, Demo.loggedAt 2] ∧
      visited.Pairwise fun a b => b.key < a.key := by
  obtain ⟨⟨visited, hwalk, hperm, -, hordered⟩, -⟩ :=
    @walk_listEvents [Demo.loggedAt 1, Demo.renamed, Demo.loggedAt 2] 1
      ⟨fun _ => none, fun _ => none⟩ (fun _ _ => false) Demo.deletions (by decide +kernel)
      (by decide)
  exact ⟨visited, hwalk 3 (by decide), hperm, hordered⟩

end OpenVCenter
