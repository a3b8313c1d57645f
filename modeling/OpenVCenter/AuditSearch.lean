import OpenVCenter.Foundations.Like
import OpenVCenter.AuditListing

set_option relaxedAutoImplicit false
set_option autoImplicit false

/-!
# Searching the audit log

The partial matches of `list_events`. The text that is searched for is put between two `%` and
handed to `ILIKE`, as it is: a `%`, `_` or `\` in it keeps its meaning in a pattern.

## Main definitions

* `OpenVCenter.ilike` — `ILIKE`, the text and then the pattern.
* `OpenVCenter.searchFilter` — the filter with an actor and a search text.
* `OpenVCenter.HasActor`, `OpenVCenter.HasText` — what the two stand for.
* `OpenVCenter.FindsExactly` — the pages visit these events and no others.

## Main results

* `OpenVCenter.findsExactly_iff` — **texts without a wildcard** are what the search is exact for.
-/

namespace OpenVCenter

open Like (isPlain isSpecial)

/-- PostgreSQL's `ILIKE` for a folding of case. -/
def ilike (f : Like.Folding) (text pattern : String) : Bool := f.accepts pattern.toList text.toList

/-- The filter of a search for an actor and a text. -/
def searchFilter (actor q : String) : AuditFilter := { actor := some actor, q := some q }

section Search

variable (f : Like.Folding)

/-- The value has the text in it, without regard to case. -/
def HasText (text : String) (value : Option String) : Prop :=
  ∃ v, value = some v ∧ f.Contains v.toList text.toList

/-- Whether a value has a text can be decided. -/
instance (text : String) (value : Option String) : Decidable (HasText f text value) :=
  match value with
  | none => isFalse fun ⟨_, h, _⟩ => nomatch h
  | some v => decidable_of_iff (f.Contains v.toList text.toList)
      ⟨fun h => ⟨v, rfl, h⟩, fun ⟨_, hv, h⟩ => Option.some.inj hv ▸ h⟩

/-- The name of the target. -/
def AuditEvent.targetText (e : AuditEvent) : Option String :=
  match e.targetName with
  | .str s => some s
  | _ => none

/-- The event is of the actor and has the text. -/
def IsSearched (actor q : String) (e : AuditEvent) : Prop :=
  (HasText f actor e.actorEmail ∨ HasText f actor e.actorName) ∧
  (HasText f q e.targetText ∨ HasText f q e.actorEmail ∨ HasText f q e.actorName)

/-- Whether an event is searched for can be decided. -/
instance (actor q : String) (e : AuditEvent) : Decidable (IsSearched f actor q e) :=
  inferInstanceAs (Decidable (_ ∧ _))

/-- Whatever the events and the size of the pages, the pages visit the events of the actor that
have the text, each once. -/
def FindsExactly (actor q : String) : Prop :=
  ∀ (other : OtherTexts) (events : List ListedEvent) (limit : ℕ),
    (events.map fun e => e.row.id).Nodup → 1 ≤ limit →
    ∃ visited : List ListedEvent,
      (∀ fuel > (matching (ilike f) events (searchFilter actor q)).length,
        Keyset.walk (listEvents other (ilike f) events (searchFilter actor q) limit) fuel none =
          .ok (some visited)) ∧
      visited.Perm (events.filter fun e => decide (IsSearched f actor q e.row))

end Search

variable {f : Like.Folding} {actor q : String}

/-- What the pattern of a text finds. -/
def Found (f : Like.Folding) (text : String) (value : Option String) : Prop :=
  (value.any fun t => ilike f t s!"%{text}%") = true

/-- The pattern of the query is the text between two wildcards. -/
lemma ilike_part (text part : String) :
    ilike f text s!"%{part}%" = f.accepts ('%' :: (part.toList ++ ['%'])) text.toList := by
  have hpattern : (s!"%{part}%").toList = '%' :: (part.toList ++ ['%']) := by
    have hparts : s!"%{part}%" = "%" ++ part ++ "%" := rfl
    simp [hparts]
  rw [ilike, hpattern]

/-- A value is found when the pattern of the text accepts it. -/
lemma found_some (text v : String) : Found f text (some v) ↔
    f.accepts ('%' :: (text.toList ++ ['%'])) v.toList = true := by
  unfold Found
  rw [Option.any_some, ilike_part]

/-- Nothing is found where there is no value. -/
lemma not_found_none (text : String) : ¬ Found f text none := Bool.false_ne_true

/-- A value has the text when it contains it. -/
lemma hasText_some (text v : String) : HasText f text (some v) ↔
    f.Contains v.toList text.toList := by
  unfold HasText
  simp

/-- No text is had where there is no value. -/
lemma not_hasText_none (text : String) : ¬ HasText f text none := by
  rintro ⟨_, h, _⟩
  cases h

/-- The pattern of a plain text finds the values that have the text. -/
lemma found_iff_hasText {text : String} (htext : isPlain text.toList = true)
    (value : Option String) : Found f text value ↔ HasText f text value := by
  cases value with
  | none =>
    exact ⟨fun h => absurd h (not_found_none text), fun h => absurd h (not_hasText_none text)⟩
  | some v => rw [found_some, hasText_some, f.accepts_iff_contains htext]

/-- What the query of a search asks for. -/
lemma matchesRow_searchFilter (hactor : actor ≠ "") (hq : q ≠ "") (e : AuditEvent) :
    (searchFilter actor q).matchesRow (ilike f) e = true ↔
      (Found f actor e.actorEmail ∨ Found f actor e.actorName) ∧
      (Found f q e.targetText ∨ Found f q e.actorEmail ∨ Found f q e.actorName) := by
  have hnonEmpty : ∀ text : String, text ≠ "" → nonEmpty (some text) = some text := by
    intro text htext
    simp [nonEmpty, htext]
  have hnone : nonEmpty none = none := rfl
  unfold AuditFilter.matchesRow searchFilter Found
  simp only [hnonEmpty actor hactor, hnonEmpty q hq, hnone, AuditFilter.cond,
    Option.all_some, Option.all_none, Bool.and_true, Bool.and_eq_true, Bool.or_eq_true, or_assoc]
  rfl

/-- The pages visit what the query asks for. -/
lemma walk_searchFilter (other : OtherTexts) {events : List ListedEvent} {limit fuel : ℕ}
    (hids : (events.map fun e => e.row.id).Nodup) (hlimit : 1 ≤ limit)
    (hfuel : (matching (ilike f) events (searchFilter actor q)).length < fuel) :
    Keyset.walk (listEvents other (ilike f) events (searchFilter actor q) limit) fuel none =
      .ok (some (Keyset.descending ListedEvent.key
        (matching (ilike f) events (searchFilter actor q)))) :=
  Keyset.walk_eq (key_nodup hids) hlimit listEvents_none (fun e _ => listEvents_cursor e) hfuel

/-- An exact search asks, of every event, what the texts stand for. -/
lemma matchesRow_of_findsExactly (h : FindsExactly f actor q) (e : ListedEvent) :
    (searchFilter actor q).matchesRow (ilike f) e.row = true ↔ IsSearched f actor q e.row := by
  have hids : ([e].map fun e => e.row.id).Nodup := List.nodup_singleton _
  obtain ⟨visited, hwalk, hperm⟩ := h ⟨fun _ => none, fun _ => none⟩ [e] 1 hids le_rfl
  have hpages := hwalk _ (Nat.lt_succ_self _)
  rw [walk_searchFilter _ hids le_rfl (Nat.lt_succ_self _)] at hpages
  obtain rfl := Option.some.inj (Except.ok.inj hpages)
  have hmem := ((Keyset.descending_perm.symm.trans hperm).mem_iff (a := e))
  unfold matching at hmem
  simpa using hmem

namespace Demo

/-- Midnight has an offset. -/
lemma midnight_aware : midnight.utcoffset.isSome = true := rfl

/-- An event by an actor with an e-mail, about a target with a name. -/
def searched (email target : String) : ListedEvent where
  row := {
    id := String.ofList eventId.text, occurredAt := midnight.instant, actorType := .user
    actorEmail := some email, actorName := none, action := "vm.delete", targetType := "vm"
    targetId := none, targetName := .str target, hostId := none, clusterId := none, taskId := none
    outcome := .succeeded, details := .null }
  uuid := eventId
  timestamp := midnight
  id_eq := rfl
  aware := midnight_aware
  occurredAt_eq := rfl

end Demo

/-- What the query finds of the event of an actor and a target. -/
lemma matchesRow_searched (hactor : actor ≠ "") (hq : q ≠ "") (email target : String) :
    (searchFilter actor q).matchesRow (ilike f) (Demo.searched email target).row = true ↔
      Found f actor (some email) ∧ (Found f q (some target) ∨ Found f q (some email)) := by
  rw [matchesRow_searchFilter hactor hq]
  show (Found f actor (some email) ∨ Found f actor none) ∧
    (Found f q (some target) ∨ Found f q (some email) ∨ Found f q none) ↔ _
  simp only [not_found_none, or_false]

/-- What is searched for of the event of an actor and a target. -/
lemma isSearched_searched (email target : String) :
    IsSearched f actor q (Demo.searched email target).row ↔
      HasText f actor (some email) ∧ (HasText f q (some target) ∨ HasText f q (some email)) := by
  unfold IsSearched
  show (HasText f actor (some email) ∨ HasText f actor none) ∧
    (HasText f q (some target) ∨ HasText f q (some email) ∨ HasText f q none) ↔ _
  simp only [not_hasText_none, or_false]

/-- An actor with a wildcard: some e-mail is found that does not have it. -/
lemma isPlain_actor (hactor : actor ≠ "") (hq : q ≠ "") (h : FindsExactly f actor q) :
    isPlain actor.toList = true := by
  by_contra hspecial
  obtain ⟨email, hfound, hlacks⟩ := f.exists_found (Bool.eq_false_iff.mpr hspecial)
  obtain ⟨target, htarget, -⟩ := f.exists_found_contains q.toList
  have hrow := matchesRow_of_findsExactly h
    (Demo.searched (String.ofList email) (String.ofList target))
  rw [matchesRow_searched hactor hq, isSearched_searched] at hrow
  simp only [found_some, hasText_some, String.toList_ofList] at hrow
  exact hlacks (hrow.mp ⟨hfound, Or.inl htarget⟩).1

/-- A text with a wildcard: some target of an actor without one is found that does not have it.

**Proof sketch.** Some target is found that does not have the text; look at an event of that target
by the actor. It is found, so it is searched for, and the text must be in the e-mail; but the e-mail
has no wildcard. -/
lemma isPlain_text (hactor : actor ≠ "") (hq : q ≠ "") (hplain : isPlain actor.toList = true)
    (h : FindsExactly f actor q) : isPlain q.toList = true := by
  by_contra hspecial
  obtain ⟨target, hfound, hlacks⟩ := f.exists_found (Bool.eq_false_iff.mpr hspecial)
  have hemail : f.Contains actor.toList actor.toList := List.infix_refl _
  have hrow := matchesRow_of_findsExactly h (Demo.searched actor (String.ofList target))
  rw [matchesRow_searched hactor hq, isSearched_searched] at hrow
  simp only [found_some, hasText_some, String.toList_ofList] at hrow
  have hsearched := hrow.mp ⟨(f.accepts_iff_contains hplain).mpr hemail, Or.inl hfound⟩
  -- The e-mail has no wildcard, so the text is not in it either.
  refine hsearched.2.elim hlacks fun hinside => hspecial ?_
  have hfolded : isPlain (q.toList.map f.fold) = true := by
    have hactorFolded : isPlain (actor.toList.map f.fold) = true := by rwa [f.isPlain_map]
    exact List.all_eq_true.mpr fun c hc =>
      List.all_eq_true.mp hactorFolded c (hinside.subset hc)
  rwa [f.isPlain_map] at hfolded

/-- **The search is exact for the texts without a wildcard**, and for no others.

**Proof sketch.** From left to right, a text with a wildcard finds a sample that lacks it, so an
event made of that sample is found wrongly (`isPlain_actor`, `isPlain_text`). From right to left, a
text without a wildcard is found exactly where it is contained, so the filter selects the searched
events, and the walk visits what the filter selects. -/
theorem findsExactly_iff (f : Like.Folding) (hactor : actor ≠ "") (hq : q ≠ "") :
    FindsExactly f actor q ↔ isPlain actor.toList = true ∧ isPlain q.toList = true := by
  constructor
  · intro h
    have hplain := isPlain_actor hactor hq h
    exact ⟨hplain, isPlain_text hactor hq hplain h⟩
  · rintro ⟨hplain, hqPlain⟩ other events limit hids hlimit
    refine ⟨_, fun fuel hfuel => walk_searchFilter other hids hlimit hfuel, ?_⟩
    have hrows : matching (ilike f) events (searchFilter actor q) =
        events.filter fun e => decide (IsSearched f actor q e.row) := by
      refine List.filter_congr fun e _ => ?_
      rw [Bool.eq_iff_iff, decide_eq_true_eq, matchesRow_searchFilter hactor hq]
      simp only [found_iff_hasText hplain, found_iff_hasText hqPlain]
      rfl
    rw [← hrows]
    exact Keyset.descending_perm

/-- Text is compared as it is. -/
def Demo.asWritten : Like.Folding := ⟨id, fun _ _ => rfl⟩

/-- A search without wildcards finds exactly its events. -/
theorem findsExactly_iff_alice : FindsExactly Demo.asWritten "alice" "vm-1" :=
  (findsExactly_iff Demo.asWritten (by decide) (by decide)).mpr ⟨by decide, by decide⟩

/-- A search for `a_b` finds the actor `axb`. -/
theorem findsExactly_counterexample : ¬ FindsExactly Demo.asWritten "a_b" "vm" := by
  intro h
  have hrow := matchesRow_of_findsExactly h (Demo.searched "axb" "vm-1")
  rw [matchesRow_searched (by decide) (by decide), isSearched_searched] at hrow
  simp only [found_some, hasText_some] at hrow
  exact absurd (hrow.mp (by decide +kernel)) (by decide +kernel)

end OpenVCenter
