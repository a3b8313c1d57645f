import Mathlib.Data.List.Induction
import Mathlib.Logic.Function.Basic
import OpenVCenter.Foundations.Machine

set_option relaxedAutoImplicit false
set_option autoImplicit false

/-!
# Blobs beside a catalogue

A catalogue is kept in a database, and the contents of its entries in a store that takes no part in
the transactions: what a request has done to the store stays when the request is rolled back. A key
is used for one content only.

## Main definitions

* `Blobs.State`, `Blobs.Event`, `Blobs.step` — the entries and the blobs, and what a request does to
  them.
* `Blobs.Fresh` — every key is added before anything else happens to it.

## Main results

* `Blobs.run_entries_iff`, `Blobs.run_blobs_iff` — the entries and the blobs at the end of a run.
* `Blobs.run_lost_iff` — **an entry has lost its blob exactly when a request that dropped it was
  rolled back**.
* `Blobs.run_described` — **a blob is described by any entry its key has had**.
-/

namespace Blobs

variable {κ ρ β : Type*}

/-- The entries of the catalogue, and the blobs of the store. -/
structure State (κ ρ β : Type*) where
  entries : κ → Option ρ
  blobs : κ → Option β

/-- What a request does. `committed` is whether its entry stays added, or dropped; `taken` is whether
the blob of the dropped entry is taken away. -/
inductive Event (κ ρ β : Type*)
  | add (k : κ) (entry : ρ) (blob : β) (committed : Bool)
  | drop (k : κ) (taken committed : Bool)
  | skip

/-- The key that an event is about. -/
def Event.key : Event κ ρ β → Option κ
  | .add k _ _ _ => some k
  | .drop k _ _ => some k
  | .skip => none

/-- The key that an event adds. -/
def Event.added : Event κ ρ β → Option κ
  | .add k _ _ _ => some k
  | _ => none

/-- Every key is added before anything else happens to it. -/
def Fresh (es : List (Event κ ρ β)) : Prop :=
  es.Pairwise fun e e' => ∀ k, e'.added = some k → e.key ≠ some k

/-- There is nothing. -/
def empty : State κ ρ β := ⟨fun _ => none, fun _ => none⟩

variable [DecidableEq κ]

/-- The state after an event. -/
def step (s : State κ ρ β) : Event κ ρ β → State κ ρ β
  | .add k entry blob committed =>
    { entries := if committed then Function.update s.entries k (some entry) else s.entries
      blobs := Function.update s.blobs k (some blob) }
  | .drop k taken committed =>
    { entries := if committed then Function.update s.entries k none else s.entries
      blobs := if taken then Function.update s.blobs k none else s.blobs }
  | .skip => s

/-- The state after a list of events. -/
abbrev run (s : State κ ρ β) (es : List (Event κ ρ β)) : State κ ρ β := Machine.run step s es

section Laws

variable {es fs : List (Event κ ρ β)} {e : Event κ ρ β} {k : κ} {entry entry' : ρ} {blob blob' : β}
  {c c' : Bool}

omit [DecidableEq κ] in

/-- One more addition is fresh if its key is new. -/
theorem fresh_append_singleton : Fresh (es ++ [e]) ↔
    Fresh es ∧ ∀ x ∈ es, ∀ k, e.added = some k → x.key ≠ some k := by
  unfold Fresh
  rw [List.pairwise_append]
  simp

omit [DecidableEq κ] in
/-- A key is added once. -/
theorem add_unique (hes : Fresh es) (h : .add k entry blob c ∈ es)
    (h' : .add k entry' blob' c' ∈ es) : entry = entry' ∧ blob = blob' ∧ c = c' := by
  induction es with
  | nil => simp at h
  | cons e es ih =>
    obtain ⟨hhead, htail⟩ := List.pairwise_cons.mp hes
    rcases List.mem_cons.mp h with rfl | hin
    · rcases List.mem_cons.mp h' with hsame | hin'
      · injection hsame with _ hentry hblob hc
        exact ⟨hentry.symm, hblob.symm, hc.symm⟩
      · exact absurd rfl (hhead _ hin' k rfl)
    · rcases List.mem_cons.mp h' with rfl | hin'
      · exact absurd rfl (hhead _ hin k rfl)
      · exact ih htail hin hin'

/-- The entries at the end of a run.

**Proof sketch.** Induction on the run from its end. An event that does not commit changes nothing,
a drop removes the entry of its key, and an add enters a key that no earlier event has used. -/
theorem run_entries_iff (hes : Fresh es) : (run empty es).entries k = some entry ↔
    (∃ blob, .add k entry blob true ∈ es) ∧ ∀ taken, .drop k taken true ∉ es := by
  induction es using List.reverseRecOn with
  | nil => simp [empty]
  | append_singleton es e ih =>
    obtain ⟨hes, hnew⟩ := fresh_append_singleton.mp hes
    have hrun := ih hes
    rw [run, Machine.run_append, Machine.run_cons, Machine.run_nil]
    simp only [List.mem_append, List.mem_singleton]
    cases e with
    | skip => simpa [step] using hrun
    | drop k' taken committed =>
      cases committed with
      | false => simpa [step] using hrun
      | true =>
        by_cases hk : k = k'
        · subst hk
          simp only [step, if_true, Function.update_self]
          refine iff_of_false (by simp) fun h => ?_
          exact h.2 taken (Or.inr rfl)
        · simpa [step, Function.update_of_ne hk, hk] using hrun
    | add k' entry' blob' committed =>
      cases committed with
      | false => simpa [step] using hrun
      | true =>
        by_cases hk : k = k'
        · subst hk
          -- nothing has happened to the key before
          have hunused : ∀ x ∈ es, x.key ≠ some k := fun x hx => hnew x hx k rfl
          simp only [step, if_true, Function.update_self, Option.some.injEq]
          constructor
          · rintro rfl
            refine ⟨⟨blob', Or.inr rfl⟩, fun taken h => ?_⟩
            rcases h with h | h
            · exact hunused _ h rfl
            · cases h
          · rintro ⟨⟨blob, h | h⟩, -⟩
            · exact absurd rfl (hunused _ h)
            · injection h with _ hentry
              exact hentry.symm
        · simpa [step, Function.update_of_ne hk, hk] using hrun

/-- The blobs at the end of a run. -/
theorem run_blobs_iff (hes : Fresh es) : (run empty es).blobs k = some blob ↔
    (∃ entry c, .add k entry blob c ∈ es) ∧ ∀ c, .drop k true c ∉ es := by
  induction es using List.reverseRecOn with
  | nil => simp [empty]
  | append_singleton es e ih =>
    obtain ⟨hes, hnew⟩ := fresh_append_singleton.mp hes
    have hrun := ih hes
    rw [run, Machine.run_append, Machine.run_cons, Machine.run_nil]
    simp only [List.mem_append, List.mem_singleton]
    cases e with
    | skip => simpa [step] using hrun
    | drop k' taken committed =>
      cases taken with
      | false => simpa [step] using hrun
      | true =>
        by_cases hk : k = k'
        · subst hk
          simp only [step, if_true, Function.update_self]
          refine iff_of_false (by simp) fun h => ?_
          exact h.2 committed (Or.inr rfl)
        · simpa [step, Function.update_of_ne hk, hk] using hrun
    | add k' entry' blob' committed =>
      by_cases hk : k = k'
      · subst hk
        have hunused : ∀ x ∈ es, x.key ≠ some k := fun x hx => hnew x hx k rfl
        simp only [step, Function.update_self, Option.some.injEq]
        constructor
        · rintro rfl
          refine ⟨⟨entry', committed, Or.inr rfl⟩, fun c h => ?_⟩
          rcases h with h | h
          · exact hunused _ h rfl
          · cases h
        · rintro ⟨⟨entry, c, h | h⟩, -⟩
          · exact absurd rfl (hunused _ h)
          · injection h with _ _ hblob
            exact hblob.symm
      · simpa [step, Function.update_of_ne hk, hk] using hrun

/-- **An entry has lost its blob exactly when a request that dropped it was rolled back.** -/
theorem run_lost_iff (hes : Fresh es) (h : (run empty es).entries k = some entry) :
    (run empty es).blobs k = none ↔ .drop k true false ∈ es := by
  obtain ⟨⟨blob, hadd⟩, hkept⟩ := (run_entries_iff hes).mp h
  constructor
  · intro hnone
    by_contra htaken
    have hblob : (run empty es).blobs k = some blob := by
      refine (run_blobs_iff hes).mpr ⟨⟨entry, true, hadd⟩, fun c hdrop => ?_⟩
      cases c with
      | false => exact htaken hdrop
      | true => exact hkept true hdrop
    rw [hnone] at hblob
    cases hblob
  · intro htaken
    rcases hblob : (run empty es).blobs k with _ | b
    · rfl
    · exact absurd htaken (((run_blobs_iff hes).mp hblob).2 false)

/-- **A blob is described by any entry its key has had**: what describes the blobs that are added
describes what is read under the key, now and later. -/
theorem run_described {describes : ρ → β → Prop} (hes : Fresh (es ++ fs))
    (hadds : ∀ k entry blob c, .add k entry blob c ∈ es ++ fs → describes entry blob)
    (h : (run empty es).entries k = some entry)
    (hblob : (run empty (es ++ fs)).blobs k = some blob) : describes entry blob := by
  have hfirst : Fresh es := (List.pairwise_append.mp hes).1
  obtain ⟨⟨blob', hadd⟩, -⟩ := (run_entries_iff hfirst).mp h
  obtain ⟨⟨entry', c, hadd'⟩, -⟩ := (run_blobs_iff hes).mp hblob
  obtain ⟨rfl, -, -⟩ := add_unique hes (List.mem_append_left fs hadd) hadd'
  exact hadds k entry blob c hadd'

end Laws

end Blobs
