import Mathlib.Data.List.Induction
import OpenVCenter.Foundations.Machine

set_option relaxedAutoImplicit false
set_option autoImplicit false

/-!
# A thing in quarantine

A thing has been taken away, and reports that are older than its removal still list it. For a while
a report that lists it is not believed. Once the quarantine is lifted, a report that lists the thing
brings it back, and one that omits it takes it away.

## Main definitions

* `Quarantine.Notice` — what happens: the quarantine is lifted, or not, and the thing is listed,
  omitted or not reported on.
* `Quarantine.step`, `Quarantine.run` — the state after a notice, and after a list of notices.
* `Quarantine.Returns` — the thing is listed after the quarantine was lifted, and not omitted since.
* `Quarantine.Listed` — the thing is listed, and not omitted since.

## Main results

* `Quarantine.run_held_iff` — the quarantine lasts until a notice lifts it.
* `Quarantine.run_present_iff` — **the thing is there at the end exactly when it has returned**.
* `Quarantine.run_open_present_iff` — without a quarantine, exactly when it is listed.
-/

namespace Quarantine

/-- What happens. The lifting takes effect after the report. -/
structure Notice where
  lifts : Bool
  report : Option Bool

/-- Whether the quarantine is on, and whether the thing is there. -/
structure State where
  held : Bool
  present : Bool

/-- The state after a notice. -/
def step (s : State) (e : Notice) : State where
  held := s.held && !e.lifts
  present := match e.report with
    | none => s.present
    | some false => false
    | some true => s.present || !s.held

/-- The state after a list of notices. -/
abbrev run (s : State) (es : List Notice) : State := Machine.run step s es

/-- The thing has just been taken away. -/
def removed : State := ⟨true, false⟩

/-- The thing is not there, and is not in quarantine. -/
def absent : State := ⟨false, false⟩

/-- The thing is listed, after notices that are as `P` says, and not omitted since. -/
def ListedAfter (P : List Notice → Prop) (es : List Notice) : Prop :=
  ∃ pre e post, es = pre ++ e :: post ∧ e.report = some true ∧ P pre ∧
    ∀ p ∈ post, p.report ≠ some false

/-- The thing is listed, and not omitted since. -/
def Listed (es : List Notice) : Prop := ListedAfter (fun _ => True) es

/-- The thing is listed after the quarantine was lifted, and not omitted since. -/
def Returns (es : List Notice) : Prop := ListedAfter (fun pre => ∃ l ∈ pre, l.lifts = true) es

section Laws

variable {s : State} {e : Notice} {es : List Notice}

/-- A quarantine holds until it is lifted. -/
@[simp] theorem step_held : (step s e).held = (s.held && !e.lifts) := rfl

/-- Without a report nothing comes or goes. -/
theorem step_present_none (h : e.report = none) : (step s e).present = s.present := by
  simp [step, h]

/-- What is omitted goes. -/
theorem step_present_omitted (h : e.report = some false) : (step s e).present = false := by
  simp [step, h]

/-- What is listed comes, unless it is held. -/
theorem step_present_listed (h : e.report = some true) :
    (step s e).present = (s.present || !s.held) := by
  simp [step, h]

/-- The quarantine lasts until a notice lifts it. -/
theorem run_held_iff : (run removed es).held = true ↔ ∀ l ∈ es, l.lifts = false := by
  induction es using List.reverseRecOn with
  | nil => simp [removed]
  | append_singleton es e ih =>
    rw [run, Machine.run_append, Machine.run_cons, Machine.run_nil]
    simp only [step_held, Bool.and_eq_true, Bool.not_eq_true', List.mem_append,
      List.mem_singleton]
    rw [ih]
    constructor
    · rintro ⟨hall, he⟩ l (hl | rfl)
      · exact hall l hl
      · exact he
    · intro hall
      exact ⟨fun l hl => hall l (Or.inl hl), hall e (Or.inr rfl)⟩

/-- Nothing is listed behind nothing. -/
theorem not_listedAfter_nil {P : List Notice → Prop} : ¬ ListedAfter P [] := by
  rintro ⟨pre, e, post, h, -⟩
  simp at h

/-- A longer run: the thing is listed with the last notice, or it is listed, and is not omitted. -/
theorem listedAfter_append_singleton {P : List Notice → Prop} : ListedAfter P (es ++ [e]) ↔
    (e.report = some true ∧ P es) ∨ (e.report ≠ some false ∧ ListedAfter P es) := by
  constructor
  · rintro ⟨pre, x, post, hes, hreport, hpre, hpost⟩
    rcases List.eq_nil_or_concat post with rfl | ⟨post, y, rfl⟩
    · obtain ⟨rfl, hx⟩ := List.append_inj' hes rfl
      obtain rfl := List.singleton_inj.mp hx
      exact Or.inl ⟨hreport, hpre⟩
    · have hsplit : es ++ [e] = (pre ++ x :: post) ++ [y] := by
        rw [hes]
        simp
      obtain ⟨rfl, hy⟩ := List.append_inj' hsplit rfl
      obtain rfl := List.singleton_inj.mp hy
      refine Or.inr ⟨hpost e (by simp), pre, x, post, rfl, hreport, hpre, fun p hp => ?_⟩
      exact hpost p (by simp [hp])
  · rintro (⟨hreport, hpre⟩ | ⟨homit, pre, x, post, rfl, hreport, hpre, hpost⟩)
    · exact ⟨es, e, [], rfl, hreport, hpre, by simp⟩
    · refine ⟨pre, x, post ++ [e], by simp, hreport, hpre, fun p hp => ?_⟩
      rcases List.mem_append.mp hp with hp | hp
      · exact hpost p hp
      · rw [List.mem_singleton.mp hp]
        exact homit

/-- **The thing is there at the end exactly when it has returned.** -/
theorem run_present_iff : (run removed es).present = true ↔ Returns es := by
  unfold Returns
  induction es using List.reverseRecOn with
  | nil => exact iff_of_false (by simp [removed]) not_listedAfter_nil
  | append_singleton es e ih =>
    rw [listedAfter_append_singleton, ← ih, run, Machine.run_append, Machine.run_cons,
      Machine.run_nil]
    have hlifted : (run removed es).held = false ↔ ∃ l ∈ es, l.lifts = true := by
      rw [← Bool.not_eq_true, run_held_iff]
      simp
    rcases hreport : e.report with _ | ⟨_ | _⟩
    · simp [step_present_none hreport]
    · simp [step_present_omitted hreport]
    · rw [step_present_listed hreport, Bool.or_eq_true, Bool.not_eq_true', hlifted]
      simp [or_comm]

/-- Without a quarantine the thing is there at the end exactly when it is listed. -/
theorem run_open_present_iff : (run absent es).held = false ∧
    ((run absent es).present = true ↔ Listed es) := by
  unfold Listed
  induction es using List.reverseRecOn with
  | nil => exact ⟨rfl, iff_of_false (by simp [absent]) not_listedAfter_nil⟩
  | append_singleton es e ih =>
    obtain ⟨hheld, hpresent⟩ := ih
    rw [listedAfter_append_singleton, ← hpresent, run, Machine.run_append, Machine.run_cons,
      Machine.run_nil]
    refine ⟨by simp [hheld], ?_⟩
    rcases hreport : e.report with _ | ⟨_ | _⟩
    · simp [step_present_none hreport]
    · simp [step_present_omitted hreport]
    · rw [step_present_listed hreport, hheld]
      simp

end Laws

end Quarantine
