import Mathlib.Data.List.Induction
import OpenVCenter.Foundations.Merge

set_option relaxedAutoImplicit false
set_option autoImplicit false

/-!
# Who holds a thing

Nodes report, one after the other, whether a thing is on them. The node that has listed it last
holds it; it is lost when its holder reports that it is not there.

## Main definitions

* `Holder.step`, `Holder.run` — the holder after a report, and after a list of reports.
* `Holder.lister` — the node that has listed the thing last.
* `Holder.Kept` — no node has omitted the thing while it was the last to have listed it.

## Main results

* `Holder.run_eq_some_iff` — the thing is held at the end exactly when it was kept, and then by the
  node that has listed it last.
* `Holder.run_handover_iff` — a thing that goes from one node to another is handed over exactly
  when the first omission comes right after a report of the other node.
-/

universe u

namespace Holder

variable {η : Type u}

/-- The node that has listed the thing last, from the one that held it first. -/
def lister (o : η) (xs : List (η × Bool)) : η := xs.foldl (fun o x => if x.2 then x.1 else o) o

/-- No node has omitted the thing while it was the last to have listed it. -/
def Kept (o : η) (xs : List (η × Bool)) : Prop :=
  ∀ pre node post, xs = pre ++ (node, false) :: post → node ≠ lister o pre

/-- The holder after a report. A thing that is lost stays lost. -/
def step [DecidableEq η] : Option η → η × Bool → Option η
  | none, _ => none
  | some _, (node, true) => some node
  | some o, (node, false) => if node = o then none else some o

/-- The holder after a list of reports. -/
abbrev run [DecidableEq η] (holder : Option η) (xs : List (η × Bool)) : Option η :=
  Machine.run step holder xs

/-! ## The last lister -/

section Lister

variable {o node : η} {pre xs : List (η × Bool)}

/-- Nobody has listed it yet. -/
@[simp] theorem lister_nil : lister o [] = o := rfl

/-- The last to list it. -/
@[simp] theorem lister_listed : lister o (xs ++ [(node, true)]) = node := by
  simp [lister]

/-- Omissions change no lister. -/
@[simp] theorem lister_omitted : lister o (xs ++ [(node, false)]) = lister o xs := by
  simp [lister]

/-- The lister of two stretches. -/
theorem lister_append : lister o (pre ++ xs) = lister (lister o pre) xs := by
  simp [lister]

/-- The only node that lists the thing has listed it last. -/
theorem lister_of_only (h : ∀ x ∈ xs, x.2 = true → x.1 = o) : lister o xs = o := by
  induction xs using List.reverseRecOn with
  | nil => rfl
  | append_singleton xs x ih =>
    obtain ⟨node, listed⟩ := x
    have hxs : lister o xs = o := ih fun x hx => h x (List.mem_append_left _ hx)
    cases listed with
    | true => simpa using h (node, true) (by simp) rfl
    | false => simpa using hxs

/-- Nothing is kept by nothing. -/
@[simp] theorem kept_nil : Kept o [] := by
  intro pre node post h
  simp at h

/-- One more report. -/
theorem kept_append_singleton {x : η × Bool} :
    Kept o (xs ++ [x]) ↔ Kept o xs ∧ (x.2 = false → x.1 ≠ lister o xs) := by
  constructor
  · intro h
    refine ⟨fun pre node post hxs => h pre node (post ++ [x]) (by simp [hxs]), fun hx => ?_⟩
    refine h xs x.1 [] ?_
    rw [← hx]
  · rintro ⟨hkept, hlast⟩ pre node post heq
    rcases List.eq_nil_or_concat post with rfl | ⟨post, y, rfl⟩
    · obtain ⟨rfl, hx⟩ := List.append_inj' heq rfl
      obtain rfl : x = (node, false) := by simpa using hx
      exact hlast rfl
    · have hsplit : xs ++ [x] = (pre ++ (node, false) :: post) ++ [y] := by simpa using heq
      obtain ⟨hxs, -⟩ := List.append_inj' hsplit rfl
      exact hkept pre node post hxs

end Lister

/-! ## Runs -/

section Runs

variable [DecidableEq η] {o p node : η} {holder : Option η} {xs : List (η × Bool)}

/-- After a listing the lister holds it. -/
theorem step_listed_eq_some :
    step holder (node, true) = some p ↔ (∃ q, holder = some q) ∧ node = p := by
  cases holder <;> simp [step]

/-- After an omission the others hold it on. -/
theorem step_omitted_eq_some :
    step holder (node, false) = some p ↔ holder = some p ∧ node ≠ p := by
  cases holder with
  | none => simp [step]
  | some o =>
    by_cases h : node = o
    · subst h
      simp [step, eq_comm]
    · simp only [step, if_neg h, Option.some.injEq]
      constructor
      · rintro rfl
        exact ⟨rfl, h⟩
      · exact And.left

/-- A thing is held at the end exactly when it was kept, by the node that has listed it last. -/
theorem run_eq_some_iff : run (some o) xs = some p ↔ Kept o xs ∧ lister o xs = p := by
  induction xs using List.reverseRecOn generalizing p with
  | nil => simp
  | append_singleton xs x ih =>
    obtain ⟨node, listed⟩ := x
    rw [run, Machine.run_append, kept_append_singleton]
    cases listed with
    | true =>
      rw [Machine.run_cons, Machine.run_nil, step_listed_eq_some, lister_listed]
      simp [ih]
    | false =>
      rw [Machine.run_cons, Machine.run_nil, step_omitted_eq_some, lister_omitted, ih]
      constructor
      · rintro ⟨⟨hkept, rfl⟩, hne⟩
        exact ⟨⟨hkept, fun _ => hne⟩, rfl⟩
      · rintro ⟨⟨hkept, hne⟩, rfl⟩
        exact ⟨⟨hkept, rfl⟩, hne rfl⟩

/-- A thing is on the node `a`, which lists it for a while and then omits it, and goes to the node
`b`, which lists it from then on. Whatever the order the reports of the two arrive in, `b` takes the
thing over exactly when the first omission comes right after a report of `b`.

**Proof sketch.** The holder at the end is the last to list the thing, provided that each omission
by the holder came after a listing by another (`run_eq_some_iff`). From left to right, look at the
report before the first omission of `a`: it is no report of `a`, hence one of `b`. From right to
left, `a` lists nothing behind its first omission, so every later report leaves the thing with `b`.
-/
theorem run_handover_iff {a b : η} {as bs : List (η × Bool)} (hne : a ≠ b)
    (has : ∀ x ∈ as, x.1 = a) (hbs : ∀ x ∈ bs, x = (b, true))
    (honce : as.Pairwise fun x y => x.2 = false → y.2 = false) (hleft : (a, false) ∈ as)
    (hmerge : Merge as bs xs) : run (some a) xs = some b ↔
      ∃ pre post, xs = pre ++ (b, true) :: (a, false) :: post ∧ (a, false) ∉ pre := by
  have hmem : ∀ x ∈ xs, x.1 = a ∨ x = (b, true) := fun x hx =>
    (hmerge.mem_iff.mp hx).imp (has x) (hbs x)
  rw [run_eq_some_iff]
  constructor
  · rintro ⟨hkept, -⟩
    obtain ⟨pre, post, rfl, hfirst⟩ :=
      List.eq_append_cons_of_mem (hmerge.mem_iff.mpr (Or.inl hleft))
    have hlister : a ≠ lister a pre := hkept pre a post rfl
    rcases List.eq_nil_or_concat pre with rfl | ⟨pre, x, rfl⟩
    · exact absurd rfl hlister
    · -- the report before the first omission is one of `b`
      have hx : x = (b, true) := by
        refine (hmem x (by simp)).resolve_left fun hxa => ?_
        obtain ⟨node, listed⟩ := x
        obtain rfl : node = a := hxa
        cases listed with
        | true => simp at hlister
        | false => simp at hfirst
      subst hx
      refine ⟨pre, post, by simp, fun hpre => hfirst ?_⟩
      simp [hpre]
  · rintro ⟨pre, post, rfl, hfirst⟩
    have hothers : ∀ y ∈ bs, ¬ y.1 = a := by
      intro y hy
      rw [hbs y hy]
      exact hne.symm
    have hpairs := hmerge.pairwise honce hothers
    -- from the first omission on `a` lists no more
    have hpost : ∀ x ∈ post, x.2 = true → x.1 = b := by
      intro x hx hlisted
      rcases hmem x (by simp [hx]) with hxa | rfl
      · have htail := (List.pairwise_append.mp hpairs).2.1
        have homitted := (List.pairwise_cons.mp (List.pairwise_cons.mp htail).2).1 x hx rfl hxa rfl
        rw [hlisted] at homitted
        cases homitted
      · rfl
    have hshort : ∀ rest, (∀ x ∈ rest, x.2 = true → x.1 = b) →
        lister a (pre ++ (b, true) :: rest) = b := by
      intro rest hrest
      rw [show pre ++ (b, true) :: rest = (pre ++ [(b, true)]) ++ rest by simp, lister_append,
        lister_listed]
      exact lister_of_only hrest
    refine ⟨fun start node rest heq => ?_, hshort _ fun x hx hlisted => ?_⟩
    · have hnode : node = a := by
        rcases hmem (node, false) (by rw [heq]; simp) with h | h
        · exact h
        · cases h
      subst hnode
      -- the omission is not in `pre`, hence after the report of `b`
      rcases List.append_eq_append_iff.mp heq with ⟨mid, hstart, hrest⟩ | ⟨mid, hpre, hrest⟩
      · cases mid with
        | nil =>
          simp at hrest
        | cons x mid =>
          obtain ⟨rfl, hpost'⟩ := List.cons.inj hrest
          rw [hstart, hshort mid fun x hx => ?_]
          · exact hne
          · have hin : x ∈ (node, false) :: post := by
              rw [hpost']
              simp [hx]
            rcases List.mem_cons.mp hin with rfl | hin
            · simp
            · exact hpost x hin
      · cases mid with
        | nil => simp at hrest
        | cons x mid =>
          obtain ⟨rfl, -⟩ := List.cons.inj hrest
          refine absurd ?_ hfirst
          simp [hpre]
    · rcases List.mem_cons.mp hx with rfl | hx
      · simp at hlisted
      · exact hpost x hx hlisted

end Runs

end Holder
