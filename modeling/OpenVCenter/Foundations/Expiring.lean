import Mathlib.Logic.Function.Basic
import Mathlib.Order.Lattice

set_option relaxedAutoImplicit false
set_option autoImplicit false

/-!
# Key-value stores whose entries expire

A keyspace maps a key to an entry, a value and the instant it expires at. Time is any linear
order; an entry is there up to its instant, not from it on.

## Main definitions

* `Expiring.Entry`, `Expiring.Keyspace`.
* `Expiring.get`, `Expiring.put`, `Expiring.erase`, `Expiring.eraseWhere`, `Expiring.expire`.
* `Expiring.Aged` — what the passage of time does to an entry.

## Main results

* `Expiring.get_put`, `Expiring.get_erase`, `Expiring.get_eraseWhere` — what a lookup sees after
  a write.
* `Expiring.expire_eq_some` — an entry outlives the passage of time exactly when it is not due.
* `Expiring.aged_expire` — time leaves an entry as it is, or takes it away when it is due.
-/

namespace Expiring

/-- A value and the instant it expires at. -/
structure Entry (τ α : Type*) where
  value : α
  expiresAt : τ

/-- A map from keys to entries. -/
def Keyspace (κ τ α : Type*) := κ → Option (Entry τ α)

variable {κ τ α : Type*}

/-- No entry. -/
def empty : Keyspace κ τ α := fun _ => none

/-- The value under `k`. -/
def get (m : Keyspace κ τ α) (k : κ) : Option α := (m k).map Entry.value

/-- `SET k v` with an expiry. -/
def put [DecidableEq κ] (m : Keyspace κ τ α) (k : κ) (v : α) (at_ : τ) : Keyspace κ τ α :=
  fun x => if x = k then some ⟨v, at_⟩ else m x

/-- `DEL` of the keys that satisfy `p`. -/
def eraseWhere (m : Keyspace κ τ α) (p : κ → Bool) : Keyspace κ τ α :=
  fun x => if p x then none else m x

/-- `DEL k`. -/
def erase [DecidableEq κ] (m : Keyspace κ τ α) (k : κ) : Keyspace κ τ α :=
  eraseWhere m fun x => decide (x = k)

/-- What is left of the keyspace at the instant `now`. -/
def expire [LinearOrder τ] (m : Keyspace κ τ α) (now : τ) : Keyspace κ τ α :=
  fun x => (m x).filter fun e => decide (now < e.expiresAt)

section Laws

variable {m : Keyspace κ τ α} {k x : κ} {v : α} {t : τ}

/-- The empty keyspace has nothing. -/
@[simp] theorem get_empty : get (empty : Keyspace κ τ α) x = none := rfl

/-- A key that is found has an entry. -/
theorem get_eq_some : get m x = some v ↔ ∃ t, m x = some ⟨v, t⟩ := by
  constructor
  · intro h
    obtain ⟨e, he, rfl⟩ := Option.map_eq_some_iff.mp h
    exact ⟨e.expiresAt, he⟩
  · rintro ⟨t, h⟩
    simp [get, h]

/-- A key that is not found has none. -/
theorem get_eq_none : get m x = none ↔ m x = none := by simp [get]

variable [DecidableEq κ]

/-- The key that was put. -/
@[simp] theorem put_self : put m k v t k = some ⟨v, t⟩ := by simp [put]

/-- The other keys stay. -/
@[simp] theorem put_of_ne (h : x ≠ k) : put m k v t x = m x := by simp [put, h]

/-- The key that was erased. -/
@[simp] theorem erase_self : erase m k k = none := by simp [erase, eraseWhere]

/-- The other keys stay. -/
@[simp] theorem erase_of_ne (h : x ≠ k) : erase m k x = m x := by simp [erase, eraseWhere, h]

omit [DecidableEq κ] in

/-- The entries that are left. -/
theorem eraseWhere_eq_some {p : κ → Bool} {e : Entry τ α} :
    eraseWhere m p x = some e ↔ m x = some e ∧ p x = false := by
  by_cases h : p x <;> simp [eraseWhere, h]

/-- A lookup after a write. -/
theorem get_put : get (put m k v t) x = if x = k then some v else get m x := by
  by_cases h : x = k <;> simp [get, put, h]

/-- A lookup after a delete. -/
theorem get_erase : get (erase m k) x = if x = k then none else get m x := by
  by_cases h : x = k <;> simp [get, erase, eraseWhere, h]

omit [DecidableEq κ] in
/-- A lookup after a delete of several keys. -/
theorem get_eraseWhere {p : κ → Bool} :
    get (eraseWhere m p) x = if p x then none else get m x := by
  by_cases h : p x <;> simp [get, eraseWhere, h]

omit [DecidableEq κ] in
/-- An entry outlives the passage of time exactly when it is not due. -/
theorem expire_eq_some [LinearOrder τ] {now : τ} {e : Entry τ α} :
    expire m now x = some e ↔ m x = some e ∧ now < e.expiresAt := by
  simp [expire, Option.filter_eq_some_iff]

end Laws

/-! ## The passage of time -/

/-- At the instant `now` an entry is as it was, or it was due. -/
def Aged [LinearOrder τ] (now : τ) (before after : Option (Entry τ α)) : Prop :=
  after = before ∨ after = none ∧ ∀ e ∈ before, e.expiresAt ≤ now

section Aged

variable [LinearOrder τ] {now later : τ} {a b c : Option (Entry τ α)}

/-- An entry is aged by nothing. -/
theorem Aged.refl (now : τ) (a : Option (Entry τ α)) : Aged now a a := Or.inl rfl

/-- Ageing twice is ageing. -/
theorem Aged.trans (h : Aged now a b) (h' : Aged later b c) (hle : now ≤ later) :
    Aged later a c := by
  rcases h with rfl | ⟨rfl, hdue⟩
  · exact h'
  · have hgone : c = none := by
      rcases h' with rfl | ⟨rfl, -⟩ <;> rfl
    exact Or.inr ⟨hgone, fun e he => (hdue e he).trans hle⟩

/-- What time does to an entry. -/
theorem aged_expire (m : Keyspace κ τ α) (now : τ) (x : κ) : Aged now (m x) (expire m now x) := by
  unfold expire
  rcases h : m x with _ | e
  · exact Or.inl rfl
  · by_cases hdue : now < e.expiresAt
    · left
      simp [hdue]
    · right
      refine ⟨by simpa using hdue, fun y hy => ?_⟩
      cases hy
      exact not_lt.mp hdue

end Aged

end Expiring
