import Mathlib.Data.List.Nodup
import Mathlib.Data.List.Pairwise

set_option relaxedAutoImplicit false
set_option autoImplicit false

/-!
# Tables of keyed rows

A table is the list of its rows; a function `key` gives the primary key of a row. The
operations are the statements a relational store runs: select by key, update by key or by a
condition, delete by a condition. Nothing here forces the keys to be distinct: a table that
was written but not yet checked may hold two rows of one key, and the lemmas that need
distinct keys say so.

## Main definitions

* `Table.lookup`, `Table.store`, `Table.updateWhere`, `Table.deleteWhere`.
* `Table.Unique` — a unique index: rows of one index value have one key.

## Main results

* `Table.lookup_eq_some` — with distinct keys, a row is found under its key.
* `Table.mem_store`, `Table.lookup_store_self`, `Table.lookup_store_of_ne` — an update by key
  changes the row of that key and no other.
* `Table.map_key_store`, `Table.map_key_updateWhere` — updates keep the keys.
* `Table.filter_store`, `Table.filter_deleteWhere` — writes that a query does not see.
* `Table.unique_append`, `Table.unique_updateWhere` — the writes that keep a unique index.
-/

namespace Table

variable {ρ κ : Type*} [DecidableEq κ] (key : ρ → κ)

/-- The row of key `k`. -/
def lookup (k : κ) (rows : List ρ) : Option ρ := rows.find? fun x => decide (key x = k)

/-- Write `r` over the row of its key; no row is added. -/
def store (r : ρ) (rows : List ρ) : List ρ := rows.map fun x => if key x = key r then r else x

/-- Apply `f` to the rows that satisfy `p`. -/
def updateWhere (p : ρ → Bool) (f : ρ → ρ) (rows : List ρ) : List ρ :=
  rows.map fun x => if p x then f x else x

/-- Delete the rows that satisfy `p`. -/
def deleteWhere (p : ρ → Bool) (rows : List ρ) : List ρ := rows.filter fun x => !p x

variable {key} {rows : List ρ} {r x : ρ} {k : κ}

/-! ## Select -/

/-- What is found is a row. -/
theorem mem_of_lookup (h : lookup key k rows = some r) : r ∈ rows := List.mem_of_find?_eq_some h

/-- It has the key. -/
theorem key_of_lookup (h : lookup key k rows = some r) : key r = k := by
  simpa using List.find?_some h

/-- Nothing is found if no row has the key. -/
theorem lookup_eq_none : lookup key k rows = none ↔ ∀ x ∈ rows, key x ≠ k := by
  simp [lookup, List.find?_eq_none]

omit [DecidableEq κ] in
/-- Two rows of one key are the same row when the keys are distinct. -/
theorem eq_of_mem_of_key (hn : (rows.map key).Nodup) (hr : r ∈ rows) (hx : x ∈ rows)
    (h : key r = key x) : r = x := List.inj_on_of_nodup_map hn hr hx h

/-- With distinct keys, a row is found under its key and under no other. -/
theorem lookup_eq_some (hn : (rows.map key).Nodup) :
    lookup key k rows = some r ↔ r ∈ rows ∧ key r = k := by
  constructor
  · exact fun h => ⟨mem_of_lookup h, key_of_lookup h⟩
  · rintro ⟨hr, rfl⟩
    rcases h : lookup key (key r) rows with _ | y
    · exact absurd rfl (lookup_eq_none.mp h r hr)
    · rw [eq_of_mem_of_key hn (mem_of_lookup h) hr (key_of_lookup h)]

/-! ## Update -/

/-- The rows after an update by key: the untouched rows of other keys, and the new row where
its key was present. -/
theorem mem_store : x ∈ store key r rows ↔
    (x ∈ rows ∧ key x ≠ key r) ∨ (x = r ∧ ∃ y ∈ rows, key y = key r) := by
  simp only [store, List.mem_map]
  constructor
  · rintro ⟨y, hy, rfl⟩
    by_cases h : key y = key r
    · exact Or.inr ⟨by simp [h], y, hy, h⟩
    · exact Or.inl (by simpa [h] using hy)
  · rintro (⟨hx, h⟩ | ⟨rfl, y, hy, h⟩)
    · exact ⟨x, hx, by simp [h]⟩
    · exact ⟨y, hy, by simp [h]⟩

/-- An update by key keeps what the rows of the key have in common with the new row. -/
theorem map_store {γ : Type*} {f : ρ → γ} (h : ∀ x ∈ rows, key x = key r → f r = f x) :
    (store key r rows).map f = rows.map f := by
  simp only [store, List.map_map]
  refine List.map_congr_left fun x hx => ?_
  by_cases hk : key x = key r
  · simp [hk, h x hx hk]
  · simp [hk]

/-- A store keeps the keys. -/
@[simp] theorem map_key_store : (store key r rows).map key = rows.map key :=
  map_store fun _ _ h => h.symm

/-- A store of an absent key changes nothing. -/
theorem store_eq_self_of_absent (h : ∀ x ∈ rows, key x ≠ key r) : store key r rows = rows := by
  unfold store
  conv_rhs => rw [← List.map_id rows]
  exact List.map_congr_left fun x hx => by simp [h x hx]

/-- A row that is written again right behind the rows it was added to. -/
theorem store_append_singleton {added : ρ} (hkey : key r = key added)
    (h : ∀ x ∈ rows, key x ≠ key added) : store key r (rows ++ [added]) = rows ++ [r] := by
  have hrows : store key r rows = rows := store_eq_self_of_absent fun x hx => hkey ▸ h x hx
  have hlast : store key r [added] = [r] := by simp [store, hkey]
  calc store key r (rows ++ [added]) = store key r rows ++ store key r [added] := List.map_append
    _ = rows ++ [r] := by rw [hrows, hlast]

/-- With distinct keys, writing a row that is there changes nothing. -/
theorem store_eq_self_of_mem (hn : (rows.map key).Nodup) (hr : r ∈ rows) :
    store key r rows = rows := by
  unfold store
  conv_rhs => rw [← List.map_id rows]
  refine List.map_congr_left fun x hx => ?_
  by_cases h : key x = key r
  · rw [if_pos h, eq_of_mem_of_key hn hx hr h, id]
  · rw [if_neg h, id]

/-- With distinct keys, an update of a present key does not show in a query that the new row
answers exactly when the row was there already. -/
theorem filter_store_eq_iff {p : ρ → Bool} (hn : (rows.map key).Nodup)
    (h : ∃ y ∈ rows, key y = key r) (hr : p r = true) :
    (store key r rows).filter p = rows.filter p ↔ r ∈ rows := by
  constructor
  · intro heq
    have hmem : r ∈ (store key r rows).filter p :=
      List.mem_filter.mpr ⟨mem_store.mpr (Or.inr ⟨rfl, h⟩), hr⟩
    rw [heq] at hmem
    exact List.mem_of_mem_filter hmem
  · intro hmem
    rw [store_eq_self_of_mem hn hmem]

/-- The updated row is found under its key. -/
theorem lookup_store_self (h : lookup key (key r) rows = some x) :
    lookup key (key r) (store key r rows) = some r := by
  induction rows with
  | nil => simp [lookup] at h
  | cons y rows ih =>
    by_cases hy : key y = key r
    · simp [lookup, store, hy]
    · simp only [lookup, store, List.find?_cons, hy, decide_false, List.map_cons, if_false] at h ih ⊢
      exact ih h

/-- An update by key does not change what other keys find. -/
theorem lookup_store_of_ne (h : k ≠ key r) :
    lookup key k (store key r rows) = lookup key k rows := by
  induction rows with
  | nil => rfl
  | cons y rows ih =>
    by_cases hy : key y = key r
    · simp only [lookup, store, List.find?_cons, List.map_cons, hy, if_true, h.symm, decide_false]
        at ih ⊢
      exact ih
    · simp only [lookup, store, List.find?_cons, List.map_cons, hy, if_false] at ih ⊢
      rw [ih]

omit [DecidableEq κ] in

/-- An update keeps the keys if its function does. -/
theorem map_key_updateWhere {p : ρ → Bool} {f : ρ → ρ} (h : ∀ x, key (f x) = key x) :
    (updateWhere p f rows).map key = rows.map key := by
  simp only [updateWhere, List.map_map]
  refine List.map_congr_left fun x _ => ?_
  by_cases hp : p x <;> simp [hp, h]

/-- The rows after an update. -/
theorem mem_updateWhere {p : ρ → Bool} {f : ρ → ρ} :
    x ∈ updateWhere p f rows ↔ (x ∈ rows ∧ p x = false) ∨ ∃ y ∈ rows, p y = true ∧ f y = x := by
  simp only [updateWhere, List.mem_map]
  constructor
  · rintro ⟨y, hy, rfl⟩
    cases hp : p y with
    | false => exact Or.inl ⟨by simpa [hp] using hy, by simp [hp]⟩
    | true => exact Or.inr ⟨y, hy, hp, by simp⟩
  · rintro (⟨hx, hp⟩ | ⟨y, hy, hp, rfl⟩)
    · exact ⟨x, hx, by simp [hp]⟩
    · exact ⟨y, hy, by simp [hp]⟩

/-- An update that meets no row changes nothing. -/
theorem updateWhere_eq_self {p : ρ → Bool} {f : ρ → ρ} (h : ∀ x ∈ rows, p x = true → f x = x) :
    updateWhere p f rows = rows := by
  unfold updateWhere
  conv_rhs => rw [← List.map_id rows]
  refine List.map_congr_left fun x hx => ?_
  by_cases hp : p x = true
  · simp [hp, h x hx hp]
  · simp [hp]

/-- An update by key does not show in a query that neither the new row nor the rows of its key
answer. -/
theorem filter_store {p : ρ → Bool} (hr : p r = false)
    (hrows : ∀ x ∈ rows, key x = key r → p x = false) :
    (store key r rows).filter p = rows.filter p := by
  induction rows with
  | nil => rfl
  | cons y rows ih =>
    have htail := ih fun x hx => hrows x (List.mem_cons_of_mem _ hx)
    rw [store, List.map_cons]
    by_cases hy : key y = key r
    · rw [if_pos hy, List.filter_cons_of_neg (by simp [hr]),
        List.filter_cons_of_neg (by simp [hrows y List.mem_cons_self hy])]
      exact htail
    · rw [if_neg hy, List.filter_cons, List.filter_cons]
      exact congrArg (fun l => if p y then y :: l else l) htail

/-- An update that keeps the keys updates what they find. -/
theorem lookup_map {f : ρ → ρ} (h : ∀ x, key (f x) = key x) :
    lookup key k (rows.map f) = (lookup key k rows).map f := by
  unfold lookup
  rw [List.find?_map]
  have hsame : (fun x => decide (key x = k)) ∘ f = fun x => decide (key x = k) := by
    funext x
    simp only [Function.comp_apply, h x]
  rw [hsame]

/-! ## Delete -/

/-- A delete does not show in a query that no deleted row answers. -/
theorem filter_deleteWhere {p q : ρ → Bool} (h : ∀ x ∈ rows, q x = true → p x = false) :
    (deleteWhere q rows).filter p = rows.filter p := by
  unfold deleteWhere
  rw [List.filter_filter]
  refine List.filter_congr fun x hx => ?_
  by_cases hq : q x = true
  · simp [h x hx hq]
  · simp [hq]

/-- The rows after a deletion. -/
theorem mem_deleteWhere {p : ρ → Bool} : x ∈ deleteWhere p rows ↔ x ∈ rows ∧ p x = false := by
  simp [deleteWhere]

/-- They stand in their order. -/
theorem deleteWhere_sublist (p : ρ → Bool) (rows : List ρ) :
    (deleteWhere p rows).Sublist rows := List.filter_sublist

/-- A delete that meets no row changes nothing. -/
theorem deleteWhere_eq_self {p : ρ → Bool} :
    deleteWhere p rows = rows ↔ ∀ x ∈ rows, p x = false := by
  simp [deleteWhere, List.filter_eq_self]

/-- A delete does not change what the keys it spares find. -/
theorem lookup_deleteWhere {p : ρ → Bool} (h : ∀ x ∈ rows, key x = k → p x = false) :
    lookup key k (deleteWhere p rows) = lookup key k rows := by
  induction rows with
  | nil => rfl
  | cons y rows ih =>
    have htail := ih fun x hx => h x (List.mem_cons_of_mem _ hx)
    unfold lookup deleteWhere at htail ⊢
    by_cases hy : key y = k
    · simp [h y List.mem_cons_self hy, hy]
    · rw [List.find?_cons_of_neg (by simpa using hy), ← htail, List.filter_cons]
      split
      · exact List.find?_cons_of_neg (by simpa using hy)
      · rfl

omit [DecidableEq κ] in

/-- Two deletions are one. -/
theorem deleteWhere_deleteWhere {p q : ρ → Bool} :
    deleteWhere q (deleteWhere p rows) = deleteWhere (fun x => p x || q x) rows := by
  simp [deleteWhere, List.filter_filter, Bool.and_comm]

/-! ## Insert -/

/-- An insert shows under the key of the new row, when no row has it. -/
theorem lookup_append (h : ∀ x ∈ rows, key x ≠ key r) :
    (fun k => lookup key k (rows ++ [r])) =
      Function.update (fun k => lookup key k rows) (key r) (some r) := by
  funext k
  unfold lookup
  rw [List.find?_append]
  by_cases hk : k = key r
  · subst hk
    rw [Function.update_self]
    have hnone : rows.find? (fun x => decide (key x = key r)) = none := by
      simpa [List.find?_eq_none] using h
    rw [hnone]
    simp
  · rw [Function.update_of_ne hk]
    have hlast : [r].find? (fun x => decide (key x = k)) = none := by
      simp [Ne.symm hk]
    rw [hlast, Option.or_none]

/-- An insert does not change what other keys find. -/
theorem lookup_append_of_ne (h : key r ≠ k) : lookup key k (rows ++ [r]) = lookup key k rows := by
  unfold lookup
  rw [List.find?_append]
  have hlast : [r].find? (fun x => decide (key x = k)) = none := by simp [h]
  rw [hlast, Option.or_none]

/-- An insert comes behind what a key finds already. -/
theorem lookup_append_of_some (h : lookup key k rows = some x) :
    lookup key k (rows ++ [r]) = some x := by
  unfold lookup at h ⊢
  rw [List.find?_append, h, Option.some_or]

omit [DecidableEq κ] in
/-- An insert keeps the keys distinct when the new row's key is fresh. -/
theorem nodup_keys_append :
    ((rows ++ [r]).map key).Nodup ↔ (rows.map key).Nodup ∧ ∀ x ∈ rows, key x ≠ key r := by
  rw [List.map_append, List.nodup_append]
  simp only [List.map_cons, List.map_nil, List.mem_map, List.mem_singleton, forall_eq,
    forall_exists_index, and_imp, forall_apply_eq_imp_iff₂]
  exact ⟨fun h => ⟨h.1, h.2.2⟩, fun h => ⟨h.1, List.nodup_singleton _, h.2⟩⟩

/-! ## Unique indexes -/

section Unique

variable {ι : Type*} {index : ρ → ι}

omit [DecidableEq κ] in
/-- Rows of one index value have one key. -/
def Unique (key : ρ → κ) (index : ρ → ι) (rows : List ρ) : Prop :=
  ∀ x ∈ rows, ∀ y ∈ rows, index x = index y → key x = key y

/-- Whether an index is unique can be decided. -/
instance [DecidableEq ι] : Decidable (Unique key index rows) :=
  inferInstanceAs (Decidable (∀ x ∈ rows, ∀ y ∈ rows, index x = index y → key x = key y))

omit [DecidableEq κ] in
/-- **An insert keeps the index** when no row has the new row's value. -/
theorem unique_append (hr : ∀ x ∈ rows, key x ≠ key r) :
    Unique key index (rows ++ [r]) ↔ Unique key index rows ∧ ∀ x ∈ rows, index x ≠ index r := by
  constructor
  · intro h
    refine ⟨fun x hx y hy => h x (List.mem_append_left _ hx) y (List.mem_append_left _ hy), ?_⟩
    intro x hx heq
    exact hr x hx (h x (List.mem_append_left _ hx) r (by simp) heq)
  · rintro ⟨h, hnew⟩ x hx y hy heq
    rw [List.mem_append, List.mem_singleton] at hx hy
    rcases hx with hx | rfl
    · rcases hy with hy | rfl
      · exact h x hx y hy heq
      · exact absurd heq (hnew x hx)
    · rcases hy with hy | rfl
      · exact absurd heq.symm (hnew y hy)
      · rfl

/-- **An update by key keeps the index** when no other row has the new value. -/
theorem unique_updateWhere {f : ρ → ρ} {value : ι} (h : Unique key index rows)
    (hkey : ∀ x, key (f x) = key x) (hk : ∃ x ∈ rows, key x = k)
    (hvalue : ∀ x ∈ rows, key x = k → index (f x) = value) :
    Unique key index (updateWhere (fun x => decide (key x = k)) f rows) ↔
      ∀ x ∈ rows, key x ≠ k → index x ≠ value := by
  constructor
  · rintro hnew x hx hne heq
    obtain ⟨y, hy, rfl⟩ := hk
    have hother : x ∈ updateWhere (fun z => decide (key z = key y)) f rows :=
      mem_updateWhere.mpr (Or.inl ⟨hx, by simpa using hne⟩)
    have hupdated : f y ∈ updateWhere (fun z => decide (key z = key y)) f rows :=
      mem_updateWhere.mpr (Or.inr ⟨y, hy, by simp, rfl⟩)
    exact hne ((hnew x hother _ hupdated (heq.trans (hvalue y hy rfl).symm)).trans (hkey y))
  · intro hfree x hx y hy heq
    rcases mem_updateWhere.mp hx with ⟨hx, hxk⟩ | ⟨x₀, hx₀, hxk, rfl⟩
    · rw [decide_eq_false_iff_not] at hxk
      rcases mem_updateWhere.mp hy with ⟨hy, -⟩ | ⟨y₀, hy₀, hyk, rfl⟩
      · exact h x hx y hy heq
      · exact absurd (heq.trans (hvalue y₀ hy₀ (of_decide_eq_true hyk))) (hfree x hx hxk)
    · rcases mem_updateWhere.mp hy with ⟨hy, hyk⟩ | ⟨y₀, hy₀, hyk, rfl⟩
      · rw [decide_eq_false_iff_not] at hyk
        exact absurd (heq.symm.trans (hvalue x₀ hx₀ (of_decide_eq_true hxk))) (hfree y hy hyk)
      · rw [hkey, hkey, of_decide_eq_true hxk, of_decide_eq_true hyk]

omit [DecidableEq κ] in

/-- Deletions keep it unique. -/
theorem Unique.deleteWhere {p : ρ → Bool} (h : Unique key index rows) :
    Unique key index (deleteWhere p rows) := fun x hx y hy =>
  h x (mem_deleteWhere.mp hx).1 y (mem_deleteWhere.mp hy).1

end Unique

end Table
