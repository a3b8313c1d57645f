import Mathlib.Algebra.GroupWithZero.Nat
import Mathlib.Algebra.BigOperators.Group.List.Basic
import Mathlib.Data.List.Dedup
import Mathlib.Data.List.Sort

set_option relaxedAutoImplicit false
set_option autoImplicit false

/-!
# Queries

Conditions in the three-valued logic of SQL, and what the clauses of a query make of the rows of its
tables. A column that may be null is an `Option`. The order of rows that `ORDER BY` leaves open is
that of the table.

## Main definitions

* `Sql.Truth`, `Sql.Truth.or`, `Sql.equal`, `Sql.isIn` — conditions.
* `Sql.where_`, `Sql.join`, `Sql.groupCount` — clauses.

## Main results

* `Sql.isIn_eq_true`, `Sql.Truth.or_eq_true` — the conditions that hold.
* `Sql.filter_mergeSort` — rows may be selected before they are ordered, or after.
* `Sql.countP_join` — the rows of a join are counted from either side.
* `Sql.lookup_groupCount` — a grouped count has, for each group, the count of its rows.
-/

namespace Sql

variable {α β κ : Type*}

/-! ## Conditions -/

/-- The value of a condition. -/
inductive Truth where
  | true | false | unknown
  deriving DecidableEq

/-- `a OR b`. -/
def Truth.or : Truth → Truth → Truth
  | .true, _ => .true
  | _, .true => .true
  | .false, .false => .false
  | _, _ => .unknown

/-- A row of which the condition is unknown is left out, as if it were false. -/
def Truth.holds (t : Truth) : Bool := decide (t = .true)

/-- A condition holds only if it is true. -/
@[simp] theorem Truth.holds_iff {t : Truth} : t.holds = Bool.true ↔ t = .true := decide_eq_true_iff

/-- A disjunction is true if one of its parts is. -/
theorem Truth.or_eq_true {a b : Truth} : a.or b = .true ↔ a = .true ∨ b = .true := by
  cases a <;> cases b <;> simp [Truth.or]

/-- `a = b`. -/
def equal [DecidableEq α] : Option α → Option α → Truth
  | some a, some b => if a = b then .true else .false
  | _, _ => .unknown

/-- `a IN (..)`: a chain of `OR`, which is false for no alternatives. -/
def isIn [DecidableEq α] (a : Option α) (values : List α) : Truth :=
  values.foldr (fun v t => (equal a (some v)).or t) .false

section Conditions

variable [DecidableEq α] {a : Option α} {v : α} {values : List α}

/-- `=` is true of the value itself only. -/
theorem equal_eq_true : equal a (some v) = .true ↔ a = some v := by
  cases a with
  | none => simp [equal]
  | some x =>
    rw [equal, Option.some_inj]
    split_ifs with h <;> simp [h]

/-- **`IN` holds** of a value that is not null and is one of the alternatives. -/
theorem isIn_eq_true : isIn a values = .true ↔ ∃ v ∈ values, a = some v := by
  induction values with
  | nil => simp [isIn]
  | cons v values ih =>
    have hstep : isIn a (v :: values) = (equal a (some v)).or (isIn a values) := rfl
    rw [hstep, Truth.or_eq_true, equal_eq_true, ih, List.exists_mem_cons_iff]

/-- Null is in no list; the condition is not false either. -/
theorem isIn_null (h : values ≠ []) : isIn (none : Option α) values = .unknown := by
  induction values with
  | nil => exact absurd rfl h
  | cons v values ih =>
    have hstep : isIn none (v :: values) = Truth.unknown.or (isIn none values) := rfl
    rw [hstep]
    cases values with
    | nil => rfl
    | cons u values => rw [ih (List.cons_ne_nil _ _)]; rfl

end Conditions

/-! ## Clauses -/

/-- `WHERE`. -/
def where_ (condition : α → Truth) (rows : List α) : List α :=
  rows.filter fun r => (condition r).holds

/-- `JOIN .. ON`. -/
def join (on : α → β → Bool) (left : List α) (right : List β) : List (α × β) :=
  left.flatMap fun l => (right.filter (on l)).map fun r => (l, r)

/-- `SELECT key, count(*) .. GROUP BY key`. -/
def groupCount [DecidableEq κ] (key : α → κ) (rows : List α) : List (κ × ℕ) :=
  (rows.map key).dedup.map fun k => (k, rows.countP fun r => decide (key r = k))

section Clauses

variable {p : α → Bool} (le : α → α → Bool)

/-- The rows before and after `a` in a sorted list, of which those before are not past it, are told
by their order with it. -/
lemma filter_before {a : α} {before after : List α} (hbefore : ∀ b ∈ before, le a b = false)
    (hafter : ∀ b ∈ after, le a b = true) :
    (before ++ after).filter (fun b => !le a b) = before ∧
      (before ++ after).filter (fun b => le a b) = after := by
  rw [List.filter_append, List.filter_append]
  constructor
  · rw [List.filter_eq_self.mpr fun b hb => by rw [hbefore b hb, Bool.not_false],
      List.filter_eq_nil_iff.mpr fun b hb => by rw [hafter b hb]; decide, List.append_nil]
  · rw [List.filter_eq_nil_iff.mpr fun b hb => by rw [hbefore b hb]; decide,
      List.filter_eq_self.mpr hafter, List.nil_append]

/-- **Selecting and ordering** commute. -/
theorem filter_mergeSort (htrans : ∀ a b c, le a b = true → le b c = true → le a c = true)
    (htotal : ∀ a b, (le a b || le b a) = true) (rows : List α) :
    (rows.mergeSort le).filter p = (rows.filter p).mergeSort le := by
  induction rows with
  | nil => rw [List.mergeSort_nil, List.filter_nil, List.mergeSort_nil]
  | cons a rows ih =>
    obtain ⟨before, after, hsort, hrest, hbefore⟩ := List.mergeSort_cons htrans htotal a rows
    rw [hrest, List.filter_append] at ih
    rw [hsort, List.filter_append, List.filter_cons, List.filter_cons]
    by_cases ha : p a = true
    · obtain ⟨before', after', hsort', hrest', hbefore'⟩ :=
        List.mergeSort_cons htrans htotal a (rows.filter p)
      have hordered : ∀ {x y : List α} {l : List α}, l.mergeSort le = x ++ a :: y →
          ∀ b ∈ y, le a b = true := by
        intro x y l h b hb
        have hpairs := List.pairwise_mergeSort htrans htotal l
        rw [h, List.pairwise_append] at hpairs
        exact List.rel_of_pairwise_cons hpairs.2.1 hb
      -- `a` cuts the selected rows in one place only
      have hunder : ∀ b ∈ before.filter p, le a b = false := fun b hb => by
        simpa using hbefore b (List.mem_of_mem_filter hb)
      have hunder' : ∀ b ∈ before', le a b = false := fun b hb => by simpa using hbefore' b hb
      have hover : ∀ b ∈ after.filter p, le a b = true := fun b hb =>
        hordered hsort b (List.mem_of_mem_filter hb)
      have hcut := filter_before le hunder hover
      have hcut' := filter_before le hunder' (hordered hsort')
      rw [← hrest', ← ih] at hcut'
      rw [if_pos ha, if_pos ha, hsort', ← hcut'.1, ← hcut'.2, hcut.1, hcut.2]
    · rw [if_neg ha, if_neg ha, ih]

/-- **The rows of a join** that answer a query, counted from the right. -/
theorem countP_join (on : α → β → Bool) (left : List α) (right : List β) (q : α × β → Bool) :
    (join on left right).countP q =
      (right.map fun r => left.countP fun l => on l r && q (l, r)).sum := by
  induction left with
  | nil => simp [join]
  | cons l left ih =>
    have hstep : join on (l :: left) right =
        ((right.filter (on l)).map fun r => (l, r)) ++ join on left right := rfl
    have hfirst : ((right.filter (on l)).map fun r => (l, r)).countP q =
        (right.map fun r => if on l r && q (l, r) then 1 else 0).sum := by
      rw [List.countP_map, List.countP_filter]
      clear hstep ih
      induction right with
      | nil => rfl
      | cons r right ih =>
        rw [List.countP_cons, ih, List.map_cons, List.sum_cons, Nat.add_comm]
        simp only [Function.comp_apply, Bool.and_comm]
    rw [hstep, List.countP_append, hfirst, ih, ← List.sum_map_add]
    refine congrArg List.sum (List.map_congr_left fun r _ => ?_)
    rw [List.countP_cons, Nat.add_comm]

/-- A count is the sum of what each row adds. -/
theorem sum_map_ite (q : α → Bool) (rows : List α) :
    (rows.map fun r => if q r then 1 else 0).sum = rows.countP q := by
  induction rows with
  | nil => rfl
  | cons r rows ih => rw [List.map_cons, List.sum_cons, ih, List.countP_cons, Nat.add_comm]

/-- **A grouped count**: the group of `k`, which is left out when it is empty, has the count of its
rows. -/
theorem lookup_groupCount [DecidableEq κ] (key : α → κ) (rows : List α) (k : κ) :
    ((groupCount key rows).lookup k).getD 0 = rows.countP fun r => decide (key r = k) := by
  unfold groupCount
  have hlookup : ∀ keys : List κ,
      ((keys.map fun k => (k, rows.countP fun r => decide (key r = k))).lookup k) =
        if k ∈ keys then some (rows.countP fun r => decide (key r = k)) else none := by
    intro keys
    induction keys with
    | nil => rfl
    | cons x keys ih =>
      rw [List.map_cons, List.lookup_cons]
      by_cases hx : k = x
      · subst hx
        simp
      · rw [beq_false_of_ne hx, ih]
        simp [hx]
  rw [hlookup]
  split_ifs with h
  · rfl
  · refine (List.countP_eq_zero.mpr fun r hr hkey => h (List.mem_dedup.mpr ?_)).symm
    rw [← of_decide_eq_true hkey]
    exact List.mem_map_of_mem hr

end Clauses

end Sql
