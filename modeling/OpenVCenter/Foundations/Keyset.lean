import Mathlib.Data.List.Sort
import Mathlib.Data.List.TakeDrop

set_option relaxedAutoImplicit false
set_option autoImplicit false

/-!
# Keyset pagination

A list of rows with distinct keys is read a page at a time, from the greatest key down. Each page
but the last ends with a cursor, made from its last row; the next page has the rows below it.

## Main definitions

* `Keyset.descending` — the rows from the greatest key down.
* `Keyset.cut` — the first page of a list, with a cursor unless it is the last.
* `Keyset.walk` — the rows of all the pages, from a cursor on.

## Main results

* `Keyset.descending_below` — the rows below a row of the list are the ones that come after it.
* `Keyset.walk_eq` — **the pages visit every row once**, from the greatest key down.
-/

namespace Keyset

universe u v w

variable {α : Type u} {κ : Type v} {γ : Type u} {ε : Type w} [LinearOrder κ]

/-- The rows from the greatest key down. -/
def descending (key : α → κ) (rows : List α) : List α :=
  rows.mergeSort fun a b => decide (key b ≤ key a)

/-- The first `limit` rows, and a cursor made from the last of them if there are more. -/
def cut (encode : α → γ) (limit : ℕ) (rows : List α) : List α × Option γ :=
  if limit < rows.length then (rows.take limit, ((rows.take limit).getLast?).map encode)
  else (rows, none)

/-- The rows of the pages from a cursor on; none if there are more than `fuel` pages. -/
def walk (page : Option γ → Except ε (List α × Option γ)) :
    ℕ → Option γ → Except ε (Option (List α))
  | 0, _ => .ok none
  | fuel + 1, cursor =>
    match page cursor with
    | .error e => .error e
    | .ok (rows, none) => .ok (some rows)
    | .ok (rows, some next) =>
      match walk page fuel (some next) with
      | .error e => .error e
      | .ok rest => .ok (rest.map fun rest => rows ++ rest)

section Descending

variable {key : α → κ} {rows : List α}

/-- `descending` reorders the rows. -/
theorem descending_perm : (descending key rows).Perm rows := List.mergeSort_perm rows _

/-- Their keys descend. -/
theorem descending_pairwise_le : (descending key rows).Pairwise fun a b => key b ≤ key a := by
  have hsorted : (descending key rows).Pairwise fun a b => decide (key b ≤ key a) = true :=
    List.pairwise_mergeSort
      (fun a b c hab hbc => by
        simp only [decide_eq_true_eq] at hab hbc ⊢
        exact hbc.trans hab)
      (fun a b => by
        simp only [Bool.or_eq_true, decide_eq_true_eq]
        exact le_total (key b) (key a)) rows
  simpa only [decide_eq_true_eq] using hsorted

/-- With distinct keys the order is strict. -/
theorem descending_pairwise (h : (rows.map key).Nodup) :
    (descending key rows).Pairwise fun a b => key b < key a := by
  have hnodup : ((descending key rows).map key).Nodup :=
    (descending_perm.map key).nodup_iff.mpr h
  have hne : (descending key rows).Pairwise fun a b => key a ≠ key b := List.pairwise_map.mp hnodup
  exact (descending_pairwise_le.and hne).imp fun ⟨hle, hne⟩ => lt_of_le_of_ne hle hne.symm

/-- A strictly descending list is determined by its rows. -/
theorem eq_of_perm_of_pairwise {xs ys : List α} (h : xs.Perm ys)
    (hx : xs.Pairwise fun a b => key b < key a) (hy : ys.Pairwise fun a b => key b < key a) :
    xs = ys :=
  h.eq_of_pairwise (fun _ _ _ _ hab hba => absurd hab (lt_asymm hba)) hx hy

/-- **The rows below a row** are the ones that come after it. -/
theorem descending_below (h : (rows.map key).Nodup) {first rest : List α} {last : α}
    (hsplit : descending key rows = first ++ last :: rest) :
    descending key (rows.filter fun a => decide (key a < key last)) = rest := by
  have hstrict := descending_pairwise h
  rw [hsplit] at hstrict
  obtain ⟨hfirst, hlast, hcross⟩ := List.pairwise_append.mp hstrict
  obtain ⟨hbelow, hrest⟩ := List.pairwise_cons.mp hlast
  have hfilter : (descending key rows).filter (fun a => decide (key a < key last)) = rest := by
    rw [hsplit, List.filter_append, List.filter_cons_of_neg (by simp)]
    have hnone : first.filter (fun a => decide (key a < key last)) = [] := by
      refine List.filter_eq_nil_iff.mpr fun a ha => ?_
      have hlt := hcross a ha last List.mem_cons_self
      simpa using hlt.le
    have hall : rest.filter (fun a => decide (key a < key last)) = rest :=
      List.filter_eq_self.mpr fun a ha => by simpa using hbelow a ha
    rw [hnone, hall, List.nil_append]
  have hperm : (descending key (rows.filter fun a => decide (key a < key last))).Perm rest := by
    refine descending_perm.trans ?_
    rw [← hfilter]
    exact (descending_perm.symm.filter _)
  have hnodup : ((rows.filter fun a => decide (key a < key last)).map key).Nodup :=
    h.sublist (List.filter_sublist.map key)
  exact eq_of_perm_of_pairwise hperm (descending_pairwise hnodup) hrest

end Descending

section Walk

variable {key : α → κ} {rows : List α} {encode : α → γ} {limit : ℕ}
  {page : Option γ → Except ε (List α × Option γ)}

/-- The pages from a cursor on visit the rest of the rows. -/
private lemma walk_rest (h : (rows.map key).Nodup) (hlimit : 1 ≤ limit)
    (hnext : ∀ a ∈ rows, page (some (encode a)) =
      .ok (cut encode limit (descending key (rows.filter fun b => decide (key b < key a)))))
    (fuel : ℕ) (cursor : Option γ) (first rest : List α)
    (hsplit : descending key rows = first ++ rest)
    (hpage : page cursor = .ok (cut encode limit rest)) (hfuel : rest.length < fuel) :
    walk page fuel cursor = .ok (some rest) := by
  induction fuel generalizing cursor first rest with
  | zero => exact absurd hfuel (Nat.not_lt_zero _)
  | succ fuel ih =>
    unfold walk
    rw [hpage]
    by_cases hmore : limit < rest.length
    · obtain ⟨front, last, hlast⟩ : ∃ front last, rest.take limit = front ++ [last] := by
        refine ⟨_, _, (List.dropLast_append_getLast ?_).symm⟩
        rw [ne_eq, List.take_eq_nil_iff, not_or]
        exact ⟨by omega, List.ne_nil_of_length_pos (by omega)⟩
      have hcut : cut encode limit rest = (rest.take limit, some (encode last)) := by
        unfold cut
        rw [if_pos hmore, hlast, List.getLast?_concat, Option.map_some]
      have hrest : rest = front ++ last :: rest.drop limit := by
        conv_lhs => rw [← List.take_append_drop limit rest, hlast, List.append_assoc]
        rfl
      have hwhole : descending key rows = (first ++ front) ++ last :: rest.drop limit := by
        rw [hsplit, List.append_assoc, ← hrest]
      have hmem : last ∈ rows := by
        have hlisted : last ∈ descending key rows := by
          rw [hwhole]
          exact List.mem_append_right _ List.mem_cons_self
        exact descending_perm.mem_iff.mp hlisted
      have hstep := ih (some (encode last)) (first ++ front ++ [last]) (rest.drop limit)
        (by rw [hwhole, List.append_assoc _ [last], List.singleton_append])
        (by rw [hnext last hmem, descending_below h hwhole])
        (by rw [List.length_drop]; omega)
      simp only [hcut, hstep, Option.map_some, List.take_append_drop]
    · have hcut : cut encode limit rest = (rest, none) := by
        unfold cut
        rw [if_neg hmore]
      simp only [hcut]

/-- **The pages visit every row once**, from the greatest key down, for a listing whose first page
is cut from all the rows, and whose page at a cursor is cut from the rows below the cursor's row. -/
theorem walk_eq (h : (rows.map key).Nodup) (hlimit : 1 ≤ limit)
    (hfirst : page none = .ok (cut encode limit (descending key rows)))
    (hnext : ∀ a ∈ rows, page (some (encode a)) =
      .ok (cut encode limit (descending key (rows.filter fun b => decide (key b < key a)))))
    {fuel : ℕ} (hfuel : rows.length < fuel) :
    walk page fuel none = .ok (some (descending key rows)) :=
  walk_rest h hlimit hnext fuel none [] _ rfl hfirst (by rwa [descending_perm.length_eq])

end Walk

end Keyset
