import Mathlib.Data.List.TakeWhile

set_option relaxedAutoImplicit false
set_option autoImplicit false

/-!
# Parting a text at a separator

A text is parted at the first or at the last place where a separator stands. Where it does not stand
anywhere, the text is the first part, or the last one.

## Main definitions

* `Partition.first`, `Partition.last` — the part in front of the separator, whether it is there, and
  the part behind it.

## Main results

* `Partition.first_append`, `Partition.last_append` — a text that is put together is parted again.
-/

universe u

namespace Partition

variable {α : Type u} [DecidableEq α]

/-- Part a text where the separator stands first. -/
def first (sep : α) (text : List α) : List α × Bool × List α :=
  (text.takeWhile fun a => decide (a ≠ sep), decide (sep ∈ text),
    (text.dropWhile fun a => decide (a ≠ sep)).drop 1)

/-- Part a text where the separator stands last. -/
def last (sep : α) (text : List α) : List α × Bool × List α :=
  if sep ∈ text then
    (((text.reverse.dropWhile fun a => decide (a ≠ sep)).drop 1).reverse, true,
      (text.reverse.takeWhile fun a => decide (a ≠ sep)).reverse)
  else ([], false, text)

variable {sep : α} {before after text : List α}

/-- What stands before the first separator. -/
private lemma takeWhile_ne (h : sep ∉ before) :
    (before ++ sep :: after).takeWhile (fun a => decide (a ≠ sep)) = before := by
  rw [List.takeWhile_append_of_pos fun a ha => by simpa using ne_of_mem_of_not_mem ha h]
  simp

/-- The rest from it on. -/
private lemma dropWhile_ne (h : sep ∉ before) :
    (before ++ sep :: after).dropWhile (fun a => decide (a ≠ sep)) = sep :: after := by
  rw [List.dropWhile_append_of_pos fun a ha => by simpa using ne_of_mem_of_not_mem ha h]
  simp

/-- **Parting at the first separator.** -/
theorem first_append (h : sep ∉ before) :
    first sep (before ++ sep :: after) = (before, true, after) := by
  unfold first
  rw [takeWhile_ne h, dropWhile_ne h]
  simp

/-- A text without the separator is the first part. -/
theorem first_of_not_mem (h : sep ∉ text) : first sep text = (text, false, []) := by
  have htake : text.takeWhile (fun a => decide (a ≠ sep)) = text :=
    List.takeWhile_eq_self_iff.mpr fun a ha => by simpa using ne_of_mem_of_not_mem ha h
  have hdrop : text.dropWhile (fun a => decide (a ≠ sep)) = [] :=
    List.dropWhile_eq_nil_iff.mpr fun a ha => by simpa using ne_of_mem_of_not_mem ha h
  unfold first
  rw [htake, hdrop]
  simp [h]

/-- A text with the separator is put together again. -/
theorem eq_of_mem (h : sep ∈ text) : text = (first sep text).1 ++ sep :: (first sep text).2.2 := by
  obtain ⟨before, after, rfl, hnot⟩ := List.eq_append_cons_of_mem h
  rw [first_append hnot]

/-- What stands in front of the separator is longer by a text without it. -/
theorem first_fst_append (h : sep ∉ before) :
    (first sep (before ++ text)).1 = before ++ (first sep text).1 :=
  List.takeWhile_append_of_pos fun a ha => by simpa using ne_of_mem_of_not_mem ha h

/-- A character before the separator. -/
theorem first_fst_cons {a : α} (h : a ≠ sep) :
    (first sep (a :: text)).1 = a :: (first sep text).1 := by
  have hone : sep ∉ [a] := by simpa using h.symm
  exact first_fst_append hone

/-- A text may start with the separator. -/
theorem first_cons_self : first sep (sep :: text) = ([], true, text) :=
  first_append List.not_mem_nil

/-- The first part is without the separator. -/
theorem not_mem_first (sep : α) (text : List α) : sep ∉ (first sep text).1 := by
  intro hmem
  have hne := List.mem_takeWhile_imp hmem
  simp at hne

/-- The first part is a part of the text. -/
theorem mem_of_mem_first {a : α} (h : a ∈ (first sep text).1) : a ∈ text :=
  (List.takeWhile_prefix _).subset h

/-- **Parting at the last separator.** -/
theorem last_append (h : sep ∉ after) :
    last sep (before ++ sep :: after) = (before, true, after) := by
  have hreverse : (before ++ sep :: after).reverse = after.reverse ++ sep :: before.reverse := by
    simp
  have hnot : sep ∉ after.reverse := fun hmem => h (List.mem_reverse.mp hmem)
  unfold last
  rw [if_pos (by simp), hreverse, takeWhile_ne hnot, dropWhile_ne hnot]
  simp

/-- A text without the separator is the last part. -/
theorem last_of_not_mem (h : sep ∉ text) : last sep text = ([], false, text) := if_neg h

end Partition
